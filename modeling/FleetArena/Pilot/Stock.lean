import FleetArena.Pilot.Hunter
import FleetArena.Pilot.Idle
import FleetArena.Pilot.Wanderer

/-! The pilots that every registry can offer, and fleets that mix kinds of pilots. -/
namespace FleetArena

/-- A pilot of one of the kinds of this library. -/
inductive StockPilot (α : Type) where
  | idle (pilot : Idle)
  | wanderer (pilot : Wanderer α)
  | hunter (pilot : Hunter α)
deriving Repr, DecidableEq

variable {α : Type} [Scalar α]

def StockPilot.plan : StockPilot α → Plan α (StockPilot α)
  | .idle p => return .idle (← p.plan)
  | .wanderer p => return .wanderer (← p.plan)
  | .hunter p => return .hunter (← p.plan)

instance : Pilot α (StockPilot α) where
  tick _ p := p.plan

instance {π ρ : Type} [Pilot α π] [Pilot α ρ] : Pilot α (π ⊕ ρ) where
  joinFleet fleet
    | .inl p => .inl (Pilot.joinFleet α fleet p)
    | .inr p => .inr (Pilot.joinFleet α fleet p)
  link catalog dt entries
    | .inl p => (Pilot.link catalog dt entries p).map fun (parts, p) => (parts, .inl p)
    | .inr p => (Pilot.link catalog dt entries p).map fun (parts, p) => (parts, .inr p)
  tick n
    | .inl p => return .inl (← Pilot.tick n p)
    | .inr p => return .inr (← Pilot.tick n p)

end FleetArena
