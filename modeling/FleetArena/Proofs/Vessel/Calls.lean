import FleetArena.Proofs.Vessel.Charge

/-! The calls by which a pilot commands a vessel, one after the other within a tick. -/
namespace FleetArena
variable {α : Type} [Scalar α]

/-- A request to a vessel that may change it. -/
inductive Call (α : Type) where
  | act (action : Action α)
  | scan (sensor : Nat)
deriving Repr, DecidableEq

namespace Vessel

/-- A vessel after a call, and whether the call succeeded. -/
def call (v : Vessel α) (tick : Nat) (world : World α) : Call α → Vessel α × Bool
  | .act action => ((v.act tick action).1, (v.act tick action).2.isOk)
  | .scan i => ((v.scan world i).1, (v.scan world i).2.isOk)

/-- What a call asks for, if it comes to that. Engines are free. -/
def price? (v : Vessel α) (tick : Nat) : Call α → Option α
  | .act (.powerOn _ _) => none
  | .act (.thrust i direction) => v.loadout.thrusters[i]?.bind (·.price? v.hull direction)
  | .act (.fire i direction) => v.loadout.weapons[i]?.bind (·.price? tick direction)
  | .scan i => v.loadout.sensors[i]?.bind (·.price?)

theorem charged_call (v : Vessel α) (tick : Nat) (world : World α) (c : Call α) :
    v.hull.Charged (v.price? tick c) (v.call tick world c).2 (v.call tick world c).1.hull := by
  match c with
  | .act (.powerOn i fraction) =>
    cases h : v.loadout.engines[i]? <;> simpa [call, act, price?, h] using .free _
  | .act (.thrust i direction) =>
    cases h : v.loadout.thrusters[i]? with
    | none => simpa [call, act, price?, h] using .free _
    | some thruster => simpa [call, act, price?, h] using thruster.charged_thrust v.hull direction
  | .act (.fire i direction) =>
    cases h : v.loadout.weapons[i]? with
    | none => simpa [call, act, price?, h] using .free _
    | some weapon =>
      have hfire := weapon.charged_fire v.hull tick direction
      cases hr : (weapon.fire v.hull tick direction).2.2 with
      | error e =>
        rw [hr] at hfire
        simp only [call, act, price?, h, hr, Option.bind_some]
        exact hfire
      | ok shot =>
        rw [hr] at hfire
        simp only [call, act, price?, h, hr, Option.bind_some]
        exact hfire
  | .scan i =>
    cases h : v.loadout.sensors[i]? with
    | none => simpa [call, scan, price?, h] using .free _
    | some sensor => simpa [call, scan, price?, h] using sensor.charged_scan v.hull world

theorem keeps_call (v : Vessel α) (tick : Nat) (world : World α) (c : Call α) :
    v.hull.Keeps (v.call tick world c).1.hull :=
  (v.charged_call tick world c).keeps

/-- A vessel after calls, one after the other. -/
def calls (tick : Nat) (world : World α) : List (Call α) → Vessel α → Vessel α
  | [], v => v
  | c :: rest, v => calls tick world rest (v.call tick world c).1

theorem calls_append (tick : Nat) (world : World α) (cs ds : List (Call α)) (v : Vessel α) :
    v.calls tick world (cs ++ ds) = (v.calls tick world cs).calls tick world ds := by
  induction cs generalizing v with
  | nil => rfl
  | cons c rest ih => exact ih _

theorem keeps_calls (tick : Nat) (world : World α) (cs : List (Call α)) (v : Vessel α) :
    v.hull.Keeps (v.calls tick world cs).hull := by
  induction cs generalizing v with
  | nil => exact .refl _
  | cons c rest ih => exact (v.keeps_call tick world c).trans (ih _)

/-- The calls that set the first `n` engines, each to a fraction of its own. -/
def powerCalls (f : Nat → α) (n : Nat) : List (Call α) :=
  (List.range n).map fun k => .act (.powerOn k (f k))

/-- The calls that a plan comes to. -/
def commands {β : Type} (tick : Nat) (world : World α) : Plan α β → Vessel α → List (Call α)
  | .done _, _ => []
  | .look next, v => commands tick world (next (v.cockpit tick)) v
  | .act action next, v =>
    .act action :: commands tick world (next (v.act tick action).2) (v.act tick action).1
  | .scan i next, v =>
    .scan i :: commands tick world (next (v.scan world i).2) (v.scan world i).1

theorem fst_follow {β : Type} (tick : Nat) (world : World α) (plan : Plan α β) (v : Vessel α) :
    (v.follow tick world plan).1 = v.calls tick world (commands tick world plan v) := by
  induction plan generalizing v with
  | done result => rfl
  | look next ih => exact ih _ v
  | act action next ih => exact ih (v.act tick action).2 (v.act tick action).1
  | scan sensor next ih => exact ih (v.scan world sensor).2 (v.scan world sensor).1

end Vessel

namespace Ship
variable {π : Type} [Pilot α π] (s : Ship α π) (tick : Nat) (world : World α)

/-- The calls of the pilot of a ship in a tick. -/
def commands : List (Call α) :=
  Vessel.commands tick world (Pilot.tick tick s.pilot) s.toVessel.begin

theorem toVessel_decide : (s.decide tick world).toVessel =
    s.toVessel.begin.calls tick world (s.commands tick world) :=
  Vessel.fst_follow tick world _ _

theorem keeps_decide : s.toVessel.begin.hull.Keeps (s.decide tick world).hull := by
  rw [toVessel_decide]
  exact Vessel.keeps_calls tick world _ _

theorem id_decide : (s.decide tick world).id = s.id :=
  (s.keeps_decide tick world).id

theorem fleet_decide : (s.decide tick world).fleet = s.fleet :=
  (s.keeps_decide tick world).fleet

end Ship
end FleetArena
