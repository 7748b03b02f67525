import FleetArena.Pilot

/-! A pilot that keeps its engines running and does nothing else. -/
namespace FleetArena

structure Idle where
deriving Repr, DecidableEq

variable {α : Type} [Scalar α]

def Idle.plan (p : Idle) : Plan α Idle := do
  let _ ← Plan.powerAll 1.0
  return p

instance : Pilot α Idle where
  tick _ p := p.plan

end FleetArena
