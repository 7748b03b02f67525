import FleetArena.Battle.State

/-! Motion: every body moves for one tick, and a body that is not finite halts the battle. -/
namespace FleetArena

/-- Why a battle cannot go on. -/
inductive StepError where
  /-- A part of the motion of an object was not finite at a tick. -/
  | nonFinite (id : ObjectId) (motion : Motion) (tick : Nat)
  /-- The battle was halted before. -/
  | halted
deriving Repr, DecidableEq

/-- Fails if the motion of a body is not finite. -/
@[inline] def Body.checkFinite {α : Type} [Scalar α] (b : Body α) (tick : Nat) :
    Except StepError Unit :=
  match b.nonFinite? with
  | some motion => .error (.nonFinite b.id motion tick)
  | none => .ok ()

namespace Battle
variable {α π δ : Type} [Scalar α]

/-- Moves every body. -/
@[specialize] def integrate (b : Battle α π δ) : Battle α π δ :=
  { b with
    ships := b.ships.map fun s => s.withBody (s.body.integrate b.dt)
    projectiles := b.projectiles.map fun p => { p with body := p.body.integrate b.dt }
    controlPoints := b.controlPoints.map fun p => { p with body := p.body.integrate b.dt }
    asteroids := b.asteroids.map fun a => { a with body := a.body.integrate b.dt } }

/-- The first body whose motion is not finite, if there is one. -/
@[specialize] def checkFinite (b : Battle α π δ) : Except StepError Unit :=
  b.bodies.forM fun body => body.checkFinite b.tick

/-- The battle in which nothing happens any more. -/
def halt (b : Battle α π δ) : Battle α π δ :=
  { b with halted := true }

end Battle
end FleetArena
