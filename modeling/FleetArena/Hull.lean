import FleetArena.Body
import FleetArena.Part.Kind

/-! Hulls: the body of a ship, the fleet it flies for, and the energy it may spend in a tick. -/
namespace FleetArena

structure Hull (α : Type) where
  body : Body α
  fleet : String
  /-- The length of a tick. -/
  dt : α
  /-- The budget of the tick. -/
  totalEnergy : α
  /-- What is left of the budget. -/
  energy : α
deriving Repr, DecidableEq

namespace Hull
variable {α : Type} [Scalar α]

/-- A hull without energy. -/
def of (body : Body α) (fleet : String) (dt : α) : Hull α :=
  ⟨body, fleet, dt, 0.0, 0.0⟩

/-- Starts a tick with a fresh budget. -/
def energize (h : Hull α) (total : α) : Hull α :=
  { h with totalEnergy := total, energy := total }

/-- Draws energy from the budget. Overdrawing empties it and fails. -/
@[inline] def spend (h : Hull α) (amount : α) : Hull α × Except (ActionError α) Unit :=
  let left := h.energy - amount
  if left < 0.0 then ({ h with energy := 0.0 }, .error .outOfEnergy)
  else ({ h with energy := left }, .ok ())

/-- Changes the velocity by one tick of acceleration. -/
@[inline] def accelerate (h : Hull α) (acceleration : Vec3 α) : Hull α :=
  { h with body := { h.body with velocity := h.body.velocity + acceleration * h.dt } }

/-- Pushes the hull along a unit vector for one tick. -/
@[inline] def push (h : Hull α) (direction : Vec3 α) (force : α) : Hull α :=
  h.accelerate (direction * (force / h.body.mass))

@[inline] def shed (h : Hull α) (mass : α) : Hull α :=
  { h with body := { h.body with mass := h.body.mass - mass } }

end Hull
end FleetArena
