import FleetArena.Hull
import FleetArena.Part.Mount
import FleetArena.Part.Spec

/-! Thrusters: they turn energy into acceleration of the whole ship. -/
namespace FleetArena

structure Thruster (α : Type) where
  mount : Mount α
  /-- The greatest force. -/
  force : α
  /-- The energy drawn at the greatest force. -/
  energy : α
deriving Repr, DecidableEq

namespace Thruster
variable {α : Type} [Scalar α]

def ofSpec (position : Vec3 α) (spec : ThrusterSpec α) : Thruster α where
  mount := .place position spec.radius spec.mass spec.health
  force := spec.force
  energy := spec.energy

/-- Fires a thruster. The length of `direction` is the acceleration asked for. The force is capped
at the rating and energy is drawn in proportion to it. A request without a direction does nothing,
but uses the thruster. -/
@[specialize] def thrust (t : Thruster α) (hull : Hull α) (direction : Vec3 α) :
    Thruster α × Hull α × Except (ActionError α) Unit :=
  if t.mount.used then (t, hull, .error (.alreadyUsed .thruster))
  else
    let t := { t with mount := t.mount.markUsed }
    if !direction.isFinite then (t, hull, .error (.invalidDirection direction))
    else
      match direction.normalize? with
      | none => (t, hull, .ok ())
      | some unit =>
        let force := Scalar.min (hull.body.mass * direction.length) t.force
        match hull.spend (t.energy * force / t.force) with
        | (hull, .error e) => (t, hull, .error e)
        | (hull, .ok ()) => (t, hull.accelerate (unit * force / hull.body.mass), .ok ())

def release (t : Thruster α) : Thruster α :=
  { t with mount := t.mount.release }

end Thruster
end FleetArena
