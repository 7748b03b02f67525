import FleetArena.Part.Mount
import FleetArena.Part.Spec

/-! Engines: they produce the energy that the rest of the ship spends. -/
namespace FleetArena

structure Engine (α : Type) where
  mount : Mount α
  /-- The output at full power. -/
  capacity : α
  output : α
deriving Repr, DecidableEq

namespace Engine
variable {α : Type} [Scalar α]

def ofSpec (position : Vec3 α) (spec : EngineSpec α) : Engine α where
  mount := .place position spec.radius spec.mass spec.health
  capacity := spec.energy
  output := 0.0

/-- Sets the output to a fraction of full power; the ship draws on it from the next tick on. -/
@[specialize] def powerOn (e : Engine α) (fraction : α) :
    Engine α × Except (ActionError α) Unit :=
  if e.mount.used then (e, .error (.alreadyUsed .engine))
  else
    let e := { e with mount := e.mount.markUsed }
    if 0.0 ≤ fraction ∧ fraction ≤ 1.0 then
      ({ e with output := e.capacity * fraction }, .ok ())
    else (e, .error (.invalidPower fraction))

def release (e : Engine α) : Engine α :=
  { e with mount := e.mount.release }

end Engine
end FleetArena
