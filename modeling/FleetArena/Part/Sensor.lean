import FleetArena.Part.Mount
import FleetArena.Part.Spec
import FleetArena.Sensing

/-! Sensors: they report the ships and control points around. -/
namespace FleetArena

structure Sensor (α : Type) where
  mount : Mount α
  /-- The energy drawn by each scan. -/
  energy : α
  power : α
deriving Repr, DecidableEq

namespace Sensor
variable {α : Type} [Scalar α]

def ofSpec (position : Vec3 α) (spec : SensorSpec α) : Sensor α where
  mount := .place position spec.radius spec.mass spec.health
  energy := spec.energy
  power := spec.power

/-- The intensity received from a contact at a distance: the power, spread over a sphere. -/
@[inline] def intensity (s : Sensor α) (distance : α) : α :=
  s.power / Scalar.sphereArea distance

@[specialize] def scan (s : Sensor α) (hull : Hull α) (world : World α) :
    Sensor α × Hull α × Except (ActionError α) (Reading α) :=
  if s.mount.used then (s, hull, .error (.alreadyUsed .sensor))
  else
    let s := { s with mount := s.mount.markUsed }
    match hull.spend s.energy with
    | (hull, .error e) => (s, hull, .error e)
    | (hull, .ok ()) => (s, hull, .ok (world.scan hull s.intensity))

def release (s : Sensor α) : Sensor α :=
  { s with mount := s.mount.release }

end Sensor
end FleetArena
