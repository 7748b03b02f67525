import FleetArena.SetupError

/-! Loadouts: the parts of one ship, by kind. A part is addressed by its kind and its place among
the parts of that kind. -/
namespace FleetArena

structure Loadout (α : Type) where
  engines : List (Engine α)
  thrusters : List (Thruster α)
  weapons : List (Weapon α)
  sensors : List (Sensor α)
deriving Repr, DecidableEq

namespace Loadout
variable {α : Type}

/-- Sorts parts by kind; those of one kind stay in order. -/
def ofParts (parts : List (Part α)) : Loadout α where
  engines := parts.filterMap fun | .engine e => some e | _ => none
  thrusters := parts.filterMap fun | .thruster t => some t | _ => none
  weapons := parts.filterMap fun | .weapon w => some w | _ => none
  sensors := parts.filterMap fun | .sensor s => some s | _ => none

/-- All parts: engines, thrusters, weapons, sensors. -/
def toParts (l : Loadout α) : List (Part α) :=
  l.engines.map .engine ++ l.thrusters.map .thruster ++ l.weapons.map .weapon ++
    l.sensors.map .sensor

def size (l : Loadout α) : Nat :=
  l.engines.length + l.thrusters.length + l.weapons.length + l.sensors.length

def mounts (l : Loadout α) : List (Mount α) :=
  l.toParts.map Part.mount

/-- Makes every part ready for the next tick. -/
def release (l : Loadout α) : Loadout α where
  engines := l.engines.map Engine.release
  thrusters := l.thrusters.map Thruster.release
  weapons := l.weapons.map Weapon.release
  sensors := l.sensors.map Sensor.release

variable [Scalar α]

def mass (l : Loadout α) : α :=
  Scalar.sum (l.toParts.map Part.mass)

def health (l : Loadout α) : α :=
  Scalar.sum (l.mounts.map (·.health))

/-- The radius of the sphere about the centre of the ship that holds every part. -/
def boundingRadius (l : Loadout α) : α :=
  Scalar.maximum (l.mounts.map Mount.reach)

/-- The sum of the outputs of the engines. -/
@[specialize] def power (l : Loadout α) : α :=
  Scalar.sum (l.engines.map (·.output))

end Loadout

/-- The first two parts of a list that share space, by the place of the first and then of the
second. -/
def overlap? {α : Type} [Scalar α] : List (Part α) → Option (Part α × Part α)
  | [] => none
  | a :: rest =>
    match rest.find? fun b => a.mount.overlaps b.mount with
    | some b => some (a, b)
    | none => overlap? rest

/-- A ship needs a part, its parts must be sound, and no two of them may share space. -/
def checkParts {α : Type} [Scalar α] (fleet : String) (parts : List (Part α)) :
    Except (SetupError α) Unit :=
  if parts.isEmpty then .error (.invalidShip fleet .noParts)
  else
    match parts.findSome? Part.fault? with
    | some fault => .error (.invalidShip fleet (.part fault))
    | none =>
      match overlap? parts with
      | some (a, b) => .error (.overlappingParts fleet a.mount.position b.mount.position)
      | none => .ok ()

end FleetArena
