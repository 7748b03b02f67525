import FleetArena.Loadout

/-! Vessels: what a pilot commands. A vessel carries out single actions, each of one of its
parts. -/
namespace FleetArena

structure Vessel (α : Type) where
  hull : Hull α
  loadout : Loadout α
  /-- The projectiles fired in this tick, in the order of firing. -/
  shots : List (Shot α)
deriving Repr, DecidableEq

/-- An action of one part, addressed by its place among the parts of its kind. -/
inductive Action (α : Type) where
  | powerOn (engine : Nat) (fraction : α)
  | thrust (thruster : Nat) (direction : Vec3 α)
  | fire (weapon : Nat) (direction : Vec3 α)
deriving Repr, DecidableEq

namespace Vessel
variable {α : Type} [Scalar α]

/-- Carries out an action. An action of a part that is not there changes nothing. -/
@[specialize] def act (v : Vessel α) (tick : Nat) :
    Action α → Vessel α × Except (ActionError α) Unit
  | .powerOn i fraction =>
    match v.loadout.engines[i]? with
    | none => (v, .error (.noSuchPart .engine i))
    | some engine =>
      let (engine, result) := engine.powerOn fraction
      let engines := v.loadout.engines.set i engine
      ({ v with loadout := { v.loadout with engines } }, result)
  | .thrust i direction =>
    match v.loadout.thrusters[i]? with
    | none => (v, .error (.noSuchPart .thruster i))
    | some thruster =>
      let (thruster, hull, result) := thruster.thrust v.hull direction
      let thrusters := v.loadout.thrusters.set i thruster
      ({ v with hull, loadout := { v.loadout with thrusters } }, result)
  | .fire i direction =>
    match v.loadout.weapons[i]? with
    | none => (v, .error (.noSuchPart .weapon i))
    | some weapon =>
      let (weapon, hull, result) := weapon.fire v.hull tick direction
      let weapons := v.loadout.weapons.set i weapon
      let v := { v with hull, loadout := { v.loadout with weapons } }
      match result with
      | .ok shot => ({ v with shots := v.shots ++ [shot] }, .ok ())
      | .error e => (v, .error e)

/-- Scans the surroundings with a sensor. -/
@[specialize] def scan (v : Vessel α) (world : World α) (i : Nat) :
    Vessel α × Except (ActionError α) (Reading α) :=
  match v.loadout.sensors[i]? with
  | none => (v, .error (.noSuchPart .sensor i))
  | some sensor =>
    let (sensor, hull, result) := sensor.scan v.hull world
    let sensors := v.loadout.sensors.set i sensor
    ({ v with hull, loadout := { v.loadout with sensors } }, result)

/-- Refills the energy from the output of the engines. -/
@[specialize] def energize (v : Vessel α) : Vessel α :=
  { v with hull := v.hull.energize v.loadout.power }

/-- Starts a tick: every part is ready, and the energy is that of the engines. -/
@[specialize] def begin (v : Vessel α) : Vessel α :=
  energize { v with loadout := v.loadout.release }

/-- Builds a vessel from parts: its mass, radius and health are those of the parts. -/
def build (id : ObjectId) (fleet : String) (position : Vec3 α) (parts : List (Part α)) (dt : α) :
    Except (SetupError α) (Vessel α) := do
  checkParts fleet parts
  let loadout := Loadout.ofParts parts
  let body := Body.atRest id position loadout.boundingRadius loadout.mass loadout.health
  return { hull := .of body fleet dt, loadout, shots := [] }

end Vessel
end FleetArena
