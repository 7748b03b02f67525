import FleetArena.Pilot

/-! A pilot that holds the nearest control point and shoots at the nearest enemy. -/
namespace FleetArena

structure Hunter (α : Type) where
  /-- The speed of the approach to a control point. -/
  cruiseSpeed : α
  nav : Nav α
deriving Repr, DecidableEq

namespace Hunter
variable {α : Type} [Scalar α]

/-- How hard a hunter corrects its velocity. -/
@[inline] def gain : α := 2.0

def ofSpeed (cruiseSpeed : α) : Hunter α :=
  ⟨cruiseSpeed, .ofGain gain⟩

def standard : Hunter α :=
  ofSpeed 40.0

/-- Heads for the nearest control point, if one is in sight. -/
def headed (p : Hunter α) (reading : Reading α) : Hunter α :=
  match reading.nearestControlPoint? with
  | none => p
  | some (_, point) =>
    { p with nav := p.nav.setWaypoint ⟨point.position, p.cruiseSpeed, point.influence * 0.5⟩ }

/-- Cancels the drift relative to the control point, or to space when none is in sight. -/
def hold (reading : Reading α) : Plan α Unit := do
  let cockpit ← Plan.cockpit
  if cockpit.loadout.thrusters.isEmpty then return ()
  else
    let target := (reading.nearestControlPoint?.map (·.2.velocity)).getD .zero
    let _ ← Plan.perform (.thrust 0 ((target - reading.velocity) * (gain : α)))

/-- The direction in which to shoot at a target, led by its relative motion. -/
def aim (reading : Reading α) (target : ShipSighting α) (muzzleSpeed : α) : Vec3 α :=
  let offset := target.position - reading.position
  let drift := target.velocity - reading.velocity
  offset + drift * (offset.length / muzzleSpeed)

/-- Whether a weapon can shoot now at all. -/
def isReady (weapon : Weapon α) (tick : Nat) : Bool :=
  weapon.ammo != 0 && (weapon.cooldownRemaining? tick).isNone && !decide (weapon.ammoVelocity ≤ 0.0)

/-- Shoots at the nearest enemy with the first weapon, if the weapon is ready. -/
def attack (reading : Reading α) : Plan α Unit := do
  let cockpit ← Plan.cockpit
  match cockpit.loadout.weapons.head?.filter (isReady · cockpit.tick) with
  | none => return ()
  | some weapon =>
    match reading.nearestEnemy? cockpit.fleet with
    | none => return ()
    | some (_, enemy) =>
      let _ ← Plan.perform (.fire 0 (aim reading enemy weapon.ammoVelocity))

/-- Holds the position once the navigator asks for nothing. -/
def settle (reading : Reading α) : Except (ActionError α) (Steer α) → Plan α Unit
  | .ok .idle | .ok (.arrived _) => hold reading
  | .ok (.thrust _) | .error _ => return ()

def plan (p : Hunter α) : Plan α (Hunter α) := do
  let _ ← Plan.powerAll 1.0
  let cockpit ← Plan.cockpit
  if cockpit.loadout.sensors.isEmpty then return p
  else
    match ← Plan.scanWith 0 with
    | .error _ => return p
    | .ok reading =>
      let p := p.headed reading
      let (nav, result) ← p.nav.fly reading.position reading.velocity
      settle reading result
      attack reading
      return { p with nav }

instance : Pilot α (Hunter α) where
  tick _ p := p.plan

end Hunter
end FleetArena
