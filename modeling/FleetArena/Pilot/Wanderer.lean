import FleetArena.Pilot
import FleetArena.Random

/-! A pilot that flies to random points nearby, and back to the nearest control point when it has
strayed too far. -/
namespace FleetArena

structure Wanderer (α : Type) where
  generator : Pcg
  nav : Nav α
deriving Repr, DecidableEq

namespace Wanderer
variable {α : Type} [Scalar α]

@[inline] def cruiseSpeed : α := 15.0

/-- A leg is at least this long. -/
@[inline] def leastLeg : α := 100.0

/-- A leg is shorter than this. -/
@[inline] def mostLeg : α := 400.0

def ofSeed (seed : Nat) : Wanderer α :=
  ⟨.ofSeed (.ofNat seed), .standard⟩

/-- Where to fly next, given the last reading. -/
def nextWaypoint (p : Wanderer α) (reading : Reading α) : Waypoint α × Wanderer α :=
  let astray := reading.nearestControlPoint?.filter fun point =>
    point.2.position.distance reading.position > point.2.influence * 3.0
  match astray with
  | some (_, point) => (⟨point.position, cruiseSpeed, point.influence⟩, p)
  | none =>
    let (leg, g) := (p.generator.uniform leastLeg mostLeg : α × Pcg)
    let (heading, g) := (g.direction : Vec3 α × Pcg)
    (⟨reading.position + heading * leg, cruiseSpeed, Scalar.max reading.radius 1.0⟩,
      { p with generator := g })

/-- Has a waypoint to fly to. -/
def provided (p : Wanderer α) (reading : Reading α) : Wanderer α :=
  if p.nav.isIdle then
    let (waypoint, p) := p.nextWaypoint reading
    { p with nav := p.nav.addWaypoint waypoint }
  else p

def plan (p : Wanderer α) : Plan α (Wanderer α) := do
  let _ ← Plan.powerAll 1.0
  let cockpit ← Plan.cockpit
  if cockpit.loadout.sensors.isEmpty then return p
  else
    match ← Plan.scanWith 0 with
    | .error _ => return p
    | .ok reading =>
      let p := p.provided reading
      let (nav, _) ← p.nav.fly reading.position reading.velocity
      return { p with nav }

instance : Pilot α (Wanderer α) where
  tick _ p := p.plan

end Wanderer
end FleetArena
