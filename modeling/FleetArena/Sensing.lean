import FleetArena.Hull
import FleetArena.Table

/-! What sensors can see. A world is recorded before any ship acts, and a reading holds the part
of it that is bright enough, beside the state of the ship that scans. -/
namespace FleetArena

/-- A ship as a sensor sees it. -/
structure ShipSighting (α : Type) where
  fleet : String
  position : Vec3 α
  velocity : Vec3 α
  radius : α
  health : α
deriving Repr, DecidableEq

/-- A control point as a sensor sees it. -/
structure PointSighting (α : Type) where
  position : Vec3 α
  velocity : Vec3 α
  radius : α
  health : α
  points : α
  influence : α
deriving Repr, DecidableEq

/-- Everything that can be seen at the start of a tick. -/
structure World (α : Type) where
  ships : Table ObjectId (ShipSighting α) := ∅
  controlPoints : Table ObjectId (PointSighting α) := ∅

/-- What one scan has found. -/
structure Reading (α : Type) where
  id : ObjectId
  position : Vec3 α
  velocity : Vec3 α
  radius : α
  health : α
  /-- The energy left after the scan. -/
  energy : α
  ships : Table ObjectId (ShipSighting α)
  controlPoints : Table ObjectId (PointSighting α)

variable {α : Type} [Scalar α]

/-- The intensity that a contact must exceed to be seen. -/
@[inline] def detectionThreshold : α := 1e-9

/-- Everything whose intensity at its distance from the observer exceeds the threshold, the
observer itself left out. -/
@[specialize] def World.scan (world : World α) (observer : Hull α) (intensity : α → α) :
    Reading α :=
  let body := observer.body
  let detected (position : Vec3 α) : Bool :=
    decide (intensity (position.distance body.position) > detectionThreshold)
  { id := body.id
    position := body.position
    velocity := body.velocity
    radius := body.radius
    health := body.health
    energy := observer.energy
    ships := world.ships.filter fun id ship => id != body.id && detected ship.position
    controlPoints := world.controlPoints.filter fun _ point => detected point.position }

namespace Reading

/-- Whether one distance is smaller than another. What is no number is larger than every number. -/
@[inline] def closer (a b : α) : Bool :=
  if Scalar.isNaN b then !Scalar.isNaN a else decide (a < b)

/-- The entry of the least key, the first of them if there are several. -/
@[specialize] def leastBy {β : Type} (key : β → α) : List β → Option β
  | [] => none
  | first :: rest =>
    some (rest.foldl (fun best x => if closer (key x) (key best) then x else best) first)

/-- The ship of another fleet that is nearest to the scanning ship; of equally near ones, the one
created first. -/
@[specialize] def nearestEnemy? (r : Reading α) (fleet : String) :
    Option (ObjectId × ShipSighting α) :=
  leastBy (fun e => e.2.position.distanceSquared r.position)
    (r.ships.entries.filter fun e => e.2.fleet != fleet)

/-- The control point that is nearest to the scanning ship; of equally near ones, the one created
first. -/
@[specialize] def nearestControlPoint? (r : Reading α) : Option (ObjectId × PointSighting α) :=
  leastBy (fun e => e.2.position.distanceSquared r.position) r.controlPoints.entries

end Reading
end FleetArena
