import FleetArena.Frame
import FleetArena.Settings
import FleetArena.Ship

/-! The state of a battle. Every list of objects is in the order of creation. -/
namespace FleetArena

/-- Ammunition in flight. -/
structure Projectile (α : Type) where
  body : Body α
  /-- Whether it has hit something; then it is removed in the same tick. -/
  spent : Bool
deriving Repr, DecidableEq

/-- A body that scores for every ship within its influence. -/
structure ControlPoint (α : Type) where
  body : Body α
  /-- The score per second. -/
  points : α
  influence : α
deriving Repr, DecidableEq

/-- Inert rock, which is never removed. -/
structure Asteroid (α : Type) where
  body : Body α
  texture : String
deriving Repr, DecidableEq

/-- Whether a position is within the influence of a control point. -/
@[inline] def ControlPoint.influences {α : Type} [Scalar α] (p : ControlPoint α)
    (position : Vec3 α) : Bool :=
  Decidable.decide (p.body.position.distance position < p.influence)

structure Battle (α π δ : Type) where
  settings : Settings α
  arenaRadius : α
  scoreLimit : Option α
  /-- The completed ticks. -/
  tick : Nat
  ships : List (Ship α π)
  projectiles : List (Projectile α)
  controlPoints : List (ControlPoint α)
  asteroids : List (Asteroid α)
  /-- Every fleet that has been registered, also one without ships. -/
  scores : Table String α
  /-- The highest score. -/
  maxScore : α
  drawer : Option δ
  /-- The objects that the drawer knows. -/
  drawn : List ObjectId
  /-- The objects that the drawer knows and that are gone since the last frame. -/
  deleted : List ObjectId
  /-- Whether the first frame is out. -/
  started : Bool
  /-- Whether a body was found that is not finite. A halted battle stays as it is. -/
  halted : Bool
  nextId : ObjectId

namespace Battle
variable {α π δ : Type}

/-- An arena with nothing in it. -/
def empty [Scalar α] (arenaRadius : α) (settings : Settings α) : Battle α π δ where
  settings
  arenaRadius
  scoreLimit := none
  tick := 0
  ships := []
  projectiles := []
  controlPoints := []
  asteroids := []
  scores := ∅
  maxScore := 0.0
  drawer := none
  drawn := []
  deleted := []
  started := false
  halted := false
  nextId := 1

/-- The length of a tick. -/
@[inline] def dt (b : Battle α π δ) : α :=
  b.settings.tickSeconds

/-- All bodies: ships, control points, asteroids, projectiles. -/
def bodies (b : Battle α π δ) : List (Body α) :=
  b.ships.map Ship.body ++ b.controlPoints.map (·.body) ++ b.asteroids.map (·.body) ++
    b.projectiles.map (·.body)

/-- The numbers of all objects in ascending order. -/
def objectIds (b : Battle α π δ) : List ObjectId :=
  ascending (b.bodies.map (·.id))

/-- The fleets that have a ship left, in the order of their names. -/
def survivors (b : Battle α π δ) : List String :=
  ascending (b.ships.map Ship.fleet)

def ship? (b : Battle α π δ) (id : ObjectId) : Option (Ship α π) :=
  b.ships.find? (·.id == id)

variable [Scalar α]

/-- The seconds that have passed. -/
def time (b : Battle α π δ) : α :=
  Scalar.ofNat b.tick * b.settings.tickSeconds

/-- Registers a fleet; one that is not registered yet has no score. -/
def addFleet (b : Battle α π δ) (name : String) : Battle α π δ :=
  { b with scores := b.scores.insertIfNew name 0.0 }

/-- Adds a ship and registers its fleet, and tells the number of the ship. If the parts are not fit
the battle comes back as it was, with the error. -/
def enlist (b : Battle α π δ) (fleet : String) (position : Vec3 α) (pilot : π)
    (parts : List (Part α)) : Battle α π δ × Except (SetupError α) ObjectId :=
  let id := b.nextId
  match Vessel.build id fleet position parts b.dt with
  | .error e => (b, .error e)
  | .ok vessel =>
    let b := { b with nextId := id + 1 }
    let b := b.addFleet fleet
    ({ b with ships := b.ships ++ [{ vessel with pilot }] }, .ok id)

/-- Adds a ship for someone who stops at the first error and has no use for the battle then. -/
def addShip (b : Battle α π δ) (fleet : String) (position : Vec3 α) (pilot : π)
    (parts : List (Part α)) : Except (SetupError α) (ObjectId × Battle α π δ) :=
  let (b, result) := b.enlist fleet position pilot parts
  result.map (·, b)

/-- Adds a control point. Its parameters are not checked. -/
def addControlPoint (b : Battle α π δ) (position : Vec3 α) (radius mass points influence : α) :
    ObjectId × Battle α π δ :=
  let point := ⟨.atRest b.nextId position radius mass mass, points, influence⟩
  (b.nextId, { b with controlPoints := b.controlPoints ++ [point], nextId := b.nextId + 1 })

/-- Adds an asteroid. Its parameters are not checked. -/
def addAsteroid (b : Battle α π δ) (position : Vec3 α) (radius mass : α) (texture : String) :
    ObjectId × Battle α π δ :=
  let asteroid := ⟨.atRest b.nextId position radius mass mass, texture⟩
  (b.nextId, { b with asteroids := b.asteroids ++ [asteroid], nextId := b.nextId + 1 })

/-- Adds a projectile that has been fired. It has as much health as mass. -/
def addShot (b : Battle α π δ) (shot : Shot α) : Battle α π δ :=
  let body := (Body.atRest b.nextId shot.position shot.radius shot.mass shot.mass).withVelocity
    shot.velocity
  { b with projectiles := b.projectiles ++ [⟨body, false⟩], nextId := b.nextId + 1 }

end Battle
end FleetArena
