import FleetArena.ArenaMap
import FleetArena.Battle.State
import FleetArena.Pilot.Registry

/-! Setup: a battle is put together from a map, a catalog, the rosters of the fleets and a registry
of pilots. There is no battle unless all of it is valid. -/
namespace FleetArena

structure Setup (α : Type) (m : Type → Type) (π δ : Type) where
  map : ArenaMap α
  catalog : Catalog α
  fleets : List (RosterFleet α)
  registry : Registry m π
  settings : Settings α
  drawer : Option δ

open MonadExcept (ofExcept)

namespace Setup
variable {α : Type} {m : Type → Type} {π δ : Type} [Scalar α]

/-- Fails with a fault if a condition holds. -/
def failIf (bad : Bool) (fault : ConfigFault α) : Except (SetupError α) Unit :=
  if bad then .error (.invalidConfig fault) else .ok ()

/-- Bodies of a map may have an infinite mass, but need a positive one. -/
def checkBody (object : MapObject) (radius mass : α) : Except (SetupError α) Unit := do
  failIf (Scalar.isNaN mass || decide (mass ≤ 0.0)) (.mass object mass)
  failIf (!Part.isNonNegative radius) (.radius object radius)

def checkPoint (p : PointSite α) : Except (SetupError α) Unit := do
  checkBody .controlPoint p.radius p.mass
  failIf (!Part.isNonNegative p.influence || !Scalar.isFinite p.points)
    (.scoring p.influence p.points)

/-- The first name of a list that stands in it before. -/
def repeated? : List String → List String → Option String
  | _, [] => none
  | seen, name :: rest => if seen.contains name then some name else repeated? (name :: seen) rest

/-- Checks everything but positions and rosters. The first failure of the order below is the
answer. -/
def check (s : Setup α m π δ) : Except (SetupError α) Unit := do
  failIf (!Part.isPositive s.settings.tickSeconds) (.tickSeconds s.settings.tickSeconds)
  failIf (s.settings.frameRate == 0) .frameRate
  failIf (s.settings.maxTicks == some 0) .maxTicks
  failIf (!Part.isPositive s.map.radius) (.arenaRadius s.map.radius)
  s.map.controlPoints.forM checkPoint
  s.map.asteroids.forM fun a => checkBody .asteroid a.radius a.mass
  match repeated? [] (s.fleets.map (·.name)) with
  | some name => .error (.invalidConfig (.duplicateFleet name))
  | none =>
    if s.fleets.length > s.map.startingPoints.length then
      .error (.tooManyFleets s.map.startingPoints.length)
    else .ok ()

def placePoint (b : Battle α π δ) (p : PointSite α) : Except (SetupError α) (Battle α π δ) := do
  let position ← Vec3.ofCoordinates p.position
  return (b.addControlPoint position p.radius p.mass p.points p.influence).2

def placeAsteroid (b : Battle α π δ) (a : AsteroidSite α) :
    Except (SetupError α) (Battle α π δ) := do
  let position ← Vec3.ofCoordinates a.position
  return (b.addAsteroid position a.radius a.mass (a.texture.getD "asteroid")).2

/-- The arena before any fleet has come. -/
def layout (s : Setup α m π δ) : Except (SetupError α) (Battle α π δ) := do
  let b := { Battle.empty s.map.radius s.settings with scoreLimit := s.map.rules.score }
  let b ← s.map.controlPoints.foldlM placePoint b
  s.map.asteroids.foldlM placeAsteroid b

variable [Monad m] [Pilot α π]

/-- Adds a ship of a roster, and its mass to that of the fleet. The pilot is made with the number of
the ship as its seed. -/
def deploy (s : Setup α m π δ) (fleet : String) (origin : Vec3 α) (state : Battle α π δ × α)
    (ship : RosterShip α) : ExceptT (SetupError α) m (Battle α π δ × α) := do
  let (b, mass) := state
  let pilot ← s.registry.create ship.pilot b.nextId
  let pilot := Pilot.joinFleet α fleet pilot
  let (parts, pilot) ← ofExcept (Pilot.link s.catalog b.dt ship.parts pilot)
  let offset ← ofExcept (Vec3.ofCoordinates ship.position)
  let (id, b) ← ofExcept (b.addShip fleet (origin + offset) pilot parts)
  return (b, ((b.ship? id).map fun added => mass + added.body.mass).getD mass)

/-- Adds a fleet at its starting point. Its ships together must not be too heavy. -/
def muster (s : Setup α m π δ) (b : Battle α π δ) (entry : RosterFleet α × List α) :
    ExceptT (SetupError α) m (Battle α π δ) := do
  let (fleet, start) := entry
  let origin ← ofExcept (Vec3.ofCoordinates start)
  let (b, mass) ← fleet.ships.foldlM (s.deploy fleet.name origin) (b.addFleet fleet.name, 0.0)
  let limit := s.map.rules.maxFleetMass
  if mass > limit then throw (.fleetTooHeavy fleet.name mass limit)
  else return b

/-- The battle of a setup: control points first, then asteroids, then the ships of every fleet, each
fleet at the starting point in its place. -/
def build (s : Setup α m π δ) : ExceptT (SetupError α) m (Battle α π δ) := do
  ofExcept s.check
  let b ← ofExcept s.layout
  let b ← (s.fleets.zip s.map.startingPoints).foldlM s.muster b
  return { b with drawer := s.drawer }

end Setup
end FleetArena
