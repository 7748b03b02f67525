import FleetArena.Random
import FleetArena.SetupError

/-! Maps: the layout of an arena, the rules of a match in it, and a generator of maps. -/
namespace FleetArena

/-- A scoring zone. -/
structure PointSite (α : Type) where
  mass : α
  /-- The radius of the body in the middle. -/
  radius : α
  position : List α
  /-- The score per second for each ship within the influence. -/
  points : α
  /-- The scoring radius. -/
  influence : α
deriving Repr, DecidableEq

/-- An obstacle. -/
structure AsteroidSite (α : Type) where
  mass : α
  radius : α
  position : List α
  /-- What a renderer shows it as. -/
  texture : Option String := none
deriving Repr, DecidableEq

structure Rules (α : Type) where
  /-- A fleet that scores more than this ends the match. -/
  score : Option α := none
  /-- The ship mass that a fleet may bring. -/
  maxFleetMass : α
deriving Repr, DecidableEq

structure ArenaMap (α : Type) where
  /-- What is farther than this from the origin is removed. -/
  radius : α
  rules : Rules α
  /-- One for each fleet. -/
  startingPoints : List (List α) := []
  controlPoints : List (PointSite α) := []
  asteroids : List (AsteroidSite α) := []
deriving Repr, DecidableEq

/-- What a generated map should look like. -/
structure MapShape (α : Type) where
  radius : α
  fleets : Nat
  asteroids : Nat
  score : Option α
  maxFleetMass : α
deriving Repr, DecidableEq

namespace MapShape
variable {α : Type} [Scalar α]

def standard : MapShape α where
  radius := 2000.0
  fleets := 2
  asteroids := 6
  score := some 100.0
  maxFleetMass := 1e5

/-- The influence of the control point in the middle. -/
def influence (s : MapShape α) : α :=
  s.radius * 0.07

/-- The radius of the ring of starting points. -/
def ring (s : MapShape α) : α :=
  s.radius * 0.5

/-- Asteroids are at least this far out. -/
def leastDistance (s : MapShape α) : α :=
  s.influence * 2.0

/-- Asteroids are closer than this. -/
def mostDistance (s : MapShape α) : α :=
  s.ring * 0.8

/-- The `i`-th of the starting points, which are spread evenly over the ring. -/
def startingPoint (s : MapShape α) (i : Nat) : List α :=
  let angle := 2.0 * Scalar.pi * Scalar.ofNat i / Scalar.ofNat (Nat.max s.fleets 1)
  [s.ring * Scalar.cos angle, s.ring * Scalar.sin angle, 0.0]

/-- A random asteroid: first its direction is drawn, then its distance, then its radius. -/
def asteroid (s : MapShape α) (g : Pcg) : AsteroidSite α × Pcg :=
  let (direction, g) := (g.direction : Vec3 α × Pcg)
  let (distance, g) := g.uniform s.leastDistance s.mostDistance
  let (radius, g) := (g.uniform 10.0 60.0 : α × Pcg)
  ({ mass := 1e6, radius, position := (direction * distance).toList }, g)

/-- A field of random asteroids. -/
def field (s : MapShape α) : Nat → Pcg → List (AsteroidSite α)
  | 0, _ => []
  | n + 1, g =>
    let (rock, g) := s.asteroid g
    rock :: s.field n g

/-- The map of a seed: a control point in the middle, the starting points on a ring at half the
radius, and asteroids scattered between the two. There is none when asteroids are asked for and no
distance lies between the bounds. -/
def generate? (s : MapShape α) (seed : UInt64) : Option (ArenaMap α) :=
  if s.asteroids = 0 || Pcg.isRange s.leastDistance s.mostDistance then
    some {
      radius := s.radius
      rules := ⟨s.score, s.maxFleetMass⟩
      startingPoints := (List.range s.fleets).map s.startingPoint
      controlPoints := [⟨1e6, 10.0, [0.0, 0.0, 0.0], 1.0, s.influence⟩]
      asteroids := s.field s.asteroids (.ofSeed seed) }
  else none

end MapShape
end FleetArena
