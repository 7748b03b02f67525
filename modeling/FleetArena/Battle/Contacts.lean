import FleetArena.Battle.State
import FleetArena.Body.Collision
import FleetArena.Grid
import FleetArena.Places

/-! Contacts: bodies that share a sector of the grid are tested against each other, first ships,
control points and asteroids among themselves, then every projectile against those. A projectile
hits at most once, and projectiles do not hit each other. -/
namespace FleetArena.Battle
variable {α π δ : Type} [Scalar α]

/-- The restitution between ships, control points and asteroids. -/
@[inline] def solidRestitution : α := 0.7

/-- The restitution between a projectile and what it hits. -/
@[inline] def projectileRestitution : α := 0.1

/-- Lets the bodies at two different places collide, and tells whether they did. -/
@[specialize] def strike (dt cor : α) (bodies : List (Body α)) (i j : Nat) :
    List (Body α) × Bool :=
  match places? bodies i j with
  | none => (bodies, false)
  | some places =>
    match places.first.collide? places.second dt cor with
    | none => (bodies, false)
    | some c => (places.put c.first c.second, true)

/-- The grids of the solid bodies and of the projectiles. The solid ones are the first `solids` of
the list, and both grids have sectors for the largest extent of all. -/
@[specialize] def grids (dt : α) (solids : Nat) (bodies : List (Body α)) : Grid α × Grid α :=
  let size := Grid.sizeFor (Scalar.maximum (bodies.map (·.extent dt)))
  let fill (start : Nat) (bodies : List (Body α)) : Grid α :=
    (bodies.zipIdx start).foldl (fun g e => g.insert e.2 e.1.position (e.1.extent dt)) (.empty size)
  (fill 0 (bodies.take solids), fill solids (bodies.drop solids))

/-- The bodies after every pair of solid bodies that may be in contact has been tried. -/
@[specialize] def strikeSolids (dt : α) (pairs : List (Nat × Nat)) (bodies : List (Body α)) :
    List (Body α) :=
  pairs.foldl (fun bodies p => (strike dt solidRestitution bodies p.1 p.2).1) bodies

/-- The bodies, and which projectiles are spent, after every pair of a projectile and a solid body
that may be in contact has been tried. -/
@[specialize] def strikeShots (dt : α) (solids : Nat) (pairs : List (Nat × Nat))
    (bodies : List (Body α)) (spent : List Bool) : List (Body α) × List Bool :=
  pairs.foldl
    (fun state p =>
      if state.2[p.1 - solids]?.getD false then state
      else
        let (bodies, hit) := strike dt projectileRestitution state.1 p.1 p.2
        (bodies, state.2.set (p.1 - solids) hit))
    (bodies, spent)

/-- Gives every object its body back, from a list in the order of `bodies`. -/
@[specialize] def withBodies (b : Battle α π δ) (bodies : List (Body α)) (spent : List Bool) :
    Battle α π δ :=
  let ships := bodies
  let points := ships.drop b.ships.length
  let rocks := points.drop b.controlPoints.length
  let shots := rocks.drop b.asteroids.length
  { b with
    ships := b.ships.zipWith Ship.withBody ships
    controlPoints := b.controlPoints.zipWith (fun p body => { p with body }) points
    asteroids := b.asteroids.zipWith (fun a body => { a with body }) rocks
    projectiles := List.zipWith (fun body spent => ⟨body, spent⟩) shots spent }

/-- Finds and carries out the collisions of a tick. -/
@[specialize] def collide (b : Battle α π δ) : Battle α π δ :=
  let bodies := b.bodies
  let solids := bodies.length - b.projectiles.length
  let (objects, shots) := grids b.dt solids bodies
  let bodies := strikeSolids b.dt objects.pairs bodies
  let (bodies, spent) :=
    strikeShots b.dt solids (shots.pairsWith objects) bodies (b.projectiles.map (·.spent))
  b.withBodies bodies spent

end FleetArena.Battle
