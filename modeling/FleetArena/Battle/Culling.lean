import FleetArena.Battle.State

/-! Culling: what is destroyed, has left the arena or is spent is removed. Control points and
asteroids stay. -/
namespace FleetArena.Battle
variable {α π δ : Type} [Scalar α]

/-- Whether a body is destroyed or outside the arena. -/
@[inline] def isGone (b : Battle α π δ) (body : Body α) : Bool :=
  body.isDestroyed || body.isOutside b.arenaRadius

/-- Removes objects from what the drawer knows, and remembers those it has to be told about. -/
def forget (b : Battle α π δ) (removed : List ObjectId) : Battle α π δ :=
  { b with
    drawn := b.drawn.filter (!removed.contains ·)
    deleted := b.deleted ++ removed.filter (b.drawn.contains ·) }

/-- The battle without what is gone, and the ships that were removed. -/
@[specialize] def cull (b : Battle α π δ) : Battle α π δ × List (Ship α π) :=
  let (lost, ships) := b.ships.partition fun s => b.isGone s.body
  let (used, projectiles) := b.projectiles.partition fun p => p.spent || b.isGone p.body
  (forget { b with ships, projectiles } (lost.map Ship.id ++ used.map (·.body.id)), lost)

end FleetArena.Battle
