import FleetArena.Vec3

/-! Bodies: spheres with a mass, a motion and a health. -/
namespace FleetArena

/-- Objects are numbered from one in the order of their creation. -/
abbrev ObjectId := Nat

structure Body (α : Type) where
  id : ObjectId
  position : Vec3 α
  velocity : Vec3 α
  radius : α
  mass : α
  /-- A body without health left is destroyed. -/
  health : α
deriving Repr, DecidableEq

/-- The two parts of a body's motion. -/
inductive Motion where
  | position
  | velocity
deriving Repr, DecidableEq

namespace Body
variable {α : Type} [Scalar α]

/-- A body that does not move. -/
def atRest (id : ObjectId) (position : Vec3 α) (radius mass health : α) : Body α :=
  ⟨id, position, .zero, radius, mass, health⟩

def withVelocity (b : Body α) (velocity : Vec3 α) : Body α :=
  { b with velocity }

/-- Bodies of infinite mass cannot be pushed: their inverse mass is zero. -/
@[inline] def inverseMass (b : Body α) : α :=
  if Scalar.isInfinite b.mass then 0.0 else 1.0 / b.mass

/-- The body after it has moved for a time `dt` at its velocity. -/
@[inline] def integrate (b : Body α) (dt : α) : Body α :=
  { b with position := b.position + b.velocity * dt }

/-- How far from its centre a body may reach within a time `dt`. -/
@[inline] def extent (b : Body α) (dt : α) : α :=
  b.radius + b.velocity.length * dt

@[inline] def isDestroyed (b : Body α) : Bool :=
  decide (b.health ≤ 0.0)

/-- Whether the centre lies beyond a sphere about the origin. -/
@[inline] def isOutside (b : Body α) (arenaRadius : α) : Bool :=
  decide (b.position.length > arenaRadius)

def kineticEnergy (b : Body α) : α :=
  0.5 * b.mass * b.velocity.lengthSquared

/-- The first part of the motion that is not finite. -/
@[inline] def nonFinite? (b : Body α) : Option Motion :=
  if !b.position.isFinite then some .position
  else if !b.velocity.isFinite then some .velocity
  else none

end Body
end FleetArena
