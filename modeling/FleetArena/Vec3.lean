import FleetArena.Scalar

/-! Vectors of three quantities. Every operation acts on the components from `x` to `z`. -/
namespace FleetArena

structure Vec3 (α : Type) where
  x : α
  y : α
  z : α
deriving Repr, DecidableEq, Inhabited

namespace Vec3
variable {α : Type} [Scalar α]

def zero : Vec3 α := ⟨0.0, 0.0, 0.0⟩

/-- The unit vector along the first axis. -/
def unitX : Vec3 α := ⟨1.0, 0.0, 0.0⟩

@[inline] instance : Add (Vec3 α) := ⟨fun a b => ⟨a.x + b.x, a.y + b.y, a.z + b.z⟩⟩
@[inline] instance : Sub (Vec3 α) := ⟨fun a b => ⟨a.x - b.x, a.y - b.y, a.z - b.z⟩⟩
@[inline] instance : Neg (Vec3 α) := ⟨fun a => ⟨-a.x, -a.y, -a.z⟩⟩
@[inline] instance : HMul (Vec3 α) α (Vec3 α) := ⟨fun a s => ⟨a.x * s, a.y * s, a.z * s⟩⟩
@[inline] instance : HDiv (Vec3 α) α (Vec3 α) := ⟨fun a s => ⟨a.x / s, a.y / s, a.z / s⟩⟩

@[inline] def dot (a b : Vec3 α) : α :=
  a.x * b.x + a.y * b.y + a.z * b.z

@[inline] def lengthSquared (a : Vec3 α) : α :=
  a.dot a

@[inline] def length (a : Vec3 α) : α :=
  Scalar.sqrt a.lengthSquared

@[inline] def distance (a b : Vec3 α) : α :=
  (a - b).length

@[inline] def distanceSquared (a b : Vec3 α) : α :=
  (a - b).lengthSquared

@[inline] def isFinite (a : Vec3 α) : Bool :=
  Scalar.isFinite a.x && Scalar.isFinite a.y && Scalar.isFinite a.z

/-- The vector scaled to length one. There is none when the reciprocal of the length is not a
positive finite quantity. -/
@[inline] def normalize? (a : Vec3 α) : Option (Vec3 α) :=
  let r := 1.0 / a.length
  if Scalar.isFinite r && decide (0.0 < r) then some (a * r) else none

/-- The unit vector along `a`. There is none for a vector that is zero or not finite. -/
@[inline] def direction? (a : Vec3 α) : Option (Vec3 α) :=
  if a.isFinite then a.normalize? else none

def toList (a : Vec3 α) : List α :=
  [a.x, a.y, a.z]

end Vec3

namespace Scalar
variable {α : Type} [Scalar α]

/-- The surface area of a sphere of radius `r`. -/
@[inline] def sphereArea (r : α) : α :=
  4.0 * pi * r * r

end Scalar
end FleetArena
