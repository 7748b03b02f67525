import FleetArena.Part.Kind

/-! Mounts: where a part sits on its ship, what it weighs, and whether it has acted this tick. -/
namespace FleetArena

structure Mount (α : Type) where
  /-- The offset from the centre of the ship. -/
  position : Vec3 α
  radius : α
  mass : α
  health : α
  used : Bool
deriving Repr, DecidableEq

namespace Mount
variable {α : Type}

/-- An unused mount. A part whose health is not given has as much health as mass. -/
def place (position : Vec3 α) (radius mass : α) (health : Option α) : Mount α :=
  ⟨position, radius, mass, health.getD mass, false⟩

/-- Marks a mount as used for the rest of the tick. -/
def markUsed (m : Mount α) : Mount α :=
  { m with used := true }

/-- Makes a mount ready for the next tick. -/
def release (m : Mount α) : Mount α :=
  { m with used := false }

variable [Scalar α]

/-- The distance from the centre of the ship to the far side of the part. -/
def reach (m : Mount α) : α :=
  m.position.length + m.radius

/-- Whether two parts share space. Parts that only touch do not. -/
def overlaps (m n : Mount α) : Bool :=
  decide (m.position.distance n.position < m.radius + n.radius)

end Mount
end FleetArena
