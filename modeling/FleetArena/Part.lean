import FleetArena.Part.Engine
import FleetArena.Part.Sensor
import FleetArena.Part.Thruster
import FleetArena.Part.Weapon

/-! A part of any kind, and the parameters that a part must not have. -/
namespace FleetArena

inductive Part (α : Type) where
  | engine (engine : Engine α)
  | thruster (thruster : Thruster α)
  | weapon (weapon : Weapon α)
  | sensor (sensor : Sensor α)
deriving Repr, DecidableEq

/-- A parameter of a part that would poison the motion of its ship. -/
inductive PartFault (α : Type) where
  | position (position : Vec3 α)
  | mass (mass : α)
  | radius (radius : α)
  | force (force : α)
  | ammoMass (mass : α)
  | ammoVelocityOrRadius
  | cooldown (cooldown : α)
deriving Repr, DecidableEq

namespace Part
variable {α : Type}

def kind : Part α → PartKind
  | engine _ => .engine
  | thruster _ => .thruster
  | weapon _ => .weapon
  | sensor _ => .sensor

def mount : Part α → Mount α
  | engine e => e.mount
  | thruster t => t.mount
  | weapon w => w.mount
  | sensor s => s.mount

variable [Scalar α]

/-- Weapons count the rounds that are left. -/
def mass : Part α → α
  | weapon w => w.mass
  | part => part.mount.mass

/-- Whether a quantity is finite and positive. -/
def isPositive (x : α) : Bool :=
  Scalar.isFinite x && decide (x > 0.0)

/-- Whether a quantity is finite and not negative. -/
def isNonNegative (x : α) : Bool :=
  Scalar.isFinite x && decide (x ≥ 0.0)

end Part

variable {α : Type} [Scalar α]

/-- The first fault of a mount. -/
def Mount.fault? (m : Mount α) : Option (PartFault α) :=
  if !m.position.isFinite then some (.position m.position)
  else if !Part.isPositive m.mass then some (.mass m.mass)
  else if !Part.isNonNegative m.radius then some (.radius m.radius)
  else none

/-- The first fault of a part: of its mount, then of what its kind adds to it. -/
def Part.fault? (p : Part α) : Option (PartFault α) :=
  p.mount.fault?.or <|
    match p with
    | .thruster t => if !isPositive t.force then some (.force t.force) else none
    | .weapon w =>
      if !isPositive w.ammoMass then some (.ammoMass w.ammoMass)
      else if !Scalar.isFinite w.ammoVelocity || !Scalar.isFinite w.ammoRadius then
        some .ammoVelocityOrRadius
      else if !isNonNegative w.cooldown then some (.cooldown w.cooldown)
      else none
    | .engine _ | .sensor _ => none

end FleetArena
