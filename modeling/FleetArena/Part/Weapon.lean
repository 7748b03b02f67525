import FleetArena.Hull
import FleetArena.Part.Mount
import FleetArena.Part.Spec

/-! Weapons: they fire projectiles and pay for each shot with energy and the mass of a round. -/
namespace FleetArena

structure Weapon (α : Type) where
  mount : Mount α
  /-- The energy drawn by each shot. -/
  energy : α
  ammoVelocity : α
  ammoMass : α
  ammoRadius : α
  /-- The rounds that are left. -/
  ammo : Nat
  /-- The seconds between two shots. -/
  cooldown : α
  cooldownTicks : Nat
  lastShot : Option Nat
deriving Repr, DecidableEq

/-- A projectile that has been fired and is not yet in the arena. -/
structure Shot (α : Type) where
  position : Vec3 α
  velocity : Vec3 α
  mass : α
  radius : α
deriving Repr, DecidableEq

namespace Weapon
variable {α : Type} [Scalar α]

/-- The gap between the hull of a ship and a projectile that it has just fired. -/
@[inline] def clearance : α := 1.0

/-- The length `dt` of a tick turns the seconds of the cooldown into ticks. -/
def ofSpec (position : Vec3 α) (spec : WeaponSpec α) (dt : α) : Weapon α where
  mount := .place position spec.radius spec.mass spec.health
  energy := spec.energy
  ammoVelocity := spec.ammoVelocity
  ammoMass := spec.ammoMass
  ammoRadius := spec.ammoRadius
  ammo := spec.ammoCapacity
  cooldown := spec.cooldown
  cooldownTicks := Scalar.ticks (spec.cooldown / dt)
  lastShot := none

/-- The mass of the empty weapon and of the rounds that are left. -/
@[inline] def mass (w : Weapon α) : α :=
  w.mount.mass + Scalar.ofNat w.ammo * w.ammoMass

omit [Scalar α] in
/-- The ticks until the weapon can fire again, if it is cooling down. No weapon cools down beyond
the last tick. -/
def cooldownRemaining? (w : Weapon α) (tick : Nat) : Option Nat :=
  w.lastShot.bind fun shot =>
    let ready := Nat.min lastTick (shot + w.cooldownTicks)
    if tick < ready then some (ready - tick) else none

/-- Fires along `direction`. Nothing but the mount and the energy changes unless the shot happens.
Then the ship is one round lighter and recoils, and the projectile starts just outside the hull,
at the velocity of the hull plus the muzzle velocity. -/
@[specialize] def fire (w : Weapon α) (hull : Hull α) (tick : Nat) (direction : Vec3 α) :
    Weapon α × Hull α × Except (ActionError α) (Shot α) :=
  if w.mount.used then (w, hull, .error (.alreadyUsed .weapon))
  else
    let w := { w with mount := w.mount.markUsed }
    match direction.direction? with
    | none => (w, hull, .error (.invalidDirection direction))
    | some unit =>
      if w.ammo = 0 then (w, hull, .error .outOfAmmo)
      else
        match w.cooldownRemaining? tick with
        | some remaining => (w, hull, .error (.coolingDown remaining))
        | none =>
          match hull.spend w.energy with
          | (hull, .error e) => (w, hull, .error e)
          | (hull, .ok ()) =>
            let hull := (hull.shed w.ammoMass).push (-unit) (w.ammoMass * w.ammoVelocity)
            let shot :=
              { position := hull.body.position +
                  unit * (hull.body.radius + w.ammoRadius + clearance)
                velocity := hull.body.velocity + unit * w.ammoVelocity
                mass := w.ammoMass
                radius := w.ammoRadius }
            ({ w with ammo := w.ammo - 1, lastShot := some tick }, hull, .ok shot)

def release (w : Weapon α) : Weapon α :=
  { w with mount := w.mount.release }

end Weapon
end FleetArena
