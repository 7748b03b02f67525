import FleetArena.Part.Kind
import FleetArena.Table

/-! Part specifications, and the catalog that names them. -/
namespace FleetArena

structure EngineSpec (α : Type) where
  mass : α
  radius : α
  /-- The energy produced in each tick at full power. -/
  energy : α
  health : Option α := none
deriving Repr, DecidableEq

structure ThrusterSpec (α : Type) where
  mass : α
  radius : α
  /-- The greatest force. -/
  force : α
  /-- The energy drawn at the greatest force. -/
  energy : α
  health : Option α := none
deriving Repr, DecidableEq

structure WeaponSpec (α : Type) where
  /-- The mass of the empty weapon. -/
  mass : α
  radius : α
  /-- The energy drawn by each shot. -/
  energy : α
  /-- The muzzle speed relative to the ship. -/
  ammoVelocity : α
  /-- The mass of one round. -/
  ammoMass : α
  ammoRadius : α
  /-- The rounds loaded at the start. -/
  ammoCapacity : Nat
  /-- The seconds between two shots. -/
  cooldown : α
  health : Option α := none
deriving Repr, DecidableEq

structure SensorSpec (α : Type) where
  mass : α
  radius : α
  /-- The energy drawn by each scan. -/
  energy : α
  /-- The emitted power; what comes back falls with the square of the distance. -/
  power : α
  health : Option α := none
deriving Repr, DecidableEq

/-- The parts that a roster may name, by kind. -/
structure Catalog (α : Type) where
  engines : Table String (EngineSpec α) := ∅
  thrusters : Table String (ThrusterSpec α) := ∅
  weapons : Table String (WeaponSpec α) := ∅
  sensors : Table String (SensorSpec α) := ∅

/-- A catalog with one part of each kind. -/
def Catalog.standard {α : Type} [Scalar α] : Catalog α where
  engines := .ofList [("fusion", ⟨200.0, 2.0, 100.0, none⟩)]
  thrusters := .ofList [("ion", ⟨100.0, 1.0, 20000.0, 20.0, none⟩)]
  weapons := .ofList [("railgun", ⟨300.0, 1.5, 30.0, 400.0, 1.0, 0.2, 200, 0.5, none⟩)]
  sensors := .ofList [("radar", ⟨50.0, 1.0, 5.0, 1e6, none⟩)]

end FleetArena
