import FleetArena.Part

/-! The reasons why a battle cannot start. -/
namespace FleetArena

/-- What makes a ship unfit to fly. -/
inductive ShipFault (α : Type) where
  | noParts
  | part (fault : PartFault α)
deriving Repr, DecidableEq

/-- The bodies that a map places. -/
inductive MapObject where
  | controlPoint
  | asteroid
deriving Repr, DecidableEq

/-- A setting that is out of range. -/
inductive ConfigFault (α : Type) where
  | tickSeconds (dt : α)
  | frameRate
  | maxTicks
  | arenaRadius (radius : α)
  | mass (object : MapObject) (mass : α)
  | radius (object : MapObject) (radius : α)
  | scoring (influence points : α)
  | duplicateFleet (name : String)
deriving Repr, DecidableEq

inductive SetupError (α : Type) where
  | invalidPosition (coordinates : List α)
  | unknownPilot (name : String)
  | partNotAvailable (kind : PartKind) (name : String)
  | overlappingParts (fleet : String) (first second : Vec3 α)
  | invalidShip (fleet : String) (fault : ShipFault α)
  | fleetTooHeavy (fleet : String) (mass limit : α)
  | tooManyFleets (limit : Nat)
  | invalidConfig (fault : ConfigFault α)
deriving Repr, DecidableEq

/-- The vector of a list of three finite coordinates. -/
def Vec3.ofCoordinates {α : Type} [Scalar α] : List α → Except (SetupError α) (Vec3 α)
  | [x, y, z] =>
    if (⟨x, y, z⟩ : Vec3 α).isFinite then .ok ⟨x, y, z⟩ else .error (.invalidPosition [x, y, z])
  | coordinates => .error (.invalidPosition coordinates)

end FleetArena
