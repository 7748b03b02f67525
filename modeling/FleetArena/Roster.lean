import FleetArena.SetupError

/-! Rosters: the ships that a fleet brings, with the parts that each ship takes from a catalog. -/
namespace FleetArena

/-- One part of a ship: a name of the catalog and the offset from the centre of the ship. -/
structure RosterPart (α : Type) where
  kind : PartKind
  name : String
  position : List α
deriving Repr, DecidableEq

structure RosterShip (α : Type) where
  /-- The name of a registered pilot. -/
  pilot : String
  /-- The offset from the starting point of the fleet. -/
  position : List α
  parts : List (RosterPart α) := []
deriving Repr, DecidableEq

structure RosterFleet (α : Type) where
  name : String
  ships : List (RosterShip α) := []
deriving Repr, DecidableEq

variable {α : Type} [Scalar α]

/-- A ship with one part of each kind of the standard catalog. -/
def RosterShip.standard (pilot : String) (position : Vec3 α) : RosterShip α where
  pilot
  position := position.toList
  parts :=
    [⟨.engine, "fusion", [0.0, 0.0, 0.0]⟩,
      ⟨.thruster, "ion", [0.0, -4.0, 0.0]⟩,
      ⟨.weapon, "railgun", [4.0, 0.0, 0.0]⟩,
      ⟨.sensor, "radar", [0.0, 4.0, 0.0]⟩]

/-- The part of a catalog that a roster entry names, at its position. The length `dt` of a tick
serves to count the cooldown of weapons. -/
def RosterPart.link (catalog : Catalog α) (dt : α) (entry : RosterPart α) :
    Except (SetupError α) (Part α) := do
  let position ← Vec3.ofCoordinates entry.position
  let part? :=
    match entry.kind with
    | .engine => (catalog.engines.get? entry.name).map fun s => .engine (.ofSpec position s)
    | .thruster => (catalog.thrusters.get? entry.name).map fun s => .thruster (.ofSpec position s)
    | .weapon => (catalog.weapons.get? entry.name).map fun s => .weapon (.ofSpec position s dt)
    | .sensor => (catalog.sensors.get? entry.name).map fun s => .sensor (.ofSpec position s)
  match part? with
  | some part => .ok part
  | none => .error (.partNotAvailable entry.kind entry.name)

/-- The parts of a ship, in the order of the roster. The first entry that cannot be linked
decides the error. -/
def Catalog.link (catalog : Catalog α) (dt : α) (entries : List (RosterPart α)) :
    Except (SetupError α) (List (Part α)) :=
  entries.mapM (RosterPart.link catalog dt)

end FleetArena
