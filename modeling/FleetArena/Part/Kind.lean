import FleetArena.Vec3

/-! The kinds of ship part, and the reasons why a part refuses to act. -/
namespace FleetArena

inductive PartKind where
  | engine
  | thruster
  | weapon
  | sensor
deriving Repr, DecidableEq

namespace PartKind

def name : PartKind → String
  | engine => "engine"
  | thruster => "thruster"
  | weapon => "weapon"
  | sensor => "sensor"

/-- The kind of a given name. -/
def ofName? : String → Option PartKind
  | "engine" => some engine
  | "thruster" => some thruster
  | "weapon" => some weapon
  | "sensor" => some sensor
  | _ => none

end PartKind

/-- Why an action of a part did not happen. -/
inductive ActionError (α : Type) where
  | outOfEnergy
  | outOfAmmo
  | alreadyUsed (kind : PartKind)
  | coolingDown (remaining : Nat)
  | invalidDirection (direction : Vec3 α)
  | invalidPower (fraction : α)
  | noSuchPart (kind : PartKind) (index : Nat)
deriving Repr, DecidableEq

end FleetArena
