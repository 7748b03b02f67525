import FleetArena.Nav
import FleetArena.Roster

/-! Pilots: they decide for one ship. A pilot sees its own vessel and the readings of its sensors,
and acts through a plan only. -/
namespace FleetArena

class Pilot (α : Type) [Scalar α] (π : Type) where
  /-- Tells a pilot, once before the battle, for which fleet it flies. -/
  joinFleet : String → π → π := fun _ pilot => pilot
  /-- Chooses the parts of the ship from a catalog. -/
  link : Catalog α → α → List (RosterPart α) → π → Except (SetupError α) (List (Part α) × π) :=
    fun catalog dt entries pilot => (catalog.link dt entries).map fun parts => (parts, pilot)
  /-- What the pilot does in a tick, and what it is afterwards. -/
  tick : Nat → π → Plan α π

end FleetArena
