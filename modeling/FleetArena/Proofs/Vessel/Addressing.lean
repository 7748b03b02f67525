import FleetArena.Proofs.Setup.Edits
import FleetArena.Proofs.Vessel.Ending

/-! How parts are addressed. The parts of a kind keep the order in which the ship was given them, so
that the place of a part among those of its kind in the roster is its place for the pilot. -/
namespace FleetArena
variable {α : Type}

namespace Loadout

/-- The part that a pilot addresses by a kind and a place. -/
def part? (l : Loadout α) : Slot → Option (Part α)
  | ⟨.engine, i⟩ => l.engines[i]?.map .engine
  | ⟨.thruster, i⟩ => l.thrusters[i]?.map .thruster
  | ⟨.weapon, i⟩ => l.weapons[i]?.map .weapon
  | ⟨.sensor, i⟩ => l.sensors[i]?.map .sensor

/-- Sorting by kind keeps the order of the parts of one kind. -/
theorem part?_ofParts (parts : List (Part α)) (kind : PartKind) (i : Nat) :
    (ofParts parts).part? ⟨kind, i⟩ = (parts.filter (·.kind = kind))[i]? := by
  have h {β : Type} (pick : Part α → Option β) (make : β → Part α)
      (hpick : ∀ p, (pick p).map make = if p.kind = kind then some p else none) :
      (parts.filterMap pick)[i]?.map make = (parts.filter (·.kind = kind))[i]? := by
    rw [← List.getElem?_map, List.map_filterMap, ← List.filterMap_eq_filter]
    congr 2
    funext p
    rw [hpick p, Option.guard]
    simp
  cases kind with
  | engine => exact h _ .engine fun p => by cases p <;> rfl
  | thruster => exact h _ .thruster fun p => by cases p <;> rfl
  | weapon => exact h _ .weapon fun p => by cases p <;> rfl
  | sensor => exact h _ .sensor fun p => by cases p <;> rfl

end Loadout

variable [Scalar α] {c : Catalog α} {dt : α}

theorem RosterPart.kind_of_link {entry : RosterPart α} {part : Part α}
    (h : entry.link c dt = .ok part) : part.kind = entry.kind := by
  obtain ⟨kind, name, coordinates⟩ := entry
  obtain ⟨position, -, h⟩ := ok_of_bind h
  dsimp only at h
  split at h
  · rename_i found hfound
    obtain rfl := Except.ok.inj h
    cases kind with
    | engine =>
      obtain ⟨spec, -, rfl⟩ := Option.map_eq_some_iff.mp hfound
      rfl
    | thruster =>
      obtain ⟨spec, -, rfl⟩ := Option.map_eq_some_iff.mp hfound
      rfl
    | weapon =>
      obtain ⟨spec, -, rfl⟩ := Option.map_eq_some_iff.mp hfound
      rfl
    | sensor =>
      obtain ⟨spec, -, rfl⟩ := Option.map_eq_some_iff.mp hfound
      rfl
  · cases h

namespace Catalog
variable {entries : List (RosterPart α)} {parts : List (Part α)}

theorem forall₂_of_link (h : c.link dt entries = .ok parts) :
    List.Forall₂ (fun entry part => entry.link c dt = .ok part) entries parts := by
  induction entries generalizing parts with
  | nil =>
    obtain rfl := Except.ok.inj h
    exact .nil
  | cons entry rest ih =>
    rw [link, List.mapM_cons] at h
    obtain ⟨part, hpart, h⟩ := ok_of_bind h
    obtain ⟨later, hlater, h⟩ := ok_of_bind h
    obtain rfl := Except.ok.inj h
    exact .cons hpart (ih hlater)

/-- The entry at a place among those of its kind in a roster becomes the part at the same place
among those of its kind in the ship. -/
theorem getElem?_of_link (h : c.link dt entries = .ok parts) (kind : PartKind) (i : Nat) :
    (entries.filter (·.kind = kind))[i]?.map (·.link c dt) =
      ((Loadout.ofParts parts).part? ⟨kind, i⟩).map .ok := by
  have hkinds : List.Forall₂ (fun entry part => entry.link c dt = .ok part)
      (entries.filter (·.kind = kind)) (parts.filter (·.kind = kind)) := by
    refine List.rel_filter ?_ (forall₂_of_link h)
    intro entry part hpart
    beta_reduce
    rw [RosterPart.kind_of_link hpart]
  have hmap := map_eq_of_forall₂ (f := (·.link c dt)) (g := Except.ok) hkinds
    fun _ _ hpart => hpart.symm
  rw [Loadout.part?_ofParts, ← List.getElem?_map, ← List.getElem?_map, hmap]

end Catalog
end FleetArena
