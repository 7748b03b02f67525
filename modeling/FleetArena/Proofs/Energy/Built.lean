import FleetArena.Proofs.Energy.Sound

/-! The parts of a vessel that is built are sound, and its mass is theirs. -/
namespace FleetArena
open Exact

theorem Vessel.sound_of_build {id : ObjectId} {fleet : String} {position : Vec3 Exact}
    {parts : List (Part Exact)} {dt : Exact} {v : Vessel Exact}
    (hbuild : build id fleet position parts dt = .ok v)
    (hmade : ∀ e, .engine e ∈ parts → Engine.Made e) : v.loadout.Sound v.hull.body.mass := by
  obtain ⟨hcheck, rfl⟩ := build_eq_ok_iff.mp hbuild
  -- the check is of the parts in the order of the list, and the loadout has the same ones by kind
  obtain ⟨hne, hfault⟩ := sound_of_checkParts hcheck
  have hperm := toParts_ofParts_perm parts
  have hmem (p : Part Exact) (hp : p ∈ (Loadout.ofParts parts).toParts) : p ∈ parts :=
    hperm.mem_iff.mp hp
  simp only [Loadout.toParts, List.mem_append, List.mem_map] at hmem
  refine ⟨?_, ?_, laden_of_build hbuild⟩
  · intro e he
    exact hmade e (hmem _ (Or.inl (Or.inl (Or.inl ⟨e, he, rfl⟩))))
  · intro t ht
    have hp := hfault _ (hmem (.thruster t) (Or.inl (Or.inl (Or.inr ⟨t, ht, rfl⟩))))
    exact Part.isPositive_iff.mp ((Part.sound_of_fault hp).2.1 t rfl)

end FleetArena
