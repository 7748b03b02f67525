import Mathlib
import FleetArena.Grid

/-! What a grid holds: the members of a sector after an insertion, and the pairs that are read off
the sectors. None of it depends on the geometry. -/
namespace FleetArena

theorem mem_dropRepeats (p : Nat × Nat) (l : List (Nat × Nat)) : p ∈ dropRepeats l ↔ p ∈ l := by
  fun_induction dropRepeats l with
  | case1 q rest ih => rw [ih]; simp
  | case2 q r rest _ ih => rw [List.mem_cons, ih, ← List.mem_cons]
  | case3 => rfl

theorem mem_distinctPairs (p : Nat × Nat) (l : List (Nat × Nat)) :
    p ∈ distinctPairs l ↔ p ∈ l := by
  rw [distinctPairs, mem_dropRepeats, List.mem_mergeSort]

theorem mem_unorderedPairs (i j : Nat) (l : List Nat) :
    (i, j) ∈ unorderedPairs l ↔ i < j ∧ i ∈ l ∧ j ∈ l := by
  induction l with
  | nil => simp [unorderedPairs]
  | cons a rest ih =>
    simp only [unorderedPairs, List.mem_append, ih, List.mem_map, List.mem_filter, List.mem_cons,
      Prod.mk.injEq, decide_eq_true_eq]
    -- a pair is of the first member and a later one, or of two later ones
    constructor
    · rintro (⟨b, ⟨hb, hne⟩, rfl, rfl⟩ | ⟨hlt, hi, hj⟩)
      · rcases lt_or_gt_of_ne hne with h | h
        · rw [min_eq_right h.le, max_eq_left h.le]
          exact ⟨h, Or.inr hb, Or.inl rfl⟩
        · rw [min_eq_left h.le, max_eq_right h.le]
          exact ⟨h, Or.inl rfl, Or.inr hb⟩
      · exact ⟨hlt, Or.inr hi, Or.inr hj⟩
    · rintro ⟨hlt, rfl | hi, rfl | hj⟩
      · omega
      · exact Or.inl ⟨j, ⟨hj, by omega⟩, by omega, by omega⟩
      · exact Or.inl ⟨i, ⟨hi, by omega⟩, by omega, by omega⟩
      · exact Or.inr ⟨hlt, hi, hj⟩

theorem nodup_eraseDups (l : List Int) : l.eraseDups.Nodup := by
  cases l with
  | nil => simp
  | cons a rest =>
    rw [List.eraseDups_cons, List.nodup_cons]
    exact ⟨by simp [List.mem_eraseDups], nodup_eraseDups _⟩
termination_by l.length
decreasing_by exact Nat.lt_succ_of_le (List.length_filter_le _ _)

namespace Grid

theorem getD_file (cells : Std.HashMap Sector (List Nat)) (index : Nat) (s t : Sector) :
    (file cells index s).getD t [] =
      if t = s then cells.getD t [] ++ [index] else cells.getD t [] := by
  rw [file, Std.HashMap.getD_alter]
  by_cases h : t = s
  · simp [h, Std.HashMap.getD_eq_getD_getElem?]
  · simp [h, Ne.symm h]

/-- Filing under distinct sectors puts the object behind the members of each of them, once. -/
theorem getD_foldl_file (index : Nat) (t : Sector) {sectors : List Sector} (hn : sectors.Nodup)
    (cells : Std.HashMap Sector (List Nat)) :
    (sectors.foldl (fun cells s => file cells index s) cells).getD t [] =
      if t ∈ sectors then cells.getD t [] ++ [index] else cells.getD t [] := by
  -- the induction is on the sectors, whatever has been filed before
  induction sectors generalizing cells with
  | nil => simp
  | cons s rest ih =>
    obtain ⟨hs, hr⟩ := List.nodup_cons.mp hn
    rw [List.foldl_cons, ih hr, getD_file]
    by_cases ht : t = s
    · -- the sector does not come again among the rest
      subst ht
      simp [hs]
    · simp [ht]

variable {α : Type} [Scalar α]

theorem mem_cover (g : Grid α) (center : Vec3 α) (extent : α) (s : Sector) :
    s ∈ g.cover center extent ↔ s.1 ∈ g.span center.x extent ∧
      s.2.1 ∈ g.span center.y extent ∧ s.2.2 ∈ g.span center.z extent := by
  obtain ⟨x, y, z⟩ := s
  simp [cover]

/-- There is no object without a sector. -/
theorem exists_mem_cover (g : Grid α) (center : Vec3 α) (extent : α) :
    ∃ s, s ∈ g.cover center extent := by
  have hspan (c : α) : g.coordinate (c + 0.0 * extent) ∈ g.span c extent := by
    simp [span]
  exact ⟨(_, _, _), (mem_cover _ _ _ _).mpr ⟨hspan _, hspan _, hspan _⟩⟩

/-- The borders between sectors depend on their size alone. -/
theorem cover_congr {g h : Grid α} (hsize : g.size = h.size) (center : Vec3 α) (extent : α) :
    g.cover center extent = h.cover center extent := by
  simp only [cover, span, coordinate, hsize]

/-- The three loops run through a product. -/
theorem cover_eq_product (g : Grid α) (center : Vec3 α) (extent : α) : g.cover center extent =
    g.span center.x extent ×ˢ g.span center.y extent ×ˢ g.span center.z extent := by
  simp [cover, SProd.sprod, List.product, List.map_flatMap, Function.comp_def]

theorem nodup_cover (g : Grid α) (center : Vec3 α) (extent : α) :
    (g.cover center extent).Nodup := by
  have hspan (c : α) : (g.span c extent).Nodup := nodup_eraseDups _
  rw [cover_eq_product]
  exact (hspan _).product ((hspan _).product (hspan _))

theorem members_insert (g : Grid α) (index : Nat) (center : Vec3 α) (extent : α) (s : Sector) :
    (g.insert index center extent).members s =
      if s ∈ g.cover center extent then g.members s ++ [index] else g.members s :=
  getD_foldl_file index s (nodup_cover g center extent) g.cells

/-- Files some objects one after the other, each with its number, centre and extent. -/
def insertAll (g : Grid α) (entries : List (Nat × Vec3 α × α)) : Grid α :=
  entries.foldl (fun g e => g.insert e.1 e.2.1 e.2.2) g

theorem size_insertAll (g : Grid α) (entries : List (Nat × Vec3 α × α)) :
    (g.insertAll entries).size = g.size := by
  induction entries generalizing g with
  | nil => rfl
  | cons e rest ih => exact ih _

theorem mem_members_insertAll (g : Grid α) (entries : List (Nat × Vec3 α × α)) (index : Nat)
    (t : Sector) : index ∈ (g.insertAll entries).members t ↔
      index ∈ g.members t ∨ ∃ e ∈ entries, e.1 = index ∧ t ∈ g.cover e.2.1 e.2.2 := by
  induction entries generalizing g with
  | nil => simp [insertAll]
  | cons e rest ih =>
    -- an insertion moves no border between sectors
    have hcover (c : Vec3 α) (x : α) : (g.insert e.1 e.2.1 e.2.2).cover c x = g.cover c x := rfl
    have hcons : g.insertAll (e :: rest) = (g.insert e.1 e.2.1 e.2.2).insertAll rest := rfl
    rw [hcons, ih, members_insert]
    simp only [hcover, List.exists_mem_cons_iff]
    by_cases ht : t ∈ g.cover e.2.1 e.2.2
    · simp only [ht, if_true, List.mem_append, List.mem_singleton, and_true]
      tauto
    · simp [ht]

omit [Scalar α] in
theorem mem_members_iff (g : Grid α) (index : Nat) (s : Sector) :
    index ∈ g.members s ↔ ∃ l, g.cells[s]? = some l ∧ index ∈ l := by
  rw [members, Std.HashMap.getD_eq_getD_getElem?]
  cases g.cells[s]? <;> simp

omit [Scalar α] in
theorem mem_pairs_iff (g : Grid α) (i j : Nat) :
    (i, j) ∈ g.pairs ↔ i < j ∧ ∃ s, i ∈ g.members s ∧ j ∈ g.members s := by
  simp only [pairs, mem_distinctPairs, List.mem_flatMap, mem_unorderedPairs]
  constructor
  · rintro ⟨⟨s, l⟩, hl, hlt, hi, hj⟩
    have hl := Std.HashMap.mem_toList_iff_getElem?_eq_some.mp hl
    exact ⟨hlt, s, (mem_members_iff g i s).mpr ⟨l, hl, hi⟩, (mem_members_iff g j s).mpr ⟨l, hl, hj⟩⟩
  · rintro ⟨hlt, s, hi, hj⟩
    -- under one sector there is one list, so that both are in the same
    obtain ⟨l, hl, hi⟩ := (mem_members_iff g i s).mp hi
    obtain ⟨m, hm, hj⟩ := (mem_members_iff g j s).mp hj
    obtain rfl : l = m := Option.some.inj (hl.symm.trans hm)
    exact ⟨(s, l), Std.HashMap.mem_toList_iff_getElem?_eq_some.mpr hl, hlt, hi, hj⟩

omit [Scalar α] in
theorem mem_pairsWith_iff (g h : Grid α) (i j : Nat) :
    (i, j) ∈ g.pairsWith h ↔ ∃ s, i ∈ g.members s ∧ j ∈ h.members s := by
  simp only [pairsWith, mem_distinctPairs, List.mem_flatMap, List.mem_map, Prod.mk.injEq]
  constructor
  · rintro ⟨⟨s, l⟩, hl, i, hi, j, hj, rfl, rfl⟩
    have hl := Std.HashMap.mem_toList_iff_getElem?_eq_some.mp hl
    exact ⟨s, (mem_members_iff g i s).mpr ⟨l, hl, hi⟩, hj⟩
  · rintro ⟨s, hi, hj⟩
    obtain ⟨l, hl, hi⟩ := (mem_members_iff g i s).mp hi
    exact ⟨(s, l), Std.HashMap.mem_toList_iff_getElem?_eq_some.mpr hl, i, hi, j, hj, rfl, rfl⟩

end Grid
end FleetArena
