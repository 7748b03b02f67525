import FleetArena.Proofs.Grid.Cover

/-! What a grid is for: an object is listed by the sectors that its cube touches, each of which
lists it once, and two objects are paired if one sector lists both. In which order the objects have
been filed does not matter to the pairs. -/
namespace FleetArena

section
variable {l l' : List (Nat × Nat)}

theorem pairLE_iff (p q : Nat × Nat) : pairLE p q = true ↔ toLex p ≤ toLex q := by
  rw [Prod.Lex.toLex_le_toLex, pairLE]
  simp

/-- In ascending order every pair is met once. -/
theorem ascending_dropRepeats (h : l.Pairwise fun p q => toLex p ≤ toLex q) :
    (dropRepeats l).Pairwise fun p q => toLex p < toLex q := by
  fun_induction dropRepeats l with
  | case1 q rest ih => exact ih h.tail
  | case2 p q rest hne ih =>
    obtain ⟨hp, hrest⟩ := List.pairwise_cons.mp h
    have hpq : toLex p < toLex q := lt_of_le_of_ne (hp q List.mem_cons_self) hne
    refine List.pairwise_cons.mpr ⟨fun r hr => ?_, ih hrest⟩
    rcases List.mem_cons.mp ((mem_dropRepeats r _).mp hr) with rfl | hr
    · exact hpq
    · exact hpq.trans_le ((List.pairwise_cons.mp hrest).1 r hr)
  | case3 short hshort =>
    rcases short with _ | ⟨p, _ | ⟨q, rest⟩⟩
    · exact .nil
    · exact List.pairwise_singleton _ p
    · exact absurd rfl (hshort p q rest)

theorem ascending_distinctPairs (l : List (Nat × Nat)) :
    (distinctPairs l).Pairwise fun p q => toLex p < toLex q := by
  apply ascending_dropRepeats
  have htrans (p q r : Nat × Nat) : pairLE p q = true → pairLE q r = true → pairLE p r = true := by
    simpa only [pairLE_iff] using le_trans
  have htotal (p q : Nat × Nat) : (pairLE p q || pairLE q p) = true := by
    simpa only [Bool.or_eq_true, pairLE_iff] using le_total (toLex p) (toLex q)
  have hsorted := List.pairwise_mergeSort htrans htotal l
  simpa only [pairLE_iff] using hsorted

/-- There is one way only to put pairs in ascending order. -/
theorem eq_of_ascending (h : l.Pairwise fun p q => toLex p < toLex q)
    (h' : l'.Pairwise fun p q => toLex p < toLex q) (hmem : ∀ p, p ∈ l ↔ p ∈ l') : l = l' := by
  have hnodup {l : List (Nat × Nat)} (h : l.Pairwise fun p q => toLex p < toLex q) : l.Nodup := by
    refine h.imp ?_
    rintro p q hlt rfl
    exact lt_irrefl _ hlt
  have hperm : l.Perm l' := (List.perm_ext_iff_of_nodup (hnodup h) (hnodup h')).mpr hmem
  exact hperm.eq_of_pairwise (fun p q _ _ hpq hqp => absurd hpq hqp.not_gt) h h'

end

/-- The coordinates of a sector along the axes. -/
def Sector.along (t : Sector) : Fin 3 → ℤ :=
  ![t.1, t.2.1, t.2.2]

/-- The points of a sector of edge length `s`. Of its borders the lower ones belong to it. -/
def Sector.points (s : ℝ) (t : Sector) : Set Space :=
  {x | ∀ i, t.along i * s ≤ x i ∧ x i < (t.along i + 1) * s}

/-- The closed cube that reaches `e` from its centre along each axis. -/
def cube (center : Space) (e : ℝ) : Set Space :=
  {x | ∀ i, |x i - center i| ≤ e}

/-- The sectors of edge length `s` that a cube touches. -/
def touched (s : ℝ) (center : Space) (e : ℝ) : Set Sector :=
  {t | (t.points s ∩ cube center e).Nonempty}

namespace Grid
open Exact

section
variable {g : Grid Exact} {s e c : ℝ}

theorem sector_exact_eq_iff (hg : g.size = real s) (hs : 0 < s) (x : Space) (t : Sector) :
    g.sector (.exact x) = t ↔ x ∈ t.points s := by
  obtain ⟨i, j, k⟩ := t
  have hfloor (y : ℝ) (n : ℤ) : ⌊y / s⌋ = n ↔ n * s ≤ y ∧ y < (n + 1) * s := by
    rw [Int.floor_eq_iff, le_div_iff₀ hs, div_lt_iff₀ hs]
  simp only [sector, Vec3.exact, coordinate_real hg hs, Prod.mk.injEq, hfloor, Sector.points,
    Sector.along, Set.mem_ofPred_eq, Fin.forall_fin_succ]
  simp

/-- The sectors that hold an object are those that its cube touches. -/
theorem mem_cover_iff_touched (hg : g.size = real s) (hs : 0 < s) (he : 0 ≤ e) (hes : 2 * e ≤ s)
    (center : Space) (t : Sector) :
    t ∈ g.cover (.exact center) (real e) ↔ t ∈ touched s center e := by
  rw [mem_cover_iff hg hs he hes]
  simp only [sector_exact_eq_iff hg hs]
  constructor
  · rintro ⟨x, hcube, hpoints⟩
    exact ⟨x, hpoints, hcube⟩
  · rintro ⟨x, hpoints, hcube⟩
    exact ⟨x, hcube, hpoints⟩

/-- An interval that is no longer than a sector meets two of them at most. -/
theorem length_span_le (hg : g.size = real s) (hs : 0 < s) (he : 0 ≤ e) (hes : 2 * e ≤ s) :
    (g.span (real c) (real e)).length ≤ 2 := by
  have hmem : ∀ k ∈ g.span (real c) (real e), k ∈ [⌊(c - e) / s⌋, ⌊(c - e) / s⌋ + 1] := by
    intro k hk
    obtain ⟨x, hx, rfl⟩ := (mem_span_iff hg hs he hes k).mp hk
    obtain ⟨hlow, hhigh⟩ := abs_le.mp hx
    have hle : ⌊(c - e) / s⌋ ≤ ⌊x / s⌋ := floor_div_mono hs (by linarith)
    have hlt : ⌊x / s⌋ ≤ ⌊(c - e) / s⌋ + 1 := floor_div_le_add_one hs (by linarith)
    simp only [List.mem_cons, List.not_mem_nil, or_false]
    omega
  exact ((nodup_eraseDups _).subperm hmem).length_le

theorem length_cover_le (hg : g.size = real s) (hs : 0 < s) (he : 0 ≤ e) (hes : 2 * e ≤ s)
    (center : Space) : (g.cover (.exact center) (real e)).length ≤ 8 := by
  have hspan (c : ℝ) : (g.span (real c) (real e)).length ≤ 2 := length_span_le hg hs he hes
  rw [cover_eq_product, List.length_product, List.length_product]
  calc _ ≤ 2 * (2 * 2) := Nat.mul_le_mul (hspan _) (Nat.mul_le_mul (hspan _) (hspan _))
    _ = 8 := rfl

theorem encard_touched_le (hs : 0 < s) (he : 0 ≤ e) (hes : 2 * e ≤ s) (center : Space) :
    (touched s center e).encard ≤ 8 := by
  let g : Grid Exact := .empty (real s)
  have hcover : touched s center e = {t | t ∈ (g.cover (.exact center) (real e)).toFinset} := by
    ext t
    rw [Set.mem_ofPred_eq, List.mem_toFinset, mem_cover_iff_touched rfl hs he hes]
  rw [hcover]
  show ((g.cover (.exact center) (real e)).toFinset : Set Sector).encard ≤ 8
  rw [Set.encard_coe_eq_coe_finsetCard]
  have hcard := (g.cover (.exact center) (real e)).toFinset_card_le.trans
    (length_cover_le rfl hs he hes center)
  exact_mod_cast hcard

end

section
variable {α : Type} [Scalar α]

omit [Scalar α] in
theorem ascending_pairs (g : Grid α) : g.pairs.Pairwise fun p q => toLex p < toLex q :=
  ascending_distinctPairs _

omit [Scalar α] in
theorem ascending_pairsWith (g h : Grid α) :
    (g.pairsWith h).Pairwise fun p q => toLex p < toLex q :=
  ascending_distinctPairs _

/-- A sector lists the same objects in whichever order they have been filed. -/
theorem mem_members_insertAll_perm (g : Grid α) {entries entries' : List (Nat × Vec3 α × α)}
    (h : entries'.Perm entries) (index : Nat) (t : Sector) :
    index ∈ (g.insertAll entries').members t ↔ index ∈ (g.insertAll entries).members t := by
  rw [mem_members_insertAll, mem_members_insertAll]
  simp only [h.mem_iff]

theorem pairs_insertAll_perm (g : Grid α) {entries entries' : List (Nat × Vec3 α × α)}
    (h : entries'.Perm entries) : (g.insertAll entries').pairs = (g.insertAll entries).pairs := by
  apply eq_of_ascending (ascending_pairs _) (ascending_pairs _)
  rintro ⟨i, j⟩
  simp only [mem_pairs_iff, mem_members_insertAll_perm g h]

theorem pairsWith_insertAll_perm (g k : Grid α) {entries entries' others others' :
    List (Nat × Vec3 α × α)} (h : entries'.Perm entries) (h' : others'.Perm others) :
    (g.insertAll entries').pairsWith (k.insertAll others') =
      (g.insertAll entries).pairsWith (k.insertAll others) := by
  apply eq_of_ascending (ascending_pairsWith _ _) (ascending_pairsWith _ _)
  rintro ⟨i, j⟩
  simp only [mem_pairsWith_iff, mem_members_insertAll_perm _ h, mem_members_insertAll_perm _ h']

end

/-- An insertion puts the object once behind the members of every sector that its cube touches,
eight at most, and leaves all other sectors alone. After any insertions two objects are a pair if
one sector lists both, of one grid or of two; every pair comes once, and in which order the objects
have been filed makes no difference. -/
theorem members_touched_and_pairs_shared {s e : ℝ} {g : Grid Exact} (hg : g.size = real s)
    (hs : 0 < s) (he : 0 ≤ e) (hes : 2 * e ≤ s) (index : ℕ) (center : Space) {α : Type} [Scalar α]
    (mine theirs : Grid α) (filed others : List (ℕ × Vec3 α × α)) :
    (touched s center e).encard ≤ 8 ∧
      (∀ t ∈ touched s center e,
        (g.insert index (.exact center) (real e)).members t = g.members t ++ [index]) ∧
      (∀ t ∉ touched s center e,
        (g.insert index (.exact center) (real e)).members t = g.members t) ∧
      let a := mine.insertAll filed
      let b := theirs.insertAll others
      (∀ i j, (i, j) ∈ a.pairs ↔ i < j ∧ ∃ t, i ∈ a.members t ∧ j ∈ a.members t) ∧
        (∀ i j, (i, j) ∈ a.pairsWith b ↔ ∃ t, i ∈ a.members t ∧ j ∈ b.members t) ∧
        (a.pairs.Pairwise fun p q => toLex p < toLex q) ∧
        ((a.pairsWith b).Pairwise fun p q => toLex p < toLex q) ∧
        ∀ filed' others', filed'.Perm filed → others'.Perm others →
          (mine.insertAll filed').pairs = a.pairs ∧
            (mine.insertAll filed').pairsWith (theirs.insertAll others') = a.pairsWith b := by
  refine ⟨encard_touched_le hs he hes center, fun t ht => ?_, fun t ht => ?_, mem_pairs_iff _,
    mem_pairsWith_iff _ _, ascending_pairs _, ascending_pairsWith _ _, ?_⟩
  · rw [members_insert, if_pos ((mem_cover_iff_touched hg hs he hes center t).mpr ht)]
  · rw [members_insert, if_neg (mt (mem_cover_iff_touched hg hs he hes center t).mp ht)]
  · intro filed' others' hfiled hothers
    exact ⟨pairs_insertAll_perm mine hfiled, pairsWith_insertAll_perm mine theirs hfiled hothers⟩

/-- A cube as wide as a sector that fills one of them: the upper corner of the cube is the lower one
of another sector, which lists the object, and the sector below it does not. -/
theorem members_touched_and_pairs_shared_of_corner :
    let g : Grid Exact := .empty (real 100)
    let center : Space := !₂[150, 150, 150]
    let ship := (0, Vec3.exact center, real 50)
    let rock := (1, Vec3.exact !₂[10, 210, 30], real 20)
    (0 : ℝ) < 100 ∧ (0 : ℝ) ≤ 50 ∧ (2 : ℝ) * 50 ≤ 100 ∧
      (2, 2, 2) ∈ touched 100 center 50 ∧ (0, 0, 0) ∉ touched 100 center 50 ∧
      (g.insert 0 (.exact center) (real 50)).members (2, 2, 2) = [0] ∧
      (g.insert 0 (.exact center) (real 50)).members (0, 0, 0) = [] ∧
      [rock, ship].Perm [ship, rock] ∧
      (g.insertAll [rock, ship]).pairs = (g.insertAll [ship, rock]).pairs ∧
      (g.insertAll [rock, ship]).pairsWith (g.insertAll [rock, ship]) =
        (g.insertAll [ship, rock]).pairsWith (g.insertAll [ship, rock]) := by
  intro g center ship rock
  have hs : (0 : ℝ) < 100 := by norm_num
  have he : (0 : ℝ) ≤ 50 := by norm_num
  have hes : (2 : ℝ) * 50 ≤ 100 := by norm_num
  have hswap : [rock, ship].Perm [ship, rock] := .swap ship rock []
  have hempty (t : Sector) : g.members t = [] := by
    simp [g, members, empty]
  obtain ⟨-, htouched, hothers, -, -, -, -, hperm⟩ :=
    members_touched_and_pairs_shared (g := g) rfl hs he hes 0 center g g [ship, rock] [ship, rock]
  have hcorner : (2, 2, 2) ∈ touched 100 center 50 := by
    refine ⟨!₂[200, 200, 200], fun i => ?_, fun i => ?_⟩
    · fin_cases i <;> norm_num [Sector.along]
    · fin_cases i <;> norm_num [center]
  have hbelow : (0, 0, 0) ∉ touched 100 center 50 := by
    rintro ⟨x, hpoints, hcube⟩
    have hlt := (hpoints 0).2
    have hle := (abs_le.mp (hcube 0)).1
    norm_num [Sector.along, center] at hlt hle
    linarith
  refine ⟨hs, he, hes, hcorner, hbelow, ?_, ?_, hswap, hperm _ _ hswap hswap⟩
  · rw [htouched _ hcorner, hempty]
    rfl
  · rw [hothers _ hbelow, hempty]

end Grid
end FleetArena
