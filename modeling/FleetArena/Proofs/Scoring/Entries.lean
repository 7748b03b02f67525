import Mathlib
import FleetArena.Table

/-! The entries of a table: their order, and what an alteration does to the values. -/
namespace FleetArena.Table
variable {κ ν : Type} [Ord κ]

theorem pairwise_keys (t : Table κ ν) : t.keys.Pairwise fun a b => compare a b = .lt := by
  rw [keys, List.pairwise_map]
  exact t.ordered

theorem mem_keys_filter (t : Table κ ν) (p : κ → ν → Bool) (k : κ) :
    k ∈ (t.filter p).keys ↔ ∃ v, (k, v) ∈ t.entries ∧ p k v = true := by
  simp only [keys, filter, List.mem_map, List.mem_filter, Prod.exists]
  constructor
  · rintro ⟨k, v, h, rfl⟩
    exact ⟨v, h⟩
  · rintro ⟨v, h⟩
    exact ⟨k, v, h, rfl⟩

/-- What holds of all values still does after an alteration, if that keeps it. -/
theorem forall_alterEntries {P : ν → Prop} {k : κ} {f : Option ν → ν} {l : List (κ × ν)}
    (h : ∀ e ∈ l, P e.2) (hnone : P (f none)) (hsome : ∀ v, P v → P (f (some v))) :
    ∀ e ∈ alterEntries k f l, P e.2 := by
  induction l with
  | nil => exact List.forall_mem_singleton.mpr hnone
  | cons p rest ih =>
    obtain ⟨k', v⟩ := p
    obtain ⟨hv, hrest⟩ := List.forall_mem_cons.mp h
    rw [alterEntries]
    -- the key goes before the first one, is the first one, or comes after it
    split
    · exact List.forall_mem_cons.mpr ⟨hnone, h⟩
    · exact List.forall_mem_cons.mpr ⟨hsome v hv, hrest⟩
    · exact List.forall_mem_cons.mpr ⟨hv, ih hrest⟩

theorem subset_alterEntries (k : κ) (f : Option ν → ν) (l : List (κ × ν)) :
    l.map (·.1) ⊆ (alterEntries k f l).map (·.1) := by
  induction l with
  | nil => exact List.nil_subset _
  | cons p rest ih =>
    obtain ⟨k', v⟩ := p
    rw [alterEntries]
    split
    · exact List.subset_cons_self _ _
    · exact List.Subset.refl _
    · exact List.cons_subset_cons _ ih

variable [Std.TransOrd κ]

theorem nodup_entries (t : Table κ ν) : t.entries.Nodup := by
  refine t.ordered.imp fun {a b} hlt hab => ?_
  rw [hab] at hlt
  exact absurd hlt (Std.OrientedCmp.not_lt_of_lt hlt)

/-- A table is known by what is in it: there is only one way to put it in order. -/
theorem eq_of_mem_iff {t t' : Table κ ν} (h : ∀ e, e ∈ t.entries ↔ e ∈ t'.entries) : t = t' := by
  have hperm : t.entries.Perm t'.entries :=
    (List.perm_ext_iff_of_nodup t.nodup_entries t'.nodup_entries).mpr h
  have hentries : t.entries = t'.entries := by
    apply hperm.eq_of_pairwise _ t.ordered t'.ordered
    intro a b _ _ hab hba
    exact absurd hba (Std.OrientedCmp.not_lt_of_lt hab)
  cases t
  cases t'
  congr

theorem filter_congr {t t' : Table κ ν} {p : κ → ν → Bool}
    (h : ∀ e : κ × ν, p e.1 e.2 = true → (e ∈ t.entries ↔ e ∈ t'.entries)) :
    t.filter p = t'.filter p := by
  apply eq_of_mem_iff
  intro e
  rw [filter, filter, List.mem_filter, List.mem_filter]
  exact and_congr_left (h e)

/-- An alteration loses no key. -/
theorem subset_keys_alter (t : Table κ ν) (k : κ) (f : Option ν → ν) :
    t.keys ⊆ (t.alter k f).keys :=
  subset_alterEntries k f t.entries

theorem mem_keys_alter [Std.LawfulEqOrd κ] (t : Table κ ν) (k : κ) (f : Option ν → ν) :
    k ∈ (t.alter k f).keys := by
  show k ∈ (alterEntries k f t.entries).map (·.1)
  induction t.entries with
  | nil => exact List.mem_singleton_self k
  | cons p rest ih =>
    obtain ⟨k', v⟩ := p
    rw [alterEntries]
    split
    · exact List.mem_cons_self
    · rename_i heq
      rw [Std.LawfulEqCmp.eq_of_compare heq]
      exact List.mem_cons_self
    · exact List.mem_cons_of_mem _ ih

/-- The keys after an alteration are those before it and the one that is altered. -/
theorem mem_keys_alter_iff [Std.LawfulEqOrd κ] (t : Table κ ν) (k : κ) (f : Option ν → ν) (k' : κ) :
    k' ∈ (t.alter k f).keys ↔ k' = k ∨ k' ∈ t.keys := by
  constructor
  · intro h
    obtain ⟨e, he, rfl⟩ := List.mem_map.mp h
    rcases mem_alterEntries_key he with hk | ⟨e', he', hk⟩
    · exact Or.inl hk
    · exact Or.inr (List.mem_map.mpr ⟨e', he', hk⟩)
  · rintro (rfl | h)
    · exact t.mem_keys_alter k' f
    · exact t.subset_keys_alter k f h

/-- An alteration is seen at its key. -/
theorem get?_alter_self [Std.LawfulEqOrd κ] (t : Table κ ν) (k : κ) (f : Option ν → ν) :
    (t.alter k f).get? k = some (f (t.get? k)) := by
  obtain ⟨l, hl⟩ := t
  simp only [get?, alter]
  induction l with
  | nil => simp [alterEntries]
  | cons p rest ih =>
    obtain ⟨k', v⟩ := p
    obtain ⟨hfirst, hrest⟩ := List.pairwise_cons.mp hl
    rw [alterEntries]
    split
    · rename_i hlt
      -- the key comes before all others
      have hnone : rest.find? (fun e => compare k e.1 == .eq) = none := by
        rw [List.find?_eq_none]
        intro e he
        rw [Std.TransCmp.lt_trans hlt (hfirst e he)]
        exact Bool.false_ne_true
      simp [hlt, hnone]
    · rename_i heq
      simp [heq]
    · rename_i hgt
      simpa [hgt] using ih hrest

/-- An alteration is seen at no other key. -/
theorem get?_alter_of_ne [Std.LawfulEqOrd κ] (t : Table κ ν) {k k' : κ} (h : k' ≠ k)
    (f : Option ν → ν) : (t.alter k f).get? k' = t.get? k' := by
  have hne : (compare k' k == .eq) = false :=
    beq_eq_false_iff_ne.mpr fun heq => h (Std.LawfulEqCmp.eq_of_compare heq)
  simp only [get?, alter]
  induction t.entries with
  | nil => simp [alterEntries, hne]
  | cons p rest ih =>
    obtain ⟨k'', v⟩ := p
    rw [alterEntries]
    split
    · simp [hne]
    · rename_i heq
      obtain rfl := Std.LawfulEqCmp.eq_of_compare heq
      simp [hne]
    · simp only [List.find?_cons]
      split
      · rfl
      · exact ih

end FleetArena.Table
