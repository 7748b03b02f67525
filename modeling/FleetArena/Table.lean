/-! Ordered tables: finitely many keys, each with one value, listed by ascending key. -/
namespace FleetArena

structure Table (κ ν : Type) [Ord κ] where
  entries : List (κ × ν)
  ordered : entries.Pairwise fun a b => compare a.1 b.1 = .lt

namespace Table
variable {κ ν : Type} [Ord κ]

/-- Puts `f` of the value at `k`, or of nothing, at `k` in a list of pairs. -/
@[specialize] def alterEntries (k : κ) (f : Option ν → ν) : List (κ × ν) → List (κ × ν)
  | [] => [(k, f none)]
  | (k', v) :: rest =>
    match compare k k' with
    | .lt => (k, f none) :: (k', v) :: rest
    | .eq => (k', f (some v)) :: rest
    | .gt => (k', v) :: alterEntries k f rest

theorem mem_alterEntries_key {k : κ} {f : Option ν → ν} {l : List (κ × ν)} {e : κ × ν}
    (h : e ∈ alterEntries k f l) : e.1 = k ∨ ∃ e' ∈ l, e'.1 = e.1 := by
  induction l with
  | nil => simp_all [alterEntries]
  | cons p rest ih =>
    obtain ⟨k', v⟩ := p
    rw [alterEntries] at h
    split at h
    · rcases List.mem_cons.1 h with h | h
      · exact .inl (by rw [h])
      · exact .inr ⟨e, h, rfl⟩
    · rcases List.mem_cons.1 h with h | h
      · exact .inr ⟨(k', v), by simp, by rw [h]⟩
      · exact .inr ⟨e, by simp [h], rfl⟩
    · rcases List.mem_cons.1 h with h | h
      · exact .inr ⟨(k', v), by simp, by rw [h]⟩
      · rcases ih h with h | ⟨e', he, hk⟩
        · exact .inl h
        · exact .inr ⟨e', by simp [he], hk⟩

def empty : Table κ ν := ⟨[], .nil⟩

instance : EmptyCollection (Table κ ν) := ⟨empty⟩

@[specialize] def get? (t : Table κ ν) (k : κ) : Option ν :=
  (t.entries.find? fun e => compare k e.1 == .eq).map (·.2)

def keys (t : Table κ ν) : List κ :=
  t.entries.map (·.1)

def values (t : Table κ ν) : List ν :=
  t.entries.map (·.2)

/-- The entries that `p` holds of. -/
@[specialize] def filter (t : Table κ ν) (p : κ → ν → Bool) : Table κ ν :=
  ⟨t.entries.filter fun e => p e.1 e.2, t.ordered.filter _⟩

variable [Std.TransOrd κ]

theorem ordered_alterEntries (k : κ) (f : Option ν → ν) {l : List (κ × ν)}
    (h : l.Pairwise fun a b => compare a.1 b.1 = .lt) :
    (alterEntries k f l).Pairwise fun a b => compare a.1 b.1 = .lt := by
  induction l with
  | nil => simp [alterEntries]
  | cons p rest ih =>
    obtain ⟨k', v⟩ := p
    rw [List.pairwise_cons] at h
    rw [alterEntries]
    split
    · next hlt =>
      refine List.pairwise_cons.2 ⟨fun e he => ?_, List.pairwise_cons.2 h⟩
      rcases List.mem_cons.1 he with rfl | he
      · exact hlt
      · exact Std.TransCmp.lt_trans hlt (h.1 e he)
    · exact List.pairwise_cons.2 h
    · next hgt =>
      refine List.pairwise_cons.2 ⟨fun e he => ?_, ih h.2⟩
      rcases mem_alterEntries_key he with hk | ⟨e', he', hk⟩
      · exact hk ▸ Std.OrientedCmp.lt_of_gt hgt
      · exact hk ▸ h.1 e' he'

/-- Puts `f` of the value at `k`, or of nothing, at `k`. -/
@[inline] def alter (t : Table κ ν) (k : κ) (f : Option ν → ν) : Table κ ν :=
  ⟨alterEntries k f t.entries, ordered_alterEntries k f t.ordered⟩

/-- Puts `v` at `k` in place of what was there. -/
@[inline] def insert (t : Table κ ν) (k : κ) (v : ν) : Table κ ν :=
  t.alter k fun _ => v

/-- Puts `v` at `k` unless something is there. -/
@[inline] def insertIfNew (t : Table κ ν) (k : κ) (v : ν) : Table κ ν :=
  t.alter k (·.getD v)

/-- The pairs put in one by one; a later value replaces an earlier one of the same key. -/
@[specialize] def ofList (l : List (κ × ν)) : Table κ ν :=
  l.foldl (fun t e => t.insert e.1 e.2) ∅

end Table

/-- The distinct members of a list in ascending order. -/
def ascending {κ : Type} [Ord κ] [Std.TransOrd κ] (l : List κ) : List κ :=
  (l.foldl (fun (t : Table κ Unit) k => t.insert k ()) ∅).keys

end FleetArena
