import FleetArena.Proofs.Vessel.Build

/-! Which parts make a ship. A list of parts is accepted just if it is not empty, every part is
sound and no two share space, and otherwise the first of these three failures is the answer. -/
namespace FleetArena
variable {α : Type} [Scalar α]

/-- The part at a place of a list and one at a later place are closer than their radii allow. -/
structure OverlapAt (parts : List (Part α)) (i j : Nat) (a b : Part α) : Prop where
  lt : i < j
  first : parts[i]? = some a
  second : parts[j]? = some b
  close : a.mount.position.distance b.mount.position < a.mount.radius + b.mount.radius

/-- No other pair of places at which parts overlap comes before this one. -/
structure FirstOverlap (parts : List (Part α)) (i j : Nat) (a b : Part α) : Prop extends
    OverlapAt parts i j a b where
  le : ∀ i' j' a' b', OverlapAt parts i' j' a' b' → toLex (i, j) ≤ toLex (i', j')

/-- What a list of parts is rejected for. -/
inductive Rejected (fleet : String) : List (Part α) → SetupError α → Prop where
  | empty : Rejected fleet [] (.invalidShip fleet .noParts)
  /-- The first part that is not sound is named with its fault. -/
  | unsound (before : List (Part α)) (p : Part α) (after : List (Part α)) (fault : PartFault α)
      (hbefore : ∀ q ∈ before, q.fault? = none) (hp : p.fault? = some fault) :
      Rejected fleet (before ++ p :: after) (.invalidShip fleet (.part fault))
  /-- All parts are sound, and the first two that overlap are named by where they are. -/
  | overlapping {parts : List (Part α)} (i j : Nat) (a b : Part α)
      (hsound : ∀ p ∈ parts, p.fault? = none) (hfirst : FirstOverlap parts i j a b) :
      Rejected fleet parts (.overlappingParts fleet a.mount.position b.mount.position)

section
variable {p a b : Part α} {parts : List (Part α)} {i j : Nat}

/-- An overlap is one of the head with a part of the tail, or one in the tail. -/
theorem OverlapAt.of_cons (h : OverlapAt (p :: parts) i j a b) :
    (∃ m, i = 0 ∧ j = m + 1 ∧ p = a ∧ parts[m]? = some b ∧ p.mount.overlaps b.mount = true) ∨
      ∃ n m, i = n + 1 ∧ j = m + 1 ∧ OverlapAt parts n m a b := by
  obtain ⟨hlt, hfirst, hsecond, hclose⟩ := h
  obtain ⟨m, rfl⟩ := Nat.exists_eq_succ_of_ne_zero (Nat.ne_zero_of_lt hlt)
  cases i with
  | zero =>
    obtain rfl : p = a := Option.some.inj hfirst
    exact Or.inl ⟨m, rfl, rfl, rfl, hsecond, decide_eq_true hclose⟩
  | succ n => exact Or.inr ⟨n, m, rfl, rfl, Nat.lt_of_succ_lt_succ hlt, hfirst, hsecond, hclose⟩

theorem OverlapAt.cons (h : OverlapAt parts i j a b) (p : Part α) :
    OverlapAt (p :: parts) (i + 1) (j + 1) a b :=
  ⟨Nat.succ_lt_succ h.lt, h.first, h.second, h.close⟩

/-- The first overlap is that of the head with the first part it overlaps, else that of the tail. -/
theorem firstOverlap_of_overlap? (h : overlap? parts = some (a, b)) :
    ∃ i j, FirstOverlap parts i j a b := by
  induction parts with
  | nil => cases h
  | cons p rest ih =>
    rw [overlap?] at h
    cases hfind : rest.find? fun b => p.mount.overlaps b.mount with
    | some c =>
      rw [hfind] at h
      obtain ⟨rfl, rfl⟩ := Prod.mk.inj (Option.some.inj h)
      obtain ⟨hclose, k, hk, hget, hbefore⟩ := List.find?_eq_some_iff_getElem.mp hfind
      have hsecond : rest[k]? = some c := by rw [List.getElem?_eq_getElem hk, hget]
      refine ⟨0, k + 1, ⟨Nat.zero_lt_succ k, rfl, hsecond, of_decide_eq_true hclose⟩, ?_⟩
      intro i' j' a' b' h'
      rw [Prod.Lex.toLex_le_toLex]
      rcases h'.of_cons with ⟨m, rfl, rfl, -, hb', hclose'⟩ | ⟨n, m, rfl, rfl, -⟩
      · refine Or.inr ⟨rfl, Nat.succ_le_succ ?_⟩
        by_contra hlt
        obtain ⟨hm, rfl⟩ := List.getElem?_eq_some_iff.mp hb'
        have hfar := hbefore m (not_le.mp hlt)
        rw [hclose'] at hfar
        cases hfar
      · exact Or.inl (Nat.succ_pos n)
    | none =>
      rw [hfind] at h
      obtain ⟨i, j, hfirst, hle⟩ := ih h
      refine ⟨i + 1, j + 1, hfirst.cons p, ?_⟩
      intro i' j' a' b' h'
      rcases h'.of_cons with ⟨m, -, -, -, hb', hclose⟩ | ⟨n, m, rfl, rfl, hrest⟩
      · exact absurd hclose (List.find?_eq_none.mp hfind b' (List.mem_of_getElem? hb'))
      · have hn := hle n m a' b' hrest
        rw [Prod.Lex.toLex_le_toLex] at hn ⊢
        simpa using hn

theorem overlap?_eq_none_iff : overlap? parts = none ↔ ∀ i j a b, ¬OverlapAt parts i j a b := by
  constructor
  · intro h i j a b hover
    induction parts generalizing i j with
    | nil => cases hover.first
    | cons p rest ih =>
      rw [overlap?] at h
      cases hfind : rest.find? fun b => p.mount.overlaps b.mount with
      | some c =>
        rw [hfind] at h
        cases h
      | none =>
        rw [hfind] at h
        rcases hover.of_cons with ⟨m, -, -, -, hb, hclose⟩ | ⟨n, m, -, -, hrest⟩
        · exact absurd hclose (List.find?_eq_none.mp hfind b (List.mem_of_getElem? hb))
        · exact ih h n m hrest
  · intro h
    cases hover : overlap? parts with
    | none => rfl
    | some pair =>
      obtain ⟨i, j, hfirst⟩ := firstOverlap_of_overlap? (a := pair.1) (b := pair.2) hover
      exact absurd hfirst.toOverlapAt (h i j _ _)

theorem overlap?_eq_some_iff :
    overlap? parts = some (a, b) ↔ ∃ i j, FirstOverlap parts i j a b := by
  refine ⟨firstOverlap_of_overlap?, ?_⟩
  rintro ⟨i, j, hfirst, hle⟩
  cases hover : overlap? parts with
  | none => exact absurd hfirst (overlap?_eq_none_iff.mp hover i j a b)
  | some pair =>
    -- there is one first overlap at most
    obtain ⟨i', j', hfirst', hle'⟩ := firstOverlap_of_overlap? (a := pair.1) (b := pair.2) hover
    have hplace : toLex (i, j) = toLex (i', j') :=
      le_antisymm (hle i' j' _ _ hfirst') (hle' i j a b hfirst)
    obtain ⟨rfl, rfl⟩ := Prod.mk.inj (toLex.injective hplace)
    have ha : some pair.1 = some a := hfirst'.first.symm.trans hfirst.first
    have hb : some pair.2 = some b := hfirst'.second.symm.trans hfirst.second
    rw [← Option.some.inj ha, ← Option.some.inj hb]

theorem checkParts_eq_ok_iff {fleet : String} : checkParts fleet parts = .ok () ↔
    parts ≠ [] ∧ (∀ p ∈ parts, p.fault? = none) ∧ ∀ i j a b, ¬OverlapAt parts i j a b := by
  rw [← overlap?_eq_none_iff, ← List.findSome?_eq_none_iff, ne_eq, ← List.isEmpty_iff, checkParts]
  cases parts.isEmpty with
  | true => simp
  | false =>
    cases parts.findSome? Part.fault? with
    | some fault => simp
    | none =>
      cases overlap? parts with
      | some pair => simp
      | none => simp

theorem checkParts_of_rejected {fleet : String} {e : SetupError α} (h : Rejected fleet parts e) :
    checkParts fleet parts = .error e := by
  cases h with
  | empty => rfl
  | unsound before p after fault hbefore hp =>
    have hfault : (before ++ p :: after).findSome? Part.fault? = some fault :=
      List.findSome?_eq_some_iff.mpr ⟨before, p, after, rfl, hp, hbefore⟩
    simp [checkParts, hfault]
  | overlapping i j a b hsound hfirst =>
    have hne : parts.isEmpty = false := by
      rw [List.isEmpty_eq_false_iff]
      rintro rfl
      cases hfirst.first
    simp only [checkParts, hne, Bool.false_eq_true, if_false,
      List.findSome?_eq_none_iff.mpr hsound, overlap?_eq_some_iff.mpr ⟨i, j, hfirst⟩]

theorem checkParts_eq_error_iff {fleet : String} {e : SetupError α} :
    checkParts fleet parts = .error e ↔ Rejected fleet parts e := by
  refine ⟨fun h => ?_, checkParts_of_rejected⟩
  rw [checkParts] at h
  split at h
  · rename_i hempty
    cases h
    rw [List.isEmpty_iff.mp hempty]
    exact .empty
  · split at h
    · rename_i fault hfault
      cases h
      obtain ⟨before, p, after, rfl, hp, hbefore⟩ := List.findSome?_eq_some_iff.mp hfault
      exact .unsound before p after fault hbefore hp
    · rename_i hsound
      split at h
      · rename_i a b hover
        cases h
        obtain ⟨i, j, hfirst⟩ := overlap?_eq_some_iff.mp hover
        exact .overlapping i j a b (List.findSome?_eq_none_iff.mp hsound) hfirst
      · cases h

end
end FleetArena
