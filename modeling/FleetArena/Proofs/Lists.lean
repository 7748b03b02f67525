import Mathlib

/-! Lists of which one place is changed: what holds of all members, or of the members of two lists
place by place, and the sum over a list. -/
namespace FleetArena

section
variable {β : Type} {l : List β} {i : Nat} {a b : β} {f : β → β}

theorem set_eq_modify (h : l[i]? = some a) (f : β → β) : l.set i (f a) = l.modify i f := by
  rw [List.modify_eq_set_getElem?, h]
  rfl

/-- What is there already, or is out of range, may be put in its place. -/
theorem set_of_getD (h : l[i]?.getD a = a) : l.set i a = l := by
  cases hi : l[i]? with
  | none => exact List.set_eq_of_length_le (List.getElem?_eq_none_iff.mp hi)
  | some b =>
    obtain ⟨hlt, rfl⟩ := List.getElem?_eq_some_iff.mp hi
    rw [hi, Option.getD_some] at h
    rw [← h, List.set_getElem_self]

theorem modify_of_fixed (h : l[i]? = some a) (hf : f a = a) : l.modify i f = l := by
  obtain ⟨hi, rfl⟩ := List.getElem?_eq_some_iff.mp h
  rw [← set_eq_modify h, hf, List.set_getElem_self]

variable {γ : Type} {g : β → γ}

theorem map_set_eq_map_modify (h : l[i]? = some a) (hb : g b = g (f a)) :
    (l.set i b).map g = (l.modify i f).map g := by
  rw [← set_eq_modify h, List.map_set, List.map_set, hb]

theorem map_set_of_fixed (h : l[i]? = some a) (hb : g b = g a) : (l.set i b).map g = l.map g := by
  obtain ⟨hi, rfl⟩ := List.getElem?_eq_some_iff.mp h
  rw [List.map_set, hb, ← List.getElem_map g, List.set_getElem_self]
  rwa [List.length_map]

theorem map_modify_of_forall (hf : ∀ a, g (f a) = g a) (l : List β) (i : Nat) :
    (l.modify i f).map g = l.map g := by
  apply List.ext_getElem?
  intro j
  simp only [List.getElem?_map, List.getElem?_modify]
  split
  · simp [Function.comp_def, hf]
  · simp

/-- What holds of all members and of a new one holds of all after a change. -/
theorem forall_mem_set {P : β → Prop} (h : ∀ x ∈ l, P x) (hb : P b) : ∀ x ∈ l.set i b, P x := by
  intro x hx
  rcases List.mem_or_eq_of_mem_set hx with hx | rfl
  · exact h x hx
  · exact hb

end

/-- What is put in the places of a list comes out again. -/
theorem map_zipWith_snd {β γ ε : Type} {f : β → γ → ε} {g : ε → γ} (h : ∀ a c, g (f a c) = c)
    (l : List β) (cs : List γ) : (l.zipWith f cs).map g = cs.take l.length := by
  induction l generalizing cs with
  | nil => simp
  | cons a rest ih =>
    cases cs with
    | nil => simp
    | cons c cs => simp [h, ih]

/-- Where the second list is long enough, what holds of all pairs holds of the first list and of the
members of the second one that have a partner. -/
theorem forall_mem_zip_iff {β γ : Type} {P : β → Prop} {Q : γ → Prop} {xs : List β} {ys : List γ}
    (h : xs.length ≤ ys.length) : (∀ e ∈ xs.zip ys, P e.1 ∧ Q e.2) ↔
      (∀ x ∈ xs, P x) ∧ ∀ y ∈ ys.take xs.length, Q y := by
  induction xs generalizing ys with
  | nil => simp
  | cons x xs ih =>
    cases ys with
    | nil => simp at h
    | cons y ys =>
      have hrest := ih (Nat.le_of_succ_le_succ h)
      rw [List.zip_cons_cons, List.length_cons, List.take_succ_cons, List.forall_mem_cons,
        List.forall_mem_cons, List.forall_mem_cons, hrest]
      exact and_and_and_comm

/-- What is put back in its own place changes nothing. -/
theorem zipWith_map_append {β γ : Type} {f : β → γ → β} {g : β → γ} (h : ∀ a, f a (g a) = a)
    (l : List β) (rest : List γ) : l.zipWith f (l.map g ++ rest) = l := by
  induction l with
  | nil => rfl
  | cons a l ih => rw [List.map_cons, List.cons_append, List.zipWith_cons_cons, h, ih]

/-- The members of a list that is in order come in the order of the list. -/
theorem idxOf_le_idxOf_iff {β : Type} [DecidableEq β] {l : List β} {f : β → Nat}
    (hordered : l.Pairwise fun a b => f a < f b) {a b : β} (ha : a ∈ l) (hb : b ∈ l) :
    l.idxOf a ≤ l.idxOf b ↔ f a ≤ f b := by
  have hlt {a b : β} (ha : a ∈ l) (hb : b ∈ l) (h : l.idxOf a < l.idxOf b) : f a < f b := by
    have hpair := List.pairwise_iff_getElem.mp hordered _ _ (List.idxOf_lt_length_of_mem ha)
      (List.idxOf_lt_length_of_mem hb) h
    rwa [List.getElem_idxOf, List.getElem_idxOf] at hpair
  constructor
  · intro hle
    rcases hle.lt_or_eq with h | h
    · exact (hlt ha hb h).le
    · rw [(List.idxOf_inj ha).mp h]
  · intro hle
    by_contra h
    exact hle.not_gt (hlt hb ha (not_le.mp h))

section
variable {β γ : Type} {R : β → γ → Prop} {xs : List β} {ys : List γ} {i : Nat} {y y' : γ}

theorem forall₂_set (h : List.Forall₂ R xs ys) (hy : ys[i]? = some y) (hr : ∀ x, R x y → R x y') :
    List.Forall₂ R xs (ys.set i y') := by
  induction h generalizing i with
  | nil => simp at hy
  | cons hhead htail ih =>
    cases i with
    | zero =>
      obtain rfl := Option.some.inj hy
      exact .cons (hr _ hhead) htail
    | succ i => exact .cons hhead (ih (by simpa using hy))

theorem map_eq_of_forall₂ {ε : Type} {f : β → ε} {g : γ → ε} (h : List.Forall₂ R xs ys)
    (hr : ∀ x y, R x y → g y = f x) : ys.map g = xs.map f := by
  induction h with
  | nil => rfl
  | cons hhead htail ih => rw [List.map_cons, List.map_cons, hr _ _ hhead, ih]

theorem forall₂_exists_of_mem (h : List.Forall₂ R xs ys) (hy : y ∈ ys) : ∃ x ∈ xs, R x y := by
  induction h with
  | nil => cases hy
  | cons hhead htail ih =>
    rcases List.mem_cons.mp hy with rfl | hy
    · exact ⟨_, List.mem_cons_self, hhead⟩
    · obtain ⟨x, hx, hr⟩ := ih hy
      exact ⟨x, List.mem_cons_of_mem _ hx, hr⟩

end

section
variable {β γ ε : Type} {R : γ → γ → Prop}

/-- The first of the related members are put in their places, and the others are left over. -/
theorem forall₂_zipWith {f : β → γ → ε} {g : β → γ} {xs : List β} {rest ys : List γ}
    (h : List.Forall₂ R (xs.map g ++ rest) ys) :
    List.Forall₂ (fun x z => ∃ y, R (g x) y ∧ z = f x y) xs (xs.zipWith f ys) ∧
      List.Forall₂ R rest (ys.drop xs.length) := by
  induction xs generalizing ys with
  | nil => exact ⟨.nil, h⟩
  | cons x xs ih =>
    cases h with
    | cons hhead htail =>
      obtain ⟨hplaced, hrest⟩ := ih htail
      exact ⟨.cons ⟨_, hhead, rfl⟩ hplaced, hrest⟩

theorem forall₂_zipWith_right {f : γ → β → ε} {xs : List β} {ys zs : List γ}
    (h : List.Forall₂ R ys zs) (hlength : ys.length ≤ xs.length) :
    List.Forall₂ (fun y z => ∃ x c, R y x ∧ z = f x c) ys (zs.zipWith f xs) := by
  induction h generalizing xs with
  | nil => exact .nil
  | cons hhead htail ih =>
    cases xs with
    | nil => simp at hlength
    | cons x xs => exact .cons ⟨_, x, hhead, rfl⟩ (ih (by simpa using hlength))

end

section
variable {β : Type} {xs : List β} {i j : Nat} {x y x' y' : β}

theorem sum_map_set_add {M : Type} [AddCommMonoid M] (f : β → M) (h : xs[i]? = some x) (y : β) :
    ((xs.set i y).map f).sum + f x = (xs.map f).sum + f y := by
  induction xs generalizing i with
  | nil => simp at h
  | cons a rest ih =>
    cases i with
    | zero =>
      obtain rfl : a = x := by simpa using h
      simp only [List.set_cons_zero, List.map_cons, List.sum_cons]
      abel
    | succ i =>
      rw [List.set_cons_succ, List.map_cons, List.sum_cons, add_assoc, ih (by simpa using h),
        List.map_cons, List.sum_cons, add_assoc]

variable {M : Type} [AddCommGroup M]

theorem sum_map_set (f : β → M) (h : xs[i]? = some x) (y : β) :
    ((xs.set i y).map f).sum = (xs.map f).sum - f x + f y := by
  rw [sub_add_eq_add_sub]
  exact eq_sub_of_add_eq (sum_map_set_add f h y)

theorem sum_map_set_set (f : β → M) (hij : i ≠ j) (hx : xs[i]? = some x) (hy : xs[j]? = some y)
    (x' y' : β) : (((xs.set i x').set j y').map f).sum =
      (xs.map f).sum + (f x' + f y' - (f x + f y)) := by
  have hj : (xs.set i x')[j]? = some y := by
    rw [List.getElem?_set_ne hij, hy]
  rw [sum_map_set f hj, sum_map_set f hx]
  abel

end
end FleetArena
