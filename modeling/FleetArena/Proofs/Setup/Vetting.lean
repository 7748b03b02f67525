import FleetArena.Proofs.Setup.Edits

/-! Computations that vet their input. Such a computation has a list of faults that its input may
have: it fails with the first fault of the list, and succeeds if the list is empty. -/
namespace FleetArena
variable {α β γ ε σ : Type}

/-- What a step of a loop makes of the members before and of its own is what the loop makes of all
members, and the faults are those of one member after the other. This is so for every way to vet
that goes through sequences. -/
theorem foldlM_of_bind {m : Type → Type} [Monad m] {V : m β → List ε → (β → Prop) → Prop}
    (hpure : ∀ {b P}, P b → V (Pure.pure b) [] P)
    (hbind : ∀ {x f faults later P Q}, V x faults P → (∀ b, P b → V (f b) later Q) →
      V (x >>= f) (faults ++ later) Q)
    {f : β → γ → m β} {faultsOf : γ → List ε} {I : List γ → β → Prop} {b : β}
    (hstep : ∀ before b g, I before b → V (f b g) (faultsOf g) (I (before ++ [g])))
    (l : List γ) (h : I [] b) : V (l.foldlM f b) (l.flatMap faultsOf) (I l) := by
  have hrest (rest before : List γ) (b : β) (hb : I before b) :
      V (rest.foldlM f b) (rest.flatMap faultsOf) (I (before ++ rest)) := by
    induction rest generalizing before b with
    | nil =>
      rw [List.append_nil]
      exact hpure hb
    | cons g rest ih =>
      rw [List.foldlM_cons, List.flatMap_cons, List.append_cons]
      exact hbind (hstep before b g hb) fun b' hb' => ih _ b' hb'
  exact hrest l [] b h

/-- A result answers the first of the faults, or there is none and the result has a property. -/
def Vets (r : Except ε β) (faults : List ε) (P : β → Prop) : Prop :=
  match r with
  | .ok b => faults = [] ∧ P b
  | .error e => faults.head? = some e

namespace Vets
variable {x : Except ε β} {faults later : List ε} {P : β → Prop} {e : ε}

theorem pure {b : β} (h : P b) : Vets (Except.ok b : Except ε β) [] P :=
  ⟨rfl, h⟩

theorem mono {Q : β → Prop} (h : Vets x faults P) (hPQ : ∀ b, P b → Q b) : Vets x faults Q := by
  cases x with
  | ok b => exact ⟨h.1, hPQ b h.2⟩
  | error e => exact h

theorem answers (h : Vets x faults P) : Vets x faults (x = .ok ·) := by
  cases x with
  | ok b => exact ⟨h.1, rfl⟩
  | error e => exact h

/-- The faults of what comes first go before those of what comes later. -/
theorem bind {f : β → Except ε γ} {Q : γ → Prop} (h : Vets x faults P)
    (hf : ∀ b, P b → Vets (f b) later Q) : Vets (x >>= f) (faults ++ later) Q := by
  cases x with
  | error e =>
    change (faults ++ later).head? = some e
    rw [List.head?_append, h]
    rfl
  | ok b =>
    obtain ⟨hnil, hb⟩ := h
    rw [hnil, List.nil_append]
    exact hf b hb

/-- What cannot fail any more adds no fault. -/
theorem finish {f : β → Except ε γ} {Q : γ → Prop} (h : Vets x faults P)
    (hf : ∀ b, P b → Vets (f b) [] Q) : Vets (x >>= f) faults Q := by
  rw [← List.append_nil faults]
  exact h.bind hf

theorem exists_ok_iff (h : Vets x faults P) : (∃ b, x = .ok b) ↔ faults = [] := by
  cases x with
  | ok b => exact ⟨fun _ => h.1, fun _ => ⟨b, rfl⟩⟩
  | error e =>
    constructor
    · rintro ⟨b, hb⟩
      cases hb
    · intro hnil
      rw [Vets, hnil] at h
      cases h

theorem error_iff (h : Vets x faults P) : x = .error e ↔ faults.head? = some e := by
  cases x with
  | ok b =>
    rw [h.1]
    constructor
    · intro herror
      cases herror
    · intro hhead
      cases hhead
  | error e' =>
    rw [Vets] at h
    rw [h, Except.error.injEq, Option.some.injEq]

theorem map {f : β → γ} {Q : γ → Prop} (h : Vets x faults P) (hf : ∀ b, P b → Q (f b)) :
    Vets (x.map f) faults Q := by
  cases x with
  | ok b => exact ⟨h.1, hf b h.2⟩
  | error e => exact h

/-- A loop finds the faults of one member after the other. -/
theorem forM {f : β → Except ε PUnit} {faultsOf : β → List ε}
    (h : ∀ b, Vets (f b) (faultsOf b) fun _ => True) (l : List β) :
    Vets (l.forM f) (l.flatMap faultsOf) fun _ => True := by
  induction l with
  | nil => exact .pure trivial
  | cons b rest ih => exact (h b).bind fun _ _ => ih

theorem mapM {f : β → Except ε γ} {faultsOf : β → List ε}
    (h : ∀ b, Vets (f b) (faultsOf b) fun _ => True) (l : List β) :
    Vets (l.mapM f) (l.flatMap faultsOf) (· = l.filterMap fun b => (f b).toOption) := by
  induction l with
  | nil => exact .pure rfl
  | cons b rest ih =>
    rw [List.mapM_cons, List.flatMap_cons]
    apply (h b).answers.bind
    intro c hc
    apply ih.finish
    intro cs hcs
    apply Vets.pure
    rw [hcs, List.filterMap_cons, hc]
    rfl

theorem foldlM {f : β → γ → Except ε β} {faultsOf : γ → List ε} {I : List γ → β → Prop} {b : β}
    (hstep : ∀ before b g, I before b → Vets (f b g) (faultsOf g) (I (before ++ [g])))
    (l : List γ) (h : I [] b) : Vets (l.foldlM f b) (l.flatMap faultsOf) (I l) :=
  foldlM_of_bind Vets.pure Vets.bind hstep l h

end Vets

/-- The same of a computation with a state, whatever the state is. -/
def Always (x : ExceptT ε (StateM σ) β) (faults : List ε) (P : β → Prop) : Prop :=
  ∀ t, Vets (x.run.run t).1 faults P

namespace Always
variable {x : ExceptT ε (StateM σ) β} {faults later : List ε} {P : β → Prop}

theorem pure {b : β} (h : P b) : Always (Pure.pure b : ExceptT ε (StateM σ) β) [] P :=
  fun _ => .pure h

theorem ofExcept {r : Except ε β} (h : Vets r faults P) :
    Always (MonadExcept.ofExcept r : ExceptT ε (StateM σ) β) faults P := by
  intro t
  cases r with
  | ok b => exact h
  | error e => exact h

theorem bind {f : β → ExceptT ε (StateM σ) γ} {Q : γ → Prop} (h : Always x faults P)
    (hf : ∀ b, P b → Always (f b) later Q) : Always (x >>= f) (faults ++ later) Q := by
  intro t
  have hx := h t
  rw [run_bind]
  cases hr : x.run.run t with
  | mk r u =>
    rw [hr] at hx
    have hlater : Vets (r >>= fun b => ((f b).run.run u).1) (faults ++ later) Q :=
      hx.bind fun b hb => hf b hb u
    cases r with
    | error e => exact hlater
    | ok b => exact hlater

theorem finish {f : β → ExceptT ε (StateM σ) γ} {Q : γ → Prop} (h : Always x faults P)
    (hf : ∀ b, P b → Always (f b) [] Q) : Always (x >>= f) faults Q := by
  rw [← List.append_nil faults]
  exact h.bind hf

theorem foldlM {f : β → γ → ExceptT ε (StateM σ) β} {faultsOf : γ → List ε}
    {I : List γ → β → Prop} {b : β}
    (hstep : ∀ before b g, I before b → Always (f b g) (faultsOf g) (I (before ++ [g])))
    (l : List γ) (h : I [] b) : Always (l.foldlM f b) (l.flatMap faultsOf) (I l) :=
  foldlM_of_bind Always.pure Always.bind hstep l h

end Always
end FleetArena
