import FleetArena.Proofs.Battle.Stepping
import FleetArena.Proofs.Drawing.Tracked

/-! The frames of a run are a change log of the objects of the battle. -/
namespace FleetArena.Battle
variable {α π δ : Type} [Scalar α] [Drawer α δ] {b c : Battle α π δ}
  {bs cs : List (Battle α π δ)} {known announced removed : List ObjectId} {count : Nat} {d : δ}

/-- A frame and the objects that are there when it goes out. -/
def entry (b : Battle α π δ) : Frame α × List ObjectId :=
  (b.frame, b.ids)

/-- A drawer after it has been shown battles, one after the other. -/
def drawAll (bs : List (Battle α π δ)) (d : δ) : δ :=
  bs.foldl (fun d b => Drawer.draw b.frame d) d

/-- From `b` to `c` the drawer takes the frames of the battles `bs`, and they tell it what has
changed. -/
def Relays (b c : Battle α π δ) (bs : List (Battle α π δ)) : Prop :=
  ∀ known announced d, b.Tracked known announced → b.drawer = some d →
    c.drawer = some (drawAll bs d) ∧ ∃ known' announced',
      ChangeLog known announced (bs.map entry) known' announced' ∧ c.Tracked known' announced'

theorem Relays.refl (b : Battle α π δ) : b.Relays b [] :=
  fun known announced _ h hd => ⟨hd, known, announced, .nil _ _, h⟩

theorem Relays.trans {a : Battle α π δ} (h : a.Relays b bs) (h' : b.Relays c cs) :
    a.Relays c (bs ++ cs) := by
  intro known announced d ht hd
  obtain ⟨hdb, known₁, announced₁, hlog₁, ht₁⟩ := h known announced d ht hd
  obtain ⟨hdc, known₂, announced₂, hlog₂, ht₂⟩ := h' known₁ announced₁ _ ht₁ hdb
  refine ⟨?_, known₂, announced₂, ?_, ht₂⟩
  · rw [hdc, drawAll, drawAll, drawAll, List.foldl_append]
  · rw [List.map_append]
    exact hlog₁.append hlog₂

/-- Nothing need be told of a battle in which only the clock, the flags or the scores differ. -/
theorem relays_of_same (hids : c.ids = b.ids) (hnext : c.nextId = b.nextId)
    (hdrawn : c.drawn = b.drawn) (hdeleted : c.deleted = b.deleted)
    (hdrawer : c.drawer = b.drawer) : b.Relays c [] := by
  intro known announced d ht hd
  refine ⟨hdrawer.trans hd, known, announced, .nil _ _, ?_⟩
  -- nothing that a drawer knows of has another value
  obtain ⟨h₁, h₂, h₃, h₄, h₅, h₆, h₇, h₈, h₉⟩ := ht
  rw [← hids] at h₁ h₂ h₃ h₅ h₉
  rw [← hnext] at h₂ h₈
  rw [← hdrawn] at h₃ h₆ h₉
  rw [← hdeleted] at h₄ h₅ h₆
  exact ⟨h₁, h₂, h₃, h₄, h₅, h₆, h₇, h₈, h₉⟩

theorem Grows.relays (h : b.Grows c count) : b.Relays c [] :=
  fun known announced _ ht hd =>
    ⟨h.drawer.trans hd, known, announced, .nil _ _, ht.grows h⟩

theorem Loses.relays (h : b.Loses c removed) : b.Relays c [] :=
  fun known announced _ ht hd =>
    ⟨h.drawer.trans hd, known, announced, .nil _ _, ht.loses h⟩

theorem relays_emitFrame (b : Battle α π δ) : b.Relays b.emitFrame [b] := by
  intro known announced d ht hd
  refine ⟨?_, _, _, .cons ht.tells (.nil _ _), ht.emitFrame hd⟩
  simp only [emitFrame, hd, drawAll, List.foldl_cons, List.foldl_nil]

/-- The battle of which the first frame is. -/
def opening (b : Battle α π δ) : List (Battle α π δ) :=
  if b.started then [] else [{ b with started := true }]

theorem relays_start (b : Battle α π δ) : b.Relays b.start b.opening := by
  cases hs : b.started with
  | true =>
    rw [opening, start_of_started hs, hs]
    exact .refl b
  | false =>
    rw [opening, start_of_not_started hs, hs]
    have hflag : b.Relays { b with started := true } [] := relays_of_same rfl rfl rfl rfl rfl
    exact hflag.trans (relays_emitFrame _)

variable [Pilot α π]

/-- The battle of which the frame behind a completed tick is. -/
def closing (b : Battle α π δ) : List (Battle α π δ) :=
  match b.step.result with
  | .ok outcome => if b.completed.isFrameDue outcome then [b.completed] else []
  | .error _ => []

/-- The battles that a step shows to the drawer. -/
def shown (b : Battle α π δ) : List (Battle α π δ) :=
  if b.halted then [] else b.opening ++ b.closing

theorem relays_completed (b : Battle α π δ) : b.start.Relays b.completed [] := by
  obtain ⟨count, hmove⟩ := b.start.grows_move
  obtain ⟨removed, hcull⟩ := b.start.move.collide.loses_cull
  have hcount (c : Battle α π δ) : c.Relays { c with tick := c.tick + 1 } [] :=
    relays_of_same rfl rfl rfl rfl rfl
  exact ((hmove.trans (grows_collide _)).relays.trans hcull.relays).trans (hcount _)

theorem relays_step (b : Battle α π δ) : b.Relays b.step.battle b.shown := by
  rw [shown]
  cases hh : b.halted with
  | true =>
    rw [step_of_halted hh]
    exact .refl b
  | false =>
    rw [if_neg Bool.false_ne_true]
    apply b.relays_start.trans
    rcases step_cases hh with ⟨e, hbreaks⟩ | hcompletes
    · obtain ⟨count, hmove⟩ := b.start.grows_move
      -- a halted battle has moved, but nothing else
      have hhalt (c : Battle α π δ) : c.Relays c.halt [] := relays_of_same rfl rfl rfl rfl rfl
      have hcollide := (hmove.trans (grows_collide _)).relays
      rcases hbreaks with h | h
      · simp only [closing, h]
        exact hmove.relays.trans (hhalt _)
      · simp only [closing, h]
        exact hcollide.trans (hhalt _)
    · -- what the drawer is shown is the battle with the tick completed, before its frame
      have hdone := b.relays_completed
      simp only [closing, show b.step = _ from hcompletes]
      by_cases hdue : b.completed.isFrameDue b.completed.outcome? = true
      · simp only [if_pos hdue]
        exact hdone.trans (relays_emitFrame _)
      · simp only [if_neg hdue]
        exact hdone

/-- The battles that a run shows to the drawer. -/
def shownIn : List (Operation α π) → Battle α π δ → List (Battle α π δ)
  | [], _ => []
  | .edit e :: rest, b => shownIn rest (b.edit e)
  | .step :: rest, b => b.shown ++ shownIn rest b.step.battle

theorem relays_operateAll (ops : List (Operation α π)) (b : Battle α π δ) :
    b.Relays (b.operateAll ops) (b.shownIn ops) := by
  induction ops generalizing b with
  | nil => exact .refl b
  | cons op rest ih =>
    cases op with
    | edit e =>
      obtain ⟨count, hedit⟩ := b.grows_edit e
      exact hedit.relays.trans (ih _)
    | step => exact b.relays_step.trans (ih _)

end FleetArena.Battle
