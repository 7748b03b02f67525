import FleetArena.Channel
import FleetArena.Pilot.Idle
import FleetArena.Proofs.Drawing.Frames

/-! The stream of frames that the drawer of a battle is handed in a run: at which ticks they go out,
and that they are a faithful log of the objects. -/
namespace FleetArena

/-- Whether an operation is a step. -/
def Operation.isStep {α π : Type} : Operation α π → Bool
  | .step => true
  | .edit _ => false

namespace Battle
variable {α π δ : Type} [Scalar α]

theorem Unstarted.clock {b : Battle α π δ} (h : b.Unstarted) :
    b.tick = 0 ∧ b.started = false ∧ b.halted = false := by
  induction h with
  | empty => exact ⟨rfl, rfl, rfl⟩
  | @edit b _ e ih =>
    obtain ⟨count, hedit⟩ := b.grows_edit e
    rw [hedit.tick, hedit.started, hedit.halted]
    exact ih
  | drawer _ _ ih => exact ih

/-- A drawer that comes before the first step knows nothing, and nothing is kept from it. -/
theorem Unstarted.tracked {b : Battle α π δ} (h : b.Unstarted) : b.Tracked [] [] := by
  induction h with
  | empty => constructor <;> simp [ids, bodies, Battle.empty]
  | @edit b _ e ih =>
    obtain ⟨count, hedit⟩ := b.grows_edit e
    exact ih.grows hedit
  | drawer _ drawer ih => exact ih.withDrawer drawer

variable [Drawer α δ] [Pilot α π]

/-- The ticks that the steps of a run complete, each with the outcome of its step. -/
def completions : List (Operation α π) → Battle α π δ → List (Nat × Option (Outcome α))
  | [], _ => []
  | .edit e :: rest, b => completions rest (b.edit e)
  | .step :: rest, b =>
    match b.step.result with
    | .ok outcome => (b.step.battle.tick, outcome) :: completions rest b.step.battle
    | .error _ => completions rest b.step.battle

/-- Nothing comes of a halted battle any more. -/
theorem run_of_halted (ops : List (Operation α π)) {b : Battle α π δ} (h : b.halted = true) :
    b.shownIn ops = [] ∧ b.completions ops = [] := by
  induction ops generalizing b with
  | nil => exact ⟨rfl, rfl⟩
  | cons op rest ih =>
    cases op with
    | edit e =>
      obtain ⟨count, hedit⟩ := b.grows_edit e
      exact ih (hedit.halted.trans h)
    | step =>
      obtain ⟨hshown, hcompletions⟩ := ih h
      simp only [shownIn, completions, shown, step_of_halted h, h, if_true, hshown, hcompletions]
      exact ⟨rfl, trivial⟩

/-- A step of a battle that is not halted either halts it or completes the next tick. -/
theorem clock_step {b : Battle α π δ} (h : b.halted = false) :
    (b.closing = [] ∧ b.step.battle.halted = true ∧ ∃ e, b.step.result = .error e) ∨
      ∃ outcome, b.step.result = .ok outcome ∧ b.step.battle.tick = b.tick + 1 ∧
        b.step.battle.settings = b.settings ∧ b.step.battle.started = true ∧
        b.step.battle.halted = false ∧
        b.closing.map (·.tick) =
          if outcome.isSome || (b.tick + 1) % Nat.max b.settings.frameRate 1 == 0
          then [b.tick + 1] else [] := by
  rcases step_cases h with ⟨e, hbreaks⟩ | hcompletes
  · apply Or.inl
    rcases hbreaks with hstep | hstep
    · simp only [closing, hstep]
      exact ⟨trivial, rfl, e, rfl⟩
    · simp only [closing, hstep]
      exact ⟨trivial, rfl, e, rfl⟩
  · obtain ⟨htick, hsettings, hstarted, hhalted⟩ := b.clock_completed
    obtain ⟨drawer, drawn, deleted, hemit⟩ := exists_emitFrame_eq b.completed
    refine Or.inr ⟨b.completed.outcome?, ?_⟩
    simp only [closing, show b.step = _ from hcompletes, isFrameDue, htick, hsettings]
    split
    · simp only [hemit]
      exact ⟨trivial, htick, hsettings, hstarted, hhalted.trans h, congrArg (fun t => [t]) htick⟩
    · exact ⟨trivial, htick, hsettings, hstarted, hhalted.trans h, rfl⟩

/-- Every step that succeeds completes a later tick. -/
theorem completions_increase (ops : List (Operation α π)) (b : Battle α π δ) :
    (∀ c ∈ b.completions ops, b.tick < c.1) ∧
      ((b.completions ops).map (·.1)).Pairwise (· < ·) := by
  induction ops generalizing b with
  | nil => simp [completions]
  | cons op rest ih =>
    cases op with
    | edit e =>
      obtain ⟨count, hedit⟩ := b.grows_edit e
      rw [completions, ← hedit.tick]
      exact ih _
    | step =>
      cases hh : b.halted with
      | true => simp [(run_of_halted (.step :: rest) hh).2]
      | false =>
        rw [completions]
        rcases clock_step hh with ⟨-, hhalted, e, hresult⟩ | ⟨outcome, hresult, htick, -⟩
        · simp [hresult, (run_of_halted rest hhalted).2]
        · obtain ⟨hlater, hsorted⟩ := ih b.step.battle
          rw [htick] at hlater
          simp only [hresult, htick, List.forall_mem_cons, List.map_cons, List.pairwise_cons,
            List.forall_mem_map]
          refine ⟨⟨by omega, fun c hc => ?_⟩, hlater, hsorted⟩
          have := hlater c hc
          omega

/-- A run draws the first frame at its first step, and then one at every completed tick at which a
frame is due. -/
theorem ticks_shownIn (ops : List (Operation α π)) {b : Battle α π δ} (h : b.halted = false) :
    (b.shownIn ops).map (·.tick) =
      (if !b.started && ops.any Operation.isStep then [b.tick] else []) ++
        ((b.completions ops).filter fun c =>
          c.2.isSome || c.1 % Nat.max b.settings.frameRate 1 == 0).map (·.1) := by
  induction ops generalizing b with
  | nil => simp [shownIn, completions]
  | cons op rest ih =>
    cases op with
    | edit e =>
      obtain ⟨count, hedit⟩ := b.grows_edit e
      have hrest := ih (hedit.halted.trans h)
      rw [hedit.started, hedit.tick, hedit.settings] at hrest
      rw [shownIn, completions, hrest]
      rfl
    | step =>
      have hopening : b.opening.map (·.tick) =
          if !b.started && (Operation.step :: rest).any Operation.isStep then [b.tick] else [] := by
        rw [opening, List.any_cons]
        cases b.started <;> rfl
      rw [shownIn, shown, h, if_neg Bool.false_ne_true, completions, List.map_append,
        List.map_append, hopening, List.append_assoc]
      congr 1
      rcases clock_step h with ⟨hclosing, hhalted, e, hresult⟩ |
        ⟨outcome, hresult, htick, hsettings, hstarted, hhalted, hclosing⟩
      · obtain ⟨hshown, hcompletions⟩ := run_of_halted rest hhalted
        simp [hclosing, hshown, hresult, hcompletions]
      · have hrest := ih hhalted
        rw [hstarted, hsettings] at hrest
        rw [hclosing, hrest]
        simp only [hresult, htick, List.filter_cons, Bool.not_true, Bool.false_and]
        split <;> simp

/-- The drawer of a battle is handed a faithful log in every run that begins after it was set. The
log tells at every frame which objects there are, announces and deletes each of them once at most,
and does not speak of those that no frame finds. Its first frame goes out at the first step, the
others at the ticks that are completed and at which a frame is due. -/
theorem changeLog_shownIn {b : Battle α π δ} (hb : b.Unstarted) {d : δ} (hd : b.drawer = some d)
    (ops : List (Operation α π)) :
    let log := (b.shownIn ops).map entry
    (b.operateAll ops).drawer = some (log.foldl (fun d e => Drawer.draw e.1 d) d) ∧
      (∃ known announced, ChangeLog [] [] log known announced) ∧
      (log.flatMap (·.1.newIds)).Nodup ∧ (log.flatMap (·.1.deleted)).Nodup ∧
      (∀ id, (∀ e ∈ log, id ∉ e.2) →
        ∀ e ∈ log, id ∉ e.1.newIds ∧ id ∉ e.1.updatedIds ∧ id ∉ e.1.deleted) ∧
      (log.map (·.1.tick)).Pairwise (· < ·) ∧
      log.map (·.1.tick) = (if ops.any Operation.isStep then [0] else []) ++
        ((b.completions ops).filter fun c =>
          c.2.isSome || c.1 % Nat.max b.settings.frameRate 1 == 0).map (·.1) := by
  intro log
  obtain ⟨htick, hstarted, hhalted⟩ := hb.clock
  obtain ⟨hdrawer, known, announced, hlog, -⟩ := relays_operateAll ops b [] [] d hb.tracked hd
  have hticks : log.map (·.1.tick) = (if ops.any Operation.isStep then [0] else []) ++
      ((b.completions ops).filter fun c =>
        c.2.isSome || c.1 % Nat.max b.settings.frameRate 1 == 0).map (·.1) := by
    have h := ticks_shownIn ops hhalted
    rw [hstarted, htick] at h
    rw [List.map_map]
    exact h
  refine ⟨?_, ⟨known, announced, hlog⟩, hlog.nodup_newIds.1, ?_, ?_, ?_, hticks⟩
  · rw [hdrawer, drawAll, List.foldl_map]
    rfl
  · exact (hlog.nodup_deleted (by simp)).1
  · exact fun id hlive => hlog.not_mentioned (by simp) hlive
  · obtain ⟨hlater, hsorted⟩ := b.completions_increase ops
    rw [hticks, List.pairwise_append]
    refine ⟨?_, ?_, ?_⟩
    · split <;> simp
    · exact hsorted.sublist (List.filter_sublist.map _)
    · intro first hfirst tick htick'
      obtain ⟨c, hc, rfl⟩ := List.mem_map.mp htick'
      have hpos := hlater c (List.mem_filter.mp hc).1
      have hzero : first = 0 := by
        split at hfirst
        · simpa using hfirst
        · simp at hfirst
      omega

/-- A rock that is there from the start, and another one that is added between two steps. -/
theorem changeLog_shownIn_of_rock :
    let arena : Battle Float Idle (Channel Float) := empty 1000.0 .standard
    let b : Battle Float Idle (Channel Float) :=
      { arena.edit (.asteroid .zero 1.0 1.0 "rock") with drawer := some (.ofCapacity 4) }
    let ops : List (Operation Float Idle) :=
      [.step, .edit (.asteroid .unitX 1.0 1.0 "rock"), .step]
    let log := (b.shownIn ops).map entry
    b.Unstarted ∧ b.drawer = some (.ofCapacity 4) ∧
      (∃ known announced, ChangeLog [] [] log known announced) ∧
      (log.flatMap (·.1.newIds)).Nodup ∧ (log.flatMap (·.1.deleted)).Nodup ∧
      ∃ later, log.map (·.1.tick) = 0 :: later := by
  intro arena b ops log
  have hb : b.Unstarted := ((Unstarted.empty _ _).edit _).drawer _
  obtain ⟨-, hlog, hnew, hdeleted, -, -, hticks⟩ := changeLog_shownIn hb rfl ops
  exact ⟨hb, rfl, hlog, hnew, hdeleted, _, hticks⟩

end Battle
end FleetArena
