import FleetArena.Proofs.Battle.Objects

/-! The ways in which a step of a battle can go: the battle was halted before, a check of a motion
fails, or a tick is completed. -/
namespace FleetArena.Battle
variable {α π δ : Type} [Scalar α] [Drawer α δ]

omit [Scalar α] [Drawer α δ] in
theorem exists_eq_with (b : Battle α π δ) : ∃ drawer drawn deleted,
    b = { b with drawer, drawn, deleted } :=
  ⟨_, _, _, rfl⟩

/-- Drawing leaves a battle as it is but for what its drawer knows. -/
theorem exists_emitFrame_eq (b : Battle α π δ) : ∃ drawer drawn deleted,
    b.emitFrame = { b with drawer, drawn, deleted } := by
  rw [emitFrame]
  split
  · exact b.exists_eq_with
  · exact ⟨_, _, _, rfl⟩

theorem start_of_started {b : Battle α π δ} (h : b.started = true) : b.start = b :=
  if_pos h

theorem start_of_not_started {b : Battle α π δ} (h : b.started = false) :
    b.start = emitFrame { b with started := true } := by
  rw [start, h]
  rfl

theorem exists_start_eq (b : Battle α π δ) : ∃ drawer drawn deleted,
    b.start = { b with drawer, drawn, deleted, started := true } := by
  cases hs : b.started with
  | true =>
    rw [start_of_started hs, ← hs]
    exact b.exists_eq_with
  | false =>
    obtain ⟨drawer, drawn, deleted, h⟩ := exists_emitFrame_eq { b with started := true }
    rw [start_of_not_started hs]
    exact ⟨drawer, drawn, deleted, h⟩

theorem clock_start (b : Battle α π δ) : b.start.tick = b.tick ∧
    b.start.settings = b.settings ∧ b.start.started = true ∧ b.start.halted = b.halted := by
  obtain ⟨drawer, drawn, deleted, h⟩ := b.exists_start_eq
  rw [h]
  exact ⟨rfl, rfl, rfl, rfl⟩

variable [Pilot α π]

/-- The battle with the next tick completed, before its frame. -/
def completed (b : Battle α π δ) : Battle α π δ :=
  let c := b.start.move.collide.cull.1
  { c with tick := c.tick + 1 }

theorem ships_completed (b : Battle α π δ) :
    b.completed.ships = b.start.move.collide.cull.1.ships := by
  rw [completed]

theorem projectiles_completed (b : Battle α π δ) :
    b.completed.projectiles = b.start.move.collide.cull.1.projectiles := by
  rw [completed]

theorem clock_completed (b : Battle α π δ) : b.completed.tick = b.tick + 1 ∧
    b.completed.settings = b.settings ∧ b.completed.started = true ∧
    b.completed.halted = b.halted := by
  obtain ⟨htick, hsettings, hstarted, hhalted⟩ := b.clock_start
  obtain ⟨count, hmove⟩ := b.start.grows_move
  have hcollide := hmove.trans (grows_collide _)
  obtain ⟨removed, hcull⟩ := b.start.move.collide.loses_cull
  refine ⟨?_, ?_, ?_, ?_⟩
  · rw [completed, ← htick, ← hcollide.tick, ← hcull.tick]
  · exact (hcull.settings.trans hcollide.settings).trans hsettings
  · exact (hcull.started.trans hcollide.started).trans hstarted
  · exact (hcull.halted.trans hcollide.halted).trans hhalted

/-- What is left of a step once a tick is completed. -/
def Completes (b : Battle α π δ) : Prop :=
  b.step =
    ⟨if b.completed.isFrameDue b.completed.outcome? then b.completed.emitFrame else b.completed,
      b.start.move.collide.cull.2, .ok b.completed.outcome?⟩

/-- A check before or after the collisions has failed. -/
def Breaks (b : Battle α π δ) (e : StepError) : Prop :=
  b.step = ⟨b.start.move.halt, [], .error e⟩ ∨ b.step = ⟨b.start.move.collide.halt, [], .error e⟩

theorem step_of_halted {b : Battle α π δ} (h : b.halted = true) :
    b.step = ⟨b, [], .error .halted⟩ :=
  if_pos h

/-- A step whose two checks succeed completes a tick. -/
theorem completes_of_checkFinite {b : Battle α π δ} (h : b.halted = false)
    (hbefore : b.start.move.checkFinite = .ok ())
    (hafter : b.start.move.collide.checkFinite = .ok ()) : b.Completes := by
  rw [Completes, step, h, if_neg Bool.false_ne_true]
  simp only [hbefore, hafter]
  rfl

/-- The first check fails. -/
theorem step_of_error_before {b : Battle α π δ} {e : StepError} (h : b.halted = false)
    (hbefore : b.start.move.checkFinite = .error e) :
    b.step = ⟨b.start.move.halt, [], .error e⟩ := by
  rw [step, h, if_neg Bool.false_ne_true]
  simp only [hbefore]

/-- The second check fails. -/
theorem step_of_error_after {b : Battle α π δ} {e : StepError} (h : b.halted = false)
    (hbefore : b.start.move.checkFinite = .ok ())
    (hafter : b.start.move.collide.checkFinite = .error e) :
    b.step = ⟨b.start.move.collide.halt, [], .error e⟩ := by
  rw [step, h, if_neg Bool.false_ne_true]
  simp only [hbefore, hafter]

theorem step_cases {b : Battle α π δ} (h : b.halted = false) :
    (∃ e, b.Breaks e) ∨ b.Completes := by
  cases hbefore : b.start.move.checkFinite with
  | error e => exact Or.inl ⟨e, Or.inl (step_of_error_before h hbefore)⟩
  | ok u =>
    cases hafter : b.start.move.collide.checkFinite with
    | error e => exact Or.inl ⟨e, Or.inr (step_of_error_after h hbefore hafter)⟩
    | ok u => exact Or.inr (completes_of_checkFinite h hbefore hafter)

theorem completes_of_result {b : Battle α π δ} {outcome : Option (Outcome α)}
    (h : b.step.result = .ok outcome) : b.halted = false ∧ b.Completes := by
  cases hh : b.halted with
  | true =>
    rw [step_of_halted hh] at h
    cases h
  | false =>
    rcases step_cases hh with ⟨e, hstep | hstep⟩ | hcompletes
    · rw [hstep] at h
      cases h
    · rw [hstep] at h
      cases h
    · exact ⟨rfl, hcompletes⟩

theorem Completes.exists_battle_eq {b : Battle α π δ} (h : b.Completes) :
    ∃ drawer drawn deleted, b.step.battle = { b.completed with drawer, drawn, deleted } := by
  rw [show b.step = _ from h]
  dsimp only
  split
  · exact b.completed.exists_emitFrame_eq
  · exact b.completed.exists_eq_with

/-- Wherever a step ends, the battle is what one of its phases has left, but for the clock, for the
halt and for what the drawer knows. -/
theorem step_induction {P : Battle α π δ → Prop} {b : Battle α π δ} (hh : b.halted = false)
    (hmove : P b.start.move) (hcollide : P b.start.move.collide)
    (hcull : P b.start.move.collide.cull.1)
    (hrest : ∀ c tick drawer drawn deleted halted,
      P c → P { c with tick, drawer, drawn, deleted, halted }) : P b.step.battle := by
  have hhalt (c : Battle α π δ) (h : P c) : P c.halt :=
    hrest c c.tick c.drawer c.drawn c.deleted true h
  rcases step_cases hh with ⟨e, hstep | hstep⟩ | hcompletes
  · rw [hstep]
    exact hhalt _ hmove
  · rw [hstep]
    exact hhalt _ hcollide
  · obtain ⟨drawer, drawn, deleted, hbattle⟩ := hcompletes.exists_battle_eq
    rw [hbattle, completed]
    generalize b.start.move.collide.cull.1 = c at hcull
    exact hrest c (c.tick + 1) drawer drawn deleted c.halted hcull

end FleetArena.Battle
