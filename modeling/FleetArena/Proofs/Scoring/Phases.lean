import FleetArena.Proofs.Battle.Stepping
import FleetArena.Proofs.Scoring.Entries

/-! The scores through a step: only the first phase of a tick touches them, and what the control
points give does not change. -/
namespace FleetArena.Battle
variable {α π δ : Type}

/-- `c` has the scores of `b`, and nothing that scores are counted from is new. -/
structure SameScores (b c : Battle α π δ) : Prop where
  scores : c.scores = b.scores
  maxScore : c.maxScore = b.maxScore
  settings : c.settings = b.settings
  points : ∀ p ∈ c.controlPoints, ∃ q ∈ b.controlPoints, p.points = q.points

namespace SameScores
variable {b c d : Battle α π δ}

theorem of_eq (hscores : c.scores = b.scores) (hmax : c.maxScore = b.maxScore)
    (hsettings : c.settings = b.settings) (hpoints : c.controlPoints = b.controlPoints) :
    b.SameScores c :=
  ⟨hscores, hmax, hsettings, fun p hp => ⟨p, hpoints ▸ hp, rfl⟩⟩

theorem trans (h : b.SameScores c) (h' : c.SameScores d) : b.SameScores d where
  scores := h'.scores.trans h.scores
  maxScore := h'.maxScore.trans h.maxScore
  settings := h'.settings.trans h.settings
  points p hp := by
    obtain ⟨q, hq, hpq⟩ := h'.points p hp
    obtain ⟨r, hr, hqr⟩ := h.points q hq
    exact ⟨r, hr, hpq.trans hqr⟩

end SameScores

variable [Scalar α]

/-- What holds of the scores and is kept by whatever a control point gives to a ship holds once they
are counted. -/
theorem score_induction {P : Table String α → Prop} {b : Battle α π δ}
    (hcredit : ∀ p ∈ b.controlPoints, ∀ s ∈ b.ships, ∀ scores, P scores →
      P (credit scores s.fleet (p.points * b.dt))) (h : P b.scores) : P b.score.scores := by
  show P (b.controlPoints.foldl (fun scores p => scoreAt p b.dt b.ships scores) b.scores)
  refine List.foldlRecOn _ _ h fun scores hscores p hp => ?_
  refine List.foldlRecOn _ _ hscores fun scores hscores s hs => ?_
  split
  · exact hcredit p hp s hs scores hscores
  · exact hscores

/-- Counting the scores loses no fleet. -/
theorem subset_keys_score (b : Battle α π δ) : b.scores.keys ⊆ b.score.scores.keys := by
  apply score_induction (P := fun scores => b.scores.keys ⊆ scores.keys)
  · intro p _ s _ scores hscores
    exact List.Subset.trans hscores (Table.subset_keys_alter _ _ _)
  · exact List.Subset.refl _

theorem sameScores_launch (b : Battle α π δ) : b.SameScores b.launch := by
  rw [launch_eq]
  exact .of_eq rfl rfl rfl rfl

theorem sameScores_integrate (b : Battle α π δ) : b.SameScores b.integrate := by
  refine ⟨rfl, rfl, rfl, fun p hp => ?_⟩
  obtain ⟨q, hq, rfl⟩ := List.mem_map.mp hp
  exact ⟨q, hq, rfl⟩

theorem sameScores_collide (b : Battle α π δ) : b.SameScores b.collide := by
  refine ⟨rfl, rfl, rfl, fun p hp => ?_⟩
  have hzip : p ∈ List.zipWith (fun (p : ControlPoint α) body => { p with body })
      b.controlPoints _ := hp
  rw [← List.map_uncurry_zip_eq_zipWith] at hzip
  obtain ⟨⟨q, body⟩, hq, rfl⟩ := List.mem_map.mp hzip
  exact ⟨q, (List.of_mem_zip hq).1, rfl⟩

theorem sameScores_cull (b : Battle α π δ) : b.SameScores b.cull.1 :=
  .of_eq rfl rfl rfl rfl

variable [Drawer α δ]

theorem sameScores_start (b : Battle α π δ) : b.SameScores b.start := by
  obtain ⟨drawer, drawn, deleted, h⟩ := b.exists_start_eq
  rw [h]
  exact .of_eq rfl rfl rfl rfl

variable [Pilot α π]

omit [Drawer α δ] in
/-- Once the scores are counted the rest of a tick leaves them alone. -/
theorem sameScores_move (b : Battle α π δ) : b.score.SameScores b.move := by
  have hdecide : b.score.SameScores b.score.decide := .of_eq rfl rfl rfl rfl
  exact (hdecide.trans (sameScores_launch _)).trans (sameScores_integrate _)

theorem sameScores_completed (b : Battle α π δ) :
    b.start.score.SameScores b.completed := by
  have hcount (c : Battle α π δ) : c.SameScores { c with tick := c.tick + 1 } :=
    .of_eq rfl rfl rfl rfl
  have hcollide := (sameScores_move b.start).trans (sameScores_collide _)
  exact (hcollide.trans (sameScores_cull _)).trans (hcount _)

theorem Completes.sameScores {b : Battle α π δ} (h : b.Completes) :
    b.completed.SameScores b.step.battle := by
  obtain ⟨drawer, drawn, deleted, hbattle⟩ := h.exists_battle_eq
  rw [hbattle]
  exact .of_eq rfl rfl rfl rfl

/-- A step leaves a battle as it is, or with the scores of a first phase. -/
theorem sameScores_step (b : Battle α π δ) :
    b.step.battle = b ∨ b.start.score.SameScores b.step.battle := by
  cases hh : b.halted with
  | true =>
    apply Or.inl
    rw [step_of_halted hh]
  | false =>
    apply Or.inr
    have hmove := sameScores_move b.start
    have hcollide := hmove.trans (sameScores_collide _)
    exact step_induction (P := b.start.score.SameScores) hh hmove hcollide
      (hcollide.trans (sameScores_cull _)) fun _ _ _ _ _ _ h => h.trans (.of_eq rfl rfl rfl rfl)

end FleetArena.Battle
