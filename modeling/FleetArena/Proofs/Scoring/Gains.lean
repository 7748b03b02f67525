import FleetArena.Proofs.Battle.Playing
import FleetArena.Proofs.Battle.Ships

/-! What fleets gain: in every tick each control point gives its points to each ship within its
influence, and the score of a fleet is what its ships were given. -/
namespace FleetArena
open Exact

noncomputable instance : Zero Exact := ⟨real 0⟩

theorem real_zero : real 0 = 0 := rfl

/-- Quantities add up in any order, also those that are not finite. -/
noncomputable instance : AddCommMonoid Exact where
  add_assoc a b c := by
    cases a <;> cases b <;> cases c <;> first | rfl | exact congrArg real (add_assoc _ _ _)
  add_comm a b := by
    cases a <;> cases b <;> first | rfl | exact congrArg real (add_comm _ _)
  zero_add a := by
    cases a with
    | real x => exact congrArg real (zero_add x)
    | posInf => rfl
    | negInf => rfl
    | nan => rfl
  add_zero a := by
    cases a with
    | real x => exact congrArg real (add_zero x)
    | posInf => rfl
    | negInf => rfl
    | nan => rfl
  nsmul := nsmulRec

/-- What a table has for a fleet; nothing if the fleet is not registered. -/
noncomputable def standing (scores : Table String Exact) (fleet : String) : Exact :=
  (scores.get? fleet).getD 0

theorem standing_credit (scores : Table String Exact) (fleet other : String) (amount : Exact) :
    standing (Battle.credit scores other amount) fleet =
      standing scores fleet + if other = fleet then amount else 0 := by
  rw [standing, Battle.credit]
  split
  · rename_i heq
    rw [heq, Table.get?_alter_self, Option.getD_some, zero_eq, real_zero]
    rfl
  · rename_i hne
    rw [Table.get?_alter_of_ne _ (Ne.symm hne), add_zero]
    rfl

/-- What is given one after the other adds up. -/
theorem standing_foldl {β : Type} {f : Table String Exact → β → Table String Exact}
    {amount : β → Exact} {fleet : String}
    (hf : ∀ scores x, standing (f scores x) fleet = standing scores fleet + amount x) (l : List β)
    (scores : Table String Exact) :
    standing (l.foldl f scores) fleet = standing scores fleet + (l.map amount).sum := by
  induction l generalizing scores with
  | nil => simp
  | cons x rest ih => rw [List.foldl_cons, ih, hf, List.map_cons, List.sum_cons, add_assoc]

namespace Battle
variable {π δ : Type}

/-- What a fleet gains in a tick: of every control point its points for the length of the tick, once
for each ship of the fleet that is closer to it than its influence reaches. -/
noncomputable def gain (b : Battle Exact π δ) (fleet : String) : Exact :=
  (b.controlPoints.map fun p =>
    ((b.ships.filter fun s => s.fleet = fleet ∧
      p.body.position.distance s.body.position < p.influence).map fun _ =>
        p.points * b.dt).sum).sum

theorem standing_scoreAt (p : ControlPoint Exact) (dt : Exact) (ships : List (Ship Exact π))
    (scores : Table String Exact) (fleet : String) :
    standing (scoreAt p dt ships scores) fleet = standing scores fleet +
      ((ships.filter fun s => s.fleet = fleet ∧
        p.body.position.distance s.body.position < p.influence).map
          fun _ => p.points * dt).sum := by
  let amount (s : Ship Exact π) : Exact :=
    if s.fleet = fleet ∧ p.body.position.distance s.body.position < p.influence
    then p.points * dt else 0
  have hship (scores : Table String Exact) (s : Ship Exact π) :
      standing (if p.influences s.body.position then credit scores s.fleet (p.points * dt)
        else scores) fleet = standing scores fleet + amount s := by
    have hnear : p.influences s.body.position = true ↔
        p.body.position.distance s.body.position < p.influence := decide_eq_true_iff
    by_cases h : p.body.position.distance s.body.position < p.influence
    · simp only [hnear, amount, h, and_true, if_true, standing_credit]
    · simp only [hnear, amount, h, and_false, if_false, add_zero]
  -- a ship of another fleet, or one that is too far away, counts for nothing
  rw [scoreAt, standing_foldl hship, List.sum_map_ite]
  simp

/-- The first phase of a tick gives each fleet what it gains. -/
theorem standing_score (b : Battle Exact π δ) (fleet : String) :
    standing b.score.scores fleet = standing b.scores fleet + b.gain fleet :=
  standing_foldl (fun scores p => standing_scoreAt p b.dt b.ships scores fleet) _ _

/-- A fleet without ships is not given anything. -/
theorem get?_score_of_forall_ne {b : Battle Exact π δ} {fleet : String}
    (h : ∀ s ∈ b.ships, s.fleet ≠ fleet) : b.score.scores.get? fleet = b.scores.get? fleet := by
  apply score_induction (P := fun scores => scores.get? fleet = b.scores.get? fleet)
  · intro p _ s hs scores hscores
    rw [credit, Table.get?_alter_of_ne _ (Ne.symm (h s hs)), hscores]
  · rfl

variable [Drawer Exact δ] [Pilot Exact π]

/-- A tick that is completed counts the scores where everything was before it, and nothing else in
it touches them. -/
structure Scores (b : Battle Exact π δ) : Prop where
  start : b.start.scores = b.scores
  phases : ∀ c ∈ b.phases.tail, c.scores = b.score.scores
  step : b.step.battle.scores = b.score.scores

theorem Completes.scores {b : Battle Exact π δ} (h : b.Completes) : b.Scores := by
  have hstart : b.start.score.scores = b.score.scores := by
    obtain ⟨drawer, drawn, deleted, hstart⟩ := b.exists_start_eq
    rw [hstart]
    rfl
  have hmove := sameScores_move b.start
  have hdecide : b.start.score.SameScores b.start.score.decide := .of_eq rfl rfl rfl rfl
  have hlaunch := hdecide.trans (sameScores_launch _)
  have hcollide := hmove.trans (sameScores_collide _)
  have hcull := hcollide.trans (sameScores_cull _)
  have hdone := b.sameScores_completed
  refine ⟨b.sameScores_start.scores, ?_, ?_⟩
  · rw [← hstart]
    simp only [Battle.phases, List.tail_cons, List.forall_mem_cons]
    exact ⟨trivial, hdecide.scores, hlaunch.scores, hmove.scores, hcollide.scores, hcull.scores,
      hdone.scores, List.forall_mem_nil _⟩
  · rw [← hstart]
    exact (hdone.trans h.sameScores).scores

/-- After any number of ticks that are completed a fleet has what it had before them and what it has
gained in each of them. -/
theorem standing_after {b : Battle Exact π δ} {k : Nat}
    (h : ∀ i < k, ∃ outcome, (b.after i).step.result = .ok outcome) :
    (∀ i < k, (b.after i).Scores) ∧
      (∀ fleet, standing (b.after k).scores fleet =
        standing b.scores fleet + ∑ i ∈ Finset.range k, (b.after i).gain fleet) ∧
      (∀ fleet, (∀ i < k, ∀ s ∈ (b.after i).ships, s.fleet ≠ fleet) →
        (b.after k).scores.get? fleet = b.scores.get? fleet) ∧
      b.scores.keys ⊆ (b.after k).scores.keys := by
  have hscores : ∀ i < k, (b.after i).Scores := by
    intro i hi
    obtain ⟨outcome, houtcome⟩ := h i hi
    exact (completes_of_result houtcome).2.scores
  refine ⟨hscores, ?_⟩
  clear h
  induction k with
  | zero => simp [after]
  | succ k ih =>
    obtain ⟨hstanding, hkeeps, hkeys⟩ := ih fun i hi => hscores i (Nat.lt_succ_of_lt hi)
    have hstep : (b.after (k + 1)).scores = (b.after k).score.scores := by
      rw [after_succ]
      exact (hscores k (Nat.lt_succ_self k)).step
    rw [hstep]
    refine ⟨fun fleet => ?_, fun fleet hfleet => ?_, List.Subset.trans hkeys (subset_keys_score _)⟩
    · rw [standing_score, hstanding, Finset.sum_range_succ, add_assoc]
    · rw [get?_score_of_forall_ne (hfleet k (Nat.lt_succ_self k))]
      exact hkeeps fleet fun i hi => hfleet i (Nat.lt_succ_of_lt hi)

/-- The fleet of the skirmish gains one point in its tick. -/
theorem standing_after_skirmish :
    (∀ i < 1, ∃ outcome, ((skirmish 1).after i).step.result = .ok outcome) ∧
      standing (skirmish 1).scores "red" = 0 ∧
      ∑ i ∈ Finset.range 1, ((skirmish 1).after i).gain "red" = real 1 ∧
      standing ((skirmish 1).after 1).scores "red" = real 1 := by
  obtain ⟨⟨o, ho⟩, hscores⟩ := exists_outcome_of_skirmish 1
  have hsteps : ∀ i < 1, ∃ outcome, ((skirmish 1).after i).step.result = .ok outcome := by
    intro i hi
    obtain rfl : i = 0 := by omega
    exact ⟨_, ho⟩
  obtain ⟨-, hstanding, -⟩ := standing_after hsteps
  have hzero : standing (skirmish 1).scores "red" = 0 := by
    simp [standing, skirmish, addFleet, outpost, Battle.empty, Table.alter, Table.insertIfNew,
      Table.alterEntries, EmptyCollection.emptyCollection, Table.empty, Table.get?, real_zero]
  have hone : standing ((skirmish 1).after 1).scores "red" = real 1 := by
    rw [after_succ, standing, Table.get?]
    show Option.getD (((skirmish 1).step.battle.scores.entries.find? _).map _) 0 = _
    rw [hscores]
    simp
  refine ⟨hsteps, hzero, ?_, hone⟩
  rw [hstanding, hzero, zero_add] at hone
  exact hone

end Battle
end FleetArena
