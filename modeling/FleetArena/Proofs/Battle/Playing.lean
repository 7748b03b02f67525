import FleetArena.Proofs.Battle.Halting
import FleetArena.Proofs.Scoring.Winners

/-! Playing a battle out: the steps that a run makes one after the other, and where it stops. A
battle with a last tick is over when that tick is completed, at the latest. -/
namespace FleetArena.Battle
variable {α π δ : Type} [Scalar α] {b c : Battle α π δ}

/-- What a reason to end a battle asks for, whether or not there is another one. -/
def Meets (b : Battle α π δ) : EndReason → Prop
  | .maxTicks => ∃ n ∈ b.settings.maxTicks, n ≤ b.tick
  | .noShips => b.ships = []
  | .scoreLimit => ∃ limit ∈ b.scoreLimit, limit < b.maxScore
  | .lastFleetStanding => ∃ fleet, b.survivors = [fleet] ∧ b.leaders = [fleet]

open scoped Classical in
/-- The reasons go before each other in this order. -/
theorem endReason?_eq_find? (b : Battle α π δ) : b.endReason? =
    [.maxTicks, .noShips, .scoreLimit, .lastFleetStanding].find?
      (Decidable.decide <| b.Meets ·) := by
  have hticks : b.settings.maxTicks.any (· ≤ b.tick) = true ↔ b.Meets .maxTicks := by
    simp [Meets, Option.any_eq_true]
  have hships : b.ships.isEmpty = true ↔ b.Meets .noShips := List.isEmpty_iff
  have hlimit : b.scoreLimit.any (fun limit => Decidable.decide (b.maxScore > limit)) = true ↔
      b.Meets .scoreLimit := by
    simp [Meets, Option.any_eq_true]
  simp only [endReason?, hticks, hships, hlimit, List.find?_cons, List.find?_nil]
  split_ifs with h₁ h₂ h₃
  · simp only [h₁, decide_true]
  · simp only [h₁, h₂, decide_true, decide_false]
  · simp only [h₁, h₂, h₃, decide_true, decide_false]
  simp only [h₁, h₂, h₃, decide_false]
  -- the last reason asks for one fleet that is left, and that is alone in the lead
  split
  · rename_i survivor leader hsurvivors hleaders
    have hsole : b.Meets .lastFleetStanding ↔ survivor = leader := by
      simp [Meets, hsurvivors, hleaders, eq_comm]
    by_cases heq : survivor = leader
    · simp only [hsole, heq, if_true, decide_true]
    · simp only [hsole, heq, if_false, decide_false]
  · rename_i hseveral
    have hnot : ¬b.Meets .lastFleetStanding := by
      rintro ⟨fleet, hsurvivors, hleaders⟩
      exact hseveral fleet fleet hsurvivors hleaders
    simp only [hnot, decide_false]

theorem endReason?_eq_none_iff : b.endReason? = none ↔ ∀ reason, ¬b.Meets reason := by
  rw [endReason?_eq_find?, List.find?_eq_none]
  constructor
  · intro h reason
    have hmem : reason ∈ [.maxTicks, .noShips, .scoreLimit, .lastFleetStanding] := by
      cases reason <;> simp
    simpa using h reason hmem
  · intro h reason _
    simpa using h reason

/-- The last tick is the first of the reasons. -/
theorem endReason?_eq_maxTicks_iff : b.endReason? = some .maxTicks ↔ b.Meets .maxTicks := by
  rw [endReason?_eq_find?, List.find?_cons]
  split
  · rename_i h
    simpa using h
  · rename_i h
    have hmet : ¬b.Meets .maxTicks := by simpa using h
    refine iff_of_false (fun hfound => hmet ?_) hmet
    simpa using List.find?_some hfound

theorem meets_of_endReason? {reason : EndReason} (h : b.endReason? = some reason) :
    b.Meets reason := by
  rw [endReason?_eq_find?] at h
  simpa using List.find?_some h

variable [Pilot α π] [Drawer α δ]

/-- A step that succeeds tells the outcome of the battle that it leaves. -/
theorem result_eq_outcome? {outcome : Option (Outcome α)} (h : b.step.result = .ok outcome) :
    outcome = b.step.battle.outcome? := by
  obtain ⟨-, hcompletes⟩ := completes_of_result h
  obtain ⟨drawer, drawn, deleted, hbattle⟩ := hcompletes.exists_battle_eq
  rw [show b.step = _ from hcompletes] at h
  rw [hbattle, ← Except.ok.inj h]
  -- the frame that may follow a tick tells the drawer and nobody else
  generalize b.completed = c
  rfl

/-- The battle after `n` steps, whatever came of them. -/
def after (b : Battle α π δ) (n : Nat) : Battle α π δ :=
  (fun c => c.step.battle)^[n] b

theorem after_succ (b : Battle α π δ) (n : Nat) : b.after (n + 1) = (b.after n).step.battle :=
  Function.iterate_succ_apply' _ _ _

/-- As long as no step has failed, the clock counts them. -/
theorem clock_after (n : Nat) (h : (b.after n).halted = false) :
    (b.after n).tick = b.tick + n ∧ (b.after n).settings = b.settings := by
  induction n with
  | zero => exact ⟨rfl, rfl⟩
  | succ n ih =>
    rw [after_succ] at h ⊢
    cases hn : (b.after n).halted with
    | true =>
      rw [step_of_halted hn, hn] at h
      cases h
    | false =>
      obtain ⟨htick, hsettings⟩ := ih hn
      rcases clock_step hn with ⟨-, hhalted, -⟩ | ⟨outcome, -, htick', hsettings', -⟩
      · rw [hhalted] at h
        cases h
      · rw [htick', hsettings', htick]
        exact ⟨Nat.add_assoc _ _ _, hsettings⟩

/-- `k` steps of `b` decide nothing, but the next one ends the battle or fails. `s` is what all of
them leave. -/
structure Ends (b : Battle α π δ) (k : Nat) (s : Step α π δ) : Prop where
  undecided : ∀ i < k, (b.after i).step.result = .ok none
  decided : s.result ≠ .ok none
  battle : s.battle = b.after (k + 1)
  removed : s.removed = (List.range (k + 1)).flatMap fun i => (b.after i).step.removed
  result : s.result = (b.after k).step.result

theorem Ends.unique {k : Nat} {s s' : Step α π δ} (h : b.Ends k s) (h' : b.Ends k s') : s = s' := by
  obtain ⟨-, -, hbattle, hremoved, hresult⟩ := h
  obtain ⟨-, -, hbattle', hremoved', hresult'⟩ := h'
  cases s
  cases s'
  simp_all

/-- Steps that decide nothing are made one after the other. -/
theorem stepsFrom_of_undecided {k : Nat} (h : ∀ i < k, (b.after i).step.result = .ok none)
    (removed : List (Ship α π)) (limit : Nat) :
    b.stepsFrom removed (k + limit) = (b.after k).stepsFrom
      (removed ++ (List.range k).flatMap fun i => (b.after i).step.removed) limit := by
  induction k generalizing limit with
  | zero => simp [after]
  | succ k ih =>
    have hprefix := ih (fun i hi => h i (Nat.lt_succ_of_lt hi)) (limit + 1)
    rw [Nat.succ_add_eq_add_succ, hprefix, stepsFrom, h k (Nat.lt_succ_self k)]
    dsimp only
    rw [after_succ, List.range_succ, List.flatMap_append, List.append_assoc, List.flatMap_singleton]

/-- The first step that does not leave the battle open is the last one. -/
theorem ends_steps {k limit : Nat} (h : ∀ i < k, (b.after i).step.result = .ok none)
    (hk : (b.after k).step.result ≠ .ok none) (hlimit : k < limit) : b.Ends k (b.steps limit) := by
  obtain ⟨rest, rfl⟩ := Nat.exists_eq_add_of_lt hlimit
  have hsteps : b.steps (k + rest + 1) = ⟨b.after (k + 1),
      (List.range (k + 1)).flatMap fun i => (b.after i).step.removed,
      (b.after k).step.result⟩ := by
    rw [steps, Nat.add_assoc, stepsFrom_of_undecided h, stepsFrom, after_succ, List.range_succ,
      List.flatMap_append, List.flatMap_singleton, List.nil_append]
    split
    · rename_i hnone
      exact absurd hnone hk
    · rfl
  rw [hsteps]
  exact ⟨h, hk, rfl, rfl, rfl⟩

/-- A step that succeeds completes the next tick. If it is the last one or comes after it, then it
ends the battle for this reason, whatever else might end it, and if it comes before then it does
not. -/
structure Tells (b : Battle α π δ) (n i : Nat) (outcome : Option (Outcome α)) : Prop where
  tick : (b.after (i + 1)).tick = b.tick + (i + 1)
  outcome_tick : ∀ o ∈ outcome, o.tick = b.tick + (i + 1)
  open_iff : outcome = none ↔ ∀ reason, ¬(b.after (i + 1)).Meets reason
  maxTicks_iff : (∃ o ∈ outcome, o.reason = .maxTicks) ↔ n ≤ b.tick + (i + 1)

theorem tells_of_result {n : Nat} (hmax : b.settings.maxTicks = some n) {i : Nat}
    {outcome : Option (Outcome α)} (h : (b.after i).step.result = .ok outcome) :
    b.Tells n i outcome := by
  obtain ⟨hh, -⟩ := completes_of_result h
  have hhalted : (b.after (i + 1)).halted = false := by
    rw [after_succ]
    rcases clock_step hh with ⟨-, -, e, herror⟩ | ⟨-, -, -, -, -, hhalted, -⟩
    · rw [herror] at h
      cases h
    · exact hhalted
  obtain ⟨htick, hsettings⟩ := clock_after (i + 1) hhalted
  have houtcome : outcome = (b.after (i + 1)).outcome? := by
    rw [after_succ]
    exact result_eq_outcome? h
  have hlast : (b.after (i + 1)).Meets .maxTicks ↔ n ≤ b.tick + (i + 1) := by
    simp [Meets, hsettings, hmax, htick]
  refine ⟨htick, ?_, ?_, ?_⟩
  · intro o ho
    obtain ⟨reason, -, rfl⟩ := Option.map_eq_some_iff.mp (houtcome ▸ ho)
    exact htick
  · rw [houtcome, outcome?, Option.map_eq_none_iff]
    exact endReason?_eq_none_iff
  · rw [← hlast, ← endReason?_eq_maxTicks_iff, houtcome, outcome?]
    simp

/-- A step to the last tick or beyond does not leave the battle open. -/
theorem exists_decided {n : Nat} (hmax : b.settings.maxTicks = some n) :
    ∃ k < max 1 (n - b.tick), (b.after k).step.result ≠ .ok none := by
  refine ⟨max 1 (n - b.tick) - 1, by omega, fun hopen => ?_⟩
  obtain ⟨-, -, -, htells⟩ := tells_of_result hmax hopen
  obtain ⟨o, ho, -⟩ := htells.mpr (by omega)
  cases ho

/-- A battle with a last tick plays out. Its run stops at the first step that does not leave the
battle open, no later than at the last tick, or after one step when the last tick is over, and no
more comes of it however many steps are allowed. So it fails or has an outcome. Every step that does
not fail says by its outcome whether the last tick is reached, and before that whether there is
another reason to end. -/
theorem ends_run {n : Nat} (hmax : b.settings.maxTicks = some n) :
    (∃ k < max 1 (n - b.tick), b.Ends k b.run ∧
      (∀ limit ≥ max 1 (n - b.tick), b.steps limit = b.run) ∧
      ∀ o, b.run.result = .ok (some o) →
        o.tick = b.tick + (k + 1) ∧ o.tick = b.run.battle.tick ∧ o.tick ≤ max n (b.tick + 1)) ∧
      ∀ i outcome, (b.after i).step.result = .ok outcome → b.Tells n i outcome := by
  refine ⟨?_, fun i outcome => tells_of_result hmax⟩
  classical
  -- the step at which the run stops is the first of those that decide something
  obtain ⟨last, hlast, hdecided⟩ := exists_decided hmax
  have hexists : ∃ k, (b.after k).step.result ≠ .ok none := ⟨last, hdecided⟩
  let k := Nat.find hexists
  have hundecided : ∀ i < k, (b.after i).step.result = .ok none :=
    fun i hi => not_not.mp (Nat.find_min hexists hi)
  have hk : k < max 1 (n - b.tick) := (Nat.find_min' hexists hdecided).trans_lt hlast
  have hleft : b.stepsLeft = max 1 (n - b.tick) := by
    rw [stepsLeft, hmax]
  have hends (limit : Nat) (hlimit : limit ≥ max 1 (n - b.tick)) : b.Ends k (b.steps limit) :=
    ends_steps hundecided (Nat.find_spec hexists) (hk.trans_le hlimit)
  have hrun : b.Ends k b.run := hends b.stepsLeft hleft.ge
  refine ⟨k, hk, hrun, fun limit hlimit => (hends limit hlimit).unique hrun, fun o ho => ?_⟩
  obtain ⟨htick, houtcome, -, -⟩ := tells_of_result hmax (hrun.result.symm.trans ho)
  have hend : o.tick = b.tick + (k + 1) := houtcome o rfl
  refine ⟨hend, ?_, ?_⟩
  · rw [hrun.battle, htick, hend]
  · omega

section
open Exact

theorem not_isGone_sentry {b : Battle Exact Idle (Channel Exact)}
    (harena : b.arenaRadius = real 1000) : b.isGone Ship.sentry.body = false := by
  rw [not_isGone_iff, isSphere_sentry.position, Vec3.length_exact, norm_zero, harena]
  have hhealth : Ship.sentry.body.health = real 1 := by
    have hsum : Scalar.sum [(1.0 : Exact)] = real 1 := by
      simpa [one_eq] using sum_map_real [1]
    exact hsum
  rw [hhealth, zero_eq, real_le, gt_iff_lt, real_lt]
  norm_num

/-- The tick that ends the skirmish leaves one fleet, which is in the lead. -/
theorem meets_lastFleetStanding_skirmish : (skirmish 1).step.battle.Meets .lastFleetStanding := by
  have hstill := isStill_skirmish 1
  have hcull := cull_of_forall (b := (skirmish 1).start.score.decide.launch)
    (List.forall_mem_singleton.mpr (not_isGone_sentry rfl)) (List.forall_mem_nil _)
  have hcompletes : (skirmish 1).Completes := completes_of_isStill rfl rfl hstill
  obtain ⟨drawer, drawn, deleted, hbattle⟩ := hcompletes.exists_battle_eq
  rw [hbattle, completed_of_isStill rfl hstill hcull]
  have hscores : (skirmish 1).start.score.scores.entries = [("red", real 1)] := scores_skirmish 1
  have hmax : Scalar.maximum (skirmish 1).start.score.scores.values = real 1 := by
    rw [Table.values, hscores]
    simpa using maximum_map_real [1]
  refine ⟨"red", rfl, ?_⟩
  show ((skirmish 1).start.score.scores.filter fun _ score => score ==
    Scalar.maximum (skirmish 1).start.score.scores.values).keys = ["red"]
  rw [hmax, Table.keys]
  simp [Table.filter, hscores]

/-- The skirmish is over with its first and last tick, although the fleet has won as well. -/
theorem ends_run_of_skirmish : (skirmish 1).settings.maxTicks = some 1 ∧
    ∃ o, (skirmish 1).run.result = .ok (some o) ∧ o.tick = 1 ∧ o.reason = .maxTicks ∧
      (skirmish 1).run.battle.Meets .lastFleetStanding := by
  obtain ⟨⟨k, hk, hends, -, hrun⟩, hsteps⟩ := ends_run (b := skirmish 1) (n := 1) rfl
  obtain rfl : k = 0 := by
    have hone : max 1 (1 - (skirmish 1).tick) = 1 := rfl
    omega
  obtain ⟨⟨o, ho⟩, -⟩ := exists_outcome_of_skirmish 1
  have hresult : (skirmish 1).run.result = .ok (some o) := hends.result.trans ho
  have htells := hsteps 0 (some o) ho
  have hreason : o.reason = .maxTicks := by
    simpa using htells.maxTicks_iff.mpr (Nat.le_refl 1)
  refine ⟨rfl, o, hresult, htells.outcome_tick o rfl, hreason, ?_⟩
  rw [hends.battle]
  exact meets_lastFleetStanding_skirmish

end

end FleetArena.Battle
