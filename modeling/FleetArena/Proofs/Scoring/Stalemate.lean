import FleetArena.Proofs.Battle.Playing
import FleetArena.Proofs.Battle.Identity
import FleetArena.Proofs.FloatingPoint
import FleetArena.Proofs.Setup.Faults

/-! Battles without control points. Nobody gets a point, so that all fleets are level for good, and
no battle is won by points or by being the last fleet. -/
namespace FleetArena
open Exact

/-- What an outcome without points rests on: zero equals itself, and is not above what it is not
below. -/
class Scalar.Grounded (α : Type) [Scalar α] : Prop where
  zero_beq_zero : ((0.0 : α) == 0.0) = true
  not_lt_zero : ∀ x : α, 0.0 ≤ x → ¬x < 0.0

instance : Scalar.Grounded Exact where
  zero_beq_zero := by
    rw [zero_eq, real_beq]
    exact decide_eq_true rfl
  not_lt_zero x h := by
    rw [zero_eq] at h ⊢
    rcases nonneg_iff.mp h with ⟨y, hy, rfl⟩ | rfl
    · exact not_lt.mpr hy
    · exact not_posInf_lt_real

open FloatingPoint in
instance : Scalar.Grounded Float where
  zero_beq_zero := by decide +kernel
  not_lt_zero x h := by
    have hle : (0.0 : Float).toModel.unpack.le x.toModel.unpack = true := of_decide_eq_true h
    intro hlt
    have hlt' : x.toModel.unpack.lt (0.0 : Float).toModel.unpack = true := of_decide_eq_true hlt
    rw [unpack_zero] at hle hlt'
    rw [(nonneg_of_le hle).not_lt_zero] at hlt'
    cases hlt'

variable {α π δ σ : Type} [Scalar α]

/-- The largest of zeros and zero is zero. -/
theorem Scalar.maximum_eq_zero {xs : List α} (h : ∀ x ∈ xs, x = 0.0) : Scalar.maximum xs = 0.0 := by
  rw [maximum]
  induction xs with
  | nil => rfl
  | cons x rest ih =>
    obtain ⟨rfl, hrest⟩ := List.forall_mem_cons.mp h
    have hmax : Scalar.max (0.0 : α) 0.0 = 0.0 := by
      rw [max]
      split_ifs <;> rfl
    rw [List.foldl_cons, hmax]
    exact ih hrest

/-- An edit that brings no points: it adds no control point, and no score limit below zero. -/
def Edit.IsPointless : Edit α π → Prop
  | .controlPoint _ _ _ _ _ => False
  | .scoreLimit limit => ∀ x ∈ limit, 0.0 ≤ x
  | _ => True

namespace Battle
variable {b c : Battle α π δ}

/-- No fleet has a point, and there are none to get. -/
structure IsPointless (b : Battle α π δ) : Prop where
  controlPoints : b.controlPoints = []
  scoreLimit : ∀ limit ∈ b.scoreLimit, 0.0 ≤ limit
  scores : ∀ score ∈ b.scores.values, score = 0.0

theorem IsPointless.sameScores (h : b.IsPointless) (hc : b.SameScores c)
    (hlimit : c.scoreLimit = b.scoreLimit) : c.IsPointless where
  controlPoints := by
    rw [List.eq_nil_iff_forall_not_mem]
    intro p hp
    obtain ⟨q, hq, -⟩ := hc.points p hp
    rw [h.controlPoints] at hq
    cases hq
  scoreLimit := hlimit ▸ h.scoreLimit
  scores := hc.scores ▸ h.scores

/-- There is nothing to count. -/
theorem IsPointless.score_eq (h : b.IsPointless) : b.score = { b with maxScore := 0.0 } := by
  rw [score, h.controlPoints, List.foldl_nil, Scalar.maximum_eq_zero h.scores]

theorem values_edit (h : ∀ score ∈ b.scores.values, score = 0.0) (e : Edit α π) :
    ∀ score ∈ (b.edit e).scores.values, score = 0.0 := by
  have hentries : ∀ e ∈ b.scores.entries, e.2 = 0.0 := List.forall_mem_map.mp h
  have hfleet (name : String) : ∀ score ∈ (b.addFleet name).scores.values, score = 0.0 :=
    List.forall_mem_map.mpr
      (Table.forall_alterEntries (P := (· = 0.0)) hentries rfl fun _ hv => hv)
  cases e with
  | fleet name => exact hfleet name
  | ship fleet position pilot parts =>
    rcases b.edit_ship_cases fleet position pilot parts with hrefused | ⟨-, hadded⟩
    · rw [hrefused]
      exact h
    · rw [hadded]
      exact hfleet fleet
  | controlPoint | asteroid | scoreLimit => exact h

theorem IsPointless.edit (h : b.IsPointless) {e : Edit α π} (he : e.IsPointless) :
    (b.edit e).IsPointless := by
  have hscores := values_edit h.scores e
  cases e with
  | fleet | asteroid => exact ⟨h.controlPoints, h.scoreLimit, hscores⟩
  | controlPoint => exact he.elim
  | scoreLimit limit => exact ⟨h.controlPoints, he, hscores⟩
  | ship fleet position pilot parts =>
    rcases b.edit_ship_cases fleet position pilot parts with hrefused | ⟨-, hadded⟩
    · rw [hrefused]
      exact h
    · rw [hadded] at hscores ⊢
      exact ⟨h.controlPoints, h.scoreLimit, hscores⟩

/-- All fleets are in the lead. -/
theorem leaders_eq_keys [Scalar.Grounded α] (h : ∀ score ∈ b.scores.values, score = 0.0)
    (hmax : b.maxScore = 0.0) : b.leaders = b.scores.keys := by
  have hall : b.scores.entries.filter (fun e => e.2 == b.maxScore) = b.scores.entries := by
    rw [List.filter_eq_self]
    intro e he
    rw [hmax, h e.2 (List.mem_map_of_mem he)]
    exact Scalar.Grounded.zero_beq_zero
  exact congrArg (List.map (·.1)) hall

variable [Pilot α π] [Drawer α δ]

theorem scoreLimit_move (b : Battle α π δ) : b.start.move.scoreLimit = b.scoreLimit := by
  obtain ⟨drawer, drawn, deleted, hstart⟩ := b.exists_start_eq
  show b.launched.scoreLimit = b.scoreLimit
  rw [launched_eq, hstart]
  rfl

/-- The score limit stays what it is in a step. -/
theorem scoreLimit_step (b : Battle α π δ) : b.step.battle.scoreLimit = b.scoreLimit := by
  cases hh : b.halted with
  | true => rw [step_of_halted hh]
  | false =>
    exact step_induction (P := fun c => c.scoreLimit = b.scoreLimit) hh b.scoreLimit_move
      b.scoreLimit_move b.scoreLimit_move fun _ _ _ _ _ _ h => h

omit [Pilot α π] in
theorem IsPointless.start (h : b.IsPointless) : b.start.IsPointless := by
  obtain ⟨drawer, drawn, deleted, hstart⟩ := b.exists_start_eq
  rw [hstart]
  exact ⟨h.controlPoints, h.scoreLimit, h.scores⟩

/-- Whatever happens in a step, it brings no points. -/
theorem IsPointless.step (h : b.IsPointless) : b.step.battle.IsPointless := by
  rcases sameScores_step b with hsame | hsame
  · rw [hsame]
    exact h
  · have hscore : b.start.score.IsPointless := by
      rw [h.start.score_eq]
      exact ⟨h.start.controlPoints, h.start.scoreLimit, h.start.scores⟩
    refine hscore.sameScores hsame (b.scoreLimit_step.trans ?_)
    obtain ⟨drawer, drawn, deleted, hstart⟩ := b.exists_start_eq
    rw [hstart]
    rfl

theorem IsPointless.handleAll (h : b.IsPointless) {events : List (Event α π δ)}
    (hevents : ∀ e, .operation (.edit e) ∈ events → e.IsPointless) :
    (b.handleAll events).IsPointless := by
  induction events generalizing b with
  | nil => exact h
  | cons e rest ih =>
    have hrest : ∀ e, .operation (.edit e) ∈ rest → e.IsPointless :=
      fun e he => hevents e (List.mem_cons_of_mem _ he)
    match e with
    | .drawer drawer => exact ih ⟨h.controlPoints, h.scoreLimit, h.scores⟩ hrest
    | .operation .step => exact ih h.step hrest
    | .operation (.edit e) => exact ih (h.edit (hevents e List.mem_cons_self)) hrest

/-- An outcome without points names all fleets, and does not come of points or of a fleet being the
last one. -/
structure Levels (b : Battle α π δ) (o : Outcome α) : Prop where
  score : o.score = 0.0
  winners : o.winners = b.scores.keys
  sorted : o.winners.Pairwise fun f g => compare f g = .lt
  reason : o.reason ≠ .scoreLimit ∧ o.reason ≠ .lastFleetStanding

theorem IsPointless.levels [Scalar.Grounded α] (h : b.IsPointless) {f g : String}
    (hf : f ∈ b.scores.keys) (hg : g ∈ b.scores.keys) (hne : f ≠ g) {o : Outcome α}
    (ho : b.step.result = .ok (some o)) : b.Levels o := by
  obtain ⟨-, hcompletes⟩ := completes_of_result ho
  have hsame := b.sameScores_completed.trans hcompletes.sameScores
  rw [h.start.score_eq] at hsame
  have hscores : b.step.battle.scores = b.scores := hsame.scores.trans b.sameScores_start.scores
  have hmax : b.step.battle.maxScore = 0.0 := hsame.maxScore
  have hleaders : b.step.battle.leaders = b.scores.keys := by
    rw [leaders_eq_keys h.step.scores hmax, hscores]
  obtain ⟨reason, hreason, rfl⟩ := Option.map_eq_some_iff.mp (result_eq_outcome? ho).symm
  have hmeets := meets_of_endReason? hreason
  refine ⟨hmax, hleaders, ?_, ?_, ?_⟩
  · rw [hleaders]
    exact b.scores.pairwise_keys
  · rintro rfl
    obtain ⟨limit, hlimit, hlt⟩ := hmeets
    rw [hmax] at hlt
    exact Scalar.Grounded.not_lt_zero limit (h.step.scoreLimit limit hlimit) hlt
  · rintro rfl
    -- two fleets cannot be the only one
    obtain ⟨fleet, -, hsole⟩ := hmeets
    rw [hleaders] at hsole
    rw [hsole, List.mem_singleton] at hf hg
    exact hne (hf.trans hg.symm)

end Battle

namespace Battle
variable {b : Battle α π δ}

theorem mem_keys_editAll {es : List (Edit α π)} {name : String}
    (h : .fleet name ∈ es ∨ name ∈ b.scores.keys) : name ∈ (b.editAll es).scores.keys := by
  induction es generalizing b with
  | nil => exact h.resolve_left List.not_mem_nil
  | cons e rest ih =>
    apply ih
    rcases h with h | h
    · rcases List.mem_cons.mp h with rfl | h
      · exact Or.inr (Table.mem_keys_alter _ _ _)
      · exact Or.inl h
    · exact Or.inr ((b.renews_edit e).scores h)

variable [Pilot α π] {s : Setup α (StateM σ) π δ}

/-- The fleets of a setup are registered once it is built, and none has a point. -/
theorem scores_of_build (h : Yields s.build b) :
    (∀ f ∈ s.fleets, f.name ∈ b.scores.keys) ∧ ∀ score ∈ b.scores.values, score = 0.0 := by
  obtain ⟨-, es, -, hfleets, rfl⟩ := Setup.exists_edits_of_build h
  refine ⟨fun f hf => mem_keys_editAll (Or.inl (hfleets f hf)), ?_⟩
  have hall (es : List (Edit α π)) (b : Battle α π δ)
      (hb : ∀ score ∈ b.scores.values, score = 0.0) :
      ∀ score ∈ (b.editAll es).scores.values, score = 0.0 := by
    induction es generalizing b with
    | nil => exact hb
    | cons e rest ih => exact ih _ (values_edit hb e)
  exact hall es _ (List.forall_mem_nil _)

/-- The fleets of a setup that is built have different names. -/
theorem nodup_of_build (h : Yields s.build b) : (s.fleets.map (·.name)).Nodup := by
  obtain ⟨hcheck, -⟩ := Setup.exists_edits_of_build h
  have hvets := s.vets_check
  rw [hcheck] at hvets
  obtain ⟨-, -, -, -, -, -, hnames, -⟩ := Setup.settingFaults_eq_nil_iff.mp hvets.1
  exact hnames

/-- A battle of two or more fleets that is built without control points and without a score limit
below zero stays level whatever is done to it, as long as no control point and no such limit comes.
Its fleets have no points, no step ends it by points or for the last fleet standing, and whatever
else ends it names all of the fleets in the order of their names. -/
theorem levels_handleAll [Drawer α δ] [Scalar.Grounded α] (hbuild : Yields s.build b)
    (hpoints : b.controlPoints = []) (hlimit : ∀ limit ∈ b.scoreLimit, 0.0 ≤ limit)
    (hfleets : 2 ≤ s.fleets.length) {events : List (Event α π δ)}
    (hevents : ∀ e, .operation (.edit e) ∈ events → e.IsPointless) :
    let c := b.handleAll events
    (∀ score ∈ c.scores.values, score = 0.0) ∧ (∀ f ∈ s.fleets, f.name ∈ c.scores.keys) ∧
      ∀ o, c.step.result = .ok (some o) → c.Levels o := by
  intro c
  obtain ⟨hnames, hscores⟩ := scores_of_build hbuild
  have hc : c.IsPointless := IsPointless.handleAll ⟨hpoints, hlimit, hscores⟩ hevents
  have hkeys : ∀ f ∈ s.fleets, f.name ∈ c.scores.keys :=
    fun f hf => (renews_handleAll events b).scores (hnames f hf)
  refine ⟨hc.scores, hkeys, fun o ho => ?_⟩
  have hfirst := List.getElem_mem (l := s.fleets) (n := 0) (by omega)
  have hsecond := List.getElem_mem (l := s.fleets) (n := 1) (by omega)
  have hne : s.fleets[0].name ≠ s.fleets[1].name := by
    have hnodup := List.pairwise_iff_getElem.mp (nodup_of_build hbuild) 0 1 (by simp; omega)
      (by simp; omega) Nat.zero_lt_one
    simpa using hnodup
  exact hc.levels (hkeys _ hfirst) (hkeys _ hsecond) hne ho

end Battle

/-- The skirmish with a rock in the place of the control point, and with a second fleet that has no
ships. -/
noncomputable def Setup.truce : Setup Exact (StateM Unit) Idle (Channel Exact) :=
  { skirmish 0 with
    map := { (skirmish 0).map with
      startingPoints := [[0.0, 0.0, 0.0], [0.0, 0.0, 0.0]]
      controlPoints := []
      asteroids := [⟨real 1, real 1, (PointSite.outpost 0).position, none⟩] }
    fleets := [⟨"red", [.sentry]⟩, ⟨"blue", []⟩] }

/-- The arena of the truce before the fleets come. -/
noncomputable def Battle.heath : Battle Exact Idle (Channel Exact) :=
  { Battle.outpost 0 with
    controlPoints := []
    asteroids := [⟨(ControlPoint.outpost 0).body, "asteroid"⟩] }

/-- The arena once the first fleet is there. -/
noncomputable def Battle.picket : Battle Exact Idle (Channel Exact) :=
  { (heath.addFleet "red").addFleet "red" with ships := [.sentry], nextId := 3 }

noncomputable def Battle.truce : Battle Exact Idle (Channel Exact) :=
  picket.addFleet "blue"

theorem Setup.build_truce : Yields truce.build Battle.truce := by
  have hcheck : truce.check = .ok () := by
    have hrock : checkBody .asteroid (real 1) (real 1) = .ok () := by
      have hmass : ¬real 1 ≤ real 0 := by norm_num
      have hradius : real 0 ≤ real 1 := by norm_num
      simp only [checkBody, failIf, Part.isNonNegative, bind, Except.bind, isNaN_real,
        isFinite_real, zero_eq, ge_iff_le, hmass, hradius]
      rfl
    simp [check, truce, skirmish, failIf, Part.isPositive, hrock, repeated?, Settings.standard,
      bind, Except.bind, pure, Except.pure]
  have hlayout : truce.layout = .ok Battle.heath := by
    have hposition : Vec3.ofCoordinates (PointSite.outpost 0).position =
        .ok (ControlPoint.outpost 0).body.position := by
      simp [PointSite.outpost, ControlPoint.outpost, Body.atRest, Vec3.ofCoordinates, Vec3.isFinite]
    simp only [layout, truce, List.foldlM_cons, placeAsteroid, hposition]
    rfl
  have hlimit {x : ℝ} (hx : x ≤ 1) : ¬real x > truce.map.rules.maxFleetMass := by
    change ¬real 100 < real x
    rw [real_lt]
    linarith
  have hred : Yields (truce.muster .heath (⟨"red", [.sentry]⟩, [0.0, 0.0, 0.0])) Battle.picket :=
    yields_muster ofCoordinates_zero
      ((deploy_sentry 0 rfl rfl rfl rfl rfl).bind (yields_pure _)) (hlimit le_rfl)
  have hblue : Yields (truce.muster .picket (⟨"blue", []⟩, [0.0, 0.0, 0.0])) Battle.truce :=
    yields_muster ofCoordinates_zero (yields_pure _) (zero_eq ▸ hlimit zero_le_one)
  exact yields_build hcheck hlayout (hred.bind (hblue.bind (yields_pure _)))

namespace Battle

theorem exists_outcome_of_truce : ∃ o, truce.step.result = .ok (some o) := by
  have hstill : truce.start.score.decide.launch.IsStill := isStill_of_bodies 0 rfl rfl
  have hcompletes : truce.Completes := completes_of_isStill rfl rfl hstill
  have hover : truce.completed.endReason? = some .maxTicks := by
    obtain ⟨htick, hsettings, -⟩ := truce.clock_completed
    rw [endReason?, htick, hsettings]
    rfl
  rw [show truce.step = _ from hcompletes, outcome?, hover]
  exact ⟨_, rfl⟩

/-- The tick of the truce leaves one fleet only, but the other one is level with it. -/
theorem levels_handleAll_truce :
    let events : List (Event Exact Idle (Channel Exact)) := [.operation (.edit (.scoreLimit none))]
    ∃ o, Yields Setup.truce.build truce ∧ truce.controlPoints = [] ∧
      (∀ limit ∈ truce.scoreLimit, 0.0 ≤ limit) ∧ 2 ≤ Setup.truce.fleets.length ∧
      (∀ e, .operation (.edit e) ∈ events → e.IsPointless) ∧
      (truce.handleAll events).step.result = .ok (some o) ∧ o.score = 0.0 ∧
      o.winners = ["blue", "red"] := by
  intro events
  have hlimit : ∀ limit ∈ truce.scoreLimit, 0.0 ≤ limit := by
    intro limit h
    cases h
  have hevents (e : Edit Exact Idle) (he : .operation (.edit e) ∈ events) : e.IsPointless := by
    cases List.mem_singleton.mp he
    intro limit h
    cases h
  obtain ⟨-, -, hlevels⟩ := levels_handleAll Setup.build_truce rfl hlimit (Nat.le_refl 2) hevents
  -- there is no score limit anyway
  have hsame : truce.handleAll events = truce := rfl
  obtain ⟨o, ho⟩ := exists_outcome_of_truce
  rw [← hsame] at ho
  obtain ⟨hscore, hwinners, -, -⟩ := hlevels o ho
  refine ⟨o, Setup.build_truce, rfl, hlimit, Nat.le_refl 2, hevents, ho, hscore, ?_⟩
  rw [hwinners]
  rfl

end Battle
end FleetArena
