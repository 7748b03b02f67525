import FleetArena.Channel
import FleetArena.Pilot.Idle
import FleetArena.Proofs.Battle.Rest
import FleetArena.Proofs.Scoring.Countable

/-! Who wins. The highest score is counted from zero, so that the winners are the fleets with the
highest score if and only if some fleet has not less than nothing. -/
namespace FleetArena
open Exact

/-- An outcome names the highest of the scores, and the fleets that have it in the order of their
names. -/
structure Outcome.IsTop {α : Type} [Scalar α] (o : Outcome α) (scores : Table String α) : Prop where
  attained : ∃ fleet, (fleet, o.score) ∈ scores.entries
  highest : ∀ e ∈ scores.entries, e.2 ≤ o.score
  winners_ne_nil : o.winners ≠ []
  sorted : o.winners.Pairwise fun a b => compare a b = .lt
  mem_winners : ∀ fleet, fleet ∈ o.winners ↔ (fleet, o.score) ∈ scores.entries

namespace Battle
variable {π δ : Type} [Drawer Exact δ] [Pilot Exact π] {b : Battle Exact π δ}

/-- The outcome of a step is counted from the scores that the step leaves. -/
theorem outcome_of_step {o : Outcome Exact} (h : b.step.result = .ok (some o)) :
    o.score = Scalar.maximum b.step.battle.scores.values ∧
      o.winners = (b.step.battle.scores.filter fun _ score => score == o.score).keys := by
  cases hh : b.halted with
  | true =>
    rw [step_of_halted hh] at h
    cases h
  | false =>
    rcases step_cases hh with ⟨e, hstep | hstep⟩ | hstep
    · rw [hstep] at h
      cases h
    · rw [hstep] at h
      cases h
    · have hdone := b.sameScores_completed
      have hmax : b.completed.maxScore = Scalar.maximum b.completed.scores.values := by
        rw [hdone.maxScore, hdone.scores]
        rfl
      have hresult : b.completed.outcome? = some o := by
        rw [show b.step = _ from hstep] at h
        exact Except.ok.inj h
      obtain ⟨reason, -, rfl⟩ := Option.map_eq_some_iff.mp hresult
      rw [hstep.sameScores.scores]
      exact ⟨hmax, rfl⟩

end Battle

/-- Finite scores are found again by comparison. -/
theorem Outcome.mem_winners_iff {scores : Table String Exact} {o : Outcome Exact} {m : ℝ}
    (hfinite : ∀ e ∈ scores.entries, Scalar.isFinite e.2 = true) (hscore : o.score = real m)
    (hwinners : o.winners = (scores.filter fun _ score => score == o.score).keys)
    (fleet : String) : fleet ∈ o.winners ↔ (fleet, o.score) ∈ scores.entries := by
  rw [hwinners, Table.mem_keys_filter]
  constructor
  · rintro ⟨v, hv, hbeq⟩
    obtain ⟨x, rfl⟩ := isFinite_iff.mp (hfinite _ hv)
    rw [hscore, real_beq, decide_eq_true_eq] at hbeq
    rwa [hscore, ← hbeq]
  · intro hv
    refine ⟨o.score, hv, ?_⟩
    rw [hscore, real_beq]
    simp

/-- The largest of finite scores and zero is the highest score if and only if that is not below
zero. -/
theorem Outcome.isTop_iff {scores : Table String Exact} {o : Outcome Exact}
    (hfinite : ∀ e ∈ scores.entries, Scalar.isFinite e.2 = true)
    (hscore : o.score = Scalar.maximum scores.values)
    (hwinners : o.winners = (scores.filter fun _ score => score == o.score).keys) :
    o.IsTop scores ↔ ∃ e ∈ scores.entries, 0.0 ≤ e.2 := by
  have hvalues : ∀ a ∈ scores.values, Scalar.isFinite a = true := List.forall_mem_map.mpr hfinite
  obtain ⟨xs, hxs⟩ := exists_map_real hvalues
  obtain ⟨hzero, hall, hmem⟩ := foldl_max_spec xs 0
  rw [hxs, maximum_map_real] at hscore
  generalize xs.foldl max 0 = m at hzero hall hmem hscore
  have hvalue (e) (he : e ∈ scores.entries) : ∃ x ∈ xs, e.2 = real x := by
    have hx : e.2 ∈ xs.map real := hxs ▸ List.mem_map_of_mem he
    obtain ⟨x, hx, hex⟩ := List.mem_map.mp hx
    exact ⟨x, hx, hex.symm⟩
  constructor
  · intro h
    obtain ⟨fleet, hfleet⟩ := h.attained
    refine ⟨_, hfleet, ?_⟩
    rw [hscore, zero_eq, real_le]
    exact hzero
  · rintro ⟨e, he, hnonneg⟩
    -- then zero is no more than a score, and the largest is one of the scores
    have hm : m ∈ xs := by
      rcases hmem with rfl | hm
      · -- the score that is not below zero is zero itself
        obtain ⟨x, hx, hex⟩ := hvalue e he
        rw [hex, zero_eq, real_le] at hnonneg
        obtain rfl : x = 0 := le_antisymm (hall x hx) hnonneg
        exact hx
      · exact hm
    have hwinner := mem_winners_iff hfinite hscore hwinners
    have hattained : ∃ fleet, (fleet, o.score) ∈ scores.entries := by
      have hreal : real m ∈ scores.values := hxs ▸ List.mem_map_of_mem hm
      obtain ⟨⟨fleet, v⟩, hv, rfl⟩ := List.mem_map.mp hreal
      exact ⟨fleet, hscore ▸ hv⟩
    obtain ⟨fleet, hfleet⟩ := hattained
    refine ⟨⟨fleet, hfleet⟩, ?_, ?_, ?_, hwinner⟩
    · intro e he
      obtain ⟨x, hx, hex⟩ := hvalue e he
      rw [hex, hscore, real_le]
      exact hall x hx
    · exact List.ne_nil_of_mem ((hwinner fleet).mpr hfleet)
    · rw [hwinners]
      exact Table.pairwise_keys _

namespace Battle
variable {π δ σ : Type} [Drawer Exact δ] [Pilot Exact π] {b : Battle Exact π δ}

/-- Whenever a step of a battle that was built ends it, the outcome names the highest score and the
fleets that have it if and only if some fleet has not less than nothing. It makes no difference what
was done to the battle before, as long as no control point came that gives endless points. -/
theorem isTop_outcome_iff {s : Setup Exact (StateM σ) π δ} (hbuild : Yields s.build b)
    {ops : List (Operation Exact π)} (hops : ∀ e, .edit e ∈ ops → e.Countable)
    {o : Outcome Exact} (ho : (b.operateAll ops).step.result = .ok (some o)) :
    let scores := (b.operateAll ops).step.battle.scores
    o.IsTop scores ↔ ∃ e ∈ scores.entries, 0.0 ≤ e.2 := by
  have hcountable := ((countable_of_build hbuild).operateAll hops).step
  obtain ⟨hscore, hwinners⟩ := outcome_of_step ho
  exact Outcome.isTop_iff hcountable.scores hscore hwinners

end Battle

/-- A scoring zone about a body that is fifty away from the origin. -/
noncomputable def PointSite.outpost (points : ℝ) : PointSite Exact :=
  ⟨real 1, real 1, [real 50, real 0, real 0], real points, real 100⟩

noncomputable def ControlPoint.outpost (points : ℝ) : ControlPoint Exact :=
  ⟨.atRest 1 ⟨real 50, real 0, real 0⟩ (real 1) (real 1) (real 1), real points, real 100⟩

/-- A ship with one sensor, which stays at its starting point. -/
noncomputable def RosterShip.sentry : RosterShip Exact :=
  ⟨"idle", [0.0, 0.0, 0.0], [⟨.sensor, "radar", [0.0, 0.0, 0.0]⟩]⟩

noncomputable def Ship.sentry : Ship Exact Idle :=
  ⟨.assemble 2 "red" (.zero + .zero) [Part.probe .zero 5.0] (real 1), {}⟩

/-- One such ship at the origin for one tick of one second. -/
noncomputable def Setup.skirmish (points : ℝ) : Setup Exact (StateM Unit) Idle (Channel Exact) where
  map := {
    radius := real 1000
    rules := { maxFleetMass := real 100 }
    startingPoints := [[0.0, 0.0, 0.0]]
    controlPoints := [.outpost points] }
  catalog := { sensors := .ofList [("radar", ⟨1.0, 1.0, 5.0, 1.0, none⟩)] }
  fleets := [⟨"red", [.sentry]⟩]
  registry := Registry.empty.register "idle" fun _ => pure {}
  settings := { (.standard : Settings Exact) with tickSeconds := real 1, maxTicks := some 1 }
  drawer := none

/-- The arena of the skirmish before the fleet comes. -/
noncomputable def Battle.outpost (points : ℝ) : Battle Exact Idle (Channel Exact) :=
  { Battle.empty (real 1000) (Setup.skirmish points).settings with
    controlPoints := [.outpost points]
    nextId := 2 }

noncomputable def Battle.skirmish (points : ℝ) : Battle Exact Idle (Channel Exact) :=
  { ((outpost points).addFleet "red").addFleet "red" with
    ships := [.sentry]
    nextId := 3 }

namespace Setup
variable (points : ℝ)

theorem check_skirmish : (skirmish points).check = .ok () := by
  have hpoint : checkPoint (.outpost points) = .ok () := by
    have hmass : ¬real 1 ≤ real 0 := by norm_num
    have hradius : real 0 ≤ real 1 := by norm_num
    have hinfluence : real 0 ≤ real 100 := by norm_num
    simp only [checkPoint, checkBody, PointSite.outpost, failIf, Part.isNonNegative, bind,
      Except.bind, isNaN_real, isFinite_real, zero_eq, ge_iff_le, hmass, hradius, hinfluence]
    rfl
  simp [check, skirmish, failIf, Part.isPositive, hpoint, repeated?, Settings.standard, bind,
    Except.bind, pure, Except.pure]

theorem layout_skirmish : (skirmish points).layout = .ok (Battle.outpost points) := by
  have hposition : Vec3.ofCoordinates (PointSite.outpost points).position =
      .ok ⟨real 50, real 0, real 0⟩ := by
    simp [PointSite.outpost, Vec3.ofCoordinates, Vec3.isFinite]
  simp only [layout, skirmish, List.foldlM_cons, placePoint, hposition]
  rfl

/-- A sentry joins an arena with one object and no ships. -/
theorem deploy_sentry {s : Setup Exact (StateM Unit) Idle (Channel Exact)}
    (hregistry : s.registry = (skirmish points).registry)
    (hcatalog : s.catalog = (skirmish points).catalog) {b : Battle Exact Idle (Channel Exact)}
    (hships : b.ships = []) (hnext : b.nextId = 2) (hdt : b.dt = real 1) :
    Yields (s.deploy "red" .zero (b.addFleet "red", 0.0) .sentry)
      ({ (b.addFleet "red").addFleet "red" with ships := [.sentry], nextId := 3 }, real 1) := by
  let c := { (b.addFleet "red").addFleet "red" with ships := [Ship.sentry], nextId := 3 }
  have hnext' : (b.addFleet "red").nextId = 2 := hnext
  have hdt' : (b.addFleet "red").dt = real 1 := hdt
  have hpilot : Yields (s.registry.create RosterShip.sentry.pilot (b.addFleet "red").nextId :
      ExceptT (SetupError Exact) (StateM Unit) Idle) {} := by
    rw [hregistry]
    exact ⟨(), (), rfl⟩
  have hentry : RosterPart.link s.catalog (real 1) ⟨.sensor, "radar", [0.0, 0.0, 0.0]⟩ =
      .ok (Part.probe .zero 5.0) := by
    rw [RosterPart.link, ofCoordinates_zero, hcatalog]
    rfl
  have hlink : s.catalog.link (b.addFleet "red").dt RosterShip.sentry.parts =
      .ok [Part.probe .zero 5.0] := by
    rw [hdt', Catalog.link, RosterShip.sentry, List.mapM_cons, hentry]
    rfl
  have hadd : (b.addFleet "red").addShip "red" (.zero + .zero) {} [Part.probe .zero 5.0] =
      .ok (2, c) := by
    refine Battle.addShip_eq_ok_iff.mpr
      ⟨checkParts_of_single "red" (Part.fault?_probe Vec3.isFinite_zero 5.0), hnext'.symm, ?_⟩
    rw [Battle.enlisted, hnext', hdt', show (b.addFleet "red").ships = [] from hships]
    rfl
  have hmass : (c.ship? 2).map (fun ship => 0.0 + ship.body.mass) = some (real 1) := by
    have hsum : (0.0 : Exact) + Scalar.sum [1.0] = real 1 := by
      simpa using congrArg (real 0 + ·) (sum_map_real [1])
    exact congrArg some hsum
  have hstate : (c, real 1) = (c, ((c.ship? 2).map fun ship => 0.0 + ship.body.mass).getD 0.0) := by
    rw [hmass, Option.getD_some]
  rw [hstate]
  exact yields_deploy hpilot (congrArg (Except.map fun parts => (parts, ({} : Idle))) hlink)
    ofCoordinates_zero hadd

theorem build_skirmish : Yields (skirmish points).build (Battle.skirmish points) := by
  have hlimit : ¬real 1 > (skirmish points).map.rules.maxFleetMass := by
    change ¬real 100 < real 1
    norm_num
  exact yields_build_of_single rfl rfl ofCoordinates_zero (check_skirmish points)
    (layout_skirmish points) (deploy_sentry points rfl rfl rfl rfl rfl) hlimit

end Setup

namespace Battle
variable (points : ℝ)

theorem isSphere_sentry : Ship.sentry.body.IsSphere 0 0 1 :=
  Vessel.isSphere_assemble_of_single (Part.probe .zero 5.0) rfl rfl _ _ _

theorem isSphere_outpost :
    (ControlPoint.outpost points).body.IsSphere (EuclideanSpace.single 0 50) 0 1 := by
  refine ⟨?_, Vec3.zero_eq, rfl, zero_le_one⟩
  simp [ControlPoint.outpost, Body.atRest, Vec3.exact]

theorem norm_outpost : ‖(EuclideanSpace.single 0 50 : Space)‖ = 50 := by
  simp

/-- The control point gives its points to the ship. -/
theorem scores_skirmish :
    (skirmish points).start.score.scores.entries = [("red", real points)] := by
  have hnear : (ControlPoint.outpost points).influences Ship.sentry.body.position = true := by
    have hlt : real 50 < real 100 := by norm_num
    rw [ControlPoint.influences, (isSphere_outpost points).position, isSphere_sentry.position,
      Vec3.distance, Vec3.exact_sub, sub_zero, Vec3.length_exact, norm_outpost]
    exact decide_eq_true hlt
  have hscores : (skirmish points).start.score.scores =
      if (ControlPoint.outpost points).influences Ship.sentry.body.position
      then credit (skirmish points).scores "red" (real points * real 1)
      else (skirmish points).scores := rfl
  rw [hscores, if_pos hnear]
  simp [credit, skirmish, addFleet, outpost, Battle.empty, Table.alter, Table.insertIfNew,
    Table.alterEntries, EmptyCollection.emptyCollection, Table.empty]

/-- The sentry and what lies where the control point does are out of each other's reach. -/
theorem isStill_of_bodies {b : Battle Exact Idle (Channel Exact)}
    (hbodies : b.bodies = [Ship.sentry.body, (ControlPoint.outpost points).body])
    (hdt : b.dt = real 1) : b.IsStill := by
  have hsentry := isSphere_sentry.rests
  have hpoint := (isSphere_outpost points).rests
  have hfar : (1 : ℝ) + 1 < 50 := by norm_num
  have hfirst := hsentry.contact?_eq_none hpoint (by rwa [sub_zero, norm_outpost]) 1
  have hsecond := hpoint.contact?_eq_none hsentry (by rwa [zero_sub, norm_neg, norm_outpost]) 1
  constructor
  · rw [hbodies]
    simp only [List.forall_mem_cons]
    exact ⟨⟨_, _, hsentry⟩, ⟨_, _, hpoint⟩, List.forall_mem_nil _⟩
  · intro x hx y hy hid
    rw [hbodies, List.mem_pair] at hx hy
    rw [hdt]
    rcases hx with rfl | rfl
    · rcases hy with rfl | rfl
      · exact absurd rfl hid
      · exact hfirst
    · rcases hy with rfl | rfl
      · exact hsecond
      · exact absurd rfl hid

/-- The pilot lets the ship stay where it is. -/
theorem isStill_skirmish : (skirmish points).start.score.decide.launch.IsStill :=
  isStill_of_bodies points rfl rfl

/-- The skirmish ends with its first tick, and the fleet has what the control point gives. -/
theorem exists_outcome_of_skirmish :
    (∃ o, (skirmish points).step.result = .ok (some o)) ∧
      (skirmish points).step.battle.scores.entries = [("red", real points)] := by
  have hcompletes : (skirmish points).Completes :=
    completes_of_isStill rfl rfl (isStill_skirmish points)
  obtain ⟨htick, hsettings, -⟩ := (skirmish points).clock_completed
  constructor
  · have hover : (skirmish points).completed.endReason? = some .maxTicks := by
      rw [endReason?, htick, hsettings]
      rfl
    rw [show (skirmish points).step = _ from hcompletes, outcome?, hover]
    exact ⟨_, rfl⟩
  · have hsame := (skirmish points).sameScores_completed.trans hcompletes.sameScores
    rw [hsame.scores, scores_skirmish]

theorem isTop_outcome_of_skirmish :
    let ops : List (Operation Exact Idle) := [.edit (.scoreLimit none)]
    ∃ o, Yields (Setup.skirmish 1).build (skirmish 1) ∧ (∀ e, .edit e ∈ ops → e.Countable) ∧
      ((skirmish 1).operateAll ops).step.result = .ok (some o) ∧
      o.IsTop ((skirmish 1).operateAll ops).step.battle.scores := by
  intro ops
  have hbuild := Setup.build_skirmish 1
  have hops (e : Edit Exact Idle) (he : .edit e ∈ ops) : e.Countable := by
    cases List.mem_singleton.mp he
    trivial
  -- there is no score limit anyway
  have hsame : (skirmish 1).operateAll ops = skirmish 1 := rfl
  obtain ⟨⟨o, ho⟩, hscores⟩ := exists_outcome_of_skirmish 1
  rw [← hsame] at ho hscores
  refine ⟨o, hbuild, hops, ho, (isTop_outcome_iff hbuild hops ho).mpr ⟨("red", real 1), ?_, ?_⟩⟩
  · rw [hscores]
    exact List.mem_singleton_self _
  · rw [zero_eq, real_le]
    exact zero_le_one

/-- A control point that takes points away leaves the fleet with less than nothing, and then nobody
wins. -/
theorem not_isTop_outcome_of_skirmish : ∃ o, Yields (Setup.skirmish (-1)).build (skirmish (-1)) ∧
    (skirmish (-1)).step.result = .ok (some o) ∧
    (skirmish (-1)).step.battle.scores.entries = [("red", real (-1))] ∧
    o.score = real 0 ∧ o.winners = [] ∧ ¬o.IsTop (skirmish (-1)).step.battle.scores := by
  obtain ⟨⟨o, ho⟩, hscores⟩ := exists_outcome_of_skirmish (-1)
  obtain ⟨hscore, hwinners⟩ := outcome_of_step ho
  have hzero : o.score = real 0 := by
    rw [hscore, Table.values, hscores]
    have hmax : max (0 : ℝ) (-1) = 0 := max_eq_left (by norm_num)
    simpa [hmax] using maximum_map_real [-1]
  have hnobody : o.winners = [] := by
    rw [hwinners, hzero, Table.keys]
    simp [Table.filter, hscores]
  exact ⟨o, Setup.build_skirmish _, ho, hscores, hzero, hnobody, fun h => h.winners_ne_nil hnobody⟩

end Battle
end FleetArena
