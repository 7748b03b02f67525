import FleetArena.Proofs.Exact
import FleetArena.Proofs.Scoring.Phases
import FleetArena.Proofs.Setup.Edits
import FleetArena.Proofs.Sphere

/-! Scores stay finite: the points of a map are, and so is the length of a tick. -/
namespace FleetArena
open Exact

/-- A control point that an edit brings gives finite points. -/
def Edit.Countable {π : Type} : Edit Exact π → Prop
  | .controlPoint _ _ _ points _ => Scalar.isFinite points = true
  | _ => True

namespace Battle
variable {π δ σ : Type} {b c : Battle Exact π δ}

/-- All scores are finite, and so is whatever they are counted from. -/
structure Countable (b : Battle Exact π δ) : Prop where
  scores : ∀ e ∈ b.scores.entries, Scalar.isFinite e.2 = true
  points : ∀ p ∈ b.controlPoints, Scalar.isFinite p.points = true
  dt : Scalar.isFinite b.dt = true

theorem Countable.sameScores (h : b.Countable) (hc : b.SameScores c) : c.Countable where
  scores := by
    rw [hc.scores]
    exact h.scores
  points p hp := by
    obtain ⟨q, hq, hpq⟩ := hc.points p hp
    rw [hpq]
    exact h.points q hq
  dt := by
    rw [Battle.dt, hc.settings]
    exact h.dt

theorem Countable.score (h : b.Countable) : b.score.Countable := by
  refine ⟨score_induction (P := fun scores => ∀ e ∈ scores.entries, Scalar.isFinite e.2 = true)
    (fun p hp s _ scores hscores => ?_) h.scores, h.points, h.dt⟩
  obtain ⟨x, hx⟩ := isFinite_iff.mp (h.points p hp)
  obtain ⟨y, hy⟩ := isFinite_iff.mp h.dt
  apply Table.forall_alterEntries (P := fun a => Scalar.isFinite a = true) hscores
  · simp [hx, hy]
  · intro v hv
    obtain ⟨z, rfl⟩ := isFinite_iff.mp hv
    simp [hx, hy]

theorem Countable.step [Drawer Exact δ] [Pilot Exact π] (h : b.Countable) :
    b.step.battle.Countable := by
  rcases sameScores_step b with hsame | hsame
  · rw [hsame]
    exact h
  · exact (h.sameScores (sameScores_start b)).score.sameScores hsame

/-- Edits keep the scores finite unless they bring a control point that gives what is not. -/
theorem Countable.edit (h : b.Countable) {e : Edit Exact π} (he : e.Countable) :
    (b.edit e).Countable := by
  have hfleet (name : String) : (b.addFleet name).Countable := by
    have hscores : ∀ e ∈ (b.addFleet name).scores.entries, Scalar.isFinite e.2 = true := by
      apply Table.forall_alterEntries (P := fun a => Scalar.isFinite a = true) h.scores
      · simp
      · intro v hv
        exact hv
    exact ⟨hscores, h.points, h.dt⟩
  cases e with
  | fleet name => exact hfleet name
  | ship fleet position pilot parts =>
    rcases b.edit_ship_cases fleet position pilot parts with hrefused | ⟨-, hadded⟩
    · rw [hrefused]
      exact h
    · rw [hadded]
      exact ⟨(hfleet fleet).scores, h.points, h.dt⟩
  | controlPoint position radius mass points influence =>
    refine ⟨h.scores, ?_, h.dt⟩
    exact List.forall_mem_append.mpr ⟨h.points, List.forall_mem_singleton.mpr he⟩
  | asteroid => exact ⟨h.scores, h.points, h.dt⟩
  | scoreLimit => exact ⟨h.scores, h.points, h.dt⟩

theorem Countable.editAll (h : b.Countable) {es : List (Edit Exact π)}
    (hes : ∀ e ∈ es, e.Countable) : (b.editAll es).Countable := by
  induction es generalizing b with
  | nil => exact h
  | cons e rest ih =>
    obtain ⟨he, hrest⟩ := List.forall_mem_cons.mp hes
    exact ih (h.edit he) hrest

theorem Countable.operateAll [Drawer Exact δ] [Pilot Exact π] (h : b.Countable)
    {ops : List (Operation Exact π)} (hops : ∀ e, .edit e ∈ ops → e.Countable) :
    (b.operateAll ops).Countable := by
  induction ops generalizing b with
  | nil => exact h
  | cons op rest ih =>
    have hrest : ∀ e, .edit e ∈ rest → e.Countable :=
      fun e he => hops e (List.mem_cons_of_mem _ he)
    cases op with
    | edit e => exact ih (h.edit (hops e List.mem_cons_self)) hrest
    | step => exact ih h.step hrest

/-- The scores of a battle that is built are finite, for the points of its map are. -/
theorem countable_of_build [Pilot Exact π] {s : Setup Exact (StateM σ) π δ}
    (h : Yields s.build b) : b.Countable := by
  obtain ⟨hcheck, es, hadmits, -, rfl⟩ := Setup.exists_edits_of_build h
  obtain ⟨hdt, hpoints, -⟩ := Setup.sound_of_check hcheck
  obtain ⟨t, -, ht⟩ := Part.isPositive_iff.mp hdt
  have hempty : (Battle.empty s.map.radius s.settings : Battle Exact π δ).Countable := by
    refine ⟨?_, ?_, ?_⟩
    · intro e he
      cases he
    · intro p hp
      cases hp
    · rw [Battle.dt, Battle.empty, ht]
      exact isFinite_real
  have hes : ∀ e ∈ es, e.Countable := by
    intro e he
    have hadmit := hadmits e he
    cases e with
    | controlPoint position radius mass points influence =>
      obtain ⟨p, hp, -, -, rfl, -⟩ := hadmit
      exact hpoints p hp
    | fleet => trivial
    | ship => trivial
    | asteroid => trivial
    | scoreLimit => trivial
  have hedited := hempty.editAll hes
  exact ⟨hedited.scores, hedited.points, hedited.dt⟩

end Battle
end FleetArena
