import FleetArena.Pilot.Stock
import FleetArena.Proofs.Scoring.Entries
import FleetArena.Proofs.Space
import FleetArena.Proofs.Vessel.Sight

/-! What is hidden from the stock pilots. They scan with the first sensor alone, and some of them
with none, so that what this sensor does not detect has no influence on what they do. -/
namespace FleetArena
variable {α : Type} [Scalar α] {S : Nat → Prop}

open Plan

theorem Nav.scansOnly_fly (n : Nav α) (position velocity : Vec3 α) :
    (n.fly position velocity).ScansOnly S := by
  rw [fly]
  split
  · apply ScansOnly.look
    intro cockpit
    exact (ScansOnly.tryAll _).andThen fun reply => .done _
  · exact .done _

theorem Idle.scansOnly_plan (p : Idle) : (p.plan : Plan α Idle).ScansOnly S :=
  (ScansOnly.powerAll 1.0).bind fun _ => .done p

namespace Wanderer

theorem scansOnly_plan (p : Wanderer α) (h : S 0) : p.plan.ScansOnly S := by
  apply (ScansOnly.powerAll 1.0).bind
  intro _
  apply ScansOnly.cockpit.bind
  intro cockpit
  split
  · exact .done p
  apply (ScansOnly.scanWith h).bind
  intro reply
  cases reply with
  | error e => exact .done p
  | ok reading => exact (Nav.scansOnly_fly _ _ _).bind fun _ => .done _

end Wanderer

namespace Hunter

theorem scansOnly_hold (reading : Reading α) : (hold reading).ScansOnly S := by
  apply ScansOnly.cockpit.bind
  intro cockpit
  split
  · exact .done ()
  · exact (ScansOnly.perform _).bind fun _ => .done ()

theorem scansOnly_settle (reading : Reading α) (result : Except (ActionError α) (Steer α)) :
    (settle reading result).ScansOnly S := by
  match result with
  | .ok .idle | .ok (.arrived _) => exact scansOnly_hold reading
  | .ok (.thrust _) | .error _ => exact .done ()

theorem scansOnly_attack (reading : Reading α) : (attack reading).ScansOnly S := by
  apply ScansOnly.cockpit.bind
  intro cockpit
  split
  · exact .done ()
  · split
    · exact .done ()
    · exact (ScansOnly.perform _).bind fun _ => .done ()

theorem scansOnly_plan (p : Hunter α) (h : S 0) : p.plan.ScansOnly S := by
  apply (ScansOnly.powerAll 1.0).bind
  intro _
  apply ScansOnly.cockpit.bind
  intro cockpit
  split
  · exact .done p
  apply (ScansOnly.scanWith h).bind
  intro reply
  cases reply with
  | error e => exact .done p
  | ok reading =>
    apply (Nav.scansOnly_fly _ _ _).bind
    intro flown
    apply (scansOnly_settle reading _).bind
    intro _
    exact (scansOnly_attack reading).bind fun _ => .done _

end Hunter

namespace StockPilot

theorem scansOnly_idle (p : Idle) : (StockPilot.idle p : StockPilot α).plan.ScansOnly S :=
  p.scansOnly_plan.bind fun _ => .done _

theorem scansOnly_plan (p : StockPilot α) (h : S 0) : p.plan.ScansOnly S := by
  cases p with
  | idle p => exact scansOnly_idle p
  | wanderer p => exact (p.scansOnly_plan h).bind fun _ => .done _
  | hunter p => exact (p.scansOnly_plan h).bind fun _ => .done _

end StockPilot

namespace Ship
variable {π : Type} {s : Ship α π} {w w' : World α}

/-- Two worlds hold the same, the ship itself apart, of what is bright enough for its first sensor,
if it has one. -/
def SeesAlike (s : Ship α π) (w w' : World α) : Prop :=
  ∀ sensor, s.loadout.sensors[0]? = some sensor →
    (∀ e : ObjectId × ShipSighting α, e.1 ≠ s.id →
      sensor.intensity (e.2.position.distance s.body.position) > detectionThreshold →
      (e ∈ w.ships.entries ↔ e ∈ w'.ships.entries)) ∧
    (∀ e : ObjectId × PointSighting α,
      sensor.intensity (e.2.position.distance s.body.position) > detectionThreshold →
      (e ∈ w.controlPoints.entries ↔ e ∈ w'.controlPoints.entries))

theorem SeesAlike.detected (h : s.SeesAlike w w') :
    s.toVessel.detected 0 w = s.toVessel.detected 0 w' := by
  rw [Vessel.detected, Vessel.detected]
  cases hs : s.loadout.sensors[0]? with
  | none => rfl
  | some sensor =>
    obtain ⟨hships, hpoints⟩ := h sensor hs
    have hseen : w.seen sensor.intensity s.id s.body.position =
        w'.seen sensor.intensity s.id s.body.position := by
      rw [World.seen, World.seen]
      congr 1
      · apply Table.filter_congr
        intro e he
        obtain ⟨hid, hbright⟩ := Bool.and_eq_true_iff.mp he
        exact hships e (bne_iff_ne.mp hid) (of_decide_eq_true hbright)
      · apply Table.filter_congr
        intro e he
        exact hpoints e (of_decide_eq_true he)
    exact congrArg some hseen

/-- What a ship with a stock pilot does in a tick depends on what its first sensor detects and on
nothing else in the world: not on any other ship, or control point, whose intensity at its distance
does not exceed the threshold. Without a sensor, or with an idle pilot, it does the same in every
world. -/
theorem decide_eq_of_seesAlike (s : Ship α (StockPilot α)) (tick : Nat) (w w' : World α) :
    (s.SeesAlike w w' → s.decide tick w = s.decide tick w') ∧
    (s.loadout.sensors = [] ∨ (∃ p, s.pilot = .idle p) → s.decide tick w = s.decide tick w') := by
  have hseen (h : s.SeesAlike w w') : s.decide tick w = s.decide tick w' := by
    apply decide_congr (S := (· = 0)) (s.pilot.scansOnly_plan rfl)
    rintro i rfl
    exact h.detected
  refine ⟨hseen, ?_⟩
  rintro (hsensors | ⟨p, hp⟩)
  · apply hseen
    intro sensor hsensor
    rw [hsensors] at hsensor
    cases hsensor
  · have hplan : s.pilot.plan.ScansOnly fun _ => False := by
      rw [hp]
      exact StockPilot.scansOnly_idle p
    exact decide_congr hplan fun i hi => hi.elim

open Exact in
/-- A hunter in sight of an enemy, with and without another enemy and a control point that are too
far away. -/
theorem decide_eq_of_seesAlike_hunter :
    let place (x : ℝ) : Vec3 Exact := .exact (x • EuclideanSpace.single 0 1)
    let mount : Mount Exact := .place .zero 1.0 1.0 none
    let ship : Ship Exact (StockPilot Exact) :=
      { hull := ⟨.atRest 1 (place 0) 1.0 4.0 4.0, "red", 1.0, 0.0, 0.0⟩
        loadout := ⟨[], [⟨mount, 10.0, 0.0⟩], [⟨mount, 0.0, 50.0, 1.0, 0.5, 3, 1.0, 1, none⟩],
          [⟨mount, 0.0, 1.0⟩]⟩
        shots := []
        pilot := .hunter .standard }
    let enemy (x : ℝ) : ShipSighting Exact := ⟨"blue", place x, .zero, 1.0, 1.0⟩
    let point (x : ℝ) : PointSighting Exact := ⟨place x, .zero, 1.0, 1.0, 1.0, 1.0⟩
    let near : World Exact := { ships := ⟨[(2, enemy 10)], by decide⟩ }
    let all : World Exact :=
      { ships := ⟨[(2, enemy 10), (3, enemy 1000000)], by decide⟩
        controlPoints := ⟨[(4, point 1000000)], by decide⟩ }
    ship.SeesAlike near all ∧ ship.decide 0 near = ship.decide 0 all := by
  intro place mount ship enemy point near all
  let sensor : Sensor Exact := ⟨mount, 0.0, 1.0⟩
  -- what is that far away is too dark
  have hdark : ¬sensor.intensity ((place 1000000).distance (place 0)) > detectionThreshold := by
    have hdistance : (place 1000000).distance (place 0) = real 1000000 := by
      rw [Vec3.distance, Vec3.exact_sub, Vec3.length_exact, zero_smul, sub_zero, norm_smul,
        PiLp.norm_single, norm_one, mul_one, Real.norm_of_nonneg (by norm_num)]
    have hfour : (4.0 : Exact) = real 4 := by
      rw [scientific]
      norm_num
    have harea : Scalar.sphereArea (real 1000000) = real (4 * Real.pi * 1000000 * 1000000) := by
      rw [Scalar.sphereArea, hfour]
      rfl
    have hpos : (4 * Real.pi * 1000000 * 1000000 : ℝ) ≠ 0 := by positivity
    have hthreshold : (detectionThreshold : Exact) = real 1e-9 := rfl
    have hpower : sensor.power = real 1 := one_eq
    rw [Sensor.intensity, hdistance, harea, hpower, real_div hpos, hthreshold, gt_iff_lt, real_lt,
      not_lt, div_le_iff₀ (by positivity)]
    linarith [Real.pi_gt_three]
  have halike : ship.SeesAlike near all := by
    intro s hs
    obtain rfl : sensor = s := Option.some.inj hs
    refine ⟨fun e _ he => ?_, fun e he => ?_⟩
    · have hnot : e ≠ (3, enemy 1000000) := by
        rintro rfl
        exact hdark he
      change e ∈ [(2, enemy 10)] ↔ e ∈ [(2, enemy 10), (3, enemy 1000000)]
      simp [hnot]
    · have hnot : e ≠ (4, point 1000000) := by
        rintro rfl
        exact hdark he
      change e ∈ [] ↔ e ∈ [(4, point 1000000)]
      simp [hnot]
  exact ⟨halike, (decide_eq_of_seesAlike ship 0 near all).1 halike⟩

end Ship
end FleetArena
