import FleetArena.Proofs.Energy.Built
import FleetArena.Proofs.Energy.Necessity

/-! The law of the ledger holds of exactly those vessels whose parts cannot give or take less than
nothing. The check of the parts does not ask for that. -/
namespace FleetArena
open Exact

/-- The energy of a vessel that is built stays within the budget of each tick, and so does what the
calls of the tick draw that succeed, whatever its pilot does, if and only if its engines have finite
capacities and no part that can be used has less than nothing to give or to take. -/
theorem Vessel.lawful_iff_chargeable {id : ObjectId} {fleet : String} {position : Vec3 Exact}
    {parts : List (Part Exact)} {dt : Exact} {v : Vessel Exact}
    (hbuild : build id fleet position parts dt = .ok v)
    (hmade : ∀ e, .engine e ∈ parts → Engine.Made e) : v.Lawful ↔ v.loadout.Chargeable := by
  have hsound := sound_of_build hbuild hmade
  constructor
  · intro h
    exact h.chargeable hsound
  · intro h
    exact lawful_of_chargeable h hsound

/-- An engine in the middle of a ship. -/
noncomputable def Part.reactor : Part Exact :=
  .engine (.ofSpec .zero ⟨1.0, 1.0, real 10, none⟩)

/-- An engine, and a sensor five away from it. -/
noncomputable def Vessel.probeParts (energy : Exact) : List (Part Exact) :=
  [Part.reactor, Part.probe ⟨real 5, real 0, real 0⟩ energy]

noncomputable def Vessel.probe (energy : Exact) : Vessel Exact :=
  assemble 1 "red" .zero (probeParts energy) (real 1)

theorem Vessel.build_probe (energy : Exact) :
    build 1 "red" .zero (probeParts energy) (real 1) = .ok (probe energy) := by
  have hplace : (⟨real 5, real 0, real 0⟩ : Vec3 Exact) =
      Vec3.exact (EuclideanSpace.single 0 5) := by
    simp [Vec3.exact]
  have hsensor := Part.fault?_probe (Vec3.isFinite_iff.mpr ⟨_, hplace⟩) energy
  have hengine : Part.reactor.fault? = none := Part.fault?_probe Vec3.isFinite_zero energy
  have hapart : Part.reactor.mount.overlaps
      (Part.probe ⟨real 5, real 0, real 0⟩ energy).mount = false := by
    have hdistance : (Vec3.zero : Vec3 Exact).distance ⟨real 5, real 0, real 0⟩ = real 5 := by
      simp [hplace, Vec3.distance, Vec3.zero_eq]
    have hfar : ¬real 5 < (1.0 : Exact) + 1.0 := by
      rw [one_eq, real_add, real_lt]
      norm_num
    exact (congrArg (fun a => decide (a < (1.0 : Exact) + 1.0)) hdistance).trans
      (decide_eq_false hfar)
  have hcheck : checkParts "red" (probeParts energy) = .ok () := by
    simp [checkParts, probeParts, hsensor, hengine, overlap?, hapart]
  exact build_eq_ok_iff.mpr ⟨hcheck, rfl⟩

theorem Vessel.made_probeParts (energy : Exact) :
    ∀ e, .engine e ∈ probeParts energy → Engine.Made e := by
  intro e he
  rcases List.mem_pair.mp he with h | h
  · obtain rfl := Part.engine.inj h
    exact .ofSpec _ _
  · cases h

theorem Vessel.lawful_iff_chargeable_of_probe :
    build 1 "red" .zero (probeParts (real 5)) (real 1) = .ok (probe (real 5)) ∧
      (∀ e, .engine e ∈ probeParts (real 5) → Engine.Made e) ∧ (probe (real 5)).Lawful := by
  have hbuild := build_probe (real 5)
  have hmade := made_probeParts (real 5)
  refine ⟨hbuild, hmade, (lawful_iff_chargeable hbuild hmade).mpr ?_⟩
  constructor <;> simp [probe, probeParts, assemble, Loadout.ofParts, Part.reactor, Part.probe,
    Engine.ofSpec, Sensor.ofSpec]

/-- A sensor that gives energy instead of taking it passes the check, and fills the ledger beyond
the budget. -/
theorem Vessel.not_lawful_of_probe :
    build 1 "red" .zero (probeParts (real (-1))) (real 1) = .ok (probe (real (-1))) ∧
      (∀ e, .engine e ∈ probeParts (real (-1)) → Engine.Made e) ∧
      ∃ s, (probe (real (-1))).Reached 0 {} s ∧ s.vessel.hull.totalEnergy = real 0 ∧
        s.vessel.hull.energy = real 1 ∧ ¬s.Balanced := by
  let v := (probe (real (-1))).resume .zero .zero (real 1)
  have hpower : v.hull.energy = real 0 ∧ v.hull.totalEnergy = real 0 := by
    have hoff : (probe (real (-1))).loadout.release.engines.map (·.output) = [0.0] := rfl
    have hsum : (probe (real (-1))).loadout.release.power = real 0 := by
      rw [Loadout.power, hoff, zero_eq]
      simpa using sum_map_real [0]
    exact ⟨hsum, hsum⟩
  -- no engine runs, so there is no energy, and yet the scan is paid for
  have htotal : (v.call 0 {} (.scan 0)).1.hull.totalEnergy = real 0 :=
    (v.keeps_call 0 {} (.scan 0)).totalEnergy.trans hpower.2
  have henergy : (v.call 0 {} (.scan 0)).1.hull.energy = real 1 := by
    have hcharged := v.charged_call 0 {} (.scan 0)
    rw [show v.price? 0 (.scan 0) = some (real (-1)) from rfl] at hcharged
    generalize (v.call 0 {} (.scan 0)).2 = ok at hcharged
    generalize (v.call 0 {} (.scan 0)).1.hull = hull at hcharged
    cases hcharged with
    | refused hlt =>
      rw [hpower.1, real_sub, zero_eq, real_lt] at hlt
      norm_num at hlt
    | paid hle velocity mass =>
      simp only [hpower.1, real_sub]
      norm_num
  refine ⟨build_probe _, made_probeParts _, (⟨v, 0.0⟩ : Tally Exact).call 0 {} (.scan 0),
    (Reached.first 0 {} .zero .zero (real 1)).call (.scan 0), htotal, henergy, ?_⟩
  rintro ⟨⟨-, hle⟩, -⟩
  have hover : real 1 ≤ real 0 := henergy ▸ htotal ▸ hle
  norm_num at hover

end FleetArena
