import FleetArena.Proofs.Energy.Sound

/-! Parts of which none asks for less than nothing keep the ledger of a vessel balanced. -/
namespace FleetArena
open Exact

/-- A direction that a vector has is that of a length. -/
theorem Vec3.length_pos_of_normalize {d u : Vec3 Exact} (hfinite : d.isFinite = true)
    (h : d.normalize? = some u) : ∃ x, 0 < x ∧ d.length = real x := by
  obtain ⟨x, rfl⟩ := Vec3.isFinite_iff.mp hfinite
  refine ⟨‖x‖, ?_, Vec3.length_exact⟩
  by_contra hx
  have hzero : ‖x‖ = 0 := le_antisymm (not_lt.mp hx) (norm_nonneg x)
  have hinverse : (1.0 : Exact) / real 0 = posInf := by
    rw [one_eq]
    exact (if_pos rfl).trans (if_pos one_pos)
  have hnot : ¬Scalar.isFinite posInf = true := by
    rw [Exact.isFinite_iff]
    simp
  rw [normalize?, Vec3.length_exact, hzero, hinverse, if_neg (by simp [hnot])] at h
  cases h

/-- A thrust asks for a positive share of the energy of the thruster. -/
theorem Thruster.price_eq {t : Thruster Exact} {h : Hull Exact} {d : Vec3 Exact} {p : Exact}
    {m f : ℝ} (hm : 0 < m) (hmass : h.body.mass = real m) (hf : 0 < f) (hforce : t.force = real f)
    (hp : t.price? h d = some p) : ∃ g, 0 < g ∧ p = t.energy * real g / real f := by
  rw [price?] at hp
  split at hp
  · cases hp
  rename_i hready
  simp only [Bool.or_eq_true, Bool.not_eq_true', not_or, Bool.not_eq_true, Bool.not_eq_false]
    at hready
  obtain ⟨u, hu, rfl⟩ := Option.map_eq_some_iff.mp hp
  obtain ⟨x, hx, hlength⟩ := Vec3.length_pos_of_normalize hready.2 hu
  refine ⟨min (m * x) f, lt_min (by positivity) hf, ?_⟩
  rw [hmass, hlength, hforce, real_mul, min_real]

theorem Weapon.price_eq {α : Type} [Scalar α] {w : Weapon α} {tick : Nat} {d : Vec3 α} {p : α}
    (hp : w.price? tick d = some p) : w.ammo ≠ 0 ∧ p = w.energy := by
  rw [price?] at hp
  split at hp
  · cases hp
  · rename_i hready
    simp only [Bool.or_eq_true, not_or, beq_iff_eq] at hready
    exact ⟨hready.1.2, (Option.some.inj hp).symm⟩

theorem Sensor.price_eq {α : Type} [Scalar α] {s : Sensor α} {p : α} (hp : s.price? = some p) :
    p = s.energy := by
  rw [price?] at hp
  split at hp
  · cases hp
  · exact (Option.some.inj hp).symm

/-- No call asks for less than nothing. -/
theorem Vessel.price_nonneg {v : Vessel Exact} (hc : v.loadout.Chargeable)
    (hs : v.loadout.Sound v.hull.body.mass) {tick : Nat} {c : Call Exact} {p : Exact}
    (hp : v.price? tick c = some p) : real 0 ≤ p := by
  match c with
  | .act (.powerOn i fraction) => cases hp
  | .act (.thrust i d) =>
    obtain ⟨t, ht, hp⟩ := Option.bind_eq_some_iff.mp hp
    have hmem := List.mem_of_getElem? ht
    obtain ⟨m, hm, hmass⟩ := hs.laden.mass_pos
    obtain ⟨f, hf, hforce⟩ := hs.force t hmem
    obtain ⟨g, hg, rfl⟩ := Thruster.price_eq hm hmass hf hforce hp
    rw [nonneg_scale_iff hg hf, ← zero_eq]
    exact hc.thrust t hmem
  | .act (.fire i d) =>
    obtain ⟨w, hw, hp⟩ := Option.bind_eq_some_iff.mp hp
    obtain ⟨hammo, rfl⟩ := Weapon.price_eq hp
    rw [← zero_eq]
    exact (hc.shot w (List.mem_of_getElem? hw)).resolve_left hammo
  | .scan i =>
    obtain ⟨s, hsensor, hp⟩ := Option.bind_eq_some_iff.mp hp
    rw [Sensor.price_eq hp, ← zero_eq]
    exact hc.scan s (List.mem_of_getElem? hsensor)

namespace Tally

/-- What is left and what has been drawn are parts of the budget. -/
structure Settled (s : Tally Exact) : Prop where
  chargeable : s.vessel.loadout.Chargeable
  sound : s.vessel.loadout.Sound s.vessel.hull.body.mass
  ledger : ∃ left drawn total : ℝ, 0 ≤ left ∧ 0 ≤ drawn ∧ left + drawn ≤ total ∧
    s.vessel.hull.energy = real left ∧ s.drawn = real drawn ∧
    s.vessel.hull.totalEnergy = real total

theorem settled_resume {v : Vessel Exact} (hc : v.loadout.Chargeable)
    (hs : v.loadout.Sound v.hull.body.mass) (position velocity : Vec3 Exact) (health : Exact) :
    Settled ⟨v.resume position velocity health, 0.0⟩ := by
  obtain ⟨x, hx, hpower⟩ := hc.release.power_nonneg hs.release
  exact ⟨hc.release, hs.release, x, 0, x, hx, le_rfl, by simp, hpower, zero_eq, hpower⟩

theorem Settled.call {s : Tally Exact} (h : s.Settled) (tick : Nat) (world : World Exact)
    (c : Call Exact) : (s.call tick world c).Settled := by
  have hhandled := s.vessel.handled_call tick world c
  refine ⟨h.chargeable.handled hhandled, h.sound.handled hhandled, ?_⟩
  obtain ⟨left, drawn, total, hleft, hdrawn, hsum, henergy, hd, ht⟩ := h.ledger
  have htotal : (s.vessel.call tick world c).1.hull.totalEnergy = real total :=
    (s.vessel.keeps_call tick world c).totalEnergy.trans ht
  have hnonneg (p : Exact) (hp : s.vessel.price? tick c = some p) : real 0 ≤ p :=
    s.vessel.price_nonneg h.chargeable h.sound hp
  have hcharged := s.vessel.charged_call tick world c
  simp only [Tally.call]
  -- what matters of the call is its price, whether it succeeds and which hull it leaves
  generalize s.vessel.price? tick c = price at hcharged hnonneg ⊢
  generalize (s.vessel.call tick world c).2 = ok at hcharged ⊢
  generalize (s.vessel.call tick world c).1.hull = hull at hcharged htotal ⊢
  cases hcharged with
  | free =>
    -- a call without a price draws nothing even if it succeeds
    refine ⟨left, drawn, total, hleft, hdrawn, hsum, henergy, ?_, htotal⟩
    split <;> simp [hd]
  | refused hlt =>
    -- a call that fails forfeits what was left, and draws nothing
    exact ⟨0, drawn, total, le_rfl, hdrawn, by linarith, zero_eq, hd, htotal⟩
  | @paid p hle velocity mass =>
    rw [henergy] at hle
    rcases nonneg_iff.mp (hnonneg p rfl) with ⟨x, hx, rfl⟩ | rfl
    · -- what is drawn and what is left still add up
      rw [real_sub, zero_eq, real_lt, not_lt] at hle
      refine ⟨left - x, drawn + x, total, hle, by linarith, by linarith, ?_, ?_, htotal⟩
      · simp [henergy]
      · simp [hd]
    · -- an infinite price is more than there is
      exact absurd (by simp) hle

theorem Settled.balanced {s : Tally Exact} (h : s.Settled) : s.Balanced := by
  obtain ⟨left, drawn, total, hleft, hdrawn, hsum, henergy, hd, ht⟩ := h.ledger
  rw [Balanced, henergy, hd, ht, zero_eq, real_le, real_le, real_le]
  exact ⟨⟨hleft, by linarith⟩, by linarith⟩

end Tally

theorem Vessel.lawful_of_chargeable {v : Vessel Exact} (hc : v.loadout.Chargeable)
    (hs : v.loadout.Sound v.hull.body.mass) : v.Lawful := by
  intro tick world s h
  -- the invariant says more than the law: what is left and what is drawn fit in the budget together
  have hsettled : s.Settled := by
    induction h with
    | first tick world position velocity health => exact Tally.settled_resume hc hs _ _ _
    | call _ c ih => exact ih.call _ _ c
    | next _ tick world position velocity health ih =>
      exact Tally.settled_resume ih.chargeable ih.sound _ _ _
  exact hsettled.balanced

end FleetArena
