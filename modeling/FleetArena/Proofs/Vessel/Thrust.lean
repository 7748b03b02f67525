import FleetArena.Proofs.Space
import FleetArena.Proofs.Vessel.Charge
import FleetArena.Proofs.Vessel.Ending

/-! What a thruster delivers: how much of the acceleration that it is asked for, and at what
price. -/
namespace FleetArena
open Exact

variable {h : Hull Exact} {t : Thruster Exact} {v d : Space} {m dt f e r : ℝ}

/-- A hull of velocity `v` and mass `m`, for ticks of length `dt`. -/
structure Hull.Flies (h : Hull Exact) (v : Space) (m dt : ℝ) : Prop where
  velocity : h.body.velocity = Vec3.exact v
  mass : h.body.mass = real m
  dt : h.dt = real dt

theorem Hull.Flies.accelerate (hh : h.Flies v m dt) (k : ℝ) (d : Space) :
    (h.accelerate (Vec3.exact (k • d))).Flies (v + (k * dt) • d) m dt where
  velocity := by
    rw [Hull.accelerate, hh.velocity, hh.dt, Vec3.exact_mul, Vec3.exact_add, smul_smul, mul_comm dt]
  mass := hh.mass
  dt := hh.dt

namespace Thruster

/-- The fraction of an acceleration `d` of the mass `m` for which a force `f` is enough. -/
noncomputable def fraction (f m : ℝ) (d : Space) : ℝ :=
  min 1 (f / (m * ‖d‖))

theorem fraction_le_one : fraction f m d ≤ 1 :=
  min_le_left _ _

theorem fraction_pos (hf : 0 < f) (hm : 0 < m) (hd : d ≠ 0) : 0 < fraction f m d := by
  have hnorm : 0 < ‖d‖ := norm_pos_iff.mpr hd
  exact lt_min one_pos (by positivity)

/-- The force that is delivered: what is asked for, up to the rating. -/
theorem fraction_mul (hm : 0 < m) (hd : d ≠ 0) :
    fraction f m d * (m * ‖d‖) = min (m * ‖d‖) f := by
  have hasked : 0 < m * ‖d‖ := mul_pos hm (norm_pos_iff.mpr hd)
  rw [fraction, min_mul_of_nonneg _ _ hasked.le, one_mul, div_mul_cancel₀ _ hasked.ne']

theorem fraction_eq_one (hm : 0 < m) (hd : d ≠ 0) (h : m * ‖d‖ ≤ f) : fraction f m d = 1 := by
  have hasked : 0 < m * ‖d‖ := mul_pos hm (norm_pos_iff.mpr hd)
  exact min_eq_left ((one_le_div hasked).mpr h)

/-- A thruster that is ready either finds too little energy for the force, or it gives its fraction
of the acceleration. -/
theorem thrust_exact (hh : h.Flies v m dt) (hm : 0 < m) (hfree : t.mount.used = false)
    (hforce : t.force = real f) (hd : d ≠ 0) :
    let k := fraction f m d
    let cost := t.energy * real (k * (m * ‖d‖)) / t.force
    (h.energy - cost < 0.0 → t.thrust h (Vec3.exact d) =
      (t.markUsed, { h with energy := 0.0 }, .error .outOfEnergy)) ∧
      (¬h.energy - cost < 0.0 → t.thrust h (Vec3.exact d) =
        (t.markUsed,
          ({ h with energy := h.energy - cost } : Hull Exact).accelerate (Vec3.exact (k • d)),
          .ok ())) := by
  intro k cost
  have hfinite : (Vec3.exact d).isFinite = true := Vec3.isFinite_iff.mpr ⟨d, rfl⟩
  have hmin : Scalar.min (h.body.mass * (Vec3.exact d).length) t.force = real (k * (m * ‖d‖)) := by
    rw [hh.mass, hforce, Vec3.length_exact, real_mul, min_real, fraction_mul hm hd]
  have hpush : Vec3.exact (‖d‖⁻¹ • d) * real (k * (m * ‖d‖)) / real m = Vec3.exact (k • d) := by
    have hnorm : ‖d‖ ≠ 0 := norm_ne_zero_iff.mpr hd
    have hscale : m⁻¹ * (k * (m * ‖d‖)) * ‖d‖⁻¹ = k := by field_simp
    rw [Vec3.exact_mul, Vec3.exact_div hm.ne', smul_smul, smul_smul, hscale]
  simp only [thrust, hfree, hfinite, Vec3.normalize?_exact hd, hmin, Bool.false_eq_true,
    Bool.not_true, if_false]
  constructor
  · intro hlt
    rw [Hull.spend_of_lt hlt]
    rfl
  · intro hle
    rw [Hull.spend_of_not_lt hle]
    dsimp only
    rw [hh.mass, hpush]
    rfl

/-- Whatever becomes of a thrust, the ship gets a part of the acceleration, and all of it if the
thruster does not fail and its force is enough. -/
theorem flies_thrust (hh : h.Flies v m dt) (hm : 0 < m) (hf : 0 < f) (hforce : t.force = real f)
    (d : Space) : ∃ k, 0 ≤ k ∧ k ≤ 1 ∧
      (t.thrust h (Vec3.exact d)).2.1.Flies (v + (k * dt) • d) m dt ∧
      ((t.thrust h (Vec3.exact d)).2.2 = .ok () → m * ‖d‖ ≤ f → k = 1) := by
  have hstill : h.Flies (v + ((0 : ℝ) * dt) • d) m dt := by
    rw [zero_mul, zero_smul, add_zero]
    exact hh
  cases hused : t.mount.used with
  | true =>
    rw [thrust, if_pos hused]
    exact ⟨0, le_rfl, zero_le_one, hstill, fun hok => by cases hok⟩
  | false =>
    by_cases hd : d = 0
    · -- all of no acceleration
      have hfinite : (Vec3.exact 0).isFinite = true := Vec3.isFinite_iff.mpr ⟨0, rfl⟩
      refine ⟨1, zero_le_one, le_rfl, ?_, fun _ _ => rfl⟩
      simp only [hd, thrust, hused, hfinite, Vec3.normalize?_zero, Bool.false_eq_true,
        Bool.not_true, if_false, smul_zero, add_zero]
      exact hh
    · obtain ⟨hrefused, hpaid⟩ := thrust_exact hh hm hused hforce hd
      by_cases hlt : h.energy - t.energy * real (fraction f m d * (m * ‖d‖)) / t.force < 0.0
      · rw [hrefused hlt]
        exact ⟨0, le_rfl, zero_le_one, ⟨hstill.velocity, hstill.mass, hstill.dt⟩,
          fun hok => by cases hok⟩
      · rw [hpaid hlt]
        refine ⟨fraction f m d, (fraction_pos hf hm hd).le, fraction_le_one, ?_, fun _ hle => ?_⟩
        · have hcharged (energy : Exact) : ({ h with energy } : Hull Exact).Flies v m dt :=
            ⟨hh.velocity, hh.mass, hh.dt⟩
          exact (hcharged _).accelerate _ d
        · exact fraction_eq_one hm hd hle

/-- A thruster delivers what it charges for. Asked for an acceleration `d`, it draws the fraction
`k` of its rated energy that `d` takes of its force, at most all of it, and adds `k • d` for a tick
to the velocity; if there is less energy than that, the velocity stays. The speed that is gained is
never more than the force allows or than was asked for, and the energy per momentum is the same for
all that is asked, below the cap, at it and beyond. -/
theorem delivers_thrust (hh : h.Flies v m dt) (hm : 0 < m) (henergy : h.energy = real e)
    (hfree : t.mount.used = false) (hf : 0 < f) (hforce : t.force = real f) (hr : 0 ≤ r)
    (hrated : t.energy = real r) (hd : d ≠ 0) :
    let k := min 1 (f / (m * ‖d‖))
    let cost := r * k * m * ‖d‖ / f
    let gain := (k * dt) • d
    (cost ≤ e → t.thrust h (Vec3.exact d) =
      (t.markUsed,
        { h with
          energy := real (e - cost)
          body := { h.body with velocity := Vec3.exact (v + gain) } },
        .ok ())) ∧
      (e < cost → t.thrust h (Vec3.exact d) =
        (t.markUsed, { h with energy := 0.0 }, .error .outOfEnergy)) ∧
      cost ≤ r ∧ 0 < k ∧ (0 ≤ dt → ‖gain‖ ≤ f / m * dt) ∧ ‖gain‖ ≤ ‖dt • d‖ ∧
      (0 < dt → cost = r / (f * dt) * (m * ‖gain‖)) := by
  intro k cost gain
  have hk : 0 < k := fraction_pos hf hm hd
  have hk1 : k ≤ 1 := fraction_le_one
  -- the force, which everything else is proportional to
  have hdelivered : k * (m * ‖d‖) ≤ f := (fraction_mul hm hd).trans_le (min_le_right _ _)
  have hgain : ‖gain‖ = k * |dt| * ‖d‖ := by
    rw [norm_smul, Real.norm_eq_abs, abs_mul, abs_of_pos hk]
  have hcost : t.energy * real (fraction f m d * (m * ‖d‖)) / t.force = real cost := by
    rw [hrated, hforce, real_mul, real_div hf.ne', ← mul_assoc, ← mul_assoc]
    rfl
  have hleft : h.energy - real cost = real (e - cost) := by rw [henergy, real_sub]
  have hshort : real (e - cost) < 0.0 ↔ e < cost := by rw [zero_eq, real_lt, sub_neg]
  obtain ⟨hrefused, hpaid⟩ := thrust_exact hh hm hfree hforce hd
  rw [hcost, hleft, hshort] at hrefused hpaid
  refine ⟨fun hle => ?_, hrefused, ?_, hk, fun hdt => ?_, ?_, fun hdt => ?_⟩
  · rw [hpaid hle.not_gt, Hull.accelerate]
    dsimp only
    rw [hh.velocity, hh.dt, Vec3.exact_mul, Vec3.exact_add, smul_smul, mul_comm dt]
    rfl
  · calc cost = r * (k * (m * ‖d‖) / f) := by ring
      _ ≤ r * 1 := mul_le_mul_of_nonneg_left ((div_le_one hf).mpr hdelivered) hr
      _ = r := mul_one r
  · calc ‖gain‖ = k * (m * ‖d‖) / m * dt := by rw [hgain, abs_of_nonneg hdt]; field_simp
      _ ≤ f / m * dt := by gcongr
  · rw [hgain, norm_smul, Real.norm_eq_abs, mul_assoc]
    exact mul_le_of_le_one_left (by positivity) hk1
  · -- the fraction cancels, so that the cap makes no difference
    calc cost = r * k * m * ‖d‖ / f := rfl
      _ = r / (f * dt) * (m * ‖gain‖) := by rw [hgain, abs_of_pos hdt]; field_simp

/-- A probe that asks for more than its thruster can give. It gets three fifths of it for all of the
rated energy, and nothing if there is less. -/
theorem delivers_thrust_to_probe :
    let axis : Space := EuclideanSpace.single 0 1
    let asked : Space := (5 : ℝ) • axis
    let hull : Hull Exact :=
      ⟨⟨1, .zero, .zero, real 1, real 2, real 9⟩, "red", real 1, real 10, real 10⟩
    let low : Hull Exact := { hull with energy := real 2 }
    let t : Thruster Exact := ⟨⟨.zero, real 1, real 1, real 1, false⟩, real 6, real 3⟩
    t.thrust hull (Vec3.exact asked) =
      (t.markUsed,
        { hull with
          energy := real 7
          body := { hull.body with velocity := Vec3.exact ((3 : ℝ) • axis) } },
        .ok ()) ∧
      t.thrust low (Vec3.exact asked) =
        (t.markUsed, { low with energy := 0.0 }, .error .outOfEnergy) := by
  intro axis asked hull low t
  have hflies : hull.Flies 0 2 1 := ⟨Vec3.zero_eq, rfl, rfl⟩
  have hlow : low.Flies 0 2 1 := ⟨Vec3.zero_eq, rfl, rfl⟩
  have hnorm : ‖asked‖ = 5 := by simp [asked, axis, norm_smul]
  have hne : asked ≠ 0 := norm_ne_zero_iff.mp (by rw [hnorm]; norm_num)
  have hk : min 1 (6 / (2 * ‖asked‖)) = 3 / 5 := by
    rw [hnorm]
    norm_num
  obtain ⟨hpaid, -⟩ := delivers_thrust (t := t) hflies two_pos rfl rfl (by norm_num) rfl
    (by norm_num) rfl hne
  obtain ⟨-, hshort, -⟩ := delivers_thrust (t := t) hlow two_pos rfl rfl (by norm_num) rfl
    (by norm_num) rfl hne
  rw [hk, hnorm] at hpaid hshort
  constructor
  · rw [hpaid (by norm_num), smul_smul, zero_add]
    norm_num [hull]
  · exact hshort (by norm_num)

end Thruster
end FleetArena
