import FleetArena.Body.Collision
import FleetArena.Proofs.Sphere

/-! The time of contact of two exact spheres. It depends on three things alone: the path of the one
relative to the other, the offset of their centres, and the sum of their radii. -/
namespace FleetArena.Body
open Exact
open scoped RealInnerProductSpace

/-- What the time of contact of `a` and `b` in a tick of length `dt` depends on. -/
structure Approach (a b : Body Exact) (dt : ℝ) (path offset : Space) (reach : ℝ) : Prop where
  path : (a.velocity - b.velocity) * real dt = Vec3.exact path
  offset : b.position - a.position = Vec3.exact offset
  reach : a.radius + b.radius = real reach

variable {a b : Body Exact} {p q v w path offset : Space} {r s dt reach : ℝ}

theorem IsSphere.approach (ha : a.IsSphere p v r) (hb : b.IsSphere q w s) (dt : ℝ) :
    Approach a b dt (dt • (v - w)) (q - p) (r + s) where
  path := by rw [ha.velocity, hb.velocity, Vec3.exact_sub, Vec3.exact_mul]
  offset := by rw [ha.position, hb.position, Vec3.exact_sub]
  reach := by rw [ha.radius, hb.radius, real_add]

@[simp] theorem restEpsilon_eq : (restEpsilon : Exact) = real 1e-12 := rfl

/-- How far along the path the centres are closest. -/
noncomputable def closing (path offset : Space) : ℝ :=
  ⟪‖path‖⁻¹ • path, offset⟫

/-- How far along the path the spheres touch, if the centres come closer than `reach`. -/
noncomputable def travel (path offset : Space) (reach : ℝ) : ℝ :=
  closing path offset -
    √(reach * reach - (‖offset‖ * ‖offset‖ - closing path offset * closing path offset))

/-- Spheres that overlap at the start. -/
theorem Approach.contact?_of_overlap (h : Approach a b dt path offset reach)
    (hgap : ‖offset‖ ≤ reach) :
    a.contact? b (real dt) =
      if ‖path‖ ≤ 1e-12 then some (real 0)
      else if ⟪path, offset⟫ ≤ 0 then none else some (real 0) := by
  simp only [contact?, h.path, h.offset, h.reach, Vec3.length_exact, Vec3.dot_exact, real_sub,
    zero_eq, real_le, restEpsilon_eq, sub_nonpos, hgap, if_true]

/-- Spheres apart that cannot close the gap within the tick. -/
theorem Approach.contact?_of_far (h : Approach a b dt path offset reach)
    (hgap : reach < ‖offset‖) (hfar : ‖path‖ < ‖offset‖ - reach) :
    a.contact? b (real dt) = none := by
  simp only [contact?, h.path, h.offset, h.reach, Vec3.length_exact, real_sub, zero_eq, real_le,
    real_lt, sub_nonpos, hgap.not_ge, hfar, if_true, if_false]

/-- Spheres apart that may close the gap within the tick. -/
theorem Approach.contact?_of_near (h : Approach a b dt path offset reach)
    (hgap : reach < ‖offset‖) (hnear : ‖offset‖ - reach ≤ ‖path‖) :
    a.contact? b (real dt) =
      if closing path offset ≤ 0 then none
      else if reach * reach ≤
          ‖offset‖ * ‖offset‖ - closing path offset * closing path offset then none
      else if ‖path‖ < travel path offset reach then none
      else some (real (max (travel path offset reach / ‖path‖) 0)) := by
  have hpath : ‖path‖ ≠ 0 := by linarith
  have hclosing : (Vec3.exact path / real ‖path‖).dot (Vec3.exact offset) =
      real (closing path offset) := by
    rw [Vec3.exact_div hpath, Vec3.dot_exact, closing]
  simp only [contact?, h.path, h.offset, h.reach, Vec3.length_exact, real_sub, zero_eq, real_le,
    real_lt, sub_nonpos, hgap.not_ge, hnear.not_gt, if_false, hclosing, real_mul]
  by_cases hc : closing path offset ≤ 0
  · simp only [hc, if_true]
  by_cases hmiss : reach * reach ≤
      ‖offset‖ * ‖offset‖ - closing path offset * closing path offset
  · simp only [hc, hmiss, if_true, if_false]
  -- only now is the root known to exist
  have hroot : 0 ≤ reach * reach -
      (‖offset‖ * ‖offset‖ - closing path offset * closing path offset) := by linarith
  have htravel : real (closing path offset) - Scalar.sqrt (real (reach * reach -
      (‖offset‖ * ‖offset‖ - closing path offset * closing path offset))) =
      real (travel path offset reach) := by rw [sqrt_real hroot, real_sub, travel]
  simp only [hc, hmiss, if_false, htravel, real_lt, real_div hpath, max_real]

/-- A sphere that flies straight at another one hits it if it flies far enough. -/
theorem Approach.isSome_of_headOn {u : Space} {x y : ℝ} (hu : ‖u‖ = 1) (hx : 0 < x)
    (hreach : 0 < reach) (h : Approach a b dt (x • u) (y • u) reach) (hgap : reach < y)
    (hfar : y ≤ x + reach) : (a.contact? b (real dt)).isSome = true := by
  have hy : 0 < y := hreach.trans hgap
  have hnx : ‖x • u‖ = x := by rw [norm_smul, hu, mul_one, Real.norm_of_nonneg hx.le]
  have hny : ‖y • u‖ = y := by rw [norm_smul, hu, mul_one, Real.norm_of_nonneg hy.le]
  have hclosing : closing (x • u) (y • u) = y := by
    rw [closing, hnx, inv_smul_smul₀ hx.ne', real_inner_smul_right, real_inner_self_eq_norm_sq, hu]
    ring
  have htravel : travel (x • u) (y • u) reach = y - reach := by
    rw [travel, hclosing, hny, sub_self, sub_zero, Real.sqrt_mul_self hreach.le]
  rw [h.contact?_of_near (by rwa [hny]) (by rw [hnx, hny]; linarith), hclosing, htravel, hnx, hny,
    if_neg hy.not_ge, if_neg (by nlinarith), if_neg (by linarith)]
  rfl

/-- Spheres that come into contact within a tick start no farther apart than they can reach. -/
theorem norm_sub_le_of_contact (ha : a.IsSphere p v r) (hb : b.IsSphere q w s)
    (hdt : 0 ≤ dt) (h : (a.contact? b (real dt)).isSome = true) :
    ‖q - p‖ ≤ (r + ‖v‖ * dt) + (s + ‖w‖ * dt) := by
  have hpath : ‖dt • (v - w)‖ ≤ ‖v‖ * dt + ‖w‖ * dt := by
    calc ‖dt • (v - w)‖ = ‖v - w‖ * dt := by
          rw [norm_smul, Real.norm_of_nonneg hdt, mul_comm]
      _ ≤ (‖v‖ + ‖w‖) * dt := by
          gcongr
          exact norm_sub_le v w
      _ = ‖v‖ * dt + ‖w‖ * dt := add_mul _ _ _
  -- spheres farther apart than that would not even close the gap
  by_contra hfar
  have hgap : r + s < ‖q - p‖ := by linarith [norm_nonneg (dt • (v - w))]
  rw [(ha.approach hb dt).contact?_of_far hgap (by linarith)] at h
  exact absurd h (by simp)

end FleetArena.Body
