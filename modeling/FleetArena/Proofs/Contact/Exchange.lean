import FleetArena.Body.Collision
import FleetArena.Proofs.Space

/-! The exchange of momentum between two bodies: one impulse along a unit vector, which one of them
takes with the opposite sign, and the same loss of health for both. -/
namespace FleetArena
open scoped RealInnerProductSpace
open Exact

namespace Vec3
variable {w : Vec3 Exact}

theorem isFinite_of_length {x : ℝ} (h : w.length = real x) : w.isFinite = true := by
  obtain ⟨y, hsquared⟩ := Exact.isFinite_iff.mp (isFinite_of_sqrt h)
  obtain ⟨hxy, hz⟩ := isFinite_of_add hsquared
  obtain ⟨y', hxy⟩ := Exact.isFinite_iff.mp hxy
  obtain ⟨hx, hy⟩ := isFinite_of_add hxy
  obtain ⟨x', hx⟩ := Exact.isFinite_iff.mp hx
  obtain ⟨y', hy⟩ := Exact.isFinite_iff.mp hy
  obtain ⟨z', hz⟩ := Exact.isFinite_iff.mp hz
  simp only [isFinite, isFinite_of_mul_self hx, isFinite_of_mul_self hy, isFinite_of_mul_self hz,
    Bool.and_self]

/-- Only a finite vector has a length whose reciprocal is positive. -/
theorem exists_of_normalize? {n : Vec3 Exact} (h : w.normalize? = some n) :
    ∃ u : Space, u ≠ 0 ∧ w = exact u := by
  rw [normalize?] at h
  split at h
  · rename_i hr
    simp only [Bool.and_eq_true, decide_eq_true_eq, one_eq, Exact.zero_eq] at hr
    obtain ⟨⟨x, hx⟩, hpos⟩ := hr.imp_left Exact.isFinite_iff.mp
    rw [hx, real_lt] at hpos
    obtain ⟨y, hy, hlength⟩ := exists_of_reciprocal hpos hx
    obtain ⟨u, rfl⟩ := isFinite_iff.mp (isFinite_of_length hlength)
    have hnorm : ‖u‖ = y := real.inj (length_exact.symm.trans hlength)
    exact ⟨u, norm_ne_zero_iff.mp (hnorm ▸ hy), rfl⟩
  · cases h

theorem exists_unit (w : Vec3 Exact) :
    ∃ n : Space, ‖n‖ = 1 ∧ w.normalize?.getD .unitX = exact n := by
  cases hw : w.normalize? with
  | none => exact ⟨EuclideanSpace.single 0 1, by simp, unitX_eq⟩
  | some n =>
    obtain ⟨u, hu, rfl⟩ := exists_of_normalize? hw
    rw [normalize?_exact hu] at hw
    obtain rfl := Option.some.inj hw
    exact ⟨‖u‖⁻¹ • u, norm_smul_inv_norm hu, rfl⟩

end Vec3

namespace Body
variable {a b : Body Exact} {u v : Space} {e : ℝ}

theorem inverseMass_of_pos {m : ℝ} (hm : 0 < m) (h : b.mass = real m) :
    b.inverseMass = real m⁻¹ := by
  rw [inverseMass, h, isInfinite_real, if_neg Bool.false_ne_true, one_eq, real_div hm.ne', one_div]

theorem exists_inverseMass (h : 0.0 < b.mass) : ∃ p : ℝ, 0 ≤ p ∧ b.inverseMass = real p ∧
    (∀ m, b.mass = real m → m * p = 1) ∧ (b.mass = posInf → p = 0) := by
  rw [zero_eq, pos_iff] at h
  rcases h with ⟨m, hm, hmass⟩ | hmass
  · refine ⟨m⁻¹, (inv_pos.mpr hm).le, inverseMass_of_pos hm hmass, ?_, ?_⟩
    · intro m' hm'
      obtain rfl : m = m' := real.inj (hmass.symm.trans hm')
      exact mul_inv_cancel₀ hm.ne'
    · intro hinf
      rw [hmass] at hinf
      cases hinf
  · have hinfinite : Scalar.isInfinite b.mass = true := by
      rw [hmass]
      exact isInfinite_posInf
    refine ⟨0, le_rfl, ?_, ?_, fun _ => rfl⟩
    · rw [inverseMass, hinfinite, if_pos rfl, zero_eq]
    · intro m hm
      rw [hmass] at hm
      cases hm

/-- The body after the velocity `v` has been reached and the health `d` has been lost. -/
noncomputable def hurt (b : Body Exact) (v : Space) (d : ℝ) : Body Exact :=
  { b with velocity := Vec3.exact v, health := b.health - real d }

/-- The impulse of a collision of restitution `e` between bodies that approach each other at the
rate `c` and whose inverse masses add up to `s`. -/
noncomputable def impulse (e c s : ℝ) : ℝ :=
  -(1 + e) * c / s

section
variable {c s : ℝ}

/-- The impulse of an elastic collision is the largest. -/
theorem impulse_le_elastic (hhigh : e ≤ 1) (hc : c < 0) (hs : 0 < s) :
    0 ≤ 0.25 * (-2 * c / s - impulse e c s) := by
  have hloss : 0.25 * (-2 * c / s - impulse e c s) = 0.25 * ((1 - e) * -c / s) := by
    rw [impulse]
    ring
  have hnonneg : 0 ≤ (1 - e) * -c := mul_nonneg (by linarith) (by linarith)
  rw [hloss]
  positivity

/-- The impulse does not add kinetic energy. -/
theorem impulse_mul_nonpos (hlow : -1 ≤ e) (hhigh : e ≤ 1) (hc : c < 0) (hs : 0 < s) :
    impulse e c s * (2 * c + impulse e c s * s) ≤ 0 := by
  have hcancel : impulse e c s * s = -(1 + e) * c := div_mul_cancel₀ _ hs.ne'
  have hrest : 2 * c + -(1 + e) * c = (1 - e) * c := by
    ring
  rw [hcancel, hrest]
  apply mul_nonpos_of_nonneg_of_nonpos
  · have : 0 ≤ -(1 + e) * c := mul_nonneg_of_nonpos_of_nonpos (by linarith) hc.le
    rw [impulse]
    positivity
  · exact mul_nonpos_of_nonneg_of_nonpos (by linarith) hc.le

end

section
variable {p q : ℝ} {n : Space}

/-- Bodies that approach each other along `n` take the impulse with opposite signs, which their
inverse masses `p` and `q` turn into velocity. -/
theorem rebound_of_approach (hu : a.velocity = Vec3.exact u) (hv : b.velocity = Vec3.exact v)
    (ha : a.inverseMass = real p) (hb : b.inverseMass = real q)
    (hn : (a.position - b.position).normalize?.getD .unitX = Vec3.exact n) (hs : p + q ≠ 0)
    (hc : ⟪u - v, n⟫ < 0) :
    let j := impulse e ⟪u - v, n⟫ (p + q)
    let d := 0.25 * (-2 * ⟪u - v, n⟫ / (p + q) - j)
    rebound a b (real e) =
      ⟨a.hurt (u + (j * p) • n) d, b.hurt (v - (j * q) • n) d, real d⟩ := by
  intro j d
  have hrate : (a.velocity - b.velocity).dot (Vec3.exact n) = real ⟪u - v, n⟫ := by
    rw [hu, hv, Vec3.exact_sub, Vec3.dot_exact]
  have hj : -(1.0 + real e) * real ⟪u - v, n⟫ / real (p + q) = real j := by
    rw [one_eq, real_add, real_neg, real_mul, real_div hs]
    rfl
  have hd : damagePerImpulse * (-2.0 * real ⟪u - v, n⟫ / real (p + q) - real j) = real d := by
    rw [show (damagePerImpulse : Exact) = real 0.25 from rfl, two_eq, real_neg, real_mul,
      real_div hs, real_sub, real_mul]
  have hsum : (real (p + q) == real 0) = false := by
    rw [real_beq]
    exact decide_eq_false hs
  have hless : ¬real 0 ≤ real ⟪u - v, n⟫ := by
    rw [real_le]
    exact hc.not_ge
  simp only [rebound, hn, ha, hb, real_add, zero_eq, hsum, hrate, hless, hj, hd,
    Bool.false_eq_true, if_false]
  rw [hu, hv, hurt, hurt, real_mul, real_mul, Vec3.exact_mul, Vec3.exact_mul, Vec3.exact_add,
    Vec3.exact_sub]

/-- Bodies that do not approach each other along `n`, or cannot be pushed, are left as they are. -/
theorem rebound_of_idle (hu : a.velocity = Vec3.exact u) (hv : b.velocity = Vec3.exact v)
    (ha : a.inverseMass = real p) (hb : b.inverseMass = real q)
    (hn : (a.position - b.position).normalize?.getD .unitX = Vec3.exact n)
    (h : ¬(p + q ≠ 0 ∧ ⟪u - v, n⟫ < 0)) (cor : Exact) : rebound a b cor = ⟨a, b, real 0⟩ := by
  have hrate : (a.velocity - b.velocity).dot (Vec3.exact n) = real ⟪u - v, n⟫ := by
    rw [hu, hv, Vec3.exact_sub, Vec3.dot_exact]
  simp only [rebound, hn, ha, hb, real_add, zero_eq, real_beq, hrate, real_le, decide_eq_true_eq]
  split
  · rfl
  · rename_i hs
    rw [if_pos (not_lt.mp fun hc => h ⟨hs, hc⟩)]

/-- What two bodies take in a collision: the impulses `j • n` and `-j • n`, without any gain of
kinetic energy, and the same loss of health. -/
theorem exists_rebound (hu : a.velocity = Vec3.exact u) (hv : b.velocity = Vec3.exact v)
    (ha : a.inverseMass = real p) (hb : b.inverseMass = real q) (hp : 0 ≤ p) (hq : 0 ≤ q)
    (hlow : -1 ≤ e) (hhigh : e ≤ 1) : ∃ (n : Space) (j d : ℝ), ‖n‖ = 1 ∧ 0 ≤ d ∧
      j * (2 * ⟪u - v, n⟫ + j * (p + q)) ≤ 0 ∧
      (rebound a b (real e)).first = a.hurt (u + (j * p) • n) d ∧
      (rebound a b (real e)).second = b.hurt (v - (j * q) • n) d := by
  obtain ⟨n, hn, hnormal⟩ := (a.position - b.position).exists_unit
  by_cases hc : p + q ≠ 0 ∧ ⟪u - v, n⟫ < 0
  · obtain ⟨hs, hc⟩ := hc
    have hpos : 0 < p + q := lt_of_le_of_ne (add_nonneg hp hq) hs.symm
    refine ⟨n, _, _, hn, impulse_le_elastic hhigh hc hpos,
      impulse_mul_nonpos hlow hhigh hc hpos, ?_⟩
    rw [rebound_of_approach hu hv ha hb hnormal hs hc]
    exact ⟨rfl, rfl⟩
  · -- no impulse and no loss leave a body as it is
    have hsame (x : Body Exact) (w : Space) (hw : x.velocity = Vec3.exact w) : x.hurt w 0 = x := by
      rw [hurt, ← hw, sub_real_zero]
    refine ⟨n, 0, 0, hn, le_rfl, by simp, ?_⟩
    rw [rebound_of_idle hu hv ha hb hnormal hc]
    simp [hsame a u hu, hsame b v hv]

end

end Body
end FleetArena
