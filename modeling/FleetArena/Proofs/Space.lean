import FleetArena.Body
import FleetArena.Proofs.Exact

/-! Finite vectors are the points of Euclidean space, and the vector operations are its own. -/
namespace FleetArena
open scoped RealInnerProductSpace

abbrev Space := EuclideanSpace ℝ (Fin 3)

namespace Vec3
open Exact

/-- A point of space as a vector of exact quantities. -/
def exact (v : Space) : Vec3 Exact :=
  ⟨real (v 0), real (v 1), real (v 2)⟩

variable {u v : Space} {s : ℝ}

@[simp] theorem exact_add : exact u + exact v = exact (u + v) := rfl

@[simp] theorem exact_sub : exact u - exact v = exact (u - v) := by
  change (⟨_ - _, _ - _, _ - _⟩ : Vec3 Exact) = _
  simp [exact]

@[simp] theorem exact_mul : exact u * real s = exact (s • u) := by
  change (⟨_ * _, _ * _, _ * _⟩ : Vec3 Exact) = _
  simp [exact, mul_comm]

@[simp] theorem exact_div (hs : s ≠ 0) : exact u / real s = exact (s⁻¹ • u) := by
  change (⟨_ / _, _ / _, _ / _⟩ : Vec3 Exact) = _
  simp [exact, hs, div_eq_inv_mul]

@[simp] theorem dot_exact : (exact u).dot (exact v) = real ⟪u, v⟫ := by
  simp [dot, exact, PiLp.inner_apply, Fin.sum_univ_three, mul_comm]

@[simp] theorem length_exact : (exact u).length = real ‖u‖ := by
  simp [length, lengthSquared]

theorem exact_neg : -exact u = exact (-u) := by
  change (⟨-_, -_, -_⟩ : Vec3 Exact) = _
  simp [exact]

theorem zero_eq : (zero : Vec3 Exact) = exact 0 := by
  simp [zero, exact]

theorem isFinite_zero : (zero : Vec3 Exact).isFinite = true := by
  simp [zero, isFinite]

theorem isFinite_iff {w : Vec3 Exact} : w.isFinite = true ↔ ∃ u, w = exact u := by
  constructor
  · intro h
    simp only [isFinite, Bool.and_eq_true, Exact.isFinite_iff] at h
    obtain ⟨⟨⟨x, hx⟩, ⟨y, hy⟩⟩, ⟨z, hz⟩⟩ := h
    refine ⟨!₂[x, y, z], ?_⟩
    cases w
    simp_all [exact]
  · rintro ⟨u, rfl⟩
    simp [isFinite, exact]

theorem normalize?_exact (hu : u ≠ 0) : (exact u).normalize? = some (exact (‖u‖⁻¹ • u)) := by
  have hnorm : 0 < ‖u‖ := norm_pos_iff.mpr hu
  have hinv : 1.0 / (exact u).length = real ‖u‖⁻¹ := by
    rw [length_exact, one_eq, real_div hnorm.ne', one_div]
  have hpos : (0.0 : Exact) < real ‖u‖⁻¹ := by
    rw [Exact.zero_eq, real_lt]
    exact inv_pos.mpr hnorm
  simp only [normalize?, hinv, isFinite_real, hpos, decide_true, Bool.and_true, if_true, exact_mul]

/-- A point has no direction from itself. -/
theorem normalize?_zero : (exact 0).normalize? = none := by
  rw [normalize?, length_exact, norm_zero, one_eq, one_div_zero, isFinite_posInf]
  rfl

theorem unitX_eq : (unitX : Vec3 Exact) = exact (EuclideanSpace.single 0 1) := by
  simp [unitX, exact]

theorem direction?_unitX : (unitX : Vec3 Exact).direction? = some unitX := by
  have hnorm : ‖(EuclideanSpace.single 0 1 : Space)‖ = 1 := by simp
  have hne : (EuclideanSpace.single 0 1 : Space) ≠ 0 := by
    rw [← norm_ne_zero_iff, hnorm]
    exact one_ne_zero
  rw [direction?, unitX_eq, if_pos (isFinite_iff.mpr ⟨_, rfl⟩), normalize?_exact hne, hnorm,
    inv_one, one_smul]

theorem exact_injective : Function.Injective exact := by
  intro u v h
  ext i
  fin_cases i
  · exact real.inj (congrArg (·.x) h)
  · exact real.inj (congrArg (·.y) h)
  · exact real.inj (congrArg (·.z) h)

/-- The point that a finite vector is. -/
noncomputable def toSpace : Vec3 Exact → Space :=
  Function.invFun exact

@[simp] theorem toSpace_exact : (exact u).toSpace = u :=
  Function.leftInverse_invFun exact_injective u

end Vec3
end FleetArena
