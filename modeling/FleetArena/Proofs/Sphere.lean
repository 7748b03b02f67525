import FleetArena.Part
import FleetArena.Proofs.Space

/-! Bodies whose motion is finite and whose radius is a number: their place, velocity and radius
over the real numbers. -/
namespace FleetArena
open Exact

theorem Part.isPositive_iff {a : Exact} : Part.isPositive a = true ↔ ∃ x, 0 < x ∧ a = real x := by
  simp only [Part.isPositive, Bool.and_eq_true, decide_eq_true_eq, isFinite_iff, gt_iff_lt]
  constructor
  · rintro ⟨⟨x, rfl⟩, hx⟩
    exact ⟨x, by simpa using hx, rfl⟩
  · rintro ⟨x, hx, rfl⟩
    exact ⟨⟨x, rfl⟩, by simpa using hx⟩

theorem Part.isNonNegative_iff {a : Exact} :
    Part.isNonNegative a = true ↔ ∃ x, 0 ≤ x ∧ a = real x := by
  simp only [Part.isNonNegative, Bool.and_eq_true, decide_eq_true_eq, isFinite_iff, ge_iff_le]
  constructor
  · rintro ⟨⟨x, rfl⟩, hx⟩
    exact ⟨x, by simpa using hx, rfl⟩
  · rintro ⟨x, hx, rfl⟩
    exact ⟨⟨x, rfl⟩, by simpa using hx⟩

namespace Body

/-- The body `b` is a sphere of radius `r` at the point `p`, and moves with velocity `v`. -/
structure IsSphere (b : Body Exact) (p v : Space) (r : ℝ) : Prop where
  position : b.position = Vec3.exact p
  velocity : b.velocity = Vec3.exact v
  radius : b.radius = real r
  nonneg : 0 ≤ r

theorem nonFinite?_eq_none_iff {α : Type} [Scalar α] {b : Body α} :
    b.nonFinite? = none ↔ b.position.isFinite = true ∧ b.velocity.isFinite = true := by
  rw [nonFinite?]
  cases b.position.isFinite <;> cases b.velocity.isFinite <;> simp

theorem exists_isSphere {b : Body Exact} (hb : b.nonFinite? = none)
    (hr : Part.isNonNegative b.radius = true) : ∃ p v r, b.IsSphere p v r := by
  obtain ⟨hp, hv⟩ := nonFinite?_eq_none_iff.mp hb
  obtain ⟨p, hp⟩ := Vec3.isFinite_iff.mp hp
  obtain ⟨v, hv⟩ := Vec3.isFinite_iff.mp hv
  obtain ⟨r, hr, he⟩ := Part.isNonNegative_iff.mp hr
  exact ⟨p, v, r, hp, hv, he, hr⟩

variable {b : Body Exact} {p v : Space} {r dt : ℝ}

theorem IsSphere.nonFinite?_eq_none (h : b.IsSphere p v r) : b.nonFinite? = none :=
  nonFinite?_eq_none_iff.mpr
    ⟨Vec3.isFinite_iff.mpr ⟨p, h.position⟩, Vec3.isFinite_iff.mpr ⟨v, h.velocity⟩⟩

theorem IsSphere.isNonNegative (h : b.IsSphere p v r) : Part.isNonNegative b.radius = true :=
  Part.isNonNegative_iff.mpr ⟨r, h.nonneg, h.radius⟩

theorem IsSphere.extent_eq (h : b.IsSphere p v r) :
    b.extent (real dt) = real (r + ‖v‖ * dt) := by
  simp [extent, h.radius, h.velocity]

end Body
end FleetArena
