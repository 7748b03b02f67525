import FleetArena.Proofs.Random.Period
import FleetArena.Proofs.Space

/-! The random generator over exact quantities. What is drawn from a range lies in the range, and
the search for a direction ends: only the origin is rejected, which takes a certain word of output
three times, and no word comes often enough for the search to stay there. -/
namespace FleetArena
open Exact

namespace Pcg

section
variable {g : Pcg}

/-- The upper 52 of the 64 bits that come next. -/
def fraction (g : Pcg) : ℕ :=
  (g.next64.1 >>> 12).toNat

theorem unitSteps_eq : (unitSteps : ℝ) = 2 ^ 52 := by
  norm_num [unitSteps]

theorem fraction_lt : (g.fraction : ℝ) < unitSteps := by
  have hlt := g.next64.1.toNat_lt
  have hfraction : g.fraction = g.next64.1.toNat / 2 ^ 12 := by
    rw [fraction, UInt64.toNat_shiftRight, Nat.shiftRight_eq_div_pow]
    rfl
  rw [Nat.cast_lt, hfraction, unitSteps]
  omega

theorem toNat_join (low high : UInt32) :
    (join low high).toNat = high.toNat * 2 ^ 32 + low.toNat := by
  have hlow := low.toNat_lt
  have hhigh := high.toNat_lt
  have hshift : (high.toUInt64 <<< 32).toNat = high.toNat <<< 32 := by
    rw [UInt64.toNat_shiftLeft, UInt32.toNat_toUInt64]
    show high.toNat <<< 32 % 2 ^ 64 = _
    rw [Nat.mod_eq_of_lt]
    rw [Nat.shiftLeft_eq]
    omega
  rw [join, UInt64.toNat_or, hshift, UInt32.toNat_toUInt64, Nat.or_comm,
    ← Nat.shiftLeft_add_eq_or_of_lt hlow, Nat.shiftLeft_eq]

/-- Only one word can be the upper half of the fraction that is a half. -/
theorem output_of_fraction (h : g.fraction = 2 ^ 51) : output g.step.state = 2147483648 := by
  have hlow := (output g.state).toNat_lt
  have hbits : g.next64.1 = join (output g.state) (output g.step.state) := rfl
  rw [fraction, hbits, UInt64.toNat_shiftRight, toNat_join, Nat.shiftRight_eq_div_pow] at h
  apply UInt32.toNat_inj.mp
  show _ = 2147483648
  change _ / 2 ^ 12 = _ at h
  omega

theorem uniform_real (low high : ℝ) : g.uniform (real low) (real high) =
    (real (g.fraction / unitSteps * (high - low) + low), step^[2] g) := by
  have hsteps : (unitSteps : ℝ) ≠ 0 := by
    rw [unitSteps_eq]
    positivity
  have hunit : (g.unit : Exact × Pcg) = (real (g.fraction / unitSteps), step^[2] g) :=
    Prod.ext (real_div hsteps) rfl
  rw [uniform, hunit]
  simp only [real_sub, real_mul, real_add]

/-- What is drawn from a range lies in it. -/
theorem exists_uniform {low high : ℝ} (h : low < high) :
    ∃ x ∈ Set.Ico low high, g.uniform (real low) (real high) = (real x, step^[2] g) := by
  refine ⟨_, ⟨?_, ?_⟩, uniform_real low high⟩
  · have hwidth : 0 ≤ high - low := by linarith
    have hnonneg : 0 ≤ (g.fraction : ℝ) / unitSteps * (high - low) := by positivity
    linarith
  · have hpos : (0 : ℝ) < unitSteps := by
      rw [unitSteps_eq]
      positivity
    have hunit : (g.fraction : ℝ) / unitSteps < 1 := (div_lt_one hpos).mpr fraction_lt
    have hscaled := mul_lt_mul_of_pos_right hunit (sub_pos.mpr h)
    linarith

/-- A coordinate of a random point. -/
noncomputable def coordinate (g : Pcg) : ℝ :=
  g.fraction / unitSteps * (1 - -1) + -1

/-- The next three numbers are the middle of their range. -/
def DrawsOrigin (g : Pcg) : Prop :=
  ∀ i < 3, (step^[2 * i] g).fraction = 2 ^ 51

theorem coordinate_eq (g : Pcg) : g.coordinate = g.fraction / 2 ^ 51 - 1 := by
  rw [coordinate, unitSteps_eq]
  ring

theorem coordinate_eq_zero_iff : g.coordinate = 0 ↔ g.fraction = 2 ^ 51 := by
  rw [coordinate_eq, sub_eq_zero, div_eq_one_iff_eq (by positivity)]
  norm_cast

/-- A coordinate is a whole multiple of a power of two, with no more digits than a double has. -/
theorem exists_coordinate_eq (g : Pcg) : ∃ a : ℤ, |a| ≤ 2 ^ 51 ∧ g.coordinate = a / 2 ^ 51 := by
  have hlt : g.fraction < unitSteps := by
    exact_mod_cast g.fraction_lt
  refine ⟨g.fraction - 2 ^ 51, ?_, ?_⟩
  · rw [unitSteps] at hlt
    rw [abs_le]
    omega
  · rw [coordinate_eq]
    push_cast
    ring

/-- The random point that comes next. -/
theorem exists_cubePoint (g : Pcg) : ∃ p : Space,
    (g.cubePoint : Vec3 Exact × Pcg) = (.exact p, step^[6] g) ∧
      (∀ i : Fin 3, p i = (step^[2 * i] g).coordinate) ∧ (p = 0 ↔ g.DrawsOrigin) := by
  have haxis (g : Pcg) : g.uniform (-1.0 : Exact) 1.0 = (real g.coordinate, step^[2] g) := by
    rw [one_eq, real_neg]
    exact uniform_real _ _
  refine ⟨WithLp.toLp 2 fun i : Fin 3 => (step^[2 * i] g).coordinate, ?_, fun _ => rfl, ?_⟩
  · rw [cubePoint, haxis]
    simp only [haxis, ← Function.iterate_add_apply]
    rfl
  · rw [PiLp.ext_iff, DrawsOrigin, Fin.forall_iff]
    simp only [← coordinate_eq_zero_iff]
    rfl

/-- What a candidate for a direction can be, and when it is rejected. -/
theorem candidate_spec (g : Pcg) :
    let candidate := (g.cubePoint : Vec3 Exact × Pcg).1
    (∃ a b c : ℤ, (|a| ≤ 2 ^ 51 ∧ |b| ≤ 2 ^ 51 ∧ |c| ≤ 2 ^ 51) ∧
      candidate = ⟨real (a / 2 ^ 51), real (b / 2 ^ 51), real (c / 2 ^ 51)⟩) ∧
    (candidate.normalize? = none ↔ candidate = .zero) ∧
    (candidate = .zero ↔ ∀ i < 3, ((step^[2 * i] g).next64.1 >>> 12).toNat = 2 ^ 51) := by
  intro candidate
  obtain ⟨p, hp, haxes, horigin⟩ := g.exists_cubePoint
  have hcandidate : candidate = .exact p := congrArg Prod.fst hp
  have hzero : candidate = .zero ↔ p = 0 := by
    rw [hcandidate, Vec3.zero_eq, Vec3.exact_injective.eq_iff]
  refine ⟨?_, ?_, hzero.trans horigin⟩
  · obtain ⟨a, ha, hx⟩ := (step^[2 * 0] g).exists_coordinate_eq
    obtain ⟨b, hb, hy⟩ := (step^[2 * 1] g).exists_coordinate_eq
    obtain ⟨c, hc, hz⟩ := (step^[2 * 2] g).exists_coordinate_eq
    refine ⟨a, b, c, ⟨ha, hb, hc⟩, ?_⟩
    rw [hcandidate, Vec3.exact, (haxes 0).trans hx, (haxes 1).trans hy, (haxes 2).trans hz]
  · rw [hzero, hcandidate]
    constructor
    · intro h
      by_contra hne
      rw [Vec3.normalize?_exact hne] at h
      cases h
    · rintro rfl
      exact Vec3.normalize?_zero

theorem DrawsOrigin.output_eq (h : g.DrawsOrigin) {i : ℕ} (hi : i < 3) :
    output (step^[2 * i + 1] g).state = 2147483648 := by
  rw [Nat.add_comm, Function.iterate_add_apply]
  exact output_of_fraction (h i hi)

/-- As every word is an output at few times of a period, the origin is not drawn often in a row. -/
theorem IsOdd.three_mul_le (h : g.IsOdd) {k : ℕ}
    (hmiss : ∀ i < k, (step^[6 * i] g).DrawsOrigin) : 3 * k ≤ 2 ^ 32 := by
  by_contra hlt
  -- so many of these times as are one more than a word may have, well within a period
  let times := (Finset.range (2 ^ 32 + 1)).image fun j => 2 * j + 1
  have hcard : times.card = 2 ^ 32 + 1 := by
    rw [Finset.card_image_of_injective _ fun i j hij => by omega, Finset.card_range]
  have hle : times.card ≤ 2 ^ 32 := by
    apply h.card_le_of_output (w := 2147483648)
    · intro n hn
      obtain ⟨j, hj, rfl⟩ := Finset.mem_image.mp hn
      have hj' := Finset.mem_range.mp hj
      omega
    · intro n hn
      obtain ⟨j, hj, rfl⟩ := Finset.mem_image.mp hn
      have hj' := Finset.mem_range.mp hj
      have hout := (hmiss (j / 3) (by omega)).output_eq (Nat.mod_lt j (by decide))
      rw [← Function.iterate_add_apply] at hout
      rwa [show 2 * (j % 3) + 1 + 6 * (j / 3) = 2 * j + 1 by omega] at hout
  omega

/-- How the search for a direction goes that starts at `g`: it draws the origin `misses` times, and
then a point in the direction `u`. -/
structure Finds (g : Pcg) (misses : ℕ) (u : Space) : Prop where
  miss : ∀ i < misses, (step^[6 * i] g).DrawsOrigin
  hit : ¬(step^[6 * misses] g).DrawsOrigin
  unit : ‖u‖ = 1
  along : ∃ r : ℝ, 0 < r ∧
    ((step^[6 * misses] g).cubePoint : Vec3 Exact × Pcg).1 = .exact (r • u)
  within : ∀ attempts, directionWithin attempts g =
    if misses < attempts then some (.exact u, step^[6 * (misses + 1)] g) else none

theorem exists_finds_zero (h : ¬g.DrawsOrigin) : ∃ u, g.Finds 0 u := by
  obtain ⟨p, hp, -, horigin⟩ := g.exists_cubePoint
  have hne : p ≠ 0 := mt horigin.mp h
  have hpos : 0 < ‖p‖ := norm_pos_iff.mpr hne
  refine ⟨‖p‖⁻¹ • p, fun i hi => absurd hi (Nat.not_lt_zero i), h, norm_smul_inv_norm hne,
    ⟨‖p‖, hpos, ?_⟩, fun attempts => ?_⟩
  · rw [smul_inv_smul₀ hpos.ne']
    exact congrArg Prod.fst hp
  · cases attempts with
    | zero => rfl
    | succ attempts =>
      rw [directionWithin, hp]
      simp only [Vec3.normalize?_exact hne, Nat.zero_lt_succ, if_true]

theorem Finds.of_miss {misses : ℕ} {u : Space} (h : g.DrawsOrigin)
    (hrest : (step^[6] g).Finds misses u) : g.Finds (misses + 1) u where
  miss := by
    intro i hi
    cases i with
    | zero => exact h
    | succ i =>
      rw [Nat.mul_succ, Function.iterate_add_apply]
      exact hrest.miss i (Nat.lt_of_succ_lt_succ hi)
  hit := by
    rw [Nat.mul_succ, Function.iterate_add_apply]
    exact hrest.hit
  unit := hrest.unit
  along := by
    rw [Nat.mul_succ, Function.iterate_add_apply]
    exact hrest.along
  within := by
    intro attempts
    cases attempts with
    | zero => rfl
    | succ attempts =>
      obtain ⟨p, hp, -, horigin⟩ := g.exists_cubePoint
      rw [directionWithin, hp, horigin.mpr h, Nat.mul_succ, Function.iterate_add_apply]
      simp only [Vec3.normalize?_zero, hrest.within, Nat.add_lt_add_iff_right]

/-- The first point off the origin is found. -/
theorem exists_finds_of_hit (k : ℕ) (h : ¬(step^[6 * k] g).DrawsOrigin) :
    ∃ misses u, g.Finds misses u := by
  induction k generalizing g with
  | zero => exact ⟨0, exists_finds_zero h⟩
  | succ k ih =>
    by_cases horigin : g.DrawsOrigin
    · rw [Nat.mul_succ, Function.iterate_add_apply] at h
      obtain ⟨misses, u, hfinds⟩ := ih h
      exact ⟨misses + 1, u, .of_miss horigin hfinds⟩
    · exact ⟨0, exists_finds_zero horigin⟩

/-- The search for a direction ends. -/
theorem IsOdd.exists_finds (h : g.IsOdd) : ∃ misses u, 3 * misses ≤ 2 ^ 32 ∧ g.Finds misses u := by
  obtain ⟨k, hk⟩ : ∃ k, ¬(step^[6 * k] g).DrawsOrigin := by
    by_contra hall
    have hle := h.three_mul_le (k := 2 ^ 32) fun i _ => not_not.mp fun hi => hall ⟨i, hi⟩
    omega
  obtain ⟨misses, u, hfinds⟩ := exists_finds_of_hit k hk
  exact ⟨misses, u, h.three_mul_le hfinds.miss, hfinds⟩

/-- There are more attempts than can be needed. -/
theorem Finds.directionWithin_wordCount {misses : ℕ} {u : Space} (h : g.Finds misses u)
    (hle : 3 * misses ≤ 2 ^ 32) :
    directionWithin wordCount g = some (.exact u, step^[6 * (misses + 1)] g) := by
  have hlt : misses < wordCount := by
    rw [wordCount]
    omega
  rw [h.within, if_pos hlt]

theorem Finds.direction_eq {misses : ℕ} {u : Space} (h : g.Finds misses u)
    (hle : 3 * misses ≤ 2 ^ 32) :
    (g.direction : Vec3 Exact × Pcg) = (.exact u, step^[6 * (misses + 1)] g) := by
  rw [direction, h.directionWithin_wordCount hle]
  rfl

theorem IsOdd.exists_directionWithin (h : g.IsOdd) : ∃ (u : Space) (k : ℕ), ‖u‖ = 1 ∧
    directionWithin wordCount g = some (.exact u, step^[k] g) := by
  obtain ⟨misses, u, hle, hfinds⟩ := h.exists_finds
  exact ⟨u, _, hfinds.unit, hfinds.directionWithin_wordCount hle⟩

theorem IsOdd.exists_direction (h : g.IsOdd) : ∃ (u : Space) (k : ℕ), ‖u‖ = 1 ∧
    (g.direction : Vec3 Exact × Pcg) = (.exact u, step^[k] g) := by
  obtain ⟨misses, u, hle, hfinds⟩ := h.exists_finds
  exact ⟨u, _, hfinds.unit, hfinds.direction_eq hle⟩

end
end Pcg
end FleetArena
