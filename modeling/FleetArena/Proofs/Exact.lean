import Mathlib
import FleetArena.Scalar

/-! Exact quantities: the real numbers, two infinities, and what is no number. The operations are
those of floating point without rounding, and there is one zero. -/
namespace FleetArena
open scoped Classical

inductive Exact where
  | real (x : ℝ)
  | posInf
  | negInf
  | nan

namespace Exact

/-- The infinity of the sign of `x`. A zero has none. -/
noncomputable def signed (x : ℝ) : Exact :=
  if 0 < x then posInf else if x < 0 then negInf else nan

def neg : Exact → Exact
  | real x => real (-x)
  | posInf => negInf
  | negInf => posInf
  | nan => nan

noncomputable def add : Exact → Exact → Exact
  | real x, real y => real (x + y)
  | nan, _ | _, nan | posInf, negInf | negInf, posInf => nan
  | posInf, _ | _, posInf => posInf
  | negInf, _ | _, negInf => negInf

noncomputable def mul : Exact → Exact → Exact
  | real x, real y => real (x * y)
  | nan, _ | _, nan => nan
  | posInf, real y | real y, posInf => signed y
  | negInf, real y | real y, negInf => signed (-y)
  | posInf, posInf | negInf, negInf => posInf
  | posInf, negInf | negInf, posInf => negInf

noncomputable def div : Exact → Exact → Exact
  | real x, real y => if y = 0 then signed x else real (x / y)
  | real _, posInf | real _, negInf => real 0
  | posInf, real y => if y < 0 then negInf else posInf
  | negInf, real y => if y < 0 then posInf else negInf
  | _, _ => nan

def lt : Exact → Exact → Prop
  | real x, real y => x < y
  | real _, posInf | negInf, real _ | negInf, posInf => True
  | _, _ => False

def le : Exact → Exact → Prop
  | real x, real y => x ≤ y
  | negInf, real _ | negInf, posInf | negInf, negInf | real _, posInf | posInf, posInf => True
  | _, _ => False

noncomputable def sqrt : Exact → Exact
  | real x => if x < 0 then nan else real (Real.sqrt x)
  | posInf => posInf
  | negInf | nan => nan

/-- A function of real numbers that has no value at the infinities. -/
def lift (f : ℝ → ℝ) : Exact → Exact
  | real x => real (f x)
  | _ => nan

/-- The whole number at or below a real number. -/
noncomputable def floor : Exact → Int
  | real x => ⌊x⌋
  | _ => 0

noncomputable def ticks : Exact → Nat
  | real x => Nat.min lastTick ⌊x + 0.5⌋.toNat
  | posInf => lastTick
  | negInf | nan => 0

noncomputable instance : Add Exact := ⟨add⟩
noncomputable instance : Sub Exact := ⟨fun a b => add a (neg b)⟩
noncomputable instance : Mul Exact := ⟨mul⟩
noncomputable instance : Div Exact := ⟨div⟩
instance : Neg Exact := ⟨neg⟩
instance : LT Exact := ⟨lt⟩
instance : LE Exact := ⟨le⟩
noncomputable instance : BEq Exact := ⟨fun a b => decide (a = b ∧ a ≠ nan)⟩
noncomputable instance : OfScientific Exact := ⟨fun m s e => real (OfScientific.ofScientific m s e)⟩

noncomputable instance : Scalar Exact where
  decLt _ _ := Classical.propDecidable _
  decLe _ _ := Classical.propDecidable _
  sqrt := sqrt
  cos := lift Real.cos
  sin := lift Real.sin
  pi := real Real.pi
  isNaN a := decide (a = nan)
  isFinite a := decide (∃ x, a = real x)
  isInfinite a := decide (a = posInf ∨ a = negInf)
  ofNat n := real n
  floor := floor
  ticks := ticks

variable {a b : Exact} {x y : ℝ}

@[simp] theorem real_add : real x + real y = real (x + y) := rfl
@[simp] theorem real_sub : real x - real y = real (x - y) := congrArg real (sub_eq_add_neg x y).symm
@[simp] theorem real_mul : real x * real y = real (x * y) := rfl
@[simp] theorem real_neg : -real x = real (-x) := rfl
@[simp] theorem real_lt : real x < real y ↔ x < y := Iff.rfl
@[simp] theorem real_le : real x ≤ real y ↔ x ≤ y := Iff.rfl

@[simp] theorem real_div (h : y ≠ 0) : real x / real y = real (x / y) := if_neg h

theorem one_div_zero : real 1 / real 0 = posInf := (if_pos rfl).trans (if_pos one_pos)

@[simp] theorem real_beq : (real x == real y) = decide (x = y) := by
  change decide (real x = real y ∧ real x ≠ nan) = _
  simp

theorem scientific (m e : ℕ) (s : Bool) :
    (OfScientific.ofScientific m s e : Exact) = real (OfScientific.ofScientific m s e) := rfl

@[simp] theorem zero_eq : (0.0 : Exact) = real 0 := by rw [scientific]; norm_num
@[simp] theorem one_eq : (1.0 : Exact) = real 1 := by rw [scientific]; norm_num
@[simp] theorem two_eq : (2.0 : Exact) = real 2 := by rw [scientific]; norm_num
@[simp] theorem four_eq : (4.0 : Exact) = real 4 := by rw [scientific]; norm_num
@[simp] theorem hundred_eq : (100.0 : Exact) = real 100 := by rw [scientific]; norm_num
@[simp] theorem thousand_eq : (1000.0 : Exact) = real 1000 := by rw [scientific]; norm_num

@[simp] theorem isNaN_real : Scalar.isNaN (real x) = false := decide_eq_false (by simp)
@[simp] theorem isNaN_nan : Scalar.isNaN nan = true := decide_eq_true rfl
@[simp] theorem isFinite_real : Scalar.isFinite (real x) = true := decide_eq_true ⟨x, rfl⟩
@[simp] theorem isFinite_nan : Scalar.isFinite nan = false := decide_eq_false (by simp)
@[simp] theorem isFinite_posInf : Scalar.isFinite posInf = false := decide_eq_false (by simp)
@[simp] theorem isInfinite_real : Scalar.isInfinite (real x) = false := decide_eq_false (by simp)
@[simp] theorem isInfinite_posInf : Scalar.isInfinite posInf = true := decide_eq_true (by simp)
@[simp] theorem ofNat_eq (n : ℕ) : (Scalar.ofNat n : Exact) = real n := rfl
@[simp] theorem floor_real : Scalar.floor (real x) = ⌊x⌋ := rfl

@[simp] theorem sqrt_real (h : 0 ≤ x) : Scalar.sqrt (real x) = real (√x) := if_neg h.not_gt

theorem isFinite_iff : Scalar.isFinite a = true ↔ ∃ x, a = real x := decide_eq_true_iff

@[simp] theorem max_real : Scalar.max (real x) (real y) = real (max x y) := by
  rcases lt_or_ge y x with h | h
  · simp [Scalar.max, h, max_eq_left h.le]
  · simp [Scalar.max, h.not_gt, max_eq_right h]

@[simp] theorem min_real : Scalar.min (real x) (real y) = real (min x y) := by
  rcases lt_or_ge x y with h | h
  · simp [Scalar.min, h, min_eq_left h.le]
  · simp [Scalar.min, h.not_gt, min_eq_right h]

@[simp] theorem real_sub_posInf : real x - posInf = negInf := rfl
@[simp] theorem real_sub_negInf : real x - negInf = posInf := rfl
@[simp] theorem real_sub_nan : real x - nan = nan := rfl
@[simp] theorem negInf_lt_real : negInf < real x := trivial
@[simp] theorem not_posInf_lt_real : ¬posInf < real x := id
@[simp] theorem not_nan_lt : ¬nan < a := id
@[simp] theorem not_le_nan : ¬a ≤ nan := by cases a <;> exact id
@[simp] theorem not_real_le_negInf : ¬real x ≤ negInf := id
@[simp] theorem not_posInf_le_real : ¬posInf ≤ real x := id
@[simp] theorem real_le_posInf : real x ≤ posInf := trivial

theorem nonneg_iff : real 0 ≤ a ↔ (∃ x, 0 ≤ x ∧ a = real x) ∨ a = posInf := by
  cases a <;> simp

@[simp] theorem sub_real_zero : a - real 0 = a := by
  cases a with
  | real x => rw [real_sub, sub_zero]
  | posInf => rfl
  | negInf => rfl
  | nan => rfl

/-- A number that is not below or at zero is above it. -/
theorem pos_iff_not_le : real 0 < a ↔ Scalar.isNaN a = false ∧ ¬a ≤ real 0 := by
  have hnan : Scalar.isNaN a = decide (a = nan) := rfl
  rw [hnan, decide_eq_false_iff_not]
  cases a with
  | real x => simp
  | posInf => exact iff_of_true trivial ⟨nofun, id⟩
  | negInf => exact iff_of_false id fun h => h.2 trivial
  | nan => exact iff_of_false id fun h => h.1 rfl

theorem sub_sub_real {x y : ℝ} : a - real x - real y = a - real (x + y) := by
  cases a with
  | real z => rw [real_sub, real_sub, real_sub, sub_sub]
  | posInf => rfl
  | negInf => rfl
  | nan => rfl

theorem pos_iff : real 0 < a ↔ (∃ x, 0 < x ∧ a = real x) ∨ a = posInf := by
  constructor
  · intro h
    cases a with
    | real x => exact Or.inl ⟨x, h, rfl⟩
    | posInf => exact Or.inr rfl
    | negInf => exact h.elim
    | nan => exact h.elim
  · rintro (⟨x, hx, rfl⟩ | rfl)
    · exact hx
    · trivial

-- a finite result has finite operands
theorem isFinite_of_add {x : ℝ} (h : a + b = real x) :
    Scalar.isFinite a = true ∧ Scalar.isFinite b = true := by
  cases a with
  | real y =>
    cases b with
    | real z => exact ⟨isFinite_real, isFinite_real⟩
    | posInf => cases h
    | negInf => cases h
    | nan => cases h
  | posInf => cases b <;> cases h
  | negInf => cases b <;> cases h
  | nan => cases b <;> cases h

theorem isFinite_of_mul_self {x : ℝ} (h : a * a = real x) : Scalar.isFinite a = true := by
  cases a with
  | real y => exact isFinite_real
  | posInf => cases h
  | negInf => cases h
  | nan => cases h

theorem isFinite_of_sqrt {x : ℝ} (h : Scalar.sqrt a = real x) : Scalar.isFinite a = true := by
  cases a with
  | real y => exact isFinite_real
  | posInf => cases h
  | negInf => cases h
  | nan => cases h

/-- A quantity whose reciprocal is finite and positive is finite itself. -/
theorem exists_of_reciprocal {x : ℝ} (hx : 0 < x) (h : real 1 / a = real x) :
    ∃ y, y ≠ 0 ∧ a = real y := by
  cases a with
  | real y =>
    refine ⟨y, ?_, rfl⟩
    rintro rfl
    rw [one_div_zero] at h
    cases h
  | posInf => exact absurd (real.inj h) hx.ne
  | negInf => exact absurd (real.inj h) hx.ne
  | nan => cases h

theorem nonneg_max (h : real 0 ≤ a) (b : Exact) : real 0 ≤ Scalar.max a b := by
  rw [Scalar.max]
  split
  · exact h
  rename_i hlt
  split
  · exact h
  rename_i hnan
  rcases nonneg_iff.mp h with ⟨x, hx, rfl⟩ | rfl
  · cases b with
    | real y => exact hx.trans (not_lt.mp hlt)
    | posInf => exact real_le_posInf
    | negInf => exact absurd negInf_lt_real hlt
    | nan => exact absurd isNaN_nan hnan
  · cases b with
    | real y => exact absurd trivial hlt
    | posInf => exact real_le_posInf
    | negInf => exact absurd trivial hlt
    | nan => exact absurd isNaN_nan hnan

theorem nonneg_maximum (xs : List Exact) : real 0 ≤ Scalar.maximum xs := by
  have fold (xs : List Exact) (a : Exact) (h : real 0 ≤ a) : real 0 ≤ xs.foldl Scalar.max a := by
    induction xs generalizing a with
    | nil => exact h
    | cons x xs ih => exact ih _ (nonneg_max h x)
  apply fold
  rw [zero_eq, real_le]

/-- A positive factor and a positive divisor keep the sign. -/
theorem nonneg_scale_iff (hx : 0 < x) (hy : 0 < y) :
    real 0 ≤ a * real x / real y ↔ real 0 ≤ a := by
  cases a with
  | real z =>
    rw [real_mul, real_div hy.ne', real_le, real_le]
    constructor
    · intro h
      by_contra hz
      exact h.not_gt (div_neg_of_neg_of_pos (mul_neg_of_neg_of_pos (not_le.mp hz) hx) hy)
    · intro hz
      positivity
  | posInf =>
    have hmul : posInf * real x = posInf := if_pos hx
    have hdiv : posInf / real y = posInf := if_neg hy.not_gt
    rw [hmul, hdiv]
  | negInf =>
    have hmul : negInf * real x = negInf :=
      (if_neg (by linarith)).trans (if_pos (by linarith))
    have hdiv : negInf / real y = negInf := if_neg hy.not_gt
    rw [hmul, hdiv]
  | nan =>
    have hnan : nan * real x / real y = nan := rfl
    rw [hnan]

/-- The number that a finite quantity is. -/
def toReal : Exact → ℝ
  | real x => x
  | _ => 0

@[simp] theorem toReal_real : (real x).toReal = x := rfl

/-- A list of finite quantities is a list of real numbers. -/
theorem exists_map_real {xs : List Exact} (h : ∀ a ∈ xs, Scalar.isFinite a = true) :
    ∃ ys : List ℝ, xs = ys.map real := by
  induction xs with
  | nil => exact ⟨[], rfl⟩
  | cons a xs ih =>
    obtain ⟨x, rfl⟩ := isFinite_iff.mp (h a (by simp))
    obtain ⟨ys, rfl⟩ := ih fun b hb => h b (by simp [hb])
    exact ⟨x :: ys, rfl⟩

theorem sum_map_real (xs : List ℝ) : Scalar.sum (xs.map real) = real xs.sum := by
  have fold (xs : List ℝ) (x : ℝ) : (xs.map real).foldl (· + ·) (real x) = real (x + xs.sum) := by
    induction xs generalizing x with
    | nil => simp
    | cons y ys ih => simp [ih, add_assoc]
  simp [Scalar.sum, fold]

theorem maximum_map_real (xs : List ℝ) : Scalar.maximum (xs.map real) = real (xs.foldl max 0) := by
  have fold (xs : List ℝ) (x : ℝ) :
      (xs.map real).foldl Scalar.max (real x) = real (xs.foldl max x) := by
    induction xs generalizing x with
    | nil => rfl
    | cons y ys ih => simp [ih]
  simp [Scalar.maximum, fold]

/-- The largest of some numbers and `x` bounds all of them and is one of them. -/
theorem foldl_max_spec (xs : List ℝ) (x : ℝ) :
    x ≤ xs.foldl max x ∧ (∀ y ∈ xs, y ≤ xs.foldl max x) ∧
      (xs.foldl max x = x ∨ xs.foldl max x ∈ xs) := by
  induction xs generalizing x with
  | nil => simp
  | cons y ys ih =>
    obtain ⟨hle, hall, hmem⟩ := ih (max x y)
    refine ⟨(le_max_left x y).trans hle, ?_, ?_⟩
    · rintro z (_ | ⟨_, hz⟩)
      · exact (le_max_right x y).trans hle
      · exact hall z hz
    · rcases hmem with h | h
      · rcases max_choice x y with hm | hm
        · exact Or.inl (h.trans hm)
        · exact Or.inr (List.mem_cons.mpr (Or.inl (h.trans hm)))
      · exact Or.inr (List.mem_cons_of_mem y h)

end Exact
end FleetArena
