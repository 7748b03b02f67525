import Mathlib

/-! What is needed of floating point beyond what it computes: which numbers are not below zero, that
nothing less than zero is left where a number is taken from one at least as large, and the order of
all numbers. -/
namespace FleetArena.FloatingPoint
open Float.Model UnpackedFloat

theorem unpack_zero : (0.0 : Float).toModel.unpack = .zero .positive := by
  have hzero : (match (0.0 : Float).toModel.unpack with
      | .zero .positive => true
      | _ => false) = true := by
    decide +kernel
  split at hzero
  · assumption
  · cases hzero

/-- What is not below zero: no number, a zero, or a number of positive sign. -/
def Nonneg : UnpackedFloat → Prop
  | .infinity s => s = .positive
  | .finite s _ _ _ => s = .positive
  | .zero _ => True
  | .notANumber => True

theorem Nonneg.not_lt_zero {u : UnpackedFloat} (h : Nonneg u) (s : Sign) :
    u.lt (.zero s) = false := by
  cases u with
  | infinity => cases h; rfl
  | notANumber => rfl
  | zero => rfl
  | finite => cases h; rfl

theorem nonneg_of_le {u : UnpackedFloat} {s : Sign} (h : (UnpackedFloat.zero s).le u = true) :
    Nonneg u := by
  rcases u with (_ | _) | _ | _ | ⟨_ | _, m, e, hm⟩
  · cases h
  · rfl
  · trivial
  · trivial
  · cases h
  · rfl

theorem unpackSign_packComponents {spec : Format} (s : Sign) (e : BitVec spec.exponentBits)
    (m : BitVec spec.mantissaBitsWithoutImplicit) :
    unpackSign (packComponents spec s e m) = s.toBitVec := by
  apply BitVec.eq_of_getLsbD_eq
  intro i hi
  obtain rfl : i = 0 := by omega
  simp [unpackSign, packComponents, BitVec.getLsbD_append, BitVec.getElem_append]

theorem nonneg_unpack {b : BitVec Format.binary64.numBits} (h : unpackSign b = 0#1) :
    Nonneg (UnpackedFloat.unpack .binary64 b) := by
  have hsign : Sign.ofBitVec (unpackSign b) = .positive := if_pos h
  rw [UnpackedFloat.unpack]
  dsimp only
  split
  · split
    · exact hsign
    · trivial
  · split
    · split
      · trivial
      · exact hsign
    · exact hsign

/-- What is not below zero is not below it when it has been packed. -/
theorem Nonneg.unpack_pack {u : UnpackedFloat} (h : Nonneg u) :
    Nonneg (Float.Model.pack u).unpack := by
  have hpositive (e m) : unpackSign (packComponents Format.binary64 .positive e m) = 0#1 :=
    unpackSign_packComponents _ e m
  cases u with
  | infinity => cases h; exact nonneg_unpack (hpositive _ _)
  | notANumber => exact nonneg_unpack (hpositive _ _)
  | zero s =>
    have hzero : (Float.Model.pack (.zero s)).unpack = .zero s := by cases s <;> rfl
    rw [hzero]
    trivial
  | finite s m e hm =>
    cases h
    apply nonneg_unpack
    change unpackSign (UnpackedFloat.pack .binary64 _) = 0#1
    rw [UnpackedFloat.pack]
    dsimp only
    split
    · exact hpositive _ _
    · split
      · exact hpositive _ _
      · exact hpositive _ _

theorem nonneg_round (spec : Format) (m : Nat) (e : Int) :
    Nonneg (UnpackedFloat.round spec .positive m e) := by
  rw [UnpackedFloat.round]
  unfold roundWithAccuracy
  dsimp only
  split
  · trivial
  · rfl

theorem nonneg_normalize (spec : Format) {m : Int} (h : 0 ≤ m) (e : Int) (s : Sign) :
    Nonneg (normalize spec m e s) := by
  rw [UnpackedFloat.normalize]
  split
  · rename_i hlt
    exact absurd (Int.compare_eq_lt.mp hlt) h.not_gt
  · trivial
  · exact nonneg_round spec _ e

/-- The mantissas and exponents of the numbers that there are: only with the least exponent the
first bit of a mantissa may be missing. -/
structure Canonical (m : Nat) (e : Int) : Prop where
  mantissa_lt : m < 2 ^ 53
  least : -1074 ≤ e
  full : 2 ^ 52 ≤ m ∨ e = -1074

theorem canonical_of_unpack {x : Float.Model} {s : Sign} {m : Nat} {e : Int} {hm : 0 < m}
    (h : x.unpack = .finite s m e hm) : Canonical m e := by
  rw [Float.Model.unpack, UnpackedFloat.unpack] at h
  dsimp only at h
  have hmantissa := (@unpackMantissa .binary64 x.toBits.toBitVec).isLt
  have hbias : Format.binary64.exponentBias = 1023 := by decide
  rw [hbias] at h
  split at h
  · split at h <;> cases h
  · split at h
    · -- the least exponent, where no first bit is implied
      rename_i hzero
      split at h
      · cases h
      · obtain ⟨-, rfl, rfl⟩ := UnpackedFloat.finite.inj h
        rw [hzero]
        refine ⟨hmantissa.trans (by decide), by decide, Or.inr (by decide)⟩
    · rename_i hnone hexponent
      obtain ⟨-, rfl, rfl⟩ := UnpackedFloat.finite.inj h
      have hfirst : (1#1 ++ @unpackMantissa .binary64 x.toBits.toBitVec).toNat =
          2 ^ 52 + (@unpackMantissa .binary64 x.toBits.toBitVec).toNat := by
        rw [BitVec.toNat_append, ← Nat.shiftLeft_add_eq_or_of_lt hmantissa]
        rfl
      have hpos : 0 < (@unpackExponent .binary64 x.toBits.toBitVec).toNat :=
        Nat.pos_of_ne_zero fun hzero => hexponent (BitVec.eq_of_toNat_eq hzero)
      rw [hfirst]
      refine ⟨by omega, by omega, Or.inl (Nat.le_add_right _ _)⟩

/-- In the order of the numbers the exponents come first. -/
theorem shift_le {m₁ m₂ : Nat} {e₁ e₂ : Int} (h₁ : Canonical m₁ e₁) (h₂ : Canonical m₂ e₂)
    (h : ((compare e₂ e₁).then (compare m₂ m₁)).isLE = true) :
    m₂ <<< (e₂ - min e₁ e₂).toNat ≤ m₁ <<< (e₁ - min e₁ e₂).toNat := by
  rw [Nat.shiftLeft_eq, Nat.shiftLeft_eq]
  obtain ⟨-, hlow₁, hfull₁⟩ := h₁
  obtain ⟨hm₂, hlow₂, -⟩ := h₂
  -- a full mantissa is not outweighed by any mantissa that goes with a lower exponent
  rcases lt_trichotomy e₂ e₁ with hlt | rfl | hgt
  · have hfull : 2 ^ 52 ≤ m₁ := hfull₁.resolve_right (by omega)
    have hmin : min e₁ e₂ = e₂ := min_eq_right hlt.le
    have hshift : 2 ^ 1 ≤ 2 ^ (e₁ - e₂).toNat := Nat.pow_le_pow_right (by norm_num) (by omega)
    rw [hmin, sub_self, Int.toNat_zero, pow_zero, mul_one]
    calc m₂ ≤ 2 ^ 52 * 2 ^ 1 := hm₂.le
      _ ≤ m₁ * 2 ^ (e₁ - e₂).toNat := Nat.mul_le_mul hfull hshift
  · have hle : m₂ ≤ m₁ := by
      rwa [Int.compare_eq_eq.mpr rfl, Ordering.eq_then, Nat.isLE_compare] at h
    rw [min_self, sub_self, Int.toNat_zero, pow_zero, mul_one, mul_one]
    exact hle
  · rw [Int.compare_eq_gt.mpr hgt] at h
    cases h

/-- What is taken from at least as much leaves nothing below zero. -/
theorem nonneg_sub {x y : Float.Model} {s : Sign} (hy : (UnpackedFloat.zero s).le y.unpack = true)
    (hyx : y.unpack.le x.unpack = true) :
    Nonneg (UnpackedFloat.sub .binary64 x.unpack y.unpack) := by
  have hsign := nonneg_of_le hy
  have hx := @canonical_of_unpack x
  have hy := @canonical_of_unpack y
  generalize x.unpack = a at *
  generalize y.unpack = b at *
  rcases b with s | _ | s | ⟨s, m₂, e₂, hm₂⟩
  · -- only an infinity covers an infinity
    cases hsign
    rcases a with (_ | _) | _ | _ | ⟨_ | _, m, e, hm⟩ <;> trivial
  · cases hyx
  · rcases a with (_ | _) | _ | _ | ⟨_ | _, m, e, hm⟩
    · cases hyx
    · rfl
    · trivial
    · rw [UnpackedFloat.sub]
      split <;> trivial
    · cases hyx
    · rfl
  · cases hsign
    rcases a with (_ | _) | _ | _ | ⟨_ | _, m₁, e₁, hm₁⟩
    · cases hyx
    · rfl
    · trivial
    · cases hyx
    · cases hyx
    · -- the difference of the mantissas is rounded, which keeps its sign
      have hle := shift_le (hx rfl) (hy rfl) hyx
      apply nonneg_normalize
      show (0 : Int) ≤ (m₁ <<< _ : Nat) - (m₂ <<< _ : Nat)
      omega

/-- The place of a number among all numbers, by its sign, its exponent and its mantissa. What is no
number comes after them. -/
def rank : UnpackedFloat → Int ×ₗ Int ×ₗ Int
  | .infinity .negative => toLex (-2, toLex (0, 0))
  | .finite .negative m e _ => toLex (-1, toLex (-e, -m))
  | .zero _ => toLex (0, toLex (0, 0))
  | .finite .positive m e _ => toLex (1, toLex (e, m))
  | .infinity .positive => toLex (2, toLex (0, 0))
  | .notANumber => toLex (3, toLex (0, 0))

theorem then_eq_lt_iff {e₁ e₂ : Int} {m₁ m₂ : Nat} :
    (compare e₁ e₂).then (compare m₁ m₂) = .lt ↔ e₁ < e₂ ∨ e₁ = e₂ ∧ m₁ < m₂ := by
  rw [Ordering.then_eq_lt, Int.compare_eq_lt, Int.compare_eq_eq, Nat.compare_eq_lt]

theorem then_eq_gt_iff {e₁ e₂ : Int} {m₁ m₂ : Nat} :
    (compare e₁ e₂).then (compare m₁ m₂) = .gt ↔ e₂ < e₁ ∨ e₁ = e₂ ∧ m₂ < m₁ := by
  rw [Ordering.then_eq_gt, Int.compare_eq_gt, Int.compare_eq_eq, Nat.compare_eq_gt]

/-- Numbers are in the order of their places. -/
theorem lt_iff_rank_lt {u v : UnpackedFloat} (hu : u.isNaN = false) (hv : v.isNaN = false) :
    u.lt v = true ↔ rank u < rank v := by
  -- a pair for each two signs and kinds: only numbers of one sign are compared any further
  rcases u with (_ | _) | _ | _ | ⟨_ | _, m₁, e₁, h₁⟩ <;>
    rcases v with (_ | _) | _ | _ | ⟨_ | _, m₂, e₂, h₂⟩ <;>
    simp_all [rank, UnpackedFloat.lt, UnpackedFloat.compare, UnpackedFloat.isNaN,
      Prod.Lex.toLex_lt_toLex, then_eq_lt_iff, Ordering.swap_eq_lt, then_eq_gt_iff]
  rfl

theorem eq_notANumber {u : UnpackedFloat} (h : u.isNaN = true) : u = .notANumber := by
  cases u with
  | notANumber => rfl
  | infinity | zero | finite => cases h

theorem rank_lt_notANumber {u : UnpackedFloat} (h : u.isNaN = false) :
    rank u < rank .notANumber := by
  rcases u with (_ | _) | _ | _ | ⟨_ | _, m, e, hm⟩ <;>
    simp_all [rank, UnpackedFloat.isNaN, Prod.Lex.toLex_lt_toLex]

/-- What is no number comes behind all numbers. -/
theorem before_iff_rank_lt (u v : UnpackedFloat) :
    (if v.isNaN then !u.isNaN else u.lt v) = true ↔ rank u < rank v := by
  cases hu : u.isNaN with
  | true =>
    obtain rfl := eq_notANumber hu
    have hlt : UnpackedFloat.notANumber.lt v = false := by
      cases v <;> rfl
    cases hv : v.isNaN with
    | true =>
      obtain rfl := eq_notANumber hv
      simp
    | false => simpa [hlt] using (rank_lt_notANumber hv).le
  | false =>
    cases hv : v.isNaN with
    | true =>
      obtain rfl := eq_notANumber hv
      simpa using rank_lt_notANumber hu
    | false => exact lt_iff_rank_lt hu hv

end FleetArena.FloatingPoint
