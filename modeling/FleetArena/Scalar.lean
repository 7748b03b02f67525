/-! Quantities of the arena. All motion is written once over the operations below; no law is
assumed of them, so the same definitions run on `Float` and can be read over exact numbers. -/
namespace FleetArena

/-- The operations a quantity supports: arithmetic, comparison, and the few functions that the
arena needs. Literals come from `OfScientific`. -/
class Scalar (α : Type) extends
    Add α, Sub α, Mul α, Div α, Neg α, LT α, LE α, BEq α, OfScientific α where
  decLt : DecidableLT α
  decLe : DecidableLE α
  sqrt : α → α
  cos : α → α
  sin : α → α
  pi : α
  isNaN : α → Bool
  isFinite : α → Bool
  isInfinite : α → Bool
  /-- A whole number as a quantity. -/
  ofNat : Nat → α
  /-- The largest whole number that is not above the quantity. -/
  floor : α → Int
  /-- The nearest whole number of ticks, halves rounded up. What is below zero or no number is
  zero, and what is above `lastTick` is `lastTick`. -/
  ticks : α → Nat

attribute [reducible, instance] Scalar.decLt Scalar.decLe

/-- How many numbers a word of 64 bits holds. -/
def wordCount : Nat := 18446744073709551616

/-- The largest tick number. -/
def lastTick : Nat := wordCount - 1

namespace Scalar
variable {α : Type} [Scalar α]

/-- The larger of two quantities; the second one of equals, the other one of what is no number. -/
@[inline] def max (a b : α) : α :=
  if b < a then a else if isNaN b then a else b

/-- The smaller of two quantities; the second one of equals, the other one of what is no number. -/
@[inline] def min (a b : α) : α :=
  if a < b then a else if isNaN b then a else b

/-- The sum from left to right. It starts at negative zero, which no addition can tell from
nothing at all. -/
@[specialize] def sum (xs : List α) : α :=
  xs.foldl (· + ·) (-0.0)

/-- The largest of the quantities and zero. -/
@[specialize] def maximum (xs : List α) : α :=
  xs.foldl max 0.0

end Scalar

/-- Double precision. `floor` stays within 64 bits, with zero for what is no number. -/
instance : Scalar Float where
  decLt := inferInstance
  decLe := inferInstance
  sqrt := Float.sqrt
  cos := Float.cos
  sin := Float.sin
  pi := 3.141592653589793
  isNaN := Float.isNaN
  isFinite := Float.isFinite
  isInfinite := Float.isInf
  ofNat n := if n < wordCount then n.toUInt64.toFloat else Float.ofNat n
  floor x := x.floor.toInt64.toInt
  ticks x := x.round.toUInt64.toNat

end FleetArena
