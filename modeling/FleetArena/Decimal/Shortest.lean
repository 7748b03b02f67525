/-! Decimal notation of double precision. A finite number is taken apart into `mantissa * 2 ^
exponent`, and from then on all arithmetic is exact. The shortest notation has the fewest digits
that no other double precision number is nearer to. -/
namespace FleetArena.Decimal

/-- A double precision number taken apart. -/
inductive Parts where
  | nan
  | infinite (negative : Bool)
  | finite (negative : Bool) (mantissa : Nat) (exponent : Int)
deriving Repr, DecidableEq

def twoTo (n : Nat) : Nat := Nat.pow 2 n

def tenTo (n : Nat) : Nat := Nat.pow 10 n

/-- The number of bits behind the leading one of a mantissa. -/
def fractionBits : Nat := 52

def Parts.ofFloat (x : Float) : Parts :=
  let bits := x.toBits.toNat
  let negative := bits / twoTo 63 == 1
  let field : Nat := bits / twoTo fractionBits % twoTo 11
  let fraction := bits % twoTo fractionBits
  if field = 2047 then if fraction = 0 then .infinite negative else .nan
  else if field = 0 then .finite negative fraction (-1074)
  else .finite negative (fraction + twoTo fractionBits) ((field : Int) - 1075)

/-- Decimal digits without trailing zeros, and the power of ten that they count. -/
structure Digits where
  digits : Nat
  exponent : Int
deriving Repr, DecidableEq

/-- The numbers that a double precision number stands for: everything from `low` to `high`, the ends
included or not, in fractions of `denominator`. -/
structure Interval where
  low : Nat
  value : Nat
  high : Nat
  denominator : Nat
  closed : Bool

/-- The numbers nearest to `mantissa * 2 ^ exponent`. At a power of two the next smaller double
precision number is only half as far away as the next larger one. -/
def Interval.of (mantissa : Nat) (exponent : Int) : Interval :=
  let scale := twoTo (exponent - 2).toNat
  let below := if mantissa = twoTo fractionBits ∧ exponent > -1074 then 1 else 2
  { low := (4 * mantissa - below) * scale
    value := 4 * mantissa * scale
    high := (4 * mantissa + 2) * scale
    denominator := twoTo (2 - exponent).toNat
    closed := mantissa % 2 == 0 }

/-- Whether `digits * 10 ^ power` lies in the interval. -/
def Interval.holds (i : Interval) (digits : Nat) (power : Int) : Bool :=
  let x := digits * tenTo power.toNat * i.denominator
  let unit := tenTo (-power).toNat
  if i.closed then i.low * unit ≤ x && x ≤ i.high * unit
  else i.low * unit < x && x < i.high * unit

/-- The neighbour of the value on the grid of multiples of `10 ^ power` that lies in the interval,
the nearer one if both do, and the larger one if both are equally near. -/
def Interval.gridPoint? (i : Interval) (power : Int) : Option Nat :=
  let numerator := i.value * tenTo (-power).toNat
  let denominator := i.denominator * tenTo power.toNat
  let floor := numerator / denominator
  match i.holds floor power, i.holds (floor + 1) power with
  | true, true =>
    some (if 2 * (numerator % denominator) < denominator then floor else floor + 1)
  | true, false => some floor
  | false, true => some (floor + 1)
  | false, false => none

/-- Drops trailing zeros. `fuel` bounds their number. -/
def stripZeros : Nat → Nat → Int → Digits
  | 0, digits, power => ⟨digits, power⟩
  | fuel + 1, digits, power =>
    if digits != 0 && digits % 10 == 0 then stripZeros fuel (digits / 10) (power + 1)
    else ⟨digits, power⟩

/-- The first hit among finer and finer grids. -/
def Interval.search (i : Interval) : Nat → Int → Digits
  | 0, power => ⟨i.value / i.denominator, power⟩
  | grids + 1, power =>
    match i.gridPoint? power with
    | some digits => stripZeros 20 digits power
    | none => i.search grids (power - 1)

/-- The number of decimal digits. -/
def width (n : Nat) : Nat :=
  (Nat.toDigits 10 n).length

/-- The place of the leading digit of a positive value: `10 ^ leadingPlace` is not above it, and
the next power of ten is. -/
def Interval.leadingPlace (i : Interval) : Int :=
  if i.denominator ≤ i.value then (width (i.value / i.denominator) : Int) - 1
  else
    -- below one, the inverse rounded up decides
    let inverse := (i.denominator + i.value - 1) / i.value
    Int.negOfNat (width (inverse - 1))

/-- The fewest digits that read back as `mantissa * 2 ^ exponent`; of equally few, the nearest. -/
def shortest (mantissa : Nat) (exponent : Int) : Digits :=
  let i := Interval.of mantissa exponent
  if mantissa = 0 then ⟨0, 0⟩ else i.search 17 i.leadingPlace

end FleetArena.Decimal
