import FleetArena.Json.Value
import FleetArena.Scalar

/-! Numbers in JSON. As many leading digits as fit into 64 bits count; the number is their product
or quotient with a power of ten in double precision. -/
namespace FleetArena.Json

/-- The parts of a number as they stand in a text. -/
structure Numeral where
  negative : Bool
  whole : List Nat
  fraction : Option (List Nat)
  exponent : Option Int

/-- The value of a digit. -/
def digit? (c : Char) : Option Nat :=
  if c.isDigit then some (c.toNat - '0'.toNat) else none

/-- The leading digits of a text. -/
def scanDigits : List Char → List Nat × List Char
  | [] => ([], [])
  | c :: rest =>
    match digit? c with
    | some d =>
      let (digits, rest) := scanDigits rest
      (d :: digits, rest)
    | none => ([], c :: rest)

/-- At least one digit. -/
def scanDigits? (cs : List Char) : Option (List Nat × List Char) :=
  match scanDigits cs with
  | ([], _) => none
  | found => some found

def digitsValue (digits : List Nat) : Nat :=
  digits.foldl (fun n d => 10 * n + d) 0

/-- A point and digits behind it, if there is a point. -/
def scanFraction? : List Char → Option (Option (List Nat) × List Char)
  | '.' :: rest => (scanDigits? rest).map fun (digits, rest) => (some digits, rest)
  | rest => some (none, rest)

/-- The sign of an exponent and its digits. -/
def scanSigned? : List Char → Option (Int × List Char)
  | '-' :: rest => (scanDigits? rest).map fun (ds, rest) => (-(digitsValue ds : Int), rest)
  | '+' :: rest => (scanDigits? rest).map fun (ds, rest) => ((digitsValue ds : Int), rest)
  | rest => (scanDigits? rest).map fun (ds, rest) => ((digitsValue ds : Int), rest)

/-- A mark and an exponent behind it, if there is a mark. -/
def scanExponent? : List Char → Option (Option Int × List Char)
  | 'e' :: rest | 'E' :: rest => (scanSigned? rest).map fun (n, rest) => (some n, rest)
  | rest => some (none, rest)

/-- The numeral at the start of a text. No digit may follow a leading zero. -/
def Numeral.scan? (cs : List Char) : Option (Numeral × List Char) := do
  let (negative, cs) :=
    match cs with
    | '-' :: rest => (true, rest)
    | rest => (false, rest)
  let (whole, cs) ← scanDigits? cs
  if whole.head? == some 0 && whole.length > 1 then none
  else
    let (fraction, cs) ← scanFraction? cs
    let (exponent, cs) ← scanExponent? cs
    return (⟨negative, whole, fraction, exponent⟩, cs)

/-- The magnitude of the least integer of 64 bits with a sign. -/
def mostNegated : Nat := 9223372036854775808

/-- Takes the digits in front of the point, as many as fit, and counts those that do not. -/
def takeWhole (digits : List Nat) : Nat × Nat :=
  digits.foldl
    (fun (n, dropped) d =>
      if dropped = 0 && 10 * n + d < wordCount then (10 * n + d, 0) else (n, dropped + 1))
    (0, 0)

/-- Takes more digits behind the point, as many as fit, and counts them. -/
def takeFraction : Nat → Nat → List Nat → Nat × Nat
  | n, taken, [] => (n, taken)
  | n, taken, d :: rest =>
    if 10 * n + d < wordCount then takeFraction (10 * n + d) (taken + 1) rest else (n, taken)

/-- The greatest exponent of a power of ten in double precision. -/
def mostPower : Nat := 308

def powerOfTen (n : Nat) : Float :=
  Float.ofScientific 1 false n

/-- Divides by a power of ten, step by step if the power is too large. -/
def divideByPower (x : Float) (power : Nat) : Float :=
  if power ≤ mostPower then x / powerOfTen power
  else if x == 0.0 then x
  else divideByPower (x / powerOfTen mostPower) (power - mostPower)
termination_by power
decreasing_by
  have : mostPower = 308 := rfl
  omega

/-- `n * 10 ^ power`, if it is not too large. -/
def scaled? (n : Nat) (power : Int) : Option Float :=
  let x := n.toUInt64.toFloat
  match power with
  | .negSucc p => some (divideByPower x (p + 1))
  | .ofNat p =>
    if p ≤ mostPower then
      let y := x * powerOfTen p
      if y.isInf then none else some y
    else if n = 0 then some x
    else none

/-- The number that a numeral stands for. Zero with a sign is not an integer. -/
def Numeral.value (n : Numeral) : Number :=
  let (whole, dropped) := takeWhole n.whole
  let real (significand : Nat) (power : Int) : Number :=
    match scaled? significand power with
    | some x => .real (if n.negative then -x else x)
    | none => .outOfRange
  match n.fraction, n.exponent with
  | none, none =>
    if dropped > 0 then real whole dropped
    else if !n.negative then .whole whole
    else if 0 < whole ∧ whole ≤ mostNegated then .whole (-whole)
    else real whole 0
  | fraction, exponent =>
    let (significand, taken) := takeFraction whole 0 (fraction.getD [])
    real significand (dropped - taken + exponent.getD 0)

end FleetArena.Json
