import FleetArena.Decimal.Shortest

/-! How numbers are written: with the shortest digits, plainly or in a form that shows that the
number is no integer, or with a fixed number of places. -/
namespace FleetArena.Decimal

/-- A way to write the shortest digits. -/
structure Layout where
  /-- Whether a whole number is written with a point and a zero. -/
  pointZero : Bool
  /-- The places of the leading digit for which no exponent is written; none means all. -/
  positional : Option (Int × Int)

/-- No exponent, and no point without need. -/
def plain : Layout := ⟨false, none⟩

/-- A point or an exponent always; an exponent from `1e16` on and below `1e-4`. -/
def exact : Layout := ⟨true, some (-4, 15)⟩

/-- The decimal digits of a number as text. -/
def digitText (n : Nat) : String :=
  String.ofList (Nat.toDigits 10 n)

def zeros (n : Nat) : String :=
  String.ofList (List.replicate n '0')

/-- Digits without an exponent. -/
def positionalText (pointZero : Bool) (d : Digits) : String :=
  let text := digitText d.digits
  if d.exponent ≥ 0 then
    text ++ zeros d.exponent.toNat ++ if pointZero then ".0" else ""
  else
    let places := (-d.exponent).toNat
    let padded := zeros (places + 1 - text.length) ++ text
    let whole := padded.length - places
    String.ofList (padded.toList.take whole) ++ "." ++ String.ofList (padded.toList.drop whole)

/-- Digits with a point behind the first one and an exponent. -/
def exponentText (d : Digits) (place : Int) : String :=
  match (digitText d.digits).toList with
  | [] => ""
  | [digit] => String.singleton digit ++ "e" ++ toString place
  | digit :: rest =>
    String.singleton digit ++ "." ++ String.ofList rest ++ "e" ++ toString place

def signText (negative : Bool) : String :=
  if negative then "-" else ""

def infinityText : String := "inf"

def nanText : String := "NaN"

/-- A number in a layout. -/
def Layout.text (l : Layout) (x : Float) : String :=
  match Parts.ofFloat x with
  | .nan => nanText
  | .infinite negative => signText negative ++ infinityText
  | .finite negative mantissa exponent =>
    let d := shortest mantissa exponent
    let place := (width d.digits : Int) - 1 + d.exponent
    let isPositional :=
      match l.positional with
      | none => true
      | some (least, most) => mantissa == 0 || (decide (least ≤ place) && decide (place ≤ most))
    signText negative ++
      if isPositional then positionalText l.pointZero d else exponentText d place

/-- The nearest whole number to a fraction; a half goes to the even neighbour. -/
def roundEven (numerator denominator : Nat) : Nat :=
  let floor := numerator / denominator
  let rest := 2 * (numerator % denominator)
  if rest < denominator || (rest == denominator && floor % 2 == 0) then floor else floor + 1

/-- A number with two places behind the point. -/
def hundredths (x : Float) : String :=
  match Parts.ofFloat x with
  | .nan => nanText
  | .infinite negative => signText negative ++ infinityText
  | .finite negative mantissa exponent =>
    let n := roundEven (100 * mantissa * twoTo exponent.toNat) (twoTo (-exponent).toNat)
    let places := digitText (n % 100)
    signText negative ++ digitText (n / 100) ++ "." ++ zeros (2 - places.length) ++ places

end FleetArena.Decimal
