/-! JSON values as they stand in a text. What cannot be represented is kept as such, because a value
that nobody asks for only has to be well formed. -/
namespace FleetArena.Json

inductive Number where
  /-- An integer without fraction and exponent, from `-2 ^ 63` to `2 ^ 64 - 1`. -/
  | whole (n : Int)
  | real (x : Float)
  /-- A number that is too large. -/
  | outOfRange

/-- The name of a member. -/
structure Key where
  /-- There is no text if one half of a surrogate pair stands alone. -/
  text : Option String
  /-- Whether an escape stands in the name. -/
  escaped : Bool
deriving DecidableEq

inductive Value where
  | null
  | bool (b : Bool)
  | number (n : Number)
  /-- There is no text if one half of a surrogate pair stands alone. -/
  | string (s : Option String)
  | array (items : List Value)
  | object (members : List (Key × Value))
deriving Inhabited

end FleetArena.Json
