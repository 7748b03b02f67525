import FleetArena.Json.Number

/-! Reading a JSON text: one value, with blanks around it and nothing else. -/
namespace FleetArena.Json

def isBlank (c : Char) : Bool :=
  c == ' ' || c == '\n' || c == '\t' || c == '\r'

def skipBlank (cs : List Char) : List Char :=
  cs.dropWhile isBlank

/-- A piece of a string: a character, or a code unit that an escape has given. -/
inductive Piece where
  | char (c : Char)
  | unit (n : Nat)

def hexDigit? (c : Char) : Option Nat :=
  if c.isDigit then some (c.toNat - '0'.toNat)
  else if 'a' ≤ c ∧ c ≤ 'f' then some (c.toNat - 'a'.toNat + 10)
  else if 'A' ≤ c ∧ c ≤ 'F' then some (c.toNat - 'A'.toNat + 10)
  else none

/-- The code unit of four hexadecimal digits. -/
def codeUnit? (a b c d : Char) : Option Nat := do
  return 4096 * (← hexDigit? a) + 256 * (← hexDigit? b) + 16 * (← hexDigit? c) + (← hexDigit? d)

/-- The character that a backslash and a letter stand for. -/
def escaped? : Char → Option Char
  | '"' => some '"'
  | '\\' => some '\\'
  | '/' => some '/'
  | 'b' => some '\x08'
  | 'f' => some '\x0c'
  | 'n' => some '\n'
  | 'r' => some '\r'
  | 't' => some '\t'
  | _ => none

/-- The pieces of a string up to its closing quote. -/
def scanPieces? : List Char → Option (List Piece × List Char)
  | [] => none
  | '"' :: rest => some ([], rest)
  | '\\' :: 'u' :: a :: b :: c :: d :: rest => do
    let unit ← codeUnit? a b c d
    let (pieces, rest) ← scanPieces? rest
    return (.unit unit :: pieces, rest)
  | '\\' :: c :: rest => do
    let char ← escaped? c
    let (pieces, rest) ← scanPieces? rest
    return (.unit char.toNat :: pieces, rest)
  | c :: rest => do
    if c == '\\' || c < ' ' then none
    else
      let (pieces, rest) ← scanPieces? rest
      return (.char c :: pieces, rest)

def isHighSurrogate (n : Nat) : Bool :=
  0xD800 ≤ n && n < 0xDC00

def isLowSurrogate (n : Nat) : Bool :=
  0xDC00 ≤ n && n < 0xE000

/-- Joins pieces to a text. Surrogates must come in pairs. -/
def joinPieces? : List Piece → Option (List Char)
  | [] => some []
  | .char c :: rest => (joinPieces? rest).map (c :: ·)
  | .unit n :: .unit m :: rest =>
    if isHighSurrogate n then
      if isLowSurrogate m then
        (joinPieces? rest).map
          (Char.ofNat (0x10000 + 0x400 * (n - 0xD800) + (m - 0xDC00)) :: ·)
      else none
    else if isLowSurrogate n then none
    else (joinPieces? (.unit m :: rest)).map (Char.ofNat n :: ·)
  | .unit n :: rest =>
    if isHighSurrogate n || isLowSurrogate n then none
    else (joinPieces? rest).map (Char.ofNat n :: ·)

def Piece.isUnit : Piece → Bool
  | .char _ => false
  | .unit _ => true

/-- The string behind an opening quote. -/
def scanKey? (cs : List Char) : Option (Key × List Char) := do
  let (pieces, rest) ← scanPieces? cs
  return (⟨(joinPieces? pieces).map String.ofList, pieces.any Piece.isUnit⟩, rest)

/-- What follows a text at the start of another. -/
def drop? : List Char → List Char → Option (List Char)
  | [], cs => some cs
  | p :: pattern, c :: cs => if p = c then drop? pattern cs else none
  | _ :: _, [] => none

mutual

/-- The value at the start of a text, blanks before it skipped. Every value and every separator
takes at least one character, so `fuel` need not be larger than the number of characters. -/
def scanValue? : Nat → List Char → Option (Value × List Char)
  | 0, _ => none
  | fuel + 1, cs =>
    match skipBlank cs with
    | 'n' :: rest => (drop? "ull".toList rest).map fun rest => (.null, rest)
    | 't' :: rest => (drop? "rue".toList rest).map fun rest => (.bool true, rest)
    | 'f' :: rest => (drop? "alse".toList rest).map fun rest => (.bool false, rest)
    | '"' :: rest => (scanKey? rest).map fun (key, rest) => (.string key.text, rest)
    | '[' :: rest =>
      match skipBlank rest with
      | ']' :: rest => some (.array [], rest)
      | rest => (scanItems? fuel rest).map fun (items, rest) => (.array items, rest)
    | '\x7b' :: rest =>
      match skipBlank rest with
      | '\x7d' :: rest => some (.object [], rest)
      | rest => (scanMembers? fuel rest).map fun (members, rest) => (.object members, rest)
    | rest => (Numeral.scan? rest).map fun (n, rest) => (.number n.value, rest)

/-- Items with commas between them, and the closing bracket. -/
def scanItems? : Nat → List Char → Option (List Value × List Char)
  | 0, _ => none
  | fuel + 1, cs =>
    match scanValue? fuel cs with
    | none => none
    | some (item, rest) =>
      match skipBlank rest with
      | ']' :: rest => some ([item], rest)
      | ',' :: rest => (scanItems? fuel rest).map fun (items, rest) => (item :: items, rest)
      | _ => none

/-- Members with commas between them, and the closing brace. -/
def scanMembers? : Nat → List Char → Option (List (Key × Value) × List Char)
  | 0, _ => none
  | fuel + 1, cs =>
    match skipBlank cs with
    | '"' :: rest =>
      match scanKey? rest with
      | none => none
      | some (key, rest) =>
        match skipBlank rest with
        | ':' :: rest =>
          match scanValue? fuel rest with
          | none => none
          | some (value, rest) =>
            match skipBlank rest with
            | '\x7d' :: rest => some ([(key, value)], rest)
            | ',' :: rest =>
              (scanMembers? fuel rest).map fun (members, rest) => ((key, value) :: members, rest)
            | _ => none
        | _ => none
    | _ => none

end

/-- The value of a text. -/
def read? (text : String) : Option Value :=
  match scanValue? (text.length + 1) text.toList with
  | some (value, rest) => if (skipBlank rest).isEmpty then some value else none
  | none => none

end FleetArena.Json
