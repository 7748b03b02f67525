import FleetArena.Json.Reader
import FleetArena.Vec3
import FleetArena.Table

/-! Decoding: what a JSON value says in the terms of a type. A record is an object, in which names
that the record does not have are ignored, or an array of its fields in order. -/
namespace FleetArena.Json

class Decode (β : Type) where
  decode? : Value → Option β

export Decode (decode?)

def Number.toFloat? : Number → Option Float
  | .whole n => some (if 0 ≤ n then n.toNat.toUInt64.toFloat else n.toInt64.toFloat)
  | .real x => some x
  | .outOfRange => none

/-- Natural numbers are integers of 64 bits without a sign, a fraction or an exponent. -/
def Number.toNat? : Number → Option Nat
  | .whole n => if 0 ≤ n then some n.toNat else none
  | _ => none

instance : Decode Float where
  decode?
    | .number n => n.toFloat?
    | _ => none

instance : Decode Nat where
  decode?
    | .number n => n.toNat?
    | _ => none

instance : Decode Bool where
  decode?
    | .bool b => some b
    | _ => none

instance : Decode String where
  decode?
    | .string s => s
    | _ => none

instance {β : Type} [Decode β] : Decode (Option β) where
  decode?
    | .null => some none
    | v => (decode? v).map some

instance {β : Type} [Decode β] : Decode (List β) where
  decode?
    | .array items => items.mapM decode?
    | _ => none

instance : Decode (Vec3 Float) where
  decode? v := do
    match ← (decode? v : Option (List Float)) with
    | [x, y, z] => some ⟨x, y, z⟩
    | _ => none

/-- Names of members as keys of a table. -/
class DecodeKey (κ : Type) where
  decodeKey? : Key → Option κ

instance : DecodeKey String where
  decodeKey? key := key.text

/-- Numbers as keys are written without escapes. -/
instance : DecodeKey Nat where
  decodeKey? key := do
    if key.escaped then none
    else
      match Numeral.scan? (← key.text).toList with
      | some (n, []) => n.value.toNat?
      | _ => none

instance {κ ν : Type} [Ord κ] [Std.TransOrd κ] [DecodeKey κ] [Decode ν] : Decode (Table κ ν) where
  decode?
    | .object members => do
      let entries ← members.mapM fun (key, value) => do
        return (← DecodeKey.decodeKey? key, ← decode? value)
      return .ofList entries
    | _ => none

/-- The fields of a record that are left to decode. -/
inductive Fields where
  | named (members : List (Key × Value))
  | listed (items : List Value)

/-- A decoder of the fields of a record. -/
abbrev Record := StateT Fields Option

namespace Record

/-- The next field, if it is there. -/
def next? (name : String) : Record (Option Value) := fun fields =>
  match fields with
  | .named members =>
    match members.filter (·.1.text == some name) with
    | [] => some (none, fields)
    | [(_, value)] => some (some value, fields)
    | _ => none
  | .listed [] => some (none, .listed [])
  | .listed (item :: rest) => some (some item, .listed rest)

/-- A field that must be there. -/
def required {β : Type} [Decode β] (name : String) : Record β := do
  match ← next? name with
  | some value => liftM (decode? value : Option β)
  | none => failure

/-- A field that has a value also when it is not there. -/
def withDefault {β : Type} [Decode β] (name : String) (default : β) : Record β := do
  match ← next? name with
  | some value => liftM (decode? value : Option β)
  | none => return default

/-- Decodes a record. No item of an array may be left, and every name of an object must be text. -/
def decode? {β : Type} (record : Record β) : Value → Option β
  | .object members =>
    if members.all (·.1.text.isSome) then (record (.named members)).map (·.1) else none
  | .array items =>
    match record (.listed items) with
    | some (value, .listed []) => some value
    | _ => none
  | _ => none

end Record

/-- One of finitely many names: a string, or an object with that one member, which is null. -/
def decodeName? {β : Type} (ofName? : String → Option β) : Value → Option β
  | .string s => s.bind ofName?
  | .object [(key, .null)] => key.text.bind ofName?
  | _ => none

/-- Reads a text as a value of a type. -/
def parse? {β : Type} [Decode β] (text : String) : Option β :=
  (read? text).bind decode?

end FleetArena.Json
