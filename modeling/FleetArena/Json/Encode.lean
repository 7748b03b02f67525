import FleetArena.Json.Value
import FleetArena.Table
import FleetArena.Vec3

/-! Encoding: every field of a record becomes a member of an object. -/
namespace FleetArena.Json

class Encode (β : Type) where
  encode : β → Value

export Encode (encode)

instance : Encode Float := ⟨fun x => .number (.real x)⟩
instance : Encode Nat := ⟨fun n => .number (.whole n)⟩
instance : Encode Bool := ⟨.bool⟩
instance : Encode String := ⟨fun s => .string (some s)⟩

instance {β : Type} [Encode β] : Encode (Option β) where
  encode
    | none => .null
    | some x => encode x

instance {β : Type} [Encode β] : Encode (List β) :=
  ⟨fun xs => .array (xs.map encode)⟩

instance : Encode (Vec3 Float) := ⟨fun v => encode v.toList⟩

/-- Keys of a table as names of members. -/
class EncodeKey (κ : Type) where
  encodeKey : κ → String

instance : EncodeKey String := ⟨id⟩
instance : EncodeKey Nat := ⟨toString⟩

/-- A member of an object. -/
def member {β : Type} [Encode β] (name : String) (x : β) : Key × Value :=
  (⟨some name, false⟩, encode x)

instance {κ ν : Type} [Ord κ] [EncodeKey κ] [Encode ν] : Encode (Table κ ν) :=
  ⟨fun t => .object (t.entries.map fun e => member (EncodeKey.encodeKey e.1) e.2)⟩

end FleetArena.Json
