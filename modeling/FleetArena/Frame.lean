import FleetArena.Body
import FleetArena.Table

/-! Frames: what a renderer is told of a battle at a tick. -/
namespace FleetArena

/-- One object as a renderer sees it. -/
structure Drawable (α : Type) where
  id : ObjectId
  position : Vec3 α
  radius : α
  texture : String
deriving Repr, DecidableEq

def Drawable.of {α : Type} (body : Body α) (texture : String) : Drawable α :=
  ⟨body.id, body.position, body.radius, texture⟩

structure Frame (α : Type) where
  tick : Nat
  /-- The seconds of the battle that have passed. -/
  time : α
  scores : Table String α
  /-- Objects that no earlier frame has shown. -/
  new : List (Drawable α)
  /-- Objects that an earlier frame has shown. -/
  updated : List (Drawable α)
  /-- Objects that an earlier frame has shown and that are gone since the last one. -/
  deleted : List ObjectId

/-- Something that takes frames. -/
class Drawer (α : Type) (δ : Type) where
  draw : Frame α → δ → δ

end FleetArena
