import FleetArena.Scalar

/-! Settings of a battle that are no part of its map. -/
namespace FleetArena

structure Settings (α : Type) where
  /-- The seconds of one tick. -/
  tickSeconds : α
  /-- The battle ends after this many ticks. -/
  maxTicks : Option Nat
  /-- A frame is drawn every so many ticks. -/
  frameRate : Nat
  /-- Whether pilots may decide at the same time. It makes no difference to the result. -/
  parallel : Bool
  /-- How many frames wait for a slow renderer. -/
  frameBuffer : Nat
deriving Repr, DecidableEq

def Settings.standard {α : Type} [Scalar α] : Settings α where
  tickSeconds := 1e-2
  maxTicks := none
  frameRate := 10
  parallel := true
  frameBuffer := 4

end FleetArena
