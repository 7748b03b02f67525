import FleetArena.Frame

/-! A bounded channel of frames. Drawing never waits: a frame that does not fit is dropped, and
once the receiver has hung up nothing happens any more. -/
namespace FleetArena

structure Channel (α : Type) where
  capacity : Nat
  /-- The frames that wait for the receiver, the oldest first. -/
  buffer : List (Frame α)
  /-- How many frames did not fit. -/
  dropped : Nat
  /-- Whether the receiver is there. -/
  attached : Bool
  /-- Whether a frame was drawn after the receiver had gone. -/
  closed : Bool

namespace Channel
variable {α : Type}

def ofCapacity (capacity : Nat) : Channel α :=
  ⟨capacity, [], 0, true, false⟩

/-- Whether frames are handed over. -/
def connected (c : Channel α) : Bool :=
  c.attached && !c.closed

/-- Hands over a frame if there is a receiver and room for it. The first frame that finds no
receiver closes the channel, and no other one is tried. -/
def draw (frame : Frame α) (c : Channel α) : Channel α :=
  if c.closed then c
  else if !c.attached then { c with closed := true }
  else if c.buffer.length < c.capacity then { c with buffer := c.buffer ++ [frame] }
  else { c with dropped := c.dropped + 1 }

instance : Drawer α (Channel α) where
  draw := draw

/-- Takes the oldest frame. -/
def receive? (c : Channel α) : Option (Frame α × Channel α) :=
  match c.buffer with
  | [] => none
  | frame :: buffer => some (frame, { c with buffer })

/-- Takes every frame. -/
def drain (c : Channel α) : List (Frame α) × Channel α :=
  (c.buffer, { c with buffer := [] })

/-- The receiver goes away, and the frames that wait for it with it. -/
def hangUp (c : Channel α) : Channel α :=
  { c with buffer := [], attached := false }

end Channel
end FleetArena
