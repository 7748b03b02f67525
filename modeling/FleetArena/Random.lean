import FleetArena.Vec3

/-! A permuted congruential generator: 64 bits of state, advanced by a linear congruence, of which
a rotated part is the output. -/
namespace FleetArena

structure Pcg where
  state : UInt64
  /-- The odd increment of the congruence. -/
  increment : UInt64
deriving Repr, DecidableEq

namespace Pcg

def multiplier : UInt64 := 6364136223846793005

/-- The increment of the sequence that expands a seed. -/
def seedIncrement : UInt64 := 11634580027462260723

/-- The 32 bits of output that belong to a state. -/
@[inline] def output (state : UInt64) : UInt32 :=
  let bits := (((state >>> 18) ^^^ state) >>> 27).toUInt32
  let turn := (state >>> 59).toUInt32
  (bits >>> turn) ||| (bits <<< ((32 - turn) &&& 31))

/-- One step of the congruence. -/
@[inline] def step (g : Pcg) : Pcg :=
  { g with state := g.state * multiplier + g.increment }

/-- The four words that a seed expands to. -/
def seedWords (seed : UInt64) : UInt32 × UInt32 × UInt32 × UInt32 :=
  let s₀ := seed * multiplier + seedIncrement
  let s₁ := s₀ * multiplier + seedIncrement
  let s₂ := s₁ * multiplier + seedIncrement
  let s₃ := s₂ * multiplier + seedIncrement
  (output s₀, output s₁, output s₂, output s₃)

/-- Two words as one number, the low one first. -/
@[inline] def join (low high : UInt32) : UInt64 :=
  low.toUInt64 ||| (high.toUInt64 <<< 32)

/-- The generator of a seed. -/
def ofSeed (seed : UInt64) : Pcg :=
  let (w₀, w₁, w₂, w₃) := seedWords seed
  let increment := join w₂ w₃ ||| 1
  step ⟨join w₀ w₁ + increment, increment⟩

@[inline] def next32 (g : Pcg) : UInt32 × Pcg :=
  (output g.state, g.step)

@[inline] def next64 (g : Pcg) : UInt64 × Pcg :=
  let (low, g) := g.next32
  let (high, g) := g.next32
  (join low high, g)

/-- How many numbers 52 bits hold. -/
def unitSteps : Nat := 4503599627370496

variable {α : Type} [Scalar α]

/-- A quantity from zero up to, not including, one: the upper 52 of 64 bits as binary places. -/
@[inline] def unit (g : Pcg) : α × Pcg :=
  let (bits, g) := g.next64
  (Scalar.ofNat (bits >>> 12).toNat / Scalar.ofNat unitSteps, g)

/-- A quantity from `low` up to, not including, `high`. -/
@[inline] def uniform (g : Pcg) (low high : α) : α × Pcg :=
  let (u, g) := (g.unit : α × Pcg)
  (u * (high - low) + low, g)

/-- Whether `uniform` can draw between two bounds. -/
def isRange (low high : α) : Bool :=
  decide (low < high) && Scalar.isFinite (high - low)

/-- A point of the cube that reaches one unit from the origin along each axis. -/
@[specialize] def cubePoint (g : Pcg) : Vec3 α × Pcg :=
  let (x, g) := g.uniform (-1.0 : α) 1.0
  let (y, g) := g.uniform (-1.0 : α) 1.0
  let (z, g) := g.uniform (-1.0 : α) 1.0
  (⟨x, y, z⟩, g)

/-- The direction of the first of `attempts` points of the cube that has one. -/
@[specialize] def directionWithin : Nat → Pcg → Option (Vec3 α × Pcg)
  | 0, _ => none
  | attempts + 1, g =>
    let (candidate, g) := (g.cubePoint : Vec3 α × Pcg)
    match candidate.normalize? with
    | some direction => some (direction, g)
    | none => directionWithin attempts g

/-- A random direction. Only the origin has none, and the generator cannot stay there for as many
draws as it has states. -/
@[specialize] def direction (g : Pcg) : Vec3 α × Pcg :=
  (directionWithin wordCount g).getD (.unitX, g)

end Pcg
end FleetArena
