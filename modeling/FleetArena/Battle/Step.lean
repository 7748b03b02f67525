import FleetArena.Battle.Contacts
import FleetArena.Battle.Culling
import FleetArena.Battle.Deciding
import FleetArena.Battle.Drawing
import FleetArena.Battle.Motion
import FleetArena.Battle.Outcome
import FleetArena.Battle.Scoring

/-! A tick: score, decide, launch, move, collide and cull, strictly in that order. Then the tick is
complete and the battle may be over. -/
namespace FleetArena

/-- A step of a battle: what the battle is after it, the ships that it has removed, and the outcome
or the error. -/
structure Step (α π δ : Type) where
  battle : Battle α π δ
  removed : List (Ship α π)
  result : Except StepError (Option (Outcome α))

namespace Battle
variable {α π δ : Type} [Scalar α] [Pilot α π] [Drawer α δ]

/-- Draws the first frame, once. -/
def start (b : Battle α π δ) : Battle α π δ :=
  if b.started then b else emitFrame { b with started := true }

/-- The part of a tick before the collisions. -/
@[specialize] def move (b : Battle α π δ) : Battle α π δ :=
  b.score.decide.launch.integrate

/-- Whether a frame is due. -/
def isFrameDue (b : Battle α π δ) (outcome : Option (Outcome α)) : Bool :=
  outcome.isSome || b.tick % Nat.max b.settings.frameRate 1 == 0

/-- Completes a tick after the culling. -/
@[specialize] def complete (b : Battle α π δ) : Battle α π δ × Option (Outcome α) :=
  let b := { b with tick := b.tick + 1 }
  let outcome := b.outcome?
  (if b.isFrameDue outcome then b.emitFrame else b, outcome)

/-- Advances the battle by one tick. A body that is not finite halts it for good. -/
@[specialize] def step (b : Battle α π δ) : Step α π δ :=
  if b.halted then ⟨b, [], .error .halted⟩
  else
    let b := b.start.move
    match b.checkFinite with
    | .error e => ⟨b.halt, [], .error e⟩
    | .ok () =>
      let b := b.collide
      match b.checkFinite with
      | .error e => ⟨b.halt, [], .error e⟩
      | .ok () =>
        let (b, removed) := b.cull
        let (b, outcome) := b.complete
        ⟨b, removed, .ok outcome⟩

/-- Steps until the battle is over, or `limit` times. The ships removed before are `removed`. -/
@[specialize] def stepsFrom (removed : List (Ship α π)) : Nat → Battle α π δ → Step α π δ
  | 0, b => ⟨b, removed, .ok none⟩
  | limit + 1, b =>
    let s := b.step
    match s.result with
    | .ok none => stepsFrom (removed ++ s.removed) limit s.battle
    | result => ⟨s.battle, removed ++ s.removed, result⟩

/-- Steps until the battle is over, or `limit` times. -/
@[specialize] def steps (limit : Nat) (b : Battle α π δ) : Step α π δ :=
  stepsFrom [] limit b

/-- The steps after which a battle is certainly over: those to its last tick, at least one, or as
many as there are ticks when it has no last tick. -/
def stepsLeft (b : Battle α π δ) : Nat :=
  match b.settings.maxTicks with
  | some n => Nat.max 1 (n - b.tick)
  | none => lastTick

/-- Steps until the battle is over. -/
@[specialize] def run (b : Battle α π δ) : Step α π δ :=
  steps b.stepsLeft b

end Battle
end FleetArena
