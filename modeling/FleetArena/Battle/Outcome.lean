import FleetArena.Battle.State

/-! Outcomes: when a battle is over, and who has won it. -/
namespace FleetArena

inductive EndReason where
  | maxTicks
  | noShips
  | scoreLimit
  | lastFleetStanding
deriving Repr, DecidableEq

structure Outcome (α : Type) where
  /-- Every fleet with the highest score, in the order of the names. -/
  winners : List String
  score : α
  reason : EndReason
  /-- The completed ticks. -/
  tick : Nat
deriving Repr, DecidableEq

namespace Battle
variable {α π δ : Type} [Scalar α]

/-- The fleets that have the highest score. -/
@[specialize] def leaders (b : Battle α π δ) : List String :=
  (b.scores.filter fun _ score => score == b.maxScore).keys

/-- Why the battle is over. An earlier reason of the list goes before a later one. A fleet wins as
the last one standing only if it alone has the highest score. -/
@[specialize] def endReason? (b : Battle α π δ) : Option EndReason :=
  if b.settings.maxTicks.any (· ≤ b.tick) then some .maxTicks
  else if b.ships.isEmpty then some .noShips
  else if b.scoreLimit.any (fun limit => Decidable.decide (b.maxScore > limit)) then
    some .scoreLimit
  else
    match b.survivors, b.leaders with
    | [survivor], [leader] => if survivor = leader then some .lastFleetStanding else none
    | _, _ => none

@[specialize] def outcome? (b : Battle α π δ) : Option (Outcome α) :=
  b.endReason?.map fun reason => ⟨b.leaders, b.maxScore, reason, b.tick⟩

end Battle
end FleetArena
