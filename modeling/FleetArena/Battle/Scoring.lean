import FleetArena.Battle.State

/-! Scoring: each tick, every control point gives every ship within its influence its points for
the length of the tick. -/
namespace FleetArena.Battle
variable {α π δ : Type} [Scalar α]

/-- Adds to the score of a fleet. -/
@[specialize] def credit (scores : Table String α) (fleet : String) (amount : α) :
    Table String α :=
  scores.alter fleet fun score => score.getD 0.0 + amount

/-- The scores after one control point has given its points. -/
@[specialize] def scoreAt (point : ControlPoint α) (dt : α) (ships : List (Ship α π))
    (scores : Table String α) : Table String α :=
  ships.foldl
    (fun scores ship =>
      if point.influences ship.body.position then credit scores ship.fleet (point.points * dt)
      else scores)
    scores

/-- Scores a tick, at the positions before anything moves. -/
@[specialize] def score (b : Battle α π δ) : Battle α π δ :=
  let scores :=
    b.controlPoints.foldl (fun scores point => scoreAt point b.dt b.ships scores) b.scores
  { b with scores, maxScore := Scalar.maximum scores.values }

end FleetArena.Battle
