import FleetArena.Battle.State

/-! Deciding: every ship acts on what could be seen before any of them did, and what they have
fired then enters the arena. -/
namespace FleetArena

def ShipSighting.of {α : Type} (body : Body α) (fleet : String) : ShipSighting α :=
  ⟨fleet, body.position, body.velocity, body.radius, body.health⟩

def PointSighting.of {α : Type} (p : ControlPoint α) : PointSighting α :=
  ⟨p.body.position, p.body.velocity, p.body.radius, p.body.health, p.points, p.influence⟩

namespace Battle
variable {α π δ : Type}

/-- What can be seen. -/
def world (b : Battle α π δ) : World α where
  ships := .ofList (b.ships.map fun s => (s.id, .of s.body s.fleet))
  controlPoints := .ofList (b.controlPoints.map fun p => (p.body.id, .of p))

variable [Scalar α]

/-- Lets every pilot act. -/
@[specialize] def decide [Pilot α π] (b : Battle α π δ) : Battle α π δ :=
  let world := b.world
  { b with ships := b.ships.map fun s => s.decide b.tick world }

/-- Puts what has been fired into the arena, in the order of the ships. -/
@[specialize] def launch (b : Battle α π δ) : Battle α π δ :=
  let shots := b.ships.flatMap (·.shots)
  let ships := b.ships.map fun s => { s with shots := [] }
  shots.foldl addShot { b with ships }

end Battle
end FleetArena
