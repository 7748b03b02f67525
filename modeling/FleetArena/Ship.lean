import FleetArena.Pilot

/-! Ships: vessels with a pilot. -/
namespace FleetArena

structure Ship (α π : Type) extends Vessel α where
  pilot : π

namespace Ship
variable {α π : Type}

def body (s : Ship α π) : Body α :=
  s.hull.body

def id (s : Ship α π) : ObjectId :=
  s.hull.body.id

def fleet (s : Ship α π) : String :=
  s.hull.fleet

def withBody (s : Ship α π) (body : Body α) : Ship α π :=
  { s with hull := { s.hull with body } }

/-- The ship after its share of the decisions of a tick. Nothing but this ship changes, and the
surroundings are seen only as they were before any ship decided. -/
@[specialize] def decide [Scalar α] [Pilot α π] (s : Ship α π) (tick : Nat) (world : World α) :
    Ship α π :=
  let (vessel, pilot) := Vessel.follow tick world (Pilot.tick tick s.pilot) s.toVessel.begin
  { vessel with pilot }

end Ship
end FleetArena
