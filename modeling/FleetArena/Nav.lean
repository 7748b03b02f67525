import FleetArena.Plan

/-! Navigation: a queue of waypoints, flown to one after the other. Each tick every thruster is
asked for an equal share of the acceleration that turns the velocity towards the waypoint. -/
namespace FleetArena

/-- A point to fly to. -/
structure Waypoint (α : Type) where
  position : Vec3 α
  /-- The cruise speed on the way there. -/
  maxSpeed : α
  /-- A ship that is closer than this has arrived. -/
  tolerance : α
deriving Repr, DecidableEq

/-- What the navigator decides in a tick. -/
inductive Steer (α : Type) where
  /-- There is no waypoint. -/
  | idle
  /-- The waypoint was reached and dropped. -/
  | arrived (waypoint : Waypoint α)
  /-- The acceleration asked of the ship. -/
  | thrust (acceleration : Vec3 α)
deriving Repr, DecidableEq

structure Nav (α : Type) where
  /-- The waypoints behind the current one. -/
  queue : List (Waypoint α)
  current : Option (Waypoint α)
  /-- How much acceleration corrects one unit of velocity error. -/
  gain : α
deriving Repr, DecidableEq

namespace Nav
variable {α : Type}

def ofGain (gain : α) : Nav α :=
  ⟨[], none, gain⟩

/-- A navigator of gain one. -/
def standard [Scalar α] : Nav α :=
  ofGain 1.0

/-- Replaces the current waypoint and keeps the queue. -/
def setWaypoint (n : Nav α) (w : Waypoint α) : Nav α :=
  { n with current := some w }

/-- Puts a waypoint behind all others. -/
def addWaypoint (n : Nav α) (w : Waypoint α) : Nav α :=
  { n with queue := n.queue ++ [w] }

def clear (n : Nav α) : Nav α :=
  { n with queue := [], current := none }

def isIdle (n : Nav α) : Bool :=
  n.current.isNone && n.queue.isEmpty

/-- Makes the head of the queue current if nothing is. -/
def advance (n : Nav α) : Nav α :=
  match n.current, n.queue with
  | none, w :: queue => { n with queue, current := some w }
  | _, _ => n

variable [Scalar α]

/-- Decides for a ship at `position` with `velocity`. -/
@[specialize] def steer (n : Nav α) (position velocity : Vec3 α) : Nav α × Steer α :=
  let n := n.advance
  match n.current with
  | none => (n, .idle)
  | some w =>
    let offset := w.position - position
    if offset.length < w.tolerance then ({ n with current := none }, .arrived w)
    else
      let desired := (offset.normalize?.getD .zero) * w.maxSpeed
      (n, .thrust ((desired - velocity) * n.gain))

/-- Decides, and fires the thrusters. Every thruster is tried even if an earlier one fails, and the
first failure is the answer. -/
@[specialize] def fly (n : Nav α) (position velocity : Vec3 α) :
    Plan α (Nav α × Except (ActionError α) (Steer α)) :=
  match n.steer position velocity with
  | (n, .thrust acceleration) =>
    .look fun cockpit =>
      let count := cockpit.loadout.thrusters.length
      let share := acceleration / (Scalar.ofNat count : α)
      (Plan.tryAll ((List.range count).map fun i => .thrust i share)).andThen fun reply =>
        .done (n, reply.map fun () => .thrust acceleration)
  | (n, steer) => .done (n, .ok steer)

end Nav
end FleetArena
