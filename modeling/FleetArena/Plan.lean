import FleetArena.Vessel

/-! Plans: what a pilot does in one tick. A plan is a tree of single requests to the vessel; what
follows a request depends on the reply and on nothing else. -/
namespace FleetArena

/-- What a pilot knows of its own vessel without scanning. -/
structure Cockpit (α : Type) where
  tick : Nat
  id : ObjectId
  fleet : String
  /-- The energy that is left in this tick. -/
  energy : α
  loadout : Loadout α

inductive Plan (α β : Type) where
  | done (result : β)
  | look (next : Cockpit α → Plan α β)
  | act (action : Action α) (next : Except (ActionError α) Unit → Plan α β)
  | scan (sensor : Nat) (next : Except (ActionError α) (Reading α) → Plan α β)

namespace Plan
variable {α β γ : Type}

/-- Goes on with a second plan where the first one is done. -/
def andThen : Plan α β → (β → Plan α γ) → Plan α γ
  | done result, f => f result
  | look next, f => .look fun cockpit => (next cockpit).andThen f
  | act action next, f => .act action fun reply => (next reply).andThen f
  | scan sensor next, f => .scan sensor fun reply => (next reply).andThen f

instance : Monad (Plan α) where
  pure := done
  bind := andThen

def cockpit : Plan α (Cockpit α) :=
  look done

def perform (action : Action α) : Plan α (Except (ActionError α) Unit) :=
  act action done

def scanWith (sensor : Nat) : Plan α (Except (ActionError α) (Reading α)) :=
  scan sensor done

/-- Tries every action in order and answers the first failure, if there is one. -/
def tryAll : List (Action α) → Plan α (Except (ActionError α) Unit)
  | [] => done (.ok ())
  | action :: rest =>
    act action fun reply =>
      (tryAll rest).andThen fun later =>
        done (match reply with | .error e => .error e | .ok () => later)

/-- Sets every engine to a fraction of its power. -/
def powerAll (fraction : α) : Plan α (Except (ActionError α) Unit) :=
  look fun cockpit =>
    tryAll ((List.range cockpit.loadout.engines.length).map fun i => .powerOn i fraction)

end Plan

namespace Vessel
variable {α β : Type} [Scalar α]

def cockpit (v : Vessel α) (tick : Nat) : Cockpit α :=
  ⟨tick, v.hull.body.id, v.hull.fleet, v.hull.energy, v.loadout⟩

/-- Follows a plan to its end. -/
@[specialize] def follow (tick : Nat) (world : World α) : Plan α β → Vessel α → Vessel α × β
  | .done result, v => (v, result)
  | .look next, v => follow tick world (next (v.cockpit tick)) v
  | .act action next, v =>
    let (v, reply) := v.act tick action
    follow tick world (next reply) v
  | .scan sensor next, v =>
    let (v, reply) := v.scan world sensor
    follow tick world (next reply) v

end Vessel
end FleetArena
