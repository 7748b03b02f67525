import FleetArena.Plan
import FleetArena.Proofs.Vessel.Ending

/-! The calls of one tick. Each part acts at most once, and a call that fails has no effect but on
the part that it was about and on the energy. -/
namespace FleetArena
variable {α : Type}

/-- A call, and what came of it. -/
structure Attempt (α : Type) where
  before : Vessel α
  call : Call α
  failure : Option (ActionError α)
  after : Vessel α

namespace Vessel

/-- What a failed call does not touch. -/
structure Unmoved (v w : Vessel α) : Prop where
  body : w.hull.body = v.hull.body
  outputs : w.loadout.engines.map (·.output) = v.loadout.engines.map (·.output)
  ammo : w.loadout.weapons.map (·.ammo) = v.loadout.weapons.map (·.ammo)
  lastShots : w.loadout.weapons.map (·.lastShot) = v.loadout.weapons.map (·.lastShot)
  shots : w.shots = v.shots

/-- The part at `p` has acted in this tick, or has tried to. -/
def UsedAt (v : Vessel α) (p : Slot) : Prop :=
  ∃ m, v.loadout.mount? p = some m ∧ m.used = true

theorem unmoved_claim (v : Vessel α) (p : Slot) : v.Unmoved (v.claim p) := by
  have hengine {γ : Type} (g : Engine α → γ) (hg : ∀ e, g e.markUsed = g e) :=
    map_modify_of_forall hg v.loadout.engines p.index
  have hweapon {γ : Type} (g : Weapon α → γ) (hg : ∀ w, g w.markUsed = g w) :=
    map_modify_of_forall hg v.loadout.weapons p.index
  obtain ⟨kind, i⟩ := p
  cases kind with
  | engine => exact ⟨rfl, hengine _ fun _ => rfl, rfl, rfl, rfl⟩
  | thruster => exact ⟨rfl, rfl, rfl, rfl, rfl⟩
  | weapon => exact ⟨rfl, rfl, hweapon _ fun _ => rfl, hweapon _ fun _ => rfl, rfl⟩
  | sensor => exact ⟨rfl, rfl, rfl, rfl, rfl⟩

theorem usedAt_claim {v : Vessel α} {p q : Slot} (h : v.UsedAt q) : (v.claim p).UsedAt q := by
  obtain ⟨m, hm, hused⟩ := h
  have hclaim := v.loadout.mount?_claim p q
  by_cases hpq : p = q
  · rw [if_pos hpq, hm] at hclaim
    exact ⟨m.markUsed, hclaim, rfl⟩
  · rw [if_neg hpq, hm] at hclaim
    exact ⟨m, hclaim, hused⟩

variable [Scalar α]

/-- What a call leaves of a vessel that has failed at the part at `p`. -/
def afterFailure (v : Vessel α) (p : Slot) : ActionError α → Vessel α
  | .noSuchPart _ _ | .alreadyUsed _ => v
  | .invalidPower _ | .invalidDirection _ | .outOfAmmo | .coolingDown _ => v.claim p
  | .outOfEnergy => { v.claim p with hull := { v.hull with energy := 0.0 } }

theorem unmoved_afterFailure (v : Vessel α) (p : Slot) (e : ActionError α) :
    v.Unmoved (v.afterFailure p e) := by
  obtain ⟨hbody, houtputs, hammo, hlast, hshots⟩ := v.unmoved_claim p
  cases e with
  | noSuchPart | alreadyUsed => exact ⟨rfl, rfl, rfl, rfl, rfl⟩
  | invalidPower | invalidDirection | outOfAmmo | coolingDown =>
    exact ⟨hbody, houtputs, hammo, hlast, hshots⟩
  | outOfEnergy => exact ⟨hbody, houtputs, hammo, hlast, hshots⟩

namespace Ends
variable {v w : Vessel α} {p q : Slot} {e : ActionError α} {failure : Option (ActionError α)}

theorem eq_afterFailure (h : v.Ends p (some e) w) : w = v.afterFailure p e := by
  cases h with
  | missing => rfl
  | spent => rfl
  | refused _ _ he => cases he <;> rfl
  | exhausted => rfl

/-- No call makes a used part unused. -/
theorem usedAt (h : v.Ends p failure w) (hq : v.UsedAt q) : w.UsedAt q := by
  have hclaim : (v.claim p).UsedAt q := usedAt_claim hq
  cases h with
  | missing => exact hq
  | spent => exact hq
  | refused => exact hclaim
  | exhausted => exact hclaim
  | done _ _ hmounts =>
    obtain ⟨m, hm, hused⟩ := hclaim
    exact ⟨m, (hmounts q).trans hm, hused⟩

/-- A part that a call has reached is used then, whatever became of the call. -/
theorem usedAt_self (h : v.Ends p failure w)
    (hfound : failure ≠ some (.noSuchPart p.kind p.index)) : w.UsedAt p := by
  have hclaim {m : Mount α} (hm : v.loadout.mount? p = some m) :
      (v.loadout.claim p).mount? p = some m.markUsed := by
    rw [Loadout.mount?_claim, if_pos rfl, hm, Option.map_some]
  cases h with
  | missing => exact absurd rfl hfound
  | spent hm hused => exact ⟨_, hm, hused⟩
  | refused hm => exact ⟨_, hclaim hm, rfl⟩
  | exhausted hm => exact ⟨_, hclaim hm, rfl⟩
  | done hm _ hmounts => exact ⟨_, (hmounts p).trans (hclaim hm), rfl⟩

theorem eq_alreadyUsed (h : v.Ends p failure w) (hp : v.UsedAt p) :
    failure = some (.alreadyUsed p.kind) := by
  obtain ⟨m, hm, hused⟩ := hp
  cases h with
  | missing hnone => simp [hm] at hnone
  | spent => rfl
  | refused hm' hfree => simp_all
  | exhausted hm' hfree => simp_all
  | done hm' hfree => simp_all

end Ends

/-- What came of calls, one after the other. -/
def attempts (tick : Nat) (world : World α) : List (Call α) → Vessel α → List (Attempt α)
  | [], _ => []
  | c :: rest, v =>
    let after := (v.call tick world c).1
    ⟨v, c, v.failure? tick world c, after⟩ :: attempts tick world rest after

theorem attempts_append (tick : Nat) (world : World α) (cs ds : List (Call α)) (v : Vessel α) :
    v.attempts tick world (cs ++ ds) =
      v.attempts tick world cs ++ (v.calls tick world cs).attempts tick world ds := by
  induction cs generalizing v with
  | nil => rfl
  | cons c rest ih => exact congrArg (_ :: ·) (ih _)

variable {tick : Nat} {world : World α}

theorem ends_of_mem_attempts {cs : List (Call α)} {v : Vessel α} :
    ∀ a ∈ v.attempts tick world cs, a.before.Ends a.call.slot a.failure a.after := by
  induction cs generalizing v with
  | nil => exact List.forall_mem_nil _
  | cons c rest ih => exact List.forall_mem_cons.mpr ⟨v.ends_call tick world c, ih⟩

/-- A used part stays used, so that no later call gets it to act. -/
theorem alreadyUsed_of_mem_attempts {cs : List (Call α)} {v : Vessel α} {p : Slot}
    (h : v.UsedAt p) : ∀ a ∈ v.attempts tick world cs, a.call.slot = p →
      a.failure = some (.alreadyUsed p.kind) := by
  induction cs generalizing v with
  | nil => exact List.forall_mem_nil _
  | cons c rest ih =>
    have hends := v.ends_call tick world c
    refine List.forall_mem_cons.mpr ⟨?_, ih (hends.usedAt h)⟩
    rintro rfl
    exact hends.eq_alreadyUsed h

/-- Once a call has reached a part, every later one finds it used. -/
theorem pairwise_attempts (cs : List (Call α)) (v : Vessel α) :
    (v.attempts tick world cs).Pairwise fun a b => b.call.slot = a.call.slot →
      a.failure ≠ some (.noSuchPart a.call.slot.kind a.call.slot.index) →
      b.failure = some (.alreadyUsed a.call.slot.kind) := by
  induction cs generalizing v with
  | nil => exact .nil
  | cons c rest ih =>
    -- the first call against all later ones; those are in order among themselves
    refine List.pairwise_cons.mpr ⟨fun b hb hslot hfound => ?_, ih _⟩
    have hused := (v.ends_call tick world c).usedAt_self hfound
    exact alreadyUsed_of_mem_attempts hused b hb hslot

/-- The parts that act are all different. -/
theorem nodup_slots_attempts (cs : List (Call α)) (v : Vessel α) :
    (((v.attempts tick world cs).filter (·.failure.isNone)).map (·.call.slot)).Nodup := by
  rw [List.Nodup, List.pairwise_map, List.pairwise_filter]
  refine (v.pairwise_attempts cs).imp fun {a b} h ha hb hslot => ?_
  rw [Option.isNone_iff_eq_none] at ha hb
  have hfailed := h hslot.symm (by rw [ha]; simp)
  rw [hb] at hfailed
  cases hfailed

end Vessel

/-- What a pilot may ask of its vessel: a single call, or the same of every engine. -/
inductive Request (α : Type) where
  | call (c : Call α)
  | powerAll (fraction : α)

/-- The calls that a request comes to. -/
def Request.calls (engines : Nat) : Request α → List (Call α)
  | .call c => [c]
  | .powerAll fraction => Vessel.powerCalls (fun _ => fraction) engines

namespace Vessel
variable [Scalar α]

def request (tick : Nat) (world : World α) (v : Vessel α) : Request α → Vessel α
  | .call c => (v.call tick world c).1
  | .powerAll fraction => (v.follow tick world (Plan.powerAll fraction)).1

theorem follow_andThen {β γ : Type} (tick : Nat) (world : World α) (p : Plan α β)
    (f : β → Plan α γ) (v : Vessel α) : v.follow tick world (p.andThen f) =
      (v.follow tick world p).1.follow tick world (f (v.follow tick world p).2) := by
  -- the second plan is asked only after the first has run to its end
  induction p generalizing v with
  | done result => rfl
  | look next ih => exact ih _ v
  | act action next ih => exact ih _ _
  | scan sensor next ih => exact ih _ _

theorem follow_tryAll (tick : Nat) (world : World α) (actions : List (Action α)) (v : Vessel α) :
    (v.follow tick world (Plan.tryAll actions)).1 = v.calls tick world (actions.map .act) := by
  induction actions generalizing v with
  | nil => rfl
  | cons action rest ih =>
    rw [Plan.tryAll, follow]
    dsimp only
    -- what is done with the replies does not matter to the vessel
    rw [follow_andThen]
    exact ih _

theorem commands_andThen {β γ : Type} (tick : Nat) (world : World α) (p : Plan α β)
    (f : β → Plan α γ) (v : Vessel α) : commands tick world (p.andThen f) v =
      commands tick world p v ++
        commands tick world (f (v.follow tick world p).2) (v.follow tick world p).1 := by
  induction p generalizing v with
  | done result => rfl
  | look next ih => exact ih _ v
  | act action next ih => exact congrArg (Call.act action :: ·) (ih _ _)
  | scan sensor next ih => exact congrArg (Call.scan sensor :: ·) (ih _ _)

/-- Every action is tried, whatever became of those before it. -/
theorem commands_tryAll (tick : Nat) (world : World α) (actions : List (Action α)) (v : Vessel α) :
    commands tick world (Plan.tryAll actions) v = actions.map .act := by
  induction actions generalizing v with
  | nil => rfl
  | cons action rest ih =>
    rw [Plan.tryAll, commands, commands_andThen, ih]
    exact congrArg (Call.act action :: ·) (List.append_nil _)

/-- The reply to actions that are all tried is the first failure. -/
theorem failure?_follow_tryAll (tick : Nat) (world : World α) (actions : List (Action α))
    (v : Vessel α) : FleetArena.failure? (v.follow tick world (Plan.tryAll actions)).2 =
      (v.attempts tick world (actions.map .act)).findSome? (·.failure) := by
  induction actions generalizing v with
  | nil => rfl
  | cons action rest ih =>
    rw [Plan.tryAll, follow]
    dsimp only
    rw [follow_andThen, List.map_cons, attempts, List.findSome?_cons]
    cases hreply : (v.act tick action).2 with
    | error e => simp [failure?, FleetArena.failure?, hreply, follow]
    | ok =>
      simp only [failure?, FleetArena.failure?, hreply, follow]
      exact ih _

theorem length_engines_call (v : Vessel α) (tick : Nat) (world : World α) (c : Call α) :
    (v.call tick world c).1.loadout.engines.length = v.loadout.engines.length := by
  have hhandled := v.handled_call tick world c
  generalize (v.call tick world c).1.loadout = loadout at hhandled ⊢
  generalize (v.call tick world c).1.hull.body.mass = mass at hhandled
  cases hhandled with
  | engine => exact List.length_set
  | untouched | thruster | weapon | shot | sensor => rfl

theorem length_engines_calls (tick : Nat) (world : World α) (cs : List (Call α)) (v : Vessel α) :
    (v.calls tick world cs).loadout.engines.length = v.loadout.engines.length := by
  induction cs generalizing v with
  | nil => rfl
  | cons c rest ih => exact (ih _).trans (v.length_engines_call tick world c)

theorem request_eq_calls (tick : Nat) (world : World α) (v : Vessel α) (r : Request α) :
    v.request tick world r = v.calls tick world (r.calls v.loadout.engines.length) := by
  cases r with
  | call c => rfl
  | powerAll fraction =>
    rw [request, Plan.powerAll, follow, follow_tryAll, List.map_map]
    rfl

theorem requests_eq_calls (tick : Nat) (world : World α) (rs : List (Request α)) (v : Vessel α) :
    rs.foldl (request tick world) v =
      v.calls tick world (rs.flatMap (·.calls v.loadout.engines.length)) := by
  induction rs generalizing v with
  | nil => rfl
  | cons r rest ih =>
    -- the number of the engines is the same after every request
    have hlength : (v.request tick world r).loadout.engines.length =
        v.loadout.engines.length := by
      rw [request_eq_calls, length_engines_calls]
    rw [List.foldl_cons, ih, hlength, List.flatMap_cons, calls_append, request_eq_calls]

/-- Whatever a pilot asks of its vessel within a tick comes to single calls, and each of them that
fails leaves just what `afterFailure` says, so that the body, the outputs, the ammunition and what
has been fired are as before. Once a call has reached a part, every later call finds it used, and
no part acts twice. -/
theorem acts_once (v : Vessel α) (tick : Nat) (world : World α) (rs : List (Request α)) :
    let cs := rs.flatMap (·.calls v.loadout.engines.length)
    let as := v.attempts tick world cs
    rs.foldl (request tick world) v = v.calls tick world cs ∧
      (∀ a ∈ as, ∀ e, a.failure = some e →
        a.after = a.before.afterFailure a.call.slot e ∧ a.before.Unmoved a.after) ∧
      (as.Pairwise fun a b => b.call.slot = a.call.slot →
        a.failure ≠ some (.noSuchPart a.call.slot.kind a.call.slot.index) →
        b.failure = some (.alreadyUsed a.call.slot.kind)) ∧
      ((as.filter (·.failure.isNone)).map (·.call.slot)).Nodup := by
  intro cs as
  refine ⟨requests_eq_calls tick world rs v, ?_, v.pairwise_attempts cs, v.nodup_slots_attempts cs⟩
  intro a ha e he
  have hends := ends_of_mem_attempts a ha
  rw [he] at hends
  rw [hends.eq_afterFailure]
  exact ⟨rfl, a.before.unmoved_afterFailure a.call.slot e⟩

end Vessel
end FleetArena
