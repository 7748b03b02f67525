import FleetArena.Proofs.Vessel.Attempts

/-! How a plan treats the parts of its vessel. A plan is well conducted if every call finds a part
that is ready and able, and it is known which kinds of parts it leaves untouched. -/
namespace FleetArena
variable {α β γ : Type}

/-- A call that has succeeded, or that has failed for lack of energy or of a direction. -/
def Blameless (failure : Option (ActionError α)) : Prop :=
  failure = none ∨ failure = some .outOfEnergy ∨ ∃ d, failure = some (.invalidDirection d)

namespace Vessel

/-- The part at `p` is there, and has not been tried in this tick. -/
def FreeAt (v : Vessel α) (p : Slot) : Prop :=
  ∃ m, v.loadout.mount? p = some m ∧ m.used = false

/-- No part of these kinds has been tried in this tick. -/
def Ready (kinds : List PartKind) (v : Vessel α) : Prop :=
  ∀ p m, p.kind ∈ kinds → v.loadout.mount? p = some m → m.used = false

theorem Ready.mono {kinds kinds' : List PartKind} {v : Vessel α} (h : v.Ready kinds)
    (hsub : kinds' ⊆ kinds) : v.Ready kinds' :=
  fun p m hp => h p m (hsub hp)

theorem Ready.freeAt {kinds : List PartKind} {v : Vessel α} {p : Slot} (h : v.Ready kinds)
    (hp : p.kind ∈ kinds) (hmount : v.loadout.mount? p ≠ none) : v.FreeAt p := by
  obtain ⟨m, hm⟩ := Option.ne_none_iff_exists'.mp hmount
  exact ⟨m, hm, h p m hp hm⟩

variable [Scalar α] {v w : Vessel α} {p q : Slot} {failure : Option (ActionError α)}

theorem ready_begin (v : Vessel α) (kinds : List PartKind) : v.begin.Ready kinds := by
  rintro ⟨kind, i⟩ m - hm
  have hreleased {β : Type} (xs : List β) (release : β → β) (mount : β → Mount α)
      (hrelease : ∀ x, (mount (release x)).used = false)
      (hx : (xs.map release)[i]?.map mount = some m) : m.used = false := by
    rw [List.getElem?_map, Option.map_map] at hx
    obtain ⟨x, -, rfl⟩ := Option.map_eq_some_iff.mp hx
    exact hrelease x
  cases kind with
  | engine => exact hreleased v.loadout.engines Engine.release _ (fun _ => rfl) hm
  | thruster => exact hreleased v.loadout.thrusters Thruster.release _ (fun _ => rfl) hm
  | weapon => exact hreleased v.loadout.weapons Weapon.release _ (fun _ => rfl) hm
  | sensor => exact hreleased v.loadout.sensors Sensor.release _ (fun _ => rfl) hm

namespace Ends

/-- A call has no effect on the mounts of other parts. -/
theorem mount?_of_ne (h : v.Ends p failure w) (hne : p ≠ q) :
    w.loadout.mount? q = v.loadout.mount? q := by
  have hclaim : (v.loadout.claim p).mount? q = v.loadout.mount? q := by
    rw [Loadout.mount?_claim, if_neg hne]
  cases h with
  | missing => rfl
  | spent => rfl
  | refused => exact hclaim
  | exhausted => exact hclaim
  | done _ _ hmounts => exact (hmounts q).trans hclaim

theorem freeAt_of_ne (h : v.Ends p failure w) (hne : p ≠ q) (hq : v.FreeAt q) : w.FreeAt q := by
  rw [FreeAt, h.mount?_of_ne hne]
  exact hq

theorem ready (h : v.Ends p failure w) {kinds : List PartKind} (hp : p.kind ∉ kinds)
    (hv : v.Ready kinds) : w.Ready kinds := by
  intro q m hq hm
  have hne : p ≠ q := fun heq => hp (heq ▸ hq)
  rw [h.mount?_of_ne hne] at hm
  exact hv q m hq hm

/-- Only a part that is free does not take the blame. -/
theorem freeAt_of_blameless (h : v.Ends p failure w) (hfailure : Blameless failure) :
    v.FreeAt p := by
  cases h with
  | missing => simp [Blameless] at hfailure
  | spent => simp [Blameless] at hfailure
  | refused hm hfree => exact ⟨_, hm, hfree⟩
  | exhausted hm hfree => exact ⟨_, hm, hfree⟩
  | done hm hfree => exact ⟨_, hm, hfree⟩

end Ends

variable {tick : Nat} {world : World α} {cs : List (Call α)} {kinds : List PartKind}

theorem Ready.calls (h : v.Ready kinds) (hcs : ∀ c ∈ cs, c.slot.kind ∉ kinds) :
    (v.calls tick world cs).Ready kinds := by
  induction cs generalizing v with
  | nil => exact h
  | cons c rest ih =>
    obtain ⟨hc, hrest⟩ := List.forall_mem_cons.mp hcs
    exact ih ((v.ends_call tick world c).ready hc h) hrest

/-- Calls of different parts that are free all find them so. -/
theorem blameless_attempts (hnodup : (cs.map Call.slot).Nodup) (hfree : ∀ c ∈ cs, v.FreeAt c.slot)
    (hcs : ∀ c ∈ cs, ∀ w : Vessel α, w.FreeAt c.slot → Blameless (w.failure? tick world c)) :
    ∀ a ∈ v.attempts tick world cs, Blameless a.failure := by
  induction cs generalizing v with
  | nil => exact List.forall_mem_nil _
  | cons c rest ih =>
    obtain ⟨hc, hnodup⟩ := List.nodup_cons.mp hnodup
    obtain ⟨hfirst, hfree⟩ := List.forall_mem_cons.mp hfree
    obtain ⟨hblameless, hcs⟩ := List.forall_mem_cons.mp hcs
    refine List.forall_mem_cons.mpr ⟨hblameless v hfirst, ih hnodup (fun d hd => ?_) hcs⟩
    -- the parts that are still to come are others
    have hne : c.slot ≠ d.slot := fun heq => hc (heq ▸ List.mem_map_of_mem hd)
    exact (v.ends_call tick world c).freeAt_of_ne hne (hfree d hd)

theorem map_call_attempts (tick : Nat) (world : World α) (cs : List (Call α)) (v : Vessel α) :
    (v.attempts tick world cs).map (·.call) = cs := by
  induction cs generalizing v with
  | nil => rfl
  | cons c rest ih => exact congrArg (c :: ·) (ih _)

/-- Where no call is to blame, no two are of the same part. -/
theorem nodup_slots_of_blameless (h : ∀ a ∈ v.attempts tick world cs, Blameless a.failure) :
    (cs.map Call.slot).Nodup := by
  have hslots : cs.map Call.slot = (v.attempts tick world cs).map (·.call.slot) := by
    conv_lhs => rw [← map_call_attempts tick world cs v]
    exact List.map_map
  rw [hslots, List.Nodup, List.pairwise_map]
  refine (v.pairwise_attempts cs).imp_of_mem fun {a b} ha hb hpair hslot => ?_
  have hfound : a.failure ≠ some (.noSuchPart a.call.slot.kind a.call.slot.index) := by
    intro hmissing
    have ha := h a ha
    simp [hmissing, Blameless] at ha
  have hb := h b hb
  simp [hpair hslot.symm hfound, Blameless] at hb

/-- A plan is well conducted from `v` on: no call is to blame, and the parts of the kinds that are
to be left for the result are ready then. -/
structure Conducts (v : Vessel α) (tick : Nat) (world : World α) (plan : Plan α β)
    (left : β → List PartKind) : Prop where
  blameless : ∀ a ∈ v.attempts tick world (commands tick world plan v), Blameless a.failure
  ready : (v.follow tick world plan).1.Ready (left (v.follow tick world plan).2)

namespace Conducts
variable {plan : Plan α β} {left : β → List PartKind}

theorem done {x : β} (h : v.Ready (left x)) : v.Conducts tick world (.done x) left :=
  ⟨List.forall_mem_nil _, h⟩

theorem look {next : Cockpit α → Plan α β}
    (h : v.Conducts tick world (next (v.cockpit tick)) left) :
    v.Conducts tick world (.look next) left :=
  ⟨h.blameless, h.ready⟩

theorem cockpit {f : Cockpit α → Plan α β} (h : v.Conducts tick world (f (v.cockpit tick)) left) :
    v.Conducts tick world (Plan.cockpit >>= f) left :=
  look h

/-- The second plan may use what the first one has left. -/
theorem bind {f : β → Plan α γ} {left' : γ → List PartKind} (h : v.Conducts tick world plan left)
    (hf : ∀ x (w : Vessel α), w.Ready (left x) → w.Conducts tick world (f x) left') :
    v.Conducts tick world (plan >>= f) left' := by
  have hrest := hf _ _ h.ready
  have hfollow := follow_andThen tick world plan f v
  constructor
  · have hcommands := commands_andThen tick world plan f v
    change ∀ a ∈ v.attempts tick world (commands tick world (plan.andThen f) v), _
    rw [hcommands, attempts_append, ← fst_follow]
    exact List.forall_mem_append.mpr ⟨h.blameless, hrest.blameless⟩
  · change (v.follow tick world (plan.andThen f)).1.Ready
      (left' (v.follow tick world (plan.andThen f)).2)
    rw [hfollow]
    exact hrest.ready

theorem perform {action : Action α} (hready : v.Ready kinds)
    (hkind : (Call.act action).slot.kind ∉ kinds)
    (hblameless : Blameless (v.failure? tick world (.act action))) :
    v.Conducts tick world (Plan.perform action) fun _ => kinds :=
  ⟨List.forall_mem_singleton.mpr hblameless,
    (v.ends_call tick world (.act action)).ready hkind hready⟩

theorem scanWith {i : Nat} (hready : v.Ready kinds) (hkind : .sensor ∉ kinds)
    (hblameless : Blameless (v.failure? tick world (.scan i))) :
    v.Conducts tick world (Plan.scanWith i) fun _ => kinds :=
  ⟨List.forall_mem_singleton.mpr hblameless, (v.ends_call tick world (.scan i)).ready hkind hready⟩

/-- The same is tried of each of the parts of a kind. -/
theorem tryEach {kind : PartKind} {action : Nat → Action α} {n : Nat}
    (hready : v.Ready (kind :: kinds)) (hkind : kind ∉ kinds)
    (hslot : ∀ i, (Call.act (action i)).slot = ⟨kind, i⟩)
    (hmount : ∀ i < n, v.loadout.mount? ⟨kind, i⟩ ≠ none)
    (hblameless : ∀ i (w : Vessel α), w.FreeAt ⟨kind, i⟩ →
      Blameless (w.failure? tick world (.act (action i)))) :
    v.Conducts tick world (Plan.tryAll ((List.range n).map action)) fun _ => kinds := by
  have hcs : ((List.range n).map action).map Call.act =
      (List.range n).map fun i => .act (action i) := List.map_map
  constructor
  · rw [commands_tryAll, hcs]
    apply blameless_attempts
    · have hslots : ((List.range n).map fun i => Call.act (action i)).map Call.slot =
          (List.range n).map (Slot.mk kind) := by
        rw [List.map_map]
        exact List.map_congr_left fun i _ => hslot i
      rw [hslots]
      exact List.nodup_range.map fun i j hij => congrArg Slot.index hij
    · refine List.forall_mem_map.mpr fun i hi => ?_
      rw [hslot]
      exact hready.freeAt (List.mem_cons_self ..) (hmount i (List.mem_range.mp hi))
    · refine List.forall_mem_map.mpr fun i _ w hw => ?_
      rw [hslot] at hw
      exact hblameless i w hw
  · rw [follow_tryAll, hcs]
    refine (hready.mono (List.subset_cons_self ..)).calls (List.forall_mem_map.mpr fun i _ => ?_)
    rwa [hslot]

end Conducts
end Vessel
end FleetArena
