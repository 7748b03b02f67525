import FleetArena.Pilot.Stock
import FleetArena.Proofs.Pilot.Cruise
import FleetArena.Proofs.Vessel.Conduct
import FleetArena.Proofs.Vessel.Steering

/-! The stock pilots use their parts with care. Whatever parts a ship has, and whatever is in sight,
they call no part that is not there and none twice, and what they ask for can fail for lack of
energy or of a direction alone. -/
namespace FleetArena
variable {α : Type} [Scalar α] {v : Vessel α} {tick : Nat} {world : World α} {i : Nat}

namespace Vessel

theorem blameless_powerOn (hone : (0.0 : α) ≤ 1.0 ∧ (1.0 : α) ≤ 1.0) (h : v.FreeAt ⟨.engine, i⟩) :
    Blameless (v.failure? tick world (.act (.powerOn i 1.0))) := by
  obtain ⟨m, hm, hfree⟩ := h
  obtain ⟨e, he, rfl⟩ := Option.map_eq_some_iff.mp hm
  apply Or.inl
  simp [failure?, act, he, Engine.powerOn, hfree, hone, FleetArena.failure?]

theorem blameless_thrust (h : v.FreeAt ⟨.thruster, i⟩) (direction : Vec3 α) :
    Blameless (v.failure? tick world (.act (.thrust i direction))) := by
  obtain ⟨m, hm, hfree⟩ := h
  obtain ⟨t, ht, rfl⟩ := Option.map_eq_some_iff.mp hm
  simp only [failure?, act, ht]
  by_cases hfinite : direction.isFinite = true
  · exact (t.failure?_thrust hfree hfinite v.hull).imp_right Or.inl
  · refine Or.inr (Or.inr ⟨direction, ?_⟩)
    simp [Thruster.thrust, hfree, hfinite, FleetArena.failure?]

/-- What no part has refused is a matter of energy alone. -/
theorem blameless_spend (h : Hull α) (amount : α) :
    Blameless (FleetArena.failure? (h.spend amount).2) := by
  rcases h.spend_cases amount with hs | ⟨h', hs⟩
  · rw [hs]
    exact Or.inr (Or.inl rfl)
  · rw [hs]
    exact Or.inl rfl

theorem blameless_scan (h : v.FreeAt ⟨.sensor, i⟩) :
    Blameless (v.failure? tick world (.scan i)) := by
  obtain ⟨m, hm, hfree⟩ := h
  obtain ⟨s, hs, rfl⟩ := Option.map_eq_some_iff.mp hm
  have hscan : v.failure? tick world (.scan i) =
      FleetArena.failure? (v.hull.spend s.energy).2 := by
    simp only [failure?, scan, hs, Sensor.scan, hfree, Bool.false_eq_true, if_false]
    rcases v.hull.spend s.energy with ⟨hull, e | u⟩ <;> rfl
  rw [hscan]
  exact blameless_spend _ _

theorem blameless_fire {w : Weapon α} (hw : v.loadout.weapons[i]? = some w)
    (hfree : w.mount.used = false) (hammo : w.ammo ≠ 0) (hcool : w.cooldownRemaining? tick = none)
    (direction : Vec3 α) : Blameless (v.failure? tick world (.act (.fire i direction))) := by
  have hcool' : ({ w with mount := w.mount.markUsed } : Weapon α).cooldownRemaining? tick = none :=
    hcool
  cases hunit : direction.direction? with
  | none =>
    refine Or.inr (Or.inr ⟨direction, ?_⟩)
    simp [failure?, act, hw, Weapon.fire, hfree, hunit, FleetArena.failure?]
  | some unit =>
    have hfire : v.failure? tick world (.act (.fire i direction)) =
        FleetArena.failure? (v.hull.spend w.energy).2 := by
      simp only [failure?, act, hw, Weapon.fire, hfree, hunit, hammo, hcool', Bool.false_eq_true,
        if_false]
      rcases v.hull.spend w.energy with ⟨hull, e | u⟩ <;> rfl
    rw [hfire]
    exact blameless_spend _ _

theorem conducts_powerAll (hone : (0.0 : α) ≤ 1.0 ∧ (1.0 : α) ≤ 1.0)
    (hv : v.Ready [.engine, .sensor, .thruster, .weapon]) :
    v.Conducts tick world (Plan.powerAll 1.0) fun _ => [.sensor, .thruster, .weapon] := by
  apply Conducts.look
  apply Conducts.tryEach hv (by decide) fun i => rfl
  · intro i hi
    simpa [Loadout.mount?, cockpit] using hi
  · exact fun i w hw => blameless_powerOn hone hw

theorem conducts_scan (hv : v.Ready [.sensor, .thruster, .weapon])
    (hsensors : v.loadout.sensors.isEmpty ≠ true) :
    v.Conducts tick world (Plan.scanWith 0) fun _ => [.thruster, .weapon] := by
  apply Conducts.scanWith (hv.mono (List.subset_cons_self ..)) (by decide)
  apply blameless_scan
  apply hv.freeAt (List.mem_cons_self ..)
  simpa [Loadout.mount?] using hsensors

/-- A plan that sets the engines, then scans with the first sensor, and does nothing more where this
is not possible. -/
theorem conducts_survey {β : Type} (hone : (0.0 : α) ≤ 1.0 ∧ (1.0 : α) ≤ 1.0)
    (hv : v.Ready [.engine, .sensor, .thruster, .weapon]) {result : β} {next : Reading α → Plan α β}
    (hnext : ∀ reading (w : Vessel α), w.Ready [.thruster, .weapon] →
      w.Conducts tick world (next reading) fun _ => []) :
    v.Conducts tick world (do
      let _ ← Plan.powerAll 1.0
      let cockpit ← Plan.cockpit
      if cockpit.loadout.sensors.isEmpty then return result
      else
        match ← Plan.scanWith 0 with
        | .error _ => return result
        | .ok reading => next reading) fun _ => [] := by
  refine (conducts_powerAll hone hv).bind fun _ w hw => ?_
  apply Conducts.cockpit
  split
  · exact .done (hw.mono (List.nil_subset _))
  rename_i hsensors
  refine (conducts_scan hw hsensors).bind fun reply u hu => ?_
  cases reply with
  | error e => exact .done (hu.mono (List.nil_subset _))
  | ok reading => exact hnext reading u hu

end Vessel

open Vessel

/-- The parts that a navigator leaves untouched. It calls the thrusters only on the way to a
waypoint. -/
def Nav.spared : Except (ActionError α) (Steer α) → List PartKind
  | .ok .idle | .ok (.arrived _) => [.thruster, .weapon]
  | .ok (.thrust _) | .error _ => [.weapon]

omit [Scalar α] in
theorem Nav.spared_subset (result : Except (ActionError α) (Steer α)) :
    spared result ⊆ [.thruster, .weapon] := by
  match result with
  | .ok .idle | .ok (.arrived _) => exact List.Subset.refl _
  | .ok (.thrust _) | .error _ => exact List.subset_cons_self ..

theorem Nav.conducts_fly (n : Nav α) (position velocity : Vec3 α)
    (hv : v.Ready [.thruster, .weapon]) :
    v.Conducts tick world (n.fly position velocity) fun flown => spared flown.2 := by
  cases hdestination : n.destination? position with
  | none =>
    obtain ⟨n', steer, hdone⟩ := fly_of_none hdestination velocity
    rw [hdone]
    exact .done (hv.mono (spared_subset _))
  | some w =>
    have hfly := fly_of_some hdestination velocity
    rw [hfly]
    apply Conducts.look
    refine Conducts.bind (Conducts.tryEach hv (by decide) (fun i => rfl) ?_ ?_) ?_
    · intro i hi
      simpa [Loadout.mount?, cockpit] using hi
    · exact fun i w hw => blameless_thrust hw _
    · intro reply u hu
      apply Conducts.done
      cases reply <;> exact hu

theorem Idle.conducts_plan (hone : (0.0 : α) ≤ 1.0 ∧ (1.0 : α) ≤ 1.0) (p : Idle)
    (hv : v.Ready [.engine, .sensor, .thruster, .weapon]) :
    v.Conducts tick world p.plan fun _ => [] :=
  (conducts_powerAll hone hv).bind fun _ _ hw => .done (hw.mono (List.nil_subset _))

theorem Wanderer.conducts_plan (hone : (0.0 : α) ≤ 1.0 ∧ (1.0 : α) ≤ 1.0) (p : Wanderer α)
    (hv : v.Ready [.engine, .sensor, .thruster, .weapon]) :
    v.Conducts tick world p.plan fun _ => [] := by
  apply conducts_survey hone hv
  intro reading w hw
  refine (Nav.conducts_fly _ _ _ hw).bind fun flown u hu => ?_
  exact .done (hu.mono (List.nil_subset _))

namespace Hunter

theorem conducts_hold (reading : Reading α) (hv : v.Ready [.thruster, .weapon]) :
    v.Conducts tick world (hold reading) fun _ => [.weapon] := by
  have hweapons : v.Ready [.weapon] := hv.mono (List.subset_cons_self ..)
  apply Conducts.cockpit
  split
  · exact .done hweapons
  · rename_i hthrusters
    refine (Conducts.perform hweapons ?_ ?_).bind fun _ w hw => .done hw
    · simp [Call.slot]
    · apply blameless_thrust
      apply hv.freeAt (List.mem_cons_self ..)
      simpa [Loadout.mount?, cockpit] using hthrusters

theorem conducts_settle (reading : Reading α) (result : Except (ActionError α) (Steer α))
    (hv : v.Ready (Nav.spared result)) :
    v.Conducts tick world (settle reading result) fun _ => [.weapon] := by
  match result with
  | .ok .idle | .ok (.arrived _) => exact conducts_hold reading hv
  | .ok (.thrust _) | .error _ => exact .done hv

/-- A hunter asks a weapon to fire only if it has rounds and has cooled down. -/
theorem conducts_attack (reading : Reading α) (hv : v.Ready [.weapon]) :
    v.Conducts tick world (attack reading) fun _ => [] := by
  have hnone : v.Ready [] := hv.mono (List.nil_subset _)
  apply Conducts.cockpit
  split
  · exact .done hnone
  rename_i weapon hweapon
  split
  · exact .done hnone
  · refine (Conducts.perform hnone List.not_mem_nil ?_).bind fun _ w hw => .done hw
    obtain ⟨hhead, hready⟩ := Option.filter_eq_some_iff.mp hweapon
    rw [cockpit, List.head?_eq_getElem?] at hhead
    simp only [isReady, Bool.and_eq_true, bne_iff_ne, Option.isNone_iff_eq_none] at hready
    have hfree : weapon.mount.used = false :=
      hv ⟨.weapon, 0⟩ _ (List.mem_singleton_self _) (by simp [Loadout.mount?, hhead])
    exact blameless_fire hhead hfree hready.1.1 hready.1.2 _

theorem conducts_plan (hone : (0.0 : α) ≤ 1.0 ∧ (1.0 : α) ≤ 1.0) (p : Hunter α)
    (hv : v.Ready [.engine, .sensor, .thruster, .weapon]) :
    v.Conducts tick world p.plan fun _ => [] := by
  apply conducts_survey hone hv
  intro reading w hw
  -- the thrusters are for the navigator, and for holding the position if it spares them
  refine (Nav.conducts_fly _ _ _ hw).bind fun flown u hu => ?_
  refine (conducts_settle reading flown.2 hu).bind fun _ x hx => ?_
  exact (conducts_attack reading hx).bind fun _ y hy => .done hy

/-- A hunter does not hold its position in a tick in which its navigator has called a thruster. -/
theorem fly_or_settle (n : Nav α) (reading : Reading α) (v : Vessel α) (tick : Nat)
    (world : World α) :
    let flight := n.fly reading.position reading.velocity
    let flown := v.follow tick world flight
    commands tick world flight v = [] ∨
      commands tick world (settle reading flown.2.2) flown.1 = [] := by
  intro flight flown
  cases hdestination : n.destination? reading.position with
  | none =>
    obtain ⟨n', steer, hdone⟩ := Nav.fly_of_none hdestination reading.velocity
    apply Or.inl
    rw [show flight = _ from hdone, commands]
  | some w =>
    have hfly := Nav.fly_of_some hdestination reading.velocity
    have hresult : ∃ (reply : Except (ActionError α) Unit) (acceleration : Vec3 α),
        flown.2.2 = reply.map fun () => .thrust acceleration := by
      simp only [flown, flight, hfly, follow, follow_andThen]
      exact ⟨_, _, rfl⟩
    obtain ⟨reply, acceleration, hreply⟩ := hresult
    apply Or.inr
    rw [hreply]
    cases reply <;> rfl

end Hunter

theorem StockPilot.conducts_plan (hone : (0.0 : α) ≤ 1.0 ∧ (1.0 : α) ≤ 1.0) (p : StockPilot α)
    (hv : v.Ready [.engine, .sensor, .thruster, .weapon]) :
    v.Conducts tick world p.plan fun _ => [] := by
  cases p with
  | idle p => exact (p.conducts_plan hone hv).bind fun _ _ hw => .done hw
  | wanderer p => exact (p.conducts_plan hone hv).bind fun _ _ hw => .done hw
  | hunter p => exact (p.conducts_plan hone hv).bind fun _ _ hw => .done hw

namespace Ship

/-- The stock pilots never misuse the parts of their ships. In every tick, each call is of a part
that is there and has not been called before in the tick, no two are of the same part, and none
fails but for lack of energy or of a direction. A hunter holds its position only if its navigator
has called no thruster. -/
theorem disciplined_decide (hone : (0.0 : α) ≤ 1.0 ∧ (1.0 : α) ≤ 1.0) (s : Ship α (StockPilot α))
    (tick : Nat) (world : World α) :
    (s.decide tick world).toVessel = s.toVessel.begin.calls tick world (s.commands tick world) ∧
      ((s.commands tick world).map Call.slot).Nodup ∧
      (∀ a ∈ s.attempts tick world, a.before.FreeAt a.call.slot ∧
        (a.failure = none ∨ a.failure = some .outOfEnergy ∨
          ∃ d, a.failure = some (.invalidDirection d))) ∧
      ∀ (n : Nav α) (reading : Reading α) (v : Vessel α),
        let flight := n.fly reading.position reading.velocity
        let flown := v.follow tick world flight
        Vessel.commands tick world flight v = [] ∨
          Vessel.commands tick world (Hunter.settle reading flown.2.2) flown.1 = [] := by
  have hready := s.toVessel.ready_begin [.engine, .sensor, .thruster, .weapon]
  have hconducts : s.toVessel.begin.Conducts tick world s.pilot.plan fun _ => [] :=
    s.pilot.conducts_plan hone hready
  refine ⟨s.toVessel_decide tick world, nodup_slots_of_blameless hconducts.blameless,
    fun a ha => ?_, fun n reading v => Hunter.fly_or_settle n reading v tick world⟩
  have hblameless := hconducts.blameless a ha
  exact ⟨(ends_of_mem_attempts a ha).freeAt_of_blameless hblameless, hblameless⟩

open Exact in
/-- A hunter that sees nothing sets its engine, scans, and holds its position. -/
theorem disciplined_decide_of_hunter :
    let mount : Mount Exact := ⟨.zero, real 1, real 1, real 1, false⟩
    let ship : Ship Exact (StockPilot Exact) :=
      { hull := ⟨⟨1, .zero, .zero, real 1, real 3, real 3⟩, "red", real 1, real 0, real 0⟩
        loadout := ⟨[⟨mount, real 1, real 1⟩], [⟨mount, real 1, real 0⟩], [],
          [⟨mount, real 1, real 1⟩]⟩
        shots := []
        pilot := .hunter .standard }
    (ship.commands 0 {}).map Call.slot = [⟨.engine, 0⟩, ⟨.sensor, 0⟩, ⟨.thruster, 0⟩] ∧
      ∀ a ∈ ship.attempts 0 {}, a.before.FreeAt a.call.slot := by
  intro mount ship
  have hone : (0.0 : Exact) ≤ 1.0 ∧ (1.0 : Exact) ≤ 1.0 := by simp
  obtain ⟨-, -, hcareful, -⟩ := disciplined_decide hone ship 0 {}
  refine ⟨?_, fun a ha => (hcareful a ha).1⟩
  simp [commands, ship, Pilot.tick, StockPilot.plan, Hunter.plan, bind, pure, Plan.andThen,
    Plan.powerAll, Plan.tryAll, Plan.cockpit, Plan.scanWith, Vessel.commands, Vessel.cockpit, begin,
    energize, Loadout.release, Loadout.power, Engine.release, Sensor.release, Thruster.release,
    Mount.release, mount, act, Engine.powerOn, scan, Sensor.scan, Hull.spend, Hull.energize,
    Scalar.sum, Mount.markUsed, Call.slot]
  exact ⟨_, rfl, rfl⟩

end Ship
end FleetArena
