import FleetArena.Proofs.Setup.Arena
import FleetArena.Proofs.Setup.WellFormed

/-! What a build accepts. With pilots that take their parts from the catalog a build succeeds for
the valid setups and for no others, and for any other setup it answers the first of the faults. -/
namespace FleetArena
variable {α π δ σ : Type} [Scalar α]

/-- Pilots that leave the choice of the parts to the roster. -/
def Pilot.FollowsRoster (α π : Type) [Scalar α] [Pilot α π] : Prop :=
  ∀ (catalog : Catalog α) (dt : α) (entries : List (RosterPart α)) (pilot : π),
    Pilot.link catalog dt entries pilot = (catalog.link dt entries).map fun parts => (parts, pilot)

theorem vets_addShip (b : Battle α π δ) (fleet : String) (position : Vec3 α) (pilot : π)
    (parts : List (Part α)) :
    Vets (b.addShip fleet position pilot parts) (partsFaults fleet parts) fun added =>
      added = (b.nextId, b.enlisted fleet position pilot parts) := by
  have hvets := vets_checkParts fleet parts
  rw [Battle.addShip]
  rcases b.enlist_cases fleet position pilot parts with ⟨e, hcheck, hrefused⟩ | ⟨hcheck, hadded⟩
  · rw [hcheck] at hvets
    rw [hrefused]
    exact hvets
  · rw [hcheck] at hvets
    rw [hadded]
    exact ⟨hvets.1, rfl⟩

namespace Registry
variable {m : Type → Type}

theorem factory?_isSome_iff (r : Registry m π) (name : String) :
    (r.factory? name).isSome = true ↔ name ∈ r.names := by
  simp [factory?, names]

omit [Scalar α] in
theorem always_create (r : Registry (StateM σ) π) (name : String) (seed : Nat) :
    Always (r.create name seed : ExceptT (SetupError α) (StateM σ) π)
      (blame (name ∉ r.names) (.unknownPilot name)) fun _ => True := by
  intro t
  rw [blame, create]
  cases hfactory : r.factory? name with
  | none =>
    have hname : name ∉ r.names := by
      rw [← factory?_isSome_iff, hfactory]
      exact Bool.false_ne_true
    rw [if_pos hname]
    rfl
  | some factory =>
    have hname : name ∈ r.names := by
      rw [← factory?_isSome_iff, hfactory]
      rfl
    rw [if_neg (not_not.mpr hname)]
    exact .pure trivial

end Registry

namespace Setup
variable {s : Setup α (StateM σ) π δ}

/-- A battle in the making: it has the settings of the setup, and the next number is above those of
all ships. -/
structure Raises (s : Setup α (StateM σ) π δ) (b : Battle α π δ) : Prop where
  settings : b.settings = s.settings
  ids : ∀ ship ∈ b.ships, ship.id < b.nextId

theorem IsArena.raises {b : Battle α π δ} (h : s.IsArena b) : s.Raises b := by
  rw [h.rest]
  exact ⟨rfl, List.forall_mem_nil _⟩

omit [Scalar α] in
/-- A new ship is found by its number. -/
theorem ship?_append {b c : Battle α π δ} {ship : Ship α π}
    (hids : ∀ ship ∈ b.ships, ship.id < b.nextId) (hc : c.ships = b.ships ++ [ship])
    (hid : ship.id = b.nextId) : c.ship? b.nextId = some ship := by
  have hnone : b.ships.find? (·.id == b.nextId) = none := by
    rw [List.find?_eq_none]
    intro x hx
    rw [beq_iff_eq]
    exact Nat.ne_of_lt (hids x hx)
  rw [Battle.ship?, hc, List.find?_append, hnone, Option.none_or, List.find?_cons, hid,
    beq_self_eq_true]

variable [Pilot α π]

theorem always_deploy (hroster : Pilot.FollowsRoster α π) (fleet : String) (origin : Vec3 α)
    {state : Battle α π δ × α} (hb : s.Raises state.1) (ship : RosterShip α) :
    Always (s.deploy fleet origin state ship) (s.shipFaults fleet ship) fun state' =>
      s.Raises state'.1 ∧ state'.2 = state.2 + (Loadout.ofParts (s.partsOf ship)).mass := by
  obtain ⟨b, mass⟩ := state
  have hdt : b.dt = s.settings.tickSeconds := congrArg Settings.tickSeconds hb.settings
  simp only [shipFaults, List.append_assoc]
  apply (s.registry.always_create ship.pilot b.nextId).bind
  intro pilot _
  -- the parts are those that the catalog has for the roster
  have hlink : Vets (Pilot.link s.catalog b.dt ship.parts (Pilot.joinFleet α fleet pilot))
      (ship.parts.flatMap (entryFaults s.catalog)) fun linked => linked.1 = s.partsOf ship := by
    rw [hroster, hdt]
    apply (Vets.mapM (vets_link s.catalog s.settings.tickSeconds) ship.parts).map
    intro parts hparts
    exact hparts
  apply (Always.ofExcept hlink).bind
  rintro ⟨parts, pilot'⟩ rfl
  apply (Always.ofExcept (vets_ofCoordinates ship.position)).bind
  intro offset _
  apply (Always.ofExcept (vets_addShip b fleet (origin + offset) pilot' (s.partsOf ship))).finish
  rintro added rfl
  apply Always.pure
  rw [ship?_append hb.ids rfl rfl]
  refine ⟨⟨hb.settings, List.forall_mem_append.mpr ⟨fun x hx => ?_, ?_⟩⟩, rfl⟩
  · exact (hb.ids x hx).trans (Nat.lt_succ_self _)
  · exact List.forall_mem_singleton.mpr (Nat.lt_succ_self _)

theorem always_muster (hroster : Pilot.FollowsRoster α π) (entry : RosterFleet α × List α)
    {b : Battle α π δ} (hb : s.Raises b) :
    Always (s.muster b entry) (s.fleetFaults entry) s.Raises := by
  obtain ⟨fleet, start⟩ := entry
  simp only [fleetFaults, List.append_assoc]
  apply (Always.ofExcept (vets_ofCoordinates start)).bind
  intro origin _
  -- the mass so far is that of the ships that have come
  let Inv (before : List (RosterShip α)) (state : Battle α π δ × α) : Prop :=
    s.Raises state.1 ∧ state.2 = s.massOf before
  have hships : Always
      (fleet.ships.foldlM (s.deploy fleet.name origin) (b.addFleet fleet.name, 0.0))
      (fleet.ships.flatMap (s.shipFaults fleet.name)) (Inv fleet.ships) := by
    refine Always.foldlM ?_ fleet.ships ⟨⟨hb.settings, hb.ids⟩, rfl⟩
    rintro before state ship ⟨hstate, hmass⟩ t
    apply (always_deploy hroster fleet.name origin hstate ship t).mono
    rintro state' ⟨hstate', hmass'⟩
    refine ⟨hstate', ?_⟩
    rw [hmass', hmass, massOf, massOf, List.foldl_append]
    rfl
  apply hships.bind
  rintro ⟨c, mass⟩ ⟨hc, rfl⟩
  dsimp only
  by_cases hheavy : s.massOf fleet.ships > s.map.rules.maxFleetMass
  · rw [if_pos hheavy, blame, if_pos hheavy]
    intro t
    rfl
  · rw [if_neg hheavy, blame, if_neg hheavy]
    exact .pure hc

theorem always_build (hroster : Pilot.FollowsRoster α π) :
    Always s.build s.faults fun _ => True := by
  simp only [faults, List.append_assoc]
  apply (Always.ofExcept s.vets_check).bind
  intro _ _
  rw [← List.append_assoc]
  apply (Always.ofExcept s.vets_layout).bind
  intro b harena
  have hfleets : Always ((s.fleets.zip s.map.startingPoints).foldlM s.muster b)
      ((s.fleets.zip s.map.startingPoints).flatMap s.fleetFaults) s.Raises :=
    Always.foldlM (I := fun _ => s.Raises) (fun _ _ entry h => always_muster hroster entry h) _
      harena.raises
  exact hfleets.finish fun _ _ => .pure trivial

/-- A build succeeds just for the valid setups, whatever the factories of the pilots do. For another
setup it answers the first of its faults. -/
theorem build_accepts_iff (s : Setup α (StateM σ) π δ) (hroster : Pilot.FollowsRoster α π) (t : σ) :
    ((∃ b, (s.build.run.run t).1 = .ok b) ↔ s.Valid) ∧
      ∀ e, (s.build.run.run t).1 = .error e ↔ s.faults.head? = some e := by
  have hbuild := always_build (s := s) hroster t
  refine ⟨?_, fun e => hbuild.error_iff⟩
  rw [← faults_eq_nil_iff]
  exact hbuild.exists_ok_iff

/-- The range without frames and with two fleets of one name, for which it has no room. -/
noncomputable def flawed : Setup Exact (StateM Unit) Gunner (Channel Exact) :=
  { range 1 with
    fleets := [⟨"red", []⟩, ⟨"red", []⟩]
    settings := { (range 1).settings with frameRate := 0 } }

/-- Of the three faults the frames are the first. -/
theorem build_accepts_range : (range 1).Valid ∧ ¬flawed.Valid ∧
    (flawed.build.run.run ()).1 = .error (.invalidConfig .frameRate) := by
  have hroster : Pilot.FollowsRoster Exact Gunner := fun _ _ _ _ => rfl
  obtain ⟨hvalid, -⟩ := build_accepts_iff (range 1) hroster ()
  obtain ⟨hinvalid, herror⟩ := build_accepts_iff flawed hroster ()
  have hdt : Part.isPositive flawed.settings.tickSeconds = true := by
    simp [flawed, range, Part.isPositive]
  have hfirst : flawed.faults.head? = some (.invalidConfig .frameRate) := by
    rw [faults, settingFaults, misconfigured, blame, if_neg (not_not.mpr hdt)]
    rfl
  have hbuild := (herror _).mpr hfirst
  obtain ⟨_, _, hrange⟩ := build_range 1
  refine ⟨hvalid.mp ⟨_, congrArg Prod.fst hrange⟩, ?_, hbuild⟩
  intro h
  obtain ⟨b, hb⟩ := hinvalid.mpr h
  rw [hbuild] at hb
  cases hb

end Setup
end FleetArena
