import FleetArena.Proofs.Scoring.Entries
import FleetArena.Proofs.Setup.Acceptance
import FleetArena.Proofs.Vessel.Addressing

/-! The layout of a battle that is built. Everything is numbered in the order of the map and of the
rosters, every pilot is made once, with the number of its ship as the seed, and every fleet is at
its starting point. -/
namespace FleetArena
variable {α π δ σ : Type}

/-- A ship of a roster, with its fleet and the starting point of the fleet. -/
structure Berth (α : Type) where
  fleet : String
  start : List α
  ship : RosterShip α
deriving Repr, DecidableEq

def RosterFleet.berths (fleet : RosterFleet α) (start : List α) : List (Berth α) :=
  fleet.ships.map fun ship => ⟨fleet.name, start, ship⟩

variable [Scalar α]

/-- The fleets that are registered are those of a list, and none has a score. -/
structure Registers (scores : Table String α) (names : List String) : Prop where
  keys : ∀ name, name ∈ scores.keys ↔ name ∈ names
  values : ∀ score ∈ scores.values, score = 0.0

theorem Registers.insertIfNew {scores : Table String α} {names names' : List String} {name : String}
    (h : Registers scores names) (hnames : ∀ n, n ∈ names' ↔ n = name ∨ n ∈ names) :
    Registers (scores.insertIfNew name 0.0) names' where
  keys := by
    intro n
    rw [Table.insertIfNew, Table.mem_keys_alter_iff, h.keys, hnames]
  values := by
    have hentries : ∀ e ∈ scores.entries, e.2 = 0.0 := List.forall_mem_map.mp h.values
    exact List.forall_mem_map.mpr
      (Table.forall_alterEntries (P := (· = 0.0)) hentries rfl fun _ hv => hv)

namespace Setup

/-- The ships of all rosters, fleet after fleet. The fleet at a place has the starting point at the
same place. -/
def berths {m : Type → Type} (s : Setup α m π δ) : List (Berth α) :=
  (s.fleets.zip s.map.startingPoints).flatMap fun entry => entry.1.berths entry.2

/-- Makes a pilot for every ship, with the number of the ship as the seed. -/
def crew {m : Type → Type} [Monad m] (s : Setup α m π δ) (berths : List (Berth α))
    (first : ObjectId) : ExceptT (SetupError α) m (List π) :=
  (berths.zipIdx first).mapM fun e => s.registry.create e.1.ship.pilot e.2

variable [Pilot α π]

/-- A ship that was built for a berth, with a number and with the pilot that was made for it. -/
structure Mans {m : Type → Type} (s : Setup α m π δ) (berth : Berth α) (id : ObjectId) (pilot : π)
    (ship : Ship α π) : Prop where
  id : ship.id = id
  fleet : ship.fleet = berth.fleet
  position : ∃ origin offset, Vec3.ofCoordinates berth.start = .ok origin ∧
    Vec3.ofCoordinates berth.ship.position = .ok offset ∧ ship.body.position = origin + offset
  linked : ∃ parts, Pilot.link s.catalog s.settings.tickSeconds berth.ship.parts
      (Pilot.joinFleet α berth.fleet pilot) = .ok (parts, ship.pilot) ∧
    ∀ kind i, ship.loadout.part? ⟨kind, i⟩ = (parts.filter (·.kind = kind))[i]?
  /-- The parts of a kind are those of the roster, in order. -/
  roster : Pilot.FollowsRoster α π → ∀ kind i,
    (berth.ship.parts.filter (·.kind = kind))[i]?.map (·.link s.catalog s.settings.tickSeconds) =
      (ship.loadout.part? ⟨kind, i⟩).map .ok

variable {s : Setup α (StateM σ) π δ}

theorem mans_assemble {berth : Berth α} {id : ObjectId} {pilot pilot' : π} {origin offset : Vec3 α}
    {parts : List (Part α)} (horigin : Vec3.ofCoordinates berth.start = .ok origin)
    (hoffset : Vec3.ofCoordinates berth.ship.position = .ok offset)
    (hlink : Pilot.link s.catalog s.settings.tickSeconds berth.ship.parts
      (Pilot.joinFleet α berth.fleet pilot) = .ok (parts, pilot')) :
    s.Mans berth id pilot ⟨.assemble id berth.fleet (origin + offset) parts
      s.settings.tickSeconds, pilot'⟩ where
  id := rfl
  fleet := rfl
  position := ⟨origin, offset, horigin, hoffset, rfl⟩
  linked := ⟨parts, hlink, Loadout.part?_ofParts parts⟩
  roster := by
    intro hroster
    rw [hroster] at hlink
    cases hparts : s.catalog.link s.settings.tickSeconds berth.ship.parts with
    | error e =>
      rw [hparts] at hlink
      cases hlink
    | ok linked =>
      rw [hparts] at hlink
      cases hlink
      exact Catalog.getElem?_of_link hparts

/-- `c` is `b` with the ships of the berths, and their pilots were made in between. -/
structure Boards (s : Setup α (StateM σ) π δ) (b : Battle α π δ) (t : σ) (berths : List (Berth α))
    (pilots : List π) (c : Battle α π δ) (u : σ) : Prop where
  crew : (s.crew berths b.nextId).run.run t = (.ok pilots, u)
  length : pilots.length = berths.length
  ships : ∃ ships scores, c = { b with
      ships := b.ships ++ ships
      scores
      nextId := b.nextId + berths.length } ∧
    List.Forall₂ (fun e ship => s.Mans e.1.1 e.1.2 e.2 ship)
      ((berths.zipIdx b.nextId).zip pilots) ships

namespace Boards
variable {b c d : Battle α π δ} {t u v : σ} {xs ys : List (Berth α)} {ps qs : List π}

theorem nil : s.Boards b t [] [] b t where
  crew := rfl
  length := rfl
  ships := ⟨[], b.scores, by rw [List.append_nil]; rfl, .nil⟩

theorem settings (h : s.Boards b t xs ps c u) : c.settings = b.settings := by
  obtain ⟨ships, scores, rfl, -⟩ := h.ships
  rfl

theorem append (h : s.Boards b t xs ps c u) (h' : s.Boards c u ys qs d v) :
    s.Boards b t (xs ++ ys) (ps ++ qs) d v := by
  obtain ⟨hcrew, hlength, ships, scores, rfl, hships⟩ := h
  obtain ⟨hcrew', hlength', ships', scores', rfl, hships'⟩ := h'
  have hzip : ((xs ++ ys).zipIdx b.nextId).zip (ps ++ qs) = (xs.zipIdx b.nextId).zip ps ++
      (ys.zipIdx (b.nextId + xs.length)).zip qs := by
    rw [List.zipIdx_append, List.zip_append]
    rw [List.length_zipIdx, hlength]
  refine ⟨?_, ?_, ships ++ ships', scores', ?_, ?_⟩
  · rw [Setup.crew, List.zipIdx_append]
    exact run_mapM_append hcrew hcrew'
  · rw [List.length_append, List.length_append, hlength, hlength']
  · rw [List.append_assoc, List.length_append, Nat.add_assoc]
  · rw [hzip]
    exact List.rel_append hships hships'

end Boards

section
variable {b c : Battle α π δ} {t u : σ} {names : List String}

theorem boards_deploy (hb : b.settings = s.settings) (berth : Berth α) {origin : Vec3 α}
    {mass : α} {state : Battle α π δ × α} (horigin : Vec3.ofCoordinates berth.start = .ok origin)
    (h : (s.deploy berth.fleet origin (b, mass) berth.ship).run.run t = (.ok state, u)) :
    (∃ pilot, s.Boards b t [berth] [pilot] state.1 u) ∧
      state.1.scores = b.scores.insertIfNew berth.fleet 0.0 := by
  have hdt : b.dt = s.settings.tickSeconds := congrArg Settings.tickSeconds hb
  obtain ⟨pilot, u', hpilot, h⟩ := run_ok_of_bind h
  obtain ⟨⟨parts, pilot'⟩, hlink, h⟩ := run_ok_of_ofExcept_bind h
  obtain ⟨offset, hoffset, h⟩ := run_ok_of_ofExcept_bind h
  obtain ⟨⟨id, c⟩, hadd, h⟩ := run_ok_of_ofExcept_bind h
  obtain ⟨-, rfl, rfl⟩ := Battle.addShip_eq_ok_iff.mp hadd
  cases h
  rw [hdt] at hlink
  refine ⟨⟨pilot, ?_, rfl, _, _, rfl, ?_⟩, rfl⟩
  · rw [crew, List.zipIdx_singleton, List.mapM_cons, run_bind, hpilot]
    rfl
  · rw [hdt]
    exact .cons (mans_assemble horigin hoffset hlink) .nil

theorem boards_muster (hb : b.settings = s.settings) (hscores : Registers b.scores names)
    {entry : RosterFleet α × List α} (h : (s.muster b entry).run.run t = (.ok c, u)) :
    (∃ pilots, s.Boards b t (entry.1.berths entry.2) pilots c u) ∧
      Registers c.scores (names ++ [entry.1.name]) := by
  obtain ⟨fleet, start⟩ := entry
  obtain ⟨origin, horigin, h⟩ := run_ok_of_ofExcept_bind h
  obtain ⟨⟨c', mass⟩, u', hships, h⟩ := run_ok_of_bind h
  have hnames : Registers (b.addFleet fleet.name).scores (names ++ [fleet.name]) :=
    hscores.insertIfNew (by simp [or_comm])
  have hboards := run_foldlM_induction hships (fun before state u =>
    (∃ pilots, s.Boards (b.addFleet fleet.name) t
      (before.map fun ship => ⟨fleet.name, start, ship⟩) pilots state.1 u) ∧
      Registers state.1.scores (names ++ [fleet.name])) ⟨⟨[], .nil⟩, hnames⟩ ?_
  · dsimp only at h
    split at h
    · cases h
    · cases h
      obtain ⟨⟨pilots, hcrew, hlength, hships⟩, hregisters⟩ := hboards
      exact ⟨⟨pilots, hcrew, hlength, hships⟩, hregisters⟩
  · rintro before ship state state' t' u' ⟨⟨pilots, hbefore⟩, hregisters⟩ hdeploy
    obtain ⟨⟨pilot, hship⟩, hscores'⟩ := boards_deploy (hbefore.settings.trans hb)
      ⟨fleet.name, start, ship⟩ horigin hdeploy
    refine ⟨⟨pilots ++ [pilot], ?_⟩, ?_⟩
    · rw [List.map_append]
      exact hbefore.append hship
    · rw [hscores']
      exact hregisters.insertIfNew (by simp)

end

omit [Scalar α] [Pilot α π] in
/-- No fleet is left out where there is a starting point for each. -/
theorem length_berths {m : Type → Type} {s : Setup α m π δ}
    (hroom : s.fleets.length ≤ s.map.startingPoints.length) :
    s.berths.length = (s.fleets.map (·.ships.length)).sum := by
  let entries := s.fleets.zip s.map.startingPoints
  have hfleets : entries.map (·.1) = s.fleets := List.map_fst_zip hroom
  have hlengths : entries.map (fun e => (e.1.berths e.2).length) = s.fleets.map (·.ships.length) :=
    calc entries.map (fun e => (e.1.berths e.2).length)
        = (entries.map (·.1)).map (·.ships.length) := by
          rw [List.map_map]
          exact List.map_congr_left fun e _ => List.length_map _
      _ = s.fleets.map (·.ships.length) := by rw [hfleets]
  rw [berths, List.length_flatMap, hlengths]

/-- A battle as its setup has it, with the pilots that were made for the ships. -/
structure LaidOut (s : Setup α (StateM σ) π δ) (pilots : List π) (b : Battle α π δ) : Prop where
  controlPoints : List.Forall₂ (fun e p => e.1.Stands e.2 p) (s.map.controlPoints.zipIdx 1)
    b.controlPoints
  asteroids : List.Forall₂ (fun e a => e.1.Stands e.2 a)
    (s.map.asteroids.zipIdx (s.map.controlPoints.length + 1)) b.asteroids
  ships : List.Forall₂ (fun e ship => s.Mans e.1.1 e.1.2 e.2 ship)
    ((s.berths.zipIdx s.firstShip).zip pilots) b.ships
  pilots : pilots.length = s.berths.length
  pointIds : b.controlPoints.map (·.body.id) = List.range' 1 s.map.controlPoints.length
  asteroidIds : b.asteroids.map (·.body.id) =
    List.range' (s.map.controlPoints.length + 1) s.map.asteroids.length
  shipIds : b.ships.map Ship.id =
    List.range' s.firstShip (s.fleets.map (·.ships.length)).sum
  scores : Registers b.scores (s.fleets.map (·.name))
  nextId : b.nextId = s.firstShip + (s.fleets.map (·.ships.length)).sum
  tick : b.tick = 0
  halted : b.halted = false
  undrawn : b.started = false ∧ b.drawn = [] ∧ b.deleted = []
  projectiles : b.projectiles = []
  drawer : b.drawer = s.drawer

theorem laidOut_of_boards {c d : Battle α π δ} {t u : σ} {pilots : List π} (harena : s.IsArena c)
    (hroom : s.fleets.length ≤ s.map.startingPoints.length)
    (h : s.Boards c t s.berths pilots d u) (hscores : Registers d.scores (s.fleets.map (·.name))) :
    s.LaidOut pilots { d with drawer := s.drawer } := by
  obtain ⟨-, hlength, ships, scores, rfl, hships⟩ := h
  have hnext : c.nextId = s.firstShip := by
    rw [harena.rest]
  have hnone : c.ships = [] := by
    rw [harena.rest]
    rfl
  rw [hnext] at hships
  have hpointIds : c.controlPoints.map (·.body.id) = (s.map.controlPoints.zipIdx 1).map (·.2) :=
    map_eq_of_forall₂ harena.controlPoints fun e p ⟨position, _, hp⟩ => by rw [hp]; rfl
  have hasteroidIds : c.asteroids.map (·.body.id) =
      (s.map.asteroids.zipIdx (s.map.controlPoints.length + 1)).map (·.2) :=
    map_eq_of_forall₂ harena.asteroids fun e a ⟨position, _, ha⟩ => by rw [ha]; rfl
  have hshipIds : ships.map Ship.id = (s.berths.zipIdx s.firstShip).map (·.2) := by
    have hzip : ((s.berths.zipIdx s.firstShip).zip pilots).map (·.1) =
        s.berths.zipIdx s.firstShip := by
      apply List.map_fst_zip
      rw [List.length_zipIdx, hlength]
    rw [← hzip, List.map_map]
    exact map_eq_of_forall₂ hships fun _ _ hmans => hmans.id
  rw [List.zipIdx_map_snd] at hpointIds hasteroidIds hshipIds
  refine ⟨harena.controlPoints, harena.asteroids, ?_, hlength, hpointIds, hasteroidIds, ?_, hscores,
    ?_, ?_, ?_, ?_, ?_, rfl⟩
  · rw [hnone]
    exact hships
  · rw [hnone, ← length_berths hroom]
    exact hshipIds
  · show c.nextId + s.berths.length = _
    rw [hnext, length_berths hroom]
  · rw [harena.rest]
    rfl
  · rw [harena.rest]
    rfl
  · rw [harena.rest]
    exact ⟨rfl, rfl, rfl⟩
  · rw [harena.rest]
    rfl

/-- What a build makes is laid out as the setup has it, and all that happens on the way is that the
pilots are made. -/
theorem layout_of_build {b : Battle α π δ} {t u : σ} (h : s.build.run.run t = (.ok b, u)) :
    ∃ pilots, (s.crew s.berths s.firstShip).run.run t = (.ok pilots, u) ∧ s.LaidOut pilots b := by
  obtain ⟨_, hcheck, h⟩ := run_ok_of_ofExcept_bind h
  obtain ⟨c, hlayout, h⟩ := run_ok_of_ofExcept_bind h
  obtain ⟨d, u', hfleets, h⟩ := run_ok_of_bind h
  have hroom := (sound_of_check hcheck).2.2
  have harena : s.IsArena c := by
    have hvets := s.vets_layout
    rw [hlayout] at hvets
    exact hvets.2
  have hsettings : c.settings = s.settings := harena.raises.settings
  have hempty : Registers c.scores [] := by
    rw [harena.rest]
    exact ⟨fun _ => Iff.rfl, List.forall_mem_nil _⟩
  have hboards := run_foldlM_induction hfleets (fun before d u =>
    (∃ pilots, s.Boards c t (before.flatMap fun entry => entry.1.berths entry.2) pilots d u) ∧
      Registers d.scores ((before.map (·.1)).map (·.name))) ⟨⟨[], .nil⟩, hempty⟩ ?_
  · obtain ⟨⟨pilots, hboards⟩, hscores⟩ := hboards
    rw [List.map_fst_zip hroom] at hscores
    have hcrew := hboards.crew
    rw [show c.nextId = s.firstShip by rw [harena.rest]] at hcrew
    cases h
    exact ⟨pilots, hcrew, laidOut_of_boards harena hroom hboards hscores⟩
  · rintro before entry d d' t' u' ⟨⟨pilots, hbefore⟩, hregisters⟩ hmuster
    obtain ⟨⟨pilots', hfleet⟩, hregisters'⟩ :=
      boards_muster (hbefore.settings.trans hsettings) hregisters hmuster
    refine ⟨⟨pilots ++ pilots', ?_⟩, ?_⟩
    · rw [List.flatMap_append, List.flatMap_singleton]
      exact hbefore.append hfleet
    · rw [List.map_append, List.map_append]
      exact hregisters'

section
open Exact

/-- Two fleets, one of them without a ship, and factories that write down their seeds. -/
noncomputable def garrison : Setup Exact (StateM (List Nat)) Gunner (Channel Exact) where
  map := { (range 1).map with
    startingPoints := [[0.0, 0.0, 0.0], [0.0, 0.0, 0.0]]
    controlPoints := [⟨1.0, 1.0, [0.0, 0.0, 0.0], 1.0, 1.0⟩]
    asteroids := [⟨1.0, 1.0, [0.0, 0.0, 0.0], none⟩] }
  catalog := (range 1).catalog
  fleets := [⟨"red", [.gunner, .gunner]⟩, ⟨"blue", []⟩]
  registry := Registry.empty.register "gunner" fun seed => do
    modify (· ++ [seed])
    return {}
  settings := (range 1).settings
  drawer := none

theorem partsOf_garrison : garrison.partsOf .gunner = [Part.sling 1] :=
  Catalog.parts_of_link (link_gunner 1)

theorem fits_gunner : garrison.Fits "red" .gunner where
  pilot := by simp [garrison, RosterShip.gunner, Registry.names, Registry.register,
    Registry.registerEntry, Registry.empty]
  entries := by
    simp [RosterShip.gunner, IsPlace, Catalog.offers, garrison, range, Table.ofList, Table.insert,
      Table.alter, Table.alterEntries, Table.get?, EmptyCollection.emptyCollection, Table.empty]
  position := by simp [RosterShip.gunner, IsPlace]
  parts := by
    rw [partsOf_garrison]
    exact checkParts_sling 1 "red"

theorem eq_of_mem_garrison {fleet : RosterFleet Exact} (h : fleet ∈ garrison.fleets) :
    fleet = ⟨"red", [.gunner, .gunner]⟩ ∨ fleet = ⟨"blue", []⟩ := by
  simpa [garrison] using h

theorem valid_garrison : garrison.Valid where
  tickSeconds := by simp [garrison, range, Part.isPositive]
  frameRate := by simp [garrison, range, Settings.standard]
  maxTicks := by simp [garrison, range, Settings.standard]
  arenaRadius := by simp [garrison, range, Part.isPositive]
  controlPoints := by simp [garrison, IsMass, Part.isNonNegative, IsPlace]
  asteroids := by simp [garrison, IsMass, Part.isNonNegative, IsPlace]
  names := by simp [garrison]
  room := Nat.le_refl 2
  starts := by simp [garrison, IsPlace]
  ships := by
    intro fleet hfleet ship hship
    rcases eq_of_mem_garrison hfleet with rfl | rfl
    · obtain rfl : ship = .gunner := by simpa using hship
      exact fits_gunner
    · cases hship
  masses := by
    have hred : garrison.massOf [.gunner, .gunner] = real 4 := by
      rw [massOf, List.foldl_cons, List.foldl_cons, List.foldl_nil, partsOf_garrison, mass_sling,
        zero_eq, real_add, real_add]
      norm_num
    have hblue : garrison.massOf [] = real 0 := zero_eq
    have hlimit : garrison.map.rules.maxFleetMass = real 100 := hundred_eq
    intro fleet hfleet
    rw [hlimit]
    rcases eq_of_mem_garrison hfleet with rfl | rfl
    · rw [hred, gt_iff_lt, real_lt]
      norm_num
    · rw [hblue, gt_iff_lt, real_lt]
      norm_num

/-- The ships have the numbers behind those of the control point and of the asteroid, and the
factories have been called with these numbers only. -/
theorem layout_of_build_garrison : ∃ b pilots, garrison.build.run.run [] = (.ok b, [3, 4]) ∧
    garrison.LaidOut pilots b ∧ b.ships.map Ship.id = [3, 4] ∧ b.nextId = 5 := by
  have hroster : Pilot.FollowsRoster Exact Gunner := fun _ _ _ _ => rfl
  have hvets := always_build (s := garrison) hroster []
  obtain ⟨b, hb⟩ := hvets.exists_ok_iff.mpr (faults_eq_nil_iff.mpr valid_garrison)
  obtain ⟨u, hrun⟩ : ∃ u, garrison.build.run.run [] = (.ok b, u) := ⟨_, Prod.ext hb rfl⟩
  obtain ⟨pilots, hcrew, hlaid⟩ := layout_of_build hrun
  have hseeds : (garrison.crew garrison.berths garrison.firstShip).run.run [] =
      (.ok [{}, {}], [3, 4]) := rfl
  have hlog : u = [3, 4] := congrArg Prod.snd (hcrew.symm.trans hseeds)
  rw [hlog] at hrun
  exact ⟨b, pilots, hrun, hlaid, hlaid.shipIds, hlaid.nextId⟩

end

end Setup
end FleetArena
