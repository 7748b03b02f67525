import FleetArena.Proofs.Lists
import FleetArena.Proofs.Setup.Vetting

/-! The faults of a setup: everything that may be wrong with it, in the order in which a build comes
to it. A setup without any fault is valid. -/
namespace FleetArena
variable {α ε : Type}

/-- A fault, where there is one. -/
def blame (bad : Prop) [Decidable bad] (e : ε) : List ε :=
  if bad then [e] else []

theorem blame_eq_nil_iff {bad : Prop} [Decidable bad] {e : ε} : blame bad e = [] ↔ ¬bad := by
  by_cases h : bad
  · simp [blame, h]
  · simp [blame, h]

/-- The names of a list that stand in it before. -/
def repeats (names : List String) : List String :=
  (names.zipIdx.filter fun e => e.1 ∈ names.take e.2).map (·.1)

theorem repeats_eq_nil_iff {names : List String} : repeats names = [] ↔ names.Nodup := by
  rw [repeats, List.map_eq_nil_iff, List.filter_eq_nil_iff, List.Nodup,
    List.pairwise_iff_getElem]
  constructor
  · intro h i j hi hj hij heq
    have hmem : (names[j], j) ∈ names.zipIdx :=
      List.mem_zipIdx_iff_getElem?.mpr (List.getElem?_eq_getElem hj)
    apply h _ hmem
    rw [decide_eq_true_iff]
    exact List.mem_take_iff_getElem.mpr ⟨i, by omega, heq⟩
  · intro h e he hmem
    rw [decide_eq_true_iff] at hmem
    obtain ⟨i, hi, heq⟩ := List.mem_take_iff_getElem.mp hmem
    obtain ⟨hj, hname⟩ := List.getElem?_eq_some_iff.mp (List.mem_zipIdx_iff_getElem?.mp he)
    exact h i e.2 (by omega) hj (by omega) (heq.trans hname.symm)

variable [Scalar α]

/-- Coordinates of a place are three finite numbers. -/
def IsPlace (coordinates : List α) : Prop :=
  coordinates.length = 3 ∧ ∀ x ∈ coordinates, Scalar.isFinite x = true

instance (coordinates : List α) : Decidable (IsPlace coordinates) :=
  inferInstanceAs (Decidable (_ ∧ _))

/-- The mass of a body of a map is a positive number, and may be infinite. -/
def IsMass (mass : α) : Prop :=
  Scalar.isNaN mass = false ∧ ¬mass ≤ 0.0

instance (mass : α) : Decidable (IsMass mass) :=
  inferInstanceAs (Decidable (_ ∧ _))

theorem isMass_iff_pos {mass : Exact} : IsMass mass ↔ 0.0 < mass := by
  rw [IsMass, Exact.zero_eq, Exact.pos_iff_not_le]

/-- Whether a catalog has a part of a name and kind. -/
def Catalog.offers (c : Catalog α) (kind : PartKind) (name : String) : Bool :=
  match kind with
  | .engine => (c.engines.get? name).isSome
  | .thruster => (c.thrusters.get? name).isSome
  | .weapon => (c.weapons.get? name).isSome
  | .sensor => (c.sensors.get? name).isSome

/-- The parts that a catalog has for a roster. -/
def Catalog.parts (c : Catalog α) (dt : α) (entries : List (RosterPart α)) : List (Part α) :=
  entries.filterMap fun entry => (entry.link c dt).toOption

/-- The pairs of parts of a list that share space. -/
def overlapping : List (Part α) → List (Part α × Part α)
  | [] => []
  | a :: rest => (rest.filter fun b => a.mount.overlaps b.mount).map (a, ·) ++ overlapping rest

/-- A fault of the settings or of a body of the map, where there is one. -/
def misconfigured (bad : Prop) [Decidable bad] (fault : ConfigFault α) : List (SetupError α) :=
  blame bad (.invalidConfig fault)

omit [Scalar α] in
theorem misconfigured_eq_nil_iff {bad : Prop} [Decidable bad] {fault : ConfigFault α} :
    misconfigured bad fault = [] ↔ ¬bad :=
  blame_eq_nil_iff

def placeFaults (coordinates : List α) : List (SetupError α) :=
  blame (¬IsPlace coordinates) (.invalidPosition coordinates)

def bodyFaults (object : MapObject) (radius mass : α) : List (SetupError α) :=
  misconfigured (¬IsMass mass) (.mass object mass) ++
    misconfigured (¬Part.isNonNegative radius) (.radius object radius)

def pointFaults (p : PointSite α) : List (SetupError α) :=
  bodyFaults .controlPoint p.radius p.mass ++
    misconfigured (¬(Part.isNonNegative p.influence ∧ Scalar.isFinite p.points))
      (.scoring p.influence p.points)

def entryFaults (c : Catalog α) (entry : RosterPart α) : List (SetupError α) :=
  placeFaults entry.position ++
    blame (¬c.offers entry.kind entry.name) (.partNotAvailable entry.kind entry.name)

/-- The faults of the parts of one ship: that there are none, those of each part, and every two
parts that share space. -/
def partsFaults (fleet : String) (parts : List (Part α)) : List (SetupError α) :=
  blame parts.isEmpty (.invalidShip fleet .noParts) ++
    (parts.filterMap Part.fault?).map (SetupError.invalidShip fleet <| .part ·) ++
    (overlapping parts).map fun p =>
      SetupError.overlappingParts fleet p.1.mount.position p.2.mount.position

theorem vets_ofCoordinates (coordinates : List α) :
    Vets (Vec3.ofCoordinates coordinates) (placeFaults coordinates) fun _ => True := by
  rw [placeFaults, blame]
  match coordinates with
  | [x, y, z] =>
    have hplace : IsPlace [x, y, z] ↔ (⟨x, y, z⟩ : Vec3 α).isFinite = true := by
      simp [IsPlace, Vec3.isFinite, and_assoc]
    by_cases h : IsPlace [x, y, z]
    · rw [if_neg (not_not.mpr h), Vec3.ofCoordinates, if_pos (hplace.mp h)]
      exact .pure trivial
    · rw [if_pos h, Vec3.ofCoordinates, if_neg (mt hplace.mpr h)]
      rfl
  | [] | [_] | [_, _] | _ :: _ :: _ :: _ :: _ =>
    rw [if_pos (by simp [IsPlace])]
    rfl

theorem vets_link (c : Catalog α) (dt : α) (entry : RosterPart α) :
    Vets (entry.link c dt) (entryFaults c entry) fun _ => True := by
  rw [RosterPart.link]
  apply (vets_ofCoordinates entry.position).bind
  intro position _
  cases entry.kind with
  | engine =>
    cases h : c.engines.get? entry.name <;> simp [Vets, blame, Catalog.offers, h]
  | thruster =>
    cases h : c.thrusters.get? entry.name <;> simp [Vets, blame, Catalog.offers, h]
  | weapon =>
    cases h : c.weapons.get? entry.name <;> simp [Vets, blame, Catalog.offers, h]
  | sensor =>
    cases h : c.sensors.get? entry.name <;> simp [Vets, blame, Catalog.offers, h]

theorem Catalog.parts_of_link {c : Catalog α} {dt : α} {entries : List (RosterPart α)}
    {parts : List (Part α)} (h : c.link dt entries = .ok parts) : c.parts dt entries = parts := by
  have hvets := Vets.mapM (vets_link c dt) entries
  rw [← Catalog.link, h] at hvets
  exact hvets.2.symm

theorem overlap?_eq_head? (parts : List (Part α)) : overlap? parts = (overlapping parts).head? := by
  induction parts with
  | nil => rfl
  | cons a rest ih =>
    rw [overlap?, overlapping, List.head?_append, List.head?_map, List.head?_filter, ← ih]
    cases rest.find? fun b => a.mount.overlaps b.mount <;> rfl

theorem vets_checkParts (fleet : String) (parts : List (Part α)) :
    Vets (checkParts fleet parts) (partsFaults fleet parts) fun _ => True := by
  rw [checkParts, partsFaults, blame, overlap?_eq_head?, ← List.head?_filterMap]
  cases parts.isEmpty with
  | true => rfl
  | false =>
    cases parts.filterMap Part.fault? with
    | cons fault rest => rfl
    | nil =>
      cases overlapping parts with
      | cons pair rest => rfl
      | nil => exact .pure trivial

theorem repeated?_eq_head? (names : List String) :
    Setup.repeated? [] names = (repeats names).head? := by
  -- the names before a place are those that were seen on the way to it
  have h (rest seen before : List String) (hseen : ∀ name, name ∈ seen ↔ name ∈ before) :
      Setup.repeated? seen rest = (((rest.zipIdx before.length).filter fun e =>
        e.1 ∈ (before ++ rest).take e.2).map (·.1)).head? := by
    induction rest generalizing seen before with
    | nil => rfl
    | cons name rest ih =>
      have hbefore : (before ++ name :: rest).take before.length = before := List.take_left
      rw [Setup.repeated?, List.zipIdx_cons, List.filter_cons, hbefore]
      by_cases hname : name ∈ before
      · rw [if_pos (List.contains_iff_mem.mpr ((hseen name).mpr hname)),
          if_pos (decide_eq_true hname)]
        rfl
      · rw [if_neg (mt List.contains_iff_mem.mp (mt (hseen name).mp hname)),
          if_neg (mt of_decide_eq_true hname),
          ih (name :: seen) (before ++ [name]) (by simp [hseen, or_comm])]
        simp only [List.length_append, List.length_singleton, List.append_assoc,
          List.singleton_append]
  exact h names [] [] fun _ => Iff.rfl

namespace Setup
variable {m : Type → Type} {π δ : Type} (s : Setup α m π δ)

/-- The parts of a ship of the setup. -/
def partsOf (ship : RosterShip α) : List (Part α) :=
  s.catalog.parts s.settings.tickSeconds ship.parts

/-- The mass of the first ships of a fleet together. -/
def massOf (ships : List (RosterShip α)) : α :=
  ships.foldl (fun mass ship => mass + (Loadout.ofParts (s.partsOf ship)).mass) 0.0

def shipFaults (fleet : String) (ship : RosterShip α) : List (SetupError α) :=
  blame (ship.pilot ∉ s.registry.names) (.unknownPilot ship.pilot) ++
    ship.parts.flatMap (entryFaults s.catalog) ++
    placeFaults ship.position ++
    partsFaults fleet (s.partsOf ship)

/-- The faults of a fleet and of its starting point. -/
def fleetFaults (entry : RosterFleet α × List α) : List (SetupError α) :=
  placeFaults entry.2 ++
    entry.1.ships.flatMap (s.shipFaults entry.1.name) ++
    blame (s.massOf entry.1.ships > s.map.rules.maxFleetMass)
      (.fleetTooHeavy entry.1.name (s.massOf entry.1.ships) s.map.rules.maxFleetMass)

/-- The faults that do not lie in a position or in a ship. -/
def settingFaults : List (SetupError α) :=
  misconfigured (¬Part.isPositive s.settings.tickSeconds) (.tickSeconds s.settings.tickSeconds) ++
    misconfigured (s.settings.frameRate = 0) .frameRate ++
    misconfigured (s.settings.maxTicks = some 0) .maxTicks ++
    misconfigured (¬Part.isPositive s.map.radius) (.arenaRadius s.map.radius) ++
    s.map.controlPoints.flatMap pointFaults ++
    s.map.asteroids.flatMap (fun a => bodyFaults .asteroid a.radius a.mass) ++
    (repeats (s.fleets.map (·.name))).map (SetupError.invalidConfig <| .duplicateFleet ·) ++
    blame (s.map.startingPoints.length < s.fleets.length)
      (.tooManyFleets s.map.startingPoints.length)

/-- All faults of a setup. What is wrong with the settings, the bodies and the names comes before
any position, and the fleets come last. -/
def faults : List (SetupError α) :=
  s.settingFaults ++
    s.map.controlPoints.flatMap (fun p => placeFaults p.position) ++
    s.map.asteroids.flatMap (fun a => placeFaults a.position) ++
    (s.fleets.zip s.map.startingPoints).flatMap s.fleetFaults

/-- A ship that may join a fleet. -/
structure Fits (fleet : String) (ship : RosterShip α) : Prop where
  pilot : ship.pilot ∈ s.registry.names
  entries : ∀ entry ∈ ship.parts,
    IsPlace entry.position ∧ s.catalog.offers entry.kind entry.name = true
  position : IsPlace ship.position
  parts : checkParts fleet (s.partsOf ship) = .ok ()

/-- A setup that a battle can be made of. -/
structure Valid : Prop where
  tickSeconds : Part.isPositive s.settings.tickSeconds = true
  frameRate : 1 ≤ s.settings.frameRate
  maxTicks : s.settings.maxTicks ≠ some 0
  arenaRadius : Part.isPositive s.map.radius = true
  controlPoints : ∀ p ∈ s.map.controlPoints, IsMass p.mass ∧ Part.isNonNegative p.radius = true ∧
    Part.isNonNegative p.influence = true ∧ Scalar.isFinite p.points = true ∧ IsPlace p.position
  asteroids : ∀ a ∈ s.map.asteroids, IsMass a.mass ∧ Part.isNonNegative a.radius = true ∧
    IsPlace a.position
  names : (s.fleets.map (·.name)).Nodup
  room : s.fleets.length ≤ s.map.startingPoints.length
  starts : ∀ start ∈ s.map.startingPoints.take s.fleets.length, IsPlace start
  ships : ∀ fleet ∈ s.fleets, ∀ ship ∈ fleet.ships, s.Fits fleet.name ship
  masses : ∀ fleet ∈ s.fleets, ¬s.massOf fleet.ships > s.map.rules.maxFleetMass

omit [Scalar α] in
theorem vets_failIf {bad : Bool} {P : Prop} [Decidable P] {fault : ConfigFault α}
    (h : bad = true ↔ P) :
    Vets (failIf bad fault) (misconfigured P fault) fun _ => True := by
  rw [misconfigured, blame]
  cases bad with
  | true =>
    rw [if_pos (h.mp rfl)]
    rfl
  | false =>
    rw [if_neg (mt h.mpr Bool.false_ne_true)]
    exact .pure trivial

theorem vets_checkBody (object : MapObject) (radius mass : α) :
    Vets (checkBody object radius mass) (bodyFaults object radius mass) fun _ => True := by
  apply (vets_failIf (by simp [IsMass, Bool.or_eq_true, imp_iff_not_or])).bind
  intro _ _
  exact vets_failIf (by simp)

theorem vets_checkPoint (p : PointSite α) :
    Vets (checkPoint p) (pointFaults p) fun _ => True := by
  apply (vets_checkBody .controlPoint p.radius p.mass).bind
  intro _ _
  exact vets_failIf (by simp [imp_iff_not_or])

theorem vets_check : Vets s.check s.settingFaults fun _ => True := by
  simp only [settingFaults, List.append_assoc]
  apply (vets_failIf (by simp)).bind
  intro _ _
  apply (vets_failIf (by simp)).bind
  intro _ _
  apply (vets_failIf (by simp)).bind
  intro _ _
  apply (vets_failIf (by simp)).bind
  intro _ _
  apply (Vets.forM vets_checkPoint _).bind
  intro _ _
  apply (Vets.forM (fun a : AsteroidSite α => vets_checkBody .asteroid a.radius a.mass) _).bind
  intro _ _
  rw [repeated?_eq_head?]
  cases repeats (s.fleets.map (·.name)) with
  | cons name rest => rfl
  | nil =>
    rw [List.map_nil, List.nil_append, blame]
    by_cases h : s.map.startingPoints.length < s.fleets.length
    · simp only [List.head?_nil, if_pos h]
      rfl
    · simp only [List.head?_nil, if_neg h]
      exact .pure trivial

theorem partsFaults_eq_nil_iff {fleet : String} {parts : List (Part α)} :
    partsFaults fleet parts = [] ↔ checkParts fleet parts = .ok () := by
  rw [← (vets_checkParts fleet parts).exists_ok_iff]
  exact ⟨fun ⟨_, h⟩ => h, fun h => ⟨_, h⟩⟩

variable {s}

theorem shipFaults_eq_nil_iff {fleet : String} {ship : RosterShip α} :
    s.shipFaults fleet ship = [] ↔ s.Fits fleet ship := by
  simp only [shipFaults, List.append_eq_nil_iff, List.flatMap_eq_nil_iff, blame_eq_nil_iff,
    entryFaults, placeFaults, not_not, partsFaults_eq_nil_iff]
  constructor
  · rintro ⟨⟨⟨hpilot, hentries⟩, hposition⟩, hparts⟩
    exact ⟨hpilot, hentries, hposition, hparts⟩
  · rintro ⟨hpilot, hentries, hposition, hparts⟩
    exact ⟨⟨⟨hpilot, hentries⟩, hposition⟩, hparts⟩

theorem settingFaults_eq_nil_iff : s.settingFaults = [] ↔
    Part.isPositive s.settings.tickSeconds = true ∧ 1 ≤ s.settings.frameRate ∧
      s.settings.maxTicks ≠ some 0 ∧ Part.isPositive s.map.radius = true ∧
      (∀ p ∈ s.map.controlPoints, IsMass p.mass ∧ Part.isNonNegative p.radius = true ∧
        Part.isNonNegative p.influence = true ∧ Scalar.isFinite p.points = true) ∧
      (∀ a ∈ s.map.asteroids, IsMass a.mass ∧ Part.isNonNegative a.radius = true) ∧
      (s.fleets.map (·.name)).Nodup ∧ s.fleets.length ≤ s.map.startingPoints.length := by
  simp only [settingFaults, pointFaults, bodyFaults, List.append_eq_nil_iff,
    List.flatMap_eq_nil_iff, List.map_eq_nil_iff, blame_eq_nil_iff, misconfigured_eq_nil_iff,
    repeats_eq_nil_iff, not_not, not_lt, and_assoc, Nat.one_le_iff_ne_zero, ne_eq]

theorem forall_fleetFaults_eq_nil_iff (hroom : s.fleets.length ≤ s.map.startingPoints.length) :
    (∀ entry ∈ s.fleets.zip s.map.startingPoints, s.fleetFaults entry = []) ↔
      (∀ fleet ∈ s.fleets, (∀ ship ∈ fleet.ships, s.Fits fleet.name ship) ∧
        ¬s.massOf fleet.ships > s.map.rules.maxFleetMass) ∧
      ∀ start ∈ s.map.startingPoints.take s.fleets.length, IsPlace start := by
  rw [← forall_mem_zip_iff hroom]
  refine forall₂_congr fun entry _ => ?_
  simp only [fleetFaults, placeFaults, List.append_eq_nil_iff, List.flatMap_eq_nil_iff,
    blame_eq_nil_iff, not_not, shipFaults_eq_nil_iff]
  rw [and_assoc, and_comm]

/-- A setup is valid just when it has no fault. -/
theorem faults_eq_nil_iff : s.faults = [] ↔ s.Valid := by
  simp only [faults, placeFaults, List.append_eq_nil_iff, List.flatMap_eq_nil_iff,
    blame_eq_nil_iff, not_not, settingFaults_eq_nil_iff]
  constructor
  · rintro ⟨⟨⟨⟨hdt, hframes, hticks, hradius, hpoints, hrocks, hnames, hroom⟩, hpointPlaces⟩,
      hrockPlaces⟩, hentries⟩
    obtain ⟨hfleets, hstarts⟩ := (forall_fleetFaults_eq_nil_iff hroom).mp hentries
    refine ⟨hdt, hframes, hticks, hradius, ?_, ?_, hnames, hroom, hstarts, ?_, ?_⟩
    · intro p hp
      obtain ⟨hmass, hradius, hinfluence, hscore⟩ := hpoints p hp
      exact ⟨hmass, hradius, hinfluence, hscore, hpointPlaces p hp⟩
    · intro a ha
      obtain ⟨hmass, hradius⟩ := hrocks a ha
      exact ⟨hmass, hradius, hrockPlaces a ha⟩
    · intro fleet hfleet
      exact (hfleets fleet hfleet).1
    · intro fleet hfleet
      exact (hfleets fleet hfleet).2
  · intro h
    have hpoints : ∀ p ∈ s.map.controlPoints, IsMass p.mass ∧ Part.isNonNegative p.radius = true ∧
        Part.isNonNegative p.influence = true ∧ Scalar.isFinite p.points = true := by
      intro p hp
      obtain ⟨hmass, hradius, hinfluence, hscore, -⟩ := h.controlPoints p hp
      exact ⟨hmass, hradius, hinfluence, hscore⟩
    have hrocks : ∀ a ∈ s.map.asteroids, IsMass a.mass ∧ Part.isNonNegative a.radius = true := by
      intro a ha
      obtain ⟨hmass, hradius, -⟩ := h.asteroids a ha
      exact ⟨hmass, hradius⟩
    refine ⟨⟨⟨⟨h.tickSeconds, h.frameRate, h.maxTicks, h.arenaRadius, hpoints, hrocks, h.names,
      h.room⟩, ?_⟩, ?_⟩, (forall_fleetFaults_eq_nil_iff h.room).mpr ⟨?_, h.starts⟩⟩
    · intro p hp
      obtain ⟨-, -, -, -, hplace⟩ := h.controlPoints p hp
      exact hplace
    · intro a ha
      obtain ⟨-, -, hplace⟩ := h.asteroids a ha
      exact hplace
    · intro fleet hfleet
      exact ⟨h.ships fleet hfleet, h.masses fleet hfleet⟩

end Setup
end FleetArena
