import FleetArena.Proofs.Random
import FleetArena.Proofs.Setup.Arena
import FleetArena.Proofs.Sphere

/-! Generated maps. The starting points of a map lie on a ring, its asteroids between the influence
of the control point and the ring, and fleets without ships can play on it. The asteroids of a seed
are always the same, of which a map takes as many as it has. -/
namespace FleetArena
open Exact

theorem isMass_million : IsMass (1e6 : Exact) := by
  have hpos : (0 : ℝ) < 1e6 := by norm_num
  rw [isMass_iff_pos, zero_eq]
  exact hpos

theorem isPlace_exact (p : Space) : IsPlace (Vec3.exact p).toList := by
  simp [IsPlace, Vec3.toList, Vec3.exact]

namespace MapShape

section
variable {α : Type} [Scalar α] {s s' : MapShape α} {seed : UInt64} {map map' : ArenaMap α}

/-- Asteroids depend on nothing of a shape but its radius. -/
theorem asteroid_congr (h : s.radius = s'.radius) : s.asteroid = s'.asteroid := by
  have hleast : s.leastDistance = s'.leastDistance := by
    rw [leastDistance, influence, h]
    rfl
  have hmost : s.mostDistance = s'.mostDistance := by
    rw [mostDistance, ring, h]
    rfl
  funext g
  rw [asteroid, hleast, hmost]
  rfl

theorem length_field (n : ℕ) (g : Pcg) : (s.field n g).length = n := by
  induction n generalizing g with
  | zero => rfl
  | succ n ih => rw [field, List.length_cons, ih]

/-- A field is the beginning of every larger one. -/
theorem field_prefix (h : s.radius = s'.radius) {m n : ℕ} (hle : m ≤ n) (g : Pcg) :
    s.field m g <+: s'.field n g := by
  induction m generalizing n g with
  | zero => exact List.nil_prefix
  | succ m ih =>
    obtain ⟨n, rfl⟩ : ∃ k, n = k + 1 := Nat.exists_eq_add_one_of_ne_zero (by omega)
    rw [field, field, asteroid_congr h, List.prefix_cons_inj]
    exact ih (Nat.le_of_succ_le_succ hle) _

theorem asteroids_of_generate? (h : s.generate? seed = some map) :
    map.asteroids = s.field s.asteroids (.ofSeed seed) := by
  rw [generate?] at h
  split at h
  · cases h
    rfl
  · cases h

/-- The asteroids of the smaller field are the first ones of the larger field, whatever else is
different. -/
theorem asteroids_prefix (hradius : s.radius = s'.radius) (hle : s.asteroids ≤ s'.asteroids)
    (h : s.generate? seed = some map) (h' : s'.generate? seed = some map') :
    map.asteroids <+: map'.asteroids := by
  rw [asteroids_of_generate? h, asteroids_of_generate? h']
  exact field_prefix hradius hle _

end

variable {s : MapShape Exact} {r : ℝ}

theorem influence_eq (h : s.radius = real r) : s.influence = real (r * 0.07) := by
  rw [influence, h]
  exact real_mul

theorem ring_eq (h : s.radius = real r) : s.ring = real (r * 0.5) := by
  rw [ring, h]
  exact real_mul

theorem leastDistance_eq (h : s.radius = real r) : s.leastDistance = real (r * 0.14) := by
  rw [leastDistance, influence_eq h, two_eq, real_mul]
  congr 1
  ring

theorem mostDistance_eq (h : s.radius = real r) : s.mostDistance = real (r * 0.4) := by
  have hfactor : (0.8 : Exact) = real 0.8 := rfl
  rw [mostDistance, ring_eq h, hfactor, real_mul]
  congr 1
  ring

/-- Starting points lie on the ring. -/
theorem exists_startingPoint (hr : 0 < r) (h : s.radius = real r) (i : ℕ) :
    ∃ p : Space, s.startingPoint i = (Vec3.exact p).toList ∧ ‖p‖ = r / 2 := by
  have hfleets : ((Nat.max s.fleets 1 : ℕ) : ℝ) ≠ 0 := by
    have hpos : 0 < Nat.max s.fleets 1 := Nat.lt_of_lt_of_le Nat.one_pos (Nat.le_max_right _ _)
    exact_mod_cast hpos.ne'
  let angle : ℝ := 2 * Real.pi * i / (Nat.max s.fleets 1 : ℕ)
  have hangle : (2.0 : Exact) * Scalar.pi * Scalar.ofNat i / Scalar.ofNat (Nat.max s.fleets 1) =
      real angle := by
    have hpi : (Scalar.pi : Exact) = real Real.pi := rfl
    rw [two_eq, hpi, ofNat_eq, ofNat_eq, real_mul, real_mul, real_div hfleets]
  have hcos : Scalar.cos (real angle) = real (Real.cos angle) := rfl
  have hsin : Scalar.sin (real angle) = real (Real.sin angle) := rfl
  refine ⟨!₂[r * 0.5 * Real.cos angle, r * 0.5 * Real.sin angle, 0], ?_, ?_⟩
  · simp only [startingPoint, hangle, hcos, hsin, ring_eq h, real_mul, zero_eq]
    rfl
  · have hsquare : (r * 0.5 * Real.cos angle) ^ 2 + (r * 0.5 * Real.sin angle) ^ 2 + 0 ^ 2 =
        (r / 2) ^ 2 := by
      linear_combination (r / 2) ^ 2 * Real.cos_sq_add_sin_sq angle
    rw [EuclideanSpace.norm_eq, Fin.sum_univ_three]
    simp only [Real.norm_eq_abs, sq_abs]
    show √((r * 0.5 * Real.cos angle) ^ 2 + (r * 0.5 * Real.sin angle) ^ 2 + 0 ^ 2) = _
    rw [hsquare, Real.sqrt_sq (by linarith)]

/-- An asteroid of a map of radius `r`: where it lies and how large it is. -/
structure Scattered (r : ℝ) (rock : AsteroidSite Exact) (p : Space) : Prop where
  mass : rock.mass = 1e6
  position : rock.position = (Vec3.exact p).toList
  distance : ‖p‖ ∈ Set.Ico (0.14 * r) (0.4 * r)
  radius : ∃ size ∈ Set.Ico (10 : ℝ) 60, rock.radius = real size

theorem scattered_asteroid (hr : 0 < r) (h : s.radius = real r) {g : Pcg} (hg : g.IsOdd) :
    ∃ p k, Scattered r (s.asteroid g).1 p ∧ (s.asteroid g).2 = Pcg.step^[k] g := by
  obtain ⟨u, k, hu, hdirection⟩ := hg.exists_direction
  have hrange : r * 0.14 < r * 0.4 := by linarith
  obtain ⟨x, hx, hdistance⟩ := Pcg.exists_uniform (g := Pcg.step^[k] g) hrange
  have hsizes : (10.0 : ℝ) < 60.0 := by norm_num
  obtain ⟨size, hsize, hradius⟩ := Pcg.exists_uniform (g := Pcg.step^[2] (Pcg.step^[k] g)) hsizes
  have hpos : 0 ≤ x := by
    have hle := hx.1
    linarith
  have hnorm : ‖x • u‖ = x := by
    rw [norm_smul, hu, mul_one, Real.norm_of_nonneg hpos]
  have hasteroid : s.asteroid g = (⟨1e6, real size, (Vec3.exact (x • u)).toList, none⟩,
      Pcg.step^[2] (Pcg.step^[2] (Pcg.step^[k] g))) := by
    have hdraw : (Pcg.step^[2] (Pcg.step^[k] g)).uniform (10.0 : Exact) 60.0 =
        (real size, Pcg.step^[2] (Pcg.step^[2] (Pcg.step^[k] g))) := hradius
    rw [asteroid, hdirection]
    simp only [leastDistance_eq h, mostDistance_eq h, hdistance, hdraw, Vec3.exact_mul]
  refine ⟨x • u, 2 + (2 + k), ?_, ?_⟩
  · rw [hasteroid]
    refine ⟨rfl, rfl, ?_, size, ?_, rfl⟩
    · rw [hnorm, mul_comm 0.14, mul_comm 0.4]
      exact hx
    · norm_num at hsize
      exact hsize
  · rw [hasteroid, Function.iterate_add_apply, Function.iterate_add_apply]

theorem scattered_field (hr : 0 < r) (h : s.radius = real r) (n : ℕ) {g : Pcg} (hg : g.IsOdd) :
    ∀ rock ∈ s.field n g, ∃ p, Scattered r rock p := by
  induction n generalizing g with
  | zero => exact List.forall_mem_nil _
  | succ n ih =>
    obtain ⟨p, k, hrock, hnext⟩ := scattered_asteroid hr h hg
    have hrest : ∀ rock ∈ s.field n (s.asteroid g).2, ∃ p, Scattered r rock p := by
      rw [hnext]
      exact ih (hg.iterate k)
    exact List.forall_mem_cons.mpr ⟨⟨p, hrock⟩, hrest⟩

/-- A map of radius `r` as the shape asks for it. -/
structure Lays (s : MapShape Exact) (r : ℝ) (map : ArenaMap Exact) : Prop where
  radius : map.radius = real r
  rules : map.rules = ⟨s.score, s.maxFleetMass⟩
  point : map.controlPoints = [⟨1e6, 10.0, (Vec3.exact 0).toList, 1.0, real (0.07 * r)⟩]
  fleets : map.startingPoints.length = s.fleets
  starts : ∀ start ∈ map.startingPoints, ∃ p : Space, start = (Vec3.exact p).toList ∧ ‖p‖ = r / 2
  asteroids : map.asteroids.length = s.asteroids
  belt : ∀ rock ∈ map.asteroids, ∃ p, Scattered r rock p

theorem exists_lays (hr : 0 < r) (h : s.radius = real r) (seed : UInt64) :
    ∃ map, s.generate? seed = some map ∧ s.Lays r map := by
  have hrange : Pcg.isRange s.leastDistance s.mostDistance = true := by
    have hlt : r * 0.14 < r * 0.4 := by linarith
    rw [Pcg.isRange, leastDistance_eq h, mostDistance_eq h, real_sub, isFinite_real, Bool.and_true,
      decide_eq_true_eq, real_lt]
    exact hlt
  rw [generate?, hrange, Bool.or_true, if_pos rfl]
  refine ⟨_, rfl, h, rfl, ?_, ?_, ?_, length_field _ _, ?_⟩
  · have hcentre : (Vec3.exact 0).toList = [(0.0 : Exact), 0.0, 0.0] := by
      rw [← Vec3.zero_eq]
      rfl
    rw [hcentre, influence_eq h, mul_comm]
  · rw [List.length_map, List.length_range]
  · intro start hstart
    obtain ⟨i, -, rfl⟩ := List.mem_map.mp hstart
    exact exists_startingPoint hr h i
  · exact scattered_field hr h _ (Pcg.isOdd_ofSeed seed)

/-- Asteroids lie outside of twice the influence of the control point, and nearer to the middle than
every starting point. -/
theorem Lays.apart {map : ArenaMap Exact} {rock : AsteroidSite Exact} {p : Space} (hr : 0 < r)
    (h : s.Lays r map) (hrock : Scattered r rock p) :
    (∀ point ∈ map.controlPoints, 2.0 * point.influence ≤ real ‖p‖) ∧
      ∀ start ∈ map.startingPoints, ∀ q : Space, start = (Vec3.exact q).toList → ‖p‖ < ‖q‖ := by
  obtain ⟨hleast, hmost⟩ := hrock.distance
  constructor
  · rw [h.point, List.forall_mem_singleton, two_eq, real_mul, real_le]
    linarith
  · intro start hstart q hq
    obtain ⟨q', hq', hnorm⟩ := h.starts start hstart
    have hsame : Vec3.exact q' = Vec3.exact q := by
      have hlist := hq'.symm.trans hq
      simp only [Vec3.toList, List.cons.injEq, and_true] at hlist
      rw [Vec3.exact, Vec3.exact, Vec3.mk.injEq]
      exact hlist
    rw [← Vec3.exact_injective hsame, hnorm]
    linarith

end MapShape

namespace Setup
variable {α π δ : Type} {m : Type → Type} [Scalar α] [Monad m] [LawfulMonad m] [Pilot α π]
  {s : Setup α m π δ}

/-- A fleet without ships musters if it has a place and is not too heavy even so. -/
theorem muster_of_no_ships {entry : RosterFleet α × List α} (hplace : IsPlace entry.2)
    (hships : entry.1.ships = []) (hlimit : ¬(0.0 : α) > s.map.rules.maxFleetMass)
    (b : Battle α π δ) : s.muster b entry = pure (b.addFleet entry.1.name) := by
  obtain ⟨origin, horigin⟩ := (vets_ofCoordinates entry.2).exists_ok_iff.mpr
    (blame_eq_nil_iff.mpr (not_not.mpr hplace))
  rw [muster, horigin, hships]
  show pure origin >>= _ = _
  rw [pure_bind, List.foldlM_nil, pure_bind]
  exact if_neg hlimit

omit [Scalar α] [Pilot α π] in
/-- A loop of steps that only answer does nothing but answer. -/
theorem exists_foldlM_eq_pure {β γ : Type} {f : β → γ → m β} {l : List γ}
    (h : ∀ x ∈ l, ∀ b, ∃ c, f b x = pure c) (b : β) : ∃ c, l.foldlM f b = pure c := by
  induction l generalizing b with
  | nil => exact ⟨b, rfl⟩
  | cons x rest ih =>
    obtain ⟨hx, hrest⟩ := List.forall_mem_cons.mp h
    obtain ⟨c, hc⟩ := hx b
    rw [List.foldlM_cons, hc, pure_bind]
    exact ih hrest c

/-- A valid setup without ships is built in any monad, and nothing happens on the way. -/
theorem exists_build_of_no_ships (hvalid : s.Valid)
    (hships : ∀ fleet ∈ s.fleets, fleet.ships = []) : ∃ b, s.build = pure b := by
  have hfaults := faults_eq_nil_iff.mpr hvalid
  rw [faults, List.append_eq_nil_iff, List.append_eq_nil_iff, List.append_eq_nil_iff] at hfaults
  obtain ⟨⟨⟨hsettings, hpoints⟩, hrocks⟩, -⟩ := hfaults
  obtain ⟨_, hcheck⟩ := s.vets_check.exists_ok_iff.mpr hsettings
  obtain ⟨b, hlayout⟩ := s.vets_layout.exists_ok_iff.mpr
    (List.append_eq_nil_iff.mpr ⟨hpoints, hrocks⟩)
  have hentries : ∀ entry ∈ s.fleets.zip s.map.startingPoints,
      (entry.1.ships = [] ∧ ¬(0.0 : α) > s.map.rules.maxFleetMass) ∧ IsPlace entry.2 := by
    refine (forall_mem_zip_iff (P := fun fleet : RosterFleet α =>
      fleet.ships = [] ∧ ¬(0.0 : α) > s.map.rules.maxFleetMass) hvalid.room).mpr ⟨?_, hvalid.starts⟩
    intro fleet hfleet
    have hmass := hvalid.masses fleet hfleet
    rw [hships fleet hfleet] at hmass
    exact ⟨hships fleet hfleet, hmass⟩
  have hmuster : ∀ entry ∈ s.fleets.zip s.map.startingPoints, ∀ b,
      ∃ c, s.muster b entry = pure c := by
    intro entry hentry b
    obtain ⟨⟨hnone, hlimit⟩, hplace⟩ := hentries entry hentry
    exact ⟨_, muster_of_no_ships hplace hnone hlimit b⟩
  obtain ⟨c, hfleets⟩ := exists_foldlM_eq_pure hmuster b
  refine ⟨{ c with drawer := s.drawer }, ?_⟩
  rw [build, hcheck, hlayout]
  show pure () >>= (fun _ => pure b >>= _) = _
  rw [pure_bind, pure_bind, hfleets, pure_bind]

end Setup

namespace MapShape
variable {s : MapShape Exact} {r : ℝ}

/-- Settings that are in order, and fleets of different names without any ship, no more of them than
the shape has starting points. -/
structure Seats {m : Type → Type} {π δ : Type} (s : MapShape Exact) (setup : Setup Exact m π δ) :
    Prop where
  tickSeconds : Part.isPositive setup.settings.tickSeconds = true
  frameRate : 1 ≤ setup.settings.frameRate
  maxTicks : setup.settings.maxTicks ≠ some 0
  names : (setup.fleets.map (·.name)).Nodup
  room : setup.fleets.length ≤ s.fleets
  ships : ∀ fleet ∈ setup.fleets, fleet.ships = []

theorem Lays.valid {m : Type → Type} {π δ : Type} {setup : Setup Exact m π δ} (hr : 0 < r)
    (h : s.Lays r setup.map) (hlimit : 0.0 ≤ s.maxFleetMass) (hseats : s.Seats setup) :
    setup.Valid where
  tickSeconds := hseats.tickSeconds
  frameRate := hseats.frameRate
  maxTicks := hseats.maxTicks
  arenaRadius := by
    rw [h.radius]
    exact Part.isPositive_iff.mpr ⟨r, hr, rfl⟩
  controlPoints := by
    have hradius : Part.isNonNegative (10.0 : Exact) = true :=
      Part.isNonNegative_iff.mpr ⟨10.0, by norm_num, rfl⟩
    have hinfluence : Part.isNonNegative (real (0.07 * r)) = true :=
      Part.isNonNegative_iff.mpr ⟨_, by positivity, rfl⟩
    have hpoints : Scalar.isFinite (1.0 : Exact) = true := by
      rw [one_eq, isFinite_real]
    rw [h.point]
    exact List.forall_mem_singleton.mpr
      ⟨isMass_million, hradius, hinfluence, hpoints, isPlace_exact 0⟩
  asteroids := by
    intro rock hrock
    obtain ⟨p, hmass, hposition, -, size, hsize, hradius⟩ := h.belt rock hrock
    have hnonneg : (0 : ℝ) ≤ size := by
      have hle := hsize.1
      linarith
    rw [hmass, hposition, hradius]
    exact ⟨isMass_million, Part.isNonNegative_iff.mpr ⟨size, hnonneg, rfl⟩, isPlace_exact p⟩
  names := hseats.names
  room := by
    rw [h.fleets]
    exact hseats.room
  starts := by
    intro start hstart
    obtain ⟨p, rfl, -⟩ := h.starts start (List.mem_of_mem_take hstart)
    exact isPlace_exact p
  ships := by
    intro fleet hfleet ship hship
    rw [hseats.ships fleet hfleet] at hship
    cases hship
  masses := by
    -- the mass of no ship at all is zero, which the limit allows even if it is infinite
    intro fleet hfleet
    rw [hseats.ships fleet hfleet, h.rules]
    show ¬s.maxFleetMass < (0.0 : Exact)
    rw [zero_eq] at hlimit ⊢
    rcases nonneg_iff.mp hlimit with ⟨x, hx, heq⟩ | heq
    · rw [heq, real_lt, not_lt]
      exact hx
    · rw [heq]
      exact not_posInf_lt_real

/-- Every generated map can be played on. It has the starting points and asteroids that were asked
for, all in their places, as every search for a direction ends; a battle can be set up on it for
fleets that are still to come; and of two maps of one seed and radius the one with fewer asteroids
has the first ones of the other. -/
theorem playable_of_seed {α : Type} [Scalar α] (seed : UInt64) :
    (∀ (s : MapShape Exact) (r : ℝ), 0 < r → s.radius = real r →
      ∃ map, s.generate? seed = some map ∧ s.Lays r map ∧
        (∀ rock ∈ map.asteroids, ∃ p, Scattered r rock p ∧
          (∀ point ∈ map.controlPoints, 2.0 * point.influence ≤ real ‖p‖) ∧
          ∀ start ∈ map.startingPoints, ∀ q : Space, start = (Vec3.exact q).toList → ‖p‖ < ‖q‖) ∧
        (0.0 ≤ s.maxFleetMass → ∀ {m : Type → Type} {π δ : Type} [Monad m] [LawfulMonad m]
          [Pilot Exact π] (setup : Setup Exact m π δ), setup.map = map → s.Seats setup →
          ∃ b, setup.build = pure b)) ∧
    (∀ n, ∃ found : Vec3 Exact × Pcg,
      Pcg.directionWithin wordCount (Pcg.step^[n] (.ofSeed seed)) = some found) ∧
    ∀ (s s' : MapShape α) (map map' : ArenaMap α), s.radius = s'.radius →
      s.asteroids ≤ s'.asteroids → s.generate? seed = some map → s'.generate? seed = some map' →
      map.asteroids <+: map'.asteroids := by
  refine ⟨?_, ?_, fun s s' map map' => asteroids_prefix⟩
  · intro s r hr hradius
    obtain ⟨map, hmap, hlays⟩ := exists_lays hr hradius seed
    refine ⟨map, hmap, hlays, ?_, ?_⟩
    · intro rock hrock
      obtain ⟨p, hp⟩ := hlays.belt rock hrock
      exact ⟨p, hp, hlays.apart hr hp⟩
    · rintro hlimit m π δ _ _ _ setup rfl hseats
      exact Setup.exists_build_of_no_ships (hlays.valid hr hlimit hseats) hseats.ships
  · intro n
    obtain ⟨u, k, -, hfound⟩ := ((Pcg.isOdd_ofSeed seed).iterate n).exists_directionWithin
    exact ⟨_, hfound⟩

/-- The standard shape with more starting points and fewer asteroids. -/
noncomputable def sparse : MapShape Exact :=
  { standard with fleets := 5, asteroids := 3 }

/-- Two fleets that are still to come. -/
noncomputable def skirmish (map : ArenaMap Exact) : Setup Exact Id (StockPilot Exact) Unit where
  map
  catalog := {}
  fleets := [⟨"red", []⟩, ⟨"blue", []⟩]
  registry := .stock id
  settings := .standard
  drawer := none

/-- Of the six asteroids the first three are those of a map that has no more than these, and the
fleets can be set up. -/
theorem playable_of_seed_seven : ∃ map small b, standard.generate? 7 = some map ∧
    sparse.generate? 7 = some small ∧ map.startingPoints.length = 2 ∧ map.asteroids.length = 6 ∧
    (∀ rock ∈ map.asteroids, ∃ p : Space, rock.position = (Vec3.exact p).toList ∧
      ‖p‖ ∈ Set.Ico (280 : ℝ) 800) ∧
    small.asteroids <+: map.asteroids ∧ (skirmish map).build = pure b := by
  obtain ⟨hmaps, -, hfields⟩ := playable_of_seed (α := Exact) 7
  have hradius : (standard : MapShape Exact).radius = real 2000 := by
    show (2000.0 : Exact) = real 2000
    rw [scientific]
    norm_num
  have hr : (0 : ℝ) < 2000 := by norm_num
  obtain ⟨map, hmap, hlays, hrocks, hplay⟩ := hmaps .standard 2000 hr hradius
  obtain ⟨small, hsmall, -⟩ := hmaps sparse 2000 hr hradius
  have hlimit : (0.0 : Exact) ≤ (standard : MapShape Exact).maxFleetMass := by
    have hpos : (0 : ℝ) ≤ 1e5 := by norm_num
    rw [zero_eq]
    exact hpos
  have hseats : standard.Seats (skirmish map) := by
    refine ⟨?_, ?_, nofun, ?_, ?_, ?_⟩
    · exact Part.isPositive_iff.mpr ⟨1e-2, by norm_num, rfl⟩
    · show 1 ≤ 10
      decide
    · show ["red", "blue"].Nodup
      decide
    · show 2 ≤ 2
      decide
    · simp [skirmish]
  obtain ⟨b, hb⟩ := hplay hlimit (skirmish map) rfl hseats
  refine ⟨map, small, b, hmap, hsmall, hlays.fleets, hlays.asteroids, ?_, ?_, hb⟩
  · intro rock hrock
    obtain ⟨p, hp, -⟩ := hrocks rock hrock
    have hdistance := hp.distance
    norm_num at hdistance
    exact ⟨p, hp.position, hdistance⟩
  · exact hfields sparse .standard small map rfl (by decide) hsmall hmap

end MapShape
end FleetArena
