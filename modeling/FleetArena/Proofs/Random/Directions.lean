import FleetArena.ArenaMap
import FleetArena.Pilot.Wanderer
import FleetArena.Proofs.Random
import FleetArena.Proofs.Vessel.Attempts

/-! Where directions are drawn: for the asteroids of a map, and for the legs of a wanderer. Both
start from a seed and do nothing to the generator but draw from it, so that they look for a
direction only where the search ends. -/
namespace FleetArena
open Exact

namespace Pcg

/-- The generator `g'` is what some draws make of `g`. -/
def Reaches (g g' : Pcg) : Prop :=
  ∃ n, g' = step^[n] g

theorem Reaches.refl (g : Pcg) : g.Reaches g :=
  ⟨0, rfl⟩

theorem Reaches.trans {g g' g'' : Pcg} (h : g.Reaches g') (h' : g'.Reaches g'') :
    g.Reaches g'' := by
  obtain ⟨m, rfl⟩ := h
  obtain ⟨n, rfl⟩ := h'
  exact ⟨n + m, (Function.iterate_add_apply step n m g).symm⟩

variable {α : Type} [Scalar α]

theorem reaches_uniform (g : Pcg) (low high : α) : g.Reaches (g.uniform low high).2 :=
  ⟨2, rfl⟩

theorem reaches_cubePoint (g : Pcg) : g.Reaches (g.cubePoint : Vec3 α × Pcg).2 :=
  ⟨6, rfl⟩

theorem reaches_directionWithin {attempts : ℕ} {g : Pcg} {found : Vec3 α × Pcg}
    (h : directionWithin attempts g = some found) : g.Reaches found.2 := by
  induction attempts generalizing g with
  | zero => cases h
  | succ attempts ih =>
    simp only [directionWithin] at h
    apply (reaches_cubePoint (α := α) g).trans
    split at h
    · cases h
      exact .refl _
    · exact ih h

theorem reaches_direction (g : Pcg) : g.Reaches (g.direction : Vec3 α × Pcg).2 := by
  rw [direction]
  cases h : (directionWithin wordCount g : Option (Vec3 α × Pcg)) with
  | none => exact .refl g
  | some found => exact reaches_directionWithin h

end Pcg

section
variable {α : Type} [Scalar α]

theorem MapShape.reaches_asteroid (s : MapShape α) (g : Pcg) : g.Reaches (s.asteroid g).2 :=
  (Pcg.reaches_direction (α := α) g).trans
    ((Pcg.reaches_uniform _ s.leastDistance s.mostDistance).trans
      (Pcg.reaches_uniform _ (10.0 : α) 60.0))

/-- Every asteroid of a field is drawn where some draws have taken the generator. -/
theorem MapShape.exists_field_eq (s : MapShape α) (m : ℕ) (g : Pcg) :
    ∃ draws : List ℕ, s.field m g = draws.map fun n => (s.asteroid (Pcg.step^[n] g)).1 := by
  induction m generalizing g with
  | zero => exact ⟨[], rfl⟩
  | succ m ih =>
    obtain ⟨n, hnext⟩ := s.reaches_asteroid g
    obtain ⟨draws, hrest⟩ := ih (s.asteroid g).2
    refine ⟨0 :: draws.map (· + n), ?_⟩
    rw [field, List.map_cons, List.map_map]
    refine congrArg (_ :: ·) (hrest.trans ?_)
    simp only [hnext, ← Function.iterate_add_apply, Function.comp_def]

namespace Wanderer
variable {p : Wanderer α}

theorem reaches_nextWaypoint (p : Wanderer α) (reading : Reading α) :
    p.generator.Reaches (p.nextWaypoint reading).2.generator := by
  rw [nextWaypoint]
  split
  · exact .refl _
  · exact (Pcg.reaches_uniform _ _ _).trans (Pcg.reaches_direction _)

theorem reaches_provided (p : Wanderer α) (reading : Reading α) :
    p.generator.Reaches (p.provided reading).generator := by
  rw [provided]
  split
  · exact p.reaches_nextWaypoint reading
  · exact .refl _

/-- A tick does nothing to the generator but draw from it. -/
theorem reaches_follow_plan (p : Wanderer α) (v : Vessel α) (tick : Nat) (world : World α) :
    p.generator.Reaches (v.follow tick world p.plan).2.generator := by
  -- without a sensor or a reading the pilot stays as it is, and what follows its choice of a
  -- waypoint is the navigator's business
  rw [plan]
  simp only [bind, Vessel.follow_andThen]
  split
  · exact .refl _
  simp only [Vessel.follow_andThen]
  split
  · exact .refl _
  · simp only [Vessel.follow_andThen]
    exact p.reaches_provided _

/-- What has become of the wanderer of a seed after some ticks, each on some vessel in some
world. -/
inductive Flown (seed : UInt64) : Wanderer α → Prop
  | start : Flown seed (.ofSeed seed.toNat)
  | tick {p : Wanderer α} (h : Flown seed p) (v : Vessel α) (tick : Nat) (world : World α) :
    Flown seed (v.follow tick world p.plan).2

theorem Flown.reaches {seed : UInt64} (h : Flown seed p) :
    (Pcg.ofSeed seed).Reaches p.generator := by
  induction h with
  | start =>
    rw [ofSeed, UInt64.ofNat_toNat]
    exact .refl _
  | tick _ v tick world ih => exact ih.trans (reaches_follow_plan _ v tick world)

end Wanderer
end

section
variable {g : Pcg} {misses : ℕ} {u : Space}

/-- An asteroid lies in the direction that the search finds. -/
theorem MapShape.exists_position_asteroid (s : MapShape Exact) (h : g.Finds misses u)
    (hle : 3 * misses ≤ 2 ^ 32) :
    ∃ distance : Exact, (s.asteroid g).1.position = (Vec3.exact u * distance).toList := by
  rw [asteroid, h.direction_eq hle]
  exact ⟨_, rfl⟩

/-- A wanderer turns back, or it draws a leg and then goes in the direction that the search
finds. -/
theorem Wanderer.nextWaypoint_cases (p : Wanderer Exact)
    (h : (Pcg.step^[2] p.generator).Finds misses u) (hle : 3 * misses ≤ 2 ^ 32)
    (reading : Reading Exact) :
    let next := p.nextWaypoint reading
    next.2 = p ∨ (∃ leg : Exact, next.1.position = reading.position + Vec3.exact u * leg) ∧
      next.2.generator = Pcg.step^[6 * (misses + 1)] (Pcg.step^[2] p.generator) := by
  have hdirection : ((p.generator.uniform leastLeg mostLeg : Exact × Pcg).2.direction :
      Vec3 Exact × Pcg) = (.exact u, Pcg.step^[6 * (misses + 1)] (Pcg.step^[2] p.generator)) :=
    h.direction_eq hle
  rw [nextWaypoint]
  split
  · exact Or.inl rfl
  · refine Or.inr ⟨⟨(p.generator.uniform leastLeg mostLeg : Exact × Pcg).1, ?_⟩, ?_⟩
    · simp only [hdirection]
    · simp only [hdirection]

end

/-- Every search for a direction ends, whatever the seed and however much has been drawn before. The
coordinates of a candidate are whole multiples of `2 ^ -51`, so that rounding has no part in it, and
the candidate is rejected just if it is the origin, which takes three numbers in a row whose upper
52 bits are `2 ^ 51`. No more than `2 ^ 32 / 3` candidates in a row are rejected, and the next one
has the direction that is found, however many attempts are left. In this direction an asteroid is
placed, and the asteroids of a map are drawn one after the other from the generator of the seed. A
wanderer has no other generator at any time, and goes in such a direction unless it turns back. -/
theorem Pcg.search_ends_of_seed (seed : UInt64) :
    let start := ofSeed seed
    (∀ n,
      let g := step^[n] start
      let candidate := (g.cubePoint : Vec3 Exact × Pcg).1
      (∃ a b c : ℤ, (|a| ≤ 2 ^ 51 ∧ |b| ≤ 2 ^ 51 ∧ |c| ≤ 2 ^ 51) ∧
        candidate = ⟨real (a / 2 ^ 51), real (b / 2 ^ 51), real (c / 2 ^ 51)⟩) ∧
      (candidate.normalize? = none ↔ candidate = .zero) ∧
      (candidate = .zero ↔ ∀ i < 3, ((step^[2 * i] g).next64.1 >>> 12).toNat = 2 ^ 51) ∧
      ∃ misses u, 3 * misses ≤ 2 ^ 32 ∧ g.Finds misses u ∧
        (g.direction : Vec3 Exact × Pcg) = (.exact u, step^[6 * (misses + 1)] g) ∧
        ∀ s : MapShape Exact, ∃ distance : Exact,
          (s.asteroid g).1.position = (Vec3.exact u * distance).toList) ∧
    (∀ (s : MapShape Exact) (m : ℕ), ∃ draws : List ℕ,
      s.field m start = draws.map fun n => (s.asteroid (step^[n] start)).1) ∧
    ∀ p : Wanderer Exact, p.Flown seed → ∃ n, p.generator = step^[n] start ∧
      ∃ misses u, 3 * misses ≤ 2 ^ 32 ∧ (step^[2 + n] start).Finds misses u ∧
        ∀ reading,
          let next := p.nextWaypoint reading
          next.2 = p ∨ (∃ leg : Exact, next.1.position = reading.position + Vec3.exact u * leg) ∧
            next.2.generator = step^[6 * (misses + 1)] (step^[2 + n] start) := by
  intro start
  have hfound (n : ℕ) : ∃ misses u, 3 * misses ≤ 2 ^ 32 ∧ (step^[n] start).Finds misses u :=
    ((isOdd_ofSeed seed).iterate n).exists_finds
  refine ⟨fun n => ?_, fun s m => s.exists_field_eq m start, fun p hp => ?_⟩
  · obtain ⟨misses, u, hle, hfinds⟩ := hfound n
    obtain ⟨hmultiples, hrejected, horigin⟩ := (step^[n] start).candidate_spec
    exact ⟨hmultiples, hrejected, horigin, misses, u, hle, hfinds, hfinds.direction_eq hle,
      fun s => s.exists_position_asteroid hfinds hle⟩
  · obtain ⟨n, hn⟩ := hp.reaches
    obtain ⟨misses, u, hle, hfinds⟩ := hfound (2 + n)
    refine ⟨n, hn, misses, u, hle, hfinds, ?_⟩
    rw [Function.iterate_add_apply, ← hn] at hfinds ⊢
    exact p.nextWaypoint_cases hfinds hle

/-- With this seed the first candidate is not the origin, and the wanderer of the seed is still on
its sequence after a tick. -/
theorem Pcg.search_ends_of_seed_seven : ∃ u : Space, ‖u‖ = 1 ∧
    directionWithin 1 (ofSeed 7) = some (.exact u, step^[6] (ofSeed 7)) ∧
    ((ofSeed 7).direction : Vec3 Exact × Pcg) = (.exact u, step^[6] (ofSeed 7)) ∧
    ∀ (v : Vessel Exact) (tick : Nat) (world : World Exact), ∃ n,
      (v.follow tick world (Wanderer.ofSeed 7).plan).2.generator = step^[n] (ofSeed 7) := by
  obtain ⟨hsearch, -, hflown⟩ := search_ends_of_seed 7
  obtain ⟨-, -, -, misses, u, -, hfinds, hdirection, -⟩ := hsearch 0
  obtain rfl : misses = 0 := by
    by_contra hne
    have horigin := hfinds.miss 0 (Nat.pos_of_ne_zero hne) 0 (by decide)
    revert horigin
    decide +kernel
  refine ⟨u, hfinds.unit, hfinds.within 1, hdirection, fun v tick world => ?_⟩
  obtain ⟨n, hn, -⟩ := hflown _ (Wanderer.Flown.start.tick v tick world)
  exact ⟨n, hn⟩

end FleetArena
