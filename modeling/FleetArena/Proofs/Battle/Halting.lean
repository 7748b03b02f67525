import FleetArena.Pilot.Idle
import FleetArena.Proofs.Battle.Launching
import FleetArena.Proofs.Drawing.Stream
import FleetArena.Proofs.Sphere

/-! How a step ends. A tick that is completed leaves nothing in the arena that ought to be gone, and
a body that is not finite ends the battle for good. -/
namespace FleetArena
variable {α π δ : Type} [Scalar α]

namespace Body
variable {x : Body α} {tick : Nat} {e : StepError}

def IsFinite (x : Body α) : Prop :=
  x.position.isFinite = true ∧ x.velocity.isFinite = true

/-- A part of the motion is not finite, but what is looked at before it is. -/
def Diverges (x : Body α) : Motion → Prop
  | .position => x.position.isFinite = false
  | .velocity => x.position.isFinite = true ∧ x.velocity.isFinite = false

theorem checkFinite_eq_ok_iff : x.checkFinite tick = .ok () ↔ x.IsFinite := by
  rw [IsFinite, ← nonFinite?_eq_none_iff, checkFinite]
  cases x.nonFinite? <;> simp

theorem diverges_of_nonFinite? {motion : Motion} (h : x.nonFinite? = some motion) :
    x.Diverges motion := by
  rw [nonFinite?] at h
  split at h
  · rename_i hposition
    obtain rfl := Option.some.inj h
    rwa [Bool.not_eq_true'] at hposition
  · rename_i hposition
    split at h
    · rename_i hvelocity
      obtain rfl := Option.some.inj h
      rw [Bool.not_eq_true'] at hvelocity
      refine ⟨?_, hvelocity⟩
      simpa using hposition
    · cases h

theorem diverges_of_checkFinite (h : x.checkFinite tick = .error e) :
    ∃ motion, x.Diverges motion ∧ e = .nonFinite x.id motion tick := by
  rw [checkFinite] at h
  cases hx : x.nonFinite? with
  | none =>
    rw [hx] at h
    cases h
  | some motion =>
    rw [hx] at h
    exact ⟨motion, diverges_of_nonFinite? hx, (Except.error.inj h).symm⟩

end Body

/-- The first of the bodies that is not finite has the number `id`, and fails in this part of its
motion. -/
def Motion.Blamed (motion : Motion) (id : ObjectId) (bodies : List (Body α)) : Prop :=
  ∃ before x after, bodies = before ++ x :: after ∧ (∀ y ∈ before, y.IsFinite) ∧
    x.Diverges motion ∧ x.id = id

namespace Battle
variable {b c : Battle α π δ} {e : StepError}

theorem checkFinite_cases (b : Battle α π δ) :
    (b.checkFinite = .ok () ∧ ∀ x ∈ b.bodies, x.IsFinite) ∨
      ∃ id motion, b.checkFinite = .error (.nonFinite id motion b.tick) ∧
        motion.Blamed id b.bodies := by
  rw [checkFinite]
  induction b.bodies with
  | nil => exact Or.inl ⟨rfl, List.forall_mem_nil _⟩
  | cons x rest ih =>
    rw [List.forM_eq_forM, List.forM_cons]
    cases hx : x.checkFinite b.tick with
    | error e =>
      -- the bodies behind this one are not looked at
      obtain ⟨motion, hdiverges, rfl⟩ := Body.diverges_of_checkFinite hx
      exact Or.inr ⟨x.id, motion, rfl, [], x, rest, rfl, List.forall_mem_nil _, hdiverges, rfl⟩
    | ok u =>
      have hfinite : x.IsFinite := Body.checkFinite_eq_ok_iff.mp hx
      rcases ih with ⟨hok, hrest⟩ | ⟨id, motion, herror, before, y, after, rfl, hbefore, hy⟩
      · exact Or.inl ⟨hok, List.forall_mem_cons.mpr ⟨hfinite, hrest⟩⟩
      · refine Or.inr ⟨id, motion, herror, x :: before, y, after, rfl, ?_, hy⟩
        exact List.forall_mem_cons.mpr ⟨hfinite, hbefore⟩

/-- All bodies are finite, and what is destroyed, spent or outside the arena is not there. -/
structure IsClean (b : Battle α π δ) : Prop where
  finite : ∀ x ∈ b.bodies, x.IsFinite
  ships : ∀ s ∈ b.ships, ¬s.body.health ≤ 0.0 ∧ ¬s.body.position.length > b.arenaRadius
  projectiles : ∀ p ∈ b.projectiles, p.spent = false ∧ ¬p.body.health ≤ 0.0 ∧
    ¬p.body.position.length > b.arenaRadius

theorem not_isGone_iff {x : Body α} :
    b.isGone x = false ↔ ¬x.health ≤ 0.0 ∧ ¬x.position.length > b.arenaRadius := by
  rw [isGone, Body.isDestroyed, Body.isOutside, Bool.or_eq_false_iff, decide_eq_false_iff_not,
    decide_eq_false_iff_not]

theorem mem_bodies_cull {x : Body α} (h : x ∈ b.cull.1.bodies) : x ∈ b.bodies := by
  have hships : b.cull.1.ships.map Ship.body ⊆ b.ships.map Ship.body := by
    rw [ships_cull]
    exact List.map_subset _ List.filter_sublist.subset
  have hshots : b.cull.1.projectiles.map (·.body) ⊆ b.projectiles.map (·.body) := by
    rw [projectiles_cull]
    exact List.map_subset _ List.filter_sublist.subset
  simp only [bodies, List.mem_append] at h ⊢
  rcases h with ((hs | hp) | ha) | hp
  · exact Or.inl (Or.inl (Or.inl (hships hs)))
  · exact Or.inl (Or.inl (Or.inr hp))
  · exact Or.inl (Or.inr ha)
  · exact Or.inr (hshots hp)

theorem isClean_cull (h : ∀ x ∈ b.bodies, x.IsFinite) : b.cull.1.IsClean where
  finite := fun x hx => h x (mem_bodies_cull hx)
  ships := by
    intro s hs
    rw [ships_cull, List.mem_filter, Bool.not_eq_true'] at hs
    exact not_isGone_iff.mp hs.2
  projectiles := by
    intro p hp
    rw [projectiles_cull, List.mem_filter, Bool.not_eq_true', Bool.or_eq_false_iff] at hp
    exact ⟨hp.2.1, not_isGone_iff.mp hp.2.2⟩

/-- No phase of a tick moves the border of the arena. -/
theorem arenaRadius_phases (b : Battle α π δ) : b.cull.1.arenaRadius = b.arenaRadius ∧
    b.collide.arenaRadius = b.arenaRadius ∧ b.integrate.arenaRadius = b.arenaRadius :=
  ⟨rfl, rfl, rfl⟩

variable [Drawer α δ] [Pilot α π]

theorem arenaRadius_launched (b : Battle α π δ) : b.launched.arenaRadius = b.arenaRadius := by
  obtain ⟨drawer, drawn, deleted, hstart⟩ := b.exists_start_eq
  rw [launched_eq, hstart]
  rfl

theorem arenaRadius_collided (b : Battle α π δ) :
    b.start.move.collide.arenaRadius = b.arenaRadius :=
  calc b.start.move.collide.arenaRadius
      = b.start.move.arenaRadius := (arenaRadius_phases _).2.1
    _ = b.launched.arenaRadius := (arenaRadius_phases _).2.2
    _ = b.arenaRadius := b.arenaRadius_launched

theorem arenaRadius_completed (b : Battle α π δ) : b.completed.arenaRadius = b.arenaRadius :=
  calc b.completed.arenaRadius
      = b.start.move.collide.cull.1.arenaRadius := by rw [completed]
    _ = b.start.move.collide.arenaRadius := (arenaRadius_phases _).1
    _ = b.arenaRadius := b.arenaRadius_collided

theorem isClean_completed (h : ∀ x ∈ b.start.move.collide.bodies, x.IsFinite) :
    b.completed.IsClean := by
  have hcull := isClean_cull h
  rw [completed]
  -- only the clock differs, which none of the bodies depends on
  generalize b.start.move.collide.cull.1 = c at hcull
  exact ⟨hcull.finite, hcull.ships, hcull.projectiles⟩

/-- The ships that a completed tick removes, and those that it keeps. -/
structure Sweeps (b c : Battle α π δ) (removed : List (Ship α π)) : Prop where
  clean : c.IsClean
  arenaRadius : c.arenaRadius = b.arenaRadius
  tick : c.tick = b.tick + 1
  removed : removed = b.start.move.collide.ships.filter fun s => b.isGone s.body
  kept : c.ships = b.start.move.collide.ships.filter fun s => !b.isGone s.body

theorem Completes.sweeps (h : b.Completes)
    (hfinite : ∀ x ∈ b.start.move.collide.bodies, x.IsFinite) :
    b.Sweeps b.step.battle b.step.removed := by
  have hgone : b.start.move.collide.isGone = b.isGone := by
    funext x
    rw [isGone, isGone, arenaRadius_collided]
  have hremoved : b.step.removed =
      b.start.move.collide.ships.filter fun s => b.isGone s.body := by
    rw [show b.step = _ from h, removed_cull, hgone]
  have hkept : b.completed.ships =
      b.start.move.collide.ships.filter fun s => !b.isGone s.body := by
    rw [ships_completed, ships_cull, hgone]
  have hclean := isClean_completed hfinite
  have hradius := b.arenaRadius_completed
  obtain ⟨htick, -⟩ := b.clock_completed
  obtain ⟨drawer, drawn, deleted, hbattle⟩ := h.exists_battle_eq
  rw [hbattle]
  -- the frame that may follow the cull shows the objects and leaves them as they are
  generalize b.completed = c at hclean hradius htick hkept
  exact ⟨⟨hclean.finite, hclean.ships, hclean.projectiles⟩, hradius, htick, hremoved, hkept⟩

/-- Steps of a halted battle do nothing, however many there are. -/
theorem operateAll_steps_of_halted (h : b.halted = true) (n : Nat) :
    b.operateAll (List.replicate n .step) = b := by
  induction n with
  | zero => rfl
  | succ n ih =>
    rw [List.replicate_succ, operateAll, operate, step_of_halted h]
    exact ih

/-- `c` is the battle as it was when a check of the next step of `b` found the body `id`, and is
halted. -/
structure Halts (b c : Battle α π δ) (id : ObjectId) (motion : Motion) : Prop where
  found : ∃ d, (d = b.start.move ∨
      d = b.start.move.collide ∧ ∀ x ∈ b.start.move.bodies, x.IsFinite) ∧
    motion.Blamed id d.bodies ∧ c = d.halt
  tick : c.tick = b.tick
  ids : c.ids = b.launched.ids
  drawn : c.drawn = b.start.drawn
  deleted : c.deleted = b.start.deleted
  final : ∀ n, c.operateAll (List.replicate n .step) = c ∧
    (c.operateAll (List.replicate n .step)).step = ⟨c, [], .error .halted⟩
  silent : ∀ ops : List (Operation α π), c.shownIn ops = []

theorem halts_of_blamed {d : Battle α π δ} {id : ObjectId} {motion : Motion}
    (hd : d = b.start.move ∨ d = b.start.move.collide ∧ ∀ x ∈ b.start.move.bodies, x.IsFinite)
    (hblamed : motion.Blamed id d.bodies) : b.Halts d.halt id motion := by
  obtain ⟨htick, -⟩ := b.clock_start
  obtain ⟨count, hmove⟩ := b.start.grows_move
  have hcollide := hmove.trans (grows_collide _)
  have hids : b.start.move.ids = b.launched.ids := ids_integrate _
  have hall : d.tick = b.tick ∧ d.ids = b.launched.ids ∧ d.drawn = b.start.drawn ∧
      d.deleted = b.start.deleted := by
    rcases hd with rfl | ⟨rfl, -⟩
    · exact ⟨hmove.tick.trans htick, hids, hmove.drawn, hmove.deleted⟩
    · exact ⟨hcollide.tick.trans htick, (ids_collide _).trans hids, hcollide.drawn,
        hcollide.deleted⟩
  obtain ⟨hdtick, hdids, hddrawn, hddeleted⟩ := hall
  refine ⟨⟨d, hd, hblamed, rfl⟩, hdtick, hdids, hddrawn, hddeleted, ?_, ?_⟩
  · intro n
    have hstays : d.halt.operateAll (List.replicate n .step) = d.halt :=
      operateAll_steps_of_halted rfl n
    rw [hstays]
    exact ⟨rfl, step_of_halted rfl⟩
  · intro ops
    exact (run_of_halted ops rfl).1

/-- A step that succeeds completes one tick and leaves a clean battle: the ships that were destroyed
or outside the arena after the collisions are removed, and the others stay in order. A step that
fails names the first body that is not finite, in the order of ships, control points, asteroids and
projectiles; it removes nothing, and from then on every step fails and changes nothing. -/
theorem clean_or_halted_step (b : Battle α π δ) :
    match b.step.result with
    | .ok _ => b.halted = false ∧ b.Sweeps b.step.battle b.step.removed
    | .error (.nonFinite id motion tick) =>
      b.halted = false ∧ tick = b.tick ∧ b.step.removed = [] ∧ b.Halts b.step.battle id motion
    | .error .halted => b.halted = true ∧ b.step.battle = b ∧ b.step.removed = [] := by
  cases hh : b.halted with
  | true =>
    rw [step_of_halted hh]
    exact ⟨rfl, rfl, rfl⟩
  | false =>
    obtain ⟨htick, -⟩ := b.clock_start
    obtain ⟨count, hmove⟩ := b.start.grows_move
    have hmoved : b.start.move.tick = b.tick := hmove.tick.trans htick
    rcases b.start.move.checkFinite_cases with ⟨hbefore, hfinite⟩ | ⟨id, motion, hbefore, hblamed⟩
    · rcases b.start.move.collide.checkFinite_cases with
        ⟨hafter, hfinite'⟩ | ⟨id, motion, hafter, hblamed⟩
      · have hcompletes := completes_of_checkFinite hh hbefore hafter
        have hresult : b.step.result = .ok b.completed.outcome? := by
          rw [show b.step = _ from hcompletes]
        rw [hresult]
        exact ⟨rfl, hcompletes.sweeps hfinite'⟩
      · rw [step_of_error_after hh hbefore hafter]
        exact ⟨rfl, hmoved, rfl, halts_of_blamed (Or.inr ⟨rfl, hfinite⟩) hblamed⟩
    · rw [step_of_error_before hh hbefore]
      exact ⟨rfl, hmoved, rfl, halts_of_blamed (Or.inl rfl) hblamed⟩

open Exact

/-- A rock whose place is no number. -/
noncomputable def lostRock : Battle Exact Idle (Channel Exact) :=
  ((empty 1000.0 .standard).addAsteroid ⟨nan, 0.0, 0.0⟩ 1.0 1.0 "rock").2

theorem halts_of_lostRock : lostRock.step.result = .error (.nonFinite 1 .position 0) ∧
    lostRock.Halts lostRock.step.battle 1 .position ∧
    lostRock.step.battle.step.result = .error .halted := by
  have hbodies : lostRock.start.move.bodies =
      [Body.integrate (.atRest 1 ⟨nan, 0.0, 0.0⟩ 1.0 1.0 1.0) lostRock.dt] := rfl
  have hcheck : lostRock.start.move.checkFinite = .error (.nonFinite 1 .position 0) := by
    have hplace : (Body.integrate (.atRest 1 ⟨nan, 0.0, 0.0⟩ 1.0 1.0 1.0) lostRock.dt).position.x =
        nan := rfl
    rw [checkFinite, hbodies, List.forM_eq_forM, List.forM_cons, Body.checkFinite,
      Body.nonFinite?, Vec3.isFinite, hplace, isFinite_nan]
    rfl
  have hresult : lostRock.step.result = .error (.nonFinite 1 .position 0) := by
    rw [step_of_error_before rfl hcheck]
  have hstep := clean_or_halted_step lostRock
  rw [hresult] at hstep
  obtain ⟨-, -, -, hhalts⟩ := hstep
  refine ⟨hresult, hhalts, ?_⟩
  exact congrArg Step.result (hhalts.final 0).2

end Battle
end FleetArena
