import FleetArena.Proofs.Battle.Stepping
import FleetArena.Proofs.Contact.Time

/-! Bodies at rest that do not touch stay where they are, and a tick that finds no others is
completed. -/
namespace FleetArena
open Exact

namespace Body

/-- The body `b` lies at the point `p`. Its radius may be any number. -/
structure Rests (b : Body Exact) (p : Space) (r : ℝ) : Prop where
  position : b.position = Vec3.exact p
  velocity : b.velocity = Vec3.exact 0
  radius : b.radius = real r

variable {a b : Body Exact} {p q : Space} {r s t : ℝ}

theorem IsSphere.rests (h : b.IsSphere p 0 r) : b.Rests p r :=
  ⟨h.position, h.velocity, h.radius⟩

theorem Rests.nonFinite?_eq_none (h : b.Rests p r) : b.nonFinite? = none :=
  nonFinite?_eq_none_iff.mpr
    ⟨Vec3.isFinite_iff.mpr ⟨p, h.position⟩, Vec3.isFinite_iff.mpr ⟨0, h.velocity⟩⟩

theorem Rests.integrate (h : b.Rests p r) (t : ℝ) : b.integrate (real t) = b := by
  have hposition : b.position + b.velocity * real t = b.position := by
    rw [h.position, h.velocity, Vec3.exact_mul, Vec3.exact_add, smul_zero, add_zero]
  rw [Body.integrate, hposition]

theorem Rests.contact?_eq_none (ha : a.Rests p r) (hb : b.Rests q s) (h : r + s < ‖q - p‖) (t : ℝ) :
    a.contact? b (real t) = none := by
  have hpath : (a.velocity - b.velocity) * real t = Vec3.exact 0 := by
    rw [ha.velocity, hb.velocity, Vec3.exact_sub, Vec3.exact_mul, sub_zero, smul_zero]
  have happroach : a.Approach b t 0 (q - p) (r + s) := by
    refine ⟨hpath, ?_, ?_⟩
    · rw [ha.position, hb.position, Vec3.exact_sub]
    · rw [ha.radius, hb.radius, real_add]
  apply happroach.contact?_of_far h
  rw [norm_zero]
  exact sub_pos.mpr h

end Body

/-- A ship that is built of one part at its centre is a sphere at rest. -/
theorem Vessel.isSphere_assemble_of_single (part : Part Exact)
    (hposition : part.mount.position = .zero) (hradius : part.mount.radius = 1.0) (id : ObjectId)
    (fleet : String) (dt : Exact) :
    (assemble id fleet (.zero + .zero) [part] dt).hull.body.IsSphere 0 0 1 := by
  have hparts : (Loadout.ofParts [part]).toParts = [part] :=
    List.perm_singleton.mp (toParts_ofParts_perm [part])
  refine ⟨?_, Vec3.zero_eq, ?_, zero_le_one⟩
  · change (.zero + .zero : Vec3 Exact) = _
    rw [Vec3.zero_eq, Vec3.exact_add, zero_add]
  · change (Loadout.ofParts [part]).boundingRadius = _
    rw [Loadout.boundingRadius, Loadout.mounts, hparts]
    change Scalar.maximum [part.mount.position.length + part.mount.radius] = _
    rw [hposition, hradius, Vec3.zero_eq, Vec3.length_exact, norm_zero, one_eq, real_add, zero_add]
    simpa using maximum_map_real [1]

namespace Battle
variable {π δ : Type}

section
variable {α : Type} [Scalar α] {b : Battle α π δ} {dt : α} {bodies : List (Body α)}

theorem checkFinite_of_forall (h : ∀ x ∈ b.bodies, x.nonFinite? = none) :
    b.checkFinite = .ok () := by
  rw [checkFinite]
  generalize b.bodies = bodies at h
  induction bodies with
  | nil => rfl
  | cons x rest ih =>
    obtain ⟨hx, hrest⟩ := List.forall_mem_cons.mp h
    have hok : x.checkFinite b.tick = .ok () := by
      rw [Body.checkFinite, hx]
    rw [List.forM_eq_forM, List.forM_cons, hok]
    exact ih hrest

theorem strike_of_none (h : ∀ x ∈ bodies, ∀ y ∈ bodies, ∀ cor, x.collide? y dt cor = none)
    (cor : α) (i j : Nat) : strike dt cor bodies i j = (bodies, false) := by
  rw [strike_eq]
  split
  · rfl
  split
  · rename_i x y hx hy
    rw [h x (List.mem_of_getElem? hx) y (List.mem_of_getElem? hy)]
  · rfl

theorem strikeSolids_of_none (h : ∀ x ∈ bodies, ∀ y ∈ bodies, ∀ cor, x.collide? y dt cor = none)
    (pairs : List (Nat × Nat)) : strikeSolids dt pairs bodies = bodies := by
  induction pairs with
  | nil => rfl
  | cons p rest ih =>
    rw [strikeSolids, List.foldl_cons, strike_of_none h]
    exact ih

theorem strikeShots_of_none (h : ∀ x ∈ bodies, ∀ y ∈ bodies, ∀ cor, x.collide? y dt cor = none)
    (solids : Nat) (pairs : List (Nat × Nat)) (spent : List Bool) :
    strikeShots dt solids pairs bodies spent = (bodies, spent) := by
  induction pairs with
  | nil => rfl
  | cons p rest ih =>
    rw [strikeShots, List.foldl_cons]
    split
    · exact ih
    · rename_i hunspent
      -- a projectile that is not spent stays so
      have hset : spent.set (p.1 - solids) false = spent :=
        set_of_getD (Bool.not_eq_true _ ▸ hunspent)
      rw [strike_of_none h]
      dsimp only
      rw [hset]
      exact ih

omit [Scalar α] in
theorem withBodies_self (b : Battle α π δ) :
    b.withBodies b.bodies (b.projectiles.map (·.spent)) = b := by
  have hships : b.ships.zipWith Ship.withBody b.bodies = b.ships := by
    simp only [Battle.bodies, List.append_assoc]
    exact zipWith_map_append (fun _ => rfl) _ _
  have hdrop : b.bodies.drop b.ships.length = b.controlPoints.map (·.body) ++
      (b.asteroids.map (·.body) ++ b.projectiles.map (·.body)) := by
    simp only [Battle.bodies, List.append_assoc]
    exact List.drop_left' (List.length_map _)
  have hdrop' : (b.bodies.drop b.ships.length).drop b.controlPoints.length =
      b.asteroids.map (·.body) ++ b.projectiles.map (·.body) := by
    rw [hdrop]
    exact List.drop_left' (List.length_map _)
  have hdrop'' : ((b.bodies.drop b.ships.length).drop b.controlPoints.length).drop
      b.asteroids.length = b.projectiles.map (·.body) := by
    rw [hdrop']
    exact List.drop_left' (List.length_map _)
  have hpoints := zipWith_map_append (f := fun (p : ControlPoint α) body => { p with body })
    (g := (·.body)) (fun _ => rfl) b.controlPoints
    (b.asteroids.map (·.body) ++ b.projectiles.map (·.body))
  have hrocks := zipWith_map_append (f := fun (a : Asteroid α) body => { a with body })
    (g := (·.body)) (fun _ => rfl) b.asteroids (b.projectiles.map (·.body))
  have hshots : List.zipWith (fun body spent => (⟨body, spent⟩ : Projectile α))
      (b.projectiles.map (·.body)) (b.projectiles.map (·.spent)) = b.projectiles := by
    simp [List.zipWith_map]
  simp only [withBodies, hships, hdrop'', hshots]
  rw [hdrop', hrocks, hdrop, hpoints]

/-- Without a collision nothing changes. -/
theorem collide_of_none
    (h : ∀ x ∈ b.bodies, ∀ y ∈ b.bodies, ∀ cor, x.collide? y b.dt cor = none) :
    b.collide = b := by
  rw [collide]
  simp only [strikeSolids_of_none h, strikeShots_of_none h]
  exact b.withBodies_self

/-- What is neither gone nor spent stays. -/
theorem cull_of_forall (hships : ∀ s ∈ b.ships, b.isGone s.body = false)
    (hshots : ∀ p ∈ b.projectiles, (p.spent || b.isGone p.body) = false) : b.cull = (b, []) := by
  have hlost : b.ships.partition (fun s => b.isGone s.body) = ([], b.ships) := by
    rw [List.partition_eq_filter_filter, List.filter_eq_nil_iff.mpr (by simpa using hships),
      List.filter_eq_self.mpr (by simpa using hships)]
  have hused : b.projectiles.partition (fun p => p.spent || b.isGone p.body) =
      ([], b.projectiles) := by
    rw [List.partition_eq_filter_filter, List.filter_eq_nil_iff.mpr (by simpa using hshots),
      List.filter_eq_self.mpr (by simpa using hshots)]
  rw [cull, hlost, hused]
  simp [forget]

/-- The battle a tick later when nothing happens in between. -/
def elapse (b : Battle α π δ) : Battle α π δ :=
  { b with tick := b.tick + 1, maxScore := Scalar.maximum b.scores.values }

end

/-- All bodies are at rest, and no two of them touch. -/
structure IsStill (b : Battle Exact π δ) : Prop where
  rest : ∀ x ∈ b.bodies, ∃ p r, x.Rests p r
  apart : ∀ x ∈ b.bodies, ∀ y ∈ b.bodies, x.id ≠ y.id → x.contact? y b.dt = none

variable {b c : Battle Exact π δ} {t : ℝ}

theorem IsStill.of_bodies (h : b.IsStill) (hbodies : c.bodies = b.bodies)
    (hsettings : c.settings = b.settings) : c.IsStill where
  rest := by
    rw [hbodies]
    exact h.rest
  apart := by
    rw [hbodies, Battle.dt, hsettings]
    exact h.apart

theorem IsStill.integrate_eq (h : b.IsStill) (ht : b.dt = real t) : b.integrate = b := by
  have hbody : ∀ x ∈ b.bodies, x.integrate b.dt = x := by
    intro x hx
    obtain ⟨p, r, hrests⟩ := h.rest x hx
    rw [ht]
    exact hrests.integrate t
  have hmap {β : Type} {l : List β} {f : β → β} (hf : ∀ x ∈ l, f x = x) : l.map f = l :=
    (List.map_congr_left hf).trans (List.map_id l)
  simp only [Battle.bodies, List.forall_mem_append, List.forall_mem_map] at hbody
  obtain ⟨⟨⟨hships, hpoints⟩, hrocks⟩, hshots⟩ := hbody
  rw [integrate, hmap fun s hs => congrArg s.withBody (hships s hs),
    hmap fun p hp => congrArg (fun body => { p with body }) (hpoints p hp),
    hmap fun a ha => congrArg (fun body => { a with body }) (hrocks a ha),
    hmap fun p hp => congrArg (fun body => { p with body }) (hshots p hp)]

theorem IsStill.integrate (h : b.IsStill) (ht : b.dt = real t) : b.integrate.IsStill :=
  (h.integrate_eq ht).symm ▸ h

theorem IsStill.collide (h : b.IsStill) : b.collide = b := by
  apply collide_of_none
  intro x hx y hy cor
  rw [Body.collide?]
  split
  · rfl
  · rename_i hid
    rw [h.apart x hx y hy hid]
    rfl

theorem IsStill.checkFinite (h : b.IsStill) : b.checkFinite = .ok () := by
  apply checkFinite_of_forall
  intro x hx
  obtain ⟨p, r, hrests⟩ := h.rest x hx
  exact hrests.nonFinite?_eq_none

variable [Drawer Exact δ] [Pilot Exact π]

/-- A tick is completed if nothing moves any more once the pilots have decided. -/
theorem completes_of_isStill (hh : b.halted = false) (ht : b.dt = real t)
    (h : b.start.score.decide.launch.IsStill) : b.Completes := by
  obtain ⟨-, hstart, -⟩ := b.clock_start
  have hlaunch := grows_launch b.start.score.decide
  have hdt : b.start.score.decide.launch.dt = real t := by
    rw [← ht, Battle.dt, hlaunch.settings]
    exact congrArg (·.tickSeconds) hstart
  have hmove : b.start.move.IsStill := h.integrate hdt
  have hcollide : b.start.move.collide.checkFinite = .ok () := by
    rw [hmove.collide]
    exact hmove.checkFinite
  exact completes_of_checkFinite hh hmove.checkFinite hcollide

/-- If nothing moves either, and nothing is gone, then the rest of a tick is over without anything
more. -/
theorem completed_of_isStill (ht : b.dt = real t) (h : b.start.score.decide.launch.IsStill)
    (hcull : b.start.score.decide.launch.cull = (b.start.score.decide.launch, [])) :
    b.completed = { b.start.score.decide.launch with tick := b.tick + 1 } := by
  obtain ⟨htick, hstart, -⟩ := b.clock_start
  have hlaunch := grows_launch b.start.score.decide
  have hdt : b.start.score.decide.launch.dt = real t := by
    rw [← ht, Battle.dt, hlaunch.settings]
    exact congrArg (·.tickSeconds) hstart
  rw [completed, Battle.move, h.integrate_eq hdt, h.collide, hcull, ← htick, hlaunch.tick]
  rfl

/-- There is nothing but rock at rest. -/
structure IsRubble (b : Battle Exact π δ) : Prop where
  ships : b.ships = []
  controlPoints : b.controlPoints = []
  projectiles : b.projectiles = []
  still : b.IsStill

theorem IsRubble.completed_eq (h : b.start.IsRubble) (ht : b.dt = real t) :
    b.completed = b.start.elapse ∧ b.start.score.decide.launch.IsStill := by
  let c := { b.start with maxScore := Scalar.maximum b.start.scores.values }
  -- nobody scores, decides or fires
  have hlaunch : b.start.score.decide.launch = c := by
    simp only [score, decide, launch, c, h.ships, h.controlPoints, List.foldl_nil,
      List.flatMap_nil, List.map_nil]
  have hstill : c.IsStill := h.still.of_bodies rfl rfl
  have hcull : c.cull = (c, []) := by
    apply cull_of_forall
    · rw [show c.ships = [] from h.ships]
      exact List.forall_mem_nil _
    · rw [show c.projectiles = [] from h.projectiles]
      exact List.forall_mem_nil _
  rw [completed_of_isStill ht (hlaunch ▸ hstill) (by rw [hlaunch, hcull]), hlaunch]
  refine ⟨?_, hstill⟩
  rw [elapse, b.clock_start.1]

theorem IsRubble.battle_step (h : b.start.IsRubble) (hh : b.halted = false) (ht : b.dt = real t)
    (hrate : b.settings.frameRate = 1) : b.step.battle = b.start.elapse.emitFrame := by
  obtain ⟨hcompleted, hstill⟩ := h.completed_eq ht
  have hdue : b.completed.isFrameDue b.completed.outcome? = true := by
    obtain ⟨-, hsettings, -⟩ := b.clock_completed
    rw [isFrameDue, hsettings, hrate, show Nat.max 1 1 = 1 from rfl, Nat.mod_one]
    exact Bool.or_true _
  rw [show b.step = _ from completes_of_isStill hh ht hstill, if_pos hdue, hcompleted]

end Battle
end FleetArena
