import FleetArena.Proofs.Battle.Identity
import FleetArena.Proofs.Vessel.Steering

/-! What each phase of a tick may change. Over a run a body keeps its number and its radius, and
only collisions change its health. -/
namespace FleetArena
open scoped List
variable {α π δ : Type}

/-- What neither motion nor a call changes of a body. -/
def Body.mark (x : Body α) : ObjectId × α × α :=
  (x.id, x.radius, x.health)

namespace Battle

def marks (b : Battle α π δ) : List (ObjectId × α × α) :=
  b.bodies.map Body.mark

theorem marks_eq (b : Battle α π δ) : b.marks =
    b.ships.map (·.body.mark) ++ b.controlPoints.map (·.body.mark) ++
      b.asteroids.map (·.body.mark) ++ b.projectiles.map (·.body.mark) := by
  simp only [marks, bodies, List.map_append, List.map_map]
  rfl

/-- Under an old number there is an old body in `c`. It has the radius that it had in `b`, and its
health is different only if its number is one of the `hurt`. -/
structure Ages (b c : Battle α π δ) (hurt : ObjectId → Prop) : Prop where
  nextId : b.nextId ≤ c.nextId
  old : ∀ y ∈ c.bodies, y.id < b.nextId →
    ∃ x ∈ b.bodies, x.id = y.id ∧ y.radius = x.radius ∧ (y.health ≠ x.health → hurt y.id)

section
variable {b c d : Battle α π δ} {hurt hurt' : ObjectId → Prop}

theorem Ages.mono (h : b.Ages c hurt) (himp : ∀ id, hurt id → hurt' id) : b.Ages c hurt' := by
  refine ⟨h.nextId, fun y hy hlt => ?_⟩
  obtain ⟨x, hx, hid, hradius, hhealth⟩ := h.old y hy hlt
  exact ⟨x, hx, hid, hradius, fun hne => himp _ (hhealth hne)⟩

theorem Ages.trans (h : b.Ages c hurt) (h' : c.Ages d hurt) : b.Ages d hurt := by
  refine ⟨h.nextId.trans h'.nextId, fun z hz hlt => ?_⟩
  obtain ⟨y, hy, hyz, hradius, hhealth⟩ := h'.old z hz (hlt.trans_le h.nextId)
  obtain ⟨x, hx, hxy, hradius', hhealth'⟩ := h.old y hy (hyz ▸ hlt)
  refine ⟨x, hx, hxy.trans hyz, hradius.trans hradius', fun hne => ?_⟩
  -- a health that is different in the end was changed before `c` or after it
  by_cases hz : z.health = y.health
  · rw [hz] at hne
    exact hyz ▸ hhealth' hne
  · exact hhealth hz

/-- What is not new is as it was. -/
theorem ages_of_marks (hnext : b.nextId ≤ c.nextId)
    (hmarks : ∀ m ∈ c.marks, m ∈ b.marks ∨ b.nextId ≤ m.1) : b.Ages c hurt := by
  refine ⟨hnext, fun y hy hlt => ?_⟩
  have hold := (hmarks y.mark (List.mem_map_of_mem hy)).resolve_right (Nat.not_le.mpr hlt)
  obtain ⟨x, hx, hmark⟩ := List.mem_map.mp hold
  obtain ⟨hid, hrest⟩ := Prod.mk.inj hmark
  obtain ⟨hradius, hhealth⟩ := Prod.mk.inj hrest
  exact ⟨x, hx, hid, hradius.symm, fun hne => absurd hhealth.symm hne⟩

theorem ages_of_eq (hnext : c.nextId = b.nextId) (hmarks : c.marks = b.marks) :
    b.Ages c hurt :=
  ages_of_marks hnext.ge fun _ hm => Or.inl (hmarks ▸ hm)

/-- What is neither new nor moved is as it was. -/
theorem ages_of_mem (hnext : b.nextId ≤ c.nextId)
    (hships : ∀ s ∈ c.ships, s ∈ b.ships ∨ b.nextId ≤ s.id)
    (hpoints : ∀ p ∈ c.controlPoints, p ∈ b.controlPoints ∨ b.nextId ≤ p.body.id)
    (hrocks : ∀ a ∈ c.asteroids, a ∈ b.asteroids ∨ b.nextId ≤ a.body.id)
    (hshots : ∀ p ∈ c.projectiles, p ∈ b.projectiles ∨ b.nextId ≤ p.body.id) :
    b.Ages c hurt := by
  refine ages_of_marks hnext ?_
  rw [marks_eq, marks_eq]
  simp only [List.forall_mem_append, List.forall_mem_map]
  simp only [List.mem_append]
  refine ⟨⟨⟨fun s hs => ?_, fun p hp => ?_⟩, fun a ha => ?_⟩, fun p hp => ?_⟩
  · exact (hships s hs).imp_left fun h => Or.inl (Or.inl (Or.inl (List.mem_map_of_mem h)))
  · exact (hpoints p hp).imp_left fun h => Or.inl (Or.inl (Or.inr (List.mem_map_of_mem h)))
  · exact (hrocks a ha).imp_left fun h => Or.inl (Or.inr (List.mem_map_of_mem h))
  · exact (hshots p hp).imp_left fun h => Or.inr (List.mem_map_of_mem h)

end

variable [Scalar α] {hurt : ObjectId → Prop}

theorem marks_decide [Pilot α π] (b : Battle α π δ) : b.decide.marks = b.marks := by
  have hships : b.decide.ships.map (·.body.mark) = b.ships.map (·.body.mark) := by
    rw [decide, List.map_map]
    apply List.map_congr_left
    intro s _
    have hkeeps := s.keeps_decide b.tick b.world
    exact Prod.ext hkeeps.id (Prod.ext hkeeps.radius hkeeps.health)
  rw [marks_eq, marks_eq, hships]
  rfl

/-- What is launched stands behind all other bodies. -/
theorem marks_launch (b : Battle α π δ) : b.launch.marks = b.marks ++
    ((b.ships.flatMap (·.shots)).zipIdx b.nextId).map fun e => (e.1.projectile e.2).body.mark := by
  rw [launch_eq, marks_eq, marks_eq, List.map_append, List.map_map, List.map_map,
    List.append_assoc _ (b.projectiles.map _)]
  rfl

theorem marks_integrate (b : Battle α π δ) : b.integrate.marks = b.marks := by
  rw [marks, bodies_integrate, List.map_map]
  rfl

theorem ages_move [Pilot α π] (b : Battle α π δ) : b.Ages b.move hurt := by
  have hscore : b.Ages b.score hurt := ages_of_eq rfl rfl
  have hdecide : b.score.Ages b.score.decide hurt := ages_of_eq rfl (marks_decide _)
  have hlaunch (c : Battle α π δ) : c.Ages c.launch hurt := by
    apply ages_of_marks
    · rw [launch_eq]
      exact Nat.le_add_right _ _
    · rw [marks_launch]
      intro m hm
      -- a projectile that is new has one of the next numbers
      rcases List.mem_append.mp hm with hold | hnew
      · exact Or.inl hold
      · obtain ⟨e, he, rfl⟩ := List.mem_map.mp hnew
        exact Or.inr (List.le_snd_of_mem_zipIdx he)
  have hintegrate (c : Battle α π δ) : c.Ages c.integrate hurt :=
    ages_of_eq rfl c.marks_integrate
  exact ((hscore.trans hdecide).trans (hlaunch _)).trans (hintegrate _)

theorem ages_cull (b : Battle α π δ) : b.Ages b.cull.1 hurt := by
  obtain ⟨hships, hshots⟩ := b.sublist_cull
  exact ages_of_mem (Nat.le_refl b.nextId) (fun s hs => Or.inl (hships.subset hs))
    (fun p hp => Or.inl hp) (fun a ha => Or.inl ha) fun p hp => Or.inl (hshots.subset hp)

theorem ages_edit (b : Battle α π δ) (e : Edit α π) : b.Ages (b.edit e) hurt := by
  cases e with
  | fleet | scoreLimit => exact ages_of_eq rfl rfl
  | ship fleet position pilot parts =>
    rcases b.edit_ship_cases fleet position pilot parts with hrefused | ⟨-, hadded⟩
    · rw [hrefused]
      exact ages_of_eq rfl rfl
    · rw [hadded]
      refine ages_of_mem (Nat.le_succ b.nextId) ?_ (fun p hp => Or.inl hp) (fun a ha => Or.inl ha)
        fun p hp => Or.inl hp
      refine List.forall_mem_append.mpr ⟨fun s hs => Or.inl hs, ?_⟩
      exact List.forall_mem_singleton.mpr (Or.inr (Nat.le_refl b.nextId))
  | controlPoint position radius mass points influence =>
    refine ages_of_mem (Nat.le_succ b.nextId) (fun s hs => Or.inl hs) ?_ (fun a ha => Or.inl ha)
      fun p hp => Or.inl hp
    refine List.forall_mem_append.mpr ⟨fun p hp => Or.inl hp, ?_⟩
    exact List.forall_mem_singleton.mpr (Or.inr (Nat.le_refl b.nextId))
  | asteroid position radius mass texture =>
    refine ages_of_mem (Nat.le_succ b.nextId) (fun s hs => Or.inl hs) (fun p hp => Or.inl hp) ?_
      fun p hp => Or.inl hp
    refine List.forall_mem_append.mpr ⟨fun a ha => Or.inl ha, ?_⟩
    exact List.forall_mem_singleton.mpr (Or.inr (Nat.le_refl b.nextId))

variable [Pilot α π] [Drawer α δ]

/-- The next step comes to its collisions, and these change the health of a body. -/
def Harms (b : Battle α π δ) (id : ObjectId) : Prop :=
  b.halted = false ∧ b.start.move.checkFinite = .ok () ∧
    ∃ x ∈ b.start.move.bodies, ∃ y ∈ b.start.move.collide.bodies,
      x.id = id ∧ y.id = id ∧ y.health ≠ x.health

omit [Pilot α π] in
theorem ages_start (b : Battle α π δ) : b.Ages b.start hurt := by
  obtain ⟨drawer, drawn, deleted, hstart⟩ := b.exists_start_eq
  rw [hstart]
  exact ages_of_eq rfl rfl

/-- The collisions give every body another one like it, of another health perhaps. -/
theorem ages_collide {b : Battle α π δ} (hh : b.halted = false)
    (hfinite : b.start.move.checkFinite = .ok ()) :
    b.start.move.Ages b.start.move.collide b.Harms := by
  refine ⟨Nat.le_refl b.start.move.nextId, fun y hy _ => ?_⟩
  obtain ⟨x, hx, halike⟩ := forall₂_exists_of_mem (forall₂_alike_collide _) hy
  refine ⟨x, hx, halike.id.symm, halike.radius, fun hne => ?_⟩
  exact ⟨hh, hfinite, x, hx, y, hy, halike.id.symm, rfl, hne⟩

theorem ages_step (b : Battle α π δ) : b.Ages b.step.battle b.Harms := by
  cases hh : b.halted with
  | true =>
    rw [step_of_halted hh]
    exact ages_of_eq rfl rfl
  | false =>
    have hmove : b.Ages b.start.move b.Harms := b.ages_start.trans (ages_move _)
    -- neither the halt, the clock nor the drawer matters to a body
    have hhalt (c : Battle α π δ) : c.Ages c.halt b.Harms := ages_of_eq rfl rfl
    have htick (c : Battle α π δ) : c.Ages { c with tick := c.tick + 1 } b.Harms :=
      ages_of_eq rfl rfl
    have htell (c : Battle α π δ) (drawer drawn deleted) :
        c.Ages { c with drawer, drawn, deleted } b.Harms := ages_of_eq rfl rfl
    cases hbefore : b.start.move.checkFinite with
    | error e =>
      rw [step_of_error_before hh hbefore]
      exact hmove.trans (hhalt _)
    | ok =>
      have hcollide := hmove.trans (ages_collide hh hbefore)
      cases hafter : b.start.move.collide.checkFinite with
      | error e =>
        rw [step_of_error_after hh hbefore hafter]
        exact hcollide.trans (hhalt _)
      | ok =>
        have hcompletes := completes_of_checkFinite hh hbefore hafter
        obtain ⟨drawer, drawn, deleted, hbattle⟩ := hcompletes.exists_battle_eq
        have hcompleted : b.Ages b.completed b.Harms := by
          rw [completed]
          exact (hcollide.trans (ages_cull _)).trans (htick _)
        rw [hbattle]
        exact hcompleted.trans (htell _ drawer drawn deleted)

theorem ages_handle (b : Battle α π δ) (e : Event α π δ) :
    b.Ages (b.handle e) fun id => e = .operation .step ∧ b.Harms id := by
  match e with
  | .operation (.edit e) => exact b.ages_edit e
  | .operation .step => exact b.ages_step.mono fun _ h => ⟨rfl, h⟩
  | .drawer drawer => exact ages_of_eq rfl rfl

/-- A health that has changed over a run has changed in the collisions of some step. -/
theorem ages_handleAll (events : List (Event α π δ)) (b : Battle α π δ) :
    b.Ages (b.handleAll events) fun id => ∃ before after,
      events = before ++ .operation .step :: after ∧ (b.handleAll before).Harms id := by
  induction events generalizing b with
  | nil => exact ages_of_eq rfl rfl
  | cons e rest ih =>
    apply Ages.trans (c := b.handle e)
    · apply (b.ages_handle e).mono
      rintro id ⟨rfl, hharms⟩
      exact ⟨[], rest, rfl, hharms⟩
    · apply (ih (b.handle e)).mono
      rintro id ⟨before, after, rfl, hharms⟩
      exact ⟨e :: before, after, rfl, hharms⟩

/-- What the phases of a tick may change, each of them. -/
structure Footprint (b : Battle α π δ) : Prop where
  score : ∃ scores maxScore, b.score = { b with scores, maxScore }
  decide : ∃ ships, b.decide = { b with ships } ∧
    List.Forall₂ (fun s t => s.body.Steered t.body (s.attempts b.tick b.world) ∧
      ∀ a ∈ s.attempts b.tick b.world, a.before.hull.body.Steered a.after.hull.body [a])
      b.ships ships
  launch : ∃ shots : List (Projectile α),
    shots.map (·.body.id) = List.range' b.nextId shots.length ∧
      b.launch = { b with
        ships := b.ships.map fun s => { s with shots := [] }
        projectiles := b.projectiles ++ shots
        nextId := b.nextId + shots.length }
  integrate : b.Rebodied (fun x y => y = { x with position := x.position + x.velocity * b.dt })
    b.integrate
  unspent : b.integrate.projectiles.map (·.spent) = b.projectiles.map (·.spent)
  collide : b.Rebodied Body.Alike b.collide
  cull : ∃ ships projectiles drawn deleted,
    b.cull.1 = { b with ships, projectiles, drawn, deleted } ∧ ships <+ b.ships ∧
      projectiles <+ b.projectiles

omit [Drawer α δ] in
theorem footprint (b : Battle α π δ) : b.Footprint where
  score := ⟨_, _, rfl⟩
  decide := by
    refine ⟨_, rfl, List.forall₂_map_right_iff.mpr (List.forall₂_same.mpr fun s _ => ?_)⟩
    exact ⟨s.steered_decide _ _, Vessel.steered_of_mem_attempts _ _⟩
  launch := by
    refine ⟨((b.ships.flatMap (·.shots)).zipIdx b.nextId).map fun e => e.1.projectile e.2, ?_, ?_⟩
    · rw [Shot.map_id_zipIdx_projectile, List.length_map, List.length_zipIdx]
    · rw [launch_eq, List.length_map, List.length_zipIdx]
  integrate := b.rebodied_integrate
  unspent := by
    rw [Battle.integrate, List.map_map]
    rfl
  collide := b.rebodied_collide
  cull := ⟨_, _, _, _, rfl, b.sublist_cull⟩

/-- Each phase of a tick changes only what it may. So over a run that begins with an empty arena
bodies keep their numbers and their radii, and where the health of a body is different some step has
changed it in its collisions. -/
theorem footprint_handleAll (arenaRadius : α) (settings : Settings α)
    (events later : List (Event α π δ)) :
    let b := (empty arenaRadius settings : Battle α π δ).handleAll events
    let c := b.handleAll later
    (∀ d : Battle α π δ, d.Footprint) ∧ b.Renews c (b.allNumbers later) ∧
      ∀ x ∈ b.bodies, ∀ y ∈ c.bodies, y.id = x.id → y.radius = x.radius ∧
        (y.health ≠ x.health → ∃ before after,
          later = before ++ .operation .step :: after ∧ (b.handleAll before).Harms x.id) := by
  intro b c
  obtain ⟨hnodup, hlt⟩ := (renews_handleAll events (empty arenaRadius settings)).numbered
  refine ⟨footprint, renews_handleAll later b, fun x hx y hy hid => ?_⟩
  have hold : y.id < b.nextId := hid ▸ hlt _ (List.mem_map_of_mem hx)
  obtain ⟨x', hx', hid', hradius, hhealth⟩ := (ages_handleAll later b).old y hy hold
  -- no other body of `b` has this number
  obtain rfl : x' = x := List.inj_on_of_nodup_map hnodup hx' hx (hid'.trans hid)
  exact ⟨hradius, fun hne => hid ▸ hhealth hne⟩

end Battle
end FleetArena
