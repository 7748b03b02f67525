import FleetArena.Proofs.Battle.Identity
import FleetArena.Proofs.Contact.Candidates
import FleetArena.Proofs.Contact.Strikes

/-! The flight of projectiles: each one moves in a straight line until it hits something, which it
does once at most, and then it is gone. -/
namespace FleetArena

/-- Motion changes nothing of a body but its position. -/
theorem Body.exists_iterate_integrate {α : Type} [Scalar α] (x : Body α) (dt : α) (n : Nat) :
    ∃ position, (Body.integrate · dt)^[n] x = { x with position } := by
  induction n with
  | zero => exact ⟨x.position, rfl⟩
  | succ n ih =>
    obtain ⟨position, h⟩ := ih
    rw [Function.iterate_succ_apply', h]
    exact ⟨_, rfl⟩

namespace Battle
variable {α π δ : Type}

/-- How many ships, control points and asteroids there are. -/
def solids (b : Battle α π δ) : Nat :=
  b.ships.length + b.controlPoints.length + b.asteroids.length

theorem length_bodies (b : Battle α π δ) :
    b.bodies.length = b.solids + b.projectiles.length := by
  simp only [bodies, solids, List.length_append, List.length_map]

theorem length_bodies_sub (b : Battle α π δ) :
    b.bodies.length - b.projectiles.length = b.solids := by
  rw [length_bodies, Nat.add_sub_cancel]

theorem projectiles_withBodies (b : Battle α π δ) (bodies : List (Body α)) (spent : List Bool) :
    (b.withBodies bodies spent).projectiles =
      List.zipWith (fun body spent => ⟨body, spent⟩) (bodies.drop b.solids) spent := by
  rw [solids, ← List.drop_drop, ← List.drop_drop]
  rfl

theorem getElem?_bodies (b : Battle α π δ) (k : Nat) :
    b.bodies[b.solids + k]? = b.projectiles[k]?.map (·.body) := by
  have hfront : (b.ships.map Ship.body ++ b.controlPoints.map (·.body) ++
      b.asteroids.map (·.body)).length = b.solids := by
    simp only [solids, List.length_append, List.length_map]
  rw [bodies, List.getElem?_append_right (by omega), hfront, Nat.add_sub_cancel_left,
    List.getElem?_map]

variable [Scalar α]

/-- What the collisions of a tick leave of the bodies, and of the projectiles that are spent. -/
def struck (b : Battle α π δ) : List (Body α) × List Bool :=
  let g := grids b.dt b.solids b.bodies
  strikeShots b.dt b.solids (g.2.pairsWith g.1) (strikeSolids b.dt g.1.pairs b.bodies)
    (b.projectiles.map (·.spent))

/-- The pairs of places whose bodies collide in a tick, one after the other. -/
def collisions (b : Battle α π δ) : List (Nat × Nat) :=
  let g := grids b.dt b.solids b.bodies
  solidHits b.dt g.1.pairs b.bodies ++
    shotHits b.dt b.solids (g.2.pairsWith g.1) (strikeSolids b.dt g.1.pairs b.bodies)
      (b.projectiles.map (·.spent))

theorem collide_eq (b : Battle α π δ) : b.collide = b.withBodies b.struck.1 b.struck.2 := by
  rw [collide, struck]
  simp only [length_bodies_sub]

/-- What the grids offer are places of the list of bodies. -/
theorem mem_pairs_grids (dt : α) (n : Nat) (bodies : List (Body α)) :
    (∀ p ∈ (grids dt n bodies).1.pairs, p.1 < p.2 ∧ p.2 < n ∧ p.2 < bodies.length) ∧
      ∀ p ∈ (grids dt n bodies).2.pairsWith (grids dt n bodies).1,
        n ≤ p.1 ∧ p.1 < bodies.length ∧ p.2 < n := by
  constructor
  · rintro ⟨i, j⟩ hp
    obtain ⟨hlt, s, -, hj⟩ := (Grid.mem_pairs_iff _ _ _).mp hp
    obtain ⟨hsolid, y, hy, -⟩ := (mem_members_grids_fst _ _ _ _ _).mp hj
    exact ⟨hlt, hsolid, (List.getElem?_eq_some_iff.mp hy).1⟩
  · rintro ⟨i, j⟩ hp
    obtain ⟨s, hi, hj⟩ := (Grid.mem_pairsWith_iff _ _ _ _).mp hp
    obtain ⟨hshot, x, hx, -⟩ := (mem_members_grids_snd _ _ _ _ _).mp hi
    obtain ⟨hsolid, -⟩ := (mem_members_grids_fst _ _ _ _ _).mp hj
    exact ⟨hshot, (List.getElem?_eq_some_iff.mp hx).1, hsolid⟩

theorem bodies_collide_eq_struck (b : Battle α π δ) : b.collide.bodies = b.struck.1 := by
  rw [bodies_collide, struck]
  simp only [length_bodies_sub]

theorem map_id_struck (b : Battle α π δ) : b.struck.1.map (·.id) = b.ids := by
  rw [← bodies_collide_eq_struck]
  exact b.ids_collide

theorem length_snd_struck (b : Battle α π δ) : b.struck.2.length = b.projectiles.length := by
  obtain ⟨-, hlength⟩ := map_id_strikeShots b.dt b.solids
    ((grids b.dt b.solids b.bodies).2.pairsWith (grids b.dt b.solids b.bodies).1)
    (strikeSolids b.dt (grids b.dt b.solids b.bodies).1.pairs b.bodies)
    (b.projectiles.map (·.spent))
  rwa [List.length_map] at hlength

theorem map_spent_collide (b : Battle α π δ) :
    b.collide.projectiles.map (·.spent) = b.struck.2 := by
  have hbodies : b.struck.1.length = b.bodies.length := by
    simpa only [List.length_map, ids] using congrArg List.length b.map_id_struck
  rw [collide_eq, projectiles_withBodies, map_zipWith_snd fun _ _ => rfl, List.take_of_length_le]
  rw [List.length_drop, hbodies, length_bodies, length_snd_struck]
  omega

/-- The collisions of a tick, in the order in which they happen. -/
theorem pass_collide (b : Battle α π δ) :
    let g := grids b.dt b.solids b.bodies
    Pass b.dt b.solids (g.1.pairs ++ g.2.pairsWith g.1) b.collisions
      (b.bodies, b.projectiles.map (·.spent))
      (b.collide.bodies, b.collide.projectiles.map (·.spent)) := by
  intro g
  obtain ⟨hamong, hacross⟩ := mem_pairs_grids b.dt b.solids b.bodies
  rw [bodies_collide_eq_struck, map_spent_collide]
  have hsolids : ∀ p ∈ g.1.pairs, p.1 < b.solids := by
    intro p hp
    obtain ⟨hlt, hsolid, -⟩ := hamong p hp
    exact hlt.trans hsolid
  have hshots : ∀ p ∈ g.2.pairsWith g.1,
      b.solids ≤ p.1 ∧ p.1 - b.solids < (b.projectiles.map (·.spent)).length := by
    intro p hp
    obtain ⟨hshot, hin, -⟩ := hacross p hp
    rw [length_bodies] at hin
    rw [List.length_map]
    omega
  exact (pass_strikeSolids hsolids _ _).append (pass_strikeShots hshots _)

/-- The second body of a collision is always a solid one. -/
theorem snd_lt_of_mem_pairs (b : Battle α π δ) :
    let g := grids b.dt b.solids b.bodies
    ∀ p ∈ g.1.pairs ++ g.2.pairsWith g.1, p.2 < b.solids := by
  obtain ⟨hamong, hacross⟩ := mem_pairs_grids b.dt b.solids b.bodies
  refine List.forall_mem_append.mpr ⟨fun p hp => ?_, fun p hp => ?_⟩
  · obtain ⟨-, hsolid, -⟩ := hamong p hp
    exact hsolid
  · obtain ⟨-, -, hsolid⟩ := hacross p hp
    exact hsolid

theorem snd_lt_of_mem_collisions {b : Battle α π δ} {p : Nat × Nat} (hp : p ∈ b.collisions) :
    p.2 < b.solids :=
  b.snd_lt_of_mem_pairs p (b.pass_collide.mem_pairs p hp)

theorem getElem?_projectiles_collide (b : Battle α π δ) (k : Nat) (q : Projectile α) :
    b.collide.projectiles[k]? = some q ↔ b.collide.bodies[b.solids + k]? = some q.body ∧
      (b.collide.projectiles.map (·.spent))[k]? = some q.spent := by
  rw [bodies_collide_eq_struck, map_spent_collide, collide_eq, projectiles_withBodies,
    List.getElem?_zipWith, List.getElem?_drop]
  obtain ⟨body, spent⟩ := q
  cases b.struck.1[b.solids + k]? <;> cases b.struck.2[k]? <;> simp

/-- A projectile that has collided is spent. -/
theorem spent_of_collision {b : Battle α π δ} {p : Nat × Nat} (hp : p ∈ b.collisions) {k : Nat}
    (hk : p.1 = b.solids + k ∨ p.2 = b.solids + k) {q : Projectile α}
    (hq : b.collide.projectiles[k]? = some q) : q.spent = true := by
  have hsolid : p.2 < b.solids := snd_lt_of_mem_collisions hp
  have hplace : p.1 - b.solids = k := by
    omega
  have hspent := b.pass_collide.spent_of_mem p hp (by omega)
  obtain ⟨-, hflag⟩ := (b.getElem?_projectiles_collide k q).mp hq
  rw [hplace, hflag] at hspent
  exact Option.some.inj hspent

/-- A projectile that has not collided is as it was. -/
theorem unmoved_of_no_collision {b : Battle α π δ} {k : Nat}
    (h : ∀ p ∈ b.collisions, p.1 ≠ b.solids + k) :
    b.collide.projectiles[k]? = b.projectiles[k]? := by
  obtain ⟨hbody, hflag⟩ := b.pass_collide.of_unhit b.snd_lt_of_mem_pairs h
  apply Option.ext
  intro q
  rw [getElem?_projectiles_collide, hbody, hflag, getElem?_bodies, List.getElem?_map]
  cases b.projectiles[k]? with
  | none => simp
  | some r => cases q; cases r; simp

/-- What is left of the projectiles after a tick has collided with nothing. -/
theorem mem_projectiles_cull {b : Battle α π δ} {q : Projectile α}
    (hq : q ∈ b.collide.cull.1.projectiles) : q.spent = false ∧ ∃ k,
      b.projectiles[k]? = some q ∧ ∀ p ∈ b.collisions, p.1 ≠ b.solids + k ∧ p.2 ≠ b.solids + k := by
  simp only [projectiles_cull, List.mem_filter, Bool.not_eq_true', Bool.or_eq_false_iff] at hq
  obtain ⟨hmem, hunspent, -⟩ := hq
  obtain ⟨k, hk⟩ := List.mem_iff_getElem?.mp hmem
  have hnone : ∀ p ∈ b.collisions, p.1 ≠ b.solids + k ∧ p.2 ≠ b.solids + k := by
    intro p hp
    rw [← not_or]
    intro hhit
    rw [spent_of_collision hp hhit hk] at hunspent
    cases hunspent
  refine ⟨hunspent, k, ?_, hnone⟩
  rw [← unmoved_of_no_collision fun p hp => (hnone p hp).1]
  exact hk

variable [Pilot α π] [Drawer α δ]

/-- The projectiles that are launched in a run, each with the tick of its launch. -/
def launches : List (Event α π δ) → Battle α π δ → List (Nat × Projectile α)
  | [], _ => []
  | .operation .step :: rest, b => b.salvo.map (b.tick, ·) ++ launches rest b.step.battle
  | .operation (.edit e) :: rest, b => launches rest (b.edit e)
  | .drawer drawer :: rest, b => launches rest { b with drawer }

theorem launches_append (events later : List (Event α π δ)) (b : Battle α π δ) :
    b.launches (events ++ later) = b.launches events ++ (b.handleAll events).launches later := by
  induction events generalizing b with
  | nil => rfl
  | cons e rest ih =>
    match e with
    | .drawer drawer => exact ih _
    | .operation (.edit e) => exact ih _
    | .operation .step =>
      rw [List.cons_append, launches, launches, ih, List.append_assoc]
      rfl

/-- Every projectile is in the log, with an earlier tick, and has flown straight on since then up to
the tick `tick`. -/
def Flying (log : List (Nat × Projectile α)) (tick : Nat) (b : Battle α π δ) : Prop :=
  ∀ p ∈ b.projectiles, ∃ e ∈ log, e.1 < tick ∧
    p = ⟨(Body.integrate · b.dt)^[tick - e.1] e.2.body, false⟩

namespace Flying
variable {b c : Battle α π δ} {log later : List (Nat × Projectile α)} {n : Nat}

omit [Pilot α π] [Drawer α δ] in
theorem of_subset (h : b.Flying log n) (hprojectiles : c.projectiles ⊆ b.projectiles)
    (hsettings : c.settings = b.settings) : c.Flying log n := by
  intro p hp
  rw [dt, hsettings]
  exact h p (hprojectiles hp)

/-- What was in flight flies on, and what is launched makes its first move. -/
theorem move (h : b.Flying log b.tick) (hh : b.halted = false) :
    b.start.move.Flying (log ++ b.salvo.map (b.tick, ·)) (b.tick + 1) := by
  obtain ⟨-, hsettings, -⟩ := b.clock_launched
  have hdt : b.launched.dt = b.dt := congrArg Settings.tickSeconds hsettings
  have hmove : b.start.move.projectiles = (b.projectiles ++ b.salvo).map
      fun p => { p with body := p.body.integrate b.dt } := by
    rw [← projectiles_launched hh, ← hdt]
    rfl
  have hdt' : b.start.move.dt = b.dt := hdt
  rw [Flying, hmove, hdt', List.forall_mem_map, List.forall_mem_append]
  refine ⟨fun p hp => ?_, fun p hp => ?_⟩
  · obtain ⟨e, he, hlt, rfl⟩ := h p hp
    refine ⟨e, List.mem_append_left _ he, hlt.trans (Nat.lt_succ_self _), ?_⟩
    rw [Nat.sub_add_comm hlt.le, Function.iterate_succ_apply']
  · refine ⟨(b.tick, p), List.mem_append_right _ (List.mem_map_of_mem hp), Nat.lt_succ_self _, ?_⟩
    rw [salvo_eq hh] at hp
    obtain ⟨e, -, rfl⟩ := List.mem_map.mp hp
    rw [Nat.add_sub_cancel_left, Function.iterate_one]
    rfl

omit [Pilot α π] [Drawer α δ] in
theorem edit (h : b.Flying log n) (e : Edit α π) : (b.edit e).Flying log n := by
  obtain ⟨count, hgrows⟩ := b.grows_edit e
  refine h.of_subset ?_ hgrows.settings
  cases e with
  | ship fleet position pilot parts =>
    rcases b.edit_ship_cases fleet position pilot parts with hrefused | ⟨-, hadded⟩
    · rw [hrefused]
      exact List.Subset.refl _
    · rw [hadded]
      exact List.Subset.refl _
  | fleet | controlPoint | asteroid | scoreLimit => exact List.Subset.refl _

/-- A step that completes a tick takes every projectile that is left one tick on. -/
theorem step (h : b.Flying log b.tick) (hh : b.halted = false) (hcompletes : b.Completes) :
    b.step.battle.Flying (log ++ b.salvo.map (b.tick, ·)) b.step.battle.tick := by
  -- the collisions have not touched what is left behind them
  have hcull :
      b.start.move.collide.cull.1.Flying (log ++ b.salvo.map (b.tick, ·)) (b.tick + 1) := by
    refine (h.move hh).of_subset (fun q hq => ?_) rfl
    obtain ⟨-, k, hk, -⟩ := mem_projectiles_cull hq
    exact List.mem_of_getElem? hk
  obtain ⟨htick, -⟩ := b.clock_completed
  obtain ⟨drawer, drawn, deleted, hstep⟩ := hcompletes.exists_battle_eq
  rw [hstep]
  show Flying _ b.completed.tick _
  rw [htick]
  exact hcull.of_subset (List.Subset.refl _) rfl

theorem handleAll (h : b.halted = false → b.Flying log b.tick) (events : List (Event α π δ))
    (hh : (b.handleAll events).halted = false) :
    (b.handleAll events).Flying (log ++ b.launches events) (b.handleAll events).tick := by
  induction events generalizing b log with
  | nil =>
    rw [launches, List.append_nil]
    exact h hh
  | cons e rest ih =>
    match e with
    | .drawer drawer => exact ih h hh
    | .operation (.edit e) =>
      obtain ⟨count, hgrows⟩ := b.grows_edit e
      refine ih (fun hhalted => ?_) hh
      rw [hgrows.halted] at hhalted
      rw [hgrows.tick]
      exact (h hhalted).edit e
    | .operation .step =>
      rw [launches, ← List.append_assoc]
      refine ih (fun hhalted => ?_) hh
      -- a step that does not halt the battle has completed a tick
      cases hb : b.halted with
      | true =>
        rw [step_of_halted hb, hb] at hhalted
        cases hhalted
      | false =>
        rcases step_cases hb with ⟨e, hstep | hstep⟩ | hcompletes
        · rw [hstep] at hhalted
          cases hhalted
        · rw [hstep] at hhalted
          cases hhalted
        · exact (h hb).step hb hcompletes

end Flying

/-- The collisions of a tick are those of a pass over the pairs that the grids offer. A projectile
is in one of them at most, never with another projectile, and it is removed then. So a projectile
that is left after a tick has flown straight on, a tick at a time, since it was launched. -/
theorem flight_handleAll (arenaRadius : α) (settings : Settings α) (events : List (Event α π δ)) :
    let origin : Battle α π δ := empty arenaRadius settings
    let b := origin.handleAll events
    let c := b.start.move
    let g := grids c.dt c.solids c.bodies
    Pass c.dt c.solids (g.1.pairs ++ g.2.pairsWith g.1) c.collisions
        (c.bodies, c.projectiles.map (·.spent))
        (c.collide.bodies, c.collide.projectiles.map (·.spent)) ∧
      (∀ k, (c.collisions.filter fun p => p.1 = c.solids + k ∨ p.2 = c.solids + k).length ≤ 1) ∧
      (∀ p ∈ c.collisions, ¬(c.solids ≤ p.1 ∧ c.solids ≤ p.2)) ∧
      (∀ p ∈ c.collisions, ∀ k q, p.1 = c.solids + k ∨ p.2 = c.solids + k →
        c.projectiles[k]? = some q → q.body.id ∉ c.collide.cull.1.projectiles.map (·.body.id)) ∧
      ∀ outcome, b.step.result = .ok outcome → ∀ p ∈ b.step.battle.projectiles,
        p.spent = false ∧ ∃ e ∈ origin.launches (events ++ [.operation .step]),
          e.1 < b.step.battle.tick ∧
          p.body = (Body.integrate · b.dt)^[b.step.battle.tick - e.1] e.2.body ∧
          p.body.id = e.2.body.id ∧ p.body.velocity = e.2.body.velocity ∧
          p.body.mass = e.2.body.mass ∧ p.body.radius = e.2.body.radius ∧
          p.body.health = e.2.body.health := by
  intro origin b c g
  have hpass := c.pass_collide
  refine ⟨hpass, hpass.length_filter_le_one c.snd_lt_of_mem_pairs, fun p hp hshots => ?_,
    fun p hp k q hk hq hmem => ?_, ?_⟩
  · have hsolid : p.2 < c.solids := snd_lt_of_mem_collisions hp
    omega
  · -- the number of the projectile tells its place
    obtain ⟨r, hr, hid⟩ := List.mem_map.mp hmem
    obtain ⟨-, j, hj, hnone⟩ := mem_projectiles_cull hr
    obtain ⟨-, -, -, hsorted⟩ := ((renews_handleAll events origin).trans b.renews_move).ascending
    have hnodup : (c.projectiles.map (·.body.id)).Nodup := hsorted.imp Nat.ne_of_lt
    have hsame : (c.projectiles.map (·.body.id))[j]? = (c.projectiles.map (·.body.id))[k]? := by
      rw [List.getElem?_map, List.getElem?_map, hj, hq, Option.map_some, Option.map_some, hid]
    have hlt : j < (c.projectiles.map (·.body.id)).length := by
      rw [List.length_map]
      exact (List.getElem?_eq_some_iff.mp hj).1
    obtain rfl : j = k := (List.getElem?_inj hlt hnodup).mp hsame
    obtain ⟨hfirst, hsecond⟩ := hnone p hp
    exact hk.elim hfirst hsecond
  · intro outcome hresult p hp
    obtain ⟨hh, hcompletes⟩ := completes_of_result hresult
    have hb : b.Flying (origin.launches events) b.tick := by
      have hstart : origin.halted = false → origin.Flying [] origin.tick :=
        fun _ => List.forall_mem_nil _
      have h := Flying.handleAll hstart events hh
      rwa [List.nil_append] at h
    have hdt : b.step.battle.dt = b.dt := by
      obtain ⟨-, hsettings, -⟩ := b.clock_completed
      obtain ⟨drawer, drawn, deleted, hstep⟩ := hcompletes.exists_battle_eq
      rw [hstep]
      exact congrArg Settings.tickSeconds hsettings
    obtain ⟨e, he, hlt, rfl⟩ := hb.step hh hcompletes p hp
    have hlog : e ∈ origin.launches (events ++ [.operation .step]) := by
      rw [launches_append, launches, launches, List.append_nil]
      exact he
    obtain ⟨position, hflown⟩ := e.2.body.exists_iterate_integrate b.dt (b.step.battle.tick - e.1)
    rw [hdt]
    refine ⟨rfl, e, hlog, hlt, rfl, ?_⟩
    simp only [hflown]
    exact ⟨trivial, trivial, trivial, trivial, trivial⟩

end Battle
end FleetArena
