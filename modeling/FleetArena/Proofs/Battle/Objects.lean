import FleetArena.Proofs.Battle.Operation
import FleetArena.Proofs.Battle.Places
import FleetArena.Proofs.Lists
import FleetArena.Proofs.Vessel.Build
import FleetArena.Proofs.Vessel.Calls

/-! The objects of a battle by number: the phases of a tick that move objects leave the numbers as
they are, launching takes new ones, and culling gives some up. -/
namespace FleetArena
open scoped List

variable {α π δ : Type}

/-- Bodies that differ in their motion and their health only. -/
structure Body.Alike (x y : Body α) : Prop where
  id : y.id = x.id
  mass : y.mass = x.mass
  radius : y.radius = x.radius

namespace Body
variable {x y z : Body α}

theorem Alike.refl (x : Body α) : x.Alike x :=
  ⟨rfl, rfl, rfl⟩

theorem Alike.trans (h : x.Alike y) (h' : y.Alike z) : x.Alike z :=
  ⟨h'.id.trans h.id, h'.mass.trans h.mass, h'.radius.trans h.radius⟩

variable [Scalar α]

theorem alike_integrate (x : Body α) (dt : α) : x.Alike (x.integrate dt) :=
  ⟨rfl, rfl, rfl⟩

theorem alike_of_collide {dt cor : α} {c : Collision α} (h : x.collide? y dt cor = some c) :
    x.Alike c.first ∧ y.Alike c.second := by
  have hrebound (x y : Body α) : x.Alike (rebound x y cor).first ∧
      y.Alike (rebound x y cor).second := by
    rw [rebound]
    split
    · exact ⟨.refl x, .refl y⟩
    · dsimp only
      split
      · exact ⟨.refl x, .refl y⟩
      · exact ⟨⟨rfl, rfl, rfl⟩, ⟨rfl, rfl, rfl⟩⟩
  rw [collide?] at h
  split at h
  · cases h
  · obtain ⟨ratio, -, rfl⟩ := Option.map_eq_some_iff.mp h
    obtain ⟨hfirst, hsecond⟩ := hrebound (x.integrate (ratio * dt)) (y.integrate (ratio * dt))
    exact ⟨(x.alike_integrate _).trans hfirst, (y.alike_integrate _).trans hsecond⟩

end Body

/-- The projectile that a shot becomes in the arena. -/
def Shot.projectile (shot : Shot α) (id : ObjectId) : Projectile α :=
  ⟨⟨id, shot.position, shot.velocity, shot.radius, shot.mass, shot.mass⟩, false⟩

theorem Shot.map_id_zipIdx_projectile (shots : List (Shot α)) (n : ObjectId) :
    ((shots.zipIdx n).map fun e => e.1.projectile e.2).map (·.body.id) =
      List.range' n shots.length := by
  rw [List.map_map]
  exact List.zipIdx_map_snd _ _

namespace Battle

/-- The numbers of the objects, in the order of the bodies. -/
def ids (b : Battle α π δ) : List ObjectId :=
  b.bodies.map (·.id)

theorem ids_eq (b : Battle α π δ) : b.ids =
    b.ships.map Ship.id ++ b.controlPoints.map (·.body.id) ++ b.asteroids.map (·.body.id) ++
      b.projectiles.map (·.body.id) := by
  simp only [ids, bodies, List.map_append, List.map_map]
  rfl

/-- `c` is `b` with `count` objects more, which have taken the next numbers. Nothing of what a
drawer has been told is different. -/
structure Grows (b c : Battle α π δ) (count : Nat) : Prop where
  ids : c.ids ~ List.range' b.nextId count ++ b.ids
  nextId : c.nextId = b.nextId + count
  settings : c.settings = b.settings
  tick : c.tick = b.tick
  drawer : c.drawer = b.drawer
  drawn : c.drawn = b.drawn
  deleted : c.deleted = b.deleted
  started : c.started = b.started
  halted : c.halted = b.halted

theorem Grows.trans {b c d : Battle α π δ} {j k : Nat} (h : b.Grows c j) (h' : c.Grows d k) :
    b.Grows d (j + k) where
  ids := by
    have hc := h'.ids
    rw [h.nextId] at hc
    calc d.ids ~ List.range' (b.nextId + j) k ++ c.ids := hc
      _ ~ List.range' (b.nextId + j) k ++ (List.range' b.nextId j ++ b.ids) := h.ids.append_left _
      _ ~ List.range' b.nextId (j + k) ++ b.ids := by
        rw [← List.range'_append_1, ← List.append_assoc]
        exact List.perm_append_comm.append_right _
  nextId := by rw [h'.nextId, h.nextId, Nat.add_assoc]
  settings := h'.settings.trans h.settings
  tick := h'.tick.trans h.tick
  drawer := h'.drawer.trans h.drawer
  drawn := h'.drawn.trans h.drawn
  deleted := h'.deleted.trans h.deleted
  started := h'.started.trans h.started
  halted := h'.halted.trans h.halted

/-- `c` is `b` without the objects `removed`, and remembers which of them a drawer knows. -/
structure Loses (b c : Battle α π δ) (removed : List ObjectId) : Prop where
  ids : b.ids ~ removed ++ c.ids
  nextId : c.nextId = b.nextId
  settings : c.settings = b.settings
  tick : c.tick = b.tick
  drawer : c.drawer = b.drawer
  drawn : c.drawn = b.drawn.filter (!removed.contains ·)
  deleted : c.deleted = b.deleted ++ removed.filter (b.drawn.contains ·)
  started : c.started = b.started
  halted : c.halted = b.halted

variable [Scalar α]

theorem ids_decide [Pilot α π] (b : Battle α π δ) : b.decide.ids = b.ids := by
  simp only [ids_eq, decide, List.map_map]
  congr 3
  exact List.map_congr_left fun s _ => s.id_decide _ _

theorem bodies_integrate (b : Battle α π δ) :
    b.integrate.bodies = b.bodies.map (·.integrate b.dt) := by
  simp only [bodies, integrate, List.map_append, List.map_map]
  rfl

theorem ids_integrate (b : Battle α π δ) : b.integrate.ids = b.ids := by
  rw [ids, bodies_integrate, List.map_map]
  rfl

theorem map_id_strike (dt cor : α) (bodies : List (Body α)) (i j : Nat) :
    (strike dt cor bodies i j).1.map (·.id) = bodies.map (·.id) := by
  rw [strike_eq]
  split
  · rfl
  split
  · rename_i x y hx hy
    cases hc : x.collide? y dt cor with
    | none => rfl
    | some c =>
      obtain ⟨⟨hfirst, -, -⟩, ⟨hsecond, -, -⟩⟩ := Body.alike_of_collide hc
      -- every place holds what it held, or one of the two bodies after the collision
      apply List.ext_getElem?
      intro k
      simp only [List.map_set, hfirst, hsecond, List.getElem?_set, List.getElem?_map,
        List.length_set, List.length_map]
      split
      · rename_i hk
        subst hk
        split <;> simp_all
      · split
        · rename_i hk
          subst hk
          split <;> simp_all
        · rfl
  · rfl

theorem map_id_strikeSolids (dt : α) (pairs : List (Nat × Nat)) (bodies : List (Body α)) :
    (strikeSolids dt pairs bodies).map (·.id) = bodies.map (·.id) := by
  induction pairs generalizing bodies with
  | nil => rfl
  | cons p rest ih => exact (ih _).trans (map_id_strike dt _ bodies p.1 p.2)

theorem map_id_strikeShots (dt : α) (solids : Nat) (pairs : List (Nat × Nat))
    (bodies : List (Body α)) (spent : List Bool) :
    (strikeShots dt solids pairs bodies spent).1.map (·.id) = bodies.map (·.id) ∧
      (strikeShots dt solids pairs bodies spent).2.length = spent.length := by
  induction pairs generalizing bodies spent with
  | nil => exact ⟨rfl, rfl⟩
  | cons p rest ih =>
    rw [strikeShots, List.foldl_cons]
    split
    · exact ih bodies spent
    · obtain ⟨hids, hlength⟩ := ih (strike dt projectileRestitution bodies p.1 p.2).1
        (spent.set (p.1 - solids) (strike dt projectileRestitution bodies p.1 p.2).2)
      exact ⟨hids.trans (map_id_strike dt _ bodies p.1 p.2), hlength.trans List.length_set⟩

omit [Scalar α] in
/-- Bodies that are given back are found in their places again. -/
theorem bodies_withBodies {b : Battle α π δ} {bodies : List (Body α)} {spent : List Bool}
    (hb : bodies.length = b.bodies.length) (hs : spent.length = b.projectiles.length) :
    (b.withBodies bodies spent).bodies = bodies := by
  have hships := map_zipWith_snd (f := Ship.withBody (π := π)) (g := Ship.body) (fun _ _ => rfl)
    b.ships bodies
  have hpoints := map_zipWith_snd (f := fun (p : ControlPoint α) body => { p with body })
    (g := (·.body)) (fun _ _ => rfl) b.controlPoints (bodies.drop b.ships.length)
  have hrocks := map_zipWith_snd (f := fun (a : Asteroid α) body => { a with body })
    (g := (·.body)) (fun _ _ => rfl) b.asteroids
    ((bodies.drop b.ships.length).drop b.controlPoints.length)
  have hshots := map_zipWith_snd (f := fun spent body => (⟨body, spent⟩ : Projectile α))
    (g := (·.body)) (fun _ _ => rfl) spent
    (((bodies.drop b.ships.length).drop b.controlPoints.length).drop b.asteroids.length)
  -- nothing is left over behind the projectiles
  have hrest : (((bodies.drop b.ships.length).drop b.controlPoints.length).drop
      b.asteroids.length).length ≤ spent.length := by
    simp only [Battle.bodies, List.length_append, List.length_map] at hb
    simp only [List.length_drop]
    omega
  simp only [Battle.bodies, withBodies]
  rw [List.zipWith_comm (f := fun body spent => (⟨body, spent⟩ : Projectile α)), hships, hpoints,
    hrocks, hshots, List.take_of_length_le hrest]
  simp only [List.append_assoc, List.take_append_drop]

/-- What the collisions of a tick make of the bodies. -/
theorem bodies_collide (b : Battle α π δ) :
    let solids := b.bodies.length - b.projectiles.length
    let g := grids b.dt solids b.bodies
    b.collide.bodies = (strikeShots b.dt solids (g.2.pairsWith g.1)
      (strikeSolids b.dt g.1.pairs b.bodies) (b.projectiles.map (·.spent))).1 := by
  intro solids g
  obtain ⟨hids, hspent⟩ := map_id_strikeShots b.dt solids (g.2.pairsWith g.1)
    (strikeSolids b.dt g.1.pairs b.bodies) (b.projectiles.map (·.spent))
  have hlength := congrArg List.length (hids.trans (map_id_strikeSolids b.dt g.1.pairs b.bodies))
  simp only [List.length_map] at hlength hspent
  exact bodies_withBodies hlength hspent

theorem ids_collide (b : Battle α π δ) : b.collide.ids = b.ids := by
  rw [ids, bodies_collide, ids]
  -- neither of the two passes over the pairs renumbers a body
  calc _ = (strikeSolids b.dt _ b.bodies).map (·.id) := (map_id_strikeShots _ _ _ _ _).1
    _ = b.bodies.map (·.id) := map_id_strikeSolids _ _ _

theorem foldl_addShot (shots : List (Shot α)) (b : Battle α π δ) :
    shots.foldl addShot b = { b with
      projectiles := b.projectiles ++ (shots.zipIdx b.nextId).map fun e => e.1.projectile e.2
      nextId := b.nextId + shots.length } := by
  induction shots generalizing b with
  | nil => simp only [List.foldl_nil, List.zipIdx_nil, List.map_nil, List.append_nil,
      List.length_nil, Nat.add_zero]
  | cons shot rest ih =>
    have hnext : b.nextId + 1 + rest.length = b.nextId + (rest.length + 1) :=
      Nat.add_right_comm _ _ _
    rw [List.foldl_cons, ih]
    simp only [addShot, List.append_assoc, List.zipIdx_cons, List.map_cons, List.length_cons,
      List.cons_append, List.nil_append, hnext]
    rfl

theorem launch_eq (b : Battle α π δ) : b.launch = { b with
    ships := b.ships.map fun s => { s with shots := [] }
    projectiles := b.projectiles ++
      ((b.ships.flatMap (·.shots)).zipIdx b.nextId).map fun e => e.1.projectile e.2
    nextId := b.nextId + (b.ships.flatMap (·.shots)).length } := by
  rw [launch]
  exact foldl_addShot _ _

theorem grows_score (b : Battle α π δ) : b.Grows b.score 0 :=
  ⟨.refl _, rfl, rfl, rfl, rfl, rfl, rfl, rfl, rfl⟩

theorem grows_decide [Pilot α π] (b : Battle α π δ) : b.Grows b.decide 0 :=
  ⟨.of_eq b.ids_decide, rfl, rfl, rfl, rfl, rfl, rfl, rfl, rfl⟩

theorem grows_integrate (b : Battle α π δ) : b.Grows b.integrate 0 :=
  ⟨.of_eq b.ids_integrate, rfl, rfl, rfl, rfl, rfl, rfl, rfl, rfl⟩

theorem grows_collide (b : Battle α π δ) : b.Grows b.collide 0 :=
  ⟨.of_eq b.ids_collide, rfl, rfl, rfl, rfl, rfl, rfl, rfl, rfl⟩

theorem grows_launch (b : Battle α π δ) :
    b.Grows b.launch (b.ships.flatMap (·.shots)).length := by
  rw [launch_eq]
  refine ⟨?_, rfl, rfl, rfl, rfl, rfl, rfl, rfl, rfl⟩
  have hships : (b.ships.map fun s => { s with shots := [] }).map Ship.id =
      b.ships.map Ship.id := by
    rw [List.map_map]
    rfl
  simp only [ids_eq, List.map_append, hships, Shot.map_id_zipIdx_projectile]
  rw [← List.append_assoc (_ ++ _ ++ _)]
  exact List.perm_append_comm

theorem grows_move [Pilot α π] (b : Battle α π δ) : ∃ count, b.Grows b.move count :=
  ⟨_, ((b.grows_score.trans (grows_decide _)).trans (grows_launch _)).trans (grows_integrate _)⟩

/-- An edit adds nothing or one object. -/
theorem grows_edit (b : Battle α π δ) (e : Edit α π) : ∃ count, b.Grows (b.edit e) count := by
  cases e with
  | fleet name => exact ⟨0, .refl _, rfl, rfl, rfl, rfl, rfl, rfl, rfl, rfl⟩
  | ship fleet position pilot parts =>
    rcases b.edit_ship_cases fleet position pilot parts with hrefused | ⟨-, hadded⟩
    · rw [hrefused]
      exact ⟨0, .refl _, rfl, rfl, rfl, rfl, rfl, rfl, rfl, rfl⟩
    · rw [hadded]
      refine ⟨1, ?_, rfl, rfl, rfl, rfl, rfl, rfl, rfl, rfl⟩
      simp only [ids_eq, enlisted, List.map_append, List.append_assoc, List.range'_one]
      exact List.perm_middle
  | controlPoint position radius mass points influence =>
    refine ⟨1, ?_, rfl, rfl, rfl, rfl, rfl, rfl, rfl, rfl⟩
    simp only [ids_eq, edit, addControlPoint, Body.atRest, List.map_append, List.map_cons,
      List.map_nil, List.range'_one]
    apply List.perm_iff_count.mpr
    intro id
    simp only [List.count_append]
    omega
  | asteroid position radius mass texture =>
    refine ⟨1, ?_, rfl, rfl, rfl, rfl, rfl, rfl, rfl, rfl⟩
    simp only [ids_eq, edit, addAsteroid, Body.atRest, List.map_append, List.map_cons,
      List.map_nil, List.range'_one]
    apply List.perm_iff_count.mpr
    intro id
    simp only [List.count_append]
    omega
  | scoreLimit limit => exact ⟨0, .refl _, rfl, rfl, rfl, rfl, rfl, rfl, rfl, rfl⟩

theorem ships_cull (b : Battle α π δ) :
    b.cull.1.ships = b.ships.filter fun s => !b.isGone s.body := by
  simp only [cull, forget, List.partition_eq_filter_filter]
  rfl

theorem projectiles_cull (b : Battle α π δ) :
    b.cull.1.projectiles = b.projectiles.filter fun p => !(p.spent || b.isGone p.body) := by
  simp only [cull, forget, List.partition_eq_filter_filter]
  rfl

/-- What is left is in order, and as it was. -/
theorem sublist_cull (b : Battle α π δ) :
    b.cull.1.ships <+ b.ships ∧ b.cull.1.projectiles <+ b.projectiles := by
  rw [ships_cull, projectiles_cull]
  exact ⟨List.filter_sublist, List.filter_sublist⟩

theorem removed_cull (b : Battle α π δ) : b.cull.2 = b.ships.filter fun s => b.isGone s.body := by
  simp only [cull, forget, List.partition_eq_filter_filter]

theorem loses_cull (b : Battle α π δ) : ∃ removed, b.Loses b.cull.1 removed := by
  refine ⟨(b.ships.filter fun s => b.isGone s.body).map Ship.id ++
    (b.projectiles.filter fun p => p.spent || b.isGone p.body).map (·.body.id),
    ?_, rfl, rfl, rfl, rfl, ?_, ?_, rfl, rfl⟩
  · simp only [ids_eq, cull, forget, List.partition_eq_filter_filter, Function.comp_def]
    -- every ship and every projectile is either kept or removed
    apply List.perm_iff_count.mpr
    intro id
    have hships := ((List.filter_append_perm (fun s => b.isGone s.body) b.ships).map
      Ship.id).count_eq id
    have hshots := ((List.filter_append_perm (fun p => p.spent || b.isGone p.body)
      b.projectiles).map (·.body.id)).count_eq id
    simp only [List.map_append, List.count_append] at hships hshots ⊢
    omega
  · simp only [cull, forget, List.partition_eq_filter_filter]
  · simp only [cull, forget, List.partition_eq_filter_filter]

end Battle
end FleetArena
