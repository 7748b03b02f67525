import FleetArena.Proofs.Battle.Flight

/-! The places of the bodies in the collisions of a tick. The bodies of all objects stand in one
list, solid ones first; every pair that the grids offer names two places of it, the pair of a
projectile also a place among the flags, and behind the collisions every object gets its own body
back. -/
namespace FleetArena.Battle
variable {α π δ : Type} [Scalar α]

/-- The bodies `x` and `y` are in hand, from two places in the order in which these are named. They
belong to different objects, collide if they come into contact, and are put back in their places. -/
structure Tried (dt cor : α) (bodies : List (Body α)) (p : Nat × Nat) (x y : Body α) : Prop where
  first : bodies[p.1]? = some x
  second : bodies[p.2]? = some y
  places : places? bodies p.1 p.2 = some ⟨x, y, fun x' y' => (bodies.set p.1 x').set p.2 y'⟩
  id_ne : x.id ≠ y.id
  collides : (x.collide? y dt cor).isSome = (x.contact? y dt).isSome
  struck : strike dt cor bodies p.1 p.2 = (x.collide? y dt cor).elim (bodies, false) fun c =>
    ((bodies.set p.1 c.first).set p.2 c.second, true)

/-- Bodies of different numbers at different places can be tried. -/
theorem exists_tried {bodies : List (Body α)} {p : Nat × Nat} (hids : (bodies.map (·.id)).Nodup)
    (hne : p.1 ≠ p.2) (hi : p.1 < bodies.length) (hj : p.2 < bodies.length) (dt cor : α) :
    ∃ x y, Tried dt cor bodies p x y := by
  have hfirst : bodies[p.1]? = some bodies[p.1] := List.getElem?_eq_getElem hi
  have hsecond : bodies[p.2]? = some bodies[p.2] := List.getElem?_eq_getElem hj
  have hid : bodies[p.1].id ≠ bodies[p.2].id := by
    intro h
    have hi' : p.1 < (bodies.map (·.id)).length := by
      rwa [List.length_map]
    have hsame : (bodies.map (·.id))[p.1]? = (bodies.map (·.id))[p.2]? := by
      rw [List.getElem?_map, List.getElem?_map, hfirst, hsecond, Option.map_some, Option.map_some,
        h]
    exact hne ((List.getElem?_inj hi' hids).mp hsame)
  refine ⟨bodies[p.1], bodies[p.2], hfirst, hsecond, places?_eq_some hne hfirst hsecond, hid, ?_,
    ?_⟩
  · rw [Body.collide?, if_neg hid, Option.isSome_map]
  · rw [strike_eq, if_neg hne, hfirst, hsecond]
    dsimp only
    cases bodies[p.1].collide? bodies[p.2] dt cor <;> rfl

theorem Tried.getElem?_ids {dt cor : α} {bodies : List (Body α)} {p : Nat × Nat} {x y : Body α}
    (h : Tried dt cor bodies p x y) :
    (bodies.map (·.id))[p.1]? = some x.id ∧ (bodies.map (·.id))[p.2]? = some y.id := by
  rw [List.getElem?_map, List.getElem?_map, h.first, h.second]
  exact ⟨rfl, rfl⟩

section
variable (b : Battle α π δ)

/-- Every object has a body from the list after the collisions, the one that is like its own. -/
theorem rebodied_struck : b.Rebodied (fun x y => y ∈ b.struck.1 ∧ x.Alike y) b.collide := by
  have halike : List.Forall₂ Body.Alike b.bodies b.struck.1 := by
    rw [← bodies_collide_eq_struck]
    exact b.forall₂_alike_collide
  have hmem : List.Forall₂ (fun y x => y ∈ b.struck.1 ∧ Body.Alike x y) b.struck.1 b.bodies :=
    (List.forall₂_and_left _ _).mpr ⟨fun _ hy => hy, halike.flip⟩
  rw [collide_eq]
  exact rebodied_withBodies hmem.flip b.length_snd_struck

end

/-- The collisions of a tick keep the books. Solid bodies are paired with solid bodies behind them,
and projectiles with solid bodies. Whatever has collided before, a pair finds both of its bodies,
and a projectile its flag. The next step of either pass is the collision of the next pair, and only
a pair of a spent projectile is left out. Two different places of any list can be had together. In
the end every body is back with the object of its number, and no body is left over. -/
theorem bookkeeping_collide (b : Battle α π δ) (h : b.ids.Nodup) :
    let g := grids b.dt b.solids b.bodies
    let flags := b.projectiles.map (·.spent)
    b.bodies.length = b.solids + b.projectiles.length ∧
      (∀ p ∈ g.1.pairs, p.1 < p.2 ∧ p.2 < b.solids) ∧
      (∀ p ∈ g.2.pairsWith g.1, b.solids ≤ p.1 ∧ p.1 < b.bodies.length ∧ p.2 < b.solids) ∧
      (∀ before p after, g.1.pairs = before ++ p :: after →
        let now := strikeSolids b.dt before b.bodies
        (∃ x y, Tried b.dt solidRestitution now p x y) ∧
          strikeSolids b.dt (before ++ [p]) b.bodies =
            (strike b.dt solidRestitution now p.1 p.2).1) ∧
      (∀ before p after, g.2.pairsWith g.1 = before ++ p :: after →
        let now := strikeShots b.dt b.solids before (strikeSolids b.dt g.1.pairs b.bodies) flags
        ∃ (x y : Body α) (spent : Bool), now.2[p.1 - b.solids]? = some spent ∧
          Tried b.dt projectileRestitution now.1 p x y ∧
          strikeShots b.dt b.solids (before ++ [p]) (strikeSolids b.dt g.1.pairs b.bodies) flags =
            if spent then now
            else
              let hit := strike b.dt projectileRestitution now.1 p.1 p.2
              (hit.1, now.2.set (p.1 - b.solids) hit.2)) ∧
      (∀ (β : Type) (items : List β) (i j : Nat), (places? items i j = none ↔
          i = j ∨ items.length ≤ max i j) ∧
        ∀ x y, i ≠ j → items[i]? = some x → items[j]? = some y →
          places? items i j = some ⟨x, y, fun x' y' => (items.set i x').set j y'⟩) ∧
      b.collide.bodies = b.struck.1 ∧ b.struck.1.map (·.id) = b.ids ∧
      b.collide.projectiles.map (·.spent) = b.struck.2 ∧
      b.Rebodied (fun x y => y ∈ b.struck.1 ∧ x.Alike y) b.collide := by
  intro g flags
  obtain ⟨hamong, hacross⟩ := mem_pairs_grids b.dt b.solids b.bodies
  refine ⟨b.length_bodies, fun p hp => ?_, hacross, ?_, ?_,
    fun β items i j => ⟨places?_eq_none_iff, fun x y => places?_eq_some⟩,
    b.bodies_collide_eq_struck, b.map_id_struck, b.map_spent_collide, b.rebodied_struck⟩
  · obtain ⟨hlt, hsolid, -⟩ := hamong p hp
    exact ⟨hlt, hsolid⟩
  · intro before p after hsplit now
    obtain ⟨hlt, -, hin⟩ := hamong p (hsplit ▸ List.mem_append_right _ List.mem_cons_self)
    have hids : (now.map (·.id)).Nodup := by
      rwa [map_id_strikeSolids]
    have hlength : now.length = b.bodies.length := length_strikeSolids b.dt before b.bodies
    refine ⟨exists_tried hids hlt.ne ?_ ?_ b.dt solidRestitution, ?_⟩
    · rw [hlength]
      exact hlt.trans hin
    · rwa [hlength]
    · rw [strikeSolids, List.foldl_append]
      rfl
  · intro before p after hsplit now
    obtain ⟨hshot, hin, hsolid⟩ := hacross p (hsplit ▸ List.mem_append_right _ List.mem_cons_self)
    obtain ⟨hsame, hflags⟩ := map_id_strikeShots b.dt b.solids before
      (strikeSolids b.dt g.1.pairs b.bodies) flags
    have hids : (now.1.map (·.id)).Nodup := by
      rwa [hsame, map_id_strikeSolids]
    have hlength : now.1.length = b.bodies.length := by
      rw [length_fst_strikeShots, length_strikeSolids]
    have hplace : p.1 - b.solids < now.2.length := by
      rw [hflags, List.length_map]
      rw [length_bodies] at hin
      omega
    have hflag : now.2[p.1 - b.solids]? = some now.2[p.1 - b.solids] :=
      List.getElem?_eq_getElem hplace
    obtain ⟨x, y, htried⟩ := exists_tried hids (by omega) (hlength ▸ hin) (by omega) b.dt
      projectileRestitution
    refine ⟨x, y, _, hflag, htried, ?_⟩
    have hstep : strikeShots b.dt b.solids (before ++ [p]) (strikeSolids b.dt g.1.pairs b.bodies)
        flags = strikeShots b.dt b.solids [p] now.1 now.2 := by
      rw [strikeShots, List.foldl_append]
      rfl
    rw [hstep, strikeShots, List.foldl_cons, List.foldl_nil, hflag]
    rfl

open Exact

/-- A ball of radius 1 at rest in the middle of the arena. -/
noncomputable def ballAt0 (id : ObjectId) : Body Exact :=
  .atRest id (.exact 0) 1.0 1.0 1.0

/-- A ship, a control point, an asteroid and two projectiles, all in one place. -/
noncomputable def melee : Battle Exact Unit Unit :=
  { (empty 100.0 .standard : Battle Exact Unit Unit) with
    ships := [⟨⟨⟨ballAt0 1, "red", 1e-2, 0.0, 0.0⟩, ⟨[], [], [], []⟩, []⟩, ()⟩]
    controlPoints := [⟨ballAt0 2, 1.0, 10.0⟩]
    asteroids := [⟨ballAt0 3, "rock"⟩]
    projectiles := [⟨ballAt0 4, false⟩, ⟨ballAt0 5, false⟩]
    nextId := 6 }

/-- The ship is tried against the asteroid, and the second projectile against the ship; and in the
end the numbers stand as they stood. -/
theorem bookkeeping_collide_of_melee : melee.ids.Nodup ∧
    (∃ now x y, Tried melee.dt solidRestitution now (0, 2) x y ∧ x.id = 1 ∧ y.id = 3) ∧
    (∃ now x y, Tried melee.dt projectileRestitution now (4, 0) x y ∧ x.id = 5 ∧ y.id = 1) ∧
    melee.collide.bodies.map (·.id) = [1, 2, 3, 4, 5] := by
  have hids : melee.ids = [1, 2, 3, 4, 5] := rfl
  have hnodup : melee.ids.Nodup := by
    rw [hids]
    decide
  -- all balls are filed in the same sectors
  let g := grids melee.dt melee.solids melee.bodies
  obtain ⟨hsize₁, hsize₂⟩ := size_grids melee.dt melee.solids melee.bodies
  obtain ⟨t, ht⟩ := g.1.exists_mem_cover (ballAt0 1).position ((ballAt0 1).extent melee.dt)
  have ht' : t ∈ g.2.cover (ballAt0 1).position ((ballAt0 1).extent melee.dt) := by
    rwa [Grid.cover_congr (hsize₂.trans hsize₁.symm)]
  have hship : 0 ∈ g.1.members t :=
    (mem_members_grids_fst _ _ _ _ _).mpr ⟨by decide, ballAt0 1, rfl, ht⟩
  have hrock : 2 ∈ g.1.members t :=
    (mem_members_grids_fst _ _ _ _ _).mpr ⟨by decide, ballAt0 3, rfl, ht⟩
  have hshot : 4 ∈ g.2.members t :=
    (mem_members_grids_snd _ _ _ _ _).mpr ⟨by decide, ballAt0 5, rfl, ht'⟩
  obtain ⟨beforeRock, afterRock, hpairs⟩ := List.append_of_mem
    ((Grid.mem_pairs_iff _ _ _).mpr ⟨by decide, t, hship, hrock⟩ : (0, 2) ∈ g.1.pairs)
  obtain ⟨beforeShip, afterShip, hpairsWith⟩ := List.append_of_mem
    ((Grid.mem_pairsWith_iff _ _ _ _).mpr ⟨t, hshot, hship⟩ : (4, 0) ∈ g.2.pairsWith g.1)
  obtain ⟨-, -, -, hsolids, hshots, -, hbodies, hstruck, -⟩ := bookkeeping_collide melee hnodup
  have hback : melee.collide.bodies.map (·.id) = [1, 2, 3, 4, 5] :=
    (congrArg (List.map (·.id)) hbodies).trans (hstruck.trans hids)
  refine ⟨hnodup, ?_, ?_, hback⟩
  · obtain ⟨⟨x, y, htried⟩, -⟩ := hsolids _ _ _ hpairs
    have hnow := (map_id_strikeSolids melee.dt beforeRock melee.bodies).trans hids
    obtain ⟨hx, hy⟩ := htried.getElem?_ids
    rw [hnow] at hx hy
    exact ⟨_, x, y, htried, Option.some.inj hx.symm, Option.some.inj hy.symm⟩
  · obtain ⟨x, y, -, -, htried, -⟩ := hshots _ _ _ hpairsWith
    have hnow := (map_id_strikeShots melee.dt melee.solids beforeShip
      (strikeSolids melee.dt g.1.pairs melee.bodies) (melee.projectiles.map (·.spent))).1.trans
      ((map_id_strikeSolids melee.dt g.1.pairs melee.bodies).trans hids)
    obtain ⟨hx, hy⟩ := htried.getElem?_ids
    rw [hnow] at hx hy
    exact ⟨_, x, y, htried, Option.some.inj hx.symm, Option.some.inj hy.symm⟩

end FleetArena.Battle
