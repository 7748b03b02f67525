import FleetArena.Proofs.Battle.Collisions

/-! What motion and collisions leave of the objects: each one has its body replaced by one like
it, and stays in its place. -/
namespace FleetArena.Battle
variable {α π δ : Type}

/-- The objects of `c` are those of `b` with other bodies, which are like the ones before. -/
structure Moves (b c : Battle α π δ) : Prop where
  ships : List.Forall₂ (fun s t => ∃ y, s.body.Alike y ∧ t = s.withBody y) b.ships c.ships
  controlPoints : List.Forall₂ (fun p q => ∃ y, p.body.Alike y ∧ q = { p with body := y })
    b.controlPoints c.controlPoints
  asteroids : List.Forall₂ (fun a r => ∃ y, a.body.Alike y ∧ r = { a with body := y })
    b.asteroids c.asteroids
  projectiles : List.Forall₂ (fun p q => ∃ y spent, p.body.Alike y ∧ q = ⟨y, spent⟩)
    b.projectiles c.projectiles

/-- The objects of `c` are those of `b` with other bodies, which `R` relates to the ones before, and
nothing else is different but which projectiles are spent. -/
structure Rebodied (R : Body α → Body α → Prop) (b c : Battle α π δ) : Prop where
  ships : List.Forall₂ (fun s t => ∃ y, R s.body y ∧ t = s.withBody y) b.ships c.ships
  controlPoints : List.Forall₂ (fun p q => ∃ y, R p.body y ∧ q = { p with body := y })
    b.controlPoints c.controlPoints
  asteroids : List.Forall₂ (fun a r => ∃ y, R a.body y ∧ r = { a with body := y })
    b.asteroids c.asteroids
  projectiles : List.Forall₂ (fun p q => ∃ y spent, R p.body y ∧ q = ⟨y, spent⟩)
    b.projectiles c.projectiles
  rest : c = { b with
    ships := c.ships
    controlPoints := c.controlPoints
    asteroids := c.asteroids
    projectiles := c.projectiles }

theorem Rebodied.moves {R : Body α → Body α → Prop} {b c : Battle α π δ} (h : b.Rebodied R c)
    (hR : ∀ x y, R x y → x.Alike y) : b.Moves c := by
  refine ⟨h.ships.imp ?_, h.controlPoints.imp ?_, h.asteroids.imp ?_, h.projectiles.imp ?_⟩
  · exact fun _ _ ⟨y, hy, ht⟩ => ⟨y, hR _ y hy, ht⟩
  · exact fun _ _ ⟨y, hy, hq⟩ => ⟨y, hR _ y hy, hq⟩
  · exact fun _ _ ⟨y, hy, hr⟩ => ⟨y, hR _ y hy, hr⟩
  · exact fun _ _ ⟨y, spent, hy, hq⟩ => ⟨y, spent, hR _ y hy, hq⟩

theorem rebodied_withBodies {R : Body α → Body α → Prop} {b : Battle α π δ}
    {bodies : List (Body α)} {spent : List Bool} (hbodies : List.Forall₂ R b.bodies bodies)
    (hspent : spent.length = b.projectiles.length) :
    b.Rebodied R (b.withBodies bodies spent) := by
  -- the bodies are given back in the order in which they were taken
  simp only [Battle.bodies, List.append_assoc] at hbodies
  obtain ⟨hships, hrest⟩ := forall₂_zipWith (f := Ship.withBody) hbodies
  obtain ⟨hpoints, hrest⟩ :=
    forall₂_zipWith (f := fun (p : ControlPoint α) body => { p with body }) hrest
  obtain ⟨hrocks, hrest⟩ :=
    forall₂_zipWith (f := fun (a : Asteroid α) body => { a with body }) hrest
  have hlength : (b.projectiles.map (·.body)).length ≤ spent.length := by
    rw [List.length_map, hspent]
  have hshots := forall₂_zipWith_right (f := fun body spent => (⟨body, spent⟩ : Projectile α))
    hrest hlength
  exact ⟨hships, hpoints, hrocks, List.forall₂_map_left_iff.mp hshots, rfl⟩

variable [Scalar α]

theorem rebodied_integrate (b : Battle α π δ) :
    b.Rebodied (fun x y => y = x.integrate b.dt) b.integrate := by
  refine ⟨?_, ?_, ?_, ?_, rfl⟩
  · apply List.forall₂_map_right_iff.mpr
    exact List.forall₂_same.mpr fun s _ => ⟨_, rfl, rfl⟩
  · apply List.forall₂_map_right_iff.mpr
    exact List.forall₂_same.mpr fun p _ => ⟨_, rfl, rfl⟩
  · apply List.forall₂_map_right_iff.mpr
    exact List.forall₂_same.mpr fun a _ => ⟨_, rfl, rfl⟩
  · apply List.forall₂_map_right_iff.mpr
    exact List.forall₂_same.mpr fun p _ => ⟨_, p.spent, rfl, rfl⟩

theorem moves_integrate (b : Battle α π δ) : b.Moves b.integrate := by
  refine b.rebodied_integrate.moves ?_
  rintro x _ rfl
  exact x.alike_integrate b.dt

/-- Whatever pairs have been tried, the bodies are like those before, in the same places. -/
theorem forall₂_alike_strikes (dt : α) (bodies : List (Body α)) (pairs : List (Nat × Nat))
    (solids : Nat) (others : List (Nat × Nat)) (spent : List Bool) :
    List.Forall₂ Body.Alike bodies
      (strikeShots dt solids others (strikeSolids dt pairs bodies) spent).1 := by
  have hhit {cor : α} {l l' : List (Body α)} (h : Hit dt cor l l')
      (hl : List.Forall₂ Body.Alike bodies l) : List.Forall₂ Body.Alike bodies l' := by
    obtain ⟨hij, hx, hy, hc⟩ := h
    obtain ⟨hfirst, hsecond⟩ := Body.alike_of_collide hc
    have hset := forall₂_set hl hx fun z hz => hz.trans hfirst
    -- the second place still holds what it held, as the two are different
    refine forall₂_set hset ?_ fun z hz => hz.trans hsecond
    rw [List.getElem?_set_ne hij, hy]
  have hstart : List.Forall₂ Body.Alike bodies bodies :=
    List.forall₂_same.mpr fun x _ => .refl x
  exact strikeShots_induction hhit (strikeSolids_induction hhit hstart _) _ _ _

theorem forall₂_alike_collide (b : Battle α π δ) :
    List.Forall₂ Body.Alike b.bodies b.collide.bodies := by
  rw [bodies_collide]
  exact forall₂_alike_strikes _ _ _ _ _ _

theorem exists_collide_eq (b : Battle α π δ) : ∃ spent, spent.length = b.projectiles.length ∧
    b.collide = b.withBodies b.collide.bodies spent := by
  let solids := b.bodies.length - b.projectiles.length
  let g := grids b.dt solids b.bodies
  obtain ⟨-, hspent⟩ := map_id_strikeShots b.dt solids (g.2.pairsWith g.1)
    (strikeSolids b.dt g.1.pairs b.bodies) (b.projectiles.map (·.spent))
  refine ⟨_, hspent.trans (List.length_map _), ?_⟩
  rw [bodies_collide]
  rfl

theorem rebodied_collide (b : Battle α π δ) : b.Rebodied Body.Alike b.collide := by
  obtain ⟨spent, hspent, h⟩ := b.exists_collide_eq
  rw [h]
  exact rebodied_withBodies b.forall₂_alike_collide hspent

theorem moves_collide (b : Battle α π δ) : b.Moves b.collide :=
  b.rebodied_collide.moves fun _ _ h => h

end FleetArena.Battle
