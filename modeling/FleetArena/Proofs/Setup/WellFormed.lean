import FleetArena.Channel
import FleetArena.Proofs.Battle.Rest
import FleetArena.Proofs.Battle.WellFormed
import FleetArena.Proofs.Setup.Edits

/-! The bodies of a battle that was built. The setup checks all masses and radii but one: the check
of a weapon lets the radius of its rounds be negative, and the projectiles have it. -/
namespace FleetArena
open Exact

/-- The check of a body lets only positive masses pass, infinity among them. -/
theorem Body.wellFormed_of_checkBody {object : MapObject} {x : Body Exact} {u : Unit}
    (h : Setup.checkBody object x.radius x.mass = .ok u) : x.WellFormed := by
  obtain ⟨hnan, hmass, hradius⟩ := Setup.sound_of_checkBody h
  obtain ⟨r, hr, he⟩ := Part.isNonNegative_iff.mp hradius
  refine ⟨?_, ?_⟩
  · rw [zero_eq] at hmass ⊢
    exact pos_iff_not_le.mpr ⟨hnan, hmass⟩
  · rw [he, zero_eq, real_le]
    exact hr

namespace Battle
variable {π δ σ : Type} {b : Battle Exact π δ}

/-- A loaded weapon of a ship has rounds of this radius. -/
def Loads (b : Battle Exact π δ) (radius : Exact) : Prop :=
  ∃ s ∈ b.ships, ∃ w ∈ s.loadout.weapons, w.ammo ≠ 0 ∧ w.ammoRadius = radius

variable [Pilot Exact π]

theorem wellFormed_of_build {s : Setup Exact (StateM σ) π δ} (hbuild : Yields s.build b) :
    b.WellFormed b.Loads := by
  obtain ⟨hprojectiles, hshots⟩ := (Setup.unstarted_of_build hbuild).nothing_fired
  obtain ⟨hcheck, es, hadmits, -, rfl⟩ := Setup.exists_edits_of_build hbuild
  obtain ⟨hpoints, hrocks⟩ := Setup.bodies_of_check hcheck
  have hempty : (Battle.empty s.map.radius s.settings : Battle Exact π δ).WellFormed
      fun _ => True :=
    ⟨List.forall_mem_nil _, List.forall_mem_nil _, List.forall_mem_nil _, List.forall_mem_nil _⟩
  have hes : ∀ e ∈ es, e.Fit fun _ => True := by
    intro e he
    have hadmit := hadmits e he
    cases e with
    | controlPoint position radius mass points influence =>
      obtain ⟨p, hp, rfl, rfl, -, -⟩ := hadmit
      have hbody := Body.wellFormed_of_checkBody (x := .atRest 0 position p.radius p.mass p.mass)
        (hpoints p hp)
      exact ⟨hbody.mass, hbody.radius⟩
    | asteroid position radius mass texture =>
      obtain ⟨a, ha, rfl, rfl⟩ := hadmit
      have hbody := Body.wellFormed_of_checkBody (x := .atRest 0 position a.radius a.mass a.mass)
        (hrocks a ha)
      exact ⟨hbody.mass, hbody.radius⟩
    | ship => exact fun _ _ => Or.inr trivial
    | fleet => trivial
    | scoreLimit => trivial
  have hedited := hempty.editAll hes
  -- nothing has been fired yet, so that the radii of the rounds are those of the loaded weapons
  refine ⟨?_, hedited.controlPoints, hedited.asteroids, ?_⟩
  · intro ship hship
    obtain ⟨hladen, hradius, -, -⟩ := hedited.ships ship hship
    refine ⟨hladen, hradius, ?_, ?_⟩
    · intro w hw
      by_cases hammo : w.ammo = 0
      · exact Or.inl hammo
      · exact Or.inr ⟨ship, hship, w, hw, hammo, rfl⟩
    · rw [hshots ship hship]
      exact List.forall_mem_nil _
  · rw [hprojectiles]
    exact List.forall_mem_nil _

variable [Drawer Exact δ]

/-- After any number of steps of a battle that was built all masses are positive, and the radii of
ships, control points and asteroids are not negative. A projectile has the radius of the rounds of a
weapon that was loaded at the start; if none of these is negative, all bodies are well formed. -/
theorem wellFormed_after_steps {s : Setup Exact (StateM σ) π δ} (hbuild : Yields s.build b)
    (n : Nat) :
    let c := b.operateAll (List.replicate n .step)
    (∀ x ∈ c.bodies, 0.0 < x.mass) ∧
      (∀ x ∈ c.ships.map Ship.body ++ c.controlPoints.map (·.body) ++ c.asteroids.map (·.body),
        x.WellFormed) ∧
      (∀ p ∈ c.projectiles, b.Loads p.body.radius) ∧
      ((∀ radius, b.Loads radius → 0.0 ≤ radius) → ∀ x ∈ c.bodies, x.WellFormed) := by
  intro c
  have hc : c.WellFormed b.Loads := (wellFormed_of_build hbuild).steps n
  have hsolid : ∀ x ∈ c.ships.map Ship.body ++ c.controlPoints.map (·.body) ++
      c.asteroids.map (·.body), x.WellFormed := by
    simp only [List.forall_mem_append, List.forall_mem_map]
    refine ⟨⟨?_, hc.controlPoints⟩, hc.asteroids⟩
    intro ship hship
    obtain ⟨m, hm, hmass⟩ := (hc.ships ship hship).laden.mass_pos
    refine ⟨?_, (hc.ships ship hship).radius⟩
    show 0.0 < ship.hull.body.mass
    rw [hmass, zero_eq, real_lt]
    exact hm
  refine ⟨?_, hsolid, fun p hp => (hc.projectiles p hp).2, ?_⟩
  · rw [bodies, List.forall_mem_append, List.forall_mem_map]
    exact ⟨fun x hx => (hsolid x hx).mass, fun p hp => (hc.projectiles p hp).1⟩
  · intro hrounds
    rw [bodies, List.forall_mem_append, List.forall_mem_map]
    refine ⟨hsolid, ?_⟩
    intro p hp
    obtain ⟨hmass, hradius⟩ := hc.projectiles p hp
    exact ⟨hmass, hrounds _ hradius⟩

end Battle

/-- A pilot that fires its first weapon along the first axis, over and over. -/
structure Gunner where

instance {α : Type} [Scalar α] : Pilot α Gunner where
  tick _ p := do
    let _ ← Plan.perform (.fire 0 .unitX)
    return p

/-- A weapon of one round, which leaves the muzzle without any speed. -/
noncomputable def WeaponSpec.sling (radius : ℝ) : WeaponSpec Exact :=
  ⟨1.0, 1.0, 0.0, 0.0, 1.0, real radius, 1, 0.0, none⟩

noncomputable def Part.sling (radius : ℝ) : Part Exact :=
  .weapon (.ofSpec .zero (.sling radius) (real 1))

noncomputable def RosterShip.gunner : RosterShip Exact :=
  ⟨"gunner", [0.0, 0.0, 0.0], [⟨.weapon, "sling", [0.0, 0.0, 0.0]⟩]⟩

noncomputable def Ship.gunner (radius : ℝ) : Ship Exact Gunner :=
  ⟨.assemble 1 "red" (.zero + .zero) [Part.sling radius] (real 1), {}⟩

noncomputable def Setup.range (radius : ℝ) : Setup Exact (StateM Unit) Gunner (Channel Exact) where
  map := {
    radius := 1000.0
    rules := { maxFleetMass := 100.0 }
    startingPoints := [[0.0, 0.0, 0.0]] }
  catalog := { weapons := .ofList [("sling", .sling radius)] }
  fleets := [⟨"red", [.gunner]⟩]
  registry := Registry.empty.register "gunner" fun _ => pure {}
  settings := { (.standard : Settings Exact) with tickSeconds := real 1 }
  drawer := none

/-- The arena of the range before the fleet comes. -/
noncomputable def Battle.meadow (radius : ℝ) : Battle Exact Gunner (Channel Exact) :=
  Battle.empty 1000.0 (Setup.range radius).settings

noncomputable def Battle.range (radius : ℝ) : Battle Exact Gunner (Channel Exact) :=
  { ((meadow radius).addFleet "red").addFleet "red" with
    ships := [.gunner radius]
    nextId := 2 }

namespace Setup
variable (radius : ℝ)

theorem check_range : (range radius).check = .ok () := by
  simp [check, range, failIf, Part.isPositive, repeated?, Settings.standard, bind, Except.bind,
    pure, Except.pure]

theorem checkParts_sling (fleet : String) : checkParts fleet [Part.sling radius] = .ok () := by
  have hmass : Part.isPositive (1.0 : Exact) = true := by simp [Part.isPositive]
  have hradius : Part.isNonNegative (1.0 : Exact) = true := by simp [Part.isNonNegative]
  have hmount : (Part.sling radius).mount.fault? = none :=
    Mount.fault?_eq_none_iff.mpr ⟨Vec3.isFinite_zero, hmass, hradius⟩
  apply checkParts_of_single
  -- of the radius of the rounds no more is asked than that it is finite
  refine Option.or_eq_none_iff.mpr ⟨hmount, ?_⟩
  simp [Part.sling, Weapon.ofSpec, WeaponSpec.sling, Part.isPositive, Part.isNonNegative]

theorem mass_sling : (Loadout.ofParts [Part.sling radius]).mass = real 2 := by
  change Scalar.sum [1.0 + Scalar.ofNat 1 * 1.0] = real 2
  rw [one_eq, ofNat_eq, real_mul, real_add, Nat.cast_one, mul_one, one_add_one_eq_two]
  simpa using sum_map_real [2]

theorem link_gunner :
    (range radius).catalog.link (real 1) RosterShip.gunner.parts = .ok [Part.sling radius] := by
  have hentry : RosterPart.link (range radius).catalog (real 1)
      ⟨.weapon, "sling", [0.0, 0.0, 0.0]⟩ = .ok (Part.sling radius) := by
    have hget : (range radius).catalog.weapons.get? "sling" = some (.sling radius) := by
      simp [range, Table.ofList, Table.insert, Table.alter, Table.alterEntries, Table.get?,
        EmptyCollection.emptyCollection, Table.empty]
    rw [RosterPart.link, ofCoordinates_zero]
    simp only [bind, Except.bind, hget, Option.map_some]
    rfl
  rw [Catalog.link, RosterShip.gunner, List.mapM_cons, hentry]
  rfl

theorem enlist_range : ((Battle.meadow radius).addFleet "red").enlist "red" (.zero + .zero) {}
    [Part.sling radius] = (Battle.range radius, .ok 1) :=
  Battle.enlist_eq_of_fit (checkParts_sling radius "red")

theorem deploy_range :
    Yields ((range radius).deploy "red" .zero ((Battle.meadow radius).addFleet "red", 0.0) .gunner)
      (Battle.range radius, real 2) := by
  have hpilot : Yields ((range radius).registry.create "gunner" 1 :
      ExceptT (SetupError Exact) (StateM Unit) Gunner) {} := ⟨(), (), rfl⟩
  have hmass : ((Battle.range radius).ship? 1).map (fun ship => 0.0 + ship.body.mass) =
      some (real 2) := by
    have hsum : (0.0 : Exact) + (Loadout.ofParts [Part.sling radius]).mass = real 2 := by
      rw [mass_sling, zero_eq, real_add, zero_add]
    exact congrArg some hsum
  have hstate : (Battle.range radius, real 2) = (Battle.range radius,
      (((Battle.range radius).ship? 1).map fun ship => 0.0 + ship.body.mass).getD 0.0) := by
    rw [hmass, Option.getD_some]
  have hlink := congrArg (Except.map fun parts => (parts, ({} : Gunner))) (link_gunner radius)
  rw [hstate]
  have hadd : ((Battle.meadow radius).addFleet "red").addShip "red" (.zero + .zero) {}
      [Part.sling radius] = .ok (1, Battle.range radius) :=
    Battle.addShip_eq_ok_iff.mpr ⟨checkParts_sling radius "red", rfl, rfl⟩
  exact yields_deploy hpilot hlink ofCoordinates_zero hadd

theorem build_range : Yields (range radius).build (Battle.range radius) := by
  have hlimit : ¬real 2 > (range radius).map.rules.maxFleetMass := by
    change ¬(100.0 : Exact) < real 2
    rw [hundred_eq, real_lt]
    norm_num
  exact yields_build_of_single rfl rfl ofCoordinates_zero (check_range radius) rfl
    (deploy_range radius) hlimit

end Setup

noncomputable def Shot.pebble (radius : ℝ) : Shot Exact where
  position := ⟨real (radius + 1 + 1), real 0, real 0⟩
  velocity := .zero
  mass := real 1
  radius := real radius

theorem Shot.position_pebble (r : ℝ) :
    (pebble r).position = Vec3.exact ((r + 2) • EuclideanSpace.single 0 1) := by
  have hsum : r + 1 + 1 = r + 2 := by
    ring
  simp [pebble, Vec3.exact, hsum]

/-- Without a muzzle speed there is no recoil, and the shot stays where it comes out. -/
theorem Weapon.fire_sling (r : ℝ) {h : Hull Exact} (hbody : h.body.IsSphere 0 0 1)
    (hmass : h.body.mass = real 2) (henergy : h.energy = real 0) (hdt : h.dt = real 1) :
    ∃ w h', (Weapon.ofSpec .zero (.sling r) (real 1)).release.fire h 0 .unitX =
      (w, h', .ok (.pebble r)) ∧ h'.body.Rests 0 1 := by
  let w := (Weapon.ofSpec .zero (.sling r) (real 1)).release
  let w' := { w with mount := w.mount.markUsed, ammo := w.ammo - 1, lastShot := some 0 }
  let h' := ({ h with energy := h.energy - w.energy }.shed w.ammoMass).push (-Vec3.unitX)
    (w.ammoMass * w.ammoVelocity)
  have hcool : w.cooldownRemaining? 0 = none := rfl
  have hpaid : ¬h.energy - w.energy < 0.0 := by
    change ¬h.energy - 0.0 < 0.0
    rw [henergy, zero_eq, real_sub, real_lt]
    norm_num
  have hfire : w.fire h 0 .unitX = (w', h', .ok
      ⟨h'.body.position + Vec3.unitX * (h'.body.radius + w.ammoRadius + clearance),
        h'.body.velocity + Vec3.unitX * w.ammoVelocity, w.ammoMass, w.ammoRadius⟩) :=
    Weapon.fire_eq_ok rfl Vec3.direction?_unitX Nat.one_ne_zero hcool hpaid
  have hrecoil : h'.body.velocity = Vec3.exact 0 := by
    change h.body.velocity + -Vec3.unitX * (1.0 * 0.0 / (h.body.mass - 1.0)) * h.dt = _
    rw [hbody.velocity, hmass, hdt, one_eq, zero_eq, real_mul, real_sub, real_div (by norm_num),
      Vec3.unitX_eq, Vec3.exact_neg, Vec3.exact_mul, Vec3.exact_mul, Vec3.exact_add]
    simp
  have hplace : h'.body.position +
      (Vec3.unitX : Vec3 Exact) * (h'.body.radius + w.ammoRadius + clearance) =
        Vec3.exact ((r + 2) • EuclideanSpace.single 0 1) := by
    change h.body.position + (Vec3.unitX : Vec3 Exact) * (h.body.radius + real r + 1.0) = _
    rw [hbody.position, hbody.radius, one_eq, real_add, real_add, Vec3.unitX_eq, Vec3.exact_mul,
      Vec3.exact_add, zero_add]
    ring_nf
  have hspeed : h'.body.velocity + (Vec3.unitX : Vec3 Exact) * w.ammoVelocity = Vec3.exact 0 := by
    change h'.body.velocity + (Vec3.unitX : Vec3 Exact) * (0.0 : Exact) = _
    rw [hrecoil, zero_eq, Vec3.unitX_eq, Vec3.exact_mul, zero_smul, Vec3.exact_add, zero_add]
  have hmass' : w.ammoMass = real 1 := one_eq
  rw [hplace, ← Shot.position_pebble, hspeed, ← Vec3.zero_eq, hmass'] at hfire
  exact ⟨w', h', hfire, hbody.position, hrecoil, hbody.radius⟩

theorem Ship.decide_gunner (r : ℝ) (world : World Exact) :
    ((gunner r).decide 0 world).body.Rests 0 1 ∧
      ((gunner r).decide 0 world).shots = [.pebble r] := by
  let v := (gunner r).toVessel.begin
  have hbody : v.hull.body.IsSphere 0 0 1 :=
    Vessel.isSphere_assemble_of_single (Part.sling r) rfl rfl 1 "red" (real 1)
  have hmass : v.hull.body.mass = real 2 := Setup.mass_sling r
  have henergy : v.hull.energy = real 0 := by
    change Scalar.sum ([] : List Exact) = real 0
    simpa using sum_map_real []
  obtain ⟨w, h, hfire, hrests⟩ := Weapon.fire_sling r hbody hmass henergy rfl
  have hact := Vessel.act_fire_of_ok (v := v) (i := 0) rfl hfire
  have hvessel : ((gunner r).decide 0 world).toVessel = (v.act 0 (.fire 0 .unitX)).1 := rfl
  rw [hact] at hvessel
  rw [body, hvessel]
  exact ⟨hrests, rfl⟩

/-- The pebble in flight. -/
noncomputable def Projectile.pebble (radius : ℝ) : Projectile Exact :=
  ⟨⟨2, (Shot.pebble radius).position, .zero, real radius, real 1, real 1⟩, false⟩

namespace Battle
variable {r : ℝ}

theorem exists_launch_range (r : ℝ) : ∃ s : Ship Exact Gunner, s.body.Rests 0 1 ∧ s.id = 1 ∧
    (range r).start.score.decide.launch.bodies = [s.body, (Projectile.pebble r).body] ∧
    (range r).start.score.decide.launch.projectiles = [.pebble r] ∧
    (range r).start.score.decide.launch.arenaRadius = 1000.0 ∧
    (range r).start.score.decide.launch.dt = real 1 := by
  obtain ⟨hrests, hshots⟩ := Ship.decide_gunner r (range r).world
  let s := (Ship.gunner r).decide 0 (range r).world
  have hid : s.id = 1 := (Ship.gunner r).id_decide 0 _
  have hfired : (range r).start.score.decide.ships.flatMap (·.shots) = [.pebble r] := by
    change s.shots ++ [] = _
    rw [List.append_nil, hshots]
  have hlaunch : (range r).start.score.decide.launch =
      addShot { (range r).start.score.decide with ships := [{ s with shots := [] }] }
        (.pebble r) := by
    rw [launch, hfired]
    rfl
  rw [hlaunch]
  exact ⟨{ s with shots := [] }, hrests, hid, rfl, rfl, rfl, rfl⟩

theorem rests_pebble (r : ℝ) :
    (Projectile.pebble r).body.Rests ((r + 2) • EuclideanSpace.single 0 1) r :=
  ⟨Shot.position_pebble r, Vec3.zero_eq, rfl⟩

theorem norm_pebble (hlow : -1 ≤ r) :
    ‖(r + 2) • (EuclideanSpace.single 0 1 : Space)‖ = r + 2 := by
  rw [norm_smul, Real.norm_of_nonneg (by linarith)]
  simp

theorem isStill_range (hlow : -1 ≤ r) : (range r).start.score.decide.launch.IsStill := by
  obtain ⟨s, hship, hid, hbodies, -, -, hdt⟩ := exists_launch_range r
  have hpebble := rests_pebble r
  have hnorm := norm_pebble hlow
  have hfirst := hship.contact?_eq_none hpebble (by rw [sub_zero, hnorm]; linarith) 1
  have hsecond := hpebble.contact?_eq_none hship (by rw [zero_sub, norm_neg, hnorm]; linarith) 1
  constructor
  · rw [hbodies]
    simp only [List.forall_mem_cons]
    exact ⟨⟨_, _, hship⟩, ⟨_, _, hpebble⟩, List.forall_mem_nil _⟩
  · intro x hx y hy hne
    rw [hbodies, List.mem_pair] at hx hy
    rw [hdt]
    rcases hx with rfl | rfl
    · rcases hy with rfl | rfl
      · exact absurd rfl hne
      · exact hfirst
    · rcases hy with rfl | rfl
      · exact hsecond
      · exact absurd rfl hne

theorem not_isGone_pebble (hlow : -1 ≤ r) (hhigh : r ≤ 1) {b : Battle Exact Gunner (Channel Exact)}
    (harena : b.arenaRadius = 1000.0) : b.isGone (Projectile.pebble r).body = false := by
  have hhealth : (Projectile.pebble r).body.isDestroyed = false := by
    refine decide_eq_false ?_
    change ¬real 1 ≤ (0.0 : Exact)
    rw [zero_eq, real_le, not_le]
    exact one_pos
  have hinside : (Projectile.pebble r).body.isOutside b.arenaRadius = false := by
    refine decide_eq_false ?_
    change ¬b.arenaRadius < _
    rw [harena, thousand_eq, (rests_pebble r).position, Vec3.length_exact, norm_pebble hlow,
      real_lt]
    linarith
  rw [isGone, hhealth, hinside]
  rfl

/-- The gunner fires once, and the tick leaves the pebble where it has come out. -/
theorem step_range (hlow : -1 ≤ r) (hhigh : r ≤ 1) :
    (∃ o, (range r).step.result = .ok o) ∧ .pebble r ∈ (range r).step.battle.projectiles := by
  obtain ⟨s, -, -, -, hprojectiles, harena, hdt⟩ := exists_launch_range r
  have hstill := isStill_range hlow
  have hcompletes : (range r).Completes := completes_of_isStill rfl rfl hstill
  have hmove : (range r).start.move.IsStill := hstill.integrate hdt
  have hmoved : .pebble r ∈ (range r).start.move.projectiles := by
    have hmem : { Projectile.pebble r with body := (Projectile.pebble r).body.integrate (real 1) } ∈
        (range r).start.move.projectiles := by
      rw [← hdt]
      apply List.mem_map_of_mem
      rw [hprojectiles]
      exact List.mem_singleton_self _
    rwa [(rests_pebble r).integrate] at hmem
  have hculled : .pebble r ∈ (range r).completed.projectiles := by
    have hstays := not_isGone_pebble hlow hhigh (b := (range r).start.move) harena
    rw [projectiles_completed, hmove.collide, projectiles_cull]
    apply List.mem_filter.mpr
    refine ⟨hmoved, ?_⟩
    rw [hstays]
    rfl
  refine ⟨⟨_, congrArg Step.result hcompletes⟩, ?_⟩
  obtain ⟨drawer, drawn, deleted, hbattle⟩ := hcompletes.exists_battle_eq
  rw [hbattle]
  generalize (range r).completed = c at hculled
  exact hculled

theorem wellFormed_after_steps_of_range :
    Yields (Setup.range 1).build (range 1) ∧ (∀ radius, (range 1).Loads radius → 0.0 ≤ radius) ∧
      .pebble 1 ∈ ((range 1).operateAll (List.replicate 1 .step)).projectiles ∧
      ∀ x ∈ ((range 1).operateAll (List.replicate 1 .step)).bodies, x.WellFormed := by
  have hbuild := Setup.build_range 1
  have hrounds : ∀ radius, (range 1).Loads radius → 0.0 ≤ radius := by
    rintro radius ⟨s, hs, w, hw, -, rfl⟩
    obtain rfl := List.mem_singleton.mp hs
    obtain rfl := List.mem_singleton.mp hw
    change (0.0 : Exact) ≤ real 1
    rw [zero_eq, real_le]
    exact zero_le_one
  obtain ⟨-, -, -, hall⟩ := wellFormed_after_steps hbuild 1
  exact ⟨hbuild, hrounds, (step_range (by norm_num) le_rfl).2, hall hrounds⟩

/-- A weapon whose rounds have a negative radius passes the check, and what it fires is not well
formed. -/
theorem not_wellFormed_of_range : Yields (Setup.range (-1)).build (range (-1)) ∧
    (∃ o, (range (-1)).step.result = .ok o) ∧
    ∃ p ∈ (range (-1)).step.battle.projectiles, p.body.radius = real (-1) ∧ ¬p.body.WellFormed := by
  obtain ⟨hresult, hpebble⟩ := step_range (r := -1) le_rfl (by norm_num)
  refine ⟨Setup.build_range (-1), hresult, .pebble (-1), hpebble, rfl, ?_⟩
  intro h
  have hradius := h.radius
  change (0.0 : Exact) ≤ real (-1) at hradius
  rw [zero_eq, real_le] at hradius
  norm_num at hradius

end Battle
end FleetArena
