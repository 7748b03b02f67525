import FleetArena.Proofs.Battle.Identity
import FleetArena.Proofs.Battle.Ships
import FleetArena.Proofs.Setup.WellFormed
import FleetArena.Proofs.Vessel.Volley

/-! Ammunition: every round that a weapon gives up becomes a projectile in the same step, and
nothing else does. -/
namespace FleetArena
open scoped List
variable {α π δ : Type} [Scalar α]

/-- The projectile of a shot is as heavy and as wide as the rounds of the weapon. -/
def Firing.projectile (f : Firing α) (id : ObjectId) : Projectile α :=
  ⟨⟨id, f.shot.position, f.shot.velocity, f.weapon.ammoRadius, f.weapon.ammoMass,
    f.weapon.ammoMass⟩, false⟩

namespace Battle

/-- No ship holds back a shot. -/
def Unloaded (b : Battle α π δ) : Prop :=
  ∀ s ∈ b.ships, s.shots = []

theorem Unloaded.edit {b : Battle α π δ} (h : b.Unloaded) (e : Edit α π) :
    (b.edit e).Unloaded := by
  cases e with
  | ship fleet position pilot parts =>
    rcases b.edit_ship_cases fleet position pilot parts with hrefused | ⟨-, hadded⟩
    · rw [hrefused]
      exact h
    · rw [hadded]
      exact List.forall_mem_append.mpr ⟨h, List.forall_mem_singleton.mpr rfl⟩
  | fleet | controlPoint | asteroid | scoreLimit => exact h

variable [Pilot α π] [Drawer α δ] {b : Battle α π δ}

/-- After the ships have handed over their shots nothing is fired any more. -/
theorem unloaded_step (hh : b.halted = false) :
    b.step.battle.Unloaded ∧ ∀ s ∈ b.step.removed, s.shots = [] := by
  have hlaunched : b.launched.Unloaded := by
    rw [Unloaded, launched_eq]
    exact List.forall_mem_map.mpr fun s _ => rfl
  have hmove : b.start.move.Unloaded :=
    (moves_integrate _).forall_ships (P := fun v => v.shots = []) (fun h _ => h) hlaunched
  have hcollide : b.start.move.collide.Unloaded :=
    (moves_collide _).forall_ships (P := fun v => v.shots = []) (fun h _ => h) hmove
  obtain ⟨hships, hremoved⟩ := mem_ships_step hh
  exact ⟨fun s hs => (hships s hs).elim (hmove s) (hcollide s),
    fun s hs => hcollide s (hremoved s hs)⟩

theorem Unloaded.handle (h : b.Unloaded) (e : Event α π δ) : (b.handle e).Unloaded := by
  match e with
  | .drawer drawer => exact h
  | .operation (.edit e) => exact h.edit e
  | .operation .step =>
    show b.step.battle.Unloaded
    cases hh : b.halted with
    | true =>
      rw [step_of_halted hh]
      exact h
    | false => exact (unloaded_step hh).1

/-- What all ships fire in the next step. -/
def firings (b : Battle α π δ) : List (Firing α) :=
  b.ships.flatMap fun s => s.firings b.tick b.world

omit [Drawer α δ] in
theorem of_mem_firings : ∀ f ∈ b.firings,
    f.shot.mass = f.weapon.ammoMass ∧ f.shot.radius = f.weapon.ammoRadius := by
  intro f hf
  obtain ⟨s, -, hs⟩ := List.mem_flatMap.mp hf
  exact Vessel.of_mem_firings f hs

theorem Unloaded.fired_eq (h : b.Unloaded) : b.fired = b.firings.map (·.shot) := by
  rw [fired, ships_decide, List.flatMap_map, firings, List.map_flatMap]
  refine List.flatMap_congr fun s hs => ?_
  rw [s.shots_decide, h s hs, List.nil_append]

theorem Unloaded.salvo_eq (h : b.Unloaded) (hh : b.halted = false) :
    b.salvo = (b.firings.zipIdx b.nextId).map fun e => e.1.projectile e.2 := by
  rw [Battle.salvo_eq hh, h.fired_eq, List.zipIdx_map, List.map_map]
  refine List.map_congr_left fun e he => ?_
  obtain ⟨hmass, hradius⟩ := of_mem_firings e.1 (List.fst_mem_of_mem_zipIdx he)
  simp only [Function.comp_apply, Prod.map_fst, Prod.map_snd, id_eq, Shot.projectile,
    Firing.projectile, hmass, hradius]

omit [Drawer α δ] in
/-- The shots of a step are the rounds that the weapons give up in it. -/
theorem length_firings (b : Battle α π δ) : b.firings.length = (b.ships.map fun s =>
    s.loadout.rounds - (s.decide b.tick b.world).loadout.rounds).sum := by
  rw [firings, List.length_flatMap]
  congr 1
  refine List.map_congr_left fun s _ => ?_
  have := s.rounds_decide b.tick b.world
  omega

/-- The projectiles of a step are in the arena until they are culled. -/
theorem tags_step (hh : b.halted = false) :
    b.step.battle.projectiles.map Projectile.tag <+ (b.projectiles ++ b.salvo).map Projectile.tag ∧
      ∀ e, b.step.result = .error e → b.step.battle.projectiles.map Projectile.tag =
        (b.projectiles ++ b.salvo).map Projectile.tag := by
  have hmove : b.start.move.projectiles.map Projectile.tag =
      (b.projectiles ++ b.salvo).map Projectile.tag := by
    rw [← projectiles_launched hh]
    exact (moves_integrate b.launched).map_tag_projectiles
  have hcollide : b.start.move.collide.projectiles.map Projectile.tag =
      (b.projectiles ++ b.salvo).map Projectile.tag :=
    b.start.move.moves_collide.map_tag_projectiles.trans hmove
  rcases step_cases hh with ⟨e, hstep | hstep⟩ | hcompletes
  · rw [hstep]
    exact ⟨hmove ▸ .refl _, fun _ _ => hmove⟩
  · rw [hstep]
    exact ⟨hcollide ▸ .refl _, fun _ _ => hcollide⟩
  · obtain ⟨drawer, drawn, deleted, hbattle⟩ := hcompletes.exists_battle_eq
    refine ⟨?_, fun e he => ?_⟩
    · rw [hbattle, ← hcollide]
      show b.completed.projectiles.map Projectile.tag <+ _
      rw [projectiles_completed, projectiles_cull]
      exact List.filter_sublist.map _
    · rw [show b.step = _ from hcompletes] at he
      cases he

/-- In every step of a run the projectiles that are added are the shots of the calls that fired, in
the order of the ships and of the calls, with the next numbers and with the mass and the radius of
the rounds. They are as many as the rounds that all weapons give up. No ship holds back a shot, also
none that the step removes. -/
theorem salvo_handleAll (arenaRadius : α) (settings : Settings α) (events : List (Event α π δ))
    (hh : ((empty arenaRadius settings : Battle α π δ).handleAll events).halted = false) :
    let b := (empty arenaRadius settings : Battle α π δ).handleAll events
    b.launched.projectiles = b.projectiles ++ b.salvo ∧
      b.salvo = (b.firings.zipIdx b.nextId).map (fun e => e.1.projectile e.2) ∧
      (∀ s ∈ b.ships, (s.decide b.tick b.world).loadout.rounds ≤ s.loadout.rounds) ∧
      b.salvo.length = (b.ships.map fun s =>
        s.loadout.rounds - (s.decide b.tick b.world).loadout.rounds).sum ∧
      b.step.battle.nextId = b.nextId + b.salvo.length ∧
      b.step.battle.projectiles.map Projectile.tag <+
        (b.projectiles ++ b.salvo).map Projectile.tag ∧
      (∀ e, b.step.result = .error e → b.step.battle.projectiles.map Projectile.tag =
        (b.projectiles ++ b.salvo).map Projectile.tag) ∧
      (∀ s ∈ b.step.battle.ships, s.shots = []) ∧ ∀ s ∈ b.step.removed, s.shots = [] := by
  intro b
  -- no event leaves a shot with a ship, so that nothing older is launched in the step
  have hunloaded : b.Unloaded :=
    handleAll_induction (fun _ e h => h.handle e) (List.forall_mem_nil _) events
  have hsalvo := hunloaded.salvo_eq hh
  obtain ⟨hships, hremoved⟩ := unloaded_step hh
  obtain ⟨htags, herror⟩ := tags_step hh
  refine ⟨projectiles_launched hh, hsalvo, fun s _ => ?_, ?_, ?_, htags, herror,
    hships, hremoved⟩
  · exact Nat.le.intro (s.rounds_decide b.tick b.world)
  · rw [hsalvo, List.length_map, List.length_zipIdx]
    exact b.length_firings
  · rw [b.renews_step.nextId, List.length_map]

open Exact in
/-- The gunner gives up its only round. -/
theorem salvo_handleAll_of_range :
    let events : List (Event Exact Gunner (Channel Exact)) :=
      [.operation (.edit (.fleet "red")),
        .operation (.edit (.ship "red" (.zero + .zero) {} [Part.sling 1]))]
    let b := (empty 1000.0 (Setup.range 1).settings :
      Battle Exact Gunner (Channel Exact)).handleAll events
    b.halted = false ∧ b.projectiles = [] ∧ b.salvo = [.pebble 1] ∧
      (b.ships.map fun s =>
        s.loadout.rounds - (s.decide b.tick b.world).loadout.rounds).sum = 1 ∧
      (∀ s ∈ b.step.battle.ships, s.shots = []) ∧ ∀ s ∈ b.step.removed, s.shots = [] := by
  intro events b
  have hb : b = range 1 := by
    show ((meadow 1).addFleet "red").edit (.ship "red" (.zero + .zero) {} [Part.sling 1]) = _
    rw [edit, Setup.enlist_range]
  have hh : b.halted = false := by
    rw [hb]
    rfl
  obtain ⟨hlaunched, -, -, hlength, -, -, -, hships, hremoved⟩ :=
    salvo_handleAll 1000.0 (Setup.range 1).settings events hh
  obtain ⟨-, -, -, -, hpebble, -⟩ := exists_launch_range 1
  have hprojectiles : b.projectiles = [] := by
    rw [hb]
    rfl
  have hadded : b.launched.projectiles = b.salvo := by
    rw [show b.launched.projectiles = b.projectiles ++ b.salvo from hlaunched, hprojectiles,
      List.nil_append]
  have hsalvo : b.salvo = [.pebble 1] := by
    rw [← hadded, hb]
    exact hpebble
  refine ⟨hh, hprojectiles, hsalvo, ?_, hships, hremoved⟩
  have hcount : b.salvo.length = 1 := congrArg List.length hsalvo
  exact hlength.symm.trans hcount

end Battle
end FleetArena
