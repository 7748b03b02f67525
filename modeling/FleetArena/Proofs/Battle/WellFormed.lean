import FleetArena.Proofs.Battle.Ships
import FleetArena.Proofs.Vessel.Shots

/-! Bodies stay well formed. Every phase of a tick keeps the masses positive and the radii from
going below zero, but for the radii of the projectiles: those are what the weapons say. -/
namespace FleetArena
open Exact

/-- A body of a positive mass, which may be infinite, and of a radius that is not negative. -/
structure Body.WellFormed (x : Body Exact) : Prop where
  mass : 0.0 < x.mass
  radius : 0.0 ≤ x.radius

theorem Body.WellFormed.of_alike {x y : Body Exact} (h : x.WellFormed) (hy : x.Alike y) :
    y.WellFormed := by
  refine ⟨?_, ?_⟩
  · rw [hy.mass]
    exact h.mass
  · rw [hy.radius]
    exact h.radius

theorem Vessel.lasting_wellMade (P : Exact → Prop) : Lasting (WellMade P) where
  begin h := h.begin
  call tick world c h := h.call tick world c
  unload h := ⟨h.laden, h.radius, h.rounds, List.forall_mem_nil _⟩
  body {v y} h hy := by
    refine ⟨?_, ?_, h.rounds, h.shots⟩
    · show v.loadout.Laden y.mass
      rw [hy.mass]
      exact h.laden
    · show 0.0 ≤ y.radius
      rw [hy.radius]
      exact h.radius

theorem Vessel.wellMade_of_build {P : Exact → Prop} {id : ObjectId} {fleet : String}
    {position : Vec3 Exact} {parts : List (Part Exact)} {dt : Exact} {v : Vessel Exact}
    (hbuild : build id fleet position parts dt = .ok v)
    (hrounds : ∀ w, .weapon w ∈ parts → w.ammo = 0 ∨ P w.ammoRadius) : v.WellMade P := by
  have hladen := laden_of_build hbuild
  obtain ⟨-, rfl⟩ := build_eq_ok_iff.mp hbuild
  refine ⟨hladen, ?_, ?_, ?_⟩
  · rw [zero_eq]
    exact nonneg_maximum _
  · intro w hw
    have hmem := Loadout.weapon_mem_toParts.mpr hw
    exact hrounds w ((toParts_ofParts_perm parts).mem_iff.mp hmem)
  · intro s hs
    cases hs

/-- What an edit brings is well formed, but for the rounds of weapons. -/
def Edit.Fit {π : Type} (P : Exact → Prop) : Edit Exact π → Prop
  | .ship _ _ _ parts => ∀ w, .weapon w ∈ parts → w.ammo = 0 ∨ P w.ammoRadius
  | .controlPoint _ radius mass _ _ => 0.0 < mass ∧ 0.0 ≤ radius
  | .asteroid _ radius mass _ => 0.0 < mass ∧ 0.0 ≤ radius
  | _ => True

namespace Battle
variable {π δ : Type} {P : Exact → Prop} {b c : Battle Exact π δ}

/-- All bodies are well formed, but for the radii of the projectiles, of which `P` holds. -/
structure WellFormed (P : Exact → Prop) (b : Battle Exact π δ) : Prop where
  ships : ∀ s ∈ b.ships, s.toVessel.WellMade P
  controlPoints : ∀ p ∈ b.controlPoints, p.body.WellFormed
  asteroids : ∀ a ∈ b.asteroids, a.body.WellFormed
  projectiles : ∀ p ∈ b.projectiles, 0.0 < p.body.mass ∧ P p.body.radius

namespace WellFormed

theorem of_eq (h : b.WellFormed P) (hships : c.ships = b.ships)
    (hpoints : c.controlPoints = b.controlPoints) (hrocks : c.asteroids = b.asteroids)
    (hshots : c.projectiles = b.projectiles) : c.WellFormed P := by
  obtain ⟨h₁, h₂, h₃, h₄⟩ := h
  exact ⟨hships ▸ h₁, hpoints ▸ h₂, hrocks ▸ h₃, hshots ▸ h₄⟩

theorem score (h : b.WellFormed P) : b.score.WellFormed P :=
  h.of_eq rfl rfl rfl rfl

theorem decide [Pilot Exact π] (h : b.WellFormed P) : b.decide.WellFormed P :=
  ⟨forall_decide (Vessel.lasting_wellMade P) h.ships, h.controlPoints, h.asteroids, h.projectiles⟩

theorem launch (h : b.WellFormed P) : b.launch.WellFormed P := by
  refine ⟨forall_launch (Vessel.lasting_wellMade P) h.ships, ?_, ?_, ?_⟩ <;> rw [launch_eq]
  · exact h.controlPoints
  · exact h.asteroids
  · refine List.forall_mem_append.mpr ⟨h.projectiles, List.forall_mem_map.mpr fun e he => ?_⟩
    obtain ⟨s, hs, hshot⟩ := List.mem_flatMap.mp (List.fst_mem_of_mem_zipIdx he)
    exact (h.ships s hs).shots e.1 hshot

theorem moves (h : b.WellFormed P) (hc : b.Moves c) : c.WellFormed P := by
  refine ⟨hc.forall_ships (Vessel.lasting_wellMade P).body h.ships, ?_, ?_, ?_⟩
  · intro q hq
    obtain ⟨p, hp, y, hy, rfl⟩ := forall₂_exists_of_mem hc.controlPoints hq
    exact (h.controlPoints p hp).of_alike hy
  · intro r hr
    obtain ⟨a, ha, y, hy, rfl⟩ := forall₂_exists_of_mem hc.asteroids hr
    exact (h.asteroids a ha).of_alike hy
  · intro q hq
    obtain ⟨p, hp, y, spent, hy, rfl⟩ := forall₂_exists_of_mem hc.projectiles hq
    obtain ⟨hmass, hradius⟩ := h.projectiles p hp
    exact ⟨hy.mass ▸ hmass, hy.radius ▸ hradius⟩

theorem cull (h : b.WellFormed P) : b.cull.1.WellFormed P := by
  refine ⟨fun s hs => h.ships s (mem_ships_cull (Or.inl hs)), h.controlPoints, h.asteroids, ?_⟩
  intro p hp
  rw [projectiles_cull] at hp
  exact h.projectiles p (List.mem_of_mem_filter hp)

variable [Drawer Exact δ]

theorem start (h : b.WellFormed P) : b.start.WellFormed P := by
  obtain ⟨drawer, drawn, deleted, hstart⟩ := b.exists_start_eq
  rw [hstart]
  exact h.of_eq rfl rfl rfl rfl

variable [Pilot Exact π]

theorem step (h : b.WellFormed P) : b.step.battle.WellFormed P := by
  -- a step that breaks off leaves one of the battles that a completed one passes through
  have hmove : b.start.move.WellFormed P :=
    h.start.score.decide.launch.moves (moves_integrate _)
  have hcollide := hmove.moves (moves_collide _)
  cases hh : b.halted with
  | true =>
    rw [step_of_halted hh]
    exact h
  | false =>
    exact step_induction (P := WellFormed P) hh hmove hcollide hcollide.cull
      fun _ _ _ _ _ _ h => h.of_eq rfl rfl rfl rfl

theorem steps (h : b.WellFormed P) (n : Nat) :
    (b.operateAll (List.replicate n .step)).WellFormed P := by
  induction n generalizing b with
  | zero => exact h
  | succ n ih => exact ih h.step

omit [Drawer Exact δ] [Pilot Exact π] in
theorem edit (h : b.WellFormed P) {e : Edit Exact π} (he : e.Fit P) : (b.edit e).WellFormed P := by
  cases e with
  | fleet name => exact h.of_eq rfl rfl rfl rfl
  | ship fleet position pilot parts =>
    rcases b.edit_ship_cases fleet position pilot parts with hrefused | ⟨hcheck, hadded⟩
    · rw [hrefused]
      exact h
    · rw [hadded]
      have hbuild : Vessel.build b.nextId fleet position parts b.dt =
          .ok (.assemble b.nextId fleet position parts b.dt) :=
        Vessel.build_eq_ok_iff.mpr ⟨hcheck, rfl⟩
      have hmade := Vessel.wellMade_of_build hbuild he
      refine ⟨?_, h.controlPoints, h.asteroids, h.projectiles⟩
      exact List.forall_mem_append.mpr ⟨h.ships, List.forall_mem_singleton.mpr hmade⟩
  | controlPoint position radius mass points influence =>
    refine ⟨h.ships, ?_, h.asteroids, h.projectiles⟩
    exact List.forall_mem_append.mpr ⟨h.controlPoints, List.forall_mem_singleton.mpr ⟨he.1, he.2⟩⟩
  | asteroid position radius mass texture =>
    refine ⟨h.ships, h.controlPoints, ?_, h.projectiles⟩
    exact List.forall_mem_append.mpr ⟨h.asteroids, List.forall_mem_singleton.mpr ⟨he.1, he.2⟩⟩
  | scoreLimit limit => exact h.of_eq rfl rfl rfl rfl

omit [Drawer Exact δ] [Pilot Exact π] in
theorem editAll (h : b.WellFormed P) {es : List (Edit Exact π)} (hes : ∀ e ∈ es, e.Fit P) :
    (b.editAll es).WellFormed P := by
  induction es generalizing b with
  | nil => exact h
  | cons e rest ih =>
    obtain ⟨he, hrest⟩ := List.forall_mem_cons.mp hes
    exact ih (h.edit he) hrest

end WellFormed

/-- Before the first step nothing has been fired. -/
theorem Unstarted.nothing_fired {α : Type} [Scalar α] {b : Battle α π δ} (h : b.Unstarted) :
    b.projectiles = [] ∧ ∀ s ∈ b.ships, s.shots = [] := by
  induction h with
  | empty => exact ⟨rfl, List.forall_mem_nil _⟩
  | drawer _ _ ih => exact ih
  | @edit b _ e ih =>
    obtain ⟨hprojectiles, hshots⟩ := ih
    cases e with
    | ship fleet position pilot parts =>
      rcases b.edit_ship_cases fleet position pilot parts with hrefused | ⟨-, hadded⟩
      · rw [hrefused]
        exact ⟨hprojectiles, hshots⟩
      · rw [hadded]
        exact ⟨hprojectiles,
          List.forall_mem_append.mpr ⟨hshots, List.forall_mem_singleton.mpr rfl⟩⟩
    | fleet => exact ⟨hprojectiles, hshots⟩
    | controlPoint => exact ⟨hprojectiles, hshots⟩
    | asteroid => exact ⟨hprojectiles, hshots⟩
    | scoreLimit => exact ⟨hprojectiles, hshots⟩

end Battle
end FleetArena
