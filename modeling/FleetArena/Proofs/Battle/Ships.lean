import FleetArena.Proofs.Battle.Moves
import FleetArena.Proofs.Battle.Run

/-! The ships in a step. Each one decides and hands over its shots; after that it only gets other
bodies, until it is removed or the step is over. -/
namespace FleetArena
variable {α π δ : Type} [Scalar α] {P : Vessel α → Prop}

/-- What a vessel keeps that starts ticks, answers calls, hands over its shots and gets other
bodies. -/
structure Vessel.Lasting (P : Vessel α → Prop) : Prop where
  begin : ∀ {v}, P v → P v.begin
  call : ∀ {v} tick world c, P v → P (v.call tick world c).1
  unload : ∀ {v}, P v → P { v with shots := [] }
  body : ∀ {v y}, P v → v.hull.body.Alike y → P { v with hull := { v.hull with body := y } }

theorem Vessel.Lasting.calls (h : Lasting P) {v : Vessel α} (hv : P v) (tick : Nat)
    (world : World α) (cs : List (Call α)) : P (v.calls tick world cs) := by
  induction cs generalizing v with
  | nil => exact hv
  | cons c rest ih => exact ih (h.call tick world c hv)

namespace Battle
variable {b c : Battle α π δ}

/-- Whatever the plans of the pilots are, they come to calls. -/
theorem forall_decide [Pilot α π] (h : Vessel.Lasting P) (hb : ∀ s ∈ b.ships, P s.toVessel) :
    ∀ s ∈ b.decide.ships, P s.toVessel := by
  refine List.forall_mem_map.mpr fun s hs => ?_
  rw [s.toVessel_decide]
  exact h.calls (h.begin (hb s hs)) _ _ _

theorem forall_launch (h : Vessel.Lasting P) (hb : ∀ s ∈ b.ships, P s.toVessel) :
    ∀ s ∈ b.launch.ships, P s.toVessel := by
  rw [launch_eq]
  exact List.forall_mem_map.mpr fun s hs => h.unload (hb s hs)

omit [Scalar α] in
theorem Moves.forall_ships (hm : b.Moves c)
    (h : ∀ {v y}, P v → v.hull.body.Alike y → P { v with hull := { v.hull with body := y } })
    (hb : ∀ s ∈ b.ships, P s.toVessel) : ∀ s ∈ c.ships, P s.toVessel := by
  intro t ht
  obtain ⟨s, hs, y, hy, rfl⟩ := forall₂_exists_of_mem hm.ships ht
  exact h (hb s hs) hy

theorem mem_ships_cull {s : Ship α π} (h : s ∈ b.cull.1.ships ∨ s ∈ b.cull.2) : s ∈ b.ships := by
  rw [ships_cull, removed_cull] at h
  exact h.elim List.mem_of_mem_filter List.mem_of_mem_filter

variable [Drawer α δ]

theorem ships_start (b : Battle α π δ) : b.start.ships = b.ships := by
  obtain ⟨drawer, drawn, deleted, hstart⟩ := b.exists_start_eq
  rw [hstart]

variable [Pilot α π]

/-- The pilots see the battle as it was before the step. -/
theorem ships_decide (b : Battle α π δ) :
    b.start.score.decide.ships = b.ships.map fun s => s.decide b.tick b.world := by
  obtain ⟨drawer, drawn, deleted, hstart⟩ := b.exists_start_eq
  rw [hstart]
  rfl

/-- Wherever a step ends, its ships have only moved since they handed over their shots. -/
theorem mem_ships_step (hh : b.halted = false) :
    (∀ s ∈ b.step.battle.ships, s ∈ b.start.move.ships ∨ s ∈ b.start.move.collide.ships) ∧
      ∀ s ∈ b.step.removed, s ∈ b.start.move.collide.ships := by
  constructor
  · refine step_induction (P := fun c => ∀ s ∈ c.ships, s ∈ b.start.move.ships ∨
      s ∈ b.start.move.collide.ships) hh (fun s hs => Or.inl hs) (fun s hs => Or.inr hs) ?_
      fun _ _ _ _ _ _ h => h
    exact fun s hs => Or.inr (mem_ships_cull (Or.inl hs))
  · intro s hs
    rcases step_cases hh with ⟨e, hstep | hstep⟩ | hcompletes
    · rw [hstep] at hs
      cases hs
    · rw [hstep] at hs
      cases hs
    · rw [show b.step = _ from hcompletes] at hs
      exact mem_ships_cull (Or.inr hs)

/-- The battles that a step passes through, one for each of its phases. -/
def phases (b : Battle α π δ) : List (Battle α π δ) :=
  [b.start, b.start.score, b.start.score.decide, b.launched, b.start.move, b.start.move.collide,
    b.start.move.collide.cull.1, b.completed]

/-- What the vessels keep holds of the ships in every phase of a step. -/
theorem forall_phases (h : Vessel.Lasting P) (hb : ∀ s ∈ b.ships, P s.toVessel) :
    ∀ c ∈ b.phases, ∀ s ∈ c.ships, P s.toVessel := by
  have hstart : ∀ s ∈ b.start.ships, P s.toVessel := b.ships_start ▸ hb
  have hdecide := forall_decide (b := b.start.score) h hstart
  have hlaunch := forall_launch h hdecide
  have hmove := (moves_integrate _).forall_ships h.body hlaunch
  have hcollide := (moves_collide _).forall_ships h.body hmove
  have hcull : ∀ s ∈ b.start.move.collide.cull.1.ships, P s.toVessel :=
    fun s hs => hcollide s (mem_ships_cull (Or.inl hs))
  simp only [phases, List.forall_mem_cons]
  exact ⟨hstart, hstart, hdecide, hlaunch, hmove, hcollide, hcull, hcull, List.forall_mem_nil _⟩

theorem forall_step (h : Vessel.Lasting P) (hb : ∀ s ∈ b.ships, P s.toVessel) :
    (∀ s ∈ b.step.battle.ships, P s.toVessel) ∧ ∀ s ∈ b.step.removed, P s.toVessel := by
  have hphases := forall_phases h hb
  have hmove := hphases b.start.move (by simp [phases])
  have hcollide := hphases b.start.move.collide (by simp [phases])
  cases hh : b.halted with
  | true =>
    rw [step_of_halted hh]
    exact ⟨hb, List.forall_mem_nil _⟩
  | false =>
    obtain ⟨hships, hremoved⟩ := mem_ships_step hh
    exact ⟨fun s hs => (hships s hs).elim (hmove s) (hcollide s),
      fun s hs => hcollide s (hremoved s hs)⟩

/-- What every vessel that is built has, and keeps, all ships of a run have. -/
theorem forall_handleAll (h : Vessel.Lasting P)
    (hbuild : ∀ {id fleet position parts dt v},
      Vessel.build id fleet position parts dt = .ok v → P v)
    (hb : ∀ s ∈ b.ships, P s.toVessel) (events : List (Event α π δ)) :
    ∀ s ∈ (b.handleAll events).ships, P s.toVessel := by
  refine handleAll_induction (P := fun c => ∀ s ∈ c.ships, P s.toVessel) (fun c e hc => ?_) hb
    events
  match e with
  | .drawer drawer => exact hc
  | .operation .step => exact (forall_step h hc).1
  | .operation (.edit e) =>
    show ∀ s ∈ (c.edit e).ships, P s.toVessel
    cases e with
    | ship fleet position pilot parts =>
      rcases c.edit_ship_cases fleet position pilot parts with hrefused | ⟨hcheck, hadded⟩
      · rw [hrefused]
        exact hc
      · rw [hadded]
        have hvessel : P (.assemble c.nextId fleet position parts c.dt) :=
          hbuild (Vessel.build_eq_ok_iff.mpr ⟨hcheck, rfl⟩)
        exact List.forall_mem_append.mpr ⟨hc, List.forall_mem_singleton.mpr hvessel⟩
    | fleet | controlPoint | asteroid | scoreLimit => exact hc

end Battle
end FleetArena
