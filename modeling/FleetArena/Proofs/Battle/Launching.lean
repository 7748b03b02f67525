import FleetArena.Proofs.Battle.Stepping

/-! Launching: what has been fired in a tick enters the arena behind the projectiles that are in
flight, and takes the next numbers. -/
namespace FleetArena.Battle
variable {α π δ : Type} [Scalar α] [Pilot α π] [Drawer α δ]

/-- The battle of the next step, once what was fired is in the arena. -/
def launched (b : Battle α π δ) : Battle α π δ :=
  b.start.score.decide.launch

/-- The projectiles that a step adds. -/
def salvo (b : Battle α π δ) : List (Projectile α) :=
  if b.halted then [] else b.launched.projectiles.drop b.projectiles.length

/-- What the ships fire in a step, in the order of the ships. -/
def fired (b : Battle α π δ) : List (Shot α) :=
  b.start.score.decide.ships.flatMap (·.shots)

theorem launched_eq (b : Battle α π δ) : b.launched = { b.start.score.decide with
    ships := b.start.score.decide.ships.map fun s => { s with shots := [] }
    projectiles := b.projectiles ++ (b.fired.zipIdx b.nextId).map fun e => e.1.projectile e.2
    nextId := b.nextId + b.fired.length } := by
  obtain ⟨drawer, drawn, deleted, hstart⟩ := b.exists_start_eq
  have hprojectiles : b.start.score.decide.projectiles = b.projectiles := by
    rw [hstart]
    rfl
  have hnext : b.start.score.decide.nextId = b.nextId := by
    rw [hstart]
    rfl
  rw [launched, launch_eq, hprojectiles, hnext]
  rfl

theorem clock_launched (b : Battle α π δ) : b.launched.tick = b.tick ∧
    b.launched.settings = b.settings ∧ b.launched.halted = b.halted := by
  obtain ⟨drawer, drawn, deleted, hstart⟩ := b.exists_start_eq
  rw [launched_eq, hstart]
  exact ⟨rfl, rfl, rfl⟩

variable {b : Battle α π δ}

theorem salvo_of_halted (h : b.halted = true) : b.salvo = [] :=
  if_pos h

theorem salvo_eq (h : b.halted = false) :
    b.salvo = (b.fired.zipIdx b.nextId).map fun e => e.1.projectile e.2 := by
  rw [salvo, h, if_neg Bool.false_ne_true, launched_eq]
  exact List.drop_left

theorem projectiles_launched (h : b.halted = false) :
    b.launched.projectiles = b.projectiles ++ b.salvo := by
  rw [salvo_eq h, launched_eq]

theorem length_salvo (h : b.halted = false) : b.salvo.length = b.fired.length := by
  rw [salvo_eq h, List.length_map, List.length_zipIdx]

/-- The projectiles of a step have the next numbers. -/
theorem map_id_salvo (b : Battle α π δ) :
    b.salvo.map (·.body.id) = List.range' b.nextId b.salvo.length := by
  cases h : b.halted with
  | true => rw [salvo_of_halted h]; rfl
  | false =>
    rw [length_salvo h, salvo_eq h, Shot.map_id_zipIdx_projectile]

end FleetArena.Battle
