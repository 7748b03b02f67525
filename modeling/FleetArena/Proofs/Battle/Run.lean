import FleetArena.Proofs.Battle.Launching

/-! Runs: everything that is done to a battle from the empty arena on, one thing after the other.
A drawer may come at any time. -/
namespace FleetArena
variable {α π δ : Type}

inductive Event (α π δ : Type) where
  | operation (op : Operation α π)
  | drawer (drawer : Option δ)

namespace Battle
variable [Scalar α] [Pilot α π] [Drawer α δ]

def handle (b : Battle α π δ) : Event α π δ → Battle α π δ
  | .operation op => b.operate op
  | .drawer drawer => { b with drawer }

/-- The battle after events, one after the other. -/
def handleAll : List (Event α π δ) → Battle α π δ → Battle α π δ
  | [], b => b
  | e :: rest, b => handleAll rest (b.handle e)

/-- What every event keeps, a run keeps. -/
theorem handleAll_induction {P : Battle α π δ → Prop}
    (hevent : ∀ b (e : Event α π δ), P b → P (b.handle e)) {b : Battle α π δ} (h : P b)
    (events : List (Event α π δ)) : P (b.handleAll events) := by
  induction events generalizing b with
  | nil => exact h
  | cons e rest ih => exact ih (hevent b e h)

end Battle
end FleetArena
