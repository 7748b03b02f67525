import Mathlib
import FleetArena.Proofs.Vessel.Calls

/-! The energy ledger of a vessel over ticks and calls, and what calls do to the parts. -/
namespace FleetArena
variable {α : Type} [Scalar α]

/-- The engines that come of a specification by what engines do. -/
inductive Engine.Made : Engine α → Prop
  | ofSpec (position : Vec3 α) (spec : EngineSpec α) : Made (ofSpec position spec)
  | powerOn {e : Engine α} (h : Made e) (fraction : α) : Made (e.powerOn fraction).1
  | release {e : Engine α} (h : Made e) : Made e.release

/-- A vessel within a tick, and the energy that the calls of the tick have drawn that succeeded. -/
structure Tally (α : Type) where
  vessel : Vessel α
  drawn : α

namespace Tally

def call (s : Tally α) (tick : Nat) (world : World α) (c : Call α) : Tally α where
  vessel := (s.vessel.call tick world c).1
  drawn :=
    if (s.vessel.call tick world c).2 then s.drawn + (s.vessel.price? tick c).getD 0.0 else s.drawn

/-- The energy left is within the budget of the tick, and so is what has been drawn. -/
def Balanced (s : Tally α) : Prop :=
  (0.0 ≤ s.vessel.hull.energy ∧ s.vessel.hull.energy ≤ s.vessel.hull.totalEnergy) ∧
    s.drawn ≤ s.vessel.hull.totalEnergy

end Tally

namespace Vessel

/-- A vessel at the start of a tick, wherever and however hurt the last tick has left it. -/
def resume (v : Vessel α) (position velocity : Vec3 α) (health : α) : Vessel α :=
  begin
    { v with
      hull := { v.hull with body := { v.hull.body with position, velocity, health } }
      shots := [] }

/-- The states of the ledger in the ticks of a vessel: each tick begins with nothing drawn, and then
calls follow. -/
inductive Reached (v : Vessel α) : Nat → World α → Tally α → Prop
  | first (tick : Nat) (world : World α) (position velocity : Vec3 α) (health : α) :
      Reached v tick world ⟨v.resume position velocity health, 0.0⟩
  | call {tick : Nat} {world : World α} {s : Tally α} (h : Reached v tick world s) (c : Call α) :
      Reached v tick world (s.call tick world c)
  | next {tick : Nat} {world : World α} {s : Tally α} (h : Reached v tick world s) (tick' : Nat)
      (world' : World α) (position velocity : Vec3 α) (health : α) :
      Reached v tick' world' ⟨s.vessel.resume position velocity health, 0.0⟩

/-- The law of the ledger: it is balanced at the start of every tick and after every call. -/
def Lawful (v : Vessel α) : Prop :=
  ∀ tick world s, v.Reached tick world s → s.Balanced

end Vessel

namespace Engine

theorem capacity_powerOn (e : Engine α) (fraction : α) :
    (e.powerOn fraction).1.capacity = e.capacity := by
  rw [powerOn]
  split
  · rfl
  · dsimp only
    split <;> rfl

/-- An engine gives nothing or a fraction of its capacity. -/
theorem Made.output {e : Engine α} (h : e.Made) :
    e.output = 0.0 ∨ ∃ f : α, 0.0 ≤ f ∧ f ≤ 1.0 ∧ e.output = e.capacity * f := by
  induction h with
  | ofSpec => exact Or.inl rfl
  | @powerOn e _ fraction ih =>
    rw [capacity_powerOn, Engine.powerOn]
    split
    · exact ih
    · dsimp only
      split
      · rename_i hf
        exact Or.inr ⟨fraction, hf.1, hf.2, rfl⟩
      · exact ih
  | release _ ih => exact ih

end Engine

end FleetArena
