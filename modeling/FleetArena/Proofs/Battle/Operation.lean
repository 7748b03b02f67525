import FleetArena.Battle.Step
import FleetArena.Proofs.Vessel.Build

/-! What may be done to a battle, and the battles to which only that has been done. -/
namespace FleetArena
variable {α π δ : Type}

/-- An addition to the arena, or another score limit. -/
inductive Edit (α π : Type) where
  | fleet (name : String)
  | ship (fleet : String) (position : Vec3 α) (pilot : π) (parts : List (Part α))
  | controlPoint (position : Vec3 α) (radius mass points influence : α)
  | asteroid (position : Vec3 α) (radius mass : α) (texture : String)
  | scoreLimit (limit : Option α)

inductive Operation (α π : Type) where
  | edit (e : Edit α π)
  | step

namespace Battle
variable [Scalar α]

/-- The battle after an edit. A ship of unfit parts is not added. -/
def edit (b : Battle α π δ) : Edit α π → Battle α π δ
  | .fleet name => b.addFleet name
  | .ship fleet position pilot parts => (b.enlist fleet position pilot parts).1
  | .controlPoint position radius mass points influence =>
    (b.addControlPoint position radius mass points influence).2
  | .asteroid position radius mass texture => (b.addAsteroid position radius mass texture).2
  | .scoreLimit limit => { b with scoreLimit := limit }

/-- An edit that adds a ship does so, or it changes nothing. -/
theorem edit_ship_cases (b : Battle α π δ) (fleet : String) (position : Vec3 α) (pilot : π)
    (parts : List (Part α)) :
    b.edit (.ship fleet position pilot parts) = b ∨
      checkParts fleet parts = .ok () ∧
        b.edit (.ship fleet position pilot parts) = b.enlisted fleet position pilot parts := by
  rw [edit]
  rcases b.enlist_cases fleet position pilot parts with ⟨e, -, hrefused⟩ | ⟨hcheck, hadded⟩
  · rw [hrefused]
    exact Or.inl rfl
  · rw [hadded]
    exact Or.inr ⟨hcheck, rfl⟩

/-- The battle after edits, one after the other. -/
def editAll (es : List (Edit α π)) (b : Battle α π δ) : Battle α π δ :=
  es.foldl edit b

/-- The battles that no step has been made of. -/
inductive Unstarted : Battle α π δ → Prop
  | empty (arenaRadius : α) (settings : Settings α) : Unstarted (empty arenaRadius settings)
  | edit {b : Battle α π δ} (h : Unstarted b) (e : Edit α π) : Unstarted (b.edit e)
  | drawer {b : Battle α π δ} (h : Unstarted b) (drawer : Option δ) : Unstarted { b with drawer }

theorem Unstarted.editAll {b : Battle α π δ} (h : b.Unstarted) (es : List (Edit α π)) :
    (b.editAll es).Unstarted := by
  induction es generalizing b with
  | nil => exact h
  | cons e rest ih => exact ih (h.edit e)

variable [Pilot α π] [Drawer α δ]

def operate (b : Battle α π δ) : Operation α π → Battle α π δ
  | .edit e => b.edit e
  | .step => b.step.battle

/-- The battle after operations, one after the other. -/
def operateAll : List (Operation α π) → Battle α π δ → Battle α π δ
  | [], b => b
  | op :: rest, b => operateAll rest (b.operate op)

end Battle
end FleetArena
