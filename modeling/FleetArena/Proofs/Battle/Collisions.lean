import FleetArena.Proofs.Battle.Objects

/-! The collisions of a tick, one after the other. What every collision keeps of the bodies, the
whole phase keeps. -/
namespace FleetArena.Battle
variable {α π δ : Type} [Scalar α] {dt cor : α} {bodies bodies' : List (Body α)}

/-- The bodies at two different places collide. -/
inductive Hit (dt cor : α) (bodies : List (Body α)) : List (Body α) → Prop
  | mk {i j : Nat} {x y : Body α} {c : Body.Collision α} (hij : i ≠ j)
    (hx : bodies[i]? = some x) (hy : bodies[j]? = some y) (hc : x.collide? y dt cor = some c) :
    Hit dt cor bodies ((bodies.set i c.first).set j c.second)

theorem strike_cases (dt cor : α) (bodies : List (Body α)) (i j : Nat) :
    strike dt cor bodies i j = (bodies, false) ∨
      Hit dt cor bodies (strike dt cor bodies i j).1 := by
  rw [strike_eq]
  split
  · exact Or.inl rfl
  split
  · rename_i hij _ _ x y hx hy
    cases hc : x.collide? y dt cor with
    | none => exact Or.inl rfl
    | some c => exact Or.inr (.mk hij hx hy hc)
  · exact Or.inl rfl

section
variable {P : List (Body α) → Prop}

theorem strike_induction (hhit : ∀ {l l'}, Hit dt cor l l' → P l → P l') (h : P bodies)
    (i j : Nat) : P (strike dt cor bodies i j).1 := by
  rcases strike_cases dt cor bodies i j with hnone | hsome
  · rw [hnone]
    exact h
  · exact hhit hsome h

theorem strikeSolids_induction (hhit : ∀ {l l'}, Hit dt solidRestitution l l' → P l → P l')
    (h : P bodies) (pairs : List (Nat × Nat)) : P (strikeSolids dt pairs bodies) := by
  induction pairs generalizing bodies with
  | nil => exact h
  | cons p rest ih => exact ih (strike_induction hhit h p.1 p.2)

theorem strikeShots_induction (hhit : ∀ {l l'}, Hit dt projectileRestitution l l' → P l → P l')
    (h : P bodies) (solids : Nat) (pairs : List (Nat × Nat)) (spent : List Bool) :
    P (strikeShots dt solids pairs bodies spent).1 := by
  induction pairs generalizing bodies spent with
  | nil => exact h
  | cons p rest ih =>
    rw [strikeShots, List.foldl_cons]
    split
    · exact ih h spent
    · exact ih (strike_induction hhit h p.1 p.2) _

/-- The collisions of a tick happen one after the other, first those of the solid bodies. -/
theorem collide_induction (b : Battle α π δ)
    (hsolid : ∀ {l l'}, Hit b.dt solidRestitution l l' → P l → P l')
    (hshot : ∀ {l l'}, Hit b.dt projectileRestitution l l' → P l → P l') (h : P b.bodies) :
    P b.collide.bodies := by
  rw [bodies_collide]
  exact strikeShots_induction hshot (strikeSolids_induction hsolid h _) _ _ _

end
end FleetArena.Battle
