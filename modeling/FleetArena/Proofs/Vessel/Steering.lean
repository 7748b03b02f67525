import FleetArena.Proofs.Vessel.Attempts

/-! What a pilot can do to the body of its ship. Thrusts and shots change the velocity and shots the
mass; nothing that a pilot does changes anything else of the body. -/
namespace FleetArena
variable {α : Type}

def Call.IsThrust (c : Call α) : Prop :=
  ∃ i direction, c = .act (.thrust i direction)

def Call.IsFire (c : Call α) : Prop :=
  ∃ i direction, c = .act (.fire i direction)

/-- `y` is what `x` has become by attempts. What has changed is the work of those that have
succeeded. -/
structure Body.Steered (x y : Body α) (as : List (Attempt α)) : Prop where
  id : y.id = x.id
  position : y.position = x.position
  radius : y.radius = x.radius
  health : y.health = x.health
  velocity : y.velocity ≠ x.velocity →
    ∃ a ∈ as, a.failure = none ∧ (a.call.IsThrust ∨ a.call.IsFire)
  mass : y.mass ≠ x.mass → ∃ a ∈ as, a.failure = none ∧ a.call.IsFire

namespace Body.Steered
variable {x y z : Body α} {as as' : List (Attempt α)}

theorem refl (x : Body α) : x.Steered x [] :=
  ⟨rfl, rfl, rfl, rfl, fun h => absurd rfl h, fun h => absurd rfl h⟩

/-- What is different in the end was changed in one of the two parts. -/
theorem exists_mem_append {β : Type} {f : Body α → β} {P : Attempt α → Prop}
    (h : f y ≠ f x → ∃ a ∈ as, P a) (h' : f z ≠ f y → ∃ a ∈ as', P a) (hne : f z ≠ f x) :
    ∃ a ∈ as ++ as', P a := by
  by_cases hz : f z = f y
  · rw [hz] at hne
    obtain ⟨a, ha, hP⟩ := h hne
    exact ⟨a, List.mem_append_left _ ha, hP⟩
  · obtain ⟨a, ha, hP⟩ := h' hz
    exact ⟨a, List.mem_append_right _ ha, hP⟩

theorem trans (h : x.Steered y as) (h' : y.Steered z as') : x.Steered z (as ++ as') where
  id := h'.id.trans h.id
  position := h'.position.trans h.position
  radius := h'.radius.trans h.radius
  health := h'.health.trans h.health
  velocity := exists_mem_append h.velocity h'.velocity
  mass := exists_mem_append h.mass h'.mass

end Body.Steered

variable [Scalar α]

namespace Vessel
variable (v : Vessel α) (tick : Nat) (world : World α)

theorem hull_powerOn (i : Nat) (fraction : α) :
    (v.call tick world (.act (.powerOn i fraction))).1.hull = v.hull := by
  simp only [call, act]
  split <;> rfl

theorem body_scan (i : Nat) : (v.call tick world (.scan i)).1.hull.body = v.hull.body := by
  cases h : v.loadout.sensors[i]? with
  | none => simp only [call, scan, h]
  | some sensor => simp only [call, scan, h, sensor.body_scan]

theorem mass_thrust (i : Nat) (direction : Vec3 α) :
    (v.call tick world (.act (.thrust i direction))).1.hull.body.mass = v.hull.body.mass := by
  cases h : v.loadout.thrusters[i]? with
  | none => simp only [call, act, h]
  | some thruster => simp only [call, act, h, thruster.mass_thrust]

/-- A call that fails leaves the body alone. -/
theorem failure?_eq_none {v : Vessel α} {tick : Nat} {world : World α} {c : Call α}
    (h : (v.call tick world c).1.hull.body ≠ v.hull.body) : v.failure? tick world c = none := by
  by_contra hfailed
  obtain ⟨e, he⟩ := Option.ne_none_iff_exists'.mp hfailed
  have hends := v.ends_call tick world c
  rw [he] at hends
  rw [hends.eq_afterFailure] at h
  exact h (v.unmoved_afterFailure c.slot e).body

theorem steered_call (c : Call α) : v.hull.body.Steered (v.call tick world c).1.hull.body
    [⟨v, c, v.failure? tick world c, (v.call tick world c).1⟩] := by
  have hkeeps := v.keeps_call tick world c
  refine ⟨hkeeps.id, hkeeps.position, hkeeps.radius, hkeeps.health, fun hne => ?_, fun hne => ?_⟩
  · have hdone := failure?_eq_none (ne_of_apply_ne Body.velocity hne)
    refine ⟨_, List.mem_singleton_self _, hdone, ?_⟩
    match c with
    | .act (.powerOn i fraction) =>
      exact absurd (congrArg (·.body.velocity) (v.hull_powerOn ..)) hne
    | .act (.thrust i direction) => exact Or.inl ⟨i, direction, rfl⟩
    | .act (.fire i direction) => exact Or.inr ⟨i, direction, rfl⟩
    | .scan i => exact absurd (congrArg Body.velocity (v.body_scan ..)) hne
  · have hdone := failure?_eq_none (ne_of_apply_ne Body.mass hne)
    refine ⟨_, List.mem_singleton_self _, hdone, ?_⟩
    match c with
    | .act (.powerOn i fraction) => exact absurd (congrArg (·.body.mass) (v.hull_powerOn ..)) hne
    | .act (.thrust i direction) => exact absurd (v.mass_thrust ..) hne
    | .act (.fire i direction) => exact ⟨i, direction, rfl⟩
    | .scan i => exact absurd (congrArg Body.mass (v.body_scan ..)) hne

/-- A single attempt changes only what is its own to change. -/
theorem steered_of_mem_attempts {cs : List (Call α)} {v : Vessel α} :
    ∀ a ∈ v.attempts tick world cs, a.before.hull.body.Steered a.after.hull.body [a] := by
  induction cs generalizing v with
  | nil => exact List.forall_mem_nil _
  | cons c rest ih => exact List.forall_mem_cons.mpr ⟨v.steered_call tick world c, ih⟩

theorem steered_calls (cs : List (Call α)) :
    v.hull.body.Steered (v.calls tick world cs).hull.body (v.attempts tick world cs) := by
  induction cs generalizing v with
  | nil => exact .refl _
  | cons c rest ih => exact (v.steered_call tick world c).trans (ih _)

end Vessel

namespace Ship
variable {π : Type} [Pilot α π] (s : Ship α π) (tick : Nat) (world : World α)

/-- What came of the calls of the pilot of a ship in a tick. -/
def attempts : List (Attempt α) :=
  s.toVessel.begin.attempts tick world (s.commands tick world)

/-- A ship is steered by its own pilot alone. -/
theorem steered_decide : s.body.Steered (s.decide tick world).body (s.attempts tick world) := by
  have hsteered := s.toVessel.begin.steered_calls tick world (s.commands tick world)
  rw [← s.toVessel_decide tick world] at hsteered
  exact hsteered

end Ship
end FleetArena
