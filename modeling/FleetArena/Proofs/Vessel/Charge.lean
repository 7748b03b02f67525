import FleetArena.Ship

/-! What an action does to a hull. It leaves the hull as it is, or it asks for energy; and whatever
it does, only the motion, the mass and the energy left can change. -/
namespace FleetArena
variable {α : Type} [Scalar α]

/-- An action of price `none` does not touch the hull. One that overdraws the energy empties it and
fails, and one that is paid for succeeds. -/
inductive Hull.Charged (h : Hull α) : Option α → Bool → Hull α → Prop
  | free (ok : Bool) : Charged h none ok h
  | refused {amount : α} (hlt : h.energy - amount < 0.0) :
      Charged h (some amount) false { h with energy := 0.0 }
  | paid {amount : α} (hle : ¬h.energy - amount < 0.0) (velocity : Vec3 α) (mass : α) :
      Charged h (some amount) true
        { h with energy := h.energy - amount, body := { h.body with velocity, mass } }

/-- What is the same of two hulls that differ by actions. -/
structure Hull.Keeps (h h' : Hull α) : Prop where
  id : h'.body.id = h.body.id
  position : h'.body.position = h.body.position
  radius : h'.body.radius = h.body.radius
  health : h'.body.health = h.body.health
  fleet : h'.fleet = h.fleet
  dt : h'.dt = h.dt
  totalEnergy : h'.totalEnergy = h.totalEnergy

namespace Hull

omit [Scalar α] in
theorem Keeps.refl (h : Hull α) : h.Keeps h :=
  ⟨rfl, rfl, rfl, rfl, rfl, rfl, rfl⟩

omit [Scalar α] in
theorem Keeps.trans {h₁ h₂ h₃ : Hull α} (h : h₁.Keeps h₂) (h' : h₂.Keeps h₃) : h₁.Keeps h₃ where
  id := h'.id.trans h.id
  position := h'.position.trans h.position
  radius := h'.radius.trans h.radius
  health := h'.health.trans h.health
  fleet := h'.fleet.trans h.fleet
  dt := h'.dt.trans h.dt
  totalEnergy := h'.totalEnergy.trans h.totalEnergy

theorem Charged.keeps {h h' : Hull α} {price : Option α} {ok : Bool}
    (hc : h.Charged price ok h') : h.Keeps h' := by
  cases hc <;> exact ⟨rfl, rfl, rfl, rfl, rfl, rfl, rfl⟩

theorem spend_of_lt {h : Hull α} {amount : α} (hlt : h.energy - amount < 0.0) :
    h.spend amount = ({ h with energy := 0.0 }, .error .outOfEnergy) :=
  if_pos hlt

theorem spend_of_not_lt {h : Hull α} {amount : α} (hle : ¬h.energy - amount < 0.0) :
    h.spend amount = ({ h with energy := h.energy - amount }, .ok ()) :=
  if_neg hle

end Hull

/-- What a thrust asks for, if it comes to that. -/
def Thruster.price? (t : Thruster α) (h : Hull α) (direction : Vec3 α) : Option α :=
  if t.mount.used || !direction.isFinite then none
  else direction.normalize?.map fun _ =>
    t.energy * Scalar.min (h.body.mass * direction.length) t.force / t.force

/-- What a shot asks for, if it comes to that. -/
def Weapon.price? (w : Weapon α) (tick : Nat) (direction : Vec3 α) : Option α :=
  if w.mount.used || direction.direction?.isNone || w.ammo == 0 ||
      (w.cooldownRemaining? tick).isSome then none
  else some w.energy

/-- What a scan asks for, if it comes to that. -/
def Sensor.price? (s : Sensor α) : Option α :=
  if s.mount.used then none else some s.energy

theorem Thruster.charged_thrust (t : Thruster α) (h : Hull α) (direction : Vec3 α) :
    h.Charged (t.price? h direction) (t.thrust h direction).2.2.isOk
      (t.thrust h direction).2.1 := by
  rw [thrust, price?]
  by_cases hused : t.mount.used = true
  · simp only [hused, if_true, Bool.true_or]
    exact .free _
  by_cases hfin : direction.isFinite = true
  · cases hunit : direction.normalize? with
    | none =>
      simp only [hused, hfin, if_false, Bool.not_true, Bool.or_false, Bool.false_eq_true]
      exact .free _
    | some unit =>
      simp only [hused, hfin, if_false, Bool.not_true, Bool.or_false, Bool.false_eq_true,
        Option.map_some]
      -- a thrust that is paid for changes the velocity, but not the mass
      by_cases hlt : h.energy -
          t.energy * Scalar.min (h.body.mass * direction.length) t.force / t.force < 0.0
      · rw [Hull.spend_of_lt hlt]
        exact .refused hlt
      · rw [Hull.spend_of_not_lt hlt]
        exact .paid hlt _ h.body.mass
  · simp only [hused, hfin, Bool.not_false, Bool.or_true, if_true]
    exact .free _

theorem Weapon.charged_fire (w : Weapon α) (h : Hull α) (tick : Nat) (direction : Vec3 α) :
    h.Charged (w.price? tick direction) (w.fire h tick direction).2.2.isOk
      (w.fire h tick direction).2.1 := by
  rw [fire, price?]
  by_cases hused : w.mount.used = true
  · simp only [hused, if_true, Bool.true_or]
    exact .free _
  cases hunit : direction.direction? with
  | none => simpa [hused] using .free _
  | some unit =>
    by_cases hammo : w.ammo = 0
    · simpa [hused, hammo] using .free _
    -- the mount is used by now, which the cooldown does not depend on
    cases hcool : w.cooldownRemaining? tick with
    | some remaining =>
      have hcool' : ({ w with mount := w.mount.markUsed } : Weapon α).cooldownRemaining? tick =
          some remaining := hcool
      simpa [hused, hammo, hcool'] using .free _
    | none =>
      have hcool' : ({ w with mount := w.mount.markUsed } : Weapon α).cooldownRemaining? tick =
          none := hcool
      by_cases hlt : h.energy - w.energy < 0.0
      · simpa [hused, hammo, hcool', Hull.spend_of_lt hlt] using .refused hlt
      · simpa [hused, hammo, hcool', Hull.spend_of_not_lt hlt] using .paid hlt _ _

theorem Sensor.charged_scan (s : Sensor α) (h : Hull α) (world : World α) :
    h.Charged s.price? (s.scan h world).2.2.isOk (s.scan h world).2.1 := by
  rw [scan, price?]
  by_cases hused : s.mount.used = true
  · simp only [hused, if_true]
    exact .free _
  · simp only [hused, if_false, Bool.false_eq_true]
    by_cases hlt : h.energy - s.energy < 0.0
    · rw [Hull.spend_of_lt hlt]
      exact .refused hlt
    · rw [Hull.spend_of_not_lt hlt]
      exact .paid hlt h.body.velocity h.body.mass

end FleetArena
