import FleetArena.Proofs.Vessel.Calls

/-! What a call does to the parts of a vessel and to its mass: it changes one part at most, and
only a shot makes the vessel lighter. -/
namespace FleetArena
variable {α : Type} [Scalar α]

theorem Hull.body_spend (h : Hull α) (amount : α) : (h.spend amount).1.body = h.body := by
  rw [spend]
  split <;> rfl

omit [Scalar α] in
theorem Mount.markUsed_of_used {m : Mount α} (h : m.used = true) : m.markUsed = m := by
  rw [markUsed, ← h]

theorem Engine.mount_powerOn (e : Engine α) (fraction : α) :
    (e.powerOn fraction).1.mount = e.mount.markUsed := by
  rw [powerOn]
  split
  · rename_i hused
    exact (Mount.markUsed_of_used hused).symm
  · dsimp only
    split <;> rfl

theorem Thruster.fst_thrust (t : Thruster α) (h : Hull α) (direction : Vec3 α) :
    (t.thrust h direction).1 = { t with mount := t.mount.markUsed } := by
  rw [thrust]
  split
  · rename_i hused
    rw [Mount.markUsed_of_used hused]
  dsimp only
  split
  · rfl
  split
  · rfl
  · split <;> rfl

theorem Sensor.fst_scan (s : Sensor α) (h : Hull α) (world : World α) :
    (s.scan h world).1 = { s with mount := s.mount.markUsed } := by
  rw [scan]
  split
  · rename_i hused
    rw [Mount.markUsed_of_used hused]
  dsimp only
  split <;> rfl

/-- A shot takes a round and its mass; without one only the mount is used. -/
theorem Weapon.fire_cases (w : Weapon α) (h : Hull α) (tick : Nat) (direction : Vec3 α) :
    ((w.fire h tick direction).1 = { w with mount := w.mount.markUsed } ∧
        (w.fire h tick direction).2.1.body.mass = h.body.mass) ∨
      (w.ammo ≠ 0 ∧ (w.fire h tick direction).1 =
          { w with mount := w.mount.markUsed, ammo := w.ammo - 1, lastShot := some tick } ∧
        (w.fire h tick direction).2.1.body.mass = h.body.mass - w.ammoMass) := by
  have hspend := h.body_spend w.energy
  rw [fire]
  split
  · rename_i hused
    rw [Mount.markUsed_of_used hused]
    exact Or.inl ⟨rfl, rfl⟩
  dsimp only
  split
  · exact Or.inl ⟨rfl, rfl⟩
  split
  · exact Or.inl ⟨rfl, rfl⟩
  rename_i hammo
  split
  · exact Or.inl ⟨rfl, rfl⟩
  -- now it is a matter of energy alone
  split
  · rename_i hull e he
    rw [show h.spend w.energy = (hull, _) from he] at hspend
    exact Or.inl ⟨rfl, congrArg Body.mass hspend⟩
  · rename_i hull he
    rw [show h.spend w.energy = (hull, _) from he] at hspend
    exact Or.inr ⟨hammo, rfl, congrArg (·.mass - w.ammoMass) hspend⟩

theorem Thruster.mass_thrust (t : Thruster α) (h : Hull α) (direction : Vec3 α) :
    (t.thrust h direction).2.1.body.mass = h.body.mass := by
  rw [thrust]
  split
  · rfl
  dsimp only
  split
  · rfl
  split
  · rfl
  · have hspend := h.body_spend
      (t.energy * Scalar.min (h.body.mass * direction.length) t.force / t.force)
    split
    · rename_i hull e he
      rw [show h.spend _ = (hull, _) from he] at hspend
      exact congrArg Body.mass hspend
    · rename_i hull he
      rw [show h.spend _ = (hull, _) from he] at hspend
      have hmass : hull.body.mass = h.body.mass := congrArg Body.mass hspend
      exact hmass

theorem Sensor.body_scan (s : Sensor α) (h : Hull α) (world : World α) :
    (s.scan h world).2.1.body = h.body := by
  rw [scan]
  split
  · rfl
  have hspend := h.body_spend s.energy
  dsimp only
  split
  · rename_i hull e he
    rwa [he] at hspend
  · rename_i hull he
    rwa [he] at hspend

namespace Vessel

/-- The loadout and the mass that a call may leave. -/
inductive Handled (v : Vessel α) : Loadout α → α → Prop
  | untouched : Handled v v.loadout v.hull.body.mass
  | engine {i : Nat} {e : Engine α} (h : v.loadout.engines[i]? = some e) (fraction : α) :
      Handled v { v.loadout with engines := v.loadout.engines.set i (e.powerOn fraction).1 }
        v.hull.body.mass
  | thruster {i : Nat} {t : Thruster α} (h : v.loadout.thrusters[i]? = some t) :
      Handled v { v.loadout with
        thrusters := v.loadout.thrusters.set i { t with mount := t.mount.markUsed } }
        v.hull.body.mass
  | weapon {i : Nat} {w : Weapon α} (h : v.loadout.weapons[i]? = some w) :
      Handled v { v.loadout with
        weapons := v.loadout.weapons.set i { w with mount := w.mount.markUsed } }
        v.hull.body.mass
  | shot {i : Nat} {w : Weapon α} (h : v.loadout.weapons[i]? = some w) (hammo : w.ammo ≠ 0)
      (tick : Nat) :
      Handled v { v.loadout with
        weapons := v.loadout.weapons.set i
          { w with mount := w.mount.markUsed, ammo := w.ammo - 1, lastShot := some tick } }
        (v.hull.body.mass - w.ammoMass)
  | sensor {i : Nat} {s : Sensor α} (h : v.loadout.sensors[i]? = some s) :
      Handled v { v.loadout with
        sensors := v.loadout.sensors.set i { s with mount := s.mount.markUsed } }
        v.hull.body.mass

theorem handled_call (v : Vessel α) (tick : Nat) (world : World α) (c : Call α) :
    v.Handled (v.call tick world c).1.loadout (v.call tick world c).1.hull.body.mass := by
  match c with
  | .act (.powerOn i fraction) =>
    cases h : v.loadout.engines[i]? with
    | none => simpa only [call, act, h] using .untouched
    | some engine => simpa only [call, act, h] using .engine h fraction
  | .act (.thrust i direction) =>
    cases h : v.loadout.thrusters[i]? with
    | none => simpa only [call, act, h] using .untouched
    | some thruster =>
      simpa only [call, act, h, thruster.fst_thrust, thruster.mass_thrust] using .thruster h
  | .act (.fire i direction) =>
    cases h : v.loadout.weapons[i]? with
    | none => simpa only [call, act, h] using .untouched
    | some weapon =>
      -- whether or not there is a shot, the weapon and the hull are what firing makes of them
      have hloadout : ((v.act tick (.fire i direction)).1.loadout,
          (v.act tick (.fire i direction)).1.hull) =
          ({ v.loadout with
            weapons := v.loadout.weapons.set i (weapon.fire v.hull tick direction).1 },
            (weapon.fire v.hull tick direction).2.1) := by
        simp only [act, h]
        split <;> rfl
      obtain ⟨hparts, hhull⟩ := Prod.mk.inj hloadout
      simp only [call, hparts, hhull]
      rcases weapon.fire_cases v.hull tick direction with ⟨hw, hm⟩ | ⟨hammo, hw, hm⟩
      · rw [hw, hm]
        exact .weapon h
      · rw [hw, hm]
        exact .shot h hammo tick
  | .scan i =>
    cases h : v.loadout.sensors[i]? with
    | none => simpa only [call, scan, h] using .untouched
    | some sensor => simpa only [call, scan, h, sensor.fst_scan, sensor.body_scan] using .sensor h

end Vessel
end FleetArena
