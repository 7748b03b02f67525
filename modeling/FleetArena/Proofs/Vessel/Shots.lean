import FleetArena.Proofs.Vessel.Weight

/-! The shots of a vessel. Each has the mass and the radius of the rounds of the weapon that has
fired it. -/
namespace FleetArena
open Exact

section
variable {α : Type} [Scalar α]

theorem Weapon.of_fire_eq_ok {w : Weapon α} {h : Hull α} {tick : Nat} {direction : Vec3 α}
    {shot : Shot α} (hfire : (w.fire h tick direction).2.2 = .ok shot) :
    w.ammo ≠ 0 ∧ shot.mass = w.ammoMass ∧ shot.radius = w.ammoRadius := by
  rw [fire] at hfire
  split at hfire
  · cases hfire
  dsimp only at hfire
  split at hfire
  · cases hfire
  split at hfire
  · cases hfire
  rename_i hammo
  split at hfire
  · cases hfire
  split at hfire
  · cases hfire
  · obtain rfl := Except.ok.inj hfire
    exact ⟨hammo, rfl, rfl⟩

theorem Weapon.fire_eq_ok {w : Weapon α} {h : Hull α} {tick : Nat}
    {direction unit : Vec3 α} (hused : w.mount.used = false)
    (hunit : direction.direction? = some unit) (hammo : w.ammo ≠ 0)
    (hcool : w.cooldownRemaining? tick = none) (hpaid : ¬h.energy - w.energy < 0.0) :
    let h' := ({ h with energy := h.energy - w.energy }.shed w.ammoMass).push (-unit)
      (w.ammoMass * w.ammoVelocity)
    w.fire h tick direction =
      ({ w with mount := w.mount.markUsed, ammo := w.ammo - 1, lastShot := some tick }, h',
        .ok {
          position := h'.body.position + unit * (h'.body.radius + w.ammoRadius + clearance)
          velocity := h'.body.velocity + unit * w.ammoVelocity
          mass := w.ammoMass
          radius := w.ammoRadius }) := by
  intro h'
  have hcool' : ({ w with mount := w.mount.markUsed } : Weapon α).cooldownRemaining? tick = none :=
    hcool
  simp only [fire, hused, hunit, hammo, hcool', Hull.spend_of_not_lt hpaid, if_false,
    Bool.false_eq_true]
  rfl

namespace Vessel

theorem act_fire_of_ok {v : Vessel α} {w w' : Weapon α} {h : Hull α}
    {i tick : Nat} {direction : Vec3 α} {shot : Shot α} (hw : v.loadout.weapons[i]? = some w)
    (hfire : w.fire v.hull tick direction = (w', h, .ok shot)) :
    v.act tick (.fire i direction) =
      ({ v with
        hull := h
        loadout := { v.loadout with weapons := v.loadout.weapons.set i w' }
        shots := v.shots ++ [shot] }, .ok ()) := by
  simp only [act, hw, hfire]

/-- A call adds no shot, or one of a weapon that is loaded. -/
theorem shots_call (v : Vessel α) (tick : Nat) (world : World α) (c : Call α) :
    (v.call tick world c).1.shots = v.shots ∨ ∃ w ∈ v.loadout.weapons, ∃ shot : Shot α,
      w.ammo ≠ 0 ∧ shot.mass = w.ammoMass ∧ shot.radius = w.ammoRadius ∧
        (v.call tick world c).1.shots = v.shots ++ [shot] := by
  match c with
  | .act (.powerOn i fraction) =>
    apply Or.inl
    simp only [call, act]
    split <;> rfl
  | .act (.thrust i direction) =>
    apply Or.inl
    simp only [call, act]
    split <;> rfl
  | .act (.fire i direction) =>
    cases hw : v.loadout.weapons[i]? with
    | none =>
      apply Or.inl
      simp only [call, act, hw]
    | some w =>
      cases hfire : (w.fire v.hull tick direction).2.2 with
      | error e =>
        apply Or.inl
        simp only [call, act, hw, hfire]
      | ok shot =>
        obtain ⟨hammo, hmass, hradius⟩ := Weapon.of_fire_eq_ok hfire
        refine Or.inr ⟨w, List.mem_of_getElem? hw, shot, hammo, hmass, hradius, ?_⟩
        simp only [call, act, hw, hfire]
  | .scan i =>
    apply Or.inl
    simp only [call, scan]
    split <;> rfl

end Vessel
end

namespace Vessel
variable {P : Exact → Prop} {v : Vessel Exact}

/-- A vessel of the weight of its parts, whose loaded weapons have rounds with radii that satisfy
`P`. So have the shots that have been fired. -/
structure WellMade (P : Exact → Prop) (v : Vessel Exact) : Prop where
  laden : v.loadout.Laden v.hull.body.mass
  radius : 0.0 ≤ v.hull.body.radius
  rounds : ∀ w ∈ v.loadout.weapons, w.ammo = 0 ∨ P w.ammoRadius
  shots : ∀ s ∈ v.shots, 0.0 < s.mass ∧ P s.radius

theorem WellMade.begin (h : v.WellMade P) : v.begin.WellMade P :=
  ⟨h.laden.release, h.radius, List.forall_mem_map.mpr h.rounds, h.shots⟩

theorem rounds_handled {l : Loadout Exact} {mass : Exact} (hv : v.Handled l mass)
    (h : ∀ w ∈ v.loadout.weapons, w.ammo = 0 ∨ P w.ammoRadius) :
    ∀ w ∈ l.weapons, w.ammo = 0 ∨ P w.ammoRadius := by
  cases hv with
  | untouched => exact h
  | engine => exact h
  | thruster => exact h
  | sensor => exact h
  | @weapon i w hw =>
    have hused := h w (List.mem_of_getElem? hw)
    exact forall_mem_set h hused
  | @shot i w hw hammo tick =>
    have hradius := (h w (List.mem_of_getElem? hw)).resolve_left hammo
    exact forall_mem_set h (Or.inr hradius)

theorem WellMade.call (h : v.WellMade P) (tick : Nat) (world : World Exact) (c : Call Exact) :
    (v.call tick world c).1.WellMade P := by
  have hhandled := v.handled_call tick world c
  refine ⟨h.laden.handled hhandled, ?_, rounds_handled hhandled h.rounds, ?_⟩
  · rw [(v.keeps_call tick world c).radius]
    exact h.radius
  · rcases v.shots_call tick world c with hsame | ⟨w, hw, shot, hammo, hmass, hradius, hshots⟩
    · rw [hsame]
      exact h.shots
    · rw [hshots]
      refine List.forall_mem_append.mpr ⟨h.shots, List.forall_mem_singleton.mpr ⟨?_, ?_⟩⟩
      · obtain ⟨a, ha, hwa⟩ := h.laden.ammoMass w hw
        rw [hmass, hwa, zero_eq, real_lt]
        exact ha
      · rw [hradius]
        exact (h.rounds w hw).resolve_left hammo

end Vessel
end FleetArena
