import FleetArena.Proofs.Lists
import FleetArena.Proofs.Sphere
import FleetArena.Proofs.Vessel.Build
import FleetArena.Proofs.Vessel.Handling

/-! The weight of a vessel: a hull stays as heavy as its parts and the rounds that are left. -/
namespace FleetArena
open Exact

section
variable {α : Type}

/-- The masses of the parts without any rounds. -/
def Loadout.masses (l : Loadout α) : List α :=
  l.mounts.map (·.mass)

theorem Loadout.masses_eq (l : Loadout α) : l.masses =
    l.engines.map (·.mount.mass) ++ l.thrusters.map (·.mount.mass) ++
      l.weapons.map (·.mount.mass) ++ l.sensors.map (·.mount.mass) := by
  simp only [masses, mounts, toParts, List.map_append, List.map_map]
  rfl

theorem Loadout.masses_release (l : Loadout α) : l.release.masses = l.masses := by
  simp only [masses_eq, release, List.map_map]
  rfl

theorem Loadout.weapon_mem_toParts {l : Loadout α} {w : Weapon α} :
    .weapon w ∈ l.toParts ↔ w ∈ l.weapons := by
  simp [toParts]

variable [Scalar α] {v : Vessel α} {l : Loadout α} {mass : α}

theorem Vessel.Handled.masses (h : v.Handled l mass) : l.masses = v.loadout.masses := by
  cases h with
  | untouched => rfl
  | @engine i e he fraction =>
    have hmass : (e.powerOn fraction).1.mount.mass = e.mount.mass := by
      rw [Engine.mount_powerOn]
      rfl
    simp only [Loadout.masses_eq]
    rw [map_set_of_fixed he hmass]
  | thruster ht =>
    simp only [Loadout.masses_eq]
    rw [map_set_of_fixed ht]
    rfl
  | weapon hw =>
    simp only [Loadout.masses_eq]
    rw [map_set_of_fixed hw]
    rfl
  | shot hw =>
    simp only [Loadout.masses_eq]
    rw [map_set_of_fixed hw]
    rfl
  | sensor hs =>
    simp only [Loadout.masses_eq]
    rw [map_set_of_fixed hs]
    rfl

end

/-- The mass of the rounds that are left. -/
noncomputable def Weapon.load (w : Weapon Exact) : ℝ :=
  w.ammo * w.ammoMass.toReal

/-- The mass that a part can give off. -/
noncomputable def Part.load : Part Exact → ℝ
  | .weapon w => w.load
  | _ => 0

namespace Loadout

theorem sum_load (l : Loadout Exact) :
    (l.toParts.map Part.load).sum = (l.weapons.map Weapon.load).sum := by
  simp [toParts, Function.comp_def, Part.load]

noncomputable def weight (l : Loadout Exact) : ℝ :=
  (l.masses.map toReal).sum + (l.weapons.map Weapon.load).sum

/-- The parts and their rounds have positive masses, and `mass` is what they weigh together. -/
structure Laden (l : Loadout Exact) (mass : Exact) : Prop where
  masses_ne_nil : l.masses ≠ []
  part : ∀ x ∈ l.masses, ∃ m, 0 < m ∧ x = real m
  ammoMass : ∀ w ∈ l.weapons, ∃ a, 0 < a ∧ w.ammoMass = real a
  mass : mass = real l.weight

variable {l l' : Loadout Exact} {mass mass' : Exact} {v : Vessel Exact}

theorem Laden.release (h : l.Laden mass) : l.release.Laden mass := by
  have hload : l.release.weapons.map Weapon.load = l.weapons.map Weapon.load := by
    rw [Loadout.release, List.map_map]
    rfl
  refine ⟨?_, ?_, List.forall_mem_map.mpr h.ammoMass, ?_⟩
  · rw [masses_release]
    exact h.masses_ne_nil
  · rw [masses_release]
    exact h.part
  · rw [weight, masses_release, hload]
    exact h.mass

theorem Laden.handled (h : v.loadout.Laden v.hull.body.mass) (hv : v.Handled l' mass') :
    l'.Laden mass' := by
  have hmasses := hv.masses
  have hne : l'.masses ≠ [] := hmasses ▸ h.masses_ne_nil
  have hpart : ∀ x ∈ l'.masses, ∃ m, 0 < m ∧ x = real m := hmasses ▸ h.part
  -- with the same rounds and the same mass nothing else can make a difference
  have hsame (hweapons : l'.weapons = v.loadout.weapons) (hmass : mass' = v.hull.body.mass) :
      l'.Laden mass' := by
    refine ⟨hne, hpart, hweapons ▸ h.ammoMass, ?_⟩
    rw [hmass, h.mass, weight, weight, hmasses, hweapons]
  cases hv with
  | untouched => exact hsame rfl rfl
  | engine => exact hsame rfl rfl
  | thruster => exact hsame rfl rfl
  | sensor => exact hsame rfl rfl
  | @weapon i w hw =>
    have hused := h.ammoMass w (List.mem_of_getElem? hw)
    refine ⟨hne, hpart, forall_mem_set h.ammoMass hused, ?_⟩
    have hload : ({ w with mount := w.mount.markUsed } : Weapon Exact).load = w.load := rfl
    rw [h.mass, weight, weight, hmasses, sum_map_set _ hw, hload, sub_add_cancel]
  | @shot i w hw hne' tick =>
    obtain ⟨a, ha, hwa⟩ := h.ammoMass w (List.mem_of_getElem? hw)
    have hmass : v.hull.body.mass - w.ammoMass = real (v.loadout.weight - a) := by
      rw [h.mass, hwa, real_sub]
    refine ⟨hne, hpart, forall_mem_set h.ammoMass ⟨a, ha, hwa⟩, hmass.trans (congrArg real ?_)⟩
    -- the vessel loses the mass of just the round that the weapon loses
    let w' : Weapon Exact :=
      { w with mount := w.mount.markUsed, ammo := w.ammo - 1, lastShot := some tick }
    have hround : w'.load = w.load - a := by
      have hcast : ((w.ammo - 1 : ℕ) : ℝ) = w.ammo - 1 := by
        rw [Nat.cast_sub (Nat.one_le_iff_ne_zero.mpr hne'), Nat.cast_one]
      simp only [w', Weapon.load, hwa, toReal_real, hcast]
      ring
    have hsum := sum_map_set Weapon.load hw w'
    have hweight : ((v.loadout.weapons.set i w').map Weapon.load).sum =
        (v.loadout.weapons.map Weapon.load).sum - a := by
      rw [hsum, hround]
      ring
    rw [weight, weight, hmasses]
    show _ = _ + ((v.loadout.weapons.set i w').map Weapon.load).sum
    rw [hweight, add_sub_assoc]

/-- The parts weigh something even when all rounds are gone. -/
theorem Laden.load_lt (h : l.Laden mass) : (l.weapons.map Weapon.load).sum < l.weight := by
  have hpos : 0 < (l.masses.map toReal).sum := by
    apply List.sum_pos
    · intro x hx
      obtain ⟨y, hy, rfl⟩ := List.mem_map.mp hx
      obtain ⟨m, hm, rfl⟩ := h.part y hy
      exact hm
    · rw [ne_eq, List.map_eq_nil_iff]
      exact h.masses_ne_nil
  rw [weight]
  linarith

theorem Laden.mass_pos (h : l.Laden mass) : ∃ m, 0 < m ∧ mass = real m := by
  have hnonneg : 0 ≤ (l.weapons.map Weapon.load).sum := by
    apply List.sum_nonneg
    intro x hx
    obtain ⟨w, hw, rfl⟩ := List.mem_map.mp hx
    obtain ⟨a, ha, hwa⟩ := h.ammoMass w hw
    rw [Weapon.load, hwa, toReal_real]
    positivity
  exact ⟨l.weight, hnonneg.trans_lt h.load_lt, h.mass⟩

end Loadout

theorem Part.mass_eq {p : Part Exact} (hmass : ∃ m, p.mount.mass = real m)
    (hammo : ∀ w, p = .weapon w → ∃ a, w.ammoMass = real a) :
    p.mass = real (p.mount.mass.toReal + p.load) := by
  obtain ⟨m, hm⟩ := hmass
  cases p with
  | weapon w =>
    obtain ⟨a, hwa⟩ := hammo w rfl
    simp only [mount] at hm
    simp only [mass, Weapon.mass, mount, load, Weapon.load, hm, hwa, toReal_real, ofNat_eq,
      real_mul, real_add]
  | engine e => simp [mass, load, hm]
  | thruster t => simp [mass, load, hm]
  | sensor s => simp [mass, load, hm]

namespace Loadout
variable {l : Loadout Exact}

/-- Parts of finite masses weigh what they weigh one by one. -/
theorem mass_eq (hpart : ∀ x ∈ l.masses, ∃ m, 0 < m ∧ x = real m)
    (hammo : ∀ w ∈ l.weapons, ∃ a, 0 < a ∧ w.ammoMass = real a) : l.mass = real l.weight := by
  have hparts : l.toParts.map Part.mass =
      (l.toParts.map fun p => p.mount.mass.toReal + p.load).map real := by
    rw [List.map_map]
    refine List.map_congr_left fun p hp => Part.mass_eq ?_ ?_
    · obtain ⟨m, -, hm⟩ := hpart _ (List.mem_map_of_mem (List.mem_map_of_mem hp))
      exact ⟨m, hm⟩
    · rintro w rfl
      obtain ⟨a, -, ha⟩ := hammo w (weapon_mem_toParts.mp hp)
      exact ⟨a, ha⟩
  have hmasses : l.masses.map toReal = l.toParts.map fun p => p.mount.mass.toReal := by
    rw [masses, mounts, List.map_map, List.map_map]
    rfl
  rw [mass, hparts, sum_map_real, List.sum_map_add, sum_load, weight, hmasses]

/-- The mass that is kept is that of the parts that there are. -/
theorem Laden.mass_eq {mass : Exact} (h : l.Laden mass) : l.mass = mass :=
  (Loadout.mass_eq h.part h.ammoMass).trans h.mass.symm

end Loadout

theorem Vessel.laden_of_build {id : ObjectId} {fleet : String} {position : Vec3 Exact}
    {parts : List (Part Exact)} {dt : Exact} {v : Vessel Exact}
    (hbuild : build id fleet position parts dt = .ok v) : v.loadout.Laden v.hull.body.mass := by
  obtain ⟨hcheck, rfl⟩ := build_eq_ok_iff.mp hbuild
  -- the check is of the parts in the order of the list, and the loadout has the same ones by kind
  obtain ⟨hne, hfault⟩ := sound_of_checkParts hcheck
  have hperm := toParts_ofParts_perm parts
  have hsound (p : Part Exact) (hp : p ∈ (Loadout.ofParts parts).toParts) : p.fault? = none :=
    hfault p (hperm.mem_iff.mp hp)
  have hpart : ∀ x ∈ (Loadout.ofParts parts).masses, ∃ m, 0 < m ∧ x = real m := by
    intro x hx
    obtain ⟨m, hm, rfl⟩ := List.mem_map.mp hx
    obtain ⟨p, hp, rfl⟩ := List.mem_map.mp hm
    exact Part.isPositive_iff.mp (Part.sound_of_fault (hsound p hp)).1
  have hammo : ∀ w ∈ (Loadout.ofParts parts).weapons, ∃ a, 0 < a ∧ w.ammoMass = real a := by
    intro w hw
    have hfit := hsound _ (Loadout.weapon_mem_toParts.mpr hw)
    exact Part.isPositive_iff.mp ((Part.sound_of_fault hfit).2.2 w rfl)
  refine ⟨?_, hpart, hammo, Loadout.mass_eq hpart hammo⟩
  show (Loadout.ofParts parts).masses ≠ []
  rw [Loadout.masses, Loadout.mounts, ne_eq, List.map_eq_nil_iff, List.map_eq_nil_iff]
  intro hnil
  rw [hnil] at hperm
  exact hne hperm.nil_eq.symm

end FleetArena
