import FleetArena.Proofs.Energy.Tally
import FleetArena.Proofs.Vessel.Weight

/-! What the check of the parts is good for, and what it leaves out: a vessel keeps sound parts
sound, and keeps parts chargeable that are. -/
namespace FleetArena
open Exact

/-- The output of an engine of finite capacity is a share of it. -/
theorem Engine.Made.exists_share {e : Engine Exact} (h : e.Made) {c : ℝ}
    (hc : e.capacity = real c) : ∃ f : ℝ, 0 ≤ f ∧ e.output = real (c * f) := by
  rcases h.output with ho | ⟨f, hlow, hhigh, ho⟩
  · refine ⟨0, le_rfl, ?_⟩
    rw [ho, zero_eq, mul_zero]
  · -- between zero and one there are only numbers
    cases f with
    | real f =>
      rw [zero_eq, real_le] at hlow
      refine ⟨f, hlow, ?_⟩
      rw [ho, hc, real_mul]
    | posInf => simp at hhigh
    | negInf => simp at hlow
    | nan => simp at hlow

namespace Loadout

/-- What the check of the parts ensures, for parts that were made as parts are. -/
structure Sound (l : Loadout Exact) (mass : Exact) : Prop where
  made : ∀ e ∈ l.engines, e.Made
  force : ∀ t ∈ l.thrusters, ∃ f, 0 < f ∧ t.force = real f
  laden : l.Laden mass

/-- No engine gives and no part takes less than nothing. -/
structure Chargeable (l : Loadout Exact) : Prop where
  capacity : ∀ e ∈ l.engines, Scalar.isFinite e.capacity = true ∧ 0.0 ≤ e.capacity
  thrust : ∀ t ∈ l.thrusters, 0.0 ≤ t.energy
  shot : ∀ w ∈ l.weapons, w.ammo = 0 ∨ 0.0 ≤ w.energy
  scan : ∀ s ∈ l.sensors, 0.0 ≤ s.energy

variable {l l' : Loadout Exact} {mass mass' : Exact} {v : Vessel Exact}

theorem Sound.release (h : l.Sound mass) : l.release.Sound mass := by
  refine ⟨?_, ?_, h.laden.release⟩
  · exact List.forall_mem_map.mpr fun e he => (h.made e he).release
  · exact List.forall_mem_map.mpr h.force

theorem Chargeable.release (h : l.Chargeable) : l.release.Chargeable where
  capacity := List.forall_mem_map.mpr h.capacity
  thrust := List.forall_mem_map.mpr h.thrust
  shot := List.forall_mem_map.mpr h.shot
  scan := List.forall_mem_map.mpr h.scan

theorem Sound.handled (h : v.loadout.Sound v.hull.body.mass) (hv : v.Handled l' mass') :
    l'.Sound mass' := by
  have hladen := h.laden.handled hv
  obtain ⟨hmade, hforce, -⟩ := h
  cases hv with
  | untouched => exact ⟨hmade, hforce, hladen⟩
  | engine he fraction =>
    have hpowered := (hmade _ (List.mem_of_getElem? he)).powerOn fraction
    exact ⟨forall_mem_set hmade hpowered, hforce, hladen⟩
  | @thruster i t ht =>
    have hused := hforce t (List.mem_of_getElem? ht)
    exact ⟨hmade, forall_mem_set hforce hused, hladen⟩
  | weapon => exact ⟨hmade, hforce, hladen⟩
  | shot => exact ⟨hmade, hforce, hladen⟩
  | sensor => exact ⟨hmade, hforce, hladen⟩

theorem Chargeable.handled (h : v.loadout.Chargeable) (hv : v.Handled l' mass') :
    l'.Chargeable := by
  obtain ⟨hcapacity, hthrust, hshot, hscan⟩ := h
  cases hv with
  | untouched => exact ⟨hcapacity, hthrust, hshot, hscan⟩
  | @engine i e he fraction =>
    refine ⟨forall_mem_set hcapacity ?_, hthrust, hshot, hscan⟩
    rw [Engine.capacity_powerOn]
    exact hcapacity e (List.mem_of_getElem? he)
  | @thruster i t ht =>
    have hused := hthrust t (List.mem_of_getElem? ht)
    exact ⟨hcapacity, forall_mem_set hthrust hused, hshot, hscan⟩
  | @weapon i w hw =>
    have hused := hshot w (List.mem_of_getElem? hw)
    exact ⟨hcapacity, hthrust, forall_mem_set hshot hused, hscan⟩
  | @shot i w hw hne tick =>
    have henergy := (hshot w (List.mem_of_getElem? hw)).resolve_left hne
    exact ⟨hcapacity, hthrust, forall_mem_set hshot (Or.inr henergy), hscan⟩
  | @sensor i s hs =>
    have hused := hscan s (List.mem_of_getElem? hs)
    exact ⟨hcapacity, hthrust, hshot, forall_mem_set hscan hused⟩

/-- Engines that can give give a finite amount, and not less than nothing. -/
theorem Sound.power_eq (h : l.Sound mass)
    (hcapacity : ∀ e ∈ l.engines, Scalar.isFinite e.capacity = true) :
    ∃ outputs : List ℝ, l.engines.map (·.output) = outputs.map real ∧
      l.power = real outputs.sum := by
  have hfinite : ∀ a ∈ l.engines.map (·.output), Scalar.isFinite a = true := by
    intro a ha
    obtain ⟨e, he, rfl⟩ := List.mem_map.mp ha
    obtain ⟨c, hc⟩ := isFinite_iff.mp (hcapacity e he)
    obtain ⟨f, -, ho⟩ := (h.made e he).exists_share hc
    rw [ho]
    exact isFinite_real
  obtain ⟨outputs, houtputs⟩ := exists_map_real hfinite
  exact ⟨outputs, houtputs, by rw [power, houtputs, sum_map_real]⟩

theorem Chargeable.power_nonneg (h : l.Chargeable) (hs : l.Sound mass) :
    ∃ x, 0 ≤ x ∧ l.power = real x := by
  obtain ⟨outputs, houtputs, hpower⟩ := hs.power_eq fun e he => (h.capacity e he).1
  have houtput : ∀ x ∈ outputs, 0 ≤ x := by
    intro x hx
    have hmem : real x ∈ l.engines.map (·.output) := by
      rw [houtputs]
      exact List.mem_map_of_mem hx
    obtain ⟨e, he, hex⟩ := List.mem_map.mp hmem
    obtain ⟨hfinite, hnonneg⟩ := h.capacity e he
    obtain ⟨c, hc⟩ := isFinite_iff.mp hfinite
    obtain ⟨f, hf, ho⟩ := (hs.made e he).exists_share hc
    rw [hc, zero_eq, real_le] at hnonneg
    have hx : x = c * f := real.inj (hex.symm.trans ho)
    rw [hx]
    positivity
  exact ⟨outputs.sum, List.sum_nonneg houtput, hpower⟩

end Loadout
end FleetArena
