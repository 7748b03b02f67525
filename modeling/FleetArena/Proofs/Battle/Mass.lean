import FleetArena.Proofs.Battle.Ships
import FleetArena.Proofs.Contact.Exchange
import FleetArena.Proofs.Vessel.Weight

/-! The mass of ships. A hull is at all times as heavy as the parts of the ship, which weigh
something, so that no force, recoil or impulse is divided by a mass of zero. -/
namespace FleetArena
open Exact

/-- A vessel as heavy as its parts and the rounds that are left, also when it has just fired one. -/
structure Vessel.Weighed (v : Vessel Exact) : Prop where
  mass : v.hull.body.mass = v.loadout.mass
  weight : v.loadout.mass = real v.loadout.weight
  weight_pos : 0 < v.loadout.weight
  inverseMass : v.hull.body.inverseMass = real v.loadout.weight⁻¹
  recoil : ∀ w ∈ v.loadout.weapons, w.ammo ≠ 0 →
    ∃ m, 0 < m ∧ (v.hull.shed w.ammoMass).body.mass = real m

namespace Vessel

theorem weighed_of_laden {v : Vessel Exact} (h : v.loadout.Laden v.hull.body.mass) :
    v.Weighed := by
  obtain ⟨m, hm, hmass⟩ := h.mass_pos
  obtain rfl : v.loadout.weight = m := real.inj (h.mass.symm.trans hmass)
  refine ⟨h.mass_eq.symm, h.mass_eq.trans h.mass, hm, Body.inverseMass_of_pos hm h.mass, ?_⟩
  intro w hw hammo
  -- the round that is fired is not in the parts any more
  obtain ⟨i, hi⟩ := List.mem_iff_getElem?.mp hw
  exact (h.handled (.shot hi hammo 0)).mass_pos

theorem lasting_laden : Lasting fun v : Vessel Exact => v.loadout.Laden v.hull.body.mass where
  begin h := h.release
  call {v} tick world c h := h.handled (v.handled_call tick world c)
  unload h := h
  body {v y} h hy := by
    show v.loadout.Laden y.mass
    rw [hy.mass]
    exact h

end Vessel

namespace Battle
variable {π δ : Type} [Pilot Exact π] [Drawer Exact δ]

/-- In every run the hull of a ship has the mass of its parts and of the rounds that are left, which
is positive: in all phases of a step, when it is removed, while its pilot commands it, and in the
copies of the bodies while they collide. -/
theorem weighed_handleAll (arenaRadius : Exact) (settings : Settings Exact)
    (events : List (Event Exact π δ)) :
    let b := (empty arenaRadius settings : Battle Exact π δ).handleAll events
    (∀ c ∈ b :: b.step.battle :: b.phases, ∀ s ∈ c.ships, s.toVessel.Weighed) ∧
      (∀ s ∈ b.step.removed, s.toVessel.Weighed) ∧
      (∀ s ∈ b.ships, Vessel.Weighed { s.toVessel with loadout := s.loadout.release } ∧
        ∀ tick world cs, (s.toVessel.begin.calls tick world cs).Weighed) ∧
      ∀ pairs solids others spent,
        let c := b.start.move
        let bodies :=
          (strikeShots c.dt solids others (strikeSolids c.dt pairs c.bodies) spent).1
        List.Forall₂ (fun s x => x.mass = s.loadout.mass ∧
          x.inverseMass = real s.loadout.weight⁻¹) c.ships (bodies.take c.ships.length) := by
  intro b
  have hships : ∀ s ∈ b.ships, s.loadout.Laden s.hull.body.mass :=
    forall_handleAll Vessel.lasting_laden Vessel.laden_of_build (List.forall_mem_nil _) events
  obtain ⟨hstep, hremoved⟩ := forall_step Vessel.lasting_laden hships
  have hphases := forall_phases Vessel.lasting_laden hships
  refine ⟨?_, fun s hs => Vessel.weighed_of_laden (hremoved s hs), ?_, ?_⟩
  · refine List.forall_mem_cons.mpr ⟨fun s hs => Vessel.weighed_of_laden (hships s hs), ?_⟩
    refine List.forall_mem_cons.mpr ⟨fun s hs => Vessel.weighed_of_laden (hstep s hs), ?_⟩
    exact fun c hc s hs => Vessel.weighed_of_laden (hphases c hc s hs)
  · intro s hs
    refine ⟨Vessel.weighed_of_laden (hships s hs).release, fun tick world cs => ?_⟩
    have hbegin := Vessel.lasting_laden.begin (hships s hs)
    exact Vessel.weighed_of_laden (Vessel.lasting_laden.calls hbegin tick world cs)
  · intro pairs solids others spent c bodies
    have hmove : ∀ s ∈ c.ships, s.loadout.Laden s.hull.body.mass :=
      hphases c (by simp [phases, c])
    -- the copies of the ships come first, and no collision changes a mass
    have hfront : c.bodies.take c.ships.length = c.ships.map Ship.body := by
      simp only [Battle.bodies, List.append_assoc]
      exact List.take_left' (List.length_map _)
    have htake := List.forall₂_take c.ships.length
      (forall₂_alike_strikes c.dt c.bodies pairs solids others spent)
    rw [hfront] at htake
    have halike := List.forall₂_map_left_iff.mp htake
    refine ((List.forall₂_and_left _ _).mpr ⟨hmove, halike⟩).imp ?_
    rintro s x ⟨hladen, hx⟩
    have hweighed := Vessel.weighed_of_laden hladen
    have hmass : x.mass = s.loadout.mass := hx.mass.trans hweighed.mass
    exact ⟨hmass, Body.inverseMass_of_pos hweighed.weight_pos (hmass.trans hweighed.weight)⟩

end Battle
end FleetArena
