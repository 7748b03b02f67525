import FleetArena.Proofs.Lists
import FleetArena.Proofs.Vessel.Ending
import FleetArena.Proofs.Vessel.Shots

/-! The volley of a vessel: the shots of a tick in the order of firing. Each one takes a round, and
no round is lost in any other way. -/
namespace FleetArena
variable {α : Type} [Scalar α]

/-- A weapon that has fired, as it was before, and the shot. -/
structure Firing (α : Type) where
  weapon : Weapon α
  shot : Shot α

/-- The rounds that are left in all weapons. -/
def Loadout.rounds {α : Type} (l : Loadout α) : Nat :=
  (l.weapons.map (·.ammo)).sum

omit [Scalar α] in
theorem Loadout.rounds_release (l : Loadout α) : l.release.rounds = l.rounds := by
  rw [rounds, release, List.map_map]
  rfl

theorem Weapon.ammo_fire (w : Weapon α) (h : Hull α) (tick : Nat) (direction : Vec3 α) :
    (w.fire h tick direction).1.ammo +
      (w.fire h tick direction).2.2.toOption.toList.length = w.ammo := by
  rcases w.fire_outcome h tick direction with ⟨e, hresult, hw, -⟩ | ⟨shot, hresult, hw, -, hammo, -⟩
  · rw [hresult, hw]
    rfl
  · rw [hresult, hw]
    exact Nat.succ_pred_eq_of_ne_zero hammo

namespace Vessel

/-- What a call fires, if it is one to fire and succeeds. -/
def firing? (v : Vessel α) (tick : Nat) : Call α → Option (Firing α)
  | .act (.fire i direction) =>
    v.loadout.weapons[i]?.bind fun w =>
      (w.fire v.hull tick direction).2.2.toOption.map fun shot => ⟨w, shot⟩
  | _ => none

/-- What calls fire, one after the other. -/
def firings (tick : Nat) (world : World α) : List (Call α) → Vessel α → List (Firing α)
  | [], _ => []
  | c :: rest, v => (v.firing? tick c).toList ++ firings tick world rest (v.call tick world c).1

/-- A shot is one of a weapon of the vessel, and of the kind that this weapon fires. -/
theorem of_mem_firing? {v : Vessel α} {tick : Nat} {c : Call α} {f : Firing α}
    (h : f ∈ v.firing? tick c) : f.weapon ∈ v.loadout.weapons ∧
      f.shot.mass = f.weapon.ammoMass ∧ f.shot.radius = f.weapon.ammoRadius := by
  match c with
  | .scan i => cases h
  | .act (.powerOn i fraction) => cases h
  | .act (.thrust i direction) => cases h
  | .act (.fire i direction) =>
    obtain ⟨w, hw, hshot⟩ := Option.bind_eq_some_iff.mp h
    obtain ⟨shot, hok, rfl⟩ := Option.map_eq_some_iff.mp hshot
    cases hfire : (w.fire v.hull tick direction).2.2 with
    | error e =>
      rw [hfire] at hok
      cases hok
    | ok shot' =>
      rw [hfire] at hok
      obtain rfl := Option.some.inj hok
      obtain ⟨-, hmass, hradius⟩ := Weapon.of_fire_eq_ok hfire
      exact ⟨List.mem_of_getElem? hw, hmass, hradius⟩

/-- What a call fires comes behind the other shots, and takes a round. -/
theorem volley_call (v : Vessel α) (tick : Nat) (world : World α) (c : Call α) :
    (v.call tick world c).1.shots = v.shots ++ (v.firing? tick c).toList.map (·.shot) ∧
      (v.call tick world c).1.loadout.rounds + (v.firing? tick c).toList.length =
        v.loadout.rounds := by
  match c with
  | .scan i =>
    simp only [call, scan, firing?, Option.toList_none, List.map_nil, List.append_nil,
      List.length_nil, Nat.add_zero]
    split <;> exact ⟨rfl, rfl⟩
  | .act (.powerOn i fraction) =>
    simp only [call, act, firing?, Option.toList_none, List.map_nil, List.append_nil,
      List.length_nil, Nat.add_zero]
    split <;> exact ⟨rfl, rfl⟩
  | .act (.thrust i direction) =>
    simp only [call, act, firing?, Option.toList_none, List.map_nil, List.append_nil,
      List.length_nil, Nat.add_zero]
    split <;> exact ⟨rfl, rfl⟩
  | .act (.fire i direction) =>
    cases hw : v.loadout.weapons[i]? with
    | none => simp [call, act, firing?, hw]
    | some w =>
      -- the weapon gives up a round just if a shot leaves it, and the other weapons keep theirs
      have hammo := w.ammo_fire v.hull tick direction
      have hsum := sum_map_set_add (·.ammo) hw (w.fire v.hull tick direction).1
      cases hfire : (w.fire v.hull tick direction).2.2 with
      | error e =>
        rw [hfire] at hammo
        simp only [call, act, firing?, hw, hfire, Option.bind_some, Except.toOption,
          Option.map_none, Option.toList_none, List.map_nil, List.append_nil, List.length_nil,
          Nat.add_zero, Loadout.rounds] at hammo ⊢
        refine ⟨trivial, ?_⟩
        omega
      | ok shot =>
        rw [hfire] at hammo
        simp only [call, act, firing?, hw, hfire, Option.bind_some, Except.toOption,
          Option.map_some, Option.toList_some, List.map_cons, List.map_nil, List.length_cons,
          List.length_nil, Loadout.rounds] at hammo ⊢
        refine ⟨trivial, ?_⟩
        omega

theorem volley_calls (tick : Nat) (world : World α) (cs : List (Call α)) (v : Vessel α) :
    (v.calls tick world cs).shots = v.shots ++ (v.firings tick world cs).map (·.shot) ∧
      (v.calls tick world cs).loadout.rounds + (v.firings tick world cs).length =
        v.loadout.rounds := by
  induction cs generalizing v with
  | nil => exact ⟨(List.append_nil _).symm, rfl⟩
  | cons c rest ih =>
    obtain ⟨hshots, hrounds⟩ := v.volley_call tick world c
    obtain ⟨hlater, hleft⟩ := ih (v.call tick world c).1
    rw [calls, firings]
    refine ⟨?_, ?_⟩
    · rw [hlater, hshots, List.map_append, List.append_assoc]
    · rw [List.length_append]
      omega

theorem of_mem_firings {tick : Nat} {world : World α} {cs : List (Call α)} {v : Vessel α} :
    ∀ f ∈ v.firings tick world cs,
      f.shot.mass = f.weapon.ammoMass ∧ f.shot.radius = f.weapon.ammoRadius := by
  induction cs generalizing v with
  | nil => exact List.forall_mem_nil _
  | cons c rest ih =>
    refine List.forall_mem_append.mpr ⟨fun f hf => ?_, ih⟩
    exact (of_mem_firing? (Option.mem_toList.mp hf)).2

end Vessel

namespace Ship
variable {π : Type} [Pilot α π] (s : Ship α π) (tick : Nat) (world : World α)

/-- What a ship fires in a tick, in the order of firing. -/
def firings : List (Firing α) :=
  s.toVessel.begin.firings tick world (s.commands tick world)

theorem shots_decide : (s.decide tick world).shots =
    s.shots ++ (s.firings tick world).map (·.shot) := by
  rw [toVessel_decide]
  exact (Vessel.volley_calls tick world _ _).1

theorem rounds_decide : (s.decide tick world).loadout.rounds + (s.firings tick world).length =
    s.loadout.rounds := by
  rw [toVessel_decide, ← s.loadout.rounds_release]
  exact (Vessel.volley_calls tick world _ _).2

end Ship
end FleetArena
