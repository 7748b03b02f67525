import FleetArena.Proofs.Lists
import FleetArena.Proofs.Vessel.Handling

/-! How a call to a vessel can end. It finds no part, or a part that has acted before; otherwise the
part is used from then on, whether it refuses the request, finds no energy for it, or carries it
out. -/
namespace FleetArena
variable {α β : Type}

/-- A part of a vessel: its kind, and its place among the parts of that kind. -/
structure Slot where
  kind : PartKind
  index : Nat
deriving Repr, DecidableEq

/-- A part refuses what it cannot do, before it draws any energy. -/
inductive ActionError.IsRefusal : ActionError α → Prop
  | outOfAmmo : IsRefusal .outOfAmmo
  | coolingDown (remaining : Nat) : IsRefusal (.coolingDown remaining)
  | invalidDirection (direction : Vec3 α) : IsRefusal (.invalidDirection direction)
  | invalidPower (fraction : α) : IsRefusal (.invalidPower fraction)

/-- Why an action did not happen, if it did not. -/
def failure? : Except (ActionError α) β → Option (ActionError α)
  | .error e => some e
  | .ok _ => none

def Engine.markUsed (e : Engine α) : Engine α :=
  { e with mount := e.mount.markUsed }

def Thruster.markUsed (t : Thruster α) : Thruster α :=
  { t with mount := t.mount.markUsed }

def Weapon.markUsed (w : Weapon α) : Weapon α :=
  { w with mount := w.mount.markUsed }

/-- A weapon that has fired in a tick. -/
def Weapon.discharged (w : Weapon α) (tick : Nat) : Weapon α :=
  { w with mount := w.mount.markUsed, ammo := w.ammo - 1, lastShot := some tick }

def Sensor.markUsed (s : Sensor α) : Sensor α :=
  { s with mount := s.mount.markUsed }

theorem Engine.markUsed_of_used {e : Engine α} (h : e.mount.used = true) : e.markUsed = e := by
  rw [markUsed, Mount.markUsed_of_used h]

theorem Thruster.markUsed_of_used {t : Thruster α} (h : t.mount.used = true) :
    t.markUsed = t := by
  rw [markUsed, Mount.markUsed_of_used h]

theorem Weapon.markUsed_of_used {w : Weapon α} (h : w.mount.used = true) : w.markUsed = w := by
  rw [markUsed, Mount.markUsed_of_used h]

theorem Sensor.markUsed_of_used {s : Sensor α} (h : s.mount.used = true) : s.markUsed = s := by
  rw [markUsed, Mount.markUsed_of_used h]

namespace Loadout

def mount? (l : Loadout α) : Slot → Option (Mount α)
  | ⟨.engine, i⟩ => l.engines[i]?.map (·.mount)
  | ⟨.thruster, i⟩ => l.thrusters[i]?.map (·.mount)
  | ⟨.weapon, i⟩ => l.weapons[i]?.map (·.mount)
  | ⟨.sensor, i⟩ => l.sensors[i]?.map (·.mount)

/-- Marks one part as used. -/
def claim (l : Loadout α) : Slot → Loadout α
  | ⟨.engine, i⟩ => { l with engines := l.engines.modify i Engine.markUsed }
  | ⟨.thruster, i⟩ => { l with thrusters := l.thrusters.modify i Thruster.markUsed }
  | ⟨.weapon, i⟩ => { l with weapons := l.weapons.modify i Weapon.markUsed }
  | ⟨.sensor, i⟩ => { l with sensors := l.sensors.modify i Sensor.markUsed }

theorem mount?_congr {l l' : Loadout α}
    (hengines : l.engines.map (·.mount) = l'.engines.map (·.mount))
    (hthrusters : l.thrusters.map (·.mount) = l'.thrusters.map (·.mount))
    (hweapons : l.weapons.map (·.mount) = l'.weapons.map (·.mount))
    (hsensors : l.sensors.map (·.mount) = l'.sensors.map (·.mount)) (p : Slot) :
    l.mount? p = l'.mount? p := by
  obtain ⟨kind, i⟩ := p
  cases kind with
  | engine => rw [mount?, mount?, ← List.getElem?_map, hengines, List.getElem?_map]
  | thruster => rw [mount?, mount?, ← List.getElem?_map, hthrusters, List.getElem?_map]
  | weapon => rw [mount?, mount?, ← List.getElem?_map, hweapons, List.getElem?_map]
  | sensor => rw [mount?, mount?, ← List.getElem?_map, hsensors, List.getElem?_map]

/-- Only the part that is claimed has another mount then. -/
theorem mount?_claim (l : Loadout α) (p q : Slot) :
    (l.claim p).mount? q = if p = q then (l.mount? q).map Mount.markUsed else l.mount? q := by
  obtain ⟨kind, i⟩ := p
  obtain ⟨kind', j⟩ := q
  -- another kind or another place is another part
  by_cases hij : i = j
  · subst hij
    cases kind <;> cases kind' <;>
      simp [claim, mount?, Engine.markUsed, Thruster.markUsed, Weapon.markUsed, Sensor.markUsed,
        Function.comp_def]
  · cases kind <;> cases kind' <;> simp [claim, mount?, hij]

/-- A part that is used already is not changed by a claim. -/
theorem claim_of_used {l : Loadout α} {p : Slot} {m : Mount α} (h : l.mount? p = some m)
    (hused : m.used = true) : l.claim p = l := by
  obtain ⟨kind, i⟩ := p
  cases kind with
  | engine =>
    obtain ⟨e, he, rfl⟩ := Option.map_eq_some_iff.mp h
    rw [claim, modify_of_fixed he (Engine.markUsed_of_used hused)]
  | thruster =>
    obtain ⟨t, ht, rfl⟩ := Option.map_eq_some_iff.mp h
    rw [claim, modify_of_fixed ht (Thruster.markUsed_of_used hused)]
  | weapon =>
    obtain ⟨w, hw, rfl⟩ := Option.map_eq_some_iff.mp h
    rw [claim, modify_of_fixed hw (Weapon.markUsed_of_used hused)]
  | sensor =>
    obtain ⟨s, hs, rfl⟩ := Option.map_eq_some_iff.mp h
    rw [claim, modify_of_fixed hs (Sensor.markUsed_of_used hused)]

end Loadout

variable [Scalar α]

/-- How an action can end of a part of a kind, whether it was `used` before or not. If the action
does not happen it leaves the part as `marked`. -/
inductive Hull.Tried (h : Hull α) (kind : PartKind) (used : Bool) (marked : β) :
    Option (ActionError α) → β → Hull α → Prop
  | spent (hused : used = true) : Tried h kind used marked (some (.alreadyUsed kind)) marked h
  | refused (hfree : used = false) {e : ActionError α} (he : e.IsRefusal) :
      Tried h kind used marked (some e) marked h
  | exhausted (hfree : used = false) :
      Tried h kind used marked (some .outOfEnergy) marked { h with energy := 0.0 }
  | done (hfree : used = false) (part : β) (h' : Hull α) : Tried h kind used marked none part h'

theorem Hull.spend_cases (h : Hull α) (amount : α) :
    h.spend amount = ({ h with energy := 0.0 }, .error .outOfEnergy) ∨
      ∃ h', h.spend amount = (h', .ok ()) := by
  rw [spend]
  split
  · exact Or.inl rfl
  · exact Or.inr ⟨_, rfl⟩

theorem Engine.tried_powerOn (e : Engine α) (h : Hull α) (fraction : α) :
    h.Tried .engine e.mount.used e.markUsed (failure? (e.powerOn fraction).2)
      (e.powerOn fraction).1 h := by
  rw [powerOn]
  split
  · rename_i hused
    rw [markUsed_of_used hused]
    exact .spent hused
  rename_i hfree
  rw [Bool.not_eq_true] at hfree
  dsimp only
  split
  · exact .done hfree _ h
  · exact .refused hfree (.invalidPower fraction)

theorem Thruster.tried_thrust (t : Thruster α) (h : Hull α) (direction : Vec3 α) :
    h.Tried .thruster t.mount.used t.markUsed (failure? (t.thrust h direction).2.2)
      (t.thrust h direction).1 (t.thrust h direction).2.1 := by
  rw [thrust]
  split
  · rename_i hused
    rw [markUsed_of_used hused]
    exact .spent hused
  rename_i hfree
  rw [Bool.not_eq_true] at hfree
  dsimp only
  split
  · exact .refused hfree (.invalidDirection direction)
  split
  · exact .done hfree _ h
  · -- from here on it is a matter of energy alone
    rcases h.spend_cases
      (t.energy * Scalar.min (h.body.mass * direction.length) t.force / t.force) with hs | ⟨h', hs⟩
    · rw [hs]
      exact .exhausted hfree
    · rw [hs]
      exact .done hfree _ _

theorem Weapon.tried_fire (w : Weapon α) (h : Hull α) (tick : Nat) (direction : Vec3 α) :
    h.Tried .weapon w.mount.used w.markUsed (failure? (w.fire h tick direction).2.2)
      (w.fire h tick direction).1 (w.fire h tick direction).2.1 := by
  rw [fire]
  split
  · rename_i hused
    rw [markUsed_of_used hused]
    exact .spent hused
  rename_i hfree
  rw [Bool.not_eq_true] at hfree
  dsimp only
  split
  · exact .refused hfree (.invalidDirection direction)
  split
  · exact .refused hfree .outOfAmmo
  split
  · exact .refused hfree (.coolingDown _)
  · rcases h.spend_cases w.energy with hs | ⟨h', hs⟩
    · rw [hs]
      exact .exhausted hfree
    · rw [hs]
      exact .done hfree _ _

/-- An attempt fails and leaves no trace but on the mount, or all is ready and the weapon fires. -/
theorem Weapon.fire_outcome (w : Weapon α) (h : Hull α) (tick : Nat) (direction : Vec3 α) :
    (∃ e, (w.fire h tick direction).2.2 = .error e ∧ (w.fire h tick direction).1 = w.markUsed ∧
        ∀ n, e = .coolingDown n → w.cooldownRemaining? tick = some n) ∨
      ∃ shot, (w.fire h tick direction).2.2 = .ok shot ∧
        (w.fire h tick direction).1 = w.discharged tick ∧ w.mount.used = false ∧ w.ammo ≠ 0 ∧
        w.cooldownRemaining? tick = none := by
  rw [fire]
  split
  · rename_i hused
    exact Or.inl ⟨_, rfl, (markUsed_of_used hused).symm, fun n hn => by cases hn⟩
  rename_i hfree
  dsimp only
  split
  · exact Or.inl ⟨_, rfl, rfl, fun n hn => by cases hn⟩
  split
  · exact Or.inl ⟨_, rfl, rfl, fun n hn => by cases hn⟩
  rename_i hammo
  split
  · rename_i remaining hcool
    refine Or.inl ⟨_, rfl, rfl, fun n hn => ?_⟩
    obtain rfl := ActionError.coolingDown.inj hn
    exact hcool
  rename_i hcool
  -- now it is a matter of energy alone
  rcases h.spend_cases w.energy with hs | ⟨h', hs⟩
  · rw [hs]
    exact Or.inl ⟨_, rfl, rfl, fun n hn => by cases hn⟩
  · rw [hs]
    exact Or.inr ⟨_, rfl, rfl, Bool.not_eq_true _ ▸ hfree, hammo, hcool⟩

theorem Sensor.tried_scan (s : Sensor α) (h : Hull α) (world : World α) :
    h.Tried .sensor s.mount.used s.markUsed (failure? (s.scan h world).2.2)
      (s.scan h world).1 (s.scan h world).2.1 := by
  rw [scan]
  split
  · rename_i hused
    rw [markUsed_of_used hused]
    exact .spent hused
  rename_i hfree
  rw [Bool.not_eq_true] at hfree
  dsimp only
  rcases h.spend_cases s.energy with hs | ⟨h', hs⟩
  · rw [hs]
    exact .exhausted hfree
  · rw [hs]
    exact .done hfree _ _

theorem Weapon.mount_fire (w : Weapon α) (h : Hull α) (tick : Nat) (direction : Vec3 α) :
    (w.fire h tick direction).1.mount = w.mount.markUsed := by
  rcases w.fire_cases h tick direction with ⟨hw, -⟩ | ⟨-, hw, -⟩
  · rw [hw]
  · rw [hw]

/-- The part that a call is about. -/
def Call.slot : Call α → Slot
  | .act (.powerOn i _) => ⟨.engine, i⟩
  | .act (.thrust i _) => ⟨.thruster, i⟩
  | .act (.fire i _) => ⟨.weapon, i⟩
  | .scan i => ⟨.sensor, i⟩

namespace Vessel

/-- Why a call fails, if it does. -/
def failure? (v : Vessel α) (tick : Nat) (world : World α) : Call α → Option (ActionError α)
  | .act action => FleetArena.failure? (v.act tick action).2
  | .scan i => FleetArena.failure? (v.scan world i).2

omit [Scalar α] in
/-- A vessel with one part marked as used. -/
def claim (v : Vessel α) (p : Slot) : Vessel α :=
  { v with loadout := v.loadout.claim p }

/-- How a call can end that is about the part at `p`: for what reason it fails, if it does, and what
the vessel is then. -/
inductive Ends (v : Vessel α) (p : Slot) : Option (ActionError α) → Vessel α → Prop
  | missing (h : v.loadout.mount? p = none) : Ends v p (some (.noSuchPart p.kind p.index)) v
  | spent {m : Mount α} (h : v.loadout.mount? p = some m) (hused : m.used = true) :
      Ends v p (some (.alreadyUsed p.kind)) v
  | refused {m : Mount α} (h : v.loadout.mount? p = some m) (hfree : m.used = false)
      {e : ActionError α} (he : e.IsRefusal) : Ends v p (some e) (v.claim p)
  | exhausted {m : Mount α} (h : v.loadout.mount? p = some m) (hfree : m.used = false) :
      Ends v p (some .outOfEnergy) { v.claim p with hull := { v.hull with energy := 0.0 } }
  | done {m : Mount α} (h : v.loadout.mount? p = some m) (hfree : m.used = false) {w : Vessel α}
      (hmounts : ∀ q, w.loadout.mount? q = (v.loadout.claim p).mount? q) : Ends v p none w

variable {v : Vessel α} {i : Nat}

/-- What a part makes of an action is what the vessel makes of the call. -/
theorem Ends.of_tried {p : Slot} {part marked : β} {m : Mount α} (put : β → Loadout α)
    {hull : Hull α} {failure : Option (ActionError α)} {shots : List (Shot α)}
    (h : v.loadout.mount? p = some m) (hmarked : put marked = v.loadout.claim p)
    (hmounts : ∀ q, (put part).mount? q = (v.loadout.claim p).mount? q)
    (htried : v.hull.Tried p.kind m.used marked failure part hull)
    (hshots : failure ≠ none → shots = v.shots) : v.Ends p failure ⟨hull, put part, shots⟩ := by
  cases htried with
  | spent hused =>
    rw [hmarked, hshots (by simp), Loadout.claim_of_used h hused]
    exact .spent h hused
  | refused hfree he =>
    rw [hmarked, hshots (by simp)]
    exact .refused h hfree he
  | exhausted hfree =>
    rw [hmarked, hshots (by simp)]
    exact .exhausted h hfree
  | done hfree => exact .done h hfree hmounts

theorem ends_powerOn {e : Engine α} (h : v.loadout.engines[i]? = some e) (fraction : α) :
    v.Ends ⟨.engine, i⟩ (FleetArena.failure? (e.powerOn fraction).2)
      { v with loadout := { v.loadout with
        engines := v.loadout.engines.set i (e.powerOn fraction).1 } } := by
  -- the loadout with another engine in the place of this one
  let put (e' : Engine α) : Loadout α :=
    { v.loadout with engines := v.loadout.engines.set i e' }
  have hmount : v.loadout.mount? ⟨.engine, i⟩ = some e.mount :=
    Option.map_eq_some_iff.mpr ⟨e, h, rfl⟩
  have hmarked : put e.markUsed = v.loadout.claim ⟨.engine, i⟩ := by
    simp only [put, set_eq_modify h, Loadout.claim]
  have hmounts := map_set_eq_map_modify (g := Engine.mount) (f := Engine.markUsed) h
    (e.mount_powerOn fraction)
  exact .of_tried put hmount hmarked (Loadout.mount?_congr hmounts rfl rfl rfl)
    (e.tried_powerOn v.hull fraction) fun _ => rfl

theorem ends_thrust {t : Thruster α} (h : v.loadout.thrusters[i]? = some t) (d : Vec3 α) :
    v.Ends ⟨.thruster, i⟩ (FleetArena.failure? (t.thrust v.hull d).2.2)
      { v with
        hull := (t.thrust v.hull d).2.1
        loadout := { v.loadout with
          thrusters := v.loadout.thrusters.set i (t.thrust v.hull d).1 } } := by
  let put (t' : Thruster α) : Loadout α :=
    { v.loadout with thrusters := v.loadout.thrusters.set i t' }
  have hmount : v.loadout.mount? ⟨.thruster, i⟩ = some t.mount :=
    Option.map_eq_some_iff.mpr ⟨t, h, rfl⟩
  have hmarked : put t.markUsed = v.loadout.claim ⟨.thruster, i⟩ := by
    simp only [put, set_eq_modify h, Loadout.claim]
  have hmounts := map_set_eq_map_modify (g := Thruster.mount) (f := Thruster.markUsed) h
    (congrArg Thruster.mount (t.fst_thrust v.hull d))
  exact .of_tried put hmount hmarked (Loadout.mount?_congr rfl hmounts rfl rfl)
    (t.tried_thrust v.hull d) fun _ => rfl

theorem ends_fire {w : Weapon α} (h : v.loadout.weapons[i]? = some w) (tick : Nat) (d : Vec3 α)
    (shots : List (Shot α))
    (hshots : FleetArena.failure? (w.fire v.hull tick d).2.2 ≠ none → shots = v.shots) :
    v.Ends ⟨.weapon, i⟩ (FleetArena.failure? (w.fire v.hull tick d).2.2)
      { hull := (w.fire v.hull tick d).2.1
        loadout := { v.loadout with
          weapons := v.loadout.weapons.set i (w.fire v.hull tick d).1 }
        shots } := by
  let put (w' : Weapon α) : Loadout α :=
    { v.loadout with weapons := v.loadout.weapons.set i w' }
  have hmount : v.loadout.mount? ⟨.weapon, i⟩ = some w.mount :=
    Option.map_eq_some_iff.mpr ⟨w, h, rfl⟩
  have hmarked : put w.markUsed = v.loadout.claim ⟨.weapon, i⟩ := by
    simp only [put, set_eq_modify h, Loadout.claim]
  have hmounts := map_set_eq_map_modify (g := Weapon.mount) (f := Weapon.markUsed) h
    (w.mount_fire v.hull tick d)
  exact .of_tried put hmount hmarked (Loadout.mount?_congr rfl rfl hmounts rfl)
    (w.tried_fire v.hull tick d) hshots

theorem ends_scan {s : Sensor α} (h : v.loadout.sensors[i]? = some s) (world : World α) :
    v.Ends ⟨.sensor, i⟩ (FleetArena.failure? (s.scan v.hull world).2.2)
      { v with
        hull := (s.scan v.hull world).2.1
        loadout := { v.loadout with
          sensors := v.loadout.sensors.set i (s.scan v.hull world).1 } } := by
  let put (s' : Sensor α) : Loadout α :=
    { v.loadout with sensors := v.loadout.sensors.set i s' }
  have hmount : v.loadout.mount? ⟨.sensor, i⟩ = some s.mount :=
    Option.map_eq_some_iff.mpr ⟨s, h, rfl⟩
  have hmarked : put s.markUsed = v.loadout.claim ⟨.sensor, i⟩ := by
    simp only [put, set_eq_modify h, Loadout.claim]
  have hmounts := map_set_eq_map_modify (g := Sensor.mount) (f := Sensor.markUsed) h
    (congrArg Sensor.mount (s.fst_scan v.hull world))
  exact .of_tried put hmount hmarked (Loadout.mount?_congr rfl rfl rfl hmounts)
    (s.tried_scan v.hull world) fun _ => rfl

theorem ends_call (v : Vessel α) (tick : Nat) (world : World α) (c : Call α) :
    v.Ends c.slot (v.failure? tick world c) (v.call tick world c).1 := by
  match c with
  | .act (.powerOn i fraction) =>
    cases h : v.loadout.engines[i]? with
    | none => simpa only [call, failure?, act, h] using .missing (Option.map_eq_none_iff.mpr h)
    | some e => simpa only [Call.slot, call, failure?, act, h] using ends_powerOn h fraction
  | .act (.thrust i d) =>
    cases h : v.loadout.thrusters[i]? with
    | none => simpa only [call, failure?, act, h] using .missing (Option.map_eq_none_iff.mpr h)
    | some t => simpa only [Call.slot, call, failure?, act, h] using ends_thrust h d
  | .act (.fire i d) =>
    cases h : v.loadout.weapons[i]? with
    | none => simpa only [call, failure?, act, h] using .missing (Option.map_eq_none_iff.mpr h)
    | some w =>
      simp only [call, failure?, act, h]
      -- only a shot that happens joins those that were fired before
      cases hr : (w.fire v.hull tick d).2.2 with
      | error e =>
        have hends := ends_fire h tick d v.shots fun _ => rfl
        rwa [hr] at hends
      | ok shot =>
        have hends := ends_fire h tick d (v.shots ++ [shot]) fun hne => by
          rw [hr] at hne
          exact absurd rfl hne
        rwa [hr] at hends
  | .scan i =>
    cases h : v.loadout.sensors[i]? with
    | none => simpa only [call, failure?, scan, h] using .missing (Option.map_eq_none_iff.mpr h)
    | some s => simpa only [Call.slot, call, failure?, scan, h] using ends_scan h world

end Vessel
end FleetArena
