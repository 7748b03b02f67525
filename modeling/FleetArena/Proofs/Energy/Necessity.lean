import FleetArena.Proofs.Energy.Balance

/-! A ledger that stays balanced whatever is called shows that no part asks for less than nothing:
every part can be called, and every engine be the only one that runs. -/
namespace FleetArena
open Exact

namespace Vessel
variable {α : Type} [Scalar α]

theorem Reached.calls {v : Vessel α} {tick : Nat} {world : World α} {s : Tally α}
    (h : v.Reached tick world s) (cs : List (Call α)) :
    ∃ t, v.Reached tick world t ∧ t.vessel = s.vessel.calls tick world cs := by
  induction cs generalizing s with
  | nil => exact ⟨s, h, rfl⟩
  | cons c rest ih => exact ih (h.call c)

theorem getElem?_engines_powerOn (tick : Nat) (v : Vessel α) (i k : ℕ) (fraction : α) :
    (v.act tick (.powerOn i fraction)).1.loadout.engines[k]? =
      v.loadout.engines[k]?.map fun e => if k = i then (e.powerOn fraction).1 else e := by
  cases h : v.loadout.engines[i]? with
  | none =>
    simp only [act, h]
    by_cases hk : k = i
    · simp [hk, h]
    · simp [hk]
  | some e =>
    simp only [act, h, List.getElem?_set]
    by_cases hk : k = i
    · obtain ⟨hi, he⟩ := List.getElem?_eq_some_iff.mp h
      simp [hk, hi, he]
    · simp [hk, Ne.symm hk]

theorem getElem?_engines_powerCalls (tick : Nat) (world : World α) (f : ℕ → α) (n : ℕ)
    (v : Vessel α) (k : ℕ) :
    (v.calls tick world (powerCalls f n)).loadout.engines[k]? =
      v.loadout.engines[k]?.map fun e => if k < n then (e.powerOn (f k)).1 else e := by
  induction n with
  | zero => simp [powerCalls, calls]
  | succ n ih =>
    -- the last of the calls sets the last engine and leaves the others as they were set
    rw [powerCalls, List.range_succ, List.map_append, calls_append, ← powerCalls]
    have hlast := getElem?_engines_powerOn tick (v.calls tick world (powerCalls f n)) n k (f n)
    rw [ih, Option.map_map] at hlast
    refine hlast.trans (congrArg (fun g => v.loadout.engines[k]?.map g) (funext fun e => ?_))
    by_cases hk : k = n
    · simp [hk]
    · have hlt : k < n + 1 ↔ k < n := by omega
      simp only [Function.comp_apply, hk, if_false, hlt]

/-- The power of a tick before which every engine was set to a fraction of its own. -/
theorem power_resume_powerCalls (tick : Nat) (world : World α) (v : Vessel α) {f : ℕ → α}
    (hf : ∀ k, 0.0 ≤ f k ∧ f k ≤ 1.0) (hready : ∀ e ∈ v.loadout.engines, e.mount.used = false)
    (position velocity : Vec3 α) (health : α) :
    ((v.calls tick world (powerCalls f v.loadout.engines.length)).resume position velocity
      health).hull.energy =
      Scalar.sum ((v.loadout.engines.map (·.capacity)).mapIdx fun k c => c * f k) := by
  have houtput (e : Engine α) (k : ℕ) (he : e.mount.used = false) :
      (e.powerOn (f k)).1.output = e.capacity * f k := by
    rw [Engine.powerOn, he, if_neg Bool.false_ne_true, if_pos (hf k)]
  change Scalar.sum _ = _
  congr 1
  apply List.ext_getElem?
  intro k
  have hk := getElem?_engines_powerCalls tick world f v.loadout.engines.length v k
  have hreleased : (((v.calls tick world (powerCalls f v.loadout.engines.length)).resume position
      velocity health).loadout.engines.map (·.output))[k]? = (v.calls tick world
      (powerCalls f v.loadout.engines.length)).loadout.engines[k]?.map (·.output) := by
    simp only [resume, begin, energize, Loadout.release, List.getElem?_map, Option.map_map]
    rfl
  apply hreleased.trans
  rw [hk, Option.map_map, List.getElem?_mapIdx, List.getElem?_map, Option.map_map]
  cases he : v.loadout.engines[k]? with
  | none => rfl
  | some e =>
    obtain ⟨hlt, rfl⟩ := List.getElem?_eq_some_iff.mp he
    simp only [Option.map_some, Function.comp_apply, if_pos hlt,
      houtput _ k (hready _ (List.getElem_mem hlt))]

end Vessel

namespace Exact

/-- A sum of which a term is no number is no number. -/
theorem sum_of_nan_mem {xs : List Exact} (h : nan ∈ xs) : Scalar.sum xs = nan := by
  have hnan (xs : List Exact) : xs.foldl (· + ·) nan = nan := by
    induction xs with
    | nil => rfl
    | cons a rest ih => exact ih
  have hfold (a : Exact) : xs.foldl (· + ·) a = nan := by
    induction xs generalizing a with
    | nil => cases h
    | cons b rest ih =>
      rcases List.mem_cons.mp h with rfl | hrest
      · have hadd : a + nan = nan := by cases a <;> rfl
        rw [List.foldl_cons, hadd, hnan]
      · exact ih hrest _
  exact hfold _

theorem isFinite_of_mul_zero {a : Exact} (h : a * real 0 ≠ nan) : Scalar.isFinite a = true := by
  have hsigned : signed 0 = nan := (if_neg (lt_irrefl _)).trans (if_neg (lt_irrefl _))
  cases a with
  | real x => simp
  | posInf => exact absurd hsigned h
  | negInf => exact absurd ((congrArg signed neg_zero).trans hsigned) h
  | nan => exact absurd rfl h

/-- A sum in which every term but one is multiplied by zero. -/
theorem sum_mapIdx_single (xs : List ℝ) (i : ℕ) :
    (xs.mapIdx fun k x => x * if k = i then 1 else 0).sum = (xs[i]?).getD 0 := by
  induction xs generalizing i with
  | nil => simp
  | cons x rest ih =>
    rw [List.mapIdx_cons, List.sum_cons]
    cases i with
    | zero => simp [List.mapIdx_eq_zipIdx_map]
    | succ i => simpa using ih i

end Exact

/-- No weapon cools down beyond the last tick. -/
theorem Weapon.cooldownRemaining?_lastTick {α : Type} (w : Weapon α) :
    w.cooldownRemaining? lastTick = none := by
  rw [cooldownRemaining?]
  cases w.lastShot with
  | none => rfl
  | some shot => exact if_neg (Nat.min_le_left _ _).not_gt

/-- The first axis is a direction. -/
theorem Vec3.unitX_direction : (unitX : Vec3 Exact).isFinite = true ∧
    ∃ u, (unitX : Vec3 Exact).normalize? = some u := by
  have hlength : (unitX : Vec3 Exact).length = real 1 := by
    simp [length, lengthSquared, dot, unitX]
  have hinverse : (1.0 : Exact) / real 1 = real 1 := by simp
  refine ⟨by simp [isFinite, unitX], (unitX : Vec3 Exact) * real 1, ?_⟩
  rw [normalize?, hlength, hinverse]
  simp

namespace Vessel
variable {v : Vessel Exact}

/-- A vessel at the start of a tick, wherever that finds it. -/
noncomputable def fresh (v : Vessel Exact) : Vessel Exact :=
  v.resume .zero .zero (real 0)

theorem reached_fresh (v : Vessel Exact) (tick : ℕ) : v.Reached tick {} ⟨v.fresh, 0.0⟩ :=
  .first tick {} .zero .zero (real 0)

/-- The power that a lawful vessel has when each of its engines runs at a fraction. -/
theorem Lawful.power_nonneg (h : v.Lawful) {f : ℕ → Exact} (hf : ∀ k, 0.0 ≤ f k ∧ f k ≤ 1.0) :
    real 0 ≤ Scalar.sum ((v.loadout.engines.map (·.capacity)).mapIdx fun k c => c * f k) := by
  -- the engines are set in one tick and give their power in the next one
  obtain ⟨s, hs, hvessel⟩ :=
    (v.reached_fresh 0).calls (powerCalls f v.loadout.engines.length)
  have hnext := (h _ _ _ (hs.next 0 {} .zero .zero (real 0))).1.1
  have hready : ∀ e ∈ v.fresh.loadout.engines, e.mount.used = false :=
    List.forall_mem_map.mpr fun _ _ => rfl
  have hlength : v.fresh.loadout.engines.length = v.loadout.engines.length := List.length_map _
  have hsame : v.fresh.loadout.engines.map (·.capacity) = v.loadout.engines.map (·.capacity) :=
    List.map_map
  have hpower := power_resume_powerCalls 0 {} v.fresh hf hready .zero .zero (real 0)
  rw [hlength, ← hvessel, hsame] at hpower
  rwa [hpower, zero_eq] at hnext

/-- A finite budget shows of every call that it does not ask for less than nothing. -/
theorem Lawful.price_nonneg (h : v.Lawful) {tick : ℕ} {world : World Exact} {s : Tally Exact}
    {total : ℝ} (hs : v.Reached tick world s) (henergy : s.vessel.hull.energy = real total)
    (htotal : s.vessel.hull.totalEnergy = real total) {c : Call Exact} {p : Exact}
    (hp : s.vessel.price? tick c = some p) : real 0 ≤ p := by
  obtain ⟨⟨hstart, -⟩, -⟩ := h _ _ _ hs
  obtain ⟨⟨hlow, hhigh⟩, -⟩ := h _ _ _ (hs.call c)
  have hkept := (s.vessel.keeps_call tick world c).totalEnergy
  have hcharged := s.vessel.charged_call tick world c
  rw [henergy, zero_eq, real_le] at hstart
  simp only [Tally.call] at hlow hhigh
  rw [hkept, htotal] at hhigh
  rw [hp] at hcharged
  generalize (s.vessel.call tick world c).2 = ok at hcharged
  generalize (s.vessel.call tick world c).1.hull = hull at hcharged hlow hhigh
  cases hcharged with
  | refused hlt =>
    -- a full budget is overdrawn only by what takes more than nothing
    rw [henergy, zero_eq] at hlt
    cases p with
    | real x =>
      rw [real_sub, real_lt] at hlt
      rw [real_le]
      linarith
    | posInf => simp
    | negInf => simp at hlt
    | nan => simp at hlt
  | paid hle velocity mass =>
    -- what gives energy would leave more than the budget
    simp only [henergy, zero_eq] at hlow hhigh
    cases p with
    | real x =>
      rw [real_sub, real_le] at hhigh
      rw [real_le]
      linarith
    | posInf => simp at hlow
    | negInf => simp at hhigh
    | nan => simp at hlow

theorem fraction_zero : (0.0 : Exact) ≤ real 0 ∧ real 0 ≤ (1.0 : Exact) := by
  simp

theorem fraction_one : (0.0 : Exact) ≤ real 1 ∧ real 1 ≤ (1.0 : Exact) := by
  simp

/-- With all engines off, one of which the capacity is not finite would spoil the sum. -/
theorem Lawful.isFinite_capacity (h : v.Lawful) :
    ∀ c ∈ v.loadout.engines.map (·.capacity), Scalar.isFinite c = true := by
  intro c hc
  obtain ⟨k, hk, rfl⟩ := List.getElem_of_mem hc
  apply isFinite_of_mul_zero
  intro hnan
  have hpower := h.power_nonneg fun _ => fraction_zero
  rw [sum_of_nan_mem (List.mem_mapIdx.mpr ⟨k, hk, hnan⟩)] at hpower
  simp at hpower

/-- With only one engine on, the sum is its capacity. -/
theorem Lawful.capacity_nonneg (h : v.Lawful) {capacities : List ℝ}
    (hcapacities : v.loadout.engines.map (·.capacity) = capacities.map real) :
    ∀ x ∈ capacities, 0 ≤ x := by
  intro x hx
  obtain ⟨i, hi, rfl⟩ := List.getElem_of_mem hx
  have hfraction (k : ℕ) : (0.0 : Exact) ≤ (if k = i then real 1 else real 0) ∧
      (if k = i then real 1 else real 0) ≤ (1.0 : Exact) := by
    split
    · exact fraction_one
    · exact fraction_zero
  have hreal : ((capacities.map real).mapIdx fun k c => c * if k = i then real 1 else real 0) =
      (capacities.mapIdx fun k x => x * if k = i then 1 else 0).map real := by
    apply List.ext_getElem?
    intro k
    simp only [List.getElem?_mapIdx, List.getElem?_map, Option.map_map]
    congr 1
    funext x
    by_cases hk : k = i <;> simp [hk]
  have hpower := h.power_nonneg hfraction
  rwa [hcapacities, hreal, sum_map_real, sum_mapIdx_single, List.getElem?_eq_getElem hi,
    Option.getD_some, real_le] at hpower

theorem Lawful.capacity (h : v.Lawful) :
    ∀ e ∈ v.loadout.engines, Scalar.isFinite e.capacity = true ∧ 0.0 ≤ e.capacity := by
  intro e he
  obtain ⟨capacities, hcapacities⟩ := exists_map_real h.isFinite_capacity
  have hmem : e.capacity ∈ capacities.map real := by
    rw [← hcapacities]
    exact List.mem_map_of_mem he
  obtain ⟨x, hx, hex⟩ := List.mem_map.mp hmem
  rw [← hex, zero_eq, real_le]
  exact ⟨isFinite_real, h.capacity_nonneg hcapacities x hx⟩

/-- No call of the last tick asks for less than nothing. -/
theorem Lawful.price_fresh_nonneg (h : v.Lawful) (hs : v.loadout.Sound v.hull.body.mass)
    {c : Call Exact} {p : Exact} (hp : v.fresh.price? lastTick c = some p) : real 0 ≤ p := by
  have hfinite : ∀ e ∈ v.loadout.release.engines, Scalar.isFinite e.capacity = true :=
    List.forall_mem_map.mpr fun e he => (h.capacity e he).1
  obtain ⟨outputs, -, hpower⟩ := hs.release.power_eq hfinite
  exact h.price_nonneg (v.reached_fresh lastTick) hpower hpower hp

theorem Lawful.thrust (h : v.Lawful) (hs : v.loadout.Sound v.hull.body.mass) :
    ∀ t ∈ v.loadout.thrusters, 0.0 ≤ t.energy := by
  intro t ht
  obtain ⟨i, hi, rfl⟩ := List.getElem_of_mem ht
  obtain ⟨f, hf, hforce⟩ := hs.force _ ht
  obtain ⟨m, hm, hmass⟩ := hs.laden.mass_pos
  obtain ⟨hunit, u, hu⟩ := Vec3.unitX_direction
  have hget : v.fresh.loadout.thrusters[i]? = some v.loadout.thrusters[i].release := by
    simp [fresh, resume, begin, energize, Loadout.release, hi]
  have hheavy : v.fresh.hull.body.mass = real m := hmass
  have hrated : v.loadout.thrusters[i].release.force = real f := hforce
  have hthrust : ∃ p, v.loadout.thrusters[i].release.price? v.fresh.hull .unitX = some p := by
    rw [Thruster.price?, hunit, hu]
    exact ⟨_, rfl⟩
  obtain ⟨p, hp⟩ := hthrust
  obtain ⟨g, hg, hpg⟩ := Thruster.price_eq hm hheavy hf hrated hp
  have hnonneg : real 0 ≤ p := by
    apply h.price_fresh_nonneg hs (c := .act (.thrust i .unitX))
    rw [price?, hget]
    exact hp
  rw [hpg, nonneg_scale_iff hg hf] at hnonneg
  rw [zero_eq]
  exact hnonneg

theorem Lawful.shot (h : v.Lawful) (hs : v.loadout.Sound v.hull.body.mass) :
    ∀ w ∈ v.loadout.weapons, w.ammo = 0 ∨ 0.0 ≤ w.energy := by
  intro w hw
  obtain ⟨i, hi, rfl⟩ := List.getElem_of_mem hw
  obtain ⟨hunit, u, hu⟩ := Vec3.unitX_direction
  have hget : v.fresh.loadout.weapons[i]? = some v.loadout.weapons[i].release := by
    simp [fresh, resume, begin, energize, Loadout.release, hi]
  by_cases hammo : v.loadout.weapons[i].ammo = 0
  · exact Or.inl hammo
  · apply Or.inr
    rw [zero_eq]
    apply h.price_fresh_nonneg hs (c := .act (.fire i .unitX))
    -- in the last tick every weapon has cooled down
    have hready := v.loadout.weapons[i].release.cooldownRemaining?_lastTick
    rw [price?, hget, Option.bind_some, Weapon.price?, hready, Vec3.direction?, hunit, if_pos rfl,
      hu]
    simp [Weapon.release, Mount.release, hammo]

theorem Lawful.scan (h : v.Lawful) (hs : v.loadout.Sound v.hull.body.mass) :
    ∀ s ∈ v.loadout.sensors, 0.0 ≤ s.energy := by
  intro s hsensor
  obtain ⟨i, hi, rfl⟩ := List.getElem_of_mem hsensor
  have hget : v.fresh.loadout.sensors[i]? = some v.loadout.sensors[i].release := by
    simp [fresh, resume, begin, energize, Loadout.release, hi]
  rw [zero_eq]
  apply h.price_fresh_nonneg hs (c := .scan i)
  rw [price?, hget]
  rfl

/-- A lawful vessel can neither give nor take less than nothing. -/
theorem Lawful.chargeable (h : v.Lawful) (hs : v.loadout.Sound v.hull.body.mass) :
    v.loadout.Chargeable :=
  ⟨h.capacity, h.thrust hs, h.shot hs, h.scan hs⟩

end Vessel
end FleetArena
