import FleetArena.Proofs.Energy.Necessity
import FleetArena.Proofs.Vessel.Steering

/-! How the engines of a vessel are set. A setting that succeeds lasts until the next one does, over
any number of ticks, and the budget of a tick is made up of the settings of the ticks before. -/
namespace FleetArena
variable {α : Type} [Scalar α]

/-- A tick of a vessel: how the vessel is found at its start, and what is asked of it. -/
structure Watch (α : Type) where
  tick : Nat
  world : World α
  position : Vec3 α
  velocity : Vec3 α
  health : α
  requests : List (Request α)

/-- The fraction to which an attempt has set an engine, if it has. -/
def Attempt.setting? {α : Type} (i : Nat) (a : Attempt α) : Option α :=
  match a.call, a.failure with
  | .act (.powerOn k fraction), none => if k = i then some fraction else none
  | _, _ => none

/-- The fraction to which an engine has been set last. -/
def lastSetting? {α : Type} (i : Nat) (as : List (Attempt α)) : Option α :=
  (as.filterMap (·.setting? i)).getLast?

theorem lastSetting?_append {α : Type} (i : Nat) (as bs : List (Attempt α)) :
    lastSetting? i (as ++ bs) = (lastSetting? i bs).or (lastSetting? i as) := by
  rw [lastSetting?, List.filterMap_append, List.getLast?_append]
  rfl

theorem lastSetting?_singleton {α : Type} (i : Nat) (a : Attempt α) :
    lastSetting? i [a] = a.setting? i := by
  rw [lastSetting?, List.filterMap_cons]
  cases a.setting? i <;> rfl

/-- The output of an engine that has been set to a fraction, or has not been set. -/
def Engine.outputAt (e : Engine α) (fraction : Option α) : α :=
  fraction.elim e.output (e.capacity * ·)

theorem Engine.powerOn_cases (e : Engine α) (fraction : α) :
    ((e.powerOn fraction).2 = .ok () ∧ 0.0 ≤ fraction ∧ fraction ≤ 1.0 ∧
        (e.powerOn fraction).1.output = e.capacity * fraction) ∨
      ∃ error, (e.powerOn fraction).2 = .error error ∧
        (e.powerOn fraction).1.output = e.output := by
  rw [powerOn]
  split
  · exact Or.inr ⟨_, rfl, rfl⟩
  dsimp only
  split
  · rename_i hfraction
    exact Or.inl ⟨rfl, hfraction.1, hfraction.2, rfl⟩
  · exact Or.inr ⟨_, rfl, rfl⟩

/-- A fraction that is out of range is refused, and the engine runs on as before. -/
theorem Engine.powerOn_of_rejected (e : Engine α) {fraction : α}
    (h : ¬(0.0 ≤ fraction ∧ fraction ≤ 1.0)) :
    (∃ error, (e.powerOn fraction).2 = .error error) ∧
      (e.powerOn fraction).1.output = e.output := by
  rcases e.powerOn_cases fraction with ⟨-, hlow, hhigh, -⟩ | ⟨error, herror, houtput⟩
  · exact absurd ⟨hlow, hhigh⟩ h
  · exact ⟨⟨error, herror⟩, houtput⟩

namespace Vessel
variable {u v w : Vessel α} {as bs : List (Attempt α)} {i : Nat} {e : Engine α}

/-- The engines of `w` are those of `v` after the attempts `as`. -/
structure Throttled (v w : Vessel α) (as : List (Attempt α)) : Prop where
  length : w.loadout.engines.length = v.loadout.engines.length
  engine {i : Nat} {e : Engine α} : v.loadout.engines[i]? = some e →
    ∃ e' : Engine α, w.loadout.engines[i]? = some e' ∧ e'.capacity = e.capacity ∧
      e'.output = e.outputAt (lastSetting? i as)

theorem Throttled.refl (v : Vessel α) : v.Throttled v [] :=
  ⟨rfl, fun he => ⟨_, he, rfl, rfl⟩⟩

/-- Later settings come before earlier ones. -/
theorem Throttled.trans (h : u.Throttled v as) (h' : v.Throttled w bs) :
    u.Throttled w (as ++ bs) := by
  refine ⟨h'.length.trans h.length, fun {i e} he => ?_⟩
  obtain ⟨e₁, he₁, hcapacity₁, houtput₁⟩ := h.engine he
  obtain ⟨e₂, he₂, hcapacity₂, houtput₂⟩ := h'.engine he₁
  refine ⟨e₂, he₂, hcapacity₂.trans hcapacity₁, ?_⟩
  rw [houtput₂, lastSetting?_append, Engine.outputAt]
  cases lastSetting? i bs with
  | none => exact houtput₁
  | some fraction => exact congrArg (· * fraction) hcapacity₁

/-- The start of a tick makes no difference to the outputs. -/
theorem throttled_resume (v : Vessel α) (position velocity : Vec3 α) (health : α) :
    v.Throttled (v.resume position velocity health) [] := by
  refine ⟨List.length_map _, fun {i e} he => ⟨e.release, ?_, rfl, rfl⟩⟩
  exact (List.getElem?_map ..).trans (congrArg (Option.map Engine.release) he)

theorem throttled_of_engines_eq (h : w.loadout.engines = v.loadout.engines)
    (has : ∀ i, lastSetting? i as = none) : v.Throttled w as := by
  refine ⟨congrArg List.length h, fun {i e} he => ⟨e, h ▸ he, rfl, ?_⟩⟩
  rw [has]
  rfl

theorem throttled_call (v : Vessel α) (tick : Nat) (world : World α) (c : Call α) :
    v.Throttled (v.call tick world c).1
      [⟨v, c, v.failure? tick world c, (v.call tick world c).1⟩] := by
  match c with
  | .act (.powerOn k fraction) =>
    refine ⟨v.length_engines_call tick world _, fun {i e} he => ?_⟩
    have hcall := getElem?_engines_powerOn tick v k i fraction
    rw [he, Option.map_some] at hcall
    refine ⟨_, hcall, ?_⟩
    rw [lastSetting?_singleton]
    by_cases hik : i = k
    · subst hik
      rw [if_pos rfl]
      refine ⟨e.capacity_powerOn fraction, ?_⟩
      rcases e.powerOn_cases fraction with ⟨hok, -, -, houtput⟩ | ⟨error, herror, houtput⟩
      · simp [Attempt.setting?, failure?, act, he, hok, FleetArena.failure?, houtput,
          Engine.outputAt]
      · simp [Attempt.setting?, failure?, act, he, herror, FleetArena.failure?, houtput,
          Engine.outputAt]
    · -- the setting is that of another engine
      have hother : Attempt.setting? i ⟨v, .act (.powerOn k fraction),
          v.failure? tick world (.act (.powerOn k fraction)),
          (v.call tick world (.act (.powerOn k fraction))).1⟩ = none := by
        rw [Attempt.setting?]
        split
        · rename_i hcall _
          cases hcall
          exact if_neg (Ne.symm hik)
        · rfl
      rw [if_neg hik, hother]
      exact ⟨rfl, rfl⟩
  | .act (.thrust k direction) =>
    refine throttled_of_engines_eq ?_ fun _ => rfl
    simp only [call, act]
    split <;> rfl
  | .act (.fire k direction) =>
    refine throttled_of_engines_eq ?_ fun _ => rfl
    simp only [call, act]
    split
    · rfl
    · split <;> rfl
  | .scan k =>
    refine throttled_of_engines_eq ?_ fun _ => rfl
    simp only [call, scan]
    split <;> rfl

theorem throttled_calls (tick : Nat) (world : World α) (cs : List (Call α)) (v : Vessel α) :
    v.Throttled (v.calls tick world cs) (v.attempts tick world cs) := by
  induction cs generalizing v with
  | nil => exact .refl v
  | cons c rest ih => exact (v.throttled_call tick world c).trans (ih _)

/-- A vessel after one tick. -/
def watch (v : Vessel α) (t : Watch α) : Vessel α :=
  t.requests.foldl (request t.tick t.world) (v.resume t.position t.velocity t.health)

/-- What came of the calls of a tick. -/
def log (v : Vessel α) (t : Watch α) : List (Attempt α) :=
  (v.resume t.position t.velocity t.health).attempts t.tick t.world
    (t.requests.flatMap (·.calls v.loadout.engines.length))

/-- A vessel after some ticks. -/
def watches (ts : List (Watch α)) (v : Vessel α) : Vessel α :=
  ts.foldl watch v

/-- What came of the calls of some ticks. -/
def history : List (Watch α) → Vessel α → List (Attempt α)
  | [], _ => []
  | t :: rest, v => v.log t ++ history rest (v.watch t)

theorem watch_eq_calls (v : Vessel α) (t : Watch α) :
    v.watch t = (v.resume t.position t.velocity t.health).calls t.tick t.world
      (t.requests.flatMap (·.calls v.loadout.engines.length)) := by
  have hlength : (v.resume t.position t.velocity t.health).loadout.engines.length =
      v.loadout.engines.length := List.length_map _
  rw [watch, requests_eq_calls, hlength]

theorem throttled_watch (v : Vessel α) (t : Watch α) : v.Throttled (v.watch t) (v.log t) := by
  rw [watch_eq_calls]
  exact (v.throttled_resume _ _ _).trans (throttled_calls _ _ _ _)

theorem throttled_watches (ts : List (Watch α)) (v : Vessel α) :
    v.Throttled (v.watches ts) (v.history ts) := by
  induction ts generalizing v with
  | nil => exact .refl v
  | cons t rest ih => exact (v.throttled_watch t).trans (ih _)

/-- Engines that are off at first run at their last settings. -/
theorem outputs_watches (hoff : ∀ e ∈ v.loadout.engines, e.output = 0.0) (ts : List (Watch α)) :
    (v.watches ts).loadout.engines.map (·.output) = v.loadout.engines.mapIdx fun i e =>
      (lastSetting? i (v.history ts)).elim 0.0 (e.capacity * ·) := by
  have hthrottled := v.throttled_watches ts
  apply List.ext_getElem?
  intro i
  rw [List.getElem?_map, List.getElem?_mapIdx]
  cases he : v.loadout.engines[i]? with
  | none =>
    rw [List.getElem?_eq_none_iff, ← hthrottled.length, ← List.getElem?_eq_none_iff] at he
    rw [he, Option.map_none, Option.map_none]
  | some e =>
    obtain ⟨e', he', -, houtput⟩ := hthrottled.engine he
    rw [he', Option.map_some, Option.map_some, houtput, Engine.outputAt,
      hoff e (List.mem_of_getElem? he)]

/-- The budget of a tick is what the engines give at its start, whatever is asked for. -/
theorem totalEnergy_watch (v : Vessel α) (t : Watch α) :
    (v.watch t).hull.totalEnergy = Scalar.sum (v.loadout.engines.map (·.output)) := by
  rw [watch_eq_calls, (keeps_calls ..).totalEnergy]
  change Scalar.sum ((v.loadout.engines.map Engine.release).map (·.output)) = _
  rw [List.map_map]
  rfl

omit [Scalar α] in
theorem powerCalls_succ (f : Nat → α) (n : Nat) :
    powerCalls f (n + 1) = powerCalls f n ++ [.act (.powerOn n (f n))] := by
  rw [powerCalls, List.range_succ, List.map_append]
  rfl

theorem hull_powerCalls (tick : Nat) (world : World α) (f : Nat → α) (n : Nat) (v : Vessel α) :
    (v.calls tick world (powerCalls f n)).hull = v.hull := by
  induction n with
  | zero => rfl
  | succ n ih =>
    rw [powerCalls_succ, calls_append]
    exact (hull_powerOn _ tick world n (f n)).trans ih

theorem hull_powerAll (tick : Nat) (world : World α) (v : Vessel α) (fraction : α) :
    (v.follow tick world (Plan.powerAll fraction)).1.hull = v.hull := by
  have hcalls := request_eq_calls tick world v (.powerAll fraction)
  exact (congrArg hull hcalls).trans (hull_powerCalls ..)

/-- What an engine answers does not depend on how the engines before it have been set. -/
theorem failures_powerCalls (tick : Nat) (world : World α) (f : Nat → α) (n : Nat)
    (v : Vessel α) : (v.attempts tick world (powerCalls f n)).map (·.failure) =
      (List.range n).map fun k => v.failure? tick world (.act (.powerOn k (f k))) := by
  induction n with
  | zero => rfl
  | succ n ih =>
    have hlast := getElem?_engines_powerCalls tick world f n v n
    simp only [lt_irrefl, if_false, Option.map_id'] at hlast
    rw [powerCalls_succ, attempts_append, List.map_append, ih, List.range_succ, List.map_append]
    congr 1
    simp only [List.map_cons, List.map_nil, attempts, failure?, act, hlast]
    cases v.loadout.engines[n]? <;> rfl

/-- All engines are set, each as if it were the only one, and the reply is the first failure. -/
theorem follow_powerAll (tick : Nat) (world : World α) (v : Vessel α) (fraction : α) :
    (v.follow tick world (Plan.powerAll fraction)).1.loadout.engines =
        v.loadout.engines.map (fun e => (e.powerOn fraction).1) ∧
      FleetArena.failure? (v.follow tick world (Plan.powerAll fraction)).2 =
        v.loadout.engines.findSome? fun e => FleetArena.failure? (e.powerOn fraction).2 := by
  have hactions : ((List.range v.loadout.engines.length).map fun i =>
      Action.powerOn i fraction).map Call.act =
        powerCalls (fun _ => fraction) v.loadout.engines.length := by
    rw [List.map_map]
    rfl
  rw [Plan.powerAll, follow, follow_tryAll, failure?_follow_tryAll, cockpit, hactions]
  constructor
  · apply List.ext_getElem?
    intro k
    rw [getElem?_engines_powerCalls, List.getElem?_map]
    cases he : v.loadout.engines[k]? with
    | none => rfl
    | some e =>
      obtain ⟨hlt, -⟩ := List.getElem?_eq_some_iff.mp he
      rw [Option.map_some, Option.map_some, if_pos hlt]
  · have hreplies : ((List.range v.loadout.engines.length).map fun k =>
        v.failure? tick world (.act (.powerOn k fraction))) =
          v.loadout.engines.map fun e => FleetArena.failure? (e.powerOn fraction).2 := by
      apply List.ext_getElem?
      intro k
      rw [List.getElem?_map, List.getElem?_map]
      cases he : v.loadout.engines[k]? with
      | none => simpa using he
      | some e =>
        obtain ⟨hlt, -⟩ := List.getElem?_eq_some_iff.mp he
        simp [List.getElem?_range hlt, failure?, act, he]
    have hfirst {β γ : Type} (g : β → Option γ) (xs : List β) :
        xs.findSome? g = (xs.map g).findSome? id := by
      rw [List.findSome?_map]
      rfl
    rw [hfirst, failures_powerCalls, hreplies, ← hfirst]

theorem powerOn_of_rejected (v : Vessel α) (tick i : Nat) {fraction : α}
    (h : ¬(0.0 ≤ fraction ∧ fraction ≤ 1.0)) :
    (∃ error, (v.act tick (.powerOn i fraction)).2 = .error error) ∧
      (v.act tick (.powerOn i fraction)).1.loadout.engines.map (·.output) =
        v.loadout.engines.map (·.output) := by
  rw [act]
  split
  · exact ⟨⟨_, rfl⟩, rfl⟩
  · rename_i engine hengine
    obtain ⟨hfails, houtput⟩ := engine.powerOn_of_rejected h
    exact ⟨hfails, map_set_of_fixed hengine houtput⟩

end Vessel

open Exact

/-- What is below nothing, above full power or no number is no fraction. -/
theorem Exact.not_fraction {f : Exact} (h : f < 0.0 ∨ 1.0 < f ∨ Scalar.isNaN f = true) :
    ¬(0.0 ≤ f ∧ f ≤ 1.0) := by
  rw [zero_eq, one_eq] at *
  rintro ⟨hlow, hhigh⟩
  cases f with
  | real x =>
    simp only [real_lt, real_le, isNaN_real, Bool.false_eq_true, or_false] at h hlow hhigh
    rcases h with h | h <;> linarith
  | posInf => exact hhigh
  | negInf => exact hlow
  | nan => exact hlow

namespace Vessel

/-- Exact engines that are off give nothing in the first tick. -/
theorem totalEnergy_watch_of_off {v : Vessel Exact} (hoff : ∀ e ∈ v.loadout.engines, e.output = 0.0)
    (t : Watch Exact) : (v.watch t).hull.totalEnergy = 0.0 := by
  have hzero : v.loadout.engines.map (·.output) =
      (v.loadout.engines.map fun _ => (0 : ℝ)).map real := by
    rw [List.map_map]
    apply List.map_congr_left
    intro e he
    exact (hoff e he).trans zero_eq
  have hfirst := v.totalEnergy_watch t
  rw [hzero, sum_map_real] at hfirst
  refine hfirst.trans ?_
  simp

/-- The budget of a tick is made up of the last settings of the ticks before. Nothing that is asked
of the engines changes the energy of the tick itself, a fraction that is out of range changes no
output, and if all engines are set then each of them is, and the reply is the first failure. With
exact quantities the first tick has no energy, and what is below nothing, above full power or no
number is out of range. -/
theorem budget_watches {α : Type} [Scalar α] {v : Vessel α}
    (hoff : ∀ e ∈ v.loadout.engines, e.output = 0.0) (ts : List (Watch α)) (t : Watch α) :
    let now := (v.watches ts).watch t
    now.hull.totalEnergy = Scalar.sum (v.loadout.engines.mapIdx fun i e =>
        (lastSetting? i (v.history ts)).elim 0.0 (e.capacity * ·)) ∧
      (∀ f,
        let all := now.follow t.tick t.world (Plan.powerAll f)
        (∀ i, (now.act t.tick (.powerOn i f)).1.hull = now.hull) ∧ all.1.hull = now.hull ∧
        (¬(0.0 ≤ f ∧ f ≤ 1.0) →
          (∀ i, (∃ error, (now.act t.tick (.powerOn i f)).2 = .error error) ∧
            (now.act t.tick (.powerOn i f)).1.loadout.engines.map (·.output) =
              now.loadout.engines.map (·.output)) ∧
          all.1.loadout.engines.map (·.output) = now.loadout.engines.map (·.output)) ∧
        all.1.loadout.engines = now.loadout.engines.map (fun e => (e.powerOn f).1) ∧
        FleetArena.failure? all.2 =
          now.loadout.engines.findSome? fun e => FleetArena.failure? (e.powerOn f).2) ∧
      (∀ w : Vessel Exact, (∀ e ∈ w.loadout.engines, e.output = 0.0) → ∀ first : Watch Exact,
        (w.watch first).hull.totalEnergy = 0.0) ∧
      ∀ f : Exact, f < 0.0 ∨ 1.0 < f ∨ Scalar.isNaN f = true → ¬(0.0 ≤ f ∧ f ≤ 1.0) := by
  intro now
  have hbudget := (v.watches ts).totalEnergy_watch t
  rw [outputs_watches hoff] at hbudget
  refine ⟨hbudget, fun f => ?_, fun w => totalEnergy_watch_of_off, fun f => not_fraction⟩
  intro all
  obtain ⟨hengines, hreply⟩ := now.follow_powerAll t.tick t.world f
  refine ⟨fun i => now.hull_powerOn t.tick t.world i f, hull_powerAll _ _ now f,
    fun hf => ⟨?_, ?_⟩, hengines, hreply⟩
  · exact fun i => now.powerOn_of_rejected t.tick i hf
  · rw [hengines, List.map_map]
    apply List.map_congr_left
    intro e _
    exact (e.powerOn_of_rejected hf).2

/-- The second of two engines is set to half power and then, with the first one, to full power. As
it has acted by then, the next tick has half of its capacity. -/
theorem budget_watches_of_two_engines :
    let engine (capacity : ℝ) : Engine Exact :=
      ⟨⟨.zero, real 1, real 1, real 1, false⟩, real capacity, 0.0⟩
    let hull : Hull Exact :=
      ⟨⟨1, .zero, .zero, real 1, real 2, real 2⟩, "red", real 1, real 0, real 0⟩
    let ship : Vessel Exact := ⟨hull, ⟨[engine 3, engine 4], [], [], []⟩, []⟩
    let watch (tick : Nat) (requests : List (Request Exact)) : Watch Exact :=
      ⟨tick, {}, .zero, .zero, real 2, requests⟩
    let first := watch 0 [.call (.act (.powerOn 1 (real (1 / 2)))), .powerAll 1.0]
    ((ship.watches []).watch first).hull.totalEnergy = 0.0 ∧
      ((ship.watches [first]).watch (watch 1 [])).hull.totalEnergy = real 5 := by
  intro engine hull ship watch first
  have hoff : ∀ e ∈ ship.loadout.engines, e.output = 0.0 := by
    simp [ship, engine]
  have hsettings : lastSetting? 0 (ship.history [first]) = some (real 1) ∧
      lastSetting? 1 (ship.history [first]) = some (real (1 / 2)) := by
    have hhalf : (2 : ℝ)⁻¹ ≤ 1 := by norm_num
    simp [history, log, first, watch, ship, Request.calls, powerCalls, List.range_succ, attempts,
      lastSetting?, Attempt.setting?, failure?, act, resume, begin, energize, Loadout.release,
      Engine.release, Mount.release, Mount.markUsed, engine, Engine.powerOn, FleetArena.failure?,
      call, hhalf]
  have hsum : Scalar.sum [real 3, real 2] = real 5 := by
    refine (sum_map_real [3, 2]).trans ?_
    norm_num
  obtain ⟨-, -, hstart, -⟩ := budget_watches hoff [] first
  refine ⟨hstart ship hoff first, ?_⟩
  refine (budget_watches hoff [first] (watch 1 [])).1.trans ?_
  simp only [ship, engine, List.mapIdx_cons, List.mapIdx_nil, hsettings, Option.elim_some, real_mul]
  norm_num [hsum]

end Vessel
end FleetArena
