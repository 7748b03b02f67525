import FleetArena.Nav
import FleetArena.Proofs.Contact.Exchange
import FleetArena.Proofs.Vessel.Attempts
import FleetArena.Proofs.Vessel.Thrust

/-! Cruising: a navigator turns the velocity of its vessel towards the velocity that it desires, and
never beyond it, whatever becomes of the single thrusters. -/
namespace FleetArena
open Exact

section
variable {α : Type}

/-- The forces of the thrusters. -/
def Vessel.forces (v : Vessel α) : List α :=
  v.loadout.thrusters.map (·.force)

/-- The calls that ask thrusters for the same acceleration. -/
def Vessel.thrustCalls (share : Vec3 α) (is : List Nat) : List (Call α) :=
  is.map fun i => .act (.thrust i share)

variable [Scalar α] {n : Nav α} {w : Waypoint α} {position velocity : Vec3 α}

/-- The direction to a waypoint, or zero if there is none. -/
def Waypoint.course (w : Waypoint α) (position : Vec3 α) : Vec3 α :=
  (w.position - position).normalize?.getD .zero

namespace Nav

/-- The waypoint that a navigator steers to. One that has been reached is none. -/
def destination? (n : Nav α) (position : Vec3 α) : Option (Waypoint α) :=
  n.advance.current.filter fun w => !decide ((w.position - position).length < w.tolerance)

omit [Scalar α] in
theorem gain_advance (n : Nav α) : n.advance.gain = n.gain := by
  rw [advance]
  split <;> rfl

theorem fly_of_none (h : n.destination? position = none) (velocity : Vec3 α) :
    ∃ n' steer, n.fly position velocity = .done (n', .ok steer) := by
  cases hcurrent : n.advance.current with
  | none =>
    simp only [fly, steer, hcurrent]
    exact ⟨_, _, rfl⟩
  | some w =>
    rw [destination?, hcurrent, Option.filter_eq_none_iff] at h
    have hnear : (w.position - position).length < w.tolerance := by simpa using h w rfl
    simp only [fly, steer, hcurrent, if_pos hnear]
    exact ⟨_, _, rfl⟩

theorem fly_of_some (h : n.destination? position = some w) (velocity : Vec3 α) :
    let acceleration := (w.course position * w.maxSpeed - velocity) * n.gain
    n.fly position velocity = .look fun cockpit =>
      let count := cockpit.loadout.thrusters.length
      (Plan.tryAll ((List.range count).map fun i =>
        .thrust i (acceleration / (Scalar.ofNat count : α)))).andThen fun reply =>
          .done (n.advance, reply.map fun () => .thrust acceleration) := by
  obtain ⟨hcurrent, hfar⟩ := Option.filter_eq_some_iff.mp h
  have hfar : ¬(w.position - position).length < w.tolerance := by simpa using hfar
  simp only [fly, steer, hcurrent, if_neg hfar, gain_advance]
  rfl

/-- A navigator that steers to a waypoint asks all thrusters in order, even after a failure, and
answers with the first one. -/
theorem follow_fly (h : n.destination? position = some w) (velocity : Vec3 α) (v : Vessel α)
    (tick : Nat) (world : World α) :
    let acceleration := (w.course position * w.maxSpeed - velocity) * n.gain
    let count := v.loadout.thrusters.length
    let calls := Vessel.thrustCalls (acceleration / (Scalar.ofNat count : α)) (List.range count)
    let plan := n.fly position velocity
    Vessel.commands tick world plan v = calls ∧
      (v.follow tick world plan).1 = v.calls tick world calls ∧
      failure? (v.follow tick world plan).2.2 =
        (v.attempts tick world calls).findSome? (·.failure) := by
  intro acceleration count calls plan
  let actions : List (Action α) :=
    (List.range count).map fun i => .thrust i (acceleration / (Scalar.ofNat count : α))
  have hcalls : actions.map .act = calls := List.map_map
  have hcommands : Vessel.commands tick world plan v = calls := by
    simp only [plan, fly_of_some h, Vessel.commands, Vessel.commands_andThen]
    rw [List.append_nil, ← hcalls]
    exact Vessel.commands_tryAll tick world actions v
  refine ⟨hcommands, ?_, ?_⟩
  · rw [Vessel.fst_follow, hcommands]
  · have hreply (reply : Except (ActionError α) Unit) (steer : Steer α) :
        failure? (reply.map fun () => steer) = failure? reply := by
      cases reply <;> rfl
    simp only [plan, fly_of_some h, Vessel.follow, Vessel.follow_andThen, hreply]
    rw [← hcalls]
    exact Vessel.failure?_follow_tryAll tick world actions v

end Nav

/-- A thruster that is ready and is given a direction can fail for lack of energy alone. -/
theorem Thruster.failure?_thrust {t : Thruster α} {direction : Vec3 α}
    (hfree : t.mount.used = false) (hfinite : direction.isFinite = true) (h : Hull α) :
    failure? (t.thrust h direction).2.2 = none ∨
      failure? (t.thrust h direction).2.2 = some .outOfEnergy := by
  simp only [thrust, hfree, hfinite, Bool.false_eq_true, Bool.not_true, if_false]
  split
  · exact Or.inl rfl
  · rcases h.spend_cases
      (t.energy * Scalar.min (h.body.mass * direction.length) t.force / t.force) with hs | ⟨h', hs⟩
    · rw [hs]
      exact Or.inr rfl
    · rw [hs]
      exact Or.inl rfl

end

namespace Vessel
variable {v : Vessel Exact} {u : Space} {m dt : ℝ}

/-- What becomes of a vessel when one thruster is asked for an acceleration `d`. -/
theorem flies_call_thrust (hflies : v.hull.Flies u m dt) (hm : 0 < m)
    (hforces : ∀ a ∈ v.forces, ∃ f, 0 < f ∧ a = real f) (tick : Nat) (world : World Exact) (i : Nat)
    (d : Space) :
    let c : Call Exact := .act (.thrust i (Vec3.exact d))
    let w := (v.call tick world c).1
    w.forces = v.forces ∧ ∃ k, 0 ≤ k ∧ k ≤ 1 ∧ w.hull.Flies (u + (k * dt) • d) m dt ∧
      (v.failure? tick world c = none → (∀ a ∈ v.forces, real (m * ‖d‖) ≤ a) → k = 1) := by
  intro c w
  cases ht : v.loadout.thrusters[i]? with
  | none =>
    have hcall : v.act tick (.thrust i (Vec3.exact d)) = (v, .error (.noSuchPart .thruster i)) := by
      simp only [act, ht]
    have hw : w = v := congrArg Prod.fst hcall
    have hfails : v.failure? tick world c ≠ none := by
      simp [c, failure?, hcall, FleetArena.failure?]
    rw [hw]
    refine ⟨rfl, 0, le_rfl, zero_le_one, ?_, fun hnone => absurd hnone hfails⟩
    rwa [zero_mul, zero_smul, add_zero]
  | some t =>
    have hmem : t.force ∈ v.forces := List.mem_map_of_mem (List.mem_of_getElem? ht)
    obtain ⟨f, hf, hforce⟩ := hforces _ hmem
    obtain ⟨k, hk, hk1, hflown, hall⟩ := Thruster.flies_thrust hflies hm hf hforce d
    have hforces' : w.forces = v.forces := by
      simp only [w, c, forces, call, act, ht]
      apply map_set_of_fixed ht
      rw [Thruster.fst_thrust]
    refine ⟨hforces', k, hk, hk1, ?_, fun hnone hlimit => hall ?_ ?_⟩
    · simpa only [w, c, call, act, ht] using hflown
    · simp only [c, failure?, act, ht] at hnone
      cases hreply : (t.thrust v.hull (Vec3.exact d)).2.2 with
      | error e => simp [hreply, FleetArena.failure?] at hnone
      | ok => rfl
    · have hle := hlimit _ hmem
      rwa [hforce, real_le] at hle

/-- What becomes of a vessel when thrusters are asked for an acceleration `d`, one after the other:
it gets a part of it from each, and all of it from all if none fails and all are strong enough. -/
theorem flies_thrustCalls (hflies : v.hull.Flies u m dt) (hm : 0 < m)
    (hforces : ∀ a ∈ v.forces, ∃ f, 0 < f ∧ a = real f) (tick : Nat) (world : World Exact)
    (is : List Nat) (d : Space) :
    let cs := thrustCalls (Vec3.exact d) is
    ∃ x : ℝ, 0 ≤ x ∧ x ≤ is.length ∧ (v.calls tick world cs).hull.Flies (u + (x * dt) • d) m dt ∧
      ((∀ a ∈ v.attempts tick world cs, a.failure = none) →
        (∀ a ∈ v.forces, real (m * ‖d‖) ≤ a) → x = is.length) := by
  induction is generalizing v u with
  | nil =>
    refine ⟨0, le_rfl, Nat.cast_nonneg _, ?_, fun _ _ => Nat.cast_zero.symm⟩
    rwa [zero_mul, zero_smul, add_zero]
  | cons i rest ih =>
    obtain ⟨hsame, k, hk, hk1, hflown, hall⟩ :=
      flies_call_thrust hflies hm hforces tick world i d
    -- the others find the vessel at another velocity, with less energy and the same forces
    obtain ⟨x, hx, hx1, hrest, hallrest⟩ := ih hflown (by rwa [hsame])
    have hlength : ((i :: rest).length : ℝ) = rest.length + 1 := by
      rw [List.length_cons, Nat.cast_succ]
    refine ⟨k + x, add_nonneg hk hx, ?_, ?_, fun hnone hlimit => ?_⟩
    · rw [hlength]
      linarith
    · rw [add_mul, add_smul, ← add_assoc]
      exact hrest
    · obtain ⟨hfirst, hothers⟩ := List.forall_mem_cons.mp hnone
      rw [hall hfirst hlimit, hallrest hothers (by rwa [hsame]), hlength, add_comm]

/-- Thrusters that are ready can fail for lack of energy alone. -/
theorem failure_attempts_thrustCalls {is : List Nat} (hnodup : is.Nodup)
    (hfree : ∀ i ∈ is, ∃ t, v.loadout.thrusters[i]? = some t ∧ t.mount.used = false) (tick : Nat)
    (world : World Exact) (d : Space) :
    ∀ a ∈ v.attempts tick world (thrustCalls (Vec3.exact d) is),
      a.failure = none ∨ a.failure = some .outOfEnergy := by
  induction is generalizing v with
  | nil => exact List.forall_mem_nil _
  | cons i rest ih =>
    obtain ⟨hi, hnodup⟩ := List.nodup_cons.mp hnodup
    obtain ⟨⟨t, ht, hready⟩, hfree⟩ := List.forall_mem_cons.mp hfree
    refine List.forall_mem_cons.mpr ⟨?_, ih hnodup fun j hj => ?_⟩
    · have hfinite : (Vec3.exact d).isFinite = true := Vec3.isFinite_iff.mpr ⟨d, rfl⟩
      simpa only [failure?, act, ht] using t.failure?_thrust hready hfinite v.hull
    · -- the thrusters that are still to come are others
      have hne : i ≠ j := fun heq => hi (heq ▸ hj)
      simp only [call, act, ht, List.getElem?_set_ne hne]
      exact hfree j hj

theorem failure_attempts_range (hready : ∀ t ∈ v.loadout.thrusters, t.mount.used = false)
    (tick : Nat) (world : World Exact) (d : Space) :
    let is := List.range v.loadout.thrusters.length
    ∀ a ∈ v.attempts tick world (thrustCalls (Vec3.exact d) is),
      a.failure = none ∨ a.failure = some .outOfEnergy := by
  refine failure_attempts_thrustCalls List.nodup_range (fun i hi => ?_) tick world d
  have hlt : i < v.loadout.thrusters.length := List.mem_range.mp hi
  exact ⟨_, List.getElem?_eq_getElem hlt, hready _ (List.getElem_mem hlt)⟩

end Vessel

/-- A point on the way from `u` to `w` is no longer than the longer of the two. -/
theorem norm_add_smul_sub_le {u w : Space} {c : ℝ} (hc : 0 ≤ c) (hc1 : c ≤ 1) :
    ‖u + c • (w - u)‖ ≤ max ‖u‖ ‖w‖ := by
  have hmem : u + c • (w - u) ∈ segment ℝ u w := by
    rw [segment_eq_image']
    exact ⟨c, ⟨hc, hc1⟩, rfl⟩
  exact convexOn_univ_norm.le_max_of_mem_segment (Set.mem_univ _) (Set.mem_univ _) hmem

namespace Waypoint
variable {w : Waypoint Exact} {position : Vec3 Exact} {p q : Space}

theorem exists_course (w : Waypoint Exact) (position : Vec3 Exact) :
    ∃ a : Space, ‖a‖ ≤ 1 ∧ w.course position = Vec3.exact a := by
  rw [course]
  cases hw : (w.position - position).normalize? with
  | none => exact ⟨0, by simp, Vec3.zero_eq⟩
  | some unit =>
    obtain ⟨a, ha, heq⟩ := Vec3.exists_unit (w.position - position)
    rw [hw] at heq
    exact ⟨a, ha.le, heq⟩

theorem course_exact (hp : position = Vec3.exact p) (hq : w.position = Vec3.exact q) :
    w.course position = Vec3.exact (‖q - p‖⁻¹ • (q - p)) := by
  rw [course, hp, hq, Vec3.exact_sub]
  by_cases hqp : q - p = 0
  · rw [hqp, Vec3.normalize?_zero, Option.getD_none, smul_zero, Vec3.zero_eq]
  · rw [Vec3.normalize?_exact hqp, Option.getD_some]

end Waypoint

/-- At most `n` shares of an `n`-th each are a part of the gain in a tick. -/
theorem part_of_shares {x dt g : ℝ} {n : ℕ} (hx : 0 ≤ x) (hxn : x ≤ n) (hdt : 0 ≤ dt) (hg : 0 ≤ g)
    (hstep : g * dt ≤ 1) (e : Space) :
    0 ≤ g * dt * (x / n) ∧ g * dt * (x / n) ≤ 1 ∧
      (x * dt) • (g / n) • e = (g * dt * (x / n)) • e := by
  have hratio : 0 ≤ x / n := div_nonneg hx (Nat.cast_nonneg _)
  refine ⟨mul_nonneg (mul_nonneg hg hdt) hratio, ?_, ?_⟩
  · exact mul_le_one₀ hstep hratio (div_le_one_of_le₀ hxn (Nat.cast_nonneg _))
  · rw [smul_smul]
    congr 1
    ring

namespace Nav
variable {n : Nav Exact} {v : Vessel Exact} {course velocity : Vec3 Exact} {speed gain : Exact}
  {u : Space} {m dt g : ℝ}

/-- The share of each of `count` thrusters, for a course along `a` at the speed `s`. Where there are
none there is no share, but no call either. -/
theorem thrustCalls_share {a : Space} {s : ℝ} (hcourse : course = Vec3.exact a)
    (hspeed : speed = real s) (hvelocity : velocity = Vec3.exact u) (hgain : gain = real g)
    (count : Nat) :
    Vessel.thrustCalls ((course * speed - velocity) * gain / (Scalar.ofNat count : Exact))
        (List.range count) =
      Vessel.thrustCalls (Vec3.exact ((g / count) • (s • a - u))) (List.range count) := by
  apply List.map_congr_left
  intro i hi
  have hpos : 0 < count := (Nat.zero_le i).trans_lt (List.mem_range.mp hi)
  have hcount : (count : ℝ) ≠ 0 := Nat.cast_ne_zero.mpr hpos.ne'
  rw [hcourse, hspeed, hvelocity, hgain, Vec3.exact_mul, Vec3.exact_sub, Vec3.exact_mul, ofNat_eq,
    Vec3.exact_div hcount, smul_smul, ← div_eq_inv_mul]

/-- A navigator never overshoots. Without a waypoint, and on arrival, it leaves the vessel alone.
Otherwise it asks all thrusters in order for the same share of the acceleration towards the velocity
that it desires, and answers with the first failure. Whatever fails, the velocity moves a part of
the way to the desired one, so that no speed is above that of before and the cruise speed. If there
are thrusters, and none has been used before, reaches its limit or runs out of energy, it is the
part that the gain gives in a tick, for any number of them. -/
theorem cruises_fly (hflies : v.hull.Flies u m dt) (hm : 0 < m) (hdt : 0 ≤ dt)
    (hforces : ∀ t ∈ v.loadout.thrusters, ∃ f, 0 < f ∧ t.force = real f) (hgain : n.gain = real g)
    (hg : 0 ≤ g) (hstep : g * dt ≤ 1) (position : Vec3 Exact) (tick : Nat) (world : World Exact) :
    let plan := n.fly position v.hull.body.velocity
    let w := (v.follow tick world plan).1
    let reply := (v.follow tick world plan).2.2
    (n.destination? position = none → w = v ∧ failure? reply = none) ∧
      ∀ goal s, n.destination? position = some goal → goal.maxSpeed = real s → 0 ≤ s →
        let desired := s • (goal.course position).toSpace
        let count := v.loadout.thrusters.length
        let share := (g / count) • (desired - u)
        let calls := Vessel.thrustCalls (Vec3.exact share) (List.range count)
        let tries := v.attempts tick world calls
        (∀ p q, position = Vec3.exact p → goal.position = Vec3.exact q →
          desired = s • ‖q - p‖⁻¹ • (q - p)) ∧
          Vessel.commands tick world plan v = calls ∧
          failure? reply = tries.findSome? (·.failure) ∧
          (∃ c : ℝ, 0 ≤ c ∧ c ≤ 1 ∧ w.hull.body.velocity = Vec3.exact (u + c • (desired - u)) ∧
            ‖u + c • (desired - u)‖ ≤ max ‖u‖ s) ∧
          (0 < count →
            (∀ t ∈ v.loadout.thrusters, t.mount.used = false ∧ real (m * ‖share‖) ≤ t.force) →
            (∀ a ∈ tries, a.failure ≠ some .outOfEnergy) →
            w.hull.body.velocity = Vec3.exact (u + (g * dt) • (desired - u))) := by
  intro plan w reply
  refine ⟨fun hnone => ?_, fun goal s hgoal hspeed hs => ?_⟩
  · obtain ⟨n', steer, hdone⟩ := fly_of_none hnone v.hull.body.velocity
    simp only [w, reply, plan, hdone, Vessel.follow, failure?, true_and]
  intro desired count share calls tries
  obtain ⟨a, ha, hcourse⟩ := goal.exists_course position
  have hdesired : desired = s • a := by simp only [desired, hcourse, Vec3.toSpace_exact]
  have hcruise : ‖desired‖ ≤ s := by
    rw [hdesired, norm_smul, Real.norm_of_nonneg hs]
    exact mul_le_of_le_one_right hs ha
  obtain ⟨hcommands, hfollow, hreply⟩ := follow_fly hgoal v.hull.body.velocity v tick world
  rw [thrustCalls_share hcourse hspeed hflies.velocity hgain, ← hdesired]
    at hcommands hfollow hreply
  -- the thrusters give `x` shares in all, of which there are as many as thrusters
  obtain ⟨x, hx, hxcount, hflown, hall⟩ := Vessel.flies_thrustCalls hflies hm
    (List.forall_mem_map.mpr hforces) tick world (List.range count) share
  rw [List.length_range] at hxcount hall
  obtain ⟨hc, hc1, hpart⟩ := part_of_shares hx hxcount hdt hg hstep (desired - u)
  have hvelocity : w.hull.body.velocity =
      Vec3.exact (u + (g * dt * (x / count)) • (desired - u)) := by
    rw [← hpart, ← hflown.velocity]
    exact congrArg (·.hull.body.velocity) hfollow
  refine ⟨fun p q hp hq => ?_, hcommands, hreply, ?_, fun hpos hready henergy => ?_⟩
  · rw [← Vec3.toSpace_exact (u := ‖q - p‖⁻¹ • (q - p)), ← Waypoint.course_exact hp hq]
  · have hway : ‖u + (g * dt * (x / count)) • (desired - u)‖ ≤ max ‖u‖ ‖desired‖ :=
      norm_add_smul_sub_le hc hc1
    exact ⟨_, hc, hc1, hvelocity, hway.trans (max_le_max_left _ hcruise)⟩
  · have hsucceed : ∀ a ∈ tries, a.failure = none := by
      intro a ha
      rcases Vessel.failure_attempts_range (fun t ht => (hready t ht).1) tick world share a ha
        with h | h
      · exact h
      · exact absurd h (henergy a ha)
    have hlimit : ∀ b ∈ v.forces, real (m * ‖share‖) ≤ b :=
      List.forall_mem_map.mpr fun t ht => (hready t ht).2
    have hcount : (count : ℝ) ≠ 0 := Nat.cast_ne_zero.mpr hpos.ne'
    rw [hvelocity, hall hsucceed hlimit, div_self hcount, mul_one]

/-- A courier at rest, of gain one half, that is to go at four on the way to its waypoint. After a
tick it goes at two. -/
theorem cruises_fly_courier :
    let axis : Space := EuclideanSpace.single 0 1
    let hull : Hull Exact :=
      ⟨⟨1, .zero, .zero, real 1, real 2, real 9⟩, "red", real 1, real 1, real 1⟩
    let thruster : Thruster Exact := ⟨⟨.zero, real 1, real 1, real 1, false⟩, real 100, real 1⟩
    let courier : Vessel Exact := ⟨hull, ⟨[], [thruster], [], []⟩, []⟩
    let goal : Waypoint Exact := ⟨Vec3.exact ((10 : ℝ) • axis), real 4, real 1⟩
    let nav : Nav Exact := (Nav.ofGain (real (1 / 2))).setWaypoint goal
    (courier.follow 0 {} (nav.fly hull.body.position hull.body.velocity)).1.hull.body.velocity =
      Vec3.exact ((2 : ℝ) • axis) := by
  intro axis hull thruster courier goal nav
  have hunit : ‖axis‖ = 1 := by simp [axis]
  have hplace : hull.body.position = Vec3.exact 0 := Vec3.zero_eq
  have hflies : hull.Flies 0 2 1 := ⟨Vec3.zero_eq, rfl, rfl⟩
  have hforces : ∀ t ∈ courier.loadout.thrusters, ∃ f : ℝ, 0 < f ∧ t.force = real f :=
    List.forall_mem_singleton.mpr ⟨100, by norm_num, rfl⟩
  have hgoal : nav.destination? hull.body.position = some goal := by
    have hlength : (goal.position - hull.body.position).length = real 10 := by
      rw [hplace, Vec3.exact_sub, Vec3.length_exact, sub_zero, norm_smul, hunit]
      norm_num
    have hfar : ¬(goal.position - hull.body.position).length < goal.tolerance := by
      rw [hlength, real_lt]
      norm_num
    exact Option.filter_eq_some_iff.mpr ⟨rfl, by simpa using hfar⟩
  obtain ⟨-, hsteers⟩ := cruises_fly (n := nav) (v := courier) hflies two_pos zero_le_one hforces
    rfl (by norm_num) (by norm_num) hull.body.position 0 {}
  obtain ⟨hdesired, -, -, -, hgained⟩ := hsteers goal 4 hgoal rfl (by norm_num)
  have hcourse : (4 : ℝ) • (goal.course hull.body.position).toSpace = (4 : ℝ) • axis := by
    rw [hdesired 0 _ hplace rfl, sub_zero, norm_smul, hunit, smul_smul, smul_smul]
    norm_num
  have hshare : ((1 / 2 : ℝ) / (courier.loadout.thrusters.length : ℝ)) • ((4 : ℝ) • axis - 0) =
      (2 : ℝ) • axis := by
    have hcount : (courier.loadout.thrusters.length : ℝ) = 1 := Nat.cast_one
    rw [hcount, sub_zero, smul_smul]
    norm_num
  rw [hcourse, hshare] at hgained
  have hnorm : ‖(2 : ℝ) • axis‖ = 2 := by
    rw [norm_smul, hunit]
    norm_num
  have hne : (2 : ℝ) • axis ≠ 0 := norm_ne_zero_iff.mp (by rw [hnorm]; norm_num)
  have hstrong : 2 * ‖(2 : ℝ) • axis‖ ≤ 100 := by
    rw [hnorm]
    norm_num
  have hsucceeds : (thruster.thrust hull (Vec3.exact ((2 : ℝ) • axis))).2.2 = .ok () := by
    have hpaid : ¬real 1 - real 1 * real (1 * (2 * 2)) / real 100 < 0.0 := by
      rw [real_mul, real_div (by norm_num), real_sub, zero_eq, real_lt]
      norm_num
    obtain ⟨-, hthrust⟩ := Thruster.thrust_exact (t := thruster) hflies two_pos rfl rfl hne
    rw [Thruster.fraction_eq_one two_pos hne hstrong, hnorm] at hthrust
    rw [hthrust hpaid]
  have hreply : failure? (thruster.thrust hull (Vec3.exact ((2 : ℝ) • axis))).2.2 ≠
      some .outOfEnergy := by
    simp [hsucceeds, failure?]
  have hready : thruster.mount.used = false ∧ real (2 * ‖(2 : ℝ) • axis‖) ≤ thruster.force :=
    ⟨rfl, hstrong⟩
  rw [hgained one_pos (List.forall_mem_singleton.mpr hready) (List.forall_mem_singleton.mpr hreply),
    zero_add, sub_zero, smul_smul]
  norm_num

end Nav
end FleetArena
