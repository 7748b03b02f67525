import FleetArena.Proofs.Battle.Objects
import FleetArena.Proofs.Contact.Repeat
import FleetArena.Proofs.Vessel.Ending
import FleetArena.Proofs.Vessel.Shots

/-! How a shot leaves its ship. It starts outside the hull, in the line of fire, and is never slower
than the ship along this line, so that the two are not in contact however long they fly on. -/
namespace FleetArena
open Exact
open scoped RealInnerProductSpace

namespace Vec3

/-- The direction of a vector is of length one. -/
theorem exists_of_direction? {d unit : Vec3 Exact} (h : d.direction? = some unit) :
    ∃ n : Space, ‖n‖ = 1 ∧ unit = exact n := by
  rw [direction?] at h
  split at h
  · obtain ⟨n, hn, hunit⟩ := exists_unit d
    rw [h, Option.getD_some] at hunit
    exact ⟨n, hn, hunit⟩
  · cases h

end Vec3

namespace Body
variable {a b : Body Exact} {p q v w n path offset : Space} {r s d u dt reach : ℝ}

theorem IsSphere.iterate_integrate (h : b.IsSphere p v r) (t : ℝ) (i : ℕ) :
    ((Body.integrate · (real t))^[i] b).IsSphere (p + (i * t) • v) v r := by
  induction i with
  | zero => simpa using h
  | succ i ih =>
    have hnext := ih.integrate t
    have hplace : p + (i * t) • v + t • v = p + ((i + 1 : ℕ) * t) • v := by
      rw [Nat.cast_succ]
      module
    rw [hplace] at hnext
    rwa [Function.iterate_succ_apply']

/-- Spheres that are apart do not come into contact on a path that leads away. -/
theorem Approach.contact?_of_receding (h : Approach a b dt path offset reach)
    (hgap : reach < ‖offset‖) (haway : ⟪path, offset⟫ ≤ 0) : a.contact? b (real dt) = none := by
  rcases lt_or_ge ‖path‖ (‖offset‖ - reach) with hfar | hnear
  · exact h.contact?_of_far hgap hfar
  · have hpath : 0 < ‖path‖ := by linarith
    have hclosing : closing path offset ≤ 0 := by
      rw [← closing_mul_norm] at haway
      exact nonpos_of_mul_nonpos_left haway hpath
    rw [h.contact?_of_near hgap hnear, if_pos hclosing]

/-- A sphere in front of another one along a line, which is not slower along it, is not in contact
with it. -/
theorem contact?_of_ahead (ha : a.IsSphere (q + d • n) (w + u • n) s) (hb : b.IsSphere q w r)
    (hn : ‖n‖ = 1) (hd : s + r < d) (hu : 0 ≤ u) (hdt : 0 ≤ dt) :
    a.contact? b (real dt) = none := by
  have hpos : 0 < d := (add_nonneg ha.nonneg hb.nonneg).trans_lt hd
  have happroach : Approach a b dt ((dt * u) • n) ((-d) • n) (s + r) := by
    convert ha.approach hb dt using 1
    · module
    · module
  apply happroach.contact?_of_receding
  · rwa [norm_smul, hn, mul_one, norm_neg, Real.norm_of_nonneg hpos.le]
  · have hself : ⟪n, n⟫ = 1 := by
      rw [real_inner_self_eq_norm_mul_norm, hn, one_mul]
    rw [real_inner_smul_left, real_inner_smul_right, hself]
    have hflown : 0 ≤ dt * u * d := by positivity
    linarith

/-- Spheres that are apart are in contact at once if their relative velocity is no number: what is
no number is not too small for anything. -/
theorem contact?_of_nan (ha : a.position = Vec3.exact p) (hb : b.position = Vec3.exact q)
    (hr : a.radius = real r) (hs : b.radius = real s) (hgap : r + s < ‖q - p‖)
    (hvelocity : a.velocity - b.velocity = ⟨nan, nan, nan⟩) :
    a.contact? b (real dt) = some (real 0) := by
  have hrange : ((a.velocity - b.velocity) * real dt).length = nan := by
    rw [hvelocity]
    rfl
  have hclosing : ((a.velocity - b.velocity) * real dt / nan).dot (Vec3.exact (q - p)) = nan := by
    rw [hvelocity]
    rfl
  have hapart : ¬real (‖q - p‖ - (r + s)) ≤ real 0 := by
    rw [real_le, not_le]
    linarith
  have hmax : Scalar.max (nan / nan) (real 0) = real 0 := by
    have hlt : ¬real 0 < nan / nan := fun h => h
    rw [Scalar.max, if_neg hlt, isNaN_real]
    rfl
  rw [contact?]
  simp only [hrange, ha, hb, hr, hs, Vec3.exact_sub, Vec3.length_exact, real_add, real_sub, zero_eq,
    if_neg hapart, if_neg not_nan_lt, hclosing]
  have hclose : ¬nan ≤ real 0 := fun h => h
  have hmiss : real ‖q - p‖ * real ‖q - p‖ - nan * nan = nan := rfl
  rw [if_neg hclose, hmiss, if_neg not_le_nan]
  exact congrArg some hmax

end Body

namespace Weapon

/-- All that a shot means for the weapon that fires it, for its ship, and for the arena. -/
theorem exists_of_fire_eq_ok {α : Type} [Scalar α] {w : Weapon α} {h : Hull α} {tick : Nat}
    {direction : Vec3 α} {shot : Shot α} (hfire : (w.fire h tick direction).2.2 = .ok shot) :
    ∃ unit, direction.direction? = some unit ∧
      let h' := ({ h with energy := h.energy - w.energy }.shed w.ammoMass).push (-unit)
        (w.ammoMass * w.ammoVelocity)
      (w.fire h tick direction).2.1 = h' ∧ shot =
        { position := h'.body.position + unit * (h'.body.radius + w.ammoRadius + clearance)
          velocity := h'.body.velocity + unit * w.ammoVelocity
          mass := w.ammoMass
          radius := w.ammoRadius } := by
  rcases w.fire_outcome h tick direction with ⟨e, herror, -⟩ | ⟨_, -, -, hfree, hammo, hcool⟩
  · rw [herror] at hfire
    cases hfire
  cases hunit : direction.direction? with
  | none => simp [fire, hfree, hunit] at hfire
  | some unit =>
    have hpaid : ¬h.energy - w.energy < 0.0 := by
      intro hlt
      have hcool' : ({ w with mount := w.mount.markUsed } : Weapon α).cooldownRemaining? tick =
          none := hcool
      simp [fire, hfree, hunit, hammo, hcool', Hull.spend_of_lt hlt] at hfire
    have heq := fire_eq_ok hfree hunit hammo hcool hpaid
    rw [heq] at hfire ⊢
    exact ⟨unit, rfl, rfl, (Except.ok.inj hfire).symm⟩

variable {w : Weapon Exact} {h : Hull Exact} {p v n : Space} {r dt k u s : ℝ}

/-- The recoil changes the velocity of a hull, and nothing else of the sphere that it is. -/
theorem exists_isSphere_push (hh : h.body.IsSphere p v r) (hm : h.body.mass ≠ nan)
    (hdt : h.dt = real dt) (hk : w.ammoMass = real k) (hu : w.ammoVelocity = real u)
    (hne : h.body.mass ≠ w.ammoMass) (n : Space) :
    ∃ v', (((h.shed w.ammoMass).push (-Vec3.exact n)
      (w.ammoMass * w.ammoVelocity)).body).IsSphere p v' r := by
  have hforce : ∃ x, w.ammoMass * w.ammoVelocity / (h.body.mass - w.ammoMass) = real x := by
    rw [hk] at hne ⊢
    rw [hu]
    cases hmass : h.body.mass with
    | real m =>
      have hleft : m - k ≠ 0 := by
        rintro hzero
        rw [hmass, sub_eq_zero.mp hzero] at hne
        exact hne rfl
      exact ⟨k * u / (m - k), by rw [real_mul, real_sub, real_div hleft]⟩
    -- what is infinitely heavy does not feel the recoil
    | posInf => exact ⟨0, rfl⟩
    | negInf => exact ⟨0, rfl⟩
    | nan => exact absurd hmass hm
  obtain ⟨x, hx⟩ := hforce
  refine ⟨v + dt • x • -n, hh.position, ?_, hh.radius, hh.nonneg⟩
  change h.body.velocity +
    -Vec3.exact n * (w.ammoMass * w.ammoVelocity / (h.body.mass - w.ammoMass)) * h.dt = _
  rw [hx, hh.velocity, hdt, Vec3.exact_neg, Vec3.exact_mul, Vec3.exact_mul, Vec3.exact_add]

/-- What is pushed without having a mass is off at an infinite speed, and across its path the speed
is no number. -/
theorem velocity_push_of_massless {f : ℝ} (hm : h.body.mass = real 0) (hv : h.body.velocity = .zero)
    (hdt : h.dt = real 1) (hf : 0 < f) :
    (h.push (-.unitX) (real f)).body.velocity = ⟨negInf, nan, nan⟩ := by
  have hforce : real f / real 0 = posInf := (if_pos rfl).trans (if_pos hf)
  have hminus : signed (-1) = negInf := (if_neg (by norm_num)).trans (if_pos (by norm_num))
  have hnone : signed 0 = nan := (if_neg (lt_irrefl 0)).trans (if_neg (lt_irrefl 0))
  have hback : (0.0 : Exact) + -1.0 * posInf * real 1 = negInf := by
    rw [zero_eq, one_eq, real_neg, show real (-1) * posInf = negInf from hminus,
      show negInf * real 1 = negInf from hminus]
    rfl
  have haside : (0.0 : Exact) + -0.0 * posInf * real 1 = nan := by
    rw [zero_eq, real_neg, neg_zero, show real 0 * posInf = nan from hnone]
    rfl
  change h.body.velocity + -Vec3.unitX * (real f / h.body.mass) * h.dt = _
  rw [hm, hforce, hv, hdt]
  exact congrArg₂ (fun x y => Vec3.mk x y y) hback haside

/-- If the round is not all that a ship weighs, a shot does not start by hitting its own ship. The
projectile is outside the hull with the clearance between the two, it is faster than the hull after
the recoil by the muzzle velocity in the direction of the shot, and they are not in contact then,
nor after any number of ticks in which nothing else happens to them. -/
theorem clears_fire (hh : h.body.IsSphere p v r) (hm : h.body.mass ≠ nan)
    (hne : h.body.mass ≠ w.ammoMass) (hdt : h.dt = real dt) (hk : w.ammoMass = real k)
    (hu : w.ammoVelocity = real u) (hu0 : 0 ≤ u) (hs : w.ammoRadius = real s) (hs0 : 0 ≤ s)
    {tick : Nat} {direction : Vec3 Exact} {shot : Shot Exact}
    (hfire : (w.fire h tick direction).2.2 = .ok shot) (id : ObjectId) :
    let hull := (w.fire h tick direction).2.1.body
    let ball := (shot.projectile id).body
    ∃ unit, direction.direction? = some unit ∧
      ball.position.distance hull.position - (hull.radius + ball.radius) = clearance ∧
      ball.velocity - hull.velocity = unit * w.ammoVelocity ∧
      ∀ t, 0 ≤ t → ∀ i : ℕ, ((Body.integrate · (real t))^[i] ball).contact?
        ((Body.integrate · (real t))^[i] hull) (real t) = none := by
  intro hull ball
  obtain ⟨unit, hunit, hhull, hshot⟩ := exists_of_fire_eq_ok hfire
  obtain ⟨n, hn, rfl⟩ := Vec3.exists_of_direction? hunit
  have hsphere : ∃ v', hull.IsSphere p v' r := by
    rw [show hull = _ from congrArg Hull.body hhull]
    exact exists_isSphere_push hh hm hdt hk hu hne n
  obtain ⟨v', hhull'⟩ := hsphere
  -- the shot is placed by the hull after the recoil
  rw [← hhull] at hshot
  have hposition : ball.position = Vec3.exact (p + (r + s + 1) • n) := by
    have hplace : ball.position =
        hull.position + Vec3.exact n * (hull.radius + w.ammoRadius + clearance) :=
      congrArg Shot.position hshot
    rw [hplace, hhull'.position, hhull'.radius, hs, clearance, one_eq, real_add, real_add,
      Vec3.exact_mul, Vec3.exact_add]
  have hvelocity : ball.velocity = Vec3.exact (v' + u • n) := by
    have hspeed : ball.velocity = hull.velocity + Vec3.exact n * w.ammoVelocity :=
      congrArg Shot.velocity hshot
    rw [hspeed, hhull'.velocity, hu, Vec3.exact_mul, Vec3.exact_add]
  have hradius : ball.radius = real s := (congrArg Shot.radius hshot).trans hs
  have hball : ball.IsSphere (p + (r + s + 1) • n) (v' + u • n) s :=
    ⟨hposition, hvelocity, hradius, hs0⟩
  refine ⟨_, hunit, ?_, ?_, fun t ht i => ?_⟩
  · have hapart : 0 ≤ r + s + 1 := by linarith [hh.nonneg]
    rw [Vec3.distance, hball.position, hhull'.position, Vec3.exact_sub, Vec3.length_exact,
      add_sub_cancel_left, norm_smul, hn, mul_one, Real.norm_of_nonneg hapart, hhull'.radius,
      hradius, real_add, real_sub, add_sub_cancel_left, clearance, one_eq]
  · rw [hvelocity, hhull'.velocity, hu, Vec3.exact_sub, Vec3.exact_mul, add_sub_cancel_left]
  · -- what the shot gains on the hull only adds to the gap
    have hflown : 0 ≤ i * t * u := by positivity
    have hahead : p + (r + s + 1) • n + (i * t) • (v' + u • n) =
        p + (i * t) • v' + (r + s + 1 + i * t * u) • n := by
      module
    have hlater := hball.iterate_integrate t i
    rw [hahead] at hlater
    exact Body.contact?_of_ahead hlater (hhull'.iterate_integrate t i) hn (by linarith) hu0 ht

/-- A ship at rest that fires a quarter of its mass. -/
theorem clears_fire_of_popgun :
    let mount : Mount Exact := ⟨.zero, real 1, real 1, real 1, false⟩
    let gun : Weapon Exact := ⟨mount, real 0, real 3, real 1, real 2, 5, real 0, 0, none⟩
    let hull : Hull Exact :=
      ⟨⟨1, .zero, .zero, real 1, real 4, real 4⟩, "red", real 1, real 0, real 0⟩
    ∃ shot, (gun.fire hull 0 .unitX).2.2 = .ok shot ∧
      let after := (gun.fire hull 0 .unitX).2.1.body
      shot.position.distance after.position - (after.radius + shot.radius) = real 1 ∧
        shot.velocity - after.velocity = (.unitX : Vec3 Exact) * real 3 ∧
        (shot.projectile 2).body.contact? after (real 1) = none := by
  intro mount gun hull
  have hpaid : ¬hull.energy - gun.energy < 0.0 := by
    simp [hull, gun]
  have hcool : gun.cooldownRemaining? 0 = none := rfl
  have hfire := fire_eq_ok (w := gun) (h := hull) rfl Vec3.direction?_unitX (by decide) hcool hpaid
  have hfires : ∃ shot, (gun.fire hull 0 .unitX).2.2 = .ok shot := ⟨_, congrArg (·.2.2) hfire⟩
  obtain ⟨shot, hok⟩ := hfires
  have hmass : hull.body.mass ≠ gun.ammoMass := by
    simp [hull, gun]
  obtain ⟨unit, hunit, hgap, hspeed, hclear⟩ := clears_fire (w := gun) (h := hull)
    ⟨Vec3.zero_eq, Vec3.zero_eq, rfl, zero_le_one⟩ nofun hmass rfl rfl rfl (by norm_num) rfl
    (by norm_num) hok 2
  rw [Vec3.direction?_unitX] at hunit
  obtain rfl := Option.some.inj hunit
  rw [clearance, one_eq] at hgap
  exact ⟨shot, hok, hgap, hspeed, hclear 1 zero_le_one 0⟩

/-- A ship that weighs no more than the round that it fires. Without the round there is nothing left
that the recoil could push, its velocity is no number any more, and it is hit by its own shot. -/
theorem not_clears_fire_of_last_mass :
    let mount : Mount Exact := ⟨.zero, real 1, real 1, real 1, false⟩
    let gun : Weapon Exact := ⟨mount, real 0, real 3, real 1, real 2, 5, real 0, 0, none⟩
    let hull : Hull Exact :=
      ⟨⟨1, .zero, .zero, real 1, real 1, real 1⟩, "red", real 1, real 0, real 0⟩
    ∃ shot, (gun.fire hull 0 .unitX).2.2 = .ok shot ∧
      let after := (gun.fire hull 0 .unitX).2.1.body
      shot.velocity - after.velocity ≠ (.unitX : Vec3 Exact) * real 3 ∧
        (shot.projectile 2).body.contact? after (real 1) = some (real 0) := by
  intro mount gun hull
  have hpaid : ¬hull.energy - gun.energy < 0.0 := by
    simp [hull, gun]
  have hcool : gun.cooldownRemaining? 0 = none := rfl
  have hfire := fire_eq_ok (w := gun) (h := hull) rfl Vec3.direction?_unitX (by decide) hcool hpaid
  have hfires : ∃ shot, (gun.fire hull 0 .unitX).2.2 = .ok shot := ⟨_, congrArg (·.2.2) hfire⟩
  obtain ⟨shot, hok⟩ := hfires
  obtain ⟨unit, hunit, hhull, hshot⟩ := exists_of_fire_eq_ok hok
  rw [Vec3.direction?_unitX] at hunit
  obtain rfl := Option.some.inj hunit
  have hmuzzle : gun.ammoMass * gun.ammoVelocity = real 3 := by
    simp [gun]
  have hleft : hull.body.mass - gun.ammoMass = real 0 := by
    simp [hull, gun]
  have hrecoil : (gun.fire hull 0 .unitX).2.1.body.velocity = ⟨negInf, nan, nan⟩ := by
    rw [hhull, hmuzzle]
    exact velocity_push_of_massless hleft rfl rfl three_pos
  have hrelative : shot.velocity - (gun.fire hull 0 .unitX).2.1.body.velocity =
      ⟨nan, nan, nan⟩ := by
    rw [hshot, ← hhull, hrecoil]
    rfl
  refine ⟨shot, hok, ?_, ?_⟩
  · rw [hrelative, Vec3.unitX_eq, Vec3.exact_mul]
    intro h
    cases congrArg Vec3.x h
  · have hplace : shot.position = Vec3.exact ((4 : ℝ) • EuclideanSpace.single 0 1) := by
      rw [hshot]
      change (Vec3.zero : Vec3 Exact) + Vec3.unitX * (real 1 + real 2 + clearance) = _
      rw [clearance, one_eq, real_add, real_add, Vec3.zero_eq, Vec3.unitX_eq, Vec3.exact_mul,
        Vec3.exact_add, zero_add]
      norm_num
    have hcentre : (gun.fire hull 0 .unitX).2.1.body.position = Vec3.exact 0 := by
      rw [hhull, ← Vec3.zero_eq]
      rfl
    have hball : shot.radius = real 2 := by
      rw [hshot]
    have hradius : (gun.fire hull 0 .unitX).2.1.body.radius = real 1 := by
      rw [hhull]
      rfl
    refine Body.contact?_of_nan hplace hcentre hball hradius ?_ hrelative
    rw [zero_sub, norm_neg, norm_smul, PiLp.norm_single]
    norm_num

end Weapon
end FleetArena
