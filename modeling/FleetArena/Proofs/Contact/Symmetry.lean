import FleetArena.Proofs.Contact.Repeat

/-! A collision does not depend on which of the two bodies is named first. The path and the offset
turn around with the order, which the time of contact does not feel; and so does the line of the
centres, with the impulse along it. Only where the centres coincide is there no line to turn. -/
namespace FleetArena.Body
open Exact
open scoped RealInnerProductSpace

/-- The same exchange with the bodies named in the other order. -/
def Rebound.swap {α : Type} (r : Rebound α) : Rebound α :=
  ⟨r.second, r.first, r.damage⟩

/-- The same collision with the bodies named in the other order. -/
def Collision.swap {α : Type} (c : Collision α) : Collision α :=
  ⟨c.toRebound.swap, c.ratio⟩

variable {a b : Body Exact} {p q u v path offset : Space} {r s dt reach x : ℝ}

@[simp] theorem closing_neg (path offset : Space) :
    closing (-path) (-offset) = closing path offset := by
  rw [closing, closing, norm_neg, smul_neg, inner_neg_neg]

@[simp] theorem travel_neg (path offset : Space) (reach : ℝ) :
    travel (-path) (-offset) reach = travel path offset reach := by
  rw [travel, travel, closing_neg, norm_neg]

/-- The time of contact is the same along the reversed path. -/
theorem Approach.contact?_reverse (h : Approach a b dt path offset reach)
    (h' : Approach b a dt (-path) (-offset) reach) :
    b.contact? a (real dt) = a.contact? b (real dt) := by
  rcases le_or_gt ‖offset‖ reach with hgap | hgap
  · rw [h.contact?_of_overlap hgap, h'.contact?_of_overlap (by rwa [norm_neg]), norm_neg,
      inner_neg_neg]
  have hgap' : reach < ‖-offset‖ := by rwa [norm_neg]
  rcases lt_or_ge ‖path‖ (‖offset‖ - reach) with hfar | hnear
  · have hfar' : ‖-path‖ < ‖-offset‖ - reach := by rwa [norm_neg, norm_neg]
    rw [h.contact?_of_far hgap hfar, h'.contact?_of_far hgap' hfar']
  · have hnear' : ‖-offset‖ - reach ≤ ‖-path‖ := by rwa [norm_neg, norm_neg]
    rw [h.contact?_of_near hgap hnear, h'.contact?_of_near hgap' hnear', closing_neg, travel_neg,
      norm_neg, norm_neg]

theorem IsSphere.contact?_swap (ha : a.IsSphere p u r) (hb : b.IsSphere q v s) (dt : ℝ) :
    b.contact? a (real dt) = a.contact? b (real dt) := by
  have hback := hb.approach ha dt
  rw [← neg_sub u v, smul_neg, ← neg_sub q p, add_comm s r] at hback
  exact (ha.approach hb dt).contact?_reverse hback

theorem normal_swap (hne : p ≠ q) : normal q p = -normal p q := by
  have hpq : ¬‖p - q‖ = 0 := norm_ne_zero_iff.mpr (sub_ne_zero.mpr hne)
  have hqp : ¬‖q - p‖ = 0 := norm_ne_zero_iff.mpr (sub_ne_zero.mpr hne.symm)
  rw [normal, normal, if_neg hpq, if_neg hqp, ← smul_neg, neg_sub, norm_sub_rev]

/-- Two bodies approach each other at one rate, in whichever order they are named. -/
theorem rate_swap (hne : p ≠ q) : ⟪v - u, normal q p⟫ = ⟪u - v, normal p q⟫ := by
  rw [normal_swap hne, ← neg_sub u v, inner_neg_neg]

/-- What one body takes with one sign the other takes with the other. -/
theorem rebound_swap (ha : a.IsSphere p u r) (hb : b.IsSphere q v s) (hx : 0.0 < a.mass)
    (hy : 0.0 < b.mass) (hne : p ≠ q) (e : ℝ) :
    rebound b a (real e) = (rebound a b (real e)).swap := by
  have hrate : ⟪v - u, normal q p⟫ = ⟪u - v, normal p q⟫ := rate_swap hne
  by_cases h : lightness a.mass + lightness b.mass ≠ 0 ∧ ⟪u - v, normal p q⟫ < 0
  · obtain ⟨hw, hc⟩ := h
    have hw' : lightness b.mass + lightness a.mass ≠ 0 := by rwa [add_comm]
    have hc' : ⟪v - u, normal q p⟫ < 0 := by rwa [hrate]
    rw [rebound_of_closing hb.position ha.position hb.velocity ha.velocity hy hx hw' hc',
      rebound_of_closing ha.position hb.position ha.velocity hb.velocity hx hy hw hc, hrate,
      normal_swap hne, add_comm (lightness b.mass), smul_neg, smul_neg, sub_neg_eq_add,
      ← sub_eq_add_neg]
    rfl
  · have h' : ¬(lightness b.mass + lightness a.mass ≠ 0 ∧ ⟪v - u, normal q p⟫ < 0) := by
      rwa [hrate, add_comm]
    rw [rebound_of_settled hb.position ha.position hb.velocity ha.velocity hy hx h',
      rebound_of_settled ha.position hb.position ha.velocity hb.velocity hx hy h]
    rfl

/-- The path comes closest to the other centre at some distance from it, be it zero. -/
theorem missSquared_nonneg (path offset : Space) : 0 ≤ missSquared path offset := by
  have hunit : ‖‖path‖⁻¹ • path‖ ≤ 1 := by
    rw [norm_smul, norm_inv, norm_norm]
    exact inv_mul_le_one
  have hclosing : |closing path offset| ≤ |‖offset‖| := by
    rw [abs_of_nonneg (norm_nonneg offset)]
    calc |closing path offset| ≤ ‖‖path‖⁻¹ • path‖ * ‖offset‖ := abs_real_inner_le_norm _ _
      _ ≤ 1 * ‖offset‖ := by gcongr
      _ = ‖offset‖ := one_mul _
  rw [missSquared, sub_nonneg]
  exact abs_le_iff_mul_self_le.mp hclosing

/-- Points that are apart never come into contact, however straight they fly at each other. -/
theorem Approach.reach_pos (h : Approach a b dt path offset reach) (hreach : 0 ≤ reach)
    (hgap : reach < ‖offset‖) (hcontact : (a.contact? b (real dt)).isSome = true) : 0 < reach := by
  apply lt_of_le_of_ne hreach
  rintro rfl
  rcases lt_or_ge ‖path‖ (‖offset‖ - 0) with hfar | hnear
  · rw [h.contact?_of_far hgap hfar] at hcontact
    cases hcontact
  · have hmiss : (0 : ℝ) * 0 ≤
        ‖offset‖ * ‖offset‖ - closing path offset * closing path offset := by
      rw [mul_zero]
      exact missSquared_nonneg path offset
    rw [h.contact?_of_near hgap hnear, if_pos hmiss, ite_self] at hcontact
    cases hcontact

/-- Spheres that are apart at the start have their centres apart when they touch. -/
theorem IsSphere.position_ne_of_contact? (ha : a.IsSphere p u r) (hb : b.IsSphere q v s)
    (hgap : r + s < ‖q - p‖) (hcontact : a.contact? b (real dt) = some (real x)) :
    p + (x * dt) • u ≠ q + (x * dt) • v := by
  have happroach := ha.approach hb dt
  have hreach : 0 ≤ r + s := add_nonneg ha.nonneg hb.nonneg
  have hpos : 0 < r + s := happroach.reach_pos hreach hgap (by rw [hcontact]; rfl)
  intro heq
  have hclosed : separation (dt • (u - v)) (q - p) x = 0 := by
    have hpath : q - p - x • dt • (u - v) = q + (x * dt) • v - (p + (x * dt) • u) := by
      module
    rw [separation, hpath, heq, sub_self, norm_zero]
  rcases happroach.contact?_cases hreach hgap with ⟨y, hsome, htouch⟩ | ⟨hnone, -⟩
  · rw [hcontact] at hsome
    obtain rfl := real.inj (Option.some.inj hsome)
    exact hpos.ne (hclosed.symm.trans htouch.touch)
  · rw [hcontact] at hnone
    cases hnone

theorem collide?_of_contact? (hid : a.id ≠ b.id) (h : a.contact? b (real dt) = some (real x))
    (cor : Exact) : a.collide? b (real dt) cor =
      some ⟨rebound (a.integrate (real (x * dt))) (b.integrate (real (x * dt))) cor, real x⟩ := by
  rw [collide?, if_neg hid, h, Option.map_some, real_mul]

/-- The order in which two bodies of positive, and maybe infinite, mass are named does not matter.
Whether they collide, and when, never depends on it. Unless their centres coincide at the moment of
contact, each of them is left in the same state and with the same damage; and they cannot coincide
if the spheres are apart at the start. -/
theorem collide?_swap (ha : a.IsSphere p u r) (hb : b.IsSphere q v s) (hx : 0.0 < a.mass)
    (hy : 0.0 < b.mass) (dt e : ℝ) :
    let there := a.collide? b (real dt) (real e)
    let back := b.collide? a (real dt) (real e)
    back.map (·.ratio) = there.map (·.ratio) ∧
      ((∀ t, a.contact? b (real dt) = some t →
        (a.integrate (t * real dt)).position ≠ (b.integrate (t * real dt)).position) →
          back = there.map Collision.swap) ∧
      (r + s < ‖q - p‖ → back = there.map Collision.swap) := by
  intro there back
  have htime : b.contact? a (real dt) = a.contact? b (real dt) := ha.contact?_swap hb dt
  by_cases hid : a.id = b.id
  · have hthere : there = none := if_pos hid
    have hback : back = none := if_pos hid.symm
    simp [hthere, hback]
  cases hcontact : a.contact? b (real dt) with
  | none =>
    have hthere : there = none := by simp [there, collide?, hcontact]
    have hback : back = none := by simp [back, collide?, htime, hcontact]
    simp [hthere, hback]
  | some t =>
    obtain ⟨x, rfl, -⟩ :=
      (ha.approach hb dt).exists_of_contact? (add_nonneg ha.nonneg hb.nonneg) hcontact
    have ha' := ha.integrate (x * dt)
    have hb' := hb.integrate (x * dt)
    have hthere : there = some ⟨rebound (a.integrate (real (x * dt))) (b.integrate (real (x * dt)))
        (real e), real x⟩ := collide?_of_contact? hid hcontact _
    have hback : back = some ⟨rebound (b.integrate (real (x * dt))) (a.integrate (real (x * dt)))
        (real e), real x⟩ := collide?_of_contact? (Ne.symm hid) (htime.trans hcontact) _
    -- all that is left is the exchange at the moment of contact
    have hswap (hne : p + (x * dt) • u ≠ q + (x * dt) • v) : back = there.map Collision.swap := by
      rw [hback, hthere, rebound_swap ha' hb' hx hy hne]
      rfl
    refine ⟨?_, fun hapart => hswap fun heq => ?_, fun hgap => hswap ?_⟩
    · rw [hback, hthere]
      rfl
    · apply hapart (real x) rfl
      rw [real_mul, ha'.position, hb'.position, heq]
    · exact ha.position_ne_of_contact? hb hgap hcontact

/-- A ship and a rock that cannot be pushed, which it hits head on. -/
theorem collide?_swap_headOn :
    let axis : Space := EuclideanSpace.single 0 1
    let ship : Body Exact := ⟨1, Vec3.exact 0, Vec3.exact ((20 : ℝ) • axis), real 1, real 2, real 5⟩
    let rock : Body Exact := ⟨2, Vec3.exact ((5 : ℝ) • axis), Vec3.exact 0, real 1, posInf, real 5⟩
    (ship.collide? rock (real 1) (real 0.7)).isSome = true ∧
      rock.collide? ship (real 1) (real 0.7) =
        (ship.collide? rock (real 1) (real 0.7)).map Collision.swap := by
  intro axis ship rock
  have hship : ship.IsSphere 0 ((20 : ℝ) • axis) 1 := ⟨rfl, rfl, rfl, zero_le_one⟩
  have hrock : rock.IsSphere ((5 : ℝ) • axis) 0 1 := ⟨rfl, rfl, rfl, zero_le_one⟩
  have hunit : ‖axis‖ = 1 := by simp [axis]
  have hgap : (1 + 1 : ℝ) < ‖(5 : ℝ) • axis - 0‖ := by
    rw [sub_zero, norm_smul, hunit]
    norm_num
  have happroach : Approach ship rock 1 ((20 : ℝ) • axis) ((5 : ℝ) • axis) (1 + 1) := by
    have h := hship.approach hrock 1
    rwa [one_smul, sub_zero, sub_zero] at h
  have hcontact : (ship.contact? rock (real 1)).isSome = true :=
    happroach.isSome_of_headOn hunit (by norm_num) (by norm_num) (by norm_num) (by norm_num)
  have hheavy : 0.0 < rock.mass := by
    rw [zero_eq, pos_iff]
    exact Or.inr rfl
  refine ⟨?_, (collide?_swap hship hrock (by simp [ship]) hheavy 1 0.7).2.2 hgap⟩
  rw [collide?, if_neg (by decide), Option.isSome_map]
  exact hcontact

end FleetArena.Body
