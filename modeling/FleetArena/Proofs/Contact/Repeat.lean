import FleetArena.Proofs.Contact.FirstTouch
import FleetArena.Proofs.Contact.Restitution

/-! Repeated collisions. A collision leaves two bodies touching, or overlapping, and with no
momentum to exchange, so that the same collision once more changes nothing. -/
namespace FleetArena.Body
open Exact
open scoped RealInnerProductSpace

/-- Two bodies after their collision in a tick of length `dt`, if there is one. -/
def collided {α : Type} [Scalar α] (a b : Body α) (dt cor : α) : Body α × Body α :=
  match a.collide? b dt cor with
  | none => (a, b)
  | some c => (c.first, c.second)

/-- Two spheres that touch or overlap and that have nothing to exchange: they do not approach each
other, or neither can be pushed. -/
structure Settled (a b : Body Exact) (p q u v : Space) (r s : ℝ) : Prop where
  first : a.IsSphere p u r
  second : b.IsSphere q v s
  touching : ‖q - p‖ ≤ r + s
  idle : ¬(lightness a.mass + lightness b.mass ≠ 0 ∧ ⟪u - v, normal p q⟫ < 0)

variable {a b : Body Exact} {p q u v path offset : Space} {r s e dt reach : ℝ}

theorem IsSphere.integrate (h : b.IsSphere p v r) (t : ℝ) :
    (b.integrate (real t)).IsSphere (p + t • v) v r := by
  refine ⟨?_, h.velocity, h.radius, h.nonneg⟩
  rw [Body.integrate, h.position, h.velocity, Vec3.exact_mul, Vec3.exact_add]

theorem IsSphere.integrate_zero (h : b.IsSphere p v r) : b.integrate (real 0) = b := by
  have hposition : b.position + b.velocity * real 0 = b.position := by
    rw [h.position, h.velocity, Vec3.exact_mul, Vec3.exact_add, zero_smul, add_zero]
  rw [Body.integrate, hposition]

/-- At a contact the spheres touch or overlap. -/
theorem Approach.exists_of_contact? (h : Approach a b dt path offset reach) (hreach : 0 ≤ reach)
    {t : Exact} (ht : a.contact? b (real dt) = some t) :
    ∃ x, t = real x ∧ separation path offset x ≤ reach := by
  rcases le_or_gt ‖offset‖ reach with hgap | hgap
  · rw [h.contact?_of_touching hgap] at ht
    split at ht
    · obtain rfl := Option.some.inj ht
      exact ⟨0, rfl, (separation_zero path offset).trans_le hgap⟩
    · cases ht
  · rcases h.contact?_cases hreach hgap with ⟨x, hsome, htouch⟩ | ⟨hnone, -⟩
    · rw [hsome] at ht
      exact ⟨x, (Option.some.inj ht).symm, htouch.touch.le⟩
    · rw [hnone] at ht
      cases ht

/-- The exchange of momentum at a contact leaves nothing to exchange. -/
theorem settled_rebound (ha : a.IsSphere p u r) (hb : b.IsSphere q v s) (hx : 0.0 < a.mass)
    (hy : 0.0 < b.mass) (he : 0 ≤ e) (htouching : ‖q - p‖ ≤ r + s) :
    ∃ u' v', Settled (rebound a b (real e)).first (rebound a b (real e)).second p q u' v' r s := by
  by_cases h : lightness a.mass + lightness b.mass ≠ 0 ∧ ⟪u - v, normal p q⟫ < 0
  · obtain ⟨hw, hc⟩ := h
    rw [rebound_of_closing ha.position hb.position ha.velocity hb.velocity hx hy hw hc]
    refine ⟨_, _, ⟨ha.position, rfl, ha.radius, ha.nonneg⟩,
      ⟨hb.position, rfl, hb.radius, hb.nonneg⟩, htouching, ?_⟩
    -- now they part
    rintro ⟨-, hless⟩
    rw [rate_exchange (norm_normal p q) hw] at hless
    nlinarith
  · rw [rebound_of_settled ha.position hb.position ha.velocity hb.velocity hx hy h]
    exact ⟨u, v, ha, hb, htouching, h⟩

theorem Settled.collide?_cases (h : Settled a b p q u v r s) (hx : 0.0 < a.mass)
    (hy : 0.0 < b.mass) (dt : ℝ) (cor : Exact) : a.collide? b (real dt) cor = none ∨
      a.collide? b (real dt) cor = some ⟨⟨a, b, real 0⟩, real 0⟩ := by
  obtain ⟨ha, hb, htouching, hidle⟩ := h
  rw [collide?]
  split
  · exact Or.inl rfl
  rw [(ha.approach hb dt).contact?_of_touching htouching]
  split
  · right
    rw [Option.map_some, real_mul, zero_mul, ha.integrate_zero, hb.integrate_zero,
      rebound_of_settled ha.position hb.position ha.velocity hb.velocity hx hy hidle]
  · exact Or.inl rfl

/-- A collision leaves two spheres settled. -/
theorem settled_of_collide? (ha : a.IsSphere p u r) (hb : b.IsSphere q v s) (hx : 0.0 < a.mass)
    (hy : 0.0 < b.mass) (he : 0 ≤ e) {c : Collision Exact}
    (hc : a.collide? b (real dt) (real e) = some c) : ∃ p' q' u' v',
      Settled c.first c.second p' q' u' v' r s := by
  rw [collide?] at hc
  split at hc
  · cases hc
  obtain ⟨t, ht, rfl⟩ := Option.map_eq_some_iff.mp hc
  obtain ⟨x, rfl, htouching⟩ :=
    (ha.approach hb dt).exists_of_contact? (add_nonneg ha.nonneg hb.nonneg) ht
  have hpath : q + (x * dt) • v - (p + (x * dt) • u) = q - p - x • dt • (u - v) := by
    module
  rw [separation, ← hpath] at htouching
  rw [real_mul]
  exact ⟨_, _, settled_rebound (ha.integrate (x * dt)) (hb.integrate (x * dt)) hx hy he htouching⟩

/-- No contact is paid for twice. If the collision of two spheres of positive, and maybe infinite,
mass is repeated at once, it changes neither of them: there is none, or one that happens at once and
does no damage. -/
theorem collided_twice (ha : a.IsSphere p u r) (hb : b.IsSphere q v s) (hx : 0.0 < a.mass)
    (hy : 0.0 < b.mass) (he : 0 ≤ e) (dt : ℝ) :
    let c := collided a b (real dt) (real e)
    collided c.1 c.2 (real dt) (real e) = c ∧
      (c.1.collide? c.2 (real dt) (real e) = none ∨
        c.1.collide? c.2 (real dt) (real e) = some ⟨⟨c.1, c.2, real 0⟩, real 0⟩) := by
  intro c
  have hcases : c.1.collide? c.2 (real dt) (real e) = none ∨
      c.1.collide? c.2 (real dt) (real e) = some ⟨⟨c.1, c.2, real 0⟩, real 0⟩ := by
    cases hc : a.collide? b (real dt) (real e) with
    | none =>
      have hsame : c = (a, b) := by
        change collided a b (real dt) (real e) = _
        rw [collided, hc]
      rw [hsame]
      exact Or.inl hc
    | some hit =>
      have hhit : c = (hit.first, hit.second) := by
        change collided a b (real dt) (real e) = _
        rw [collided, hc]
      obtain ⟨hfirst, hsecond⟩ := alike_of_collide hc
      obtain ⟨_, _, _, _, hsettled⟩ := settled_of_collide? ha hb hx hy he hc
      rw [hhit]
      exact hsettled.collide?_cases (hfirst.mass ▸ hx) (hsecond.mass ▸ hy) dt (real e)
  refine ⟨?_, hcases⟩
  rcases hcases with hnone | hsome
  · rw [collided, hnone]
  · rw [collided, hsome]

/-- A ball that bounces off a rock which cannot be pushed. -/
theorem collided_twice_bounce :
    let axis : Space := EuclideanSpace.single 0 1
    let ball : Body Exact := ⟨1, Vec3.exact 0, Vec3.exact ((20 : ℝ) • axis), real 1, real 2, real 5⟩
    let rock : Body Exact := ⟨2, Vec3.exact ((5 : ℝ) • axis), Vec3.exact 0, real 1, posInf, real 5⟩
    let c := collided ball rock (real 1) (real 0.7)
    (ball.collide? rock (real 1) (real 0.7)).isSome = true ∧
      collided c.1 c.2 (real 1) (real 0.7) = c := by
  intro axis ball rock c
  have hball : ball.IsSphere 0 ((20 : ℝ) • axis) 1 := ⟨rfl, rfl, rfl, zero_le_one⟩
  have hrock : rock.IsSphere ((5 : ℝ) • axis) 0 1 := ⟨rfl, rfl, rfl, zero_le_one⟩
  have happroach : Approach ball rock 1 ((20 : ℝ) • axis) ((5 : ℝ) • axis) (1 + 1) := by
    have h := hball.approach hrock 1
    rwa [one_smul, sub_zero, sub_zero] at h
  have hcontact : (ball.contact? rock (real 1)).isSome = true :=
    happroach.isSome_of_headOn (by simp [axis]) (by norm_num) (by norm_num) (by norm_num)
      (by norm_num)
  refine ⟨?_, ?_⟩
  · rw [collide?, if_neg (by decide), Option.isSome_map]
    exact hcontact
  · have hheavy : 0.0 < rock.mass := by
      rw [zero_eq, pos_iff]
      exact Or.inr rfl
    exact (collided_twice hball hrock (by simp [ball]) hheavy (by norm_num) 1).1

end FleetArena.Body
