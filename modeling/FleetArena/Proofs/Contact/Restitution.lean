import FleetArena.Proofs.Contact.Conservation

/-! The law of restitution. Two bodies that approach each other along the line of their centres fly
apart at the rate of the approach times the restitution, whatever they do across that line; what is
missing of the rate is what does the damage. -/
namespace FleetArena
open scoped RealInnerProductSpace
open Exact

namespace Body

/-- The unit vector from `q` to `p`, or that along the first axis if they coincide. -/
noncomputable def normal (p q : Space) : Space :=
  if ‖p - q‖ = 0 then (Vec3.unitX : Vec3 Exact).toSpace else ‖p - q‖⁻¹ • (p - q)

theorem norm_normal (p q : Space) : ‖normal p q‖ = 1 := by
  rw [normal]
  split
  · rw [Vec3.unitX_eq, Vec3.toSpace_exact]
    simp
  · rename_i hne
    exact norm_smul_inv_norm (norm_ne_zero_iff.mp hne)

/-- The reciprocal of a mass. That of an infinite one is zero. -/
noncomputable def lightness : Exact → ℝ
  | real m => m⁻¹
  | _ => 0

variable {a b : Body Exact} {p q u v n : Space} {e c j w : ℝ}

theorem normalize?_getD (hp : a.position = Vec3.exact p) (hq : b.position = Vec3.exact q) :
    (a.position - b.position).normalize?.getD .unitX = Vec3.exact (normal p q) := by
  rw [hp, hq, Vec3.exact_sub, normal]
  split
  · rename_i heq
    rw [norm_eq_zero.mp heq, Vec3.normalize?_zero, Option.getD_none, Vec3.unitX_eq,
      Vec3.toSpace_exact]
  · rename_i hne
    rw [Vec3.normalize?_exact (norm_ne_zero_iff.mp hne), Option.getD_some]

theorem inverseMass_eq (h : 0.0 < b.mass) :
    b.inverseMass = real (lightness b.mass) ∧ 0 ≤ lightness b.mass := by
  obtain ⟨x, hx, hinverse, hreal, hinf⟩ := exists_inverseMass h
  have hlight : lightness b.mass = x := by
    rw [zero_eq, pos_iff] at h
    rcases h with ⟨m, hm, hmass⟩ | hmass
    · rw [hmass]
      exact inv_eq_of_mul_eq_one_right (hreal m hmass)
    · rw [hmass, hinf hmass]
      rfl
  rw [hlight]
  exact ⟨hinverse, hx⟩

theorem mul_lightness {m : ℝ} (h : 0.0 < b.mass) (hm : b.mass = real m) :
    m * lightness b.mass = 1 := by
  rw [hm, zero_eq, real_lt] at h
  rw [hm]
  exact mul_inv_cancel₀ h.ne'

theorem damage_eq (e c w : ℝ) :
    0.25 * (-2 * c / w - impulse e c w) = 0.25 * (1 - e) * -c / w := by
  rw [impulse]
  ring

section
variable (hp : a.position = Vec3.exact p) (hq : b.position = Vec3.exact q)
  (hu : a.velocity = Vec3.exact u) (hv : b.velocity = Vec3.exact v) (ha : 0.0 < a.mass)
  (hb : 0.0 < b.mass)
include hp hq hu hv ha hb

/-- Bodies that approach each other along the line of their centres take the impulse. -/
theorem rebound_of_closing (hw : lightness a.mass + lightness b.mass ≠ 0)
    (hc : ⟪u - v, normal p q⟫ < 0) (e : ℝ) :
    let j := impulse e ⟪u - v, normal p q⟫ (lightness a.mass + lightness b.mass)
    let d := 0.25 * (1 - e) * -⟪u - v, normal p q⟫ / (lightness a.mass + lightness b.mass)
    rebound a b (real e) = ⟨a.hurt (u + (j * lightness a.mass) • normal p q) d,
      b.hurt (v - (j * lightness b.mass) • normal p q) d, real d⟩ := by
  intro j d
  obtain ⟨hinva, -⟩ := inverseMass_eq ha
  obtain ⟨hinvb, -⟩ := inverseMass_eq hb
  rw [rebound_of_approach hu hv hinva hinvb (normalize?_getD hp hq) hw hc, damage_eq]

/-- Other bodies are left as they are. -/
theorem rebound_of_settled
    (h : ¬(lightness a.mass + lightness b.mass ≠ 0 ∧ ⟪u - v, normal p q⟫ < 0)) (cor : Exact) :
    rebound a b cor = ⟨a, b, real 0⟩ := by
  obtain ⟨hinva, -⟩ := inverseMass_eq ha
  obtain ⟨hinvb, -⟩ := inverseMass_eq hb
  exact rebound_of_idle hu hv hinva hinvb (normalize?_getD hp hq) h cor

end

section
variable {x y : ℝ}

/-- The impulse turns the rate at which two bodies approach each other around. -/
theorem rate_exchange (hn : ‖n‖ = 1) (hs : x + y ≠ 0) (e : ℝ) :
    let j := impulse e ⟪u - v, n⟫ (x + y)
    ⟪(u + (j * x) • n) - (v - (j * y) • n), n⟫ = -e * ⟪u - v, n⟫ := by
  intro j
  have hself : ⟪n, n⟫ = 1 := by
    rw [real_inner_self_eq_norm_mul_norm, hn, one_mul]
  have hj : j * (x + y) = -(1 + e) * ⟪u - v, n⟫ := div_mul_cancel₀ _ hs
  calc ⟪(u + (j * x) • n) - (v - (j * y) • n), n⟫
      = ⟪(u - v) + (j * (x + y)) • n, n⟫ := by
        congr 1
        module
    _ = ⟪u - v, n⟫ + -(1 + e) * ⟪u - v, n⟫ := by
        rw [inner_add_left, real_inner_smul_left, hself, mul_one, hj]
    _ = -e * ⟪u - v, n⟫ := by ring

/-- Nothing happens across the line of the impulse. -/
theorem inner_add_smul_of_orthogonal {t : Space} (h : ⟪t, n⟫ = 0) (x : ℝ) :
    ⟪u + x • n, t⟫ = ⟪u, t⟫ := by
  rw [inner_add_left, real_inner_smul_left, real_inner_comm t n, h, mul_zero, add_zero]

theorem damage_pos_iff (hc : c < 0) (hs : 0 < w) : 0 < 0.25 * (1 - e) * -c / w ↔ e < 1 := by
  rw [div_pos_iff_of_pos_right hs, mul_pos_iff_of_pos_right (neg_pos.mpr hc),
    mul_pos_iff_of_pos_left (by norm_num), sub_pos]

/-- The kinetic energy that an impulse takes. -/
theorem impulse_energy (hs : w ≠ 0) (e c : ℝ) :
    0.5 * (impulse e c w * (2 * c + impulse e c w * w)) = -((1 - e ^ 2) * c ^ 2 / (2 * w)) := by
  rw [impulse]
  field_simp
  ring

end

/-- Bodies of finite mass lose the kinetic energy that the impulse takes. -/
theorem kineticEnergy_exchange (hn : ‖n‖ = 1) (hu : a.velocity = Vec3.exact u)
    (hv : b.velocity = Vec3.exact v) (ha : 0.0 < a.mass) (hb : 0.0 < b.mass)
    (hfa : Scalar.isFinite a.mass = true) (hfb : Scalar.isFinite b.mass = true)
    (hw : lightness a.mass + lightness b.mass ≠ 0) (e d : ℝ) :
    let c := ⟪u - v, n⟫
    let w := lightness a.mass + lightness b.mass
    let j := impulse e c w
    (a.hurt (u + (j * lightness a.mass) • n) d).kineticEnergy +
        (b.hurt (v - (j * lightness b.mass) • n) d).kineticEnergy =
      a.kineticEnergy + b.kineticEnergy - real ((1 - e ^ 2) * c ^ 2 / (2 * w)) := by
  intro c w j
  obtain ⟨m, hm⟩ := isFinite_iff.mp hfa
  obtain ⟨k, hk⟩ := isFinite_iff.mp hfb
  have hstored : (a.hurt (u + (j * lightness a.mass) • n) d).stored +
      (b.hurt (v - (j * lightness b.mass) • n) d).stored =
        a.stored + b.stored - (1 - e ^ 2) * c ^ 2 / (2 * w) := by
    have hexchange := energy_exchange (j := j) (u := u) (v := v) hn (mul_lightness ha hm)
      (mul_lightness hb hk)
    rw [impulse_energy hw, ← sub_eq_add_neg] at hexchange
    have hma : a.mass.toReal = m := congrArg toReal hm
    have hmb : b.mass.toReal = k := congrArg toReal hk
    simp only [stored, hurt, hma, hmb, hu, hv, Vec3.toSpace_exact]
    exact hexchange
  have hfinite (x : Space) : (Vec3.exact x).isFinite = true := Vec3.isFinite_iff.mpr ⟨x, rfl⟩
  rw [kineticEnergy_eq (x := a.hurt _ d) hfa (hfinite _),
    kineticEnergy_eq (x := b.hurt _ d) hfb (hfinite _), kineticEnergy_eq hfa (hu ▸ hfinite u),
    kineticEnergy_eq hfb (hv ▸ hfinite v), real_add, real_add, real_sub, hstored]

/-- Newton's law of restitution. If two bodies approach each other along the line of their centres,
at the rate `c`, and one of them at least can be pushed, they part at this rate times the
restitution. Their velocities across the line stay as they are, each loses the same health, in
proportion to the part of the elastic impulse that is missing, and bodies of finite mass lose just
the kinetic energy that is missing with it. Otherwise they are left as they are. -/
theorem restitution_rebound (hp : a.position = Vec3.exact p) (hq : b.position = Vec3.exact q)
    (hu : a.velocity = Vec3.exact u) (hv : b.velocity = Vec3.exact v) (ha : 0.0 < a.mass)
    (hb : 0.0 < b.mass) (e : ℝ) :
    let n := normal p q
    let c := ⟪u - v, n⟫
    let w := lightness a.mass + lightness b.mass
    (c < 0 ∧ 0 < w → ∃ (u' v' : Space) (d : ℝ),
      rebound a b (real e) = ⟨a.hurt u' d, b.hurt v' d, real d⟩ ∧ ⟪u' - v', n⟫ = -e * c ∧
      (∀ t, ⟪t, n⟫ = 0 → ⟪u', t⟫ = ⟪u, t⟫ ∧ ⟪v', t⟫ = ⟪v, t⟫) ∧
      d = 0.25 * (1 - e) * -c / w ∧ (0 < d ↔ e < 1) ∧
      (Scalar.isFinite a.mass = true → Scalar.isFinite b.mass = true →
        (a.hurt u' d).kineticEnergy + (b.hurt v' d).kineticEnergy =
          a.kineticEnergy + b.kineticEnergy - real ((1 - e ^ 2) * c ^ 2 / (2 * w)))) ∧
    (¬(c < 0 ∧ 0 < w) → rebound a b (real e) = ⟨a, b, real 0⟩) := by
  intro n c w
  obtain ⟨-, hposa⟩ := inverseMass_eq ha
  obtain ⟨-, hposb⟩ := inverseMass_eq hb
  have hn : ‖n‖ = 1 := norm_normal p q
  constructor
  · rintro ⟨hc, hw⟩
    let j := impulse e c w
    refine ⟨u + (j * lightness a.mass) • n, v - (j * lightness b.mass) • n,
      0.25 * (1 - e) * -c / w, rebound_of_closing hp hq hu hv ha hb hw.ne' hc e,
      rate_exchange hn hw.ne' e, fun t ht => ⟨?_, ?_⟩, rfl, damage_pos_iff hc hw, ?_⟩
    · exact inner_add_smul_of_orthogonal ht _
    · rw [sub_eq_add_neg, ← neg_smul]
      exact inner_add_smul_of_orthogonal ht _
    · intro hfa hfb
      exact kineticEnergy_exchange hn hu hv ha hb hfa hfb hw.ne' e _
  · intro hidle
    apply rebound_of_settled hp hq hu hv ha hb
    rintro ⟨hw, hc⟩
    exact hidle ⟨hc, lt_of_le_of_ne (add_nonneg hposa hposb) hw.symm⟩

/-- Two rocks that hit each other aslant, at four fifths of the speed, and lose one health each. -/
theorem restitution_rebound_aslant :
    let first : Body Exact := ⟨1, Vec3.exact 0, Vec3.exact !₂[10, 0, 0], real 1, real 2, real 5⟩
    let second : Body Exact :=
      ⟨2, Vec3.exact !₂[4, 3, 0], Vec3.exact 0, real 4, real 2, real 5⟩
    (rebound first second (real (1 / 2))).damage = real 1 ∧
      (rebound first second (real (1 / 2))).first.health = real 4 := by
  intro first second
  have hoffset : ‖(0 : Space) - !₂[4, 3, 0]‖ = 5 := by
    rw [zero_sub, norm_neg, EuclideanSpace.norm_eq, Fin.sum_univ_three]
    have hsq : ‖(!₂[4, 3, 0] : Space) 0‖ ^ 2 + ‖(!₂[4, 3, 0] : Space) 1‖ ^ 2 +
        ‖(!₂[4, 3, 0] : Space) 2‖ ^ 2 = 5 * 5 := by
      simp
      norm_num
    rw [hsq]
    exact Real.sqrt_mul_self (by norm_num)
  have hne : ¬‖(0 : Space) - !₂[4, 3, 0]‖ = 0 := by
    rw [hoffset]
    norm_num
  have hrate : ⟪(!₂[10, 0, 0] : Space) - 0, normal 0 !₂[4, 3, 0]⟫ = -8 := by
    rw [normal, if_neg hne, hoffset, real_inner_smul_right, PiLp.inner_apply, Fin.sum_univ_three]
    simp
    norm_num
  have hlight : lightness first.mass + lightness second.mass = 1 := by
    change (2 : ℝ)⁻¹ + 2⁻¹ = 1
    norm_num
  obtain ⟨happroach, -⟩ := restitution_rebound (a := first) (b := second) rfl rfl rfl rfl
    (by simp [first]) (by simp [second]) (1 / 2)
  rw [hrate, hlight] at happroach
  obtain ⟨u, v, d, hrebound, -, -, hd, -⟩ := happroach ⟨by norm_num, one_pos⟩
  have hone : d = 1 := by
    rw [hd]
    norm_num
  rw [hrebound, hone]
  refine ⟨rfl, ?_⟩
  change real 5 - real 1 = real 4
  rw [real_sub]
  norm_num

end Body
end FleetArena
