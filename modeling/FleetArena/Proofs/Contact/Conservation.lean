import FleetArena.Proofs.Battle.Collisions
import FleetArena.Proofs.Contact.Exchange

/-! The laws of conservation: the collisions of a tick keep what the bodies are, heal none of them,
do not push those of infinite mass, keep the sum of the momenta, and add no kinetic energy. -/
namespace FleetArena
open scoped RealInnerProductSpace
open Exact

section
variable {α : Type} [Scalar α]

def Body.momentum (b : Body α) : Vec3 α :=
  b.velocity * b.mass

def Vec3.sum (ws : List (Vec3 α)) : Vec3 α :=
  ws.foldl (· + ·) .zero

end

namespace Body
variable {x y z : Body Exact} {dt e : ℝ}

/-- The body `y` is what collisions have made of `x`. -/
structure Withstands (x y : Body Exact) : Prop where
  id : y.id = x.id
  mass : y.mass = x.mass
  radius : y.radius = x.radius
  health : ∃ d, 0 ≤ d ∧ y.health = x.health - real d
  velocity : x.mass = posInf → y.velocity = x.velocity

theorem Withstands.refl (x : Body Exact) : x.Withstands x :=
  ⟨rfl, rfl, rfl, ⟨0, le_rfl, sub_real_zero.symm⟩, fun _ => rfl⟩

theorem Withstands.trans (h : x.Withstands y) (h' : y.Withstands z) : x.Withstands z := by
  obtain ⟨d, hd, hy⟩ := h.health
  obtain ⟨d', hd', hz⟩ := h'.health
  refine ⟨h'.id.trans h.id, h'.mass.trans h.mass, h'.radius.trans h.radius,
    ⟨d + d', add_nonneg hd hd', ?_⟩, ?_⟩
  · rw [hz, hy, sub_sub_real]
  · intro hmass
    rw [h'.velocity (h.mass.trans hmass), h.velocity hmass]

/-- The momentum of a body of finite mass and velocity. -/
noncomputable def carried (b : Body Exact) : Space :=
  b.mass.toReal • b.velocity.toSpace

/-- The kinetic energy of a body of finite mass and velocity. -/
noncomputable def stored (b : Body Exact) : ℝ :=
  0.5 * b.mass.toReal * (‖b.velocity.toSpace‖ * ‖b.velocity.toSpace‖)

theorem momentum_eq (hm : Scalar.isFinite x.mass = true) (hv : x.velocity.isFinite = true) :
    x.momentum = Vec3.exact x.carried := by
  obtain ⟨m, hm⟩ := isFinite_iff.mp hm
  obtain ⟨v, hv⟩ := Vec3.isFinite_iff.mp hv
  rw [momentum, carried, hm, hv, Vec3.exact_mul, Vec3.toSpace_exact, toReal_real]

theorem kineticEnergy_eq (hm : Scalar.isFinite x.mass = true) (hv : x.velocity.isFinite = true) :
    x.kineticEnergy = real x.stored := by
  obtain ⟨m, hm⟩ := isFinite_iff.mp hm
  obtain ⟨v, hv⟩ := Vec3.isFinite_iff.mp hv
  have hhalf : (0.5 : Exact) = real 0.5 := rfl
  rw [kineticEnergy, stored, hm, hv, Vec3.lengthSquared, Vec3.dot_exact, Vec3.toSpace_exact, hhalf,
    toReal_real, real_mul, real_mul, real_inner_self_eq_norm_mul_norm]

/-- Two bodies after a collision, as against the two before. -/
structure Conserves (x y x' y' : Body Exact) : Prop where
  first : x.Withstands x'
  second : y.Withstands y'
  velocity : x'.velocity.isFinite = true ∧ y'.velocity.isFinite = true
  momentum : Scalar.isFinite x.mass = true → Scalar.isFinite y.mass = true →
    x'.carried + y'.carried = x.carried + y.carried
  energy : Scalar.isFinite x.mass = true → Scalar.isFinite y.mass = true →
    x'.stored + y'.stored ≤ x.stored + y.stored

/-- An impulse along a unit vector changes the square of a velocity as that of a single number. -/
theorem norm_mul_norm_add_smul {u n : Space} (hn : ‖n‖ = 1) (s : ℝ) :
    ‖u + s • n‖ * ‖u + s • n‖ = ‖u‖ * ‖u‖ + 2 * s * ⟪u, n⟫ + s * s := by
  have hself : ⟪n, n⟫ = 1 := by
    rw [real_inner_self_eq_norm_mul_norm, hn, one_mul]
  rw [← real_inner_self_eq_norm_mul_norm, ← real_inner_self_eq_norm_mul_norm, inner_add_left,
    inner_add_right, inner_add_right, real_inner_smul_left, real_inner_smul_left,
    real_inner_smul_right, real_inner_smul_right, real_inner_comm n u, hself]
  ring

section
variable {u v n : Space} {m k p q j : ℝ}

/-- The two impulses cancel. -/
theorem momentum_exchange (hp : m * p = 1) (hq : k * q = 1) :
    m • (u + (j * p) • n) + k • (v - (j * q) • n) = m • u + k • v := by
  have hmp : m • (j * p) • n = j • n := by
    rw [smul_smul, mul_left_comm, hp, mul_one]
  have hkq : k • (j * q) • n = j • n := by
    rw [smul_smul, mul_left_comm, hq, mul_one]
  rw [smul_add, smul_sub, hmp, hkq]
  abel

/-- What the impulses add to the kinetic energy. -/
theorem energy_exchange (hn : ‖n‖ = 1) (hp : m * p = 1) (hq : k * q = 1) :
    0.5 * m * (‖u + (j * p) • n‖ * ‖u + (j * p) • n‖) +
        0.5 * k * (‖v - (j * q) • n‖ * ‖v - (j * q) • n‖) =
      0.5 * m * (‖u‖ * ‖u‖) + 0.5 * k * (‖v‖ * ‖v‖) +
        0.5 * (j * (2 * ⟪u - v, n⟫ + j * (p + q))) := by
  have hsub : v - (j * q) • n = v + (-(j * q)) • n := by
    rw [neg_smul, sub_eq_add_neg]
  have hm : m * (2 * (j * p) * ⟪u, n⟫ + j * p * (j * p)) = j * (2 * ⟪u, n⟫ + j * p) := by
    linear_combination (2 * j * ⟪u, n⟫ + j * j * p) * hp
  have hk : k * (2 * -(j * q) * ⟪v, n⟫ + -(j * q) * -(j * q)) = j * (-2 * ⟪v, n⟫ + j * q) := by
    linear_combination (-2 * j * ⟪v, n⟫ + j * j * q) * hq
  rw [hsub, norm_mul_norm_add_smul hn, norm_mul_norm_add_smul hn, inner_sub_left]
  linarith

end

theorem conserves_rebound (hx : 0.0 < x.mass) (hy : 0.0 < y.mass)
    (hu : x.velocity.isFinite = true) (hv : y.velocity.isFinite = true) (hlow : -1 ≤ e)
    (hhigh : e ≤ 1) :
    x.Conserves y (rebound x y (real e)).first (rebound x y (real e)).second := by
  obtain ⟨u, hu⟩ := Vec3.isFinite_iff.mp hu
  obtain ⟨v, hv⟩ := Vec3.isFinite_iff.mp hv
  obtain ⟨p, hp, hinvx, hxmass, hxinf⟩ := exists_inverseMass hx
  obtain ⟨q, hq, hinvy, hymass, hyinf⟩ := exists_inverseMass hy
  obtain ⟨n, j, d, hn, hd, hloss, hfirst, hsecond⟩ :=
    exists_rebound hu hv hinvx hinvy hp hq hlow hhigh
  rw [hfirst, hsecond]
  refine ⟨⟨rfl, rfl, rfl, ⟨d, hd, rfl⟩, ?_⟩, ⟨rfl, rfl, rfl, ⟨d, hd, rfl⟩, ?_⟩,
    ⟨Vec3.isFinite_iff.mpr ⟨_, rfl⟩, Vec3.isFinite_iff.mpr ⟨_, rfl⟩⟩, ?_, ?_⟩
  · intro hinf
    rw [hurt, hxinf hinf, mul_zero, zero_smul, add_zero, hu]
  · intro hinf
    rw [hurt, hyinf hinf, mul_zero, zero_smul, sub_zero, hv]
  · intro hm hk
    obtain ⟨m, hm⟩ := isFinite_iff.mp hm
    obtain ⟨k, hk⟩ := isFinite_iff.mp hk
    simp only [carried, hurt, hm, hk, hu, hv, Vec3.toSpace_exact, toReal_real]
    exact momentum_exchange (hxmass m hm) (hymass k hk)
  · intro hm hk
    obtain ⟨m, hm⟩ := isFinite_iff.mp hm
    obtain ⟨k, hk⟩ := isFinite_iff.mp hk
    simp only [stored, hurt, hm, hk, hu, hv, Vec3.toSpace_exact, toReal_real]
    rw [energy_exchange hn (hxmass m hm) (hymass k hk)]
    linarith

theorem conserves_collide? {dt cor : Exact} {c : Collision Exact}
    (hc : x.collide? y dt cor = some c) (hcor : cor = real e) (hlow : -1 ≤ e) (hhigh : e ≤ 1)
    (hx : 0.0 < x.mass) (hy : 0.0 < y.mass)
    (hu : x.velocity.isFinite = true) (hv : y.velocity.isFinite = true) :
    x.Conserves y c.first c.second := by
  rw [collide?] at hc
  split at hc
  · cases hc
  · obtain ⟨ratio, -, rfl⟩ := Option.map_eq_some_iff.mp hc
    rw [hcor]
    -- on their way to the contact the bodies change their positions only
    obtain ⟨hfirst, hsecond, hvelocity, hmomentum, henergy⟩ :=
      conserves_rebound (x := x.integrate (ratio * dt)) (y := y.integrate (ratio * dt)) hx hy hu hv
        hlow hhigh
    exact ⟨⟨hfirst.id, hfirst.mass, hfirst.radius, hfirst.health, hfirst.velocity⟩,
      ⟨hsecond.id, hsecond.mass, hsecond.radius, hsecond.health, hsecond.velocity⟩,
      hvelocity, hmomentum, henergy⟩

end Body

theorem Vec3.sum_map_exact (us : List Space) :
    Vec3.sum (us.map Vec3.exact) = Vec3.exact us.sum := by
  have fold (us : List Space) (v : Space) :
      (us.map Vec3.exact).foldl (· + ·) (Vec3.exact v) = Vec3.exact (v + us.sum) := by
    induction us generalizing v with
    | nil => simp
    | cons u us ih => simp [ih, add_assoc]
  rw [Vec3.sum, Vec3.zero_eq, fold, zero_add]

namespace Battle
variable {π δ : Type}

section
variable {α : Type} [Scalar α]

def momentum (b : Battle α π δ) : Vec3 α :=
  Vec3.sum (b.bodies.map (·.momentum))

def kineticEnergy (b : Battle α π δ) : α :=
  Scalar.sum (b.bodies.map (·.kineticEnergy))

end

/-- The bodies `after` some collisions, as against those `before`. -/
structure Conserved (before after : List (Body Exact)) : Prop where
  withstands : List.Forall₂ Body.Withstands before after
  velocity : ∀ x ∈ after, x.velocity.isFinite = true
  momentum : (∀ x ∈ before, Scalar.isFinite x.mass = true) →
    (after.map Body.carried).sum = (before.map Body.carried).sum
  energy : (∀ x ∈ before, Scalar.isFinite x.mass = true) →
    (after.map Body.stored).sum ≤ (before.map Body.stored).sum

variable {before after later : List (Body Exact)} {dt cor : Exact} {e : ℝ}

theorem Conserved.mass (h : Conserved before after) (P : Exact → Prop)
    (hP : ∀ x ∈ before, P x.mass) : ∀ x ∈ after, P x.mass := by
  intro y hy
  obtain ⟨x, hx, hxy⟩ := forall₂_exists_of_mem h.withstands hy
  rw [hxy.mass]
  exact hP x hx

theorem Conserved.hit (h : Conserved before after) (hhit : Hit dt cor after later)
    (hmass : ∀ x ∈ before, 0.0 < x.mass) (hcor : cor = real e) (hlow : -1 ≤ e) (hhigh : e ≤ 1) :
    Conserved before later := by
  obtain ⟨hij, hx, hy, hc⟩ := hhit
  rename_i i j x y c
  have hxmem := List.mem_of_getElem? hx
  have hymem := List.mem_of_getElem? hy
  have hpos := h.mass (0.0 < ·) hmass
  have hpair := Body.conserves_collide? hc hcor hlow hhigh (hpos x hxmem) (hpos y hymem)
    (h.velocity x hxmem) (h.velocity y hymem)
  refine ⟨?_, ?_, ?_, ?_⟩
  · have hset := forall₂_set h.withstands hx fun z hz => hz.trans hpair.first
    apply forall₂_set hset (y := y) _ fun z hz => hz.trans hpair.second
    rw [List.getElem?_set_ne hij, hy]
  · exact forall_mem_set (forall_mem_set h.velocity hpair.velocity.1) hpair.velocity.2
  · -- the sums change by what the pair that collides has more or less
    intro hfinite
    have hfin := h.mass (Scalar.isFinite · = true) hfinite
    rw [sum_map_set_set Body.carried hij hx hy, hpair.momentum (hfin x hxmem) (hfin y hymem),
      sub_self, add_zero]
    exact h.momentum hfinite
  · intro hfinite
    have hfin := h.mass (Scalar.isFinite · = true) hfinite
    rw [sum_map_set_set Body.stored hij hx hy]
    have hle := hpair.energy (hfin x hxmem) (hfin y hymem)
    have hbefore := h.energy hfinite
    linarith

variable {b : Battle Exact π δ}

theorem momentum_eq (hm : ∀ x ∈ b.bodies, Scalar.isFinite x.mass = true)
    (hv : ∀ x ∈ b.bodies, x.velocity.isFinite = true) :
    b.momentum = Vec3.exact (b.bodies.map Body.carried).sum := by
  have hmap : b.bodies.map (·.momentum) = b.bodies.map fun x => Vec3.exact x.carried :=
    List.map_congr_left fun x hx => Body.momentum_eq (hm x hx) (hv x hx)
  rw [momentum, hmap, ← Vec3.sum_map_exact, List.map_map]
  rfl

theorem kineticEnergy_eq (hm : ∀ x ∈ b.bodies, Scalar.isFinite x.mass = true)
    (hv : ∀ x ∈ b.bodies, x.velocity.isFinite = true) :
    b.kineticEnergy = real (b.bodies.map Body.stored).sum := by
  have hmap : b.bodies.map (·.kineticEnergy) = b.bodies.map fun x => real x.stored :=
    List.map_congr_left fun x hx => Body.kineticEnergy_eq (hm x hx) (hv x hx)
  rw [kineticEnergy, hmap, ← sum_map_real, List.map_map]
  rfl

/-- Of bodies of positive mass and finite velocity the collisions of a tick change neither number
nor mass nor radius, they heal none of them and do not push those of infinite mass. If all masses
are finite the sum of the momenta stays as it is, and the kinetic energy does not grow. -/
theorem conserved_collide (hmass : ∀ x ∈ b.bodies, 0.0 < x.mass)
    (hvelocity : ∀ x ∈ b.bodies, x.velocity.isFinite = true) :
    List.Forall₂ Body.Withstands b.bodies b.collide.bodies ∧
      ((∀ x ∈ b.bodies, Scalar.isFinite x.mass = true) →
        b.collide.momentum = b.momentum ∧ b.collide.kineticEnergy ≤ b.kineticEnergy) := by
  -- the law holds before the first collision, and every collision keeps it
  have hrefl : List.Forall₂ Body.Withstands b.bodies b.bodies :=
    List.forall₂_same.mpr fun x _ => .refl x
  have hstart : Conserved b.bodies b.bodies := ⟨hrefl, hvelocity, fun _ => rfl, fun _ => le_rfl⟩
  have hall : Conserved b.bodies b.collide.bodies := by
    apply collide_induction b _ _ hstart
    · intro l l' hhit h
      exact h.hit hhit hmass (e := 0.7) rfl (by norm_num) (by norm_num)
    · intro l l' hhit h
      exact h.hit hhit hmass (e := 0.1) rfl (by norm_num) (by norm_num)
  refine ⟨hall.withstands, ?_⟩
  intro hfinite
  have hfinite' := hall.mass (Scalar.isFinite · = true) hfinite
  constructor
  · rw [momentum_eq hfinite' hall.velocity, momentum_eq hfinite hvelocity, hall.momentum hfinite]
  · rw [kineticEnergy_eq hfinite' hall.velocity, kineticEnergy_eq hfinite hvelocity, real_le]
    exact hall.energy hfinite

/-- Two rocks of different mass that overlap and fly into each other. -/
theorem conserved_collide_of_rocks :
    let axis : Space := EuclideanSpace.single 0 1
    let rock (id : ObjectId) (p v : Space) (mass : ℝ) : Asteroid Exact :=
      ⟨⟨id, Vec3.exact p, Vec3.exact v, real 1, real mass, real mass⟩, "rock"⟩
    let arena : Battle Exact Unit Unit := empty (real 100) .standard
    let b := { arena with asteroids := [rock 1 0 axis 1, rock 2 axis (-axis) 3] }
    (∀ x ∈ b.bodies, 0.0 < x.mass) ∧ (∀ x ∈ b.bodies, x.velocity.isFinite = true) ∧
      List.Forall₂ Body.Withstands b.bodies b.collide.bodies ∧
      b.collide.momentum = b.momentum ∧ b.collide.kineticEnergy ≤ b.kineticEnergy := by
  intro axis rock arena b
  have hbodies : b.bodies = [(rock 1 0 axis 1).body, (rock 2 axis (-axis) 3).body] := rfl
  have hmass : ∀ x ∈ b.bodies, 0.0 < x.mass := by
    rw [hbodies]
    simp [rock]
  have hvelocity : ∀ x ∈ b.bodies, x.velocity.isFinite = true := by
    rw [hbodies]
    simp [rock, Vec3.isFinite, Vec3.exact]
  have hfinite : ∀ x ∈ b.bodies, Scalar.isFinite x.mass = true := by
    rw [hbodies]
    simp [rock]
  obtain ⟨hwithstands, hconserved⟩ := conserved_collide hmass hvelocity
  exact ⟨hmass, hvelocity, hwithstands, hconserved hfinite⟩

end Battle
end FleetArena
