import FleetArena.Proofs.Contact.Time

/-! The time of contact is exact. The square of the distance of the centres is quadratic along the
path, and of the two places at which it is that of touching spheres the time of contact is the
first. Where there is no contact the spheres do not overlap within the tick. -/
namespace FleetArena.Body
open Exact
open scoped RealInnerProductSpace

/-- The distance of the centres at the part `x` of the path. -/
noncomputable def separation (path offset : Space) (x : ℝ) : ℝ :=
  ‖offset - x • path‖

/-- The square of the distance of the centres where they are closest, if the path goes on. -/
noncomputable def missSquared (path offset : Space) : ℝ :=
  ‖offset‖ * ‖offset‖ - closing path offset * closing path offset

/-- The spheres touch at the part `x` of the path, and are apart before. -/
structure TouchesFirst (path offset : Space) (reach x : ℝ) : Prop where
  pos : 0 < x
  le_one : x ≤ 1
  touch : separation path offset x = reach
  apart : ∀ y, 0 ≤ y → y < x → reach < separation path offset y

/-- The spheres do not overlap on the path. If they touch at all they graze each other, so that they
would not overlap on a longer path either. -/
structure Misses (path offset : Space) (reach : ℝ) : Prop where
  apart : ∀ y, 0 ≤ y → y ≤ 1 → reach ≤ separation path offset y
  graze : ∀ y, 0 ≤ y → y ≤ 1 → separation path offset y = reach →
    ∀ z, reach ≤ separation path offset z

section
variable {path offset : Space} {reach : ℝ}

theorem closing_mul_norm (path offset : Space) : closing path offset * ‖path‖ = ⟪path, offset⟫ := by
  by_cases hpath : ‖path‖ = 0
  · rw [norm_eq_zero.mp hpath, norm_zero, mul_zero, inner_zero_left]
  · rw [closing, real_inner_smul_left, mul_comm, mul_inv_cancel_left₀ hpath]

/-- The distance is made up of that of the closest approach and of the way to or from there. -/
theorem separation_sq (path offset : Space) (x : ℝ) : separation path offset x ^ 2 =
    missSquared path offset + (closing path offset - x * ‖path‖) ^ 2 := by
  have hcross : ⟪offset, x • path⟫ = x * (closing path offset * ‖path‖) := by
    rw [real_inner_smul_right, real_inner_comm, closing_mul_norm]
  have hlength : ‖x • path‖ ^ 2 = x ^ 2 * ‖path‖ ^ 2 := by
    rw [norm_smul, mul_pow, Real.norm_eq_abs, sq_abs]
  calc separation path offset x ^ 2
      = ‖offset‖ ^ 2 - 2 * (x * (closing path offset * ‖path‖)) + x ^ 2 * ‖path‖ ^ 2 := by
        rw [separation, norm_sub_sq_real, hcross, hlength]
    _ = missSquared path offset + (closing path offset - x * ‖path‖) ^ 2 := by
        rw [missSquared]
        ring

theorem separation_nonneg (path offset : Space) (x : ℝ) : 0 ≤ separation path offset x :=
  norm_nonneg _

@[simp] theorem separation_zero (path offset : Space) : separation path offset 0 = ‖offset‖ := by
  rw [separation, zero_smul, sub_zero]

/-- Centres cannot come closer than by what they have flown. -/
theorem norm_sub_le_separation (path offset : Space) {x : ℝ} (hx : 0 ≤ x) :
    ‖offset‖ - x * ‖path‖ ≤ separation path offset x := by
  have hlength : ‖x • path‖ = x * ‖path‖ := by
    rw [norm_smul, Real.norm_of_nonneg hx]
  rw [← hlength]
  exact norm_sub_norm_le offset (x • path)

theorem misses_of_lt (h : ∀ y, 0 ≤ y → y ≤ 1 → reach < separation path offset y) :
    Misses path offset reach :=
  ⟨fun y hy hle => (h y hy hle).le, fun y hy hle htouch => absurd htouch (h y hy hle).ne'⟩

/-- A path that is too short. -/
theorem misses_of_far (h : ‖path‖ < ‖offset‖ - reach) : Misses path offset reach := by
  apply misses_of_lt
  intro y hy hle
  have hflown : y * ‖path‖ ≤ ‖path‖ := mul_le_of_le_one_left (norm_nonneg path) hle
  linarith [norm_sub_le_separation path offset hy]

/-- A path that leads away. -/
theorem misses_of_receding (hgap : reach < ‖offset‖) (h : closing path offset ≤ 0) :
    Misses path offset reach := by
  apply misses_of_lt
  intro y hy _
  apply hgap.trans_le
  apply le_of_sq_le_sq _ (separation_nonneg path offset y)
  have hway : closing path offset ^ 2 ≤ (closing path offset - y * ‖path‖) ^ 2 := by
    have hflown : 0 ≤ y * ‖path‖ := mul_nonneg hy (norm_nonneg path)
    nlinarith
  calc ‖offset‖ ^ 2 = missSquared path offset + closing path offset ^ 2 := by
        rw [missSquared]
        ring
    _ ≤ separation path offset y ^ 2 := by
        rw [separation_sq]
        linarith

/-- A path that passes by. It may graze. -/
theorem misses_of_missSquared (h : reach * reach ≤ missSquared path offset) :
    Misses path offset reach := by
  have hall (y : ℝ) : reach ≤ separation path offset y := by
    apply le_of_sq_le_sq _ (separation_nonneg path offset y)
    rw [separation_sq, sq]
    linarith [sq_nonneg (closing path offset - y * ‖path‖)]
  exact ⟨fun y _ _ => hall y, fun _ _ _ _ => hall⟩

/-- How far from the place of the closest approach the spheres touch. -/
theorem sq_closing_sub_travel (h : missSquared path offset ≤ reach * reach) :
    0 ≤ closing path offset - travel path offset reach ∧
      (closing path offset - travel path offset reach) ^ 2 =
        reach * reach - missSquared path offset := by
  have hroot : closing path offset - travel path offset reach =
      √(reach * reach - missSquared path offset) := sub_sub_cancel _ _
  rw [hroot]
  exact ⟨Real.sqrt_nonneg _, Real.sq_sqrt (sub_nonneg.mpr h)⟩

/-- Up to the place at which they touch the spheres are apart. -/
theorem lt_separation_of_lt_travel {x : ℝ} (hmiss : missSquared path offset ≤ reach * reach)
    (h : x * ‖path‖ < travel path offset reach) : reach < separation path offset x := by
  obtain ⟨hnonneg, hsq⟩ := sq_closing_sub_travel hmiss
  apply lt_of_pow_lt_pow_left₀ 2 (separation_nonneg path offset x)
  have hway : (closing path offset - travel path offset reach) ^ 2 <
      (closing path offset - x * ‖path‖) ^ 2 := by
    apply pow_lt_pow_left₀ _ hnonneg two_ne_zero
    linarith
  calc reach ^ 2 = missSquared path offset +
        (closing path offset - travel path offset reach) ^ 2 := by
        rw [hsq]
        ring
    _ < separation path offset x ^ 2 := by
        rw [separation_sq]
        linarith

theorem separation_of_travel {x : ℝ} (hreach : 0 ≤ reach)
    (hmiss : missSquared path offset ≤ reach * reach)
    (h : x * ‖path‖ = travel path offset reach) : separation path offset x = reach := by
  obtain ⟨-, hsq⟩ := sq_closing_sub_travel hmiss
  apply (pow_left_inj₀ (separation_nonneg path offset x) hreach two_ne_zero).mp
  rw [separation_sq, h, hsq]
  ring

/-- Spheres that are apart have some way to go before they touch. -/
theorem travel_pos (hreach : 0 ≤ reach) (hgap : reach < ‖offset‖)
    (hclosing : 0 < closing path offset) (hmiss : missSquared path offset ≤ reach * reach) :
    0 < travel path offset reach := by
  obtain ⟨hnonneg, hsq⟩ := sq_closing_sub_travel hmiss
  have hless : (closing path offset - travel path offset reach) ^ 2 < closing path offset ^ 2 := by
    rw [hsq, missSquared]
    nlinarith
  have hroot := lt_of_pow_lt_pow_left₀ 2 hclosing.le hless
  linarith

theorem touchesFirst_of_travel (hreach : 0 ≤ reach) (hgap : reach < ‖offset‖)
    (hclosing : 0 < closing path offset) (hmiss : missSquared path offset ≤ reach * reach)
    (hnear : travel path offset reach ≤ ‖path‖) :
    TouchesFirst path offset reach (travel path offset reach / ‖path‖) := by
  have htravel := travel_pos hreach hgap hclosing hmiss
  have hpath : 0 < ‖path‖ := htravel.trans_le hnear
  refine ⟨div_pos htravel hpath, (div_le_one hpath).mpr hnear, ?_, fun y _ hy => ?_⟩
  · exact separation_of_travel hreach hmiss (div_mul_cancel₀ _ hpath.ne')
  · exact lt_separation_of_lt_travel hmiss ((lt_div_iff₀ hpath).mp hy)

end

variable {a b : Body Exact} {path offset : Space} {reach dt : ℝ}

/-- Spheres that are apart have a contact at the place where they touch first, or have none and miss
each other. -/
theorem Approach.contact?_cases (h : Approach a b dt path offset reach) (hreach : 0 ≤ reach)
    (hgap : reach < ‖offset‖) :
    (∃ x, a.contact? b (real dt) = some (real x) ∧ TouchesFirst path offset reach x) ∨
      a.contact? b (real dt) = none ∧ Misses path offset reach := by
  by_cases hfar : ‖path‖ < ‖offset‖ - reach
  · exact Or.inr ⟨h.contact?_of_far hgap hfar, misses_of_far hfar⟩
  rw [h.contact?_of_near hgap (not_lt.mp hfar)]
  split
  · rename_i hclosing
    exact Or.inr ⟨rfl, misses_of_receding hgap hclosing⟩
  rename_i hclosing
  split
  · rename_i hmiss
    exact Or.inr ⟨rfl, misses_of_missSquared hmiss⟩
  rename_i hmiss
  have hmiss : missSquared path offset ≤ reach * reach := (not_le.mp hmiss).le
  split
  · rename_i hshort
    refine Or.inr ⟨rfl, misses_of_lt fun y _ hle => ?_⟩
    have hflown : y * ‖path‖ ≤ ‖path‖ := mul_le_of_le_one_left (norm_nonneg path) hle
    exact lt_separation_of_lt_travel hmiss (hflown.trans_lt hshort)
  · rename_i hlong
    have htouch := touchesFirst_of_travel hreach hgap (not_le.mp hclosing) hmiss (not_lt.mp hlong)
    -- the bound at zero is for rounding errors only
    rw [max_eq_left htouch.pos.le]
    exact Or.inl ⟨_, rfl, htouch⟩

/-- Spheres that touch or overlap have a contact at once or none. -/
theorem Approach.contact?_of_touching (h : Approach a b dt path offset reach)
    (hgap : ‖offset‖ ≤ reach) : a.contact? b (real dt) =
      if ‖path‖ ≤ 1e-12 ∨ 0 < ⟪path, offset⟫ then some (real 0) else none := by
  rw [h.contact?_of_overlap hgap]
  by_cases hrest : ‖path‖ ≤ 1e-12
  · rw [if_pos hrest, if_pos (Or.inl hrest)]
  · rw [if_neg hrest]
    by_cases hback : ⟪path, offset⟫ ≤ 0
    · rw [if_pos hback, if_neg (not_or_intro hrest (not_lt.mpr hback))]
    · rw [if_neg hback, if_pos (Or.inr (not_le.mp hback))]

variable {p q v w : Space} {r s : ℝ}

/-- The time of contact is exact. Write `d x` for the distance of the centres at the part `x` of a
tick. If two spheres are apart at the start, a contact is the first moment of the tick at which they
touch; and if there is none, they do not overlap within the tick, and touch at most by a graze, in a
path along which they never would overlap. If they touch or overlap at the start, they are in
contact at once if they approach each other or stay close to where they are, and not at all
otherwise. -/
theorem firstTouch_contact (ha : a.IsSphere p v r) (hb : b.IsSphere q w s) (dt : ℝ) :
    let path := dt • (v - w)
    let d (x : ℝ) := ‖(q - p) - x • path‖
    (r + s < d 0 →
      (∀ t, a.contact? b (real dt) = some t → ∃ x, t = real x ∧ 0 < x ∧ x ≤ 1 ∧ d x = r + s ∧
        ∀ y, 0 ≤ y → y < x → r + s < d y) ∧
      (a.contact? b (real dt) = none → (∀ y, 0 ≤ y → y ≤ 1 → r + s ≤ d y) ∧
        ∀ y, 0 ≤ y → y ≤ 1 → d y = r + s → ∀ z, r + s ≤ d z)) ∧
    (d 0 ≤ r + s →
      (a.contact? b (real dt) = some (real 0) ↔ ‖path‖ ≤ 1e-12 ∨ 0 < ⟪path, q - p⟫) ∧
      (a.contact? b (real dt) = none ↔ ¬(‖path‖ ≤ 1e-12 ∨ 0 < ⟪path, q - p⟫))) := by
  intro path d
  have happroach := ha.approach hb dt
  have hreach : 0 ≤ r + s := add_nonneg ha.nonneg hb.nonneg
  have hstart : d 0 = ‖q - p‖ := separation_zero path (q - p)
  rw [hstart]
  constructor
  · intro hgap
    rcases happroach.contact?_cases hreach hgap with ⟨x, hsome, htouch⟩ | ⟨hnone, hmiss⟩
    · rw [hsome]
      refine ⟨fun t ht => ?_, nofun⟩
      exact ⟨x, (Option.some.inj ht).symm, htouch.pos, htouch.le_one, htouch.touch, htouch.apart⟩
    · rw [hnone]
      exact ⟨nofun, fun _ => ⟨hmiss.apart, hmiss.graze⟩⟩
  · intro hgap
    rw [happroach.contact?_of_touching hgap]
    split
    · rename_i happroaching
      simp [path, happroaching]
    · rename_i happroaching
      simp [path, happroaching]

/-- A ball of radius one flies past one of radius four, three beside its centre, and touches it
after two fifths of the tick. -/
theorem firstTouch_contact_oblique :
    let ball : Body Exact :=
      ⟨1, Vec3.exact 0, Vec3.exact !₂[10, 0, 0], real 1, real 1, real 1⟩
    let rock : Body Exact := ⟨2, Vec3.exact !₂[8, 3, 0], Vec3.exact 0, real 4, posInf, real 1⟩
    ball.contact? rock (real 1) = some (real (2 / 5)) := by
  intro ball rock
  have hball : ball.IsSphere 0 !₂[10, 0, 0] 1 := ⟨rfl, rfl, rfl, zero_le_one⟩
  have hrock : rock.IsSphere !₂[8, 3, 0] 0 4 := ⟨rfl, rfl, rfl, by norm_num⟩
  have hdistance (x : ℝ) : ‖(!₂[8, 3, 0] - 0 : Space) - x • (1 : ℝ) • (!₂[10, 0, 0] - 0 : Space)‖ =
      √((8 - 10 * x) ^ 2 + 9) := by
    rw [EuclideanSpace.norm_eq, Fin.sum_univ_three]
    congr 1
    simp
    ring
  obtain ⟨hapart, -⟩ := firstTouch_contact hball hrock 1
  simp only [hdistance] at hapart
  have hstart : (1 + 4 : ℝ) < √((8 - 10 * 0) ^ 2 + 9) := Real.lt_sqrt_of_sq_lt (by norm_num)
  obtain ⟨hsome, hnone⟩ := hapart hstart
  cases hcontact : ball.contact? rock (real 1) with
  | none =>
    -- the centres would come as close as three
    have hclose := (hnone hcontact).1 (4 / 5) (by norm_num) (by norm_num)
    have hthree : √((8 - 10 * (4 / 5)) ^ 2 + 9 : ℝ) = 3 := by
      rw [show ((8 - 10 * (4 / 5)) ^ 2 + 9 : ℝ) = 3 * 3 by norm_num]
      exact Real.sqrt_mul_self (by norm_num)
    linarith
  | some t =>
    obtain ⟨x, rfl, -, hle, htouch, -⟩ := hsome t hcontact
    have hsq : (8 - 10 * x) ^ 2 + 9 = (1 + 4) ^ 2 := by
      rw [← htouch, Real.sq_sqrt (by positivity)]
    have hroots : (5 * x - 2) * (5 * x - 6) = 0 := by linarith
    rcases mul_eq_zero.mp hroots with hx | hx
    · obtain rfl : x = 2 / 5 := by linarith
      rfl
    · linarith

end FleetArena.Body
