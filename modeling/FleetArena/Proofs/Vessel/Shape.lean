import FleetArena.Proofs.Vessel.Rejection
import FleetArena.Proofs.Vessel.Weight

/-! The shape of a ship. The parts of a ship that was built are balls that do not share any space,
the hull is the smallest ball about the centre that holds them all, and its mass and health are sums
over the parts in which their order does not matter. -/
namespace FleetArena
open Exact

namespace Exact

theorem add_swap (a b c : Exact) : a + b + c = a + c + b := by
  cases a with
  | real x =>
    cases b with
    | real y =>
      cases c with
      | real z =>
        simp only [real_add]
        rw [add_assoc, add_comm y z, ← add_assoc]
      | posInf => rfl
      | negInf => rfl
      | nan => rfl
    | posInf => cases c <;> rfl
    | negInf => cases c <;> rfl
    | nan => cases c <;> rfl
  | posInf => cases b <;> cases c <;> rfl
  | negInf => cases b <;> cases c <;> rfl
  | nan => cases b <;> cases c <;> rfl

/-- A sum does not depend on the order, even among infinities and what is no number. -/
theorem sum_perm {xs ys : List Exact} (h : xs.Perm ys) : Scalar.sum xs = Scalar.sum ys :=
  h.foldl_eq' (fun x _ y _ z => add_swap z x y) _

end Exact

namespace Mount

/-- The offset from the centre of the ship as a point of space. -/
noncomputable def centre (m : Mount Exact) : Space :=
  m.position.toSpace

/-- The points strictly within the radius of the part. -/
noncomputable def inside (m : Mount Exact) : Set Space :=
  Metric.ball m.centre m.radius.toReal

/-- The part with its surface. -/
noncomputable def solid (m : Mount Exact) : Set Space :=
  Metric.closedBall m.centre m.radius.toReal

noncomputable def surface (m : Mount Exact) : Set Space :=
  Metric.sphere m.centre m.radius.toReal

/-- The mount is a ball at a point of space. -/
structure IsBall (m : Mount Exact) : Prop where
  position : m.position = Vec3.exact m.centre
  radius : m.radius = real m.radius.toReal
  nonneg : 0 ≤ m.radius.toReal

variable {m n : Mount Exact}

theorem isBall_of_fault (h : m.fault? = none) : m.IsBall := by
  obtain ⟨hposition, -, hradius⟩ := fault?_eq_none_iff.mp h
  obtain ⟨c, hc⟩ := Vec3.isFinite_iff.mp hposition
  obtain ⟨r, hr, hmr⟩ := Part.isNonNegative_iff.mp hradius
  have hreal : m.radius.toReal = r := by rw [hmr, toReal_real]
  refine ⟨?_, ?_, ?_⟩
  · rw [centre, hc, Vec3.toSpace_exact]
  · rw [hreal, hmr]
  · rw [hreal]
    exact hr

theorem IsBall.reach_eq (h : m.IsBall) : m.reach = real (‖m.centre‖ + m.radius.toReal) := by
  rw [reach, h.position, h.radius, Vec3.length_exact, real_add, toReal_real]

theorem IsBall.distance_eq (hm : m.IsBall) (hn : n.IsBall) :
    m.position.distance n.position = real (dist m.centre n.centre) := by
  rw [hm.position, hn.position, Vec3.distance, Vec3.exact_sub, Vec3.length_exact, dist_eq_norm]

theorem IsBall.overlaps_iff (hm : m.IsBall) (hn : n.IsBall) :
    m.overlaps n = true ↔ dist m.centre n.centre < m.radius.toReal + n.radius.toReal := by
  rw [overlaps, decide_eq_true_eq, hm.distance_eq hn, hm.radius, hn.radius, real_add, real_lt,
    toReal_real, toReal_real]

/-- The far side of a ball is on its surface. -/
theorem IsBall.exists_farthest (h : m.IsBall) :
    ∃ x ∈ m.surface, ‖x‖ = ‖m.centre‖ + m.radius.toReal := by
  -- from the centre of the ship towards the centre of the part, or any way if they are the same
  obtain ⟨u, hu, hcentre⟩ : ∃ u : Space, ‖u‖ = 1 ∧ m.centre = ‖m.centre‖ • u := by
    by_cases hzero : m.centre = 0
    · exact ⟨EuclideanSpace.single 0 1, by simp, by simp [hzero]⟩
    · have hnorm : ‖m.centre‖ ≠ 0 := norm_ne_zero_iff.mpr hzero
      refine ⟨‖m.centre‖⁻¹ • m.centre, norm_smul_inv_norm hzero, ?_⟩
      rw [smul_smul, mul_inv_cancel₀ hnorm, one_smul]
  refine ⟨m.centre + m.radius.toReal • u, ?_, ?_⟩
  · rw [surface, mem_sphere_iff_norm, add_sub_cancel_left, norm_smul, hu, mul_one,
      Real.norm_of_nonneg h.nonneg]
  · have hsum : m.centre + m.radius.toReal • u = (‖m.centre‖ + m.radius.toReal) • u := by
      rw [add_smul, ← hcentre]
    have hreach : 0 ≤ ‖m.centre‖ + m.radius.toReal := add_nonneg (norm_nonneg _) h.nonneg
    rw [hsum, norm_smul, hu, mul_one, Real.norm_of_nonneg hreach]

end Mount

/-- The centres of two parts are at least the sum of their radii apart. -/
def Part.Clear (a b : Part Exact) : Prop :=
  a.mount.radius.toReal + b.mount.radius.toReal ≤ dist a.mount.centre b.mount.centre

theorem Part.Clear.symm {a b : Part Exact} (h : a.Clear b) : b.Clear a := by
  rw [Clear, add_comm, dist_comm]
  exact h

theorem Part.Clear.disjoint {a b : Part Exact} (h : a.Clear b) :
    Disjoint a.mount.inside b.mount.inside :=
  Metric.ball_disjoint_ball h

theorem Part.isBall_of_fault {p : Part Exact} (h : p.fault? = none) : p.mount.IsBall :=
  Mount.isBall_of_fault (Option.or_eq_none_iff.mp h).1

section
variable {fleet : String} {ship ship' : List (Part Exact)}

theorem checkParts_eq_ok_iff_clear : checkParts fleet ship = .ok () ↔
    ship ≠ [] ∧ (∀ p ∈ ship, p.fault? = none) ∧ ship.Pairwise Part.Clear := by
  rw [checkParts_eq_ok_iff]
  refine and_congr_right fun _ => and_congr_right fun hsound => ?_
  -- parts that are sound are clear of each other just if they do not overlap
  have hclear {a b : Part Exact} (ha : a ∈ ship) (hb : b ∈ ship) :
      a.Clear b ↔ ¬a.mount.position.distance b.mount.position <
        a.mount.radius + b.mount.radius := by
    have hover := (Part.isBall_of_fault (hsound a ha)).overlaps_iff
      (Part.isBall_of_fault (hsound b hb))
    rw [Mount.overlaps, decide_eq_true_eq] at hover
    rw [hover, not_lt, Part.Clear]
  rw [List.pairwise_iff_getElem]
  constructor
  · intro h i j hi hj hij
    rw [hclear (List.getElem_mem hi) (List.getElem_mem hj)]
    intro hclose
    exact h i j _ _ ⟨hij, List.getElem?_eq_getElem hi, List.getElem?_eq_getElem hj, hclose⟩
  · rintro h i j a b ⟨hij, ha, hb, hclose⟩
    obtain ⟨hi, rfl⟩ := List.getElem?_eq_some_iff.mp ha
    obtain ⟨hj, rfl⟩ := List.getElem?_eq_some_iff.mp hb
    exact (hclear (List.getElem_mem hi) (List.getElem_mem hj)).mp (h i j hi hj hij) hclose

/-- Parts in another order pass the check as well. -/
theorem checkParts_perm (hperm : ship'.Perm ship) (h : checkParts fleet ship = .ok ()) :
    checkParts fleet ship' = .ok () := by
  obtain ⟨hne, hsound, hclear⟩ := checkParts_eq_ok_iff_clear.mp h
  refine checkParts_eq_ok_iff_clear.mpr ⟨?_, ?_, ?_⟩
  · rintro rfl
    exact hne hperm.nil_eq.symm
  · intro p hp
    exact hsound p (hperm.mem_iff.mp hp)
  · exact (hperm.pairwise_iff Part.Clear.symm).mpr hclear

end

namespace Loadout
variable {ship ship' : List (Part Exact)}

theorem mass_ofParts : (ofParts ship).mass = Scalar.sum (ship.map Part.mass) :=
  sum_perm ((toParts_ofParts_perm ship).map _)

theorem health_ofParts :
    (ofParts ship).health = Scalar.sum (ship.map fun p => p.mount.health) := by
  rw [health, mounts, List.map_map]
  exact sum_perm ((toParts_ofParts_perm ship).map _)

/-- The radius bounds how far every part reaches, and is how far one of them does. -/
theorem exists_boundingRadius (hne : ship ≠ []) (hball : ∀ p ∈ ship, p.mount.IsBall) :
    ∃ r, (ofParts ship).boundingRadius = real r ∧
      (∀ p ∈ ship, ‖p.mount.centre‖ + p.mount.radius.toReal ≤ r) ∧
      ∃ p ∈ ship, ‖p.mount.centre‖ + p.mount.radius.toReal = r := by
  let reach (p : Part Exact) : ℝ := ‖p.mount.centre‖ + p.mount.radius.toReal
  let parts := (ofParts ship).toParts
  have hmem (p : Part Exact) : p ∈ parts ↔ p ∈ ship := (toParts_ofParts_perm ship).mem_iff
  have hreach : (ofParts ship).mounts.map Mount.reach = (parts.map reach).map real := by
    rw [mounts, List.map_map, List.map_map]
    exact List.map_congr_left fun p hp => (hball p ((hmem p).mp hp)).reach_eq
  obtain ⟨-, hle, hlargest⟩ := foldl_max_spec (parts.map reach) 0
  have hbound (p : Part Exact) (hp : p ∈ ship) : reach p ≤ (parts.map reach).foldl max 0 :=
    hle _ (List.mem_map_of_mem ((hmem p).mpr hp))
  refine ⟨(parts.map reach).foldl max 0, ?_, hbound, ?_⟩
  · rw [boundingRadius, hreach, maximum_map_real]
  · rcases hlargest with hzero | hlargest
    · -- no part reaches anywhere
      obtain ⟨p, hp⟩ := List.exists_mem_of_ne_nil ship hne
      have hnonneg : 0 ≤ reach p := add_nonneg (norm_nonneg _) (hball p hp).nonneg
      exact ⟨p, hp, (hbound p hp).antisymm (hzero.trans_le hnonneg)⟩
    · obtain ⟨p, hp, heq⟩ := List.mem_map.mp hlargest
      exact ⟨p, (hmem p).mp hp, heq⟩

theorem boundingRadius_perm (hne : ship ≠ []) (hball : ∀ p ∈ ship, p.mount.IsBall)
    (hperm : ship'.Perm ship) :
    (ofParts ship').boundingRadius = (ofParts ship).boundingRadius := by
  have hne' : ship' ≠ [] := by
    rintro rfl
    exact hne hperm.nil_eq.symm
  obtain ⟨r, hr, hle, p, hp, hpr⟩ := exists_boundingRadius hne hball
  obtain ⟨s, hs, hle', q, hq, hqs⟩ :=
    exists_boundingRadius hne' fun p hp => hball p (hperm.mem_iff.mp hp)
  rw [hr, hs, ← hpr, ← hqs]
  apply congrArg real
  apply le_antisymm
  · exact (hle q (hperm.mem_iff.mp hq)).trans hpr.ge
  · exact (hle' p (hperm.mem_iff.mpr hp)).trans hqs.ge

end Loadout

namespace Vessel
variable {id : ObjectId} {fleet : String} {position : Vec3 Exact} {ship ship' : List (Part Exact)}
  {dt : Exact}

/-- The vessel is made of these parts: balls that share no space within the ball that its hull is,
whose mass and health are what it has. -/
structure Encloses (v : Vessel Exact) (ship : List (Part Exact)) : Prop where
  ball : ∀ p ∈ ship, p.mount.IsBall
  disjoint : ship.Pairwise fun a b => Disjoint a.mount.inside b.mount.inside
  radius : ∃ r, v.hull.body.radius = real r ∧
    (∀ p ∈ ship, p.mount.solid ⊆ Metric.closedBall 0 r) ∧
    ∃ p ∈ ship, (p.mount.surface ∩ Metric.sphere 0 r).Nonempty
  mass : ∃ masses : List ℝ,
    ship.map Part.mass = masses.map real ∧ v.hull.body.mass = real masses.sum
  health : v.hull.body.health = Scalar.sum (ship.map fun p => p.mount.health)

theorem encloses_assemble (h : checkParts fleet ship = .ok ()) :
    (assemble id fleet position ship dt).Encloses ship := by
  obtain ⟨hne, hsound, hclear⟩ := checkParts_eq_ok_iff_clear.mp h
  have hball (p : Part Exact) (hp : p ∈ ship) := Part.isBall_of_fault (hsound p hp)
  refine ⟨hball, hclear.imp Part.Clear.disjoint, ?_, ?_, Loadout.health_ofParts⟩
  · obtain ⟨r, hr, hle, p, hp, hpr⟩ := Loadout.exists_boundingRadius hne hball
    refine ⟨r, hr, ?_, p, hp, ?_⟩
    · intro q hq
      apply Metric.closedBall_subset_closedBall'
      rw [dist_zero_right, add_comm]
      exact hle q hq
    · obtain ⟨x, hx, hnorm⟩ := (hball p hp).exists_farthest
      exact ⟨x, hx, mem_sphere_zero_iff_norm.mpr (hnorm.trans hpr)⟩
  · have hfinite : ∀ m ∈ ship.map Part.mass, Scalar.isFinite m = true := by
      intro x hx
      obtain ⟨p, hp, rfl⟩ := List.mem_map.mp hx
      obtain ⟨hmass, -, hammo⟩ := Part.sound_of_fault (hsound p hp)
      obtain ⟨m, -, hm⟩ := Part.isPositive_iff.mp hmass
      have hround (w : Weapon Exact) (hw : p = .weapon w) : ∃ a, w.ammoMass = real a := by
        obtain ⟨a, -, ha⟩ := Part.isPositive_iff.mp (hammo w hw)
        exact ⟨a, ha⟩
      rw [Part.mass_eq ⟨m, hm⟩ hround]
      exact isFinite_real
    obtain ⟨masses, hmasses⟩ := exists_map_real hfinite
    refine ⟨masses, hmasses, ?_⟩
    show (Loadout.ofParts ship).mass = real masses.sum
    rw [Loadout.mass_ofParts, hmasses, sum_map_real]

/-- The same parts in another order make the same hull. -/
theorem hull_assemble_perm (h : checkParts fleet ship = .ok ()) (hperm : ship'.Perm ship) :
    (assemble id fleet position ship' dt).hull = (assemble id fleet position ship dt).hull := by
  obtain ⟨hne, hsound, -⟩ := checkParts_eq_ok_iff_clear.mp h
  have hball (p : Part Exact) (hp : p ∈ ship) := Part.isBall_of_fault (hsound p hp)
  have hmass : (Loadout.ofParts ship').mass = (Loadout.ofParts ship).mass := by
    rw [Loadout.mass_ofParts, Loadout.mass_ofParts]
    exact sum_perm (hperm.map _)
  have hhealth : (Loadout.ofParts ship').health = (Loadout.ofParts ship).health := by
    rw [Loadout.health_ofParts, Loadout.health_ofParts]
    exact sum_perm (hperm.map _)
  simp only [assemble, Loadout.boundingRadius_perm hne hball hperm, hmass, hhealth]

theorem build_eq_error_iff {α : Type} [Scalar α] {id : ObjectId} {fleet : String}
    {position : Vec3 α} {parts : List (Part α)} {dt : α} {e : SetupError α} :
    build id fleet position parts dt = .error e ↔ Rejected fleet parts e := by
  rw [← checkParts_eq_error_iff, build]
  cases checkParts fleet parts with
  | error e' => simp [bind, Except.bind]
  | ok u => simp [bind, Except.bind, pure, Except.pure]

/-- Parts make a ship just if there are some, all of them are sound and no two overlap, and
otherwise the first of these that fails is named. Exact parts do not overlap if they are no closer
than their radii, and the ship that they make encloses them tightly, in whatever order they come. -/
theorem soundly_built {α : Type} [Scalar α] (fleet : String) :
    (∀ parts : List (Part α),
      (checkParts fleet parts = .ok () ↔ parts ≠ [] ∧ (∀ p ∈ parts, p.fault? = none) ∧
        ∀ i j a b, ¬OverlapAt parts i j a b) ∧
      (∀ e, checkParts fleet parts = .error e ↔ Rejected fleet parts e) ∧
      ∀ id position dt e, build id fleet position parts dt = .error e ↔ Rejected fleet parts e) ∧
    ∀ ship : List (Part Exact),
      (checkParts fleet ship = .ok () ↔ ship ≠ [] ∧ (∀ p ∈ ship, p.fault? = none) ∧
        ship.Pairwise Part.Clear) ∧
      ∀ id position dt v, build id fleet position ship dt = .ok v → v.Encloses ship ∧
        ∀ ship', ship'.Perm ship →
          ∃ v', build id fleet position ship' dt = .ok v' ∧ v'.hull = v.hull := by
  refine ⟨fun parts => ⟨checkParts_eq_ok_iff, fun e => checkParts_eq_error_iff,
    fun id position dt e => build_eq_error_iff⟩, ?_⟩
  intro ship
  refine ⟨checkParts_eq_ok_iff_clear, ?_⟩
  intro id position dt v hv
  obtain ⟨hcheck, rfl⟩ := build_eq_ok_iff.mp hv
  refine ⟨encloses_assemble hcheck, ?_⟩
  intro ship' hperm
  exact ⟨_, build_eq_ok_iff.mpr ⟨checkParts_perm hperm hcheck, rfl⟩,
    hull_assemble_perm hcheck hperm⟩

/-- Two parts that touch. -/
noncomputable def twins : List (Part Exact) :=
  [.probe .zero 1.0, .probe ⟨2.0, 0.0, 0.0⟩ 1.0]

/-- Parts that touch make a ship, in either order. -/
theorem soundly_built_twins : ∃ v w : Vessel Exact,
    build 0 "twins" .zero twins 1.0 = .ok v ∧ v.Encloses twins ∧
      build 0 "twins" .zero twins.reverse 1.0 = .ok w ∧ w.hull = v.hull := by
  obtain ⟨-, hships⟩ := soundly_built (α := Exact) "twins"
  let axis : Space := EuclideanSpace.single 0 2
  have hplace : (⟨2.0, 0.0, 0.0⟩ : Vec3 Exact) = .exact axis := by
    simp [axis, Vec3.exact]
  have htwins : twins = [.probe (.exact 0) 1.0, .probe (.exact axis) 1.0] := by
    rw [twins, hplace, Vec3.zero_eq]
  have hsound (u : Space) : (Part.probe (.exact u) 1.0).fault? = none :=
    Part.fault?_probe (Vec3.isFinite_iff.mpr ⟨u, rfl⟩) _
  have hclear : (Part.probe (.exact 0) 1.0).Clear (.probe (.exact axis) 1.0) := by
    simp only [Part.Clear, Part.probe, Part.mount, Sensor.ofSpec, Mount.place, Mount.centre,
      Vec3.toSpace_exact, one_eq, toReal_real, dist_zero_left, axis, PiLp.norm_single]
    norm_num
  have hcheck : checkParts "twins" twins = .ok () := by
    refine (hships twins).1.mpr ?_
    rw [htwins]
    refine ⟨List.cons_ne_nil _ _, ?_, List.pairwise_pair.mpr hclear⟩
    exact List.forall_mem_cons.mpr ⟨hsound 0, List.forall_mem_singleton.mpr (hsound axis)⟩
  have hbuild : build 0 "twins" .zero twins 1.0 = .ok (assemble 0 "twins" .zero twins 1.0) :=
    build_eq_ok_iff.mpr ⟨hcheck, rfl⟩
  obtain ⟨hencloses, hperm⟩ := (hships twins).2 _ _ _ _ hbuild
  obtain ⟨w, hw, hhull⟩ := hperm twins.reverse (List.reverse_perm twins)
  exact ⟨_, w, hbuild, hencloses, hw, hhull⟩

end Vessel
end FleetArena
