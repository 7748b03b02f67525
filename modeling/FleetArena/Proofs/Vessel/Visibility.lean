import FleetArena.Proofs.FloatingPoint
import FleetArena.Proofs.Space
import FleetArena.Proofs.Vessel.Sight

/-! What a scan shows, and which of its contacts is the nearest one. -/
namespace FleetArena
open Exact

/-- The place of a quantity among the distances. What is no number comes after all numbers. -/
noncomputable def Exact.rank : Exact → WithTop EReal
  | real x => ((x : EReal) : WithTop EReal)
  | posInf => ((⊤ : EReal) : WithTop EReal)
  | negInf => ((⊥ : EReal) : WithTop EReal)
  | nan => ⊤

/-- What the choice of the nearest contact rests on: distances have places in a linear order, and
what is closer comes first. -/
class Scalar.Ranked (α : Type) [Scalar α] : Prop where
  exists_rank : ∃ (R : Type) (_ : LinearOrder R) (rank : α → R),
    ∀ a b : α, Reading.closer a b = true ↔ rank a < rank b

open scoped Classical in
theorem Exact.closer_iff (a b : Exact) : Reading.closer a b = true ↔ a.rank < b.rank := by
  have hnan (a : Exact) : Scalar.isNaN a = decide (a = nan) := rfl
  have hlt (a b : Exact) : a < b ↔ lt a b := Iff.rfl
  rw [Reading.closer]
  cases a <;> cases b <;> simp [rank, hnan, hlt, lt]
  · exact WithTop.coe_lt_coe.mpr (EReal.bot_lt_coe _)
  · exact WithTop.coe_lt_coe.mpr bot_lt_top

instance : Scalar.Ranked Exact where
  exists_rank := ⟨WithTop EReal, inferInstance, Exact.rank, Exact.closer_iff⟩

instance : Scalar.Ranked Float where
  exists_rank := by
    refine ⟨Int ×ₗ Int ×ₗ Int, inferInstance, fun x => FloatingPoint.rank x.toModel.unpack, ?_⟩
    intro a b
    have hnan (x : Float) : Scalar.isNaN x = x.toModel.unpack.isNaN := rfl
    have hlt : decide (a < b) = a.toModel.unpack.lt b.toModel.unpack := by
      apply Bool.eq_iff_iff.mpr
      rw [decide_eq_true_iff]
      exact ⟨of_decide_eq_true, decide_eq_true⟩
    rw [Reading.closer, hnan, hnan, hlt]
    exact FloatingPoint.before_iff_rank_lt _ _

namespace Reading
variable {α β : Type} [Scalar α]

theorem leastBy_eq_argmin {R : Type} [LinearOrder R] {rank : α → R}
    (hrank : ∀ a b : α, closer a b = true ↔ rank a < rank b) (key : β → α) (xs : List β) :
    leastBy key xs = xs.argmin fun x => rank (key x) := by
  -- both go through the list with the best contact so far
  have hfold (rest : List β) (best : β) :
      rest.foldl (List.argAux fun x y => rank (key x) < rank (key y)) (some best) =
        some (rest.foldl (fun best x => if closer (key x) (key best) then x else best) best) := by
    induction rest generalizing best with
    | nil => rfl
    | cons x rest ih =>
      rw [List.foldl_cons, List.foldl_cons, ← ih]
      simp only [List.argAux, hrank, apply_ite some]
  cases xs with
  | nil => rfl
  | cons first rest => exact (hfold rest first).symm

/-- Whether one contact comes before another one or is the same. A contact is given by its squared
distance and its number, and of what is equally close the lower number comes first. -/
def Precedes (x y : α × ObjectId) : Prop :=
  closer x.1 y.1 = true ∨ closer y.1 x.1 = false ∧ x.2 ≤ y.2

theorem precedes_iff {R : Type} [LinearOrder R] {rank : α → R}
    (hrank : ∀ a b : α, closer a b = true ↔ rank a < rank b) (x y : α × ObjectId) :
    Precedes x y ↔ toLex (rank x.1, x.2) ≤ toLex (rank y.1, y.2) := by
  rw [Precedes, ← Bool.not_eq_true, hrank, hrank, Prod.Lex.toLex_le_toLex, not_lt]
  constructor
  · rintro (hlt | ⟨hle, hid⟩)
    · exact Or.inl hlt
    · exact hle.lt_or_eq.imp_right fun heq => ⟨heq, hid⟩
  · rintro (hlt | ⟨heq, hid⟩)
    · exact Or.inl hlt
    · exact Or.inr ⟨heq.le, hid⟩

/-- In a list that is ordered by its first components, the least of the keys is taken, and of equal
keys the first component decides. -/
theorem leastBy_eq_some_iff [Scalar.Ranked α] {es : List (ObjectId × β)} {key : ObjectId × β → α}
    (hordered : es.Pairwise fun a b => a.1 < b.1) (e : ObjectId × β) :
    leastBy key es = some e ↔ e ∈ es ∧ ∀ x ∈ es, Precedes (key e, e.1) (key x, x.1) := by
  classical
  obtain ⟨R, _, rank, hrank⟩ := Scalar.Ranked.exists_rank (α := α)
  simp only [leastBy_eq_argmin hrank, List.argmin_eq_some_iff, precedes_iff hrank]
  refine and_congr_right fun he => ⟨?_, ?_⟩
  · rintro ⟨hmin, hfirst⟩ x hx
    rw [Prod.Lex.toLex_le_toLex]
    rcases (hmin x hx).lt_or_eq with hlt | heq
    · exact Or.inl hlt
    · exact Or.inr ⟨heq, (idxOf_le_idxOf_iff hordered he hx).mp (hfirst x hx heq.ge)⟩
  · intro hleast
    simp only [Prod.Lex.toLex_le_toLex] at hleast
    refine ⟨fun x hx => ?_, fun x hx hge => ?_⟩
    · rcases hleast x hx with hlt | ⟨heq, -⟩
      · exact hlt.le
      · exact heq.le
    · rcases hleast x hx with hlt | ⟨-, hle⟩
      · exact absurd hlt hge.not_gt
      · exact (idxOf_le_idxOf_iff hordered he hx).mpr hle

theorem leastBy_eq_none_iff {key : β → α} {xs : List β} : leastBy key xs = none ↔ xs = [] := by
  cases xs <;> simp [leastBy]

/-- What is at a position, of a given number, as a contact of a reading. -/
def contact (r : Reading α) (position : Vec3 α) (id : ObjectId) : α × ObjectId :=
  (position.distanceSquared r.position, id)

theorem nearestEnemy?_eq_some_iff [Scalar.Ranked α] (r : Reading α) (fleet : String)
    (e : ObjectId × ShipSighting α) : r.nearestEnemy? fleet = some e ↔
      e ∈ r.ships.entries ∧ e.2.fleet ≠ fleet ∧ ∀ x ∈ r.ships.entries, x.2.fleet ≠ fleet →
        Precedes (r.contact e.2.position e.1) (r.contact x.2.position x.1) := by
  have hordered : (r.ships.entries.filter fun e => e.2.fleet != fleet).Pairwise
      fun a b => a.1 < b.1 :=
    (r.ships.ordered.filter _).imp Nat.compare_eq_lt.mp
  rw [nearestEnemy?, leastBy_eq_some_iff hordered]
  simp only [List.mem_filter, bne_iff_ne, and_assoc, and_imp]
  rfl

theorem nearestEnemy?_eq_none_iff (r : Reading α) (fleet : String) :
    r.nearestEnemy? fleet = none ↔ ∀ x ∈ r.ships.entries, x.2.fleet = fleet := by
  rw [nearestEnemy?, leastBy_eq_none_iff, List.filter_eq_nil_iff]
  simp only [bne_iff_ne, not_not]

theorem nearestControlPoint?_eq_some_iff [Scalar.Ranked α] (r : Reading α)
    (e : ObjectId × PointSighting α) : r.nearestControlPoint? = some e ↔
      e ∈ r.controlPoints.entries ∧ ∀ x ∈ r.controlPoints.entries,
        Precedes (r.contact e.2.position e.1) (r.contact x.2.position x.1) := by
  have hordered : r.controlPoints.entries.Pairwise fun a b => a.1 < b.1 :=
    r.controlPoints.ordered.imp Nat.compare_eq_lt.mp
  exact leastBy_eq_some_iff hordered e

end Reading

section
variable {α : Type} [Scalar α] {s : Sensor α} {h : Hull α} {world : World α} {reading : Reading α}

/-- A scan that succeeds has been paid for, and is taken from where the ship is. -/
theorem Sensor.of_scan_eq_ok (hscan : (s.scan h world).2.2 = .ok reading) :
    (s.scan h world).2.1.energy = h.energy - s.energy ∧ (s.scan h world).2.1.body = h.body ∧
      reading = world.scan (s.scan h world).2.1 s.intensity := by
  rw [scan] at hscan ⊢
  split at hscan
  · cases hscan
  rename_i hfree
  rw [if_neg hfree]
  by_cases hspend : h.energy - s.energy < 0.0
  · simp only [Hull.spend_of_lt hspend] at hscan
    cases hscan
  · simp only [Hull.spend_of_not_lt hspend] at hscan ⊢
    exact ⟨trivial, trivial, (Except.ok.inj hscan).symm⟩

/-- The contacts of a scan are those that are bright enough from where the ship is. The ship itself
is none of them. -/
theorem Sensor.mem_scan (hscan : (s.scan h world).2.2 = .ok reading) :
    let visible (position : Vec3 α) :=
      s.intensity (position.distance h.body.position) > detectionThreshold
    (∀ e, e ∈ reading.ships.entries ↔
        e ∈ world.ships.entries ∧ e.1 ≠ h.body.id ∧ visible e.2.position) ∧
      ∀ e, e ∈ reading.controlPoints.entries ↔
        e ∈ world.controlPoints.entries ∧ visible e.2.position := by
  obtain ⟨-, hbody, rfl⟩ := of_scan_eq_ok hscan
  simp only [World.scan, Table.filter, List.mem_filter, hbody, Bool.and_eq_true, bne_iff_ne,
    decide_eq_true_iff, implies_true, and_self]

end

namespace Sensor
variable {s : Sensor Exact}

theorem sphereArea_real (x : ℝ) :
    Scalar.sphereArea (real x) = real (4 * Real.pi * x * x) := by
  rw [Scalar.sphereArea, four_eq]
  rfl

theorem threshold_eq : (detectionThreshold : Exact) = real 1e-9 := rfl

/-- Nothing is seen at an infinite distance, however strong the sensor is. -/
theorem not_visible_posInf (hpower : 0.0 ≤ s.power) : ¬s.intensity posInf > detectionThreshold := by
  have harea : Scalar.sphereArea posInf = posInf := by
    have hinfinite : real (4 * Real.pi) * posInf = posInf := if_pos (by positivity)
    rw [Scalar.sphereArea, four_eq]
    change real (4 * Real.pi) * posInf * posInf = posInf
    rw [hinfinite]
    rfl
  rw [intensity, harea, threshold_eq, gt_iff_lt]
  rw [zero_eq] at hpower
  rcases nonneg_iff.mp hpower with ⟨p, -, hp⟩ | hp
  · have hdark : real p / posInf = real 0 := rfl
    rw [hp, hdark, real_lt]
    norm_num
  · rw [hp]
    exact id

/-- A contact that is seen at a distance is seen from nearer by. -/
theorem visible_of_le (hpower : 0.0 ≤ s.power) {d d' : Exact} (hd' : 0.0 < d') (hle : d' ≤ d)
    (hd : s.intensity d > detectionThreshold) : s.intensity d' > detectionThreshold := by
  rw [zero_eq] at hd'
  cases d with
  | posInf => exact absurd hd (not_visible_posInf hpower)
  | negInf =>
    rcases pos_iff.mp hd' with ⟨y, -, rfl⟩ | rfl <;> exact hle.elim
  | nan => exact absurd hle not_le_nan
  | real x =>
    rcases pos_iff.mp hd' with ⟨y, hy, rfl⟩ | rfl
    · have hyx : y ≤ x := hle
      have hx : 0 < x := hy.trans_le hyx
      have harea (z : ℝ) (hz : 0 < z) : 0 < 4 * Real.pi * z * z := by positivity
      rw [intensity, sphereArea_real, threshold_eq, gt_iff_lt] at hd ⊢
      rw [zero_eq] at hpower
      rcases nonneg_iff.mp hpower with ⟨p, hp, hpow⟩ | hpow
      · rw [hpow, real_div (harea x hx).ne', real_lt] at hd
        rw [hpow, real_div (harea y hy).ne', real_lt]
        refine hd.trans_le (div_le_div_of_nonneg_left hp (harea y hy) ?_)
        gcongr
      · have hbright : posInf / real (4 * Real.pi * y * y) = posInf := if_neg (harea y hy).not_gt
        rw [hpow, hbright]
        trivial
    · exact absurd hle not_posInf_le_real

/-- A scan that succeeds shows just the contacts that are bright enough, but for the ship itself,
and the energy that is left when it has been paid for. Of the contacts of any reading, the nearest
enemy and the nearest control point are the first by the squared distance and then by the number, if
there are any. With exact quantities what is seen from somewhere is seen from nearer by, and the
order of the contacts is that of the pairs of a distance and a number. -/
theorem surveys_scan {α : Type} [Scalar α] (s : Sensor α) (h : Hull α) (world : World α)
    (r : Reading α) (fleet : String) :
    let visible (position : Vec3 α) :=
      s.intensity (position.distance h.body.position) > detectionThreshold
    (∀ reading, (s.scan h world).2.2 = .ok reading →
        (∀ e, e ∈ reading.ships.entries ↔
          e ∈ world.ships.entries ∧ e.1 ≠ h.body.id ∧ visible e.2.position) ∧
        (∀ e, e ∈ reading.controlPoints.entries ↔
          e ∈ world.controlPoints.entries ∧ visible e.2.position) ∧
        reading.position = h.body.position ∧ reading.energy = (s.scan h world).2.1.energy ∧
        reading.energy = h.energy - s.energy) ∧
      (∀ [Scalar.Ranked α],
        (∀ e, r.nearestEnemy? fleet = some e ↔
          e ∈ r.ships.entries ∧ e.2.fleet ≠ fleet ∧ ∀ x ∈ r.ships.entries, x.2.fleet ≠ fleet →
            Reading.Precedes (r.contact e.2.position e.1) (r.contact x.2.position x.1)) ∧
        ∀ e, r.nearestControlPoint? = some e ↔ e ∈ r.controlPoints.entries ∧
          ∀ x ∈ r.controlPoints.entries,
            Reading.Precedes (r.contact e.2.position e.1) (r.contact x.2.position x.1)) ∧
      (r.nearestEnemy? fleet = none ↔ ∀ x ∈ r.ships.entries, x.2.fleet = fleet) ∧
      (r.nearestControlPoint? = none ↔ r.controlPoints.entries = []) ∧
      (∀ t : Sensor Exact, 0.0 ≤ t.power → ∀ d d', 0.0 < d' → d' ≤ d →
        t.intensity d > detectionThreshold → t.intensity d' > detectionThreshold) ∧
      ∀ x y : Exact × ObjectId,
        Reading.Precedes x y ↔ toLex (x.1.rank, x.2) ≤ toLex (y.1.rank, y.2) := by
  intro visible
  refine ⟨fun reading hscan => ?_, ?_, r.nearestEnemy?_eq_none_iff fleet,
    Reading.leastBy_eq_none_iff, fun t hpower d d' => visible_of_le hpower,
    Reading.precedes_iff Exact.closer_iff⟩
  · obtain ⟨hships, hpoints⟩ := mem_scan hscan
    obtain ⟨henergy, hbody, hreading⟩ := of_scan_eq_ok hscan
    have hleft : reading.energy = (s.scan h world).2.1.energy := by
      rw [hreading]
      rfl
    have hposition : reading.position = h.body.position := by
      rw [hreading, ← hbody]
      rfl
    exact ⟨hships, hpoints, hposition, hleft, hleft.trans henergy⟩
  · intro _
    exact ⟨r.nearestEnemy?_eq_some_iff fleet, r.nearestControlPoint?_eq_some_iff⟩

/-- A ship with two enemies at the same distance. It sees both, but not itself, and the nearest is
the first of them. -/
theorem surveys_scan_of_lookout :
    let place (x : ℝ) : Vec3 Exact := .exact (x • EuclideanSpace.single 0 1)
    let sensor : Sensor Exact := ⟨⟨.zero, real 1, real 1, real 1, false⟩, real 1, real 1⟩
    let hull : Hull Exact :=
      ⟨⟨1, place 0, .zero, real 1, real 1, real 1⟩, "red", real 1, real 3, real 3⟩
    let sighting (fleet : String) (x : ℝ) : ShipSighting Exact :=
      ⟨fleet, place x, .zero, real 1, real 1⟩
    let world : World Exact :=
      { ships := ⟨[(1, sighting "red" 0), (2, sighting "blue" (-10)), (3, sighting "blue" 10)],
          by decide⟩ }
    0.0 ≤ sensor.power ∧ sensor.intensity (real 5) > detectionThreshold ∧
      ∃ reading, (sensor.scan hull world).2.2 = .ok reading ∧ reading.energy = real 2 ∧
        (1, sighting "red" 0) ∉ reading.ships.entries ∧
        reading.nearestEnemy? "red" = some (2, sighting "blue" (-10)) := by
  intro place sensor hull sighting world
  have hpower : 0.0 ≤ sensor.power := by simp [sensor]
  have hpaid : ¬hull.energy - sensor.energy < 0.0 := by
    simp only [hull, sensor, zero_eq, real_sub, real_lt]
    norm_num
  have hscan : ∃ reading, (sensor.scan hull world).2.2 = .ok reading := by
    rw [scan, if_neg Bool.false_ne_true]
    simp only [Hull.spend_of_not_lt hpaid]
    exact ⟨_, rfl⟩
  obtain ⟨reading, hreading⟩ := hscan
  obtain ⟨hsees, hnearest, -, -, hnearer, hprecedes⟩ :=
    surveys_scan sensor hull world reading "red"
  obtain ⟨hships, -, hposition, -, henergy⟩ := hsees reading hreading
  have hdistance (x : ℝ) : (place x).distance hull.body.position = real ‖x‖ := by
    change (place x).distance (place 0) = _
    rw [Vec3.distance, Vec3.exact_sub, Vec3.length_exact, zero_smul, sub_zero, norm_smul,
      PiLp.norm_single, norm_one, mul_one]
  have hbright : sensor.intensity (real 10) > detectionThreshold := by
    have harea : 0 < 4 * Real.pi * 10 * 10 := by positivity
    rw [intensity, sphereArea_real, threshold_eq, gt_iff_lt, real_div harea.ne', real_lt,
      lt_div_iff₀ harea]
    linarith [Real.pi_le_four]
  have hvisible {x : ℝ} (hx : ‖x‖ = 10) :
      sensor.intensity ((place x).distance hull.body.position) > detectionThreshold := by
    rw [hdistance, hx]
    exact hbright
  refine ⟨hpower, hnearer sensor hpower (real 10) (real 5) ?_ ?_ hbright, reading, hreading, ?_, ?_,
    ?_⟩
  · rw [zero_eq, real_lt]
    norm_num
  · rw [real_le]
    norm_num
  · rw [henergy, real_sub]
    norm_num
  · exact fun hself => ((hships _).mp hself).2.1 rfl
  · refine (hnearest.1 _).mpr ⟨(hships _).mpr ⟨by simp [world], by decide, hvisible (by simp)⟩,
      by decide, fun x hx _ => ?_⟩
    -- the other enemy is as far away, and has the larger number
    have hsquared : (place 10).distanceSquared (place 0) =
        (place (-10)).distanceSquared (place 0) := by
      simp only [Vec3.distanceSquared, Vec3.lengthSquared, Vec3.exact_sub, Vec3.dot_exact,
        zero_smul, sub_zero, neg_smul, inner_neg_neg, place]
    obtain ⟨hworld, hother, -⟩ := (hships x).mp hx
    rw [hprecedes, Reading.contact, Reading.contact, Prod.Lex.toLex_le_toLex, hposition]
    simp only [world, List.mem_cons, List.not_mem_nil, or_false] at hworld
    rcases hworld with rfl | rfl | rfl
    · exact absurd rfl hother
    · exact Or.inr ⟨rfl, le_rfl⟩
    · exact Or.inr ⟨congrArg rank hsquared.symm, by decide⟩

end Sensor
end FleetArena
