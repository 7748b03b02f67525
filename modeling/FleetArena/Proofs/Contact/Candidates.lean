import FleetArena.Battle.Contacts
import FleetArena.Proofs.Contact.Time
import FleetArena.Proofs.Grid.Cover

/-! The grids of a tick lose no contact: whenever two bodies come into contact within the tick,
they share a sector and are among the pairs that are tried. -/
namespace FleetArena
open Exact

variable {a b : Body Exact} {p q v w : Space} {r s dt : ℝ}

namespace Grid
variable {α : Type} [Scalar α]

theorem foldl_insert_eq (dt : α) (entries : List (Body α × Nat)) (g : Grid α) :
    entries.foldl (fun g e => g.insert e.2 e.1.position (e.1.extent dt)) g =
      g.insertAll (entries.map fun e => (e.2, e.1.position, e.1.extent dt)) := by
  rw [insertAll, List.foldl_map]

theorem size_foldl_insert (dt : α) (entries : List (Body α × Nat)) (g : Grid α) :
    (entries.foldl (fun g e => g.insert e.2 e.1.position (e.1.extent dt)) g).size = g.size := by
  rw [foldl_insert_eq, size_insertAll]

theorem mem_members_foldl_insert (dt : α) (index : Nat) (t : Sector)
    (entries : List (Body α × Nat)) (g : Grid α) :
    index ∈ (entries.foldl (fun g e => g.insert e.2 e.1.position (e.1.extent dt)) g).members t ↔
      index ∈ g.members t ∨
        ∃ e ∈ entries, e.2 = index ∧ t ∈ g.cover e.1.position (e.1.extent dt) := by
  rw [foldl_insert_eq, mem_members_insertAll]
  simp only [List.mem_map, exists_exists_and_eq_and]

end Grid

namespace Battle

section
variable {α : Type} [Scalar α]

theorem size_grids (dt : α) (solids : Nat) (bodies : List (Body α)) :
    (grids dt solids bodies).1.size = Grid.sizeFor (Scalar.maximum (bodies.map (·.extent dt))) ∧
      (grids dt solids bodies).2.size =
        Grid.sizeFor (Scalar.maximum (bodies.map (·.extent dt))) := by
  constructor
  · exact Grid.size_foldl_insert dt _ _
  · exact Grid.size_foldl_insert dt _ _

/-- Both grids have the sectors of the empty grid that they start from. -/
theorem cover_grids (dt : α) (solids : Nat) (bodies : List (Body α)) (c : Vec3 α) (x : α) :
    let empty := Grid.empty (Grid.sizeFor (Scalar.maximum (bodies.map (·.extent dt))))
    (grids dt solids bodies).1.cover c x = empty.cover c x ∧
      (grids dt solids bodies).2.cover c x = empty.cover c x := by
  obtain ⟨hsolids, hshots⟩ := size_grids dt solids bodies
  exact ⟨Grid.cover_congr hsolids c x, Grid.cover_congr hshots c x⟩

/-- The solid bodies are filed by their places in the list. -/
theorem mem_members_grids_fst (dt : α) (solids i : Nat) (bodies : List (Body α)) (t : Sector) :
    i ∈ (grids dt solids bodies).1.members t ↔ i < solids ∧ ∃ b, bodies[i]? = some b ∧
      t ∈ (grids dt solids bodies).1.cover b.position (b.extent dt) := by
  simp only [(cover_grids dt solids bodies _ _).1]
  simp only [grids, Grid.mem_members_foldl_insert, Prod.exists, List.mem_zipIdx_iff_getElem?,
    List.getElem?_take]
  constructor
  · rintro (h | ⟨b, k, hk, rfl, ht⟩)
    · simp [Grid.members, Grid.empty] at h
    · split at hk
      · exact ⟨‹_›, b, hk, ht⟩
      · simp at hk
  · rintro ⟨hi, b, hb, ht⟩
    exact Or.inr ⟨b, i, by rw [if_pos hi, hb], rfl, ht⟩

/-- So are the projectiles, which come behind the solid bodies. -/
theorem mem_members_grids_snd (dt : α) (solids i : Nat) (bodies : List (Body α)) (t : Sector) :
    i ∈ (grids dt solids bodies).2.members t ↔ solids ≤ i ∧ ∃ b, bodies[i]? = some b ∧
      t ∈ (grids dt solids bodies).2.cover b.position (b.extent dt) := by
  simp only [(cover_grids dt solids bodies _ _).2]
  simp only [grids, Grid.mem_members_foldl_insert, Prod.exists, List.getElem?_drop,
    List.mk_mem_zipIdx_iff_le_and_getElem?_sub]
  constructor
  · rintro (h | ⟨b, k, ⟨hk, hb⟩, rfl, ht⟩)
    · simp [Grid.members, Grid.empty] at h
    · exact ⟨hk, b, by rwa [Nat.add_sub_of_le hk] at hb, ht⟩
  · rintro ⟨hi, b, hb, ht⟩
    exact Or.inr ⟨b, i, ⟨hi, by rwa [Nat.add_sub_of_le hi]⟩, rfl, ht⟩

end

/-- The sectors of a tick are wide enough for the extent of every body. -/
theorem exists_size_grids (solids : Nat) {bodies : List (Body Exact)}
    (hb : ∀ b ∈ bodies, ∃ p v r, b.IsSphere p v r) :
    ∃ size : ℝ, 0 < size ∧ (grids (real dt) solids bodies).1.size = real size ∧
      (grids (real dt) solids bodies).2.size = real size ∧
      ∀ b ∈ bodies, ∀ e, b.extent (real dt) = real e → 2 * e ≤ size := by
  have hfinite : ∀ e ∈ bodies.map (·.extent (real dt)), Scalar.isFinite e = true := by
    intro e he
    obtain ⟨b, hmem, rfl⟩ := List.mem_map.mp he
    obtain ⟨p, v, r, h⟩ := hb b hmem
    simp [h.extent_eq]
  obtain ⟨extents, hextents⟩ := exists_map_real hfinite
  obtain ⟨-, hall, -⟩ := foldl_max_spec extents 0
  obtain ⟨hsolids, hshots⟩ := size_grids (real dt) solids bodies
  have hsize : Grid.sizeFor (Scalar.maximum (bodies.map (·.extent (real dt)))) =
      real (max (2 * extents.foldl max 0) 100) := by
    rw [hextents, maximum_map_real]
    simp [Grid.sizeFor, Grid.leastSize]
  refine ⟨max (2 * extents.foldl max 0) 100, by positivity, hsolids.trans hsize,
    hshots.trans hsize, ?_⟩
  intro b hmem e he
  have hreal : real e ∈ extents.map real := by
    rw [← hextents, ← he]
    exact List.mem_map_of_mem hmem
  obtain ⟨x, hx, hxe⟩ := List.mem_map.mp hreal
  obtain rfl : x = e := by simpa using hxe
  exact le_max_of_le_left (by linarith [hall x hx])

/-- Bodies in contact within the tick share a sector, in whichever of the two grids they are. -/
theorem exists_common_sector (solids : Nat) (hdt : 0 < dt) {bodies : List (Body Exact)}
    (hb : ∀ b ∈ bodies, ∃ p v r, b.IsSphere p v r) {g h : Grid Exact}
    (hg : g.size = (grids (real dt) solids bodies).1.size)
    (hh : h.size = (grids (real dt) solids bodies).1.size) (ha : a ∈ bodies) (hb' : b ∈ bodies)
    (hc : (a.contact? b (real dt)).isSome = true) :
    ∃ t, t ∈ g.cover a.position (a.extent (real dt)) ∧
      t ∈ h.cover b.position (b.extent (real dt)) := by
  obtain ⟨size, hpos, h₁, -, hwide⟩ := @exists_size_grids dt solids bodies hb
  obtain ⟨p, v, r, hsa⟩ := hb a ha
  obtain ⟨q, w, s, hsb⟩ := hb b hb'
  have hreach := Body.norm_sub_le_of_contact hsa hsb hdt.le hc
  -- on every axis the bodies are no farther apart than in space
  have haxis (i : Fin 3) : |q i - p i| ≤ (r + ‖v‖ * dt) + (s + ‖w‖ * dt) :=
    calc |q i - p i| ≤ ‖q - p‖ := PiLp.norm_apply_le (q - p) i
      _ ≤ (r + ‖v‖ * dt) + (s + ‖w‖ * dt) := hreach
  have hr := hsa.nonneg
  have hs := hsb.nonneg
  rw [hsa.extent_eq, hsb.extent_eq, hsa.position, hsb.position]
  exact Grid.exists_mem_cover_of_meet (hg.trans h₁) (hh.trans h₁) hpos (by positivity)
    (by positivity) (hwide a ha _ hsa.extent_eq) (hwide b hb' _ hsb.extent_eq) p q haxis

/-- The grids hide no contact. For bodies of finite motion and of radii that are not negative, of
which the first `solids` are solid, every two solid bodies that come into contact within a tick are
among the pairs of the one grid, and every projectile and solid body that do are among the pairs of
the two. -/
theorem contacts_mem_pairs (solids : Nat) {dt : Exact} (hdt : Part.isPositive dt = true)
    {bodies : List (Body Exact)}
    (hb : ∀ b ∈ bodies, b.nonFinite? = none ∧ Part.isNonNegative b.radius = true) :
    (∀ i j a b, i < j → j < solids → bodies[i]? = some a → bodies[j]? = some b →
      (a.contact? b dt).isSome = true → (i, j) ∈ (grids dt solids bodies).1.pairs) ∧
    (∀ i j a b, solids ≤ i → j < solids → bodies[i]? = some a → bodies[j]? = some b →
      (a.contact? b dt).isSome = true →
      (i, j) ∈ (grids dt solids bodies).2.pairsWith (grids dt solids bodies).1) := by
  obtain ⟨dt, hpos, rfl⟩ := Part.isPositive_iff.mp hdt
  have hsphere (b) (hmem : b ∈ bodies) : ∃ p v r, b.IsSphere p v r :=
    Body.exists_isSphere (hb b hmem).1 (hb b hmem).2
  obtain ⟨size, -, h₁, h₂, -⟩ := @exists_size_grids dt solids bodies hsphere
  constructor
  · intro i j a b hij hj ha hb' hc
    obtain ⟨t, hta, htb⟩ := exists_common_sector solids hpos hsphere rfl rfl
      (List.mem_of_getElem? ha) (List.mem_of_getElem? hb') hc
    rw [Grid.mem_pairs_iff]
    exact ⟨hij, t, (mem_members_grids_fst _ _ _ _ _).mpr ⟨hij.trans hj, a, ha, hta⟩,
      (mem_members_grids_fst _ _ _ _ _).mpr ⟨hj, b, hb', htb⟩⟩
  · intro i j a b hi hj ha hb' hc
    obtain ⟨t, hta, htb⟩ := exists_common_sector solids hpos hsphere (h₂.trans h₁.symm) rfl
      (List.mem_of_getElem? ha) (List.mem_of_getElem? hb') hc
    rw [Grid.mem_pairsWith_iff]
    exact ⟨t, (mem_members_grids_snd _ _ _ _ _).mpr ⟨hi, a, ha, hta⟩,
      (mem_members_grids_fst _ _ _ _ _).mpr ⟨hj, b, hb', htb⟩⟩

/-- A ship that flies into a rock across the border of a sector, and a projectile that hits the
rock from the other side. -/
theorem contacts_mem_pairs_at_border :
    let axis : Space := EuclideanSpace.single 0 1
    let ship : Body Exact :=
      ⟨1, Vec3.exact (-axis), Vec3.exact ((20 : ℝ) • axis), real 1, real 5, real 5⟩
    let rock : Body Exact := ⟨2, Vec3.exact ((2 : ℝ) • axis), Vec3.exact 0, real 1, posInf, posInf⟩
    let shot : Body Exact :=
      ⟨3, Vec3.exact ((5 : ℝ) • axis), Vec3.exact ((-30 : ℝ) • axis), real 0, real 1, real 1⟩
    let dt := real (1 / 10)
    let bodies := [ship, rock, shot]
    Part.isPositive dt = true ∧
      (∀ b ∈ bodies, b.nonFinite? = none ∧ Part.isNonNegative b.radius = true) ∧
      (0, 1) ∈ (grids dt 2 bodies).1.pairs ∧
      (2, 1) ∈ (grids dt 2 bodies).2.pairsWith (grids dt 2 bodies).1 := by
  intro axis ship rock shot dt bodies
  have haxis : ‖axis‖ = 1 := by simp [axis]
  have hship : ship.IsSphere (-axis) ((20 : ℝ) • axis) 1 := ⟨rfl, rfl, rfl, zero_le_one⟩
  have hrock : rock.IsSphere ((2 : ℝ) • axis) 0 1 := ⟨rfl, rfl, rfl, zero_le_one⟩
  have hshot : shot.IsSphere ((5 : ℝ) • axis) ((-30 : ℝ) • axis) 0 := ⟨rfl, rfl, rfl, le_rfl⟩
  have hdt : Part.isPositive dt = true := Part.isPositive_iff.mpr ⟨1 / 10, by norm_num, rfl⟩
  have hb : ∀ b ∈ bodies, b.nonFinite? = none ∧ Part.isNonNegative b.radius = true := by
    simp only [bodies, List.forall_mem_cons, List.not_mem_nil, false_imp_iff, implies_true,
      and_true]
    exact ⟨⟨hship.nonFinite?_eq_none, hship.isNonNegative⟩,
      ⟨hrock.nonFinite?_eq_none, hrock.isNonNegative⟩,
      ⟨hshot.nonFinite?_eq_none, hshot.isNonNegative⟩⟩
  -- the ship flies two units in the tick, and the gap before the rock is one
  have h₁ : (ship.contact? rock dt).isSome = true := by
    have happroach : ship.Approach rock (1 / 10) ((2 : ℝ) • axis) ((3 : ℝ) • axis) 2 := by
      convert hship.approach hrock (1 / 10) using 1
      · module
      · module
      · norm_num
    exact happroach.isSome_of_headOn haxis (by norm_num) (by norm_num) (by norm_num) (by norm_num)
  have h₂ : (shot.contact? rock dt).isSome = true := by
    have happroach : shot.Approach rock (1 / 10) ((3 : ℝ) • -axis) ((3 : ℝ) • -axis) 1 := by
      convert hshot.approach hrock (1 / 10) using 1
      · module
      · module
      · norm_num
    exact happroach.isSome_of_headOn (by rw [norm_neg, haxis]) (by norm_num) (by norm_num)
      (by norm_num) (by norm_num)
  have h := contacts_mem_pairs 2 hdt hb
  exact ⟨hdt, hb, h.1 0 1 ship rock (by decide) (by decide) rfl rfl h₁,
    h.2 2 1 shot rock (by decide) (by decide) rfl rfl h₂⟩

end Battle
end FleetArena
