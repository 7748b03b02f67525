import FleetArena.Proofs.Grid.Filing
import FleetArena.Proofs.Space

/-! The sectors of an exact grid that a cube touches. Three samples on each axis find all of them,
as long as the cube is no wider than a sector. -/
namespace FleetArena.Grid
open Exact

variable {g : Grid Exact} {s c e x : ℝ}

theorem coordinate_real (hg : g.size = real s) (hs : 0 < s) : g.coordinate (real x) = ⌊x / s⌋ := by
  simp [coordinate, hg, hs.ne']

theorem mem_span_samples (hg : g.size = real s) (hs : 0 < s) (k : ℤ) :
    k ∈ g.span (real c) (real e) ↔
      k = ⌊(c - e) / s⌋ ∨ k = ⌊c / s⌋ ∨ k = ⌊(c + e) / s⌋ := by
  have hlow : real c + -1.0 * real e = real (c - e) := by simp [sub_eq_add_neg]
  have hmid : real c + 0.0 * real e = real c := by simp
  have hhigh : real c + 1.0 * real e = real (c + e) := by simp
  rw [span, List.mem_eraseDups, hlow, hmid, hhigh]
  simp only [coordinate_real hg hs, List.mem_cons, List.not_mem_nil, or_false]

theorem floor_div_mono (hs : 0 < s) {y : ℝ} (h : x ≤ y) : ⌊x / s⌋ ≤ ⌊y / s⌋ := by
  apply Int.floor_le_floor
  gcongr

/-- Points that are no farther apart than a sector is wide lie in the same sector or in neighbouring
ones. -/
theorem floor_div_le_add_one (hs : 0 < s) {y : ℝ} (h : y ≤ x + s) : ⌊y / s⌋ ≤ ⌊x / s⌋ + 1 := by
  rw [← Int.floor_add_one, div_add_one hs.ne']
  exact floor_div_mono hs h

/-- The samples find every sector coordinate of an interval no longer than a sector. -/
theorem mem_span_iff (hg : g.size = real s) (hs : 0 < s) (he : 0 ≤ e) (hes : 2 * e ≤ s) (k : ℤ) :
    k ∈ g.span (real c) (real e) ↔ ∃ x, |x - c| ≤ e ∧ ⌊x / s⌋ = k := by
  rw [mem_span_samples hg hs]
  constructor
  · rintro (rfl | rfl | rfl)
    · exact ⟨c - e, by rw [abs_le]; constructor <;> linarith, rfl⟩
    · exact ⟨c, by simpa using he, rfl⟩
    · exact ⟨c + e, by rw [abs_le]; constructor <;> linarith, rfl⟩
  · rintro ⟨x, hx, rfl⟩
    obtain ⟨hlow, hhigh⟩ := abs_le.mp hx
    have h₁ : ⌊(c - e) / s⌋ ≤ ⌊x / s⌋ := floor_div_mono hs (by linarith)
    have h₂ : ⌊x / s⌋ ≤ ⌊(c + e) / s⌋ := floor_div_mono hs (by linarith)
    have h₃ : ⌊(c + e) / s⌋ ≤ ⌊(c - e) / s⌋ + 1 := floor_div_le_add_one hs (by linarith)
    omega

/-- An object is filed under exactly the sectors that meet its bounding cube. -/
theorem mem_cover_iff (hg : g.size = real s) (hs : 0 < s) (he : 0 ≤ e) (hes : 2 * e ≤ s)
    (p : Space) (t : Sector) :
    t ∈ g.cover (Vec3.exact p) (real e) ↔
      ∃ x : Space, (∀ i, |x i - p i| ≤ e) ∧ g.sector (Vec3.exact x) = t := by
  simp only [mem_cover, Vec3.exact, mem_span_iff hg hs he hes, sector, coordinate_real hg hs]
  constructor
  · rintro ⟨⟨x, hx, hx'⟩, ⟨y, hy, hy'⟩, ⟨z, hz, hz'⟩⟩
    refine ⟨!₂[x, y, z], ?_, Prod.ext hx' (Prod.ext hy' hz')⟩
    intro i
    fin_cases i
    · exact hx
    · exact hy
    · exact hz
  · rintro ⟨x, hx, rfl⟩
    exact ⟨⟨x 0, hx 0, rfl⟩, ⟨x 1, hx 1, rfl⟩, ⟨x 2, hx 2, rfl⟩⟩

/-- Cubes that meet share a sector. -/
theorem exists_mem_cover_of_meet {h : Grid Exact} {e f : ℝ} (hg : g.size = real s)
    (hh : h.size = real s) (hs : 0 < s) (he : 0 ≤ e) (hf : 0 ≤ f) (hes : 2 * e ≤ s)
    (hfs : 2 * f ≤ s) (p q : Space) (hpq : ∀ i, |q i - p i| ≤ e + f) :
    ∃ t, t ∈ g.cover (Vec3.exact p) (real e) ∧ t ∈ h.cover (Vec3.exact q) (real f) := by
  -- the corner of the common box
  let x : Space := WithLp.toLp 2 fun i => max (p i - e) (q i - f)
  have hx (i : Fin 3) : x i = max (p i - e) (q i - f) := rfl
  have hxp (i : Fin 3) : |x i - p i| ≤ e := by
    obtain ⟨h₁, h₂⟩ := abs_le.mp (hpq i)
    rw [hx, abs_le]
    constructor
    · linarith [le_max_left (p i - e) (q i - f)]
    · rw [sub_le_iff_le_add]
      exact max_le (by linarith) (by linarith)
  have hxq (i : Fin 3) : |x i - q i| ≤ f := by
    obtain ⟨h₁, h₂⟩ := abs_le.mp (hpq i)
    rw [hx, abs_le]
    constructor
    · linarith [le_max_right (p i - e) (q i - f)]
    · rw [sub_le_iff_le_add]
      exact max_le (by linarith) (by linarith)
  have hsector : h.sector (Vec3.exact x) = g.sector (Vec3.exact x) := by
    simp only [sector, coordinate, hg, hh]
  exact ⟨g.sector (Vec3.exact x), (mem_cover_iff hg hs he hes p _).mpr ⟨x, hxp, rfl⟩,
    (mem_cover_iff hh hs hf hfs q _).mpr ⟨x, hxq, hsector⟩⟩

end FleetArena.Grid
