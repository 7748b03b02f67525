import FleetArena.Battle.State
import FleetArena.Proofs.Exact

/-! What it takes to build a vessel, and what comes of it. -/
namespace FleetArena
variable {α π δ : Type} [Scalar α]

/-- Parts that pass the check are sound, and there are some. -/
theorem sound_of_checkParts {fleet : String} {parts : List (Part α)}
    (h : checkParts fleet parts = .ok ()) : parts ≠ [] ∧ ∀ p ∈ parts, p.fault? = none := by
  rw [checkParts] at h
  split at h
  · cases h
  · rename_i hne
    split at h
    · cases h
    · rename_i hnone
      exact ⟨by simpa using hne, List.findSome?_eq_none_iff.mp hnone⟩

/-- A part alone overlaps no other. -/
theorem checkParts_of_single {p : Part α} (fleet : String) (h : p.fault? = none) :
    checkParts fleet [p] = .ok () := by
  simp [checkParts, h, overlap?]

theorem Mount.fault?_eq_none_iff {m : Mount α} : m.fault? = none ↔
    m.position.isFinite = true ∧ Part.isPositive m.mass = true ∧
      Part.isNonNegative m.radius = true := by
  rw [fault?]
  cases m.position.isFinite <;> cases Part.isPositive m.mass <;>
    cases Part.isNonNegative m.radius <;> simp

omit [Scalar α] in
/-- Sorting parts by kind loses none of them. -/
theorem toParts_ofParts_perm (parts : List (Part α)) :
    (Loadout.ofParts parts).toParts.Perm parts := by
  induction parts with
  | nil => exact .refl _
  | cons p rest ih =>
    cases p with
    | engine e => exact ih.cons _
    | thruster t => exact ((List.perm_middle.append_right _).append_right _).trans (ih.cons _)
    | weapon w => exact (List.perm_middle.append_right _).trans (ih.cons _)
    | sensor s => exact List.perm_middle.trans (ih.cons _)

/-- What the check of a part ensures of its masses and its force. -/
theorem Part.sound_of_fault {p : Part α} (h : p.fault? = none) :
    isPositive p.mount.mass = true ∧ (∀ t, p = .thruster t → isPositive t.force = true) ∧
      ∀ w, p = .weapon w → isPositive w.ammoMass = true := by
  obtain ⟨hmount, hkind⟩ := Option.or_eq_none_iff.mp h
  refine ⟨(Mount.fault?_eq_none_iff.mp hmount).2.1, ?_, ?_⟩
  · rintro t rfl
    by_contra hforce
    simp [hforce] at hkind
  · rintro w rfl
    by_contra hammo
    rw [Bool.not_eq_true] at hammo
    simp [hammo] at hkind

/-- A sensor of mass and radius one. -/
noncomputable def Part.probe (position : Vec3 Exact) (energy : Exact) : Part Exact :=
  .sensor (.ofSpec position ⟨1.0, 1.0, energy, 1.0, none⟩)

/-- The check of a sensor does not look at its energy. -/
theorem Part.fault?_probe {position : Vec3 Exact} (h : position.isFinite = true) (energy : Exact) :
    (probe position energy).fault? = none := by
  have hmass : isPositive (1.0 : Exact) = true := by simp [isPositive]
  have hradius : isNonNegative (1.0 : Exact) = true := by simp [isNonNegative]
  exact Option.or_eq_none_iff.mpr ⟨Mount.fault?_eq_none_iff.mpr ⟨h, hmass, hradius⟩, rfl⟩

/-- The vessel that is built if the parts pass the check. -/
def Vessel.assemble (id : ObjectId) (fleet : String) (position : Vec3 α) (parts : List (Part α))
    (dt : α) : Vessel α :=
  let loadout := Loadout.ofParts parts
  let body := Body.atRest id position loadout.boundingRadius loadout.mass loadout.health
  { hull := .of body fleet dt, loadout, shots := [] }

theorem Vessel.build_eq_ok_iff {id : ObjectId} {fleet : String} {position : Vec3 α}
    {parts : List (Part α)} {dt : α} {v : Vessel α} :
    build id fleet position parts dt = .ok v ↔
      checkParts fleet parts = .ok () ∧ v = assemble id fleet position parts dt := by
  rw [build]
  cases hcheck : checkParts fleet parts with
  | error e => simp [bind, Except.bind]
  | ok u => simp [bind, Except.bind, pure, Except.pure, assemble, eq_comm]

namespace Battle
variable (b : Battle α π δ) (fleet : String) (position : Vec3 α) (pilot : π) (parts : List (Part α))

/-- The battle with a ship of fit parts. -/
def enlisted : Battle α π δ :=
  { b.addFleet fleet with
    ships := b.ships ++ [⟨.assemble b.nextId fleet position parts b.dt, pilot⟩]
    nextId := b.nextId + 1 }

/-- Either the parts are not fit and nothing has changed, or there is a new ship. -/
theorem enlist_cases :
    (∃ e, checkParts fleet parts = .error e ∧
      b.enlist fleet position pilot parts = (b, .error e)) ∨
    (checkParts fleet parts = .ok () ∧ b.enlist fleet position pilot parts =
      (b.enlisted fleet position pilot parts, .ok b.nextId)) := by
  rw [enlist, Vessel.build]
  cases checkParts fleet parts with
  | error e => exact Or.inl ⟨e, rfl, rfl⟩
  | ok u => exact Or.inr ⟨rfl, rfl⟩

variable {b fleet position pilot parts}

theorem enlist_eq_of_fit (h : checkParts fleet parts = .ok ()) :
    b.enlist fleet position pilot parts =
      (b.enlisted fleet position pilot parts, .ok b.nextId) := by
  rcases b.enlist_cases fleet position pilot parts with ⟨e, hcheck, -⟩ | ⟨-, hadded⟩
  · rw [h] at hcheck
    cases hcheck
  · exact hadded

theorem addShip_eq_ok_iff {c : Battle α π δ} {id : ObjectId} :
    b.addShip fleet position pilot parts = .ok (id, c) ↔ checkParts fleet parts = .ok () ∧
      id = b.nextId ∧ c = b.enlisted fleet position pilot parts := by
  rw [addShip]
  rcases b.enlist_cases fleet position pilot parts with ⟨e, hcheck, hrefused⟩ | ⟨hcheck, hadded⟩
  · simp [hcheck, hrefused, Except.map]
  · simp [hcheck, hadded, Except.map, eq_comm]

end Battle
end FleetArena
