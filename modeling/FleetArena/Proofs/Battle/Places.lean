import Mathlib
import FleetArena.Battle.Contacts

/-! Two places of a list: what is taken from them, and what is put back. A collision reads and
writes the bodies at its two places and nothing else. -/
namespace FleetArena

section
variable {β : Type} {items : List β} {i j : Nat} {x y : β}

/-- What is put in the two parts of a list is put in the list. -/
theorem set_append_set {k : Nat} (hi : i < k) (hk : k < items.length) (x y : β) :
    (items.take k).set i x ++ (items.drop k).set 0 y = (items.set i x).set k y := by
  have hlength : (items.take k).length = k := List.length_take_of_le hk.le
  have hlow : i < (items.take k).length := hlength.symm ▸ hi
  have hcut : k - ((items.take k).set i x).length = 0 := by
    rw [List.length_set, hlength, Nat.sub_self]
  have hhigh : ((items.take k).set i x).length ≤ k := by
    rw [List.length_set, hlength]
  calc _ = ((items.take k).set i x ++ items.drop k).set k y := by
        rw [List.set_append_right _ _ hhigh, hcut]
    _ = ((items.take k ++ items.drop k).set i x).set k y := by
        rw [List.set_append_left _ _ hlow]
    _ = (items.set i x).set k y := by
        rw [List.take_append_drop]

theorem places?_eq_none_iff : places? items i j = none ↔ i = j ∨ items.length ≤ max i j := by
  rw [places?]
  split
  · rename_i h
    simp only [h]
  · rename_i h
    simp only [h, iff_false]
    split
    · exact Option.some_ne_none _
    · exact Option.some_ne_none _

/-- Different places of a list give what stands there, in the order in which they are named, and
take back what is to stand there. -/
theorem places?_eq_some (hij : i ≠ j) (hi : items[i]? = some x) (hj : items[j]? = some y) :
    places? items i j = some ⟨x, y, fun x y => (items.set i x).set j y⟩ := by
  obtain ⟨hilt, rfl⟩ := List.getElem?_eq_some_iff.mp hi
  obtain ⟨hjlt, rfl⟩ := List.getElem?_eq_some_iff.mp hj
  have hin : ¬(i = j ∨ items.length ≤ max i j) := by
    omega
  rw [places?, dif_neg hin]
  split
  · rename_i hlt
    simp only [List.getElem_take, List.getElem_drop, Nat.add_zero, set_append_set hlt hjlt]
  · rename_i hge
    have hlt : j < i := by
      omega
    simp only [List.getElem_take, List.getElem_drop, Nat.add_zero, set_append_set hlt hilt,
      List.set_comm _ _ hij.symm]

end

namespace Battle
variable {α : Type} [Scalar α] {dt cor : α} {bodies : List (Body α)}

/-- A collision of two places, by what stands there. -/
theorem strike_eq (dt cor : α) (bodies : List (Body α)) (i j : Nat) :
    strike dt cor bodies i j =
      if i = j then (bodies, false)
      else
        match bodies[i]?, bodies[j]? with
        | some x, some y =>
          match x.collide? y dt cor with
          | some c => ((bodies.set i c.first).set j c.second, true)
          | none => (bodies, false)
        | _, _ => (bodies, false) := by
  rw [strike]
  split
  · rename_i hnone
    rcases places?_eq_none_iff.mp hnone with rfl | hle
    · rw [if_pos rfl]
    · split
      · rfl
      · -- the later place is beyond the end
        have hout : bodies[i]? = none ∨ bodies[j]? = none := by
          simp only [List.getElem?_eq_none_iff]
          omega
        rcases hout with h | h
        · rw [h]
        · rw [h]
          cases bodies[i]? <;> rfl
  · rename_i places hsome
    have hin : ¬(i = j ∨ bodies.length ≤ max i j) := by
      rw [← places?_eq_none_iff, hsome]
      exact Option.some_ne_none _
    have hi : bodies[i]? = some bodies[i] := List.getElem?_eq_getElem (by omega)
    have hj : bodies[j]? = some bodies[j] := List.getElem?_eq_getElem (by omega)
    have hij : i ≠ j := fun h => hin (Or.inl h)
    rw [places?_eq_some hij hi hj] at hsome
    obtain rfl := Option.some.inj hsome
    rw [if_neg hij, hi, hj]
    split <;> rename_i hcollide <;> simp only [hcollide]

end Battle
end FleetArena
