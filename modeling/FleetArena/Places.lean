/-! Two members of a list in hand at the same time. -/
namespace FleetArena

/-- What stands at two places of a list, and the list with something else in these places. -/
structure Places (β : Type) where
  first : β
  second : β
  put : β → β → List β

/-- The members at two different places. The list is cut before the later place, so that each of the
two parts holds one of them. There are none when the places are the same or one is not in the
list. -/
def places? {β : Type} (items : List β) (i j : Nat) : Option (Places β) :=
  if h : i = j ∨ items.length ≤ max i j then none
  else if hlt : i < j then
    let low := items.take j
    let high := items.drop j
    have hlow : i < low.length := by
      rw [List.length_take]
      omega
    have hhigh : 0 < high.length := by
      rw [List.length_drop]
      omega
    some ⟨low[i], high[0], fun x y => low.set i x ++ high.set 0 y⟩
  else
    let low := items.take i
    let high := items.drop i
    have hlow : j < low.length := by
      rw [List.length_take]
      omega
    have hhigh : 0 < high.length := by
      rw [List.length_drop]
      omega
    some ⟨high[0], low[j], fun x y => low.set j y ++ high.set 0 x⟩

end FleetArena
