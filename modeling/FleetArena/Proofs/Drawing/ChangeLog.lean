import Mathlib
import FleetArena.Frame

/-! Change logs: frames from which a drawer can tell, at every frame, which objects there are. -/
namespace FleetArena
variable {α : Type}

namespace Frame

def newIds (f : Frame α) : List ObjectId :=
  f.new.map (·.id)

def updatedIds (f : Frame α) : List ObjectId :=
  f.updated.map (·.id)

/-- A frame says what has become of the objects `known`, so that the objects `live` are known then.
No object is new that was `announced` before. -/
structure Tells (f : Frame α) (known announced live : List ObjectId) : Prop where
  mem_known : ∀ id ∈ f.deleted, id ∈ known
  nodup_deleted : f.deleted.Nodup
  mem_updatedIds : ∀ id, id ∈ f.updatedIds ↔ id ∈ known ∧ id ∉ f.deleted
  nodup_updatedIds : f.updatedIds.Nodup
  not_announced : ∀ id ∈ f.newIds, id ∉ announced
  nodup_newIds : f.newIds.Nodup
  mem_live : ∀ id, id ∈ live ↔ id ∈ known ∧ id ∉ f.deleted ∨ id ∈ f.newIds

theorem Tells.announced_of_live {f : Frame α} {known announced live : List ObjectId}
    (h : f.Tells known announced live) (hknown : ∀ id ∈ known, id ∈ announced) :
    ∀ id ∈ live, id ∈ announced ++ f.newIds := by
  intro id hid
  rcases (h.mem_live id).mp hid with ⟨hk, -⟩ | hnew
  · exact List.mem_append_left _ (hknown id hk)
  · exact List.mem_append_right _ hnew

end Frame

/-- The frames of a log, each with the objects that are there when it goes out, take a drawer that
knows the objects `known` of the `announced` ones to one that knows `known'` of `announced'`. -/
inductive ChangeLog : (known announced : List ObjectId) → List (Frame α × List ObjectId) →
    (known' announced' : List ObjectId) → Prop
  | nil (known announced : List ObjectId) : ChangeLog known announced [] known announced
  | cons {known announced live known' announced' : List ObjectId} {f : Frame α}
      {rest : List (Frame α × List ObjectId)} (htells : f.Tells known announced live)
      (hrest : ChangeLog live (announced ++ f.newIds) rest known' announced') :
      ChangeLog known announced ((f, live) :: rest) known' announced'

namespace ChangeLog
variable {known announced known' announced' known'' announced'' : List ObjectId}
  {log log' : List (Frame α × List ObjectId)}

theorem announced_eq (h : ChangeLog known announced log known' announced') :
    announced' = announced ++ log.flatMap (·.1.newIds) := by
  induction h with
  | nil => simp
  | cons _ _ ih => rw [ih, List.flatMap_cons, List.append_assoc]

theorem append (h : ChangeLog known announced log known' announced')
    (h' : ChangeLog known' announced' log' known'' announced'') :
    ChangeLog known announced (log ++ log') known'' announced'' := by
  induction h with
  | nil => exact h'
  | cons htells _ ih => exact .cons htells (ih h')

theorem of_append (h : ChangeLog known announced (log ++ log') known'' announced'') :
    ∃ known' announced', ChangeLog known announced log known' announced' ∧
      ChangeLog known' announced' log' known'' announced'' := by
  induction log generalizing known announced with
  | nil => exact ⟨known, announced, .nil _ _, h⟩
  | cons e rest ih =>
    obtain ⟨f, live⟩ := e
    cases h with
    | cons htells hrest =>
      obtain ⟨known', announced', hlog, hlog'⟩ := ih hrest
      exact ⟨known', announced', .cons htells hlog, hlog'⟩

/-- No object is announced twice. -/
theorem nodup_newIds (h : ChangeLog known announced log known' announced') :
    (log.flatMap (·.1.newIds)).Nodup ∧ ∀ id ∈ log.flatMap (·.1.newIds), id ∉ announced := by
  -- the rest of the log announces nothing that this frame or an earlier one has announced
  induction h with
  | nil => simp
  | cons htells _ ih =>
    obtain ⟨hnodup, hfresh⟩ := ih
    simp only [List.mem_append, not_or] at hfresh
    rw [List.flatMap_cons]
    constructor
    · apply htells.nodup_newIds.append hnodup
      intro id hnew hlater
      exact (hfresh id hlater).2 hnew
    · intro id hid
      rcases List.mem_append.mp hid with hnew | hlater
      · exact htells.not_announced id hnew
      · exact (hfresh id hlater).1

/-- No object is deleted twice: one that is gone can only come back by being announced again. -/
theorem nodup_deleted (h : ChangeLog known announced log known' announced')
    (hknown : ∀ id ∈ known, id ∈ announced) :
    (log.flatMap (·.1.deleted)).Nodup ∧
      ∀ id ∈ log.flatMap (·.1.deleted), id ∈ announced → id ∈ known := by
  induction h with
  | nil => simp
  | @cons known announced live known' announced' f rest htells _ ih =>
    obtain ⟨hnodup, hback⟩ := ih (htells.announced_of_live hknown)
    -- whatever is deleted later and was announced before has never been gone
    have hkept (id) (hlater : id ∈ rest.flatMap (·.1.deleted)) (ha : id ∈ announced) :
        id ∈ known ∧ id ∉ f.deleted := by
      have hl := hback id hlater (List.mem_append_left _ ha)
      rcases (htells.mem_live id).mp hl with hk | hnew
      · exact hk
      · exact absurd ha (htells.not_announced id hnew)
    rw [List.flatMap_cons]
    constructor
    · apply htells.nodup_deleted.append hnodup
      intro id hdel hlater
      exact (hkept id hlater (hknown id (htells.mem_known id hdel))).2 hdel
    · intro id hid ha
      rcases List.mem_append.mp hid with hdel | hlater
      · exact htells.mem_known id hdel
      · exact (hkept id hlater ha).1

/-- What a log announces is not deleted by a frame that comes earlier. -/
theorem pairwise_notMem_deleted (h : ChangeLog known announced log known' announced')
    (hknown : ∀ id ∈ known, id ∈ announced) :
    log.Pairwise fun e e' => ∀ id ∈ e'.1.newIds, id ∉ e.1.deleted := by
  induction h with
  | nil => exact .nil
  | cons htells hrest ih =>
    apply List.Pairwise.cons _ (ih (htells.announced_of_live hknown))
    intro e he id hnew hdel
    obtain ⟨-, hfresh⟩ := hrest.nodup_newIds
    apply hfresh id (List.mem_flatMap.mpr ⟨e, he, hnew⟩)
    exact List.mem_append_left _ (hknown id (htells.mem_known id hdel))

/-- In the end just that is known which was announced and has not been deleted. -/
theorem mem_known_iff (h : ChangeLog known announced log known' announced')
    (hknown : ∀ id ∈ known, id ∈ announced) (id : ObjectId) :
    id ∈ known' ↔ (id ∈ known ∨ id ∈ log.flatMap (·.1.newIds)) ∧
      id ∉ log.flatMap (·.1.deleted) := by
  induction h with
  | nil => simp
  | @cons known announced live known' announced' f rest htells hrest ih =>
    rw [ih (htells.announced_of_live hknown), htells.mem_live, List.flatMap_cons,
      List.flatMap_cons, List.mem_append, List.mem_append]
    -- what the frame deletes was announced before, so that neither it nor a later one announces it
    by_cases hdel : id ∈ f.deleted
    · have hold : id ∈ announced := hknown id (htells.mem_known id hdel)
      have hnow : id ∉ f.newIds := fun hnew => htells.not_announced id hnew hold
      have hlater : id ∉ rest.flatMap (·.1.newIds) :=
        fun hnew => hrest.nodup_newIds.2 id hnew (List.mem_append_left _ hold)
      simp only [hdel, hnow, hlater, not_true, and_false, or_self, true_or, false_and]
    · simp only [hdel, not_false_eq_true, and_true, false_or, or_assoc]

/-- What no frame finds in the arena is never spoken of. -/
theorem not_mentioned (h : ChangeLog known announced log known' announced') {id : ObjectId}
    (hknown : id ∉ known) (hlive : ∀ e ∈ log, id ∉ e.2) :
    ∀ e ∈ log, id ∉ e.1.newIds ∧ id ∉ e.1.updatedIds ∧ id ∉ e.1.deleted := by
  induction h with
  | nil => simp
  | cons htells _ ih =>
    rw [List.forall_mem_cons] at hlive ⊢
    refine ⟨⟨?_, ?_, ?_⟩, ih hlive.1 hlive.2⟩
    · exact fun hnew => hlive.1 ((htells.mem_live id).mpr (Or.inr hnew))
    · exact fun hup => hknown ((htells.mem_updatedIds id).mp hup).1
    · exact fun hdel => hknown (htells.mem_known id hdel)

end ChangeLog
end FleetArena
