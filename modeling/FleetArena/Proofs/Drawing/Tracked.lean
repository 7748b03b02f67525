import FleetArena.Proofs.Battle.Objects
import FleetArena.Proofs.Drawing.ChangeLog

/-! What ties the objects of a battle to what its drawer has been told, and how each phase of a tick
keeps it. -/
namespace FleetArena.Battle
open scoped List

variable {α π δ : Type}

/-- A drawer knows the objects `known` of the `announced` ones: those that are there and those it
has still to be told of that they are gone. -/
structure Tracked (b : Battle α π δ) (known announced : List ObjectId) : Prop where
  nodup_ids : b.ids.Nodup
  lt_nextId : ∀ id ∈ b.ids, id < b.nextId
  mem_ids_of_drawn : ∀ id ∈ b.drawn, id ∈ b.ids
  nodup_deleted : b.deleted.Nodup
  notMem_of_deleted : ∀ id ∈ b.deleted, id ∉ b.ids
  mem_known : ∀ id, id ∈ known ↔ id ∈ b.drawn ∨ id ∈ b.deleted
  announced_of_known : ∀ id ∈ known, id ∈ announced
  announced_lt : ∀ id ∈ announced, id < b.nextId
  drawn_of_announced : ∀ id ∈ announced, id ∈ b.ids → id ∈ b.drawn

variable {b c : Battle α π δ} {known announced removed : List ObjectId} {count : Nat}

/-- Fresh numbers are above all that a drawer has heard of. -/
theorem Tracked.grows (h : b.Tracked known announced) (hc : b.Grows c count) :
    c.Tracked known announced := by
  have hmem (id) : id ∈ c.ids ↔ (b.nextId ≤ id ∧ id < b.nextId + count) ∨ id ∈ b.ids := by
    rw [hc.ids.mem_iff, List.mem_append, List.mem_range'_1]
  constructor
  case nodup_ids =>
    rw [hc.ids.nodup_iff]
    apply List.Nodup.append List.nodup_range' h.nodup_ids
    intro id hnew hold
    exact (h.lt_nextId id hold).not_ge (List.mem_range'_1.mp hnew).1
  case lt_nextId =>
    intro id hid
    rw [hc.nextId]
    rcases (hmem id).mp hid with hnew | hold
    · exact hnew.2
    · exact (h.lt_nextId id hold).trans_le (Nat.le_add_right _ _)
  case mem_ids_of_drawn =>
    intro id hid
    rw [hc.drawn] at hid
    exact (hmem id).mpr (Or.inr (h.mem_ids_of_drawn id hid))
  case nodup_deleted =>
    rw [hc.deleted]
    exact h.nodup_deleted
  case notMem_of_deleted =>
    intro id hid hlive
    rw [hc.deleted] at hid
    -- a drawer has heard of whatever is deleted, so that no new object has its number
    have hlt := h.announced_lt id (h.announced_of_known id ((h.mem_known id).mpr (Or.inr hid)))
    rcases (hmem id).mp hlive with hnew | hold
    · exact hlt.not_ge hnew.1
    · exact h.notMem_of_deleted id hid hold
  case mem_known =>
    rw [hc.drawn, hc.deleted]
    exact h.mem_known
  case announced_of_known => exact h.announced_of_known
  case announced_lt =>
    intro id ha
    rw [hc.nextId]
    exact (h.announced_lt id ha).trans_le (Nat.le_add_right _ _)
  case drawn_of_announced =>
    intro id ha hlive
    rw [hc.drawn]
    rcases (hmem id).mp hlive with hnew | hold
    · exact absurd hnew.1 (h.announced_lt id ha).not_ge
    · exact h.drawn_of_announced id ha hold

/-- What is removed goes from the drawn objects to the deleted ones. -/
theorem Tracked.loses (h : b.Tracked known announced) (hc : b.Loses c removed) :
    c.Tracked known announced := by
  have hmem (id) : id ∈ b.ids ↔ id ∈ removed ∨ id ∈ c.ids := by
    rw [hc.ids.mem_iff, List.mem_append]
  -- no number stands twice among what is removed and what is left
  obtain ⟨hremoved, hkept, hapart⟩ := List.nodup_append'.mp (hc.ids.nodup_iff.mp h.nodup_ids)
  have hdrawn (id) : id ∈ c.drawn ↔ id ∈ b.drawn ∧ id ∉ removed := by
    rw [hc.drawn, List.mem_filter]
    simp
  have hdeleted (id) : id ∈ c.deleted ↔ id ∈ b.deleted ∨ id ∈ removed ∧ id ∈ b.drawn := by
    rw [hc.deleted, List.mem_append, List.mem_filter]
    simp
  constructor
  case nodup_ids => exact hkept
  case lt_nextId =>
    intro id hid
    rw [hc.nextId]
    exact h.lt_nextId id ((hmem id).mpr (Or.inr hid))
  case mem_ids_of_drawn =>
    intro id hid
    obtain ⟨hd, hr⟩ := (hdrawn id).mp hid
    exact ((hmem id).mp (h.mem_ids_of_drawn id hd)).resolve_left hr
  case nodup_deleted =>
    rw [hc.deleted]
    apply h.nodup_deleted.append (hremoved.filter _)
    intro id hdel hid
    exact h.notMem_of_deleted id hdel ((hmem id).mpr (Or.inl (List.mem_filter.mp hid).1))
  case notMem_of_deleted =>
    intro id hid hlive
    rcases (hdeleted id).mp hid with hdel | ⟨hr, -⟩
    · exact h.notMem_of_deleted id hdel ((hmem id).mpr (Or.inr hlive))
    · exact hapart hr hlive
  case mem_known =>
    intro id
    rw [h.mem_known, hdrawn, hdeleted]
    tauto
  case announced_of_known => exact h.announced_of_known
  case announced_lt =>
    intro id ha
    rw [hc.nextId]
    exact h.announced_lt id ha
  case drawn_of_announced =>
    intro id ha hlive
    refine (hdrawn id).mpr ⟨h.drawn_of_announced id ha ((hmem id).mpr (Or.inr hlive)), ?_⟩
    exact fun hr => hapart hr hlive

theorem Tracked.withDrawer (h : b.Tracked known announced) (drawer : Option δ) :
    { b with drawer }.Tracked known announced :=
  ⟨h.1, h.2, h.3, h.4, h.5, h.6, h.7, h.8, h.9⟩

theorem map_id_drawables (b : Battle α π δ) : b.drawables.map (·.id) ~ b.ids := by
  have hships : (b.ships.map fun s => Drawable.of s.body "ship").map (·.id) =
      b.ships.map Ship.id := by
    rw [List.map_map]
    rfl
  simp only [drawables, ids_eq, List.map_append, hships]
  simp only [List.map_map, Function.comp_def, Drawable.of]
  -- only the order of the kinds of objects is different
  apply List.perm_iff_count.mpr
  intro id
  simp only [List.count_append]
  omega

variable [Scalar α]

theorem newIds_frame (b : Battle α π δ) :
    b.frame.newIds = (b.drawables.map (·.id)).filter (!b.drawn.contains ·) := by
  simp only [Frame.newIds, frame, List.partition_eq_filter_filter, List.filter_map,
    Function.comp_def]

theorem updatedIds_frame (b : Battle α π δ) :
    b.frame.updatedIds = (b.drawables.map (·.id)).filter (b.drawn.contains ·) := by
  simp only [Frame.updatedIds, frame, List.partition_eq_filter_filter, List.filter_map,
    Function.comp_def]

theorem mem_newIds_frame (b : Battle α π δ) (id : ObjectId) :
    id ∈ b.frame.newIds ↔ id ∈ b.ids ∧ id ∉ b.drawn := by
  rw [newIds_frame, List.mem_filter, b.map_id_drawables.mem_iff]
  simp

theorem mem_updatedIds_frame (b : Battle α π δ) (id : ObjectId) :
    id ∈ b.frame.updatedIds ↔ id ∈ b.ids ∧ id ∈ b.drawn := by
  rw [updatedIds_frame, List.mem_filter, b.map_id_drawables.mem_iff]
  simp

theorem deleted_frame (b : Battle α π δ) : b.frame.deleted = b.deleted := by
  simp only [frame]

/-- The next frame tells the drawer exactly what it does not know yet. -/
theorem Tracked.tells (h : b.Tracked known announced) :
    b.frame.Tells known announced b.ids := by
  have hnodup := b.map_id_drawables.nodup_iff.mpr h.nodup_ids
  constructor
  case mem_known =>
    intro id hid
    rw [deleted_frame] at hid
    exact (h.mem_known id).mpr (Or.inr hid)
  case nodup_deleted =>
    rw [deleted_frame]
    exact h.nodup_deleted
  case mem_updatedIds =>
    intro id
    rw [mem_updatedIds_frame, deleted_frame, h.mem_known]
    have := h.mem_ids_of_drawn id
    have := h.notMem_of_deleted id
    tauto
  case nodup_updatedIds =>
    rw [updatedIds_frame]
    exact hnodup.filter _
  case not_announced =>
    intro id hid ha
    obtain ⟨hlive, hnew⟩ := (b.mem_newIds_frame id).mp hid
    exact hnew (h.drawn_of_announced id ha hlive)
  case nodup_newIds =>
    rw [newIds_frame]
    exact hnodup.filter _
  case mem_live =>
    intro id
    rw [mem_newIds_frame, deleted_frame, h.mem_known]
    have := h.mem_ids_of_drawn id
    have := h.notMem_of_deleted id
    tauto

variable [Drawer α δ]

/-- After a frame the drawer knows what there is, and has nothing more to hear. -/
theorem Tracked.emitFrame (h : b.Tracked known announced) {d : δ} (hd : b.drawer = some d) :
    b.emitFrame.Tracked b.ids (announced ++ b.frame.newIds) := by
  have hids : b.emitFrame.ids = b.ids := by simp only [Battle.emitFrame, hd, ids, bodies]
  have hnext : b.emitFrame.nextId = b.nextId := by simp only [Battle.emitFrame, hd]
  have hdeleted : b.emitFrame.deleted = [] := by simp only [Battle.emitFrame, hd]
  have hdrawn : b.emitFrame.drawn = b.drawn ++ b.frame.newIds := by
    simp only [Battle.emitFrame, hd, Frame.newIds]
  have hmem (id) : id ∈ b.emitFrame.drawn ↔ id ∈ b.ids := by
    rw [hdrawn, List.mem_append, mem_newIds_frame]
    have := h.mem_ids_of_drawn id
    tauto
  constructor
  case nodup_ids =>
    rw [hids]
    exact h.nodup_ids
  case lt_nextId =>
    rw [hids, hnext]
    exact h.lt_nextId
  case mem_ids_of_drawn =>
    intro id hid
    rw [hids]
    exact (hmem id).mp hid
  case nodup_deleted =>
    rw [hdeleted]
    exact List.nodup_nil
  case notMem_of_deleted => simp [hdeleted]
  case mem_known =>
    intro id
    rw [hmem, hdeleted]
    simp
  case announced_of_known =>
    intro id hid
    by_cases hd : id ∈ b.drawn
    · exact List.mem_append_left _
        (h.announced_of_known id ((h.mem_known id).mpr (Or.inl hd)))
    · exact List.mem_append_right _ ((b.mem_newIds_frame id).mpr ⟨hid, hd⟩)
  case announced_lt =>
    intro id hid
    rw [hnext]
    rcases List.mem_append.mp hid with ha | hnew
    · exact h.announced_lt id ha
    · exact h.lt_nextId id ((b.mem_newIds_frame id).mp hnew).1
  case drawn_of_announced =>
    intro id _ hlive
    rw [hids] at hlive
    exact (hmem id).mpr hlive

end FleetArena.Battle
