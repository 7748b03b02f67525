import FleetArena.Proofs.Drawing.ChangeLog

/-! Lossy delivery: what a receiver makes of a change log when some frames of it never arrive. -/
namespace FleetArena
open scoped List
variable {α : Type}

namespace Frame

/-- The objects that a receiver knows after a frame when it knew the objects `known` before. -/
def replay (known : List ObjectId) (f : Frame α) : List ObjectId :=
  (known ++ f.newIds).filter (· ∉ f.deleted)

def replayAll (fs : List (Frame α)) : List ObjectId :=
  fs.foldl replay []

/-- A receiver that knows the objects `known` has heard of all that the frame updates, and knows
after it just the objects `live`. -/
structure Reconstructs (f : Frame α) (known live : List ObjectId) : Prop where
  known_of_updated : ∀ id ∈ f.updatedIds, id ∈ known
  mem_replay : ∀ id, id ∈ f.replay known ↔ id ∈ live

theorem mem_replay (known : List ObjectId) (f : Frame α) (id : ObjectId) :
    id ∈ f.replay known ↔ (id ∈ known ∨ id ∈ f.newIds) ∧ id ∉ f.deleted := by
  rw [replay, List.mem_filter, List.mem_append, decide_eq_true_eq]

/-- If nothing comes back, the order of the frames makes no difference. -/
theorem mem_foldl_replay {fs : List (Frame α)}
    (h : fs.Pairwise fun f g => ∀ id ∈ g.newIds, id ∉ f.deleted) (known : List ObjectId)
    (id : ObjectId) : id ∈ fs.foldl replay known ↔
      (id ∈ known ∨ id ∈ fs.flatMap newIds) ∧ id ∉ fs.flatMap deleted := by
  induction fs generalizing known with
  | nil => simp
  | cons f rest ih =>
    obtain ⟨hf, hrest⟩ := List.pairwise_cons.mp h
    rw [List.foldl_cons, ih hrest, mem_replay, List.flatMap_cons, List.flatMap_cons,
      List.mem_append, List.mem_append]
    by_cases hdel : id ∈ f.deleted
    · have hlater : id ∉ rest.flatMap newIds := by
        intro hid
        obtain ⟨g, hg, hnew⟩ := List.mem_flatMap.mp hid
        exact hf g hg id hnew hdel
      simp only [hdel, hlater, not_true, and_false, or_self, true_or, false_and]
    · simp only [hdel, not_false_eq_true, and_true, false_or, or_assoc]

end Frame

/-- A frame that is handed to a channel. -/
structure Dispatch (α : Type) where
  frame : Frame α
  /-- The objects that are there then. -/
  live : List ObjectId
  /-- Whether the channel has room for the frame. -/
  fits : Bool

def Dispatch.entry (d : Dispatch α) : Frame α × List ObjectId :=
  (d.frame, d.live)

def delivered (log : List (Dispatch α)) : List (Frame α) :=
  (log.filter (·.fits)).map (·.frame)

def lost (log : List (Dispatch α)) : List (Frame α) :=
  (log.filter (!·.fits)).map (·.frame)

theorem delivered_append (log log' : List (Dispatch α)) :
    delivered (log ++ log') = delivered log ++ delivered log' := by
  rw [delivered, List.filter_append, List.map_append]
  rfl

theorem lost_append (log log' : List (Dispatch α)) :
    lost (log ++ log') = lost log ++ lost log' := by
  rw [lost, List.filter_append, List.map_append]
  rfl

theorem delivered_append_lost_perm (log : List (Dispatch α)) :
    delivered log ++ lost log ~ log.map (·.frame) := by
  rw [delivered, lost, ← List.map_append]
  exact (List.filter_append_perm _ log).map _

/-- Every frame that has arrived has its place in the log, behind those that arrived before it. -/
theorem exists_of_delivered_eq {log : List (Dispatch α)} {past future : List (Frame α)}
    {f : Frame α} (h : delivered log = past ++ f :: future) : ∃ before live after,
      log = before ++ ⟨f, live, true⟩ :: after ∧ delivered before = past := by
  obtain ⟨pre, post, hsplit, hpre, hpost⟩ := List.map_eq_append_iff.mp h
  obtain ⟨d, post, rfl, hd, -⟩ := List.map_eq_cons_iff.mp hpost
  obtain ⟨before, rest, hlog, hbefore, hrest⟩ := List.filter_eq_append_iff.mp hsplit
  obtain ⟨skipped, after, hskipped, hnone, hfits, -⟩ := List.filter_eq_cons_iff.mp hrest
  refine ⟨before ++ skipped, d.live, after, ?_, ?_⟩
  · rw [hlog, hskipped, List.append_assoc, ← hd, ← hfits]
  · -- what stands between the two has not arrived
    have hempty : delivered skipped = [] := by
      rw [delivered, List.filter_eq_nil_iff.mpr hnone, List.map_nil]
    rw [delivered_append, hempty, List.append_nil, delivered, hbefore, hpre]

/-- The frames that have arrived and those that are missing make up a log, which ends with the
objects `known` of the `announced` ones. -/
structure MakesUp (arrived missing : List (Frame α)) (known announced : List ObjectId) : Prop where
  mem_announced : ∀ id, id ∈ announced ↔
    id ∈ arrived.flatMap Frame.newIds ∨ id ∈ missing.flatMap Frame.newIds
  mem_known : ∀ id, id ∈ known ↔
    id ∈ announced ∧ id ∉ arrived.flatMap (·.deleted) ∧ id ∉ missing.flatMap (·.deleted)
  mem_replayAll : ∀ id, id ∈ Frame.replayAll arrived ↔
    id ∈ arrived.flatMap Frame.newIds ∧ id ∉ arrived.flatMap (·.deleted)
  announced_once : ∀ id ∈ arrived.flatMap Frame.newIds, id ∉ missing.flatMap Frame.newIds
  deleted_once : ∀ id ∈ missing.flatMap (·.deleted), id ∉ arrived.flatMap (·.deleted)

variable {log : List (Dispatch α)} {arrived missing : List (Frame α)} {f : Frame α}
  {known announced live : List ObjectId}

theorem ChangeLog.makesUp (h : ChangeLog [] [] (log.map Dispatch.entry) known announced) :
    MakesUp (delivered log) (lost log) known announced := by
  have hnothing : ∀ id ∈ ([] : List ObjectId), id ∈ ([] : List ObjectId) := by simp
  have hflat (g : Frame α → List ObjectId) :
      (delivered log).flatMap g ++ (lost log).flatMap g ~
        (log.map Dispatch.entry).flatMap fun e => g e.1 := by
    rw [← List.flatMap_append, List.flatMap_map]
    have hperm := (delivered_append_lost_perm log).flatMap_right g
    rwa [List.flatMap_map] at hperm
  have hnew := hflat Frame.newIds
  have hdel := hflat (·.deleted)
  have hannounced (id) : id ∈ announced ↔ id ∈ (delivered log).flatMap Frame.newIds ∨
      id ∈ (lost log).flatMap Frame.newIds := by
    rw [h.announced_eq, List.nil_append, ← hnew.mem_iff, List.mem_append]
  -- every frame of the log is among the delivered ones or among the lost ones, and in one place
  constructor
  case mem_announced => exact hannounced
  case mem_known =>
    intro id
    rw [h.mem_known_iff hnothing, ← hnew.mem_iff, ← hdel.mem_iff, hannounced]
    simp only [List.not_mem_nil, false_or, List.mem_append, not_or]
  case mem_replayAll =>
    intro id
    have hpairs : (log.map (·.frame)).Pairwise fun f g => ∀ id ∈ g.newIds, id ∉ f.deleted := by
      have := h.pairwise_notMem_deleted hnothing
      rw [List.pairwise_map] at this ⊢
      exact this
    -- the frames that have arrived stand in the order of the log
    have hsublist : delivered log <+ log.map (·.frame) := List.filter_sublist.map _
    rw [Frame.replayAll, Frame.mem_foldl_replay (hpairs.sublist hsublist)]
    simp only [List.not_mem_nil, false_or]
  case announced_once =>
    intro id ha hm
    have hnodup := hnew.nodup_iff.mpr h.nodup_newIds.1
    exact (List.nodup_append'.mp hnodup).2.2 ha hm
  case deleted_once =>
    intro id hm ha
    have hnodup := hdel.nodup_iff.mpr (h.nodup_deleted hnothing).1
    exact (List.nodup_append'.mp hnodup).2.2 ha hm

namespace MakesUp

/-- The receiver has heard of all that a frame updates just if nothing that is there was announced
in a frame that is missing. -/
theorem forall_updatedIds_iff (h : MakesUp arrived missing known announced)
    (hf : f.Tells known announced live) :
    (∀ id ∈ f.updatedIds, id ∈ Frame.replayAll arrived) ↔
      ∀ g ∈ missing, ∀ id ∈ g.newIds, id ∉ live := by
  constructor
  · intro hupdated g hg id hnew hlive
    -- an object that is still there is updated, as nothing is announced twice
    have hmissing := List.mem_flatMap.mpr ⟨g, hg, hnew⟩
    rcases (hf.mem_live id).mp hlive with hold | hagain
    · have hid := hupdated id ((hf.mem_updatedIds id).mpr hold)
      exact h.announced_once id ((h.mem_replayAll id).mp hid).1 hmissing
    · exact hf.not_announced id hagain ((h.mem_announced id).mpr (Or.inr hmissing))
  · intro hmissed id hup
    have hold := (hf.mem_updatedIds id).mp hup
    have hlive := (hf.mem_live id).mpr (Or.inl hold)
    obtain ⟨hannounced, hdel, -⟩ := (h.mem_known id).mp hold.1
    rcases (h.mem_announced id).mp hannounced with harrived | hmissing
    · exact (h.mem_replayAll id).mpr ⟨harrived, hdel⟩
    · obtain ⟨g, hg, hnew⟩ := List.mem_flatMap.mp hmissing
      exact absurd hlive (hmissed g hg id hnew)

/-- The receiver keeps nothing that is gone just if nothing that it has been told of was deleted in
a frame that is missing. -/
theorem forall_mem_replay_iff (h : MakesUp arrived missing known announced)
    (hf : f.Tells known announced live) :
    (∀ id ∈ f.replay (Frame.replayAll arrived), id ∈ live) ↔
      ∀ g ∈ missing, ∀ id ∈ g.deleted, ∀ a ∈ arrived, id ∉ a.newIds := by
  constructor
  · intro hreplay g hg id hdel a ha hnew
    have hmissing := List.mem_flatMap.mpr ⟨g, hg, hdel⟩
    have harrived := List.mem_flatMap.mpr ⟨a, ha, hnew⟩
    have hgone : id ∉ known := fun hk => ((h.mem_known id).mp hk).2.2 hmissing
    have hkept := (h.mem_replayAll id).mpr ⟨harrived, h.deleted_once id hmissing⟩
    -- the object is gone already, so that the frame does not take it away any more
    have hstays := (f.mem_replay _ id).mpr ⟨Or.inl hkept, fun hd => hgone (hf.mem_known id hd)⟩
    rcases (hf.mem_live id).mp (hreplay id hstays) with ⟨hk, -⟩ | hagain
    · exact hgone hk
    · exact hf.not_announced id hagain ((h.mem_announced id).mpr (Or.inl harrived))
  · intro hmissed id hid
    obtain ⟨hkept | hnew, hdel⟩ := (f.mem_replay _ id).mp hid
    · obtain ⟨harrived, hstays⟩ := (h.mem_replayAll id).mp hkept
      obtain ⟨a, ha, hnew⟩ := List.mem_flatMap.mp harrived
      have hnowhere : id ∉ missing.flatMap (·.deleted) := by
        intro hmissing
        obtain ⟨g, hg, hd⟩ := List.mem_flatMap.mp hmissing
        exact hmissed g hg id hd a ha hnew
      have hannounced := (h.mem_announced id).mpr (Or.inl harrived)
      have hk := (h.mem_known id).mpr ⟨hannounced, hstays, hnowhere⟩
      exact (hf.mem_live id).mpr (Or.inl ⟨hk, hdel⟩)
    · exact (hf.mem_live id).mpr (Or.inr hnew)

theorem reconstructs_iff (h : MakesUp arrived missing known announced)
    (hf : f.Tells known announced live) : f.Reconstructs (Frame.replayAll arrived) live ↔
      (∀ g ∈ missing, ∀ id ∈ g.newIds, id ∉ live) ∧
        ∀ g ∈ missing, ∀ id ∈ g.deleted, ∀ a ∈ arrived, id ∉ a.newIds := by
  rw [← h.forall_updatedIds_iff hf, ← h.forall_mem_replay_iff hf]
  constructor
  · intro hr
    exact ⟨hr.known_of_updated, fun id => (hr.mem_replay id).mp⟩
  · rintro ⟨hupdated, hreplay⟩
    refine ⟨hupdated, fun id => ⟨hreplay id, fun hlive => ?_⟩⟩
    -- whatever is there is updated or new
    rw [f.mem_replay]
    rcases (hf.mem_live id).mp hlive with hold | hnew
    · exact ⟨Or.inl (hupdated id ((hf.mem_updatedIds id).mpr hold)), hold.2⟩
    · refine ⟨Or.inr hnew, fun hdel => hf.not_announced id hnew ?_⟩
      exact ((h.mem_known id).mp (hf.mem_known id hdel)).1

end MakesUp
end FleetArena
