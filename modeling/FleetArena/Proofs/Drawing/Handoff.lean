import Mathlib.Data.List.Basic
import FleetArena.Channel

/-! The hand-off of frames. A channel keeps account of every frame that is drawn, whatever its two
ends do and in whatever order. -/
namespace FleetArena
variable {α : Type}

/-- What one of the two ends of a channel does. -/
inductive Channel.Use (α : Type) where
  | draw (frame : Frame α)
  | receive
  | drain
  | hangUp

def Channel.Use.frame? : Channel.Use α → Option (Frame α)
  | .draw frame => some frame
  | _ => none

/-- A frame that is drawn. -/
structure Drawn (α : Type) where
  frame : Frame α
  /-- Whether the channel is full then. -/
  full : Bool
  /-- Whether the receiver has gone by then. -/
  late : Bool

namespace Channel
variable {c : Channel α}

/-- Without a receiver a frame closes the channel and changes nothing else. -/
theorem draw_of_gone (h : c.attached = false) (frame : Frame α) :
    c.draw frame = { c with closed := true } := by
  obtain ⟨capacity, buffer, dropped, attached, closed⟩ := c
  obtain rfl : attached = false := h
  cases closed <;> rfl

theorem draw_of_room (hattached : c.attached = true) (hopen : c.closed = false)
    (hroom : c.buffer.length < c.capacity) (frame : Frame α) :
    c.draw frame = { c with buffer := c.buffer ++ [frame] } := by
  rw [draw, hattached, hopen]
  exact if_pos hroom

theorem draw_of_full (hattached : c.attached = true) (hopen : c.closed = false)
    (hfull : c.buffer.length = c.capacity) (frame : Frame α) :
    c.draw frame = { c with dropped := c.dropped + 1 } := by
  rw [draw, hattached, hopen]
  exact if_neg (Nat.not_lt_of_le (Nat.le_of_eq hfull.symm))

end Channel

structure Handoff (α : Type) where
  channel : Channel α
  drawn : List (Drawn α)
  /-- The frames that the receiver has taken. -/
  received : List (Frame α)

namespace Handoff
open Channel (Use)

def start (capacity : Nat) : Handoff α :=
  ⟨.ofCapacity capacity, [], []⟩

def use (h : Handoff α) : Use α → Handoff α
  | .draw frame =>
    let full := decide (h.channel.buffer.length = h.channel.capacity)
    { h with
      channel := h.channel.draw frame
      drawn := h.drawn ++ [⟨frame, full, !h.channel.attached⟩] }
  | .receive =>
    match h.channel.receive? with
    | some (frame, channel) => { h with channel, received := h.received ++ [frame] }
    | none => h
  | .drain =>
    { h with channel := h.channel.drain.2, received := h.received ++ h.channel.drain.1 }
  | .hangUp => { h with channel := h.channel.hangUp }

def run : List (Use α) → Handoff α → Handoff α
  | [], h => h
  | u :: rest, h => run rest (h.use u)

/-- The frames for which there was room. -/
def sent (h : Handoff α) : List (Frame α) :=
  (h.drawn.filter fun d => !d.full && !d.late).map (·.frame)

/-- Every frame for which there was room has been taken or waits, or was lost with the receiver, and
those for which there was none are counted. -/
structure Accounts (h : Handoff α) : Prop where
  bounded : h.channel.buffer.length ≤ h.channel.capacity
  sent : ∃ lost, h.received ++ h.channel.buffer ++ lost = h.sent ∧
    (h.channel.attached = true → lost = [])
  dropped : h.channel.dropped = (h.drawn.filter fun d => d.full && !d.late).length
  attached : h.channel.attached = true →
    h.channel.closed = false ∧ ∀ d ∈ h.drawn, d.late = false
  gone : h.channel.attached = false → h.channel.buffer = []

theorem accounts_start (capacity : Nat) : (start capacity : Handoff α).Accounts where
  bounded := Nat.zero_le _
  sent := ⟨[], rfl, fun _ => rfl⟩
  dropped := rfl
  attached _ := ⟨rfl, List.forall_mem_nil _⟩
  gone _ := rfl

/-- The receiver takes the oldest frame if there is one. -/
theorem use_receive (h : Handoff α) : (h.channel.buffer = [] ∧ h.use .receive = h) ∨
    ∃ frame rest, h.channel.buffer = frame :: rest ∧ h.use .receive = { h with
      channel := { h.channel with buffer := rest }
      received := h.received ++ [frame] } := by
  cases hbuffer : h.channel.buffer with
  | nil => exact Or.inl ⟨rfl, by simp only [use, Channel.receive?, hbuffer]⟩
  | cons frame rest =>
    exact Or.inr ⟨frame, rest, rfl, by simp only [use, Channel.receive?, hbuffer]⟩

section
variable {h : Handoff α}

/-- A frame finds no receiver, or there is room for it, or it is dropped. -/
theorem Accounts.use_draw (hh : h.Accounts) (frame : Frame α) :
    (h.channel.attached = false ∧ ∃ full, h.use (.draw frame) = { h with
      channel := { h.channel with closed := true }
      drawn := h.drawn ++ [⟨frame, full, true⟩] }) ∨
    (h.channel.attached = true ∧ h.channel.buffer.length < h.channel.capacity ∧
      h.use (.draw frame) = { h with
        channel := { h.channel with buffer := h.channel.buffer ++ [frame] }
        drawn := h.drawn ++ [⟨frame, false, false⟩] }) ∨
    (h.channel.attached = true ∧ h.use (.draw frame) = { h with
      channel := { h.channel with dropped := h.channel.dropped + 1 }
      drawn := h.drawn ++ [⟨frame, true, false⟩] }) := by
  cases hreceiver : h.channel.attached with
  | false =>
    refine Or.inl ⟨rfl, decide (h.channel.buffer.length = h.channel.capacity), ?_⟩
    simp [use, Channel.draw_of_gone hreceiver, hreceiver]
  | true =>
    obtain ⟨hopen, -⟩ := hh.attached hreceiver
    rcases Nat.lt_or_eq_of_le hh.bounded with hroom | hfull
    · refine Or.inr (Or.inl ⟨rfl, hroom, ?_⟩)
      simp [use, Channel.draw_of_room hreceiver hopen hroom, hreceiver, Nat.ne_of_lt hroom]
    · refine Or.inr (Or.inr ⟨rfl, ?_⟩)
      simp [use, Channel.draw_of_full hreceiver hopen hfull, hreceiver, hfull]

theorem Accounts.draw (hh : h.Accounts) (frame : Frame α) : (h.use (.draw frame)).Accounts := by
  obtain ⟨hbounded, ⟨lost, hsent, hlost⟩, hdropped, hattached, hgone⟩ := id hh
  rcases hh.use_draw frame with
    ⟨hreceiver, full, huse⟩ | ⟨hreceiver, hroom, huse⟩ | ⟨hreceiver, huse⟩
  · rw [huse]
    refine ⟨hbounded, ⟨lost, ?_, hlost⟩, ?_, ?_, hgone⟩
    · simpa [Handoff.sent] using hsent
    · simpa using hdropped
    · intro hthere
      rw [hreceiver] at hthere
      cases hthere
  · obtain ⟨hopen, htimely⟩ := hattached hreceiver
    obtain rfl := hlost hreceiver
    rw [huse]
    refine ⟨?_, ⟨[], ?_, fun _ => rfl⟩, ?_, fun _ => ⟨hopen, ?_⟩, ?_⟩
    · simpa using Nat.succ_le_of_lt hroom
    · simpa [Handoff.sent, ← List.append_assoc] using hsent
    · simpa using hdropped
    · exact List.forall_mem_append.mpr ⟨htimely, List.forall_mem_singleton.mpr rfl⟩
    · intro hthere
      rw [hreceiver] at hthere
      cases hthere
  · obtain ⟨hopen, htimely⟩ := hattached hreceiver
    obtain rfl := hlost hreceiver
    rw [huse]
    refine ⟨hbounded, ⟨[], ?_, fun _ => rfl⟩, ?_, fun _ => ⟨hopen, ?_⟩, hgone⟩
    · simpa [Handoff.sent] using hsent
    · simpa using hdropped
    · exact List.forall_mem_append.mpr ⟨htimely, List.forall_mem_singleton.mpr rfl⟩

theorem Accounts.receive (hh : h.Accounts) : (h.use .receive).Accounts := by
  rcases h.use_receive with ⟨-, hidle⟩ | ⟨frame, rest, hbuffer, htaken⟩
  · rwa [hidle]
  obtain ⟨hbounded, ⟨lost, hsent, hlost⟩, hdropped, hattached, hgone⟩ := hh
  rw [htaken]
  refine ⟨?_, ⟨lost, ?_, hlost⟩, hdropped, hattached, fun hreceiver => ?_⟩
  · rw [hbuffer] at hbounded
    exact Nat.le_of_succ_le hbounded
  · -- the frame only moves from the channel to the receiver
    change h.received ++ [frame] ++ rest ++ lost = h.sent
    rw [← hsent, hbuffer, ← List.append_cons]
  · rw [hgone hreceiver] at hbuffer
    cases hbuffer

theorem Accounts.drain (hh : h.Accounts) : (h.use .drain).Accounts := by
  obtain ⟨hbounded, ⟨lost, hsent, hlost⟩, hdropped, hattached, hgone⟩ := hh
  refine ⟨Nat.zero_le _, ⟨lost, ?_, hlost⟩, hdropped, hattached, fun _ => rfl⟩
  change h.received ++ h.channel.buffer ++ [] ++ lost = h.sent
  rw [List.append_nil, hsent]

theorem Accounts.hangUp (hh : h.Accounts) : (h.use .hangUp).Accounts := by
  obtain ⟨hbounded, ⟨lost, hsent, hlost⟩, hdropped, hattached, hgone⟩ := hh
  refine ⟨Nat.zero_le _, ⟨h.channel.buffer ++ lost, ?_, ?_⟩, hdropped, ?_, fun _ => rfl⟩
  · change h.received ++ [] ++ (h.channel.buffer ++ lost) = h.sent
    rw [List.append_nil, ← List.append_assoc, hsent]
  · exact fun hreceiver => absurd hreceiver Bool.false_ne_true
  · exact fun hreceiver => absurd hreceiver Bool.false_ne_true

theorem Accounts.use (hh : h.Accounts) (u : Use α) : (h.use u).Accounts := by
  cases u with
  | draw frame => exact hh.draw frame
  | receive => exact hh.receive
  | drain => exact hh.drain
  | hangUp => exact hh.hangUp

theorem Accounts.run (hh : h.Accounts) (uses : List (Use α)) : (run uses h).Accounts := by
  induction uses generalizing h with
  | nil => exact hh
  | cons u rest ih => exact ih (hh.use u)

end

theorem capacity_use (h : Handoff α) (u : Use α) :
    (h.use u).channel.capacity = h.channel.capacity := by
  cases u with
  | draw frame =>
    change (h.channel.draw frame).capacity = _
    rw [Channel.draw]
    split_ifs <;> rfl
  | receive => rcases h.use_receive with ⟨-, hu⟩ | ⟨frame, rest, -, hu⟩ <;> rw [hu]
  | drain => rfl
  | hangUp => rfl

theorem attached_use (h : Handoff α) (u : Use α) :
    (h.use u).channel.attached = true ↔ h.channel.attached = true ∧ u ≠ .hangUp := by
  cases u with
  | draw frame =>
    have hsame : (h.channel.draw frame).attached = h.channel.attached := by
      rw [Channel.draw]
      split_ifs <;> rfl
    simp [use, hsame]
  | receive =>
    rcases h.use_receive with ⟨-, hu⟩ | ⟨frame, rest, -, hu⟩
    · simp [hu]
    · simp [hu]
  | drain => simp [use, Channel.drain]
  | hangUp => simp [use, Channel.hangUp]

theorem drawn_use (h : Handoff α) (u : Use α) :
    (h.use u).drawn.map (·.frame) = h.drawn.map (·.frame) ++ u.frame?.toList := by
  cases u with
  | draw frame => exact List.map_append
  | receive =>
    rcases h.use_receive with ⟨-, hu⟩ | ⟨frame, rest, -, hu⟩
    · simp [hu, Use.frame?]
    · simp [hu, Use.frame?]
  | drain => exact (List.append_nil _).symm
  | hangUp => exact (List.append_nil _).symm

/-- Nothing happens any more to a channel that is closed. -/
theorem channel_use_of_closed {h : Handoff α} (hclosed : h.channel.closed = true)
    (hgone : h.channel.attached = false) (hempty : h.channel.buffer = []) (u : Use α) :
    (h.use u).channel = h.channel := by
  obtain ⟨⟨capacity, buffer, dropped, attached, closed⟩, drawn, received⟩ := h
  obtain rfl : closed = true := hclosed
  obtain rfl : attached = false := hgone
  obtain rfl : buffer = [] := hempty
  cases u <;> rfl

theorem channel_run_of_closed {h : Handoff α} (hclosed : h.channel.closed = true)
    (hgone : h.channel.attached = false) (hempty : h.channel.buffer = []) (uses : List (Use α)) :
    (run uses h).channel = h.channel := by
  induction uses generalizing h with
  | nil => rfl
  | cons u rest ih =>
    have hsame := channel_use_of_closed hclosed hgone hempty u
    rw [run, ih (by rwa [hsame]) (by rwa [hsame]) (by rwa [hsame]), hsame]

theorem capacity_run (h : Handoff α) (uses : List (Use α)) :
    (run uses h).channel.capacity = h.channel.capacity := by
  induction uses generalizing h with
  | nil => rfl
  | cons u rest ih => exact (ih _).trans (h.capacity_use u)

theorem attached_run (h : Handoff α) (uses : List (Use α)) :
    (run uses h).channel.attached = true ↔ h.channel.attached = true ∧ .hangUp ∉ uses := by
  induction uses generalizing h with
  | nil => simp [run]
  | cons u rest ih =>
    rw [run, ih, attached_use, List.mem_cons, not_or, and_assoc, ne_comm]

theorem drawn_run (h : Handoff α) (uses : List (Use α)) :
    (run uses h).drawn.map (·.frame) = h.drawn.map (·.frame) ++ uses.filterMap Use.frame? := by
  induction uses generalizing h with
  | nil => exact (List.append_nil _).symm
  | cons u rest ih =>
    have hframes : (u :: rest).filterMap Use.frame? =
        u.frame?.toList ++ rest.filterMap Use.frame? := by
      rw [List.filterMap_cons]
      cases u.frame? <;> rfl
    rw [run, ih, drawn_use, hframes, List.append_assoc]

/-- Every frame is accounted for, for any capacity and any order of draws, receipts and the end of
the receiver. What was received and what waits are a part of the frames drawn, in order and each
once, and no more wait than the channel has room for. Until the receiver hangs up they are just the
frames at whose draw the channel was not full, the others are counted, and so the counts add up.
After it has hung up a draw drops nothing, and from the first such draw on nothing happens to the
channel. -/
theorem accounts_frames (capacity : Nat) (uses : List (Use α)) :
    let h := run uses (start capacity)
    let c := h.channel
    h.drawn.map (·.frame) = uses.filterMap Use.frame? ∧
      (h.received ++ c.buffer).Sublist (uses.filterMap Use.frame?) ∧
      c.buffer.length ≤ capacity ∧
      (.hangUp ∉ uses →
        h.received ++ c.buffer = (h.drawn.filter (!·.full)).map (·.frame) ∧
          c.dropped = (h.drawn.filter (·.full)).length ∧
          h.drawn.length = h.received.length + c.buffer.length + c.dropped) ∧
      (.hangUp ∈ uses → ∀ frame later,
        let h' := h.use (.draw frame)
        h'.channel.dropped = c.dropped ∧ (run later h').channel = h'.channel) := by
  intro h c
  obtain ⟨hbounded, ⟨lost, hsent, hlost⟩, hdropped, htimely, hgone⟩ :=
    (accounts_start capacity).run uses
  have hdrawn : h.drawn.map (·.frame) = uses.filterMap Use.frame? := drawn_run _ uses
  have hattached : c.attached = true ↔ .hangUp ∉ uses :=
    (attached_run _ uses).trans (and_iff_right rfl)
  refine ⟨hdrawn, ?_, ?_, fun huses => ?_, fun huses frame later => ?_⟩
  · have hkept : (h.received ++ c.buffer).Sublist h.sent := by
      rw [← hsent]
      exact List.sublist_append_left _ lost
    have hsome : h.sent.Sublist (h.drawn.map (·.frame)) := by
      rw [sent]
      exact List.filter_sublist.map _
    rw [← hdrawn]
    exact hkept.trans hsome
  · rwa [capacity_run] at hbounded
  · obtain ⟨-, hlate⟩ := htimely (hattached.mpr huses)
    obtain rfl := hlost (hattached.mpr huses)
    have hroom : h.received ++ c.buffer = (h.drawn.filter (!·.full)).map (·.frame) := by
      rw [← List.append_nil (h.received ++ c.buffer), hsent, sent]
      exact congrArg _ (List.filter_congr fun d hd => by rw [hlate d hd]; simp)
    have hfull : c.dropped = (h.drawn.filter (·.full)).length :=
      hdropped.trans (congrArg _ (List.filter_congr fun d hd => by rw [hlate d hd]; simp))
    refine ⟨hroom, hfull, ?_⟩
    have hlength := congrArg List.length hroom
    rw [List.length_append, List.length_map] at hlength
    rw [hlength, hfull, List.length_eq_length_filter_add (·.full), Nat.add_comm]
  · have hreceiver : c.attached = false := by
      rw [← Bool.not_eq_true, hattached]
      exact not_not.mpr huses
    have hdraw : (h.use (.draw frame)).channel = { c with closed := true } :=
      Channel.draw_of_gone hreceiver frame
    refine ⟨by rw [hdraw], channel_run_of_closed ?_ ?_ ?_ later⟩
    · rw [hdraw]
    · rwa [hdraw]
    · rw [hdraw]
      exact hgone hreceiver

/-- Of three frames a channel with room for two drops the last one. When the receiver has taken the
first frame and hung up, the count stays at one. -/
theorem accounts_frames_of_hasty :
    let frame (tick : Nat) : Frame Nat := ⟨tick, 0, ∅, [], [], []⟩
    let uses : List (Use Nat) := [.draw (frame 0), .draw (frame 1), .draw (frame 2), .receive]
    let h := run uses (start 2)
    let gone := (run (uses ++ [.hangUp]) (start 2)).use (.draw (frame 3))
    h.received ++ h.channel.buffer = [frame 0, frame 1] ∧
      3 = h.received.length + h.channel.buffer.length + h.channel.dropped ∧
      ∀ later, (run later gone).channel.dropped = 1 := by
  intro frame uses h gone
  obtain ⟨-, -, -, hkept, -⟩ := accounts_frames 2 uses
  obtain ⟨-, -, -, -, hgone⟩ := accounts_frames 2 (uses ++ [.hangUp])
  obtain ⟨hsent, -, hsum⟩ := hkept (by simp [uses])
  refine ⟨hsent, hsum, fun later => ?_⟩
  obtain ⟨hdropped, hsame⟩ := hgone (by simp) (frame 3) later
  rw [show (run later gone).channel = gone.channel from hsame]
  exact hdropped

end Handoff
end FleetArena
