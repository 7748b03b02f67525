import FleetArena.Proofs.Battle.Rest
import FleetArena.Proofs.Drawing.Delivery
import FleetArena.Proofs.Drawing.Stream

/-! Sessions: a battle that draws into a channel, and a receiver that takes frames out of it when it
comes to it. -/
namespace FleetArena
variable {α π : Type}

namespace Channel
variable {c : Channel α}

/-- What becomes of frames that are handed over one after the other. -/
def dispatches : List (Frame α × List ObjectId) → Channel α → List (Dispatch α)
  | [], _ => []
  | (frame, live) :: rest, c =>
    ⟨frame, live, c.buffer.length < c.capacity⟩ :: dispatches rest (c.draw frame)

theorem map_entry_dispatches (es : List (Frame α × List ObjectId)) (c : Channel α) :
    (dispatches es c).map Dispatch.entry = es := by
  induction es generalizing c with
  | nil => rfl
  | cons e rest ih =>
    rw [dispatches, List.map_cons, ih]
    rfl

/-- A frame that fits is added to those that wait, and any other one is counted. -/
theorem draw_eq (h : c.connected = true) (e : Frame α × List ObjectId) :
    (c.draw e.1).connected = true ∧
      (c.draw e.1).buffer = c.buffer ++ delivered [⟨e.1, e.2, c.buffer.length < c.capacity⟩] ∧
      (c.draw e.1).dropped =
        c.dropped + (lost [⟨e.1, e.2, c.buffer.length < c.capacity⟩]).length := by
  obtain ⟨hattached, hopen⟩ : c.attached = true ∧ c.closed = false := by simpa [connected] using h
  rw [draw, hattached, hopen]
  by_cases hroom : c.buffer.length < c.capacity
  · simp [hroom, delivered, lost, connected]
  · simp [hroom, delivered, lost, connected]

theorem drawAll_eq (h : c.connected = true) (es : List (Frame α × List ObjectId)) :
    let c' := es.foldl (fun c e => c.draw e.1) c
    c'.connected = true ∧ c'.buffer = c.buffer ++ delivered (dispatches es c) ∧
      c'.dropped = c.dropped + (lost (dispatches es c)).length := by
  induction es generalizing c with
  | nil => exact ⟨h, (List.append_nil _).symm, rfl⟩
  | cons e rest ih =>
    -- what becomes of the first frame is settled before the others come
    obtain ⟨hconnected, hbuffer, hdropped⟩ := draw_eq h e
    obtain ⟨hconnected', hbuffer', hdropped'⟩ := ih hconnected
    have hsplit : dispatches (e :: rest) c =
        [⟨e.1, e.2, c.buffer.length < c.capacity⟩] ++ dispatches rest (c.draw e.1) := rfl
    refine ⟨hconnected', ?_, ?_⟩
    · rw [List.foldl_cons, hbuffer', hbuffer, hsplit, delivered_append, List.append_assoc]
    · rw [List.foldl_cons, hdropped', hdropped, hsplit, lost_append, List.length_append,
        Nat.add_assoc]

end Channel

/-- What happens next in a session: something is done to the battle, or the receiver takes the
oldest frame, or every frame. -/
inductive Turn (α π : Type) where
  | operate (op : Operation α π)
  | receive
  | drain

structure Session (α π : Type) where
  battle : Battle α π (Channel α)
  /-- The frames that the receiver has taken. -/
  received : List (Frame α)

namespace Session
variable [Scalar α] [Pilot α π]

def turn (s : Session α π) : Turn α π → Session α π
  | .operate op => { s with battle := s.battle.operate op }
  | .receive =>
    match s.battle.drawer.bind Channel.receive? with
    | some (frame, c) => ⟨{ s.battle with drawer := some c }, s.received ++ [frame]⟩
    | none => s
  | .drain =>
    match s.battle.drawer with
    | some c => ⟨{ s.battle with drawer := some c.drain.2 }, s.received ++ c.drain.1⟩
    | none => s

/-- What becomes of the frames of a turn. -/
def sends (s : Session α π) : Turn α π → List (Dispatch α)
  | .operate .step =>
    match s.battle.drawer with
    | some c => c.dispatches (s.battle.shown.map Battle.entry)
    | none => []
  | .operate (.edit _) => []
  | .receive => []
  | .drain => []

def run : List (Turn α π) → Session α π → Session α π
  | [], s => s
  | t :: rest, s => run rest (s.turn t)

/-- What becomes of the frames of a run. -/
def log : List (Turn α π) → Session α π → List (Dispatch α)
  | [], _ => []
  | t :: rest, s => s.sends t ++ log rest (s.turn t)

theorem turn_step {b c : Battle α π (Channel α)} (h : b.step.battle = c) (fs : List (Frame α)) :
    (⟨b, fs⟩ : Session α π).turn (.operate .step) = ⟨c, fs⟩ := by
  rw [turn, Battle.operate, h]

/-- The frames of a log are with the receiver or wait for it, or they were dropped, and they are a
change log of the battle. -/
structure Accounts (s : Session α π) (log : List (Dispatch α)) : Prop where
  channel : ∃ c, s.battle.drawer = some c ∧ c.connected = true ∧
    s.received ++ c.buffer = delivered log ∧ c.dropped = (lost log).length
  tracked : ∃ known announced, ChangeLog [] [] (log.map Dispatch.entry) known announced ∧
    s.battle.Tracked known announced

section
variable {s : Session α π} {log : List (Dispatch α)}

theorem Accounts.edit (h : s.Accounts log) (e : Edit α π) :
    (s.turn (.operate (.edit e))).Accounts log := by
  obtain ⟨⟨c, hdrawer, hc⟩, known, announced, hlog, htracked⟩ := h
  obtain ⟨count, hedit⟩ := s.battle.grows_edit e
  exact ⟨⟨c, hedit.drawer.trans hdrawer, hc⟩, known, announced, hlog, htracked.grows hedit⟩

theorem Accounts.step (h : s.Accounts log) :
    (s.turn (.operate .step)).Accounts (log ++ s.sends (.operate .step)) := by
  obtain ⟨⟨c, hdrawer, hconnected, hframes, hdropped⟩, known, announced, hlog, htracked⟩ := h
  obtain ⟨hdrawn, known', announced', hlog', htracked'⟩ :=
    s.battle.relays_step known announced c htracked hdrawer
  let es := s.battle.shown.map Battle.entry
  have hsends : s.sends (.operate .step) = c.dispatches es := by
    simp only [sends, hdrawer, es]
  obtain ⟨hconnected', hbuffer, hdropped'⟩ := Channel.drawAll_eq hconnected es
  -- the change log grows by all frames, whether they fit or not
  rw [hsends]
  refine ⟨⟨_, ?_, hconnected', ?_, ?_⟩, known', announced', ?_, htracked'⟩
  · rw [List.foldl_map]
    exact hdrawn
  · rw [hbuffer, ← List.append_assoc, delivered_append, ← hframes]
    rfl
  · rw [hdropped', hdropped, lost_append, List.length_append]
  · rw [List.map_append, Channel.map_entry_dispatches]
    exact hlog.append hlog'

theorem Accounts.receive (h : s.Accounts log) : (s.turn .receive).Accounts log := by
  obtain ⟨⟨c, hdrawer, hconnected, hframes, hdropped⟩, known, announced, hlog, htracked⟩ := h
  cases hbuffer : c.buffer with
  | nil =>
    have hidle : s.turn .receive = s := by
      simp only [turn, hdrawer, Option.bind_some, Channel.receive?, hbuffer]
    rw [hidle]
    exact ⟨⟨c, hdrawer, hconnected, hframes, hdropped⟩, known, announced, hlog, htracked⟩
  | cons f rest =>
    have htaken : s.turn .receive =
        ⟨{ s.battle with drawer := some { c with buffer := rest } }, s.received ++ [f]⟩ := by
      simp only [turn, hdrawer, Option.bind_some, Channel.receive?, hbuffer]
    -- the frame only moves from the channel to the receiver
    rw [htaken]
    refine ⟨⟨_, rfl, hconnected, ?_, hdropped⟩, known, announced, hlog, htracked.withDrawer _⟩
    rw [← hframes, hbuffer, List.append_assoc]
    rfl

theorem Accounts.drain (h : s.Accounts log) : (s.turn .drain).Accounts log := by
  obtain ⟨⟨c, hdrawer, hconnected, hframes, hdropped⟩, known, announced, hlog, htracked⟩ := h
  have htaken : s.turn .drain = ⟨{ s.battle with drawer := some { c with buffer := [] } },
      s.received ++ c.buffer⟩ := by
    simp only [turn, hdrawer, Channel.drain]
  rw [htaken]
  refine ⟨⟨_, rfl, hconnected, ?_, hdropped⟩, known, announced, hlog, htracked.withDrawer _⟩
  rw [← hframes, List.append_nil]

theorem Accounts.turn (h : s.Accounts log) (t : Turn α π) :
    (s.turn t).Accounts (log ++ s.sends t) := by
  cases t with
  | operate op =>
    cases op with
    | edit e =>
      rw [sends, List.append_nil]
      exact h.edit e
    | step => exact h.step
  | receive =>
    rw [sends, List.append_nil]
    exact h.receive
  | drain =>
    rw [sends, List.append_nil]
    exact h.drain

end

theorem Accounts.run {s : Session α π} {past : List (Dispatch α)} (h : s.Accounts past)
    (turns : List (Turn α π)) : (run turns s).Accounts (past ++ log turns s) := by
  induction turns generalizing s past with
  | nil =>
    rw [log, List.append_nil]
    exact h
  | cons t rest ih =>
    rw [log, ← List.append_assoc]
    exact ih (h.turn t)

omit [Pilot α π] in
theorem accounts_of_unstarted {b : Battle α π (Channel α)} (hb : b.Unstarted) {capacity : Nat}
    (hd : b.drawer = some (.ofCapacity capacity)) : (⟨b, []⟩ : Session α π).Accounts [] :=
  ⟨⟨_, hd, rfl, rfl, rfl⟩, [], [], .nil _ _, hb.tracked⟩

/-- The receiver gets the frames that fit, in their order, and the others are counted. With each
frame it reconstructs the objects that are there just if no frame that was dropped before has
announced one of them or has deleted an object of which it has been told. -/
theorem reconstructs_received_iff {b : Battle α π (Channel α)} (hb : b.Unstarted) {capacity : Nat}
    (hd : b.drawer = some (.ofCapacity capacity)) (turns : List (Turn α π)) :
    let s := run turns ⟨b, []⟩
    let frames := log turns ⟨b, []⟩
    (∃ c, s.battle.drawer = some c ∧ s.received ++ c.buffer = delivered frames ∧
      c.dropped = (lost frames).length) ∧
    ∀ past f future, s.received = past ++ f :: future → ∃ before live after,
      frames = before ++ ⟨f, live, true⟩ :: after ∧ delivered before = past ∧
        (f.Reconstructs (Frame.replayAll past) live ↔
          (∀ g ∈ lost before, ∀ id ∈ g.newIds, id ∉ live) ∧
            ∀ g ∈ lost before, ∀ id ∈ g.deleted, ∀ a ∈ past, id ∉ a.newIds) := by
  intro s frames
  obtain ⟨⟨c, hdrawer, -, hframes, hdropped⟩, known, announced, hlog, -⟩ :=
    (accounts_of_unstarted hb hd).run turns
  rw [List.nil_append] at hframes hdropped hlog
  refine ⟨⟨c, hdrawer, hframes, hdropped⟩, ?_⟩
  intro past f future hreceived
  have hdelivered : delivered frames = past ++ f :: (future ++ c.buffer) := by
    rw [← hframes, hreceived, List.append_assoc, List.cons_append]
  obtain ⟨before, live, after, hsplit, rfl⟩ := exists_of_delivered_eq hdelivered
  refine ⟨before, live, after, hsplit, rfl, ?_⟩
  -- the log up to the frame is a change log as well, and the frame goes on from there
  rw [show log turns ⟨b, []⟩ = _ from hsplit, List.map_append, List.map_cons] at hlog
  obtain ⟨known', announced', hbefore, hrest⟩ := hlog.of_append
  cases hrest with
  | cons htells _ => exact hbefore.makesUp.reconstructs_iff htells

end Session

open Exact

/-- Every tick is drawn. -/
noncomputable def Settings.vivid : Settings Exact :=
  { (standard : Settings Exact) with tickSeconds := real 1, frameRate := 1 }

noncomputable def Edit.rock : Edit Exact Idle :=
  .asteroid .zero (real 1) (real 1) "rock"

namespace Battle

/-- An arena with nothing in it that is drawn into a channel. -/
noncomputable def void (capacity : Nat) : Battle Exact Idle (Channel Exact) :=
  let b : Battle Exact Idle (Channel Exact) := empty 1000.0 .vivid
  { b with drawer := some (.ofCapacity capacity) }

theorem unstarted_void (capacity : Nat) : (void capacity).Unstarted :=
  (Unstarted.empty _ _).drawer _

theorem battle_step_void (capacity : Nat) :
    (void capacity).step.battle = (void capacity).start.elapse.emitFrame := by
  have hrubble : (void capacity).start.IsRubble := by
    refine ⟨rfl, rfl, rfl, ?_, ?_⟩
    · intro x hx
      cases hx
    · intro x hx
      cases hx
  exact hrubble.battle_step rfl rfl rfl

/-- A single rock stays where it is. -/
theorem battle_step_of_rock {b : Battle Exact Idle (Channel Exact)} (hships : b.start.ships = [])
    (hpoints : b.start.controlPoints = []) (hshots : b.start.projectiles = [])
    (hrock : b.start.asteroids = [⟨.atRest 1 .zero (real 1) (real 1) (real 1), "rock"⟩])
    (hsettings : b.settings = .vivid) (hh : b.halted = false) :
    b.step.battle = b.start.elapse.emitFrame := by
  have hbodies : b.start.bodies = [.atRest 1 .zero (real 1) (real 1) (real 1)] := by
    rw [bodies, hships, hpoints, hshots, hrock]
    rfl
  have hrests : (Body.atRest 1 .zero (real 1) (real 1) (real 1) : Body Exact).Rests 0 1 :=
    ⟨Vec3.zero_eq, Vec3.zero_eq, rfl⟩
  have hrubble : b.start.IsRubble := by
    refine ⟨hships, hpoints, hshots, ?_, ?_⟩
    · rw [hbodies]
      simp only [List.forall_mem_cons]
      exact ⟨⟨_, _, hrests⟩, List.forall_mem_nil _⟩
    · intro x hx y hy hid
      rw [hbodies, List.mem_singleton] at hx hy
      rw [hx, hy] at hid
      exact absurd rfl hid
  apply hrubble.battle_step hh (t := 1)
  · rw [dt, hsettings]
    rfl
  · rw [hsettings]
    rfl

/-- The arena after a tick, to which a rock has been added. -/
noncomputable def rocky (capacity : Nat) : Battle Exact Idle (Channel Exact) :=
  (void capacity).start.elapse.emitFrame.edit .rock

theorem battle_step_rocky (capacity : Nat) :
    (rocky capacity).step.battle = (rocky capacity).start.elapse.emitFrame :=
  battle_step_of_rock rfl rfl rfl rfl rfl rfl

end Battle

namespace Session

theorem run_void (capacity : Nat) (rest : List (Turn Exact Idle)) :
    run (.operate .step :: .operate (.edit .rock) :: .operate .step :: rest)
      ⟨.void capacity, []⟩ = run rest ⟨(Battle.rocky capacity).start.elapse.emitFrame, []⟩ := by
  rw [run, turn_step (Battle.battle_step_void capacity), run, turn, run]
  exact congrArg (run rest) (turn_step (Battle.battle_step_rocky capacity) [])

/-- A receiver that takes all frames in time learns of the rock from the frame of the second
tick. -/
theorem reconstructs_received_of_prompt :
    let turns : List (Turn Exact Idle) :=
      [.operate .step, .operate (.edit .rock), .operate .step, .drain]
    let b : Battle Exact Idle (Channel Exact) := .void 4
    b.Unstarted ∧ b.drawer = some (.ofCapacity 4) ∧
      ∃ opening first second live, (run turns ⟨b, []⟩).received = [opening, first, second] ∧
        second.newIds = [1] ∧ second.Reconstructs (Frame.replayAll [opening, first]) live := by
  intro turns b
  let s : Session Exact Idle := ⟨(Battle.rocky 4).start.elapse.emitFrame, []⟩
  have hrun : run turns ⟨b, []⟩ = s.turn .drain := by
    rw [run_void, run, run]
  have hb : b.Unstarted := Battle.unstarted_void 4
  obtain ⟨⟨c, hc, -, hdropped⟩, hreceived⟩ := reconstructs_received_iff hb rfl turns
  rw [hrun] at hc hreceived ⊢
  obtain ⟨opening, first, second, htaken, hnew⟩ : ∃ opening first second,
      (s.turn .drain).received = [opening, first, second] ∧ second.newIds = [1] :=
    ⟨_, _, _, rfl, rfl⟩
  obtain ⟨before, live, after, hsplit, -, hiff⟩ := hreceived [opening, first] second [] htaken
  -- the channel has counted no frame, so that none is missing
  have hnone : (lost (log turns ⟨b, []⟩)).length = 0 := by
    rw [← hdropped]
    exact (Option.some.inj (congrArg (Option.map (·.dropped)) hc)).symm
  have hbefore : lost before = [] := by
    rw [hsplit, lost_append, List.length_append] at hnone
    exact List.eq_nil_of_length_eq_zero (Nat.eq_zero_of_add_eq_zero_right hnone)
  rw [hbefore] at hiff
  have hreconstructs := hiff.mpr ⟨List.forall_mem_nil _, List.forall_mem_nil _⟩
  exact ⟨hb, rfl, opening, first, second, live, htaken, hnew, hreconstructs⟩

/-- A receiver that takes its first frame after two ticks misses the one in which the rock is new.
What it gets next says where the rock is now. -/
theorem not_reconstructs_of_lag :
    let turns : List (Turn Exact Idle) := [.operate .step, .operate (.edit .rock),
      .operate .step, .receive, .operate .step, .receive]
    let b : Battle Exact Idle (Channel Exact) := .void 1
    b.Unstarted ∧ b.drawer = some (.ofCapacity 1) ∧
      ∃ opening last, (run turns ⟨b, []⟩).received = [opening, last] ∧ last.updatedIds = [1] ∧
        Frame.replayAll [opening] = [] ∧
        ∀ live, ¬last.Reconstructs (Frame.replayAll [opening]) live := by
  intro turns b
  -- the opening fills the channel, and the frames of the first two ticks are dropped
  let s : Session Exact Idle :=
    (⟨(Battle.rocky 1).start.elapse.emitFrame, []⟩ : Session Exact Idle).turn .receive
  let t : Session Exact Idle := ⟨s.battle.start.elapse.emitFrame, s.received⟩
  have hstep : s.battle.step.battle = t.battle :=
    Battle.battle_step_of_rock rfl rfl rfl rfl rfl rfl
  have hrun : run turns ⟨b, []⟩ = t.turn .receive := by
    rw [run_void, run]
    change run _ ⟨s.battle, s.received⟩ = _
    rw [run, turn_step hstep, run, run]
  rw [hrun]
  obtain ⟨opening, last, htaken, hupdated, hknown⟩ : ∃ opening last,
      (t.turn .receive).received = [opening, last] ∧ last.updatedIds = [1] ∧
        Frame.replayAll [opening] = [] := ⟨_, _, rfl, rfl, rfl⟩
  refine ⟨Battle.unstarted_void 1, rfl, opening, last, htaken, hupdated, hknown, ?_⟩
  intro live h
  have hid := h.known_of_updated 1
  rw [hupdated, hknown] at hid
  exact absurd (hid (List.mem_singleton_self 1)) List.not_mem_nil

end Session
end FleetArena
