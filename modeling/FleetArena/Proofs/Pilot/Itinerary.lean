import FleetArena.Proofs.Pilot.Cruise

/-! Itineraries: what becomes of the waypoints that a navigator is given. The queue is first in,
first out, and no waypoint is lost on the way from the queue to the current place and from there to
its end. -/
namespace FleetArena
variable {α : Type}

/-- Whether a ship at a position has arrived. -/
def Waypoint.IsNear [Scalar α] (w : Waypoint α) (position : Vec3 α) : Prop :=
  (w.position - position).length < w.tolerance

namespace Nav

/-- A call of a navigator. -/
inductive Order (α : Type) where
  | set (w : Waypoint α)
  | add (w : Waypoint α)
  | clear
  | steer (position velocity : Vec3 α)

def Order.added? : Order α → Option (Waypoint α)
  | .add w => some w
  | _ => none

/-- What becomes of a waypoint. -/
inductive Event (α : Type) where
  /-- It leaves the queue and becomes current. -/
  | taken (w : Waypoint α)
  /-- It leaves the queue because that is cleared. -/
  | dismissed (w : Waypoint α)
  /-- It becomes current without the queue. -/
  | chosen (w : Waypoint α)
  /-- It was current and is answered to be reached. -/
  | reached (w : Waypoint α)
  /-- It was current and another one was chosen. -/
  | replaced (w : Waypoint α)
  /-- It was current and the navigator was cleared. -/
  | abandoned (w : Waypoint α)

namespace Event

def taken? : Event α → Option (Waypoint α)
  | taken w => some w
  | _ => none

def reached? : Event α → Option (Waypoint α)
  | reached w => some w
  | _ => none

/-- The waypoint that leaves the queue. -/
def unqueued? : Event α → Option (Waypoint α)
  | taken w | dismissed w => some w
  | _ => none

/-- The waypoint that becomes current. -/
def entered? : Event α → Option (Waypoint α)
  | taken w | chosen w => some w
  | _ => none

/-- The waypoint that is current no longer. -/
def left? : Event α → Option (Waypoint α)
  | reached w | replaced w | abandoned w => some w
  | _ => none

end Event

/-- The waypoint that comes next: the current one, else the head of the queue. -/
def next? (n : Nav α) : Option (Waypoint α) :=
  n.current.or n.queue.head?

theorem current_advance (n : Nav α) : n.advance.current = n.next? := by
  obtain ⟨queue, current, gain⟩ := n
  cases current with
  | none => cases queue <;> rfl
  | some w => cases queue <;> rfl

theorem queue_advance (n : Nav α) :
    n.advance.queue = if n.current.isNone then n.queue.tail else n.queue := by
  obtain ⟨queue, current, gain⟩ := n
  cases current with
  | none => cases queue <;> rfl
  | some w => cases queue <;> rfl

theorem next?_eq_none_iff {n : Nav α} : n.next? = none ↔ n.isIdle = true := by
  simp [next?, isIdle]

/-- The waypoint that moves up from the queue before a decision. -/
def promoted? (n : Nav α) : Option (Waypoint α) :=
  if n.current.isNone then n.queue.head? else none

theorem promoted?_append_queue (n : Nav α) :
    n.promoted?.toList ++ n.advance.queue = n.queue := by
  rw [queue_advance, promoted?]
  cases n.current with
  | none => cases n.queue <;> rfl
  | some w => rfl

theorem current_append_promoted? (n : Nav α) :
    n.current.toList ++ n.promoted?.toList = n.next?.toList := by
  rw [next?, promoted?]
  cases n.current with
  | none => rfl
  | some w => rfl

section
variable [Scalar α] {n : Nav α} {w : Waypoint α} {position : Vec3 α}

theorem steer_of_none (h : n.next? = none) (position velocity : Vec3 α) :
    n.steer position velocity = (n.advance, .idle) := by
  simp only [steer, current_advance, h]

theorem steer_of_near (h : n.next? = some w) (hnear : w.IsNear position) (velocity : Vec3 α) :
    n.steer position velocity = ({ n.advance with current := none }, .arrived w) := by
  simp only [steer, current_advance, h]
  exact if_pos hnear

theorem steer_of_far (h : n.next? = some w) (hfar : ¬w.IsNear position) (velocity : Vec3 α) :
    n.steer position velocity =
      (n.advance, .thrust ((w.course position * w.maxSpeed - velocity) * n.gain)) := by
  simp only [steer, current_advance, h, gain_advance]
  exact if_neg hfar

/-- The three ways to steer: without a waypoint, at one, and on the way to one. -/
theorem steer_cases (n : Nav α) (position velocity : Vec3 α) :
    (n.next? = none ∧ n.steer position velocity = (n.advance, .idle)) ∨
      ∃ w, n.next? = some w ∧
        ((w.IsNear position ∧
            n.steer position velocity = ({ n.advance with current := none }, .arrived w)) ∨
          (¬w.IsNear position ∧ n.steer position velocity =
            (n.advance, .thrust ((w.course position * w.maxSpeed - velocity) * n.gain)))) := by
  cases h : n.next? with
  | none => exact Or.inl ⟨rfl, steer_of_none h position velocity⟩
  | some w =>
    refine Or.inr ⟨w, rfl, ?_⟩
    by_cases hnear : w.IsNear position
    · exact Or.inl ⟨hnear, steer_of_near h hnear velocity⟩
    · exact Or.inr ⟨hnear, steer_of_far h hnear velocity⟩

theorem steer_answers (n : Nav α) (position velocity : Vec3 α) :
    let after := (n.steer position velocity).1
    let answer := (n.steer position velocity).2
    (answer = .idle ↔ n.isIdle = true) ∧
      (∀ w, answer = .arrived w ↔ n.next? = some w ∧ w.IsNear position) ∧
      ∀ w, n.next? = some w → ¬w.IsNear position → after.current = some w ∧
        answer = .thrust ((w.course position * w.maxSpeed - velocity) * n.gain) := by
  intro after answer
  rw [← next?_eq_none_iff]
  rcases n.steer_cases position velocity with ⟨hn, hs⟩ | ⟨w, hn, ⟨hnear, hs⟩ | ⟨hfar, hs⟩⟩
  · have hanswer : answer = .idle := congrArg Prod.snd hs
    simp [hn, hanswer]
  · have hanswer : answer = .arrived w := congrArg Prod.snd hs
    simp only [hn, hanswer, reduceCtorEq, Steer.arrived.injEq, Option.some.injEq, iff_self,
      true_and]
    refine ⟨fun w' => ⟨?_, And.left⟩, fun w' hw hfar => ?_⟩
    · rintro rfl
      exact ⟨rfl, hnear⟩
    · exact absurd (hw ▸ hnear) hfar
  · have hanswer : answer = .thrust ((w.course position * w.maxSpeed - velocity) * n.gain) :=
      congrArg Prod.snd hs
    have hafter : after.current = some w :=
      (congrArg (·.1.current) hs).trans (n.current_advance.trans hn)
    simp only [hn, hanswer, hafter, reduceCtorEq, Option.some.injEq, iff_self, true_and]
    refine ⟨fun w' => ⟨False.elim, ?_⟩, fun w' hw _ => ?_⟩
    · rintro ⟨rfl, hnear⟩
      exact hfar hnear
    · rw [hw]
      exact ⟨rfl, rfl⟩

def obey (n : Nav α) : Order α → Nav α
  | .set w => n.setWaypoint w
  | .add w => n.addWaypoint w
  | .clear => n.clear
  | .steer position velocity => (n.steer position velocity).1

/-- What becomes of waypoints in a call. Those that are reached are in the answer. -/
def events (n : Nav α) : Order α → List (Event α)
  | .set w => n.current.toList.map .replaced ++ [.chosen w]
  | .add _ => []
  | .clear => n.current.toList.map .abandoned ++ n.queue.map .dismissed
  | .steer position velocity =>
    n.promoted?.toList.map .taken ++
      match (n.steer position velocity).2 with
      | .arrived w => [.reached w]
      | .idle | .thrust _ => []

def run : List (Order α) → Nav α → Nav α
  | [], n => n
  | o :: rest, n => run rest (n.obey o)

/-- What becomes of waypoints in a sequence of calls. -/
def log : List (Order α) → Nav α → List (Event α)
  | [], _ => []
  | o :: rest, n => n.events o ++ log rest (n.obey o)

/-- What is in the queue before a call and what the call adds leaves it in order or stays. -/
theorem queue_obey (n : Nav α) (o : Order α) :
    n.queue ++ o.added?.toList = (n.events o).filterMap Event.unqueued? ++ (n.obey o).queue := by
  cases o with
  | set w => simp [events, obey, setWaypoint, Order.added?, Event.unqueued?, Function.comp_def]
  | add w => rfl
  | clear => simp [events, obey, clear, Order.added?, Event.unqueued?, Function.comp_def]
  | steer position velocity =>
    have hqueue := n.promoted?_append_queue
    rcases n.steer_cases position velocity with ⟨-, hs⟩ | ⟨w, -, ⟨-, hs⟩ | ⟨-, hs⟩⟩
    all_goals
      simp [events, obey, hs, hqueue, Order.added?, Event.unqueued?, Function.comp_def,
        List.filterMap_cons]

/-- What is current before a call, and what becomes current in it, ends in the call or stays. -/
theorem current_obey (n : Nav α) (o : Order α) :
    n.current.toList ++ (n.events o).filterMap Event.entered? =
      (n.events o).filterMap Event.left? ++ (n.obey o).current.toList := by
  cases o with
  | set w =>
    simp [events, obey, setWaypoint, Event.entered?, Event.left?, Function.comp_def]
  | add w => exact List.append_nil _
  | clear => simp [events, obey, clear, Event.entered?, Event.left?, Function.comp_def]
  | steer position velocity =>
    have hnext := n.current_append_promoted?
    rcases n.steer_cases position velocity with ⟨hn, hs⟩ | ⟨w, hn, ⟨-, hs⟩ | ⟨-, hs⟩⟩
    all_goals
      rw [hn] at hnext
      simp [events, obey, hs, hnext, hn, current_advance, Event.entered?, Event.left?,
        Function.comp_def, List.filterMap_cons]

/-- Two accounts in which what comes in goes out in order, one after the other. -/
theorem account_trans {β : Type} {held held' held'' incoming incoming' outgoing outgoing' : List β}
    (h : held ++ incoming = outgoing ++ held') (h' : held' ++ incoming' = outgoing' ++ held'') :
    held ++ (incoming ++ incoming') = (outgoing ++ outgoing') ++ held'' := by
  rw [← List.append_assoc, h, List.append_assoc, h', List.append_assoc]

theorem queue_run (n : Nav α) (orders : List (Order α)) :
    n.queue ++ orders.filterMap Order.added? =
      (log orders n).filterMap Event.unqueued? ++ (run orders n).queue := by
  induction orders generalizing n with
  | nil => exact List.append_nil _
  | cons o rest ih =>
    have hadded : (o :: rest).filterMap Order.added? =
        o.added?.toList ++ rest.filterMap Order.added? := by
      rw [List.filterMap_cons]
      cases o.added? <;> rfl
    rw [hadded, log, List.filterMap_append]
    exact account_trans (n.queue_obey o) (ih _)

theorem current_run (n : Nav α) (orders : List (Order α)) :
    n.current.toList ++ (log orders n).filterMap Event.entered? =
      (log orders n).filterMap Event.left? ++ (run orders n).current.toList := by
  induction orders generalizing n with
  | nil => exact List.append_nil _
  | cons o rest ih =>
    rw [log, List.filterMap_append, List.filterMap_append]
    exact account_trans (n.current_obey o) (ih _)

omit [Scalar α] in
theorem taken_sublist_unqueued (events : List (Event α)) :
    (events.filterMap Event.taken?).Sublist (events.filterMap Event.unqueued?) := by
  induction events with
  | nil => exact .slnil
  | cons e rest ih =>
    rw [List.filterMap_cons, List.filterMap_cons]
    cases e with
    | taken w => exact ih.cons_cons w
    | dismissed w => exact ih.cons w
    | chosen w => exact ih
    | reached w => exact ih
    | replaced w => exact ih
    | abandoned w => exact ih

/-- Where nothing is chosen or cleared, waypoints pass from the queue to the current place and from
there to the answers. -/
theorem passes_of_mem_log {orders : List (Order α)} (hset : ∀ w, .set w ∉ orders)
    (hclear : .clear ∉ orders) (n : Nav α) :
    ∀ e ∈ log orders n, e.unqueued? = e.entered? ∧ e.left? = e.reached? := by
  induction orders generalizing n with
  | nil => exact List.forall_mem_nil _
  | cons o rest ih =>
    have hrest := ih (fun w hw => hset w (List.mem_cons_of_mem o hw))
      (fun hc => hclear (List.mem_cons_of_mem o hc)) (n.obey o)
    refine List.forall_mem_append.mpr ⟨?_, hrest⟩
    cases o with
    | set w => exact absurd List.mem_cons_self (hset w)
    | clear => exact absurd List.mem_cons_self hclear
    | add w => exact List.forall_mem_nil _
    | steer position velocity =>
      refine List.forall_mem_append.mpr ⟨List.forall_mem_map.mpr fun w _ => ⟨rfl, rfl⟩, ?_⟩
      cases (n.steer position velocity).2 with
      | arrived w => exact List.forall_mem_singleton.mpr ⟨rfl, rfl⟩
      | idle => exact List.forall_mem_nil _
      | thrust a => exact List.forall_mem_nil _

/-- The queue is first in, first out, with an override before it, and no waypoint is lost. What was
queued or is added later leaves the queue in its order, by becoming current or by being cleared, or
is still in it. What is current was taken from the queue or chosen, and it ends by being answered to
be reached, by being replaced or by being cleared, or is still current. A navigator answers that it
is idle just when it has no waypoint, that it has arrived just when the next one is near, and else
keeps the next one and flies to it. If nothing is chosen or cleared, the waypoints that were
reached, the current one and the queue are all that there were and all that were added, in order. -/
theorem keeps_waypoints (n : Nav α) (orders : List (Order α)) :
    let n' := run orders n
    let events := log orders n
    let added := orders.filterMap Order.added?
    let reached := events.filterMap Event.reached?
    n.queue ++ added = events.filterMap Event.unqueued? ++ n'.queue ∧
      (events.filterMap Event.taken?).Sublist (n.queue ++ added) ∧
      n.current.toList ++ events.filterMap Event.entered? =
        events.filterMap Event.left? ++ n'.current.toList ∧
      (∀ position velocity,
        let next? := n'.current.or n'.queue.head?
        let after := (n'.steer position velocity).1
        let answer := (n'.steer position velocity).2
        (answer = .idle ↔ n'.isIdle = true) ∧
          (∀ w, answer = .arrived w ↔ next? = some w ∧ w.IsNear position) ∧
          ∀ w, next? = some w → ¬w.IsNear position → after.current = some w ∧
            answer = .thrust ((w.course position * w.maxSpeed - velocity) * n'.gain)) ∧
      ((∀ w, .set w ∉ orders) → .clear ∉ orders →
        n.current.toList ++ n.queue ++ added = reached ++ n'.current.toList ++ n'.queue) := by
  intro n' events added reached
  have hqueue : n.queue ++ added = events.filterMap Event.unqueued? ++ n'.queue :=
    n.queue_run orders
  have hcurrent : n.current.toList ++ events.filterMap Event.entered? =
      events.filterMap Event.left? ++ n'.current.toList := n.current_run orders
  refine ⟨hqueue, ?_, hcurrent, fun position velocity => ?_, fun hset hclear => ?_⟩
  · rw [hqueue]
    exact (taken_sublist_unqueued events).trans (List.sublist_append_left _ _)
  · exact n'.steer_answers position velocity
  · have hpass := passes_of_mem_log hset hclear n
    have htaken : events.filterMap Event.unqueued? = events.filterMap Event.entered? :=
      List.filterMap_congr fun e he => (hpass e he).1
    have hended : events.filterMap Event.left? = reached :=
      List.filterMap_congr fun e he => (hpass e he).2
    calc n.current.toList ++ n.queue ++ added
        = n.current.toList ++ (events.filterMap Event.entered? ++ n'.queue) := by
          rw [List.append_assoc, hqueue, htaken]
      _ = reached ++ n'.current.toList ++ n'.queue := by
          rw [← List.append_assoc, hcurrent, hended]

end

open Exact

/-- A courier that is sent to two places, flies to the first one and arrives there. -/
theorem keeps_waypoints_courier :
    let axis : Space := EuclideanSpace.single 0 1
    let goal (x : ℝ) : Waypoint Exact := ⟨Vec3.exact (x • axis), real 10, real 1⟩
    let place : Vec3 Exact := Vec3.exact ((100 : ℝ) • axis)
    let orders : List (Order Exact) :=
      [.add (goal 100), .add (goal (-100)), .steer .zero .zero, .steer place .zero]
    let n := run orders Nav.standard
    n.current = none ∧ n.queue = [goal (-100)] ∧
      (log orders Nav.standard).filterMap Event.reached? = [goal 100] := by
  intro axis goal place orders n
  have hunit : ‖axis‖ = 1 := by simp [axis]
  have hfar : ¬(goal 100).IsNear .zero := by
    rw [Waypoint.IsNear, Vec3.zero_eq, Vec3.exact_sub, Vec3.length_exact, real_lt, sub_zero,
      norm_smul, hunit]
    norm_num
  have hnear : (goal 100).IsNear place := by
    rw [Waypoint.IsNear, Vec3.exact_sub, Vec3.length_exact, real_lt, sub_self, norm_zero]
    exact one_pos
  let sent : Nav Exact := (Nav.standard.addWaypoint (goal 100)).addWaypoint (goal (-100))
  have hleaves : sent.steer .zero .zero = (sent.advance, _) := steer_of_far rfl hfar .zero
  have harrives : sent.advance.steer place .zero = (_, _) := steer_of_near rfl hnear .zero
  have hrun : n = { sent.advance with current := none } := by
    change ((sent.steer .zero .zero).1.steer place .zero).1 = _
    rw [hleaves, harrives]
    rfl
  have hcurrent : n.current = none := by rw [hrun]
  have hqueue : n.queue = [goal (-100)] := by
    rw [hrun]
    rfl
  obtain ⟨-, -, -, -, hall⟩ := keeps_waypoints Nav.standard orders
  have hsum := hall (by simp [orders]) (by simp [orders])
  -- the second waypoint waits still, so that the first one is all that was reached
  change [goal 100] ++ [goal (-100)] = _ ++ n.current.toList ++ n.queue at hsum
  rw [hcurrent, hqueue, Option.toList_none, List.append_nil] at hsum
  exact ⟨hcurrent, hqueue, (List.append_cancel_right hsum).symm⟩

end Nav
end FleetArena
