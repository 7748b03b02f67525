import FleetArena.Proofs.Battle.Launching
import FleetArena.Proofs.Setup.WellFormed

/-! Interleaved decisions. Within a tick the ships may take their single steps in any order: each of
them releases its parts, fills its energy, follows its plan request by request and leaves its pilot.
Whatever the others do meanwhile, it ends as if it had been alone. -/
namespace FleetArena
variable {α π δ : Type} [Scalar α]

/-- How far a ship has come with the decisions of a tick. -/
inductive Stage (α π : Type) where
  | waiting
  | released
  | flying (plan : Plan α π)
  | done

/-- A ship amid the decisions of a tick. -/
structure Share (α π : Type) where
  ship : Ship α π
  stage : Stage α π

namespace Vessel

/-- The steps that a plan takes: one for each request, and one to end it. -/
def turns {β : Type} (tick : Nat) (world : World α) : Plan α β → Vessel α → Nat
  | .done _, _ => 1
  | .look next, v => turns tick world (next (v.cockpit tick)) v + 1
  | .act action next, v =>
    turns tick world (next (v.act tick action).2) (v.act tick action).1 + 1
  | .scan i next, v => turns tick world (next (v.scan world i).2) (v.scan world i).1 + 1

end Vessel

/-- A ship that has followed a plan to its end. -/
def Ship.obey (s : Ship α π) (tick : Nat) (world : World α) (plan : Plan α π) : Ship α π :=
  let (vessel, pilot) := Vessel.follow tick world plan s.toVessel
  { vessel with pilot }

variable [Pilot α π]

/-- The steps of a ship in a tick. -/
def Ship.turns (s : Ship α π) (tick : Nat) (world : World α) : Nat :=
  Vessel.turns tick world (Pilot.tick tick s.pilot) s.toVessel.begin + 2

namespace Share

/-- One step of a ship. Each request of its plan is a step of its own. -/
def advance (tick : Nat) (world : World α) : Share α π → Share α π
  | ⟨s, .waiting⟩ => ⟨{ s with loadout := s.loadout.release }, .released⟩
  | ⟨s, .released⟩ =>
    ⟨{ s.toVessel.energize with pilot := s.pilot }, .flying (Pilot.tick tick s.pilot)⟩
  | ⟨s, .flying (.done pilot)⟩ => ⟨{ s with pilot }, .done⟩
  | ⟨s, .flying (.look next)⟩ => ⟨s, .flying (next (s.toVessel.cockpit tick))⟩
  | ⟨s, .flying (.act action next)⟩ =>
    let (vessel, reply) := s.toVessel.act tick action
    ⟨{ vessel with pilot := s.pilot }, .flying (next reply)⟩
  | ⟨s, .flying (.scan i next)⟩ =>
    let (vessel, reply) := s.toVessel.scan world i
    ⟨{ vessel with pilot := s.pilot }, .flying (next reply)⟩
  | ⟨s, .done⟩ => ⟨s, .done⟩

variable (tick : Nat) (world : World α)

/-- A step ends the plan, or comes to a plan of one step less that ends as this one does. -/
theorem advance_flying_cases (s : Ship α π) (plan : Plan α π) :
    (advance tick world ⟨s, .flying plan⟩ = ⟨s.obey tick world plan, .done⟩ ∧
      s.toVessel.turns tick world plan = 1) ∨
    ∃ (s' : Ship α π) (plan' : Plan α π),
      advance tick world ⟨s, .flying plan⟩ = ⟨s', .flying plan'⟩ ∧
        s.toVessel.turns tick world plan = s'.toVessel.turns tick world plan' + 1 ∧
        s.obey tick world plan = s'.obey tick world plan' := by
  cases plan with
  | done pilot => exact Or.inl ⟨rfl, rfl⟩
  | look next => exact Or.inr ⟨_, _, rfl, rfl, rfl⟩
  | act action next => exact Or.inr ⟨_, _, rfl, rfl, rfl⟩
  | scan i next => exact Or.inr ⟨_, _, rfl, rfl, rfl⟩

theorem iterate_advance_done (s : Ship α π) (n : Nat) :
    (advance tick world)^[n] ⟨s, .done⟩ = ⟨s, .done⟩ :=
  Function.iterate_fixed rfl n

/-- A ship is done with its plan just when it has had the steps that the plan takes. -/
theorem iterate_advance_flying (s : Ship α π) (plan : Plan α π) (n : Nat) :
    (s.toVessel.turns tick world plan ≤ n →
      (advance tick world)^[n] ⟨s, .flying plan⟩ = ⟨s.obey tick world plan, .done⟩) ∧
    (n < s.toVessel.turns tick world plan →
      ((advance tick world)^[n] ⟨s, .flying plan⟩).stage ≠ .done) := by
  induction n generalizing s plan with
  | zero =>
    -- no plan is without a step
    have hpos : 0 < s.toVessel.turns tick world plan := by
      rcases advance_flying_cases tick world s plan with
        ⟨-, hturns⟩ | ⟨s', plan', -, hturns, -⟩
      · omega
      · omega
    exact ⟨fun h => absurd hpos (Nat.not_lt.mpr h), fun _ h => nomatch h⟩
  | succ n ih =>
    rw [Function.iterate_succ_apply]
    rcases advance_flying_cases tick world s plan with
      ⟨hstep, hturns⟩ | ⟨s', plan', hstep, hturns, hobey⟩
    · rw [hstep, hturns]
      refine ⟨fun _ => iterate_advance_done tick world _ n, fun h => ?_⟩
      omega
    · rw [hstep, hturns, hobey]
      obtain ⟨hdone, hpending⟩ := ih s' plan'
      exact ⟨fun h => hdone (Nat.le_of_succ_le_succ h),
        fun h => hpending (Nat.lt_of_succ_lt_succ h)⟩

/-- A ship is done with a tick just when it has had all of its steps, and is then what it would be
alone. -/
theorem iterate_advance_waiting (s : Ship α π) (n : Nat) :
    (s.turns tick world ≤ n →
      (advance tick world)^[n] ⟨s, .waiting⟩ = ⟨s.decide tick world, .done⟩) ∧
    (n < s.turns tick world → ((advance tick world)^[n] ⟨s, .waiting⟩).stage ≠ .done) := by
  -- the first two steps make the ship ready to follow the plan of its pilot
  match n with
  | 0 => exact ⟨fun h => absurd h (Nat.not_succ_le_zero _), fun _ h => nomatch h⟩
  | 1 =>
    refine ⟨fun h => ?_, fun _ h => nomatch h⟩
    exact absurd (Nat.le_of_succ_le_succ h) (Nat.not_succ_le_zero _)
  | n + 2 =>
    have hready : (advance tick world)^[n + 2] ⟨s, .waiting⟩ = (advance tick world)^[n]
        ⟨{ s.toVessel.begin with pilot := s.pilot }, .flying (Pilot.tick tick s.pilot)⟩ := rfl
    obtain ⟨hdone, hpending⟩ := iterate_advance_flying tick world
      { s.toVessel.begin with pilot := s.pilot } (Pilot.tick tick s.pilot) n
    rw [hready]
    exact ⟨fun h => hdone (Nat.le_of_add_le_add_right h),
      fun h => hpending (Nat.lt_of_add_lt_add_right h)⟩

end Share

/-- A battle amid the decisions of a tick, with the stage of every ship. -/
structure Phase (α π δ : Type) where
  battle : Battle α π δ
  stages : List (Stage α π)

namespace Phase

/-- The ship at a place, and how far it has come. -/
def share? (p : Phase α π δ) (i : Nat) : Option (Share α π) :=
  match p.battle.ships[i]?, p.stages[i]? with
  | some ship, some stage => some ⟨ship, stage⟩
  | _, _ => none

/-- The ship at a place takes one step. -/
def turn (tick : Nat) (world : World α) (p : Phase α π δ) (i : Nat) : Phase α π δ :=
  match p.share? i with
  | none => p
  | some share =>
    let share := share.advance tick world
    { battle := { p.battle with ships := p.battle.ships.set i share.ship }
      stages := p.stages.set i share.stage }

/-- No ship has anything left to do. -/
def Complete (p : Phase α π δ) : Prop :=
  ∀ stage ∈ p.stages, stage = .done

variable {p : Phase α π δ} {tick : Nat} {world : World α} {i j : Nat} {x : Share α π}

omit [Scalar α] [Pilot α π] in
theorem share?_eq_some_iff :
    p.share? i = some x ↔ p.battle.ships[i]? = some x.ship ∧ p.stages[i]? = some x.stage := by
  rw [share?]
  split
  · rename_i ship stage hship hstage
    rw [hship, hstage]
    constructor
    · intro h
      obtain rfl := Option.some.inj h
      exact ⟨rfl, rfl⟩
    · rintro ⟨hship, hstage⟩
      obtain rfl := Option.some.inj hship
      obtain rfl := Option.some.inj hstage
      rfl
  · rename_i hnone
    constructor
    · intro h
      cases h
    · rintro ⟨hship, hstage⟩
      exact (hnone _ _ hship hstage).elim

/-- A step of a ship is a step of its own share, and no other share is touched. -/
theorem share?_turn (p : Phase α π δ) (tick : Nat) (world : World α) (i j : Nat) :
    (p.turn tick world i).share? j =
      if i = j then (p.share? j).map (Share.advance tick world) else p.share? j := by
  rw [turn]
  cases hx : p.share? i with
  | none =>
    by_cases hij : i = j
    · subst hij
      rw [if_pos rfl, hx, Option.map_none]
    · rw [if_neg hij]
  | some x =>
    obtain ⟨hship, hstage⟩ := share?_eq_some_iff.mp hx
    obtain ⟨hships, -⟩ := List.getElem?_eq_some_iff.mp hship
    obtain ⟨hstages, -⟩ := List.getElem?_eq_some_iff.mp hstage
    by_cases hij : i = j
    · subst hij
      rw [if_pos rfl, hx]
      exact share?_eq_some_iff.mpr
        ⟨List.getElem?_set_self hships, List.getElem?_set_self hstages⟩
    · rw [if_neg hij, share?, share?, List.getElem?_set_ne hij, List.getElem?_set_ne hij]

/-- After any schedule a share has taken as many steps as the schedule has for it. -/
theorem share?_foldl_turn (p : Phase α π δ) (tick : Nat) (world : World α) (schedule : List Nat)
    (i : Nat) : (schedule.foldl (turn tick world) p).share? i =
      (p.share? i).map (Share.advance tick world)^[schedule.count i] := by
  induction schedule generalizing p with
  | nil => rw [List.foldl_nil, List.count_nil, Function.iterate_zero, Option.map_id, id]
  | cons j rest ih =>
    rw [List.foldl_cons, ih, share?_turn, List.count_cons]
    by_cases hji : j = i
    · rw [if_pos hji, if_pos (beq_iff_eq.mpr hji), Option.map_map]
      rfl
    · rw [if_neg hji, if_neg (mt beq_iff_eq.mp hji)]
      rfl

/-- Steps of ships write the ships and nothing else. -/
theorem exists_turn_eq (p : Phase α π δ) (tick : Nat) (world : World α) (i : Nat) :
    ∃ ships stages, p.turn tick world i = ⟨{ p.battle with ships }, stages⟩ ∧
      ships.length = p.battle.ships.length ∧ stages.length = p.stages.length := by
  rw [turn]
  cases p.share? i with
  | none => exact ⟨_, _, rfl, rfl, rfl⟩
  | some x => exact ⟨_, _, rfl, List.length_set, List.length_set⟩

theorem exists_foldl_turn_eq (p : Phase α π δ) (tick : Nat) (world : World α)
    (schedule : List Nat) : ∃ ships stages,
      schedule.foldl (turn tick world) p = ⟨{ p.battle with ships }, stages⟩ ∧
        ships.length = p.battle.ships.length ∧ stages.length = p.stages.length := by
  induction schedule generalizing p with
  | nil => exact ⟨_, _, rfl, rfl, rfl⟩
  | cons i rest ih =>
    obtain ⟨ships, stages, hturn, hships, hstages⟩ := p.exists_turn_eq tick world i
    obtain ⟨ships', stages', hrest, hships', hstages'⟩ := ih (p.turn tick world i)
    rw [hturn] at hrest hships' hstages'
    rw [List.foldl_cons, hturn]
    exact ⟨ships', stages', hrest, hships'.trans hships, hstages'.trans hstages⟩

end Phase

namespace Battle

/-- The ships take their steps in the order of a schedule, which names their places. What can be
seen is what could be seen before the first step. -/
def decideBy (b : Battle α π δ) (schedule : List Nat) : Phase α π δ :=
  schedule.foldl (Phase.turn b.tick b.world) ⟨b, b.ships.map fun _ => .waiting⟩

/-- A schedule with all the steps of every ship. -/
def Serves (b : Battle α π δ) (schedule : List Nat) : Prop :=
  ∀ (i : Nat) (s : Ship α π), b.ships[i]? = some s →
    s.turns b.tick b.world ≤ schedule.count i

/-- The schedule by which the ships decide one after the other. -/
def inOrder (b : Battle α π δ) : List Nat :=
  b.ships.zipIdx.flatMap fun e => List.replicate (e.1.turns b.tick b.world) e.2

variable (b : Battle α π δ) (schedule : List Nat)

theorem serves_inOrder : b.Serves b.inOrder := by
  intro i s hs
  have hmem : (s, i) ∈ b.ships.zipIdx := List.mem_zipIdx_iff_getElem?.mpr hs
  have hshare : (List.replicate (s.turns b.tick b.world) i).count i ∈ b.ships.zipIdx.map
      (List.count i ∘ fun e => List.replicate (e.1.turns b.tick b.world) e.2) :=
    List.mem_map.mpr ⟨_, hmem, rfl⟩
  rw [inOrder, List.count_flatMap]
  calc s.turns b.tick b.world
      = (List.replicate (s.turns b.tick b.world) i).count i := List.count_replicate_self.symm
    _ ≤ _ := List.le_sum_of_mem hshare

/-- The ship at a place has taken its own steps, as many as the schedule has for it. -/
theorem share?_decideBy (i : Nat) : (b.decideBy schedule).share? i = b.ships[i]?.map fun s =>
    (Share.advance b.tick b.world)^[schedule.count i] ⟨s, .waiting⟩ := by
  have hstart : (Phase.share? ⟨b, b.ships.map fun _ => .waiting⟩ i : Option (Share α π)) =
      b.ships[i]?.map fun s => ⟨s, .waiting⟩ := by
    rw [Phase.share?, List.getElem?_map]
    cases b.ships[i]? <;> rfl
  rw [decideBy, Phase.share?_foldl_turn, hstart, Option.map_map]
  rfl

theorem getElem?_decideBy {i : Nat} {s : Ship α π} (hs : b.ships[i]? = some s) :
    let x := (Share.advance b.tick b.world)^[schedule.count i] ⟨s, .waiting⟩
    (b.decideBy schedule).battle.ships[i]? = some x.ship ∧
      (b.decideBy schedule).stages[i]? = some x.stage := by
  apply Phase.share?_eq_some_iff.mp
  rw [share?_decideBy, hs]
  rfl

theorem exists_decideBy_eq : ∃ ships stages,
    b.decideBy schedule = ⟨{ b with ships }, stages⟩ ∧ ships.length = b.ships.length ∧
      stages.length = b.ships.length := by
  obtain ⟨ships, stages, heq, hships, hstages⟩ := Phase.exists_foldl_turn_eq
    ⟨b, b.ships.map fun _ => .waiting⟩ b.tick b.world schedule
  exact ⟨ships, stages, heq, hships, hstages.trans (List.length_map _)⟩

/-- The phase is over just when every ship has had all of its steps. -/
theorem complete_decideBy_iff : (b.decideBy schedule).Complete ↔ b.Serves schedule := by
  constructor
  · intro hcomplete i s hs
    obtain ⟨-, hstage⟩ := b.getElem?_decideBy schedule hs
    have hdone := hcomplete _ (List.mem_of_getElem? hstage)
    by_contra hfew
    exact (Share.iterate_advance_waiting b.tick b.world s _).2 (Nat.lt_of_not_le hfew) hdone
  · intro hserves stage hmem
    obtain ⟨i, hi⟩ := List.mem_iff_getElem?.mp hmem
    obtain ⟨ships, stages, heq, -, hlength⟩ := b.exists_decideBy_eq schedule
    have hlt : i < b.ships.length := by
      rw [← hlength]
      rw [heq] at hi
      exact (List.getElem?_eq_some_iff.mp hi).1
    obtain ⟨-, hstage⟩ := b.getElem?_decideBy schedule (List.getElem?_eq_getElem hlt)
    have hend := (Share.iterate_advance_waiting b.tick b.world b.ships[i] (schedule.count i)).1
      (hserves i _ (List.getElem?_eq_getElem hlt))
    rw [hend, hi] at hstage
    exact Option.some.inj hstage

/-- However the steps follow each other, they end where the ships come to that decide alone. -/
theorem battle_decideBy {schedule : List Nat} (h : b.Serves schedule) :
    (b.decideBy schedule).battle = b.decide := by
  obtain ⟨ships, stages, heq, hlength, -⟩ := b.exists_decideBy_eq schedule
  have hships : ships = b.ships.map fun s => s.decide b.tick b.world := by
    apply List.ext_getElem
    · rw [hlength, List.length_map]
    · intro i hi hi'
      have hs : b.ships[i]? = some b.ships[i] := List.getElem?_eq_getElem (hlength ▸ hi)
      obtain ⟨hship, -⟩ := b.getElem?_decideBy schedule hs
      have hend := (Share.iterate_advance_waiting b.tick b.world b.ships[i] (schedule.count i)).1
        (h i _ hs)
      rw [heq, hend] at hship
      rw [List.getElem_map]
      exact (List.getElem?_eq_some_iff.mp hship).2
  rw [heq, hships]
  rfl

/-- The decisions of a tick do not depend on the order in which the ships take their steps. At any
moment everything but the ships is as before the first step. As soon as every ship has had its steps
the phase is over, the ships are those that would have decided one after the other, and so are the
projectiles that are launched and their numbers. -/
theorem decideBy_independent (b : Battle α π δ) (schedule : List Nat) :
    (∃ ships, (b.decideBy schedule).battle = { b with ships }) ∧
    ((b.decideBy schedule).Complete ↔ b.Serves schedule) ∧ (b.decideBy b.inOrder).Complete ∧
    ((b.decideBy schedule).Complete →
      (b.decideBy schedule).battle = b.decide ∧
      (b.decideBy schedule).battle = (b.decideBy b.inOrder).battle ∧
      (b.decideBy schedule).battle.launch = { b with
        ships := b.ships.map fun s => { s.decide b.tick b.world with shots := [] }
        projectiles := b.projectiles ++ ((b.ships.flatMap fun s =>
          (s.decide b.tick b.world).shots).zipIdx b.nextId).map fun e => e.1.projectile e.2
        nextId := b.nextId +
          (b.ships.flatMap fun s => (s.decide b.tick b.world).shots).length }) := by
  have hinOrder := b.serves_inOrder
  refine ⟨?_, b.complete_decideBy_iff schedule, (b.complete_decideBy_iff _).mpr hinOrder, ?_⟩
  · obtain ⟨ships, stages, heq, -⟩ := b.exists_decideBy_eq schedule
    exact ⟨ships, by rw [heq]⟩
  · intro hcomplete
    have hend := b.battle_decideBy ((b.complete_decideBy_iff schedule).mp hcomplete)
    have hfired : b.decide.ships.flatMap (·.shots) =
        b.ships.flatMap fun s => (s.decide b.tick b.world).shots := List.flatMap_map ..
    have hemptied : b.decide.ships.map (fun s => { s with shots := [] }) =
        b.ships.map fun s => { s.decide b.tick b.world with shots := [] } := List.map_map
    refine ⟨hend, hend.trans (b.battle_decideBy hinOrder).symm, ?_⟩
    rw [hend, launch_eq, hfired, hemptied]
    rfl

/-- Two gunners of two fleets. -/
noncomputable def duel : Battle Exact Gunner (Channel Exact) :=
  { (range 1).addFleet "blue" with
    ships := [.gunner 1, ⟨.assemble 2 "blue" .unitX [Part.sling 1] (Exact.real 1), {}⟩]
    nextId := 3 }

/-- The second gunner has its steps between those of the first one. -/
theorem decideBy_independent_duel : (duel.decideBy [0, 0, 1, 1, 1, 0, 1, 0]).Complete ∧
    (duel.decideBy [0, 0, 1, 1, 1, 0, 1, 0]).battle = duel.decide := by
  have hserves : duel.Serves [0, 0, 1, 1, 1, 0, 1, 0] := by
    intro i s hs
    match i with
    | 0 =>
      obtain rfl := Option.some.inj hs
      exact Nat.le_refl 4
    | 1 =>
      obtain rfl := Option.some.inj hs
      exact Nat.le_refl 4
    | i + 2 => cases hs
  obtain ⟨-, hiff, -, hend⟩ := decideBy_independent duel [0, 0, 1, 1, 1, 0, 1, 0]
  have hcomplete := hiff.mpr hserves
  obtain ⟨hdecide, -⟩ := hend hcomplete
  exact ⟨hcomplete, hdecide⟩

end Battle
end FleetArena
