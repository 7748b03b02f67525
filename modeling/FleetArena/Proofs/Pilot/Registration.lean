import FleetArena.Pilot.Registry
import FleetArena.Proofs.Exact

/-! Registries as ordered maps. Whatever has been registered, the names stand in the order in which
they came first, each of them once, and a pilot is made by the factory that was registered last
under its name. No other factory is called. -/
namespace FleetArena.Registry
variable {m : Type → Type} {π : Type}

/-- Makes some registrations, one after the other. -/
def registerAll (r : Registry m π) (calls : List (String × (Nat → m π))) : Registry m π :=
  calls.foldl (fun r call => r.register call.1 call.2) r

section
variable {r : Registry m π} {calls : List (String × (Nat → m π))} {name : String}
  {factory : Nat → m π}

theorem registerAll_concat (r : Registry m π) (calls : List (String × (Nat → m π)))
    (call : String × (Nat → m π)) :
    r.registerAll (calls ++ [call]) = (r.registerAll calls).register call.1 call.2 := by
  rw [registerAll, List.foldl_append]
  rfl

/-- A name that is registered already stays where it is. -/
theorem names_register_of_mem (h : name ∈ r.names) : (r.register name factory).names = r.names := by
  obtain ⟨entries⟩ := r
  simp only [names, register] at h ⊢
  fun_induction registerEntry name factory entries with
  | case1 => cases h
  | case2 held rest => rfl
  | case3 first held rest hne ih =>
    rw [List.map_cons, List.mem_cons, or_iff_right (Ne.symm hne)] at h
    rw [List.map_cons, ih h, List.map_cons]

/-- A new name comes behind the others. -/
theorem names_register_of_notMem (h : name ∉ r.names) :
    (r.register name factory).names = r.names ++ [name] := by
  obtain ⟨entries⟩ := r
  simp only [names, register] at h ⊢
  fun_induction registerEntry name factory entries with
  | case1 => rfl
  | case2 held rest => exact absurd List.mem_cons_self h
  | case3 first held rest hne ih =>
    rw [List.map_cons, List.mem_cons, not_or] at h
    rw [List.map_cons, ih h.2, List.map_cons, List.cons_append]

/-- A registration replaces the factory of its name and leaves all others. -/
theorem factory?_register (other : String) : (r.register name factory).factory? other =
    if other = name then some factory else r.factory? other := by
  obtain ⟨entries⟩ := r
  simp only [factory?, register]
  fun_induction registerEntry name factory entries with
  | case1 =>
    by_cases h : other = name
    · simp [h]
    · simp [h, Ne.symm h]
  | case2 first rest =>
    by_cases h : other = name
    · simp [h]
    · simp [h, Ne.symm h]
  | case3 first held rest hne ih =>
    by_cases h : other = first
    · simp [h, hne]
    · simp only [List.find?_cons, beq_eq_false_iff_ne.mpr (Ne.symm h)]
      exact ih

/-- What is registered under other names does not matter to a name. -/
theorem factory?_registerAll_of_notMem (h : name ∉ calls.map (·.1)) :
    (r.registerAll calls).factory? name = r.factory? name := by
  induction calls generalizing r with
  | nil => rfl
  | cons call rest ih =>
    rw [List.map_cons, List.mem_cons, not_or] at h
    have hrest : (r.registerAll (call :: rest)).factory? name =
        (r.register call.1 call.2).factory? name := ih h.2
    rw [hrest, factory?_register, if_neg h.1]

theorem factory?_registerAll_of_last {before after : List (String × (Nat → m π))}
    (h : name ∉ after.map (·.1)) :
    (r.registerAll (before ++ (name, factory) :: after)).factory? name = some factory := by
  have hsplit : r.registerAll (before ++ (name, factory) :: after) =
      ((r.registerAll before).register name factory).registerAll after := by
    rw [registerAll, List.foldl_append]
    rfl
  rw [hsplit, factory?_registerAll_of_notMem h, factory?_register, if_pos rfl]

end

/-- `names` are the members of `past`, each in the place of its first occurrence. -/
structure Firsts (past names : List String) : Prop where
  mem_iff : ∀ name, name ∈ names ↔ name ∈ past
  ordered : names.Pairwise fun a b => past.idxOf a < past.idxOf b

namespace Firsts
variable {past names : List String} {name : String}

theorem nodup (h : Firsts past names) : names.Nodup := by
  refine h.ordered.imp ?_
  rintro a b hlt rfl
  exact Nat.lt_irrefl _ hlt

theorem length_eq (h : Firsts past names) : names.length = past.toFinset.card := by
  rw [← List.toFinset_card_of_nodup h.nodup]
  congr 1
  ext name
  rw [List.mem_toFinset, List.mem_toFinset, h.mem_iff]

/-- The order of the names does not change when the past goes on. -/
theorem ordered_concat (h : Firsts past names) (name : String) :
    names.Pairwise fun a b => (past ++ [name]).idxOf a < (past ++ [name]).idxOf b := by
  refine h.ordered.imp_of_mem fun ha hb hlt => ?_
  rwa [List.idxOf_append_of_mem ((h.mem_iff _).mp ha),
    List.idxOf_append_of_mem ((h.mem_iff _).mp hb)]

theorem concat_of_mem (h : Firsts past names) (hname : name ∈ names) :
    Firsts (past ++ [name]) names := by
  refine ⟨fun other => ?_, h.ordered_concat name⟩
  rw [List.mem_append, List.mem_singleton, ← h.mem_iff]
  constructor
  · exact Or.inl
  · rintro (hother | rfl)
    · exact hother
    · exact hname

theorem concat_of_notMem (h : Firsts past names) (hname : name ∉ names) :
    Firsts (past ++ [name]) (names ++ [name]) := by
  refine ⟨fun other => ?_, ?_⟩
  · rw [List.mem_append, List.mem_append, h.mem_iff]
  · -- the new name comes behind all that are in the past
    have hlast : (past ++ [name]).idxOf name = past.length := by
      rw [List.idxOf_append_of_notMem (mt (h.mem_iff name).mpr hname), List.idxOf_cons_self,
        Nat.add_zero]
    rw [List.pairwise_append]
    refine ⟨h.ordered_concat name, List.pairwise_singleton _ _, fun other hother b hb => ?_⟩
    have hpast := (h.mem_iff other).mp hother
    rw [List.mem_singleton.mp hb, hlast, List.idxOf_append_of_mem hpast]
    exact List.idxOf_lt_length_of_mem hpast

end Firsts

theorem firsts_names (calls : List (String × (Nat → m π))) :
    Firsts (calls.map (·.1)) ((empty : Registry m π).registerAll calls).names := by
  induction calls using List.reverseRecOn with
  | nil => exact ⟨fun _ => Iff.rfl, .nil⟩
  | append_singleton calls call ih =>
    rw [registerAll_concat, List.map_append, List.map_singleton]
    by_cases h : call.1 ∈ (empty.registerAll calls : Registry m π).names
    · rw [names_register_of_mem h]
      exact ih.concat_of_mem h
    · rw [names_register_of_notMem h]
      exact ih.concat_of_notMem h

variable [Monad m]

/-- A factory that keeps a log: before it makes a pilot it notes its name and the seed. -/
def logged (name : String) (factory : Nat → m π) (seed : Nat) :
    StateT (List (String × Nat)) m π := do
  modify (· ++ [(name, seed)])
  factory seed

/-- The registry with factories that keep a log. -/
def recording (r : Registry m π) : Registry (StateT (List (String × Nat)) m) π :=
  ⟨r.entries.map fun entry => (entry.1, logged entry.1 entry.2)⟩

theorem factory?_recording (r : Registry m π) (name : String) :
    r.recording.factory? name = (r.factory? name).map (logged name) := by
  obtain ⟨entries⟩ := r
  simp only [recording, factory?]
  induction entries with
  | nil => rfl
  | cons entry rest ih =>
    by_cases h : entry.1 = name
    · simp [h]
    · simp only [List.map_cons, List.find?_cons, beq_eq_false_iff_ne.mpr h]
      exact ih

/-- The registry is the ordered map that some registrations make of the empty one. -/
structure IsOrderedMap (α : Type) (r : Registry m π) (calls : List (String × (Nat → m π))) :
    Prop where
  firsts : Firsts (calls.map (·.1)) r.names
  nodup : r.names.Nodup
  size : r.size = (calls.map (·.1)).toFinset.card
  contains : ∀ name, r.contains name = true ↔ name ∈ calls.map (·.1)
  /-- The last factory of a name makes the pilot, with the seed that is asked for. It is called
  once, and no other one is. -/
  create_of_last : ∀ before name factory after seed, calls = before ++ (name, factory) :: after →
    name ∉ after.map (·.1) →
      (r.create name seed : ExceptT (SetupError α) m π) = ExceptT.lift (factory seed) ∧
      ∀ log, (r.recording.create name seed : ExceptT (SetupError α) _ π).run.run log =
        factory seed >>= fun pilot => pure (.ok pilot, log ++ [(name, seed)])
  create_of_unknown : ∀ name seed, name ∉ calls.map (·.1) →
    (r.create name seed : ExceptT (SetupError α) m π) = throw (.unknownPilot name) ∧
      ∀ log, (r.recording.create name seed : ExceptT (SetupError α) _ π).run.run log =
        pure (.error (.unknownPilot name), log)

theorem isOrderedMap_registerAll [LawfulMonad m] (α : Type) (calls : List (String × (Nat → m π))) :
    (empty.registerAll calls : Registry m π).IsOrderedMap α calls := by
  let r : Registry m π := empty.registerAll calls
  have hfirsts : Firsts (calls.map (·.1)) r.names := firsts_names calls
  refine ⟨hfirsts, hfirsts.nodup, ?_, fun name => ?_, ?_, fun name seed hname => ?_⟩
  · rw [← hfirsts.length_eq, names, List.length_map]
    rfl
  · rw [← hfirsts.mem_iff, contains, names, List.any_eq_true, List.mem_map]
    simp only [beq_iff_eq]
    rfl
  · intro before name factory after seed hcalls hlast
    have hfactory : r.factory? name = some factory := by
      simp only [r, hcalls]
      exact factory?_registerAll_of_last hlast
    have hrecording : r.recording.factory? name = some (logged name factory) := by
      rw [factory?_recording, hfactory]
      rfl
    constructor
    · rw [create, hfactory]
    · intro log
      rw [create, hrecording]
      simp [logged]
  · have hfactory : r.factory? name = none := factory?_registerAll_of_notMem hname
    have hrecording : r.recording.factory? name = none := by
      rw [factory?_recording, hfactory]
      rfl
    constructor
    · rw [create, hfactory]
    · intro log
      rw [create, hrecording]
      rfl

/-- What a registry of the stock pilots has been told. -/
def stockFactories {α : Type} [Scalar α] (embed : StockPilot α → π) :
    List (String × (Nat → m π)) :=
  [("idle", fun _ => return embed (.idle ⟨⟩)),
    ("wanderer", fun seed => return embed (.wanderer (.ofSeed seed))),
    ("hunter", fun _ => return embed (.hunter .standard))]

/-- A registry is an ordered map, whether it starts empty or with the stock pilots. A name that is
registered again keeps its place and gets the new factory; a pilot is made by one call of the
factory that was registered last under its name, or there is none of that name. -/
theorem isOrderedMap_of_registrations [LawfulMonad m] {α : Type} [Scalar α]
    (embed : StockPilot α → π) (calls : List (String × (Nat → m π))) :
    ((empty : Registry m π).registerAll calls).IsOrderedMap α calls ∧
      ((stock embed : Registry m π).registerAll calls).IsOrderedMap α
        (stockFactories embed ++ calls) := by
  have hstock : (stock embed : Registry m π).registerAll calls =
      empty.registerAll (stockFactories embed ++ calls) := by
    rw [registerAll, registerAll, List.foldl_append]
    rfl
  refine ⟨isOrderedMap_registerAll α calls, ?_⟩
  rw [hstock]
  exact isOrderedMap_registerAll α _

/-- What stock pilots are called, with a number. -/
def called : StockPilot Exact → String × Nat
  | .idle _ => ("idle", 0)
  | .wanderer _ => ("wanderer", 0)
  | .hunter _ => ("hunter", 0)

/-- A probe is registered twice, and in between a pilot in the place of the idle one. -/
theorem isOrderedMap_of_registrations_probe :
    let calls : List (String × (Nat → Id (String × Nat))) :=
      [("probe", fun _ => ("probe", 0)), ("idle", fun seed => ("moored", seed)),
        ("probe", fun seed => ("probe", seed))]
    let r : Registry Id (String × Nat) := (stock called).registerAll calls
    let created (name : String) : ExceptT (SetupError Exact) Id (String × Nat) := r.create name 7
    r.names = ["idle", "wanderer", "hunter", "probe"] ∧ r.size = 4 ∧
      created "idle" = pure ("moored", 7) ∧ created "probe" = pure ("probe", 7) ∧
      created "scout" = throw (.unknownPilot "scout") := by
  intro calls r created
  obtain ⟨-, h⟩ := isOrderedMap_of_registrations (m := Id) called calls
  have hnames : (stockFactories (m := Id) called ++ calls).map (·.1) =
      ["idle", "wanderer", "hunter", "probe", "idle", "probe"] := rfl
  refine ⟨rfl, h.size, ?_, ?_, ?_⟩
  · exact (h.create_of_last (stockFactories called ++ calls.take 1) "idle" _ (calls.drop 2) 7 rfl
      (by decide)).1
  · exact (h.create_of_last (stockFactories called ++ calls.take 2) "probe" _ [] 7 rfl
      List.not_mem_nil).1
  · exact (h.create_of_unknown "scout" 7 (by rw [hnames]; decide)).1

end FleetArena.Registry
