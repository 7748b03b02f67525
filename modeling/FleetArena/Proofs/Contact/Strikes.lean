import FleetArena.Proofs.Battle.Collisions

/-! The collisions that a pass over pairs of places finds, and what the pass does besides. A
projectile that has hit something is left alone from then on, and one that hits nothing is not
touched at all. -/
namespace FleetArena.Battle
variable {α π δ : Type} [Scalar α]

/-- The pairs of a pass over solid bodies that collide. -/
def solidHits (dt : α) : List (Nat × Nat) → List (Body α) → List (Nat × Nat)
  | [], _ => []
  | p :: rest, bodies =>
    let state := strike dt solidRestitution bodies p.1 p.2
    if state.2 then p :: solidHits dt rest state.1 else solidHits dt rest state.1

/-- The pairs of a projectile and a solid body that collide in a pass. -/
def shotHits (dt : α) (solids : Nat) :
    List (Nat × Nat) → List (Body α) → List Bool → List (Nat × Nat)
  | [], _, _ => []
  | p :: rest, bodies, spent =>
    if spent[p.1 - solids]?.getD false then shotHits dt solids rest bodies spent
    else
      let state := strike dt projectileRestitution bodies p.1 p.2
      let spent := spent.set (p.1 - solids) state.2
      if state.2 then p :: shotHits dt solids rest state.1 spent
      else shotHits dt solids rest state.1 spent

section
variable {dt cor : α} {bodies : List (Body α)} {i j k : Nat}

theorem strike_of_miss (h : (strike dt cor bodies i j).2 = false) :
    strike dt cor bodies i j = (bodies, false) := by
  rw [strike_eq] at h ⊢
  split
  · rfl
  · split
    · split
      · simp_all
      · rfl
    · rfl

theorem getElem?_strike {bodies' : List (Body α)} {hit : Bool}
    (h : strike dt cor bodies i j = (bodies', hit)) (hi : i ≠ k) (hj : j ≠ k) :
    bodies'[k]? = bodies[k]? := by
  obtain rfl : (strike dt cor bodies i j).1 = bodies' := congrArg Prod.fst h
  rw [strike_eq]
  split
  · rfl
  split
  · split
    · rw [List.getElem?_set_ne hj, List.getElem?_set_ne hi]
    · rfl
  · rfl

theorem length_strikeSolids (dt : α) (pairs : List (Nat × Nat)) (bodies : List (Body α)) :
    (strikeSolids dt pairs bodies).length = bodies.length := by
  simpa only [List.length_map] using congrArg List.length (map_id_strikeSolids dt pairs bodies)

theorem length_fst_strikeShots (dt : α) (solids : Nat) (pairs : List (Nat × Nat))
    (bodies : List (Body α)) (spent : List Bool) :
    (strikeShots dt solids pairs bodies spent).1.length = bodies.length := by
  obtain ⟨hids, -⟩ := map_id_strikeShots dt solids pairs bodies spent
  simpa only [List.length_map] using congrArg List.length hids

end

/-- A pass over pairs of places takes the bodies, and the flags of the projectiles that are spent,
from one state to another. A pair of a spent projectile is left out; every other one is tried, and
those that collide make up the log. -/
inductive Pass (dt : α) (solids : Nat) : List (Nat × Nat) → List (Nat × Nat) →
    List (Body α) × List Bool → List (Body α) × List Bool → Prop
  | nil (s : List (Body α) × List Bool) : Pass dt solids [] [] s s
  | spent {p pairs log s t} (hshot : solids ≤ p.1) (hspent : s.2[p.1 - solids]? = some true)
      (hrest : Pass dt solids pairs log s t) : Pass dt solids (p :: pairs) log s t
  | solidMiss {p pairs log s t} (hsolid : p.1 < solids)
      (hmiss : strike dt solidRestitution s.1 p.1 p.2 = (s.1, false))
      (hrest : Pass dt solids pairs log s t) : Pass dt solids (p :: pairs) log s t
  | solidHit {p pairs log s t bodies} (hsolid : p.1 < solids)
      (hhit : strike dt solidRestitution s.1 p.1 p.2 = (bodies, true))
      (hrest : Pass dt solids pairs log (bodies, s.2) t) :
      Pass dt solids (p :: pairs) (p :: log) s t
  | shotMiss {p pairs log s t} (hshot : solids ≤ p.1)
      (hunspent : s.2[p.1 - solids]? = some false)
      (hmiss : strike dt projectileRestitution s.1 p.1 p.2 = (s.1, false))
      (hrest : Pass dt solids pairs log s t) : Pass dt solids (p :: pairs) log s t
  | shotHit {p pairs log s t bodies} (hshot : solids ≤ p.1)
      (hunspent : s.2[p.1 - solids]? = some false)
      (hhit : strike dt projectileRestitution s.1 p.1 p.2 = (bodies, true))
      (hrest : Pass dt solids pairs log (bodies, s.2.set (p.1 - solids) true) t) :
      Pass dt solids (p :: pairs) (p :: log) s t

namespace Pass
variable {dt : α} {solids k : Nat} {pairs log pairs' log' : List (Nat × Nat)}
variable {s t u : List (Body α) × List Bool}

theorem append (h : Pass dt solids pairs log s t) (h' : Pass dt solids pairs' log' t u) :
    Pass dt solids (pairs ++ pairs') (log ++ log') s u := by
  induction h with
  | nil => exact h'
  | spent hshot hspent _ ih => exact .spent hshot hspent (ih h')
  | solidMiss hsolid hmiss _ ih => exact .solidMiss hsolid hmiss (ih h')
  | solidHit hsolid hhit _ ih => exact .solidHit hsolid hhit (ih h')
  | shotMiss hshot hunspent hmiss _ ih => exact .shotMiss hshot hunspent hmiss (ih h')
  | shotHit hshot hunspent hhit _ ih => exact .shotHit hshot hunspent hhit (ih h')

theorem mem_pairs (h : Pass dt solids pairs log s t) : ∀ p ∈ log, p ∈ pairs := by
  induction h with
  | nil => exact List.forall_mem_nil _
  | spent _ _ _ ih | solidMiss _ _ _ ih | shotMiss _ _ _ _ ih =>
    exact fun p hp => List.mem_cons_of_mem _ (ih p hp)
  | solidHit _ _ _ ih | shotHit _ _ _ _ ih =>
    exact List.forall_mem_cons.mpr
      ⟨List.mem_cons_self, fun p hp => List.mem_cons_of_mem _ (ih p hp)⟩

/-- A spent projectile stays so and hits nothing more. -/
theorem stays (h : Pass dt solids pairs log s t) (hk : s.2[k]? = some true) :
    t.2[k]? = some true ∧ ∀ p ∈ log, p.1 ≠ solids + k := by
  induction h with
  | nil => exact ⟨hk, List.forall_mem_nil _⟩
  | spent _ _ _ ih | solidMiss _ _ _ ih | shotMiss _ _ _ _ ih => exact ih hk
  | solidHit hsolid _ _ ih =>
    obtain ⟨hstays, hothers⟩ := ih hk
    exact ⟨hstays, List.forall_mem_cons.mpr ⟨by omega, hothers⟩⟩
  | @shotHit p _ _ s _ _ hshot hunspent _ _ ih =>
    -- the pair that hits is not one of this projectile
    have hne : p.1 - solids ≠ k := by
      rintro rfl
      rw [hk] at hunspent
      cases hunspent
    obtain ⟨hstays, hothers⟩ := ih ((List.getElem?_set_ne hne).trans hk)
    exact ⟨hstays, List.forall_mem_cons.mpr ⟨by omega, hothers⟩⟩

/-- What a projectile does after it has hit something, as `stays` has it. -/
theorem stays_of_hit {p : Nat × Nat} (hshot : solids ≤ p.1)
    (hunspent : s.2[p.1 - solids]? = some false) {bodies : List (Body α)}
    (hrest : Pass dt solids pairs log (bodies, s.2.set (p.1 - solids) true) t) :
    t.2[p.1 - solids]? = some true ∧ ∀ q ∈ log, q.1 ≠ p.1 := by
  have hlt : p.1 - solids < s.2.length := (List.getElem?_eq_some_iff.mp hunspent).1
  have hset : (s.2.set (p.1 - solids) true)[p.1 - solids]? = some true :=
    List.getElem?_set_self hlt
  have hplace : solids + (p.1 - solids) = p.1 := by
    omega
  have h := hrest.stays hset
  rwa [hplace] at h

/-- Every projectile that hits is spent. -/
theorem spent_of_mem (h : Pass dt solids pairs log s t) :
    ∀ p ∈ log, solids ≤ p.1 → t.2[p.1 - solids]? = some true := by
  induction h with
  | nil => exact List.forall_mem_nil _
  | spent _ _ _ ih | solidMiss _ _ _ ih | shotMiss _ _ _ _ ih => exact ih
  | solidHit hsolid _ _ ih =>
    exact List.forall_mem_cons.mpr ⟨fun hshot => absurd hshot (by omega), ih⟩
  | shotHit hshot hunspent _ hrest ih =>
    exact List.forall_mem_cons.mpr ⟨fun _ => (stays_of_hit hshot hunspent hrest).1, ih⟩

/-- No projectile hits twice. -/
theorem length_filter_le_one (h : Pass dt solids pairs log s t) (hpairs : ∀ p ∈ pairs, p.2 < solids)
    (k : Nat) : (log.filter fun p => p.1 = solids + k ∨ p.2 = solids + k).length ≤ 1 := by
  induction h with
  | nil => exact Nat.zero_le 1
  | spent _ _ _ ih | solidMiss _ _ _ ih | shotMiss _ _ _ _ ih =>
    exact ih (List.forall_mem_cons.mp hpairs).2
  | @solidHit p _ _ _ _ _ hsolid _ _ ih =>
    obtain ⟨hp, hrest⟩ := List.forall_mem_cons.mp hpairs
    have hother : ¬(p.1 = solids + k ∨ p.2 = solids + k) := by
      omega
    rw [List.filter_cons_of_neg (by simpa only [decide_eq_true_eq] using hother)]
    exact ih hrest
  | @shotHit p _ log _ _ _ hshot hunspent _ hlater ih =>
    obtain ⟨hp, hrest⟩ := List.forall_mem_cons.mp hpairs
    by_cases hk : p.1 = solids + k ∨ p.2 = solids + k
    · -- it is the projectile of this pair, which is out of the later ones
      have hnone : log.filter (fun q => q.1 = solids + k ∨ q.2 = solids + k) = [] := by
        refine List.filter_eq_nil_iff.mpr fun q hq => ?_
        have hne := (stays_of_hit hshot hunspent hlater).2 q hq
        have hq : q.2 < solids := hrest q (hlater.mem_pairs q hq)
        simp only [decide_eq_true_eq]
        omega
      rw [List.filter_cons_of_pos (by simpa only [decide_eq_true_eq] using hk), hnone]
      exact Nat.le_refl 1
    · rw [List.filter_cons_of_neg (by simpa only [decide_eq_true_eq] using hk)]
      exact ih hrest

/-- What hits nothing is left as it is. -/
theorem of_unhit (h : Pass dt solids pairs log s t) (hpairs : ∀ p ∈ pairs, p.2 < solids)
    (hk : ∀ p ∈ log, p.1 ≠ solids + k) :
    t.1[solids + k]? = s.1[solids + k]? ∧ t.2[k]? = s.2[k]? := by
  induction h with
  | nil => exact ⟨rfl, rfl⟩
  | spent _ _ _ ih | solidMiss _ _ _ ih | shotMiss _ _ _ _ ih =>
    exact ih (List.forall_mem_cons.mp hpairs).2 hk
  | @solidHit p _ _ s _ bodies hsolid hhit _ ih =>
    obtain ⟨hp, hrest⟩ := List.forall_mem_cons.mp hpairs
    obtain ⟨-, hothers⟩ := List.forall_mem_cons.mp hk
    obtain ⟨hbody, hflag⟩ := ih hrest hothers
    -- the places of solid bodies come before those of the projectiles
    have hkept : bodies[solids + k]? = s.1[solids + k]? :=
      getElem?_strike hhit (by omega) (by omega)
    exact ⟨hbody.trans hkept, hflag⟩
  | @shotHit p _ _ s _ bodies hshot _ hhit _ ih =>
    obtain ⟨hp, hrest⟩ := List.forall_mem_cons.mp hpairs
    obtain ⟨hne, hothers⟩ := List.forall_mem_cons.mp hk
    obtain ⟨hbody, hflag⟩ := ih hrest hothers
    have hkept : bodies[solids + k]? = s.1[solids + k]? :=
      getElem?_strike hhit hne (by omega)
    exact ⟨hbody.trans hkept, hflag.trans (List.getElem?_set_ne (by omega))⟩

end Pass

section
variable {dt : α} {solids : Nat} {pairs : List (Nat × Nat)}

/-- The pass over the solid bodies. -/
theorem pass_strikeSolids (hpairs : ∀ p ∈ pairs, p.1 < solids) (bodies : List (Body α))
    (spent : List Bool) : Pass dt solids pairs (solidHits dt pairs bodies) (bodies, spent)
      (strikeSolids dt pairs bodies, spent) := by
  induction pairs generalizing bodies with
  | nil => exact .nil _
  | cons p rest ih =>
    obtain ⟨hp, hrest⟩ := List.forall_mem_cons.mp hpairs
    rw [strikeSolids, List.foldl_cons, solidHits]
    cases hhit : (strike dt solidRestitution bodies p.1 p.2).2 with
    | false =>
      have hmiss := strike_of_miss hhit
      simp only [hmiss]
      exact .solidMiss hp hmiss (ih hrest bodies)
    | true => exact .solidHit hp (Prod.ext rfl hhit) (ih hrest _)

/-- The pass over the projectiles. -/
theorem pass_strikeShots {spent : List Bool}
    (hpairs : ∀ p ∈ pairs, solids ≤ p.1 ∧ p.1 - solids < spent.length) (bodies : List (Body α)) :
    Pass dt solids pairs (shotHits dt solids pairs bodies spent) (bodies, spent)
      (strikeShots dt solids pairs bodies spent) := by
  induction pairs generalizing bodies spent with
  | nil => exact .nil _
  | cons p rest ih =>
    obtain ⟨⟨hshot, hlt⟩, hrest⟩ := List.forall_mem_cons.mp hpairs
    have hflag : spent[p.1 - solids]? = some spent[p.1 - solids] := List.getElem?_eq_getElem hlt
    rw [strikeShots, List.foldl_cons, shotHits, hflag, Option.getD_some]
    cases hspent : spent[p.1 - solids] with
    | true => exact .spent hshot (hflag.trans (congrArg some hspent)) (ih hrest bodies)
    | false =>
      have hunspent : spent[p.1 - solids]? = some false := hflag.trans (congrArg some hspent)
      cases hhit : (strike dt projectileRestitution bodies p.1 p.2).2 with
      | false =>
        have hmiss := strike_of_miss hhit
        have hset : spent.set (p.1 - solids) false = spent :=
          set_of_getD (congrArg (Option.getD · false) hunspent)
        simp only [hmiss, hset]
        exact .shotMiss hshot hunspent hmiss (ih hrest bodies)
      | true =>
        have hrest' : ∀ q ∈ rest,
            solids ≤ q.1 ∧ q.1 - solids < (spent.set (p.1 - solids) true).length := by
          rwa [List.length_set]
        simp only [hhit]
        exact .shotHit hshot hunspent (Prod.ext rfl hhit) (ih hrest' _)

end
end FleetArena.Battle
