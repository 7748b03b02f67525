import FleetArena.Proofs.FloatingPoint
import FleetArena.Proofs.Vessel.Ending
import FleetArena.Proofs.Vessel.Shots

/-! The rate of fire of a weapon: how its cooldown, its ammunition and the once in a tick bound what
any number of attempts to fire can come to, and that it is ready again exactly on time. -/
namespace FleetArena
variable {α : Type}

/-- What a payment rests on: a cost that is covered leaves nothing below zero. -/
class Scalar.Solvent (α : Type) [Scalar α] : Prop where
  not_sub_lt_zero : ∀ x y : α, 0.0 ≤ y → y ≤ x → ¬x - y < 0.0

open Exact in
instance : Scalar.Solvent Exact where
  not_sub_lt_zero x y hy hyx := by
    rw [zero_eq] at hy ⊢
    rcases nonneg_iff.mp hy with ⟨b, -, rfl⟩ | rfl
    · cases x with
      | real a =>
        rw [real_sub, real_lt, not_lt, sub_nonneg]
        exact hyx
      | posInf => exact not_posInf_lt_real
      | negInf => exact hyx.elim
      | nan => exact hyx.elim
    · cases x with
      | real a => exact hyx.elim
      | posInf => exact not_nan_lt
      | negInf => exact hyx.elim
      | nan => exact hyx.elim

open FloatingPoint in
instance : Scalar.Solvent Float where
  not_sub_lt_zero x y hy hyx := by
    have hy' : (0.0 : Float).toModel.unpack.le y.toModel.unpack = true := of_decide_eq_true hy
    have hyx' : y.toModel.unpack.le x.toModel.unpack = true := of_decide_eq_true hyx
    intro hlt
    have hlt' : (x - y).toModel.unpack.lt (0.0 : Float).toModel.unpack = true :=
      of_decide_eq_true hlt
    rw [unpack_zero] at hy' hlt'
    have hleft : Nonneg (x - y).toModel.unpack := (nonneg_sub hy' hyx').unpack_pack
    rw [hleft.not_lt_zero] at hlt'
    cases hlt'

/-- An attempt to fire a weapon. -/
structure Pull (α : Type) where
  tick : Nat
  hull : Hull α
  direction : Vec3 α

/-- An attempt, and the weapon as it was then. -/
structure Trial (α : Type) where
  weapon : Weapon α
  pull : Pull α

namespace Weapon
variable {w : Weapon α} {now tick n shot : Nat}

/-- A weapon that was last tried in the tick `now`, as a later attempt finds it: with its mount
released if the tick has changed. -/
def readied (w : Weapon α) (now tick : Nat) : Weapon α :=
  { w with mount := if tick = now then w.mount else w.mount.release }

/-- The first tick in which a weapon is ready that has fired in the tick `shot`. -/
def readyAt (w : Weapon α) (shot : Nat) : Nat :=
  Nat.min lastTick (shot + w.cooldownTicks)

theorem cooldownRemaining?_of_lastShot (h : w.lastShot = some shot) (tick : Nat) :
    w.cooldownRemaining? tick =
      if tick < w.readyAt shot then some (w.readyAt shot - tick) else none := by
  rw [cooldownRemaining?, h, Option.bind_some]
  rfl

theorem exists_lastShot (h : w.cooldownRemaining? tick = some n) :
    ∃ shot, w.lastShot = some shot ∧ tick + n = w.readyAt shot := by
  obtain ⟨shot, hshot, -⟩ := Option.bind_eq_some_iff.mp h
  rw [cooldownRemaining?_of_lastShot hshot] at h
  split at h
  · rename_i hlt
    obtain rfl := Option.some.inj h
    exact ⟨shot, hshot, by omega⟩
  · cases h

theorem readyAt_le (hshot : w.lastShot = some shot) (h : w.cooldownRemaining? tick = none) :
    w.readyAt shot ≤ tick := by
  by_contra hlt
  rw [cooldownRemaining?_of_lastShot hshot, if_pos (not_le.mp hlt)] at h
  cases h

end Weapon

variable [Scalar α]

namespace Trial

def result (t : Trial α) : Except (ActionError α) (Shot α) :=
  (t.weapon.fire t.pull.hull t.pull.tick t.pull.direction).2.2

/-- The weapon behind an attempt. -/
def after (t : Trial α) : Weapon α :=
  (t.weapon.fire t.pull.hull t.pull.tick t.pull.direction).1

def isShot (t : Trial α) : Bool :=
  t.result.isOk

theorem outcome (t : Trial α) :
    (t.isShot = false ∧ t.after = t.weapon.markUsed ∧
        ∀ n, t.result = .error (.coolingDown n) →
          t.weapon.cooldownRemaining? t.pull.tick = some n) ∨
      (t.isShot = true ∧ t.after = t.weapon.discharged t.pull.tick ∧ t.weapon.mount.used = false ∧
        t.weapon.ammo ≠ 0 ∧ t.weapon.cooldownRemaining? t.pull.tick = none) := by
  rcases t.weapon.fire_outcome t.pull.hull t.pull.tick t.pull.direction with
    ⟨e, hresult, hafter, hcool⟩ | ⟨shot, hresult, hrest⟩
  · refine Or.inl ⟨congrArg Except.isOk hresult, hafter, fun n hn => hcool n ?_⟩
    exact Except.error.inj (hresult.symm.trans hn)
  · exact Or.inr ⟨congrArg Except.isOk hresult, hrest⟩

theorem mount_after (t : Trial α) : t.after.mount.used = true := by
  rcases t.outcome with ⟨-, hafter, -⟩ | ⟨-, hafter, -⟩
  · rw [hafter]
    rfl
  · rw [hafter]
    rfl

@[simp] theorem cooldownTicks_after (t : Trial α) :
    t.after.cooldownTicks = t.weapon.cooldownTicks := by
  rcases t.outcome with ⟨-, hafter, -⟩ | ⟨-, hafter, -⟩
  · rw [hafter]
    rfl
  · rw [hafter]
    rfl

end Trial

namespace Weapon
variable {w : Weapon α} {now tick n shot : Nat} {p : Pull α} {ps rest : List (Pull α)}

/-- The next attempt to fire a weapon that was last tried in the tick `now`. -/
def attempt (w : Weapon α) (now : Nat) (p : Pull α) : Trial α :=
  ⟨w.readied now p.tick, p⟩

/-- What attempts come to, one after the other. -/
def trials (now : Nat) : List (Pull α) → Weapon α → List (Trial α)
  | [], _ => []
  | p :: rest, w => w.attempt now p :: trials p.tick rest (w.attempt now p).after

/-- The weapon behind all attempts. -/
def tried (now : Nat) : List (Pull α) → Weapon α → Weapon α
  | [], w => w
  | p :: rest, w => tried p.tick rest (w.attempt now p).after

/-- The ticks of the attempts that succeed. -/
def shotTicks (now : Nat) (ps : List (Pull α)) (w : Weapon α) : List Nat :=
  ((w.trials now ps).filter (·.isShot)).map (·.pull.tick)

/-- An attempt that succeeds takes a round and starts the cooldown, and one that fails does not. -/
theorem attempt_cases (w : Weapon α) (now : Nat) (p : Pull α) :
    let t := w.attempt now p
    (t.isShot = false ∧ t.after.lastShot = w.lastShot ∧ t.after.ammo = w.ammo) ∨
      (t.isShot = true ∧ t.after.lastShot = some p.tick ∧ t.after.ammo + 1 = w.ammo ∧
        ∀ shot, w.lastShot = some shot → w.readyAt shot ≤ p.tick) := by
  intro t
  rcases t.outcome with ⟨hfail, hafter, -⟩ | ⟨hfired, hafter, -, hloaded, hcool⟩
  · rw [hafter]
    exact Or.inl ⟨hfail, rfl, rfl⟩
  · rw [hafter]
    refine Or.inr ⟨hfired, rfl, Nat.succ_pred_eq_of_ne_zero hloaded, fun shot hshot => ?_⟩
    -- a weapon cools down whether its mount is released or not
    exact readyAt_le (w := t.weapon) hshot hcool

@[simp] theorem readyAt_attempt : (w.attempt now p).after.readyAt shot = w.readyAt shot := by
  have hticks : (w.attempt now p).after.cooldownTicks = w.cooldownTicks :=
    (w.attempt now p).cooldownTicks_after
  rw [readyAt, readyAt, hticks]

/-- A used weapon does not fire in the same tick. -/
theorem isShot_attempt_of_used (hused : w.mount.used = true) (htick : p.tick = now) :
    (w.attempt now p).isShot = false := by
  have hfound : (w.attempt now p).weapon.mount = w.mount := if_pos htick
  rcases (w.attempt now p).outcome with ⟨hfail, -⟩ | ⟨-, -, hfree, -⟩
  · exact hfail
  · rw [hfound, hused] at hfree
    cases hfree

theorem shotTicks_of_isShot (h : (w.attempt now p).isShot = true) :
    w.shotTicks now (p :: rest) = p.tick :: (w.attempt now p).after.shotTicks p.tick rest := by
  rw [shotTicks, trials, List.filter_cons_of_pos h]
  rfl

theorem shotTicks_of_not_isShot (h : (w.attempt now p).isShot = false) :
    w.shotTicks now (p :: rest) = (w.attempt now p).after.shotTicks p.tick rest := by
  rw [shotTicks, trials, List.filter_cons_of_neg (by rw [h]; exact Bool.false_ne_true)]
  rfl

theorem shotTicks_sublist (now : Nat) (ps : List (Pull α)) (w : Weapon α) :
    (w.shotTicks now ps).Sublist (ps.map (·.tick)) := by
  induction ps generalizing w now with
  | nil => exact .refl _
  | cons p rest ih =>
    rw [List.map_cons]
    cases hfired : (w.attempt now p).isShot with
    | false =>
      rw [shotTicks_of_not_isShot hfired]
      exact (ih _ _).cons _
    | true =>
      rw [shotTicks_of_isShot hfired]
      exact (ih _ _).cons_cons _

/-- A used weapon does not fire before the tick changes. -/
theorem lt_of_mem_shotTicks (hused : w.mount.used = true)
    (hticks : (now :: ps.map (·.tick)).Pairwise (· ≤ ·)) :
    ∀ tick ∈ w.shotTicks now ps, now < tick := by
  induction ps generalizing w now with
  | nil => exact List.forall_mem_nil _
  | cons p rest ih =>
    rw [List.map_cons, List.pairwise_cons] at hticks
    obtain ⟨hnow, hrest⟩ := hticks
    rcases (hnow p.tick List.mem_cons_self).eq_or_lt with rfl | hlt
    · rw [shotTicks_of_not_isShot (isShot_attempt_of_used hused rfl)]
      exact ih (Trial.mount_after _) hrest
    · intro tick htick
      have hmem : tick ∈ p.tick :: rest.map (·.tick) := (shotTicks_sublist _ _ _).subset htick
      rcases List.mem_cons.mp hmem with rfl | hlater
      · exact hlt
      · exact hlt.trans_le (List.rel_of_pairwise_cons hrest hlater)

/-- A weapon that has fired does not fire again before it is ready, whatever is tried meanwhile. -/
theorem readyAt_le_of_mem_shotTicks (hshot : w.lastShot = some shot)
    (hticks : (ps.map (·.tick)).Pairwise (· ≤ ·)) :
    ∀ tick ∈ w.shotTicks now ps, w.readyAt shot ≤ tick := by
  induction ps generalizing w now with
  | nil => exact List.forall_mem_nil _
  | cons p rest ih =>
    rw [List.map_cons] at hticks
    rcases w.attempt_cases now p with ⟨hfail, hlast, -⟩ | ⟨-, -, -, hready⟩
    · rw [shotTicks_of_not_isShot hfail, ← readyAt_attempt]
      exact ih (hlast.trans hshot) hticks.of_cons
    · -- the next shot is late enough, and others are later
      intro tick htick
      have hmem : tick ∈ p.tick :: rest.map (·.tick) := (shotTicks_sublist _ _ _).subset htick
      rcases List.mem_cons.mp hmem with rfl | hlater
      · exact hready shot hshot
      · exact (hready shot hshot).trans (List.rel_of_pairwise_cons hticks hlater)

theorem pairwise_shotTicks (hticks : (ps.map (·.tick)).Pairwise (· ≤ ·)) :
    (w.shotTicks now ps).Pairwise fun a b => a < b ∧ w.readyAt a ≤ b := by
  induction ps generalizing w now with
  | nil => exact .nil
  | cons p rest ih =>
    rw [List.map_cons] at hticks
    have hrest := @ih (w.attempt now p).after p.tick hticks.of_cons
    simp only [readyAt_attempt] at hrest
    rcases w.attempt_cases now p with ⟨hfail, -⟩ | ⟨hfired, hlast, -⟩
    · rwa [shotTicks_of_not_isShot hfail]
    · -- the mount keeps later shots out of this tick, and the cooldown keeps them away from it
      rw [shotTicks_of_isShot hfired]
      refine List.pairwise_cons.mpr ⟨fun tick htick => ⟨?_, ?_⟩, hrest⟩
      · exact lt_of_mem_shotTicks (w.attempt now p).mount_after hticks tick htick
      · rw [← readyAt_attempt]
        exact readyAt_le_of_mem_shotTicks hlast hticks.of_cons tick htick

/-- Every shot takes a round, and nothing else does. -/
theorem ammo_tried (now : Nat) (ps : List (Pull α)) (w : Weapon α) :
    (w.tried now ps).ammo + (w.shotTicks now ps).length = w.ammo := by
  induction ps generalizing w now with
  | nil => rfl
  | cons p rest ih =>
    have hrest := ih p.tick (w.attempt now p).after
    rw [tried]
    rcases w.attempt_cases now p with ⟨hfail, -, hammo⟩ | ⟨hfired, -, hammo, -⟩
    · rw [shotTicks_of_not_isShot hfail, hrest, hammo]
    · rw [shotTicks_of_isShot hfired, List.length_cons]
      omega

/-- Attempts before a weapon is ready do not delay it. -/
theorem cooldown_tried (hshot : w.lastShot = some shot)
    (hearly : ∀ p ∈ ps, p.tick < w.readyAt shot) :
    (w.tried now ps).lastShot = some shot ∧
      (w.tried now ps).readyAt shot = w.readyAt shot := by
  induction ps generalizing w now with
  | nil => exact ⟨hshot, rfl⟩
  | cons p rest ih =>
    obtain ⟨hp, hrest⟩ := List.forall_mem_cons.mp hearly
    -- no attempt succeeds so early
    rcases w.attempt_cases now p with ⟨-, hlast, -⟩ | ⟨-, -, -, hready⟩
    · have hkept := @ih (w.attempt now p).after p.tick (hlast.trans hshot)
      rw [readyAt_attempt] at hkept
      exact hkept hrest
    · exact absurd hp (hready shot hshot).not_gt

/-- A weapon that is cooling down for another `n` ticks is so in all of them and no longer, and
attempts that come too early make no difference. -/
theorem cooldownRemaining?_tried {t : Trial α} (h : t.result = .error (.coolingDown n))
    (hearly : ∀ p ∈ ps, p.tick < t.pull.tick + n) :
    let v := t.after.tried t.pull.tick ps
    t.pull.tick + n ≤ lastTick ∧
      (∀ tick, t.pull.tick ≤ tick → tick < t.pull.tick + n →
        v.cooldownRemaining? tick = some (t.pull.tick + n - tick)) ∧
      v.cooldownRemaining? (t.pull.tick + n) = none := by
  intro v
  rcases t.outcome with ⟨-, hafter, hcool⟩ | ⟨hfired, -⟩
  · obtain ⟨shot, hshot, hready⟩ := exists_lastShot (hcool n h)
    have hlast : t.after.lastShot = some shot := by
      rw [hafter]
      exact hshot
    have hsame : t.after.readyAt shot = t.pull.tick + n := by
      rw [hafter, hready]
      rfl
    obtain ⟨hkept, htime⟩ := cooldown_tried hlast (by rwa [hsame])
    rw [hsame] at htime
    refine ⟨hready ▸ Nat.min_le_left _ _, fun tick _ hlt => ?_, ?_⟩
    · rw [cooldownRemaining?_of_lastShot hkept, htime, if_pos hlt]
    · rw [cooldownRemaining?_of_lastShot hkept, htime, if_neg (lt_irrefl _)]
  · rw [Trial.isShot, h] at hfired
    cases hfired

/-- How fast a weapon can fire. Whatever is tried, in ticks that do not decrease and with the mount
released whenever the tick changes, two shots are never in one tick and never closer than the
cooldown, as far as there are ticks; each of them takes a round, and there are no more shots than
rounds. An attempt that finds a weapon cooling down for another `n` ticks finds it so in each of
them and ready after the last, which is a tick yet, whatever else is tried too early. And a weapon
that is ready, loaded and aimed always fires if there is the energy for it. -/
theorem paced_trials (w : Weapon α) (now : Nat) {ps : List (Pull α)}
    (hticks : (ps.map (·.tick)).Pairwise (· ≤ ·)) :
    let shots := w.shotTicks now ps
    (shots.Pairwise fun t₁ t₂ => t₁ < t₂ ∧ Nat.min lastTick (t₁ + w.cooldownTicks) ≤ t₂) ∧
      shots.length ≤ w.ammo ∧ (w.tried now ps).ammo = w.ammo - shots.length ∧
      (∀ (t : Trial α) (n : Nat), t.result = .error (.coolingDown n) → ∀ early : List (Pull α),
        (∀ p ∈ early, p.tick < t.pull.tick + n) →
        let v := t.after.tried t.pull.tick early
        t.pull.tick + n ≤ lastTick ∧
          (∀ tick, t.pull.tick ≤ tick → tick < t.pull.tick + n →
            v.cooldownRemaining? tick = some (t.pull.tick + n - tick)) ∧
          v.cooldownRemaining? (t.pull.tick + n) = none) ∧
      (∀ [Scalar.Solvent α] (t : Trial α),
        t.weapon.mount.used = false → t.weapon.ammo ≠ 0 →
        t.pull.direction.direction?.isSome = true →
        t.weapon.cooldownRemaining? t.pull.tick = none → 0.0 ≤ t.weapon.energy →
        t.weapon.energy ≤ t.pull.hull.energy → t.isShot = true) := by
  intro shots
  have hammo : (w.tried now ps).ammo + shots.length = w.ammo := ammo_tried now ps w
  refine ⟨pairwise_shotTicks hticks, by omega, by omega, fun t _ hcool early hearly => ?_, ?_⟩
  · exact cooldownRemaining?_tried hcool hearly
  · intro _ t hfree hloaded haimed hready hcost henergy
    obtain ⟨unit, hunit⟩ := Option.isSome_iff_exists.mp haimed
    have hpaid := Scalar.Solvent.not_sub_lt_zero _ _ hcost henergy
    rw [Trial.isShot, Trial.result, fire_eq_ok hfree hunit hloaded hready hpaid]
    rfl

end Weapon

/-- A gun that needs two ticks between its shots and has two rounds, tried in three ticks. It fires
in the first of them, and is ready again in the last. -/
theorem Weapon.paced_trials_of_popgun :
    let mount : Mount Exact := ⟨.zero, .real 1, .real 1, .real 1, false⟩
    let gun : Weapon Exact :=
      ⟨mount, .real 0, .real 1, .real 1, .real 1, 2, .real 2, 2, none⟩
    let hull : Hull Exact :=
      ⟨⟨1, .zero, .zero, .real 1, .real 9, .real 9⟩, "red", .real 1, .real 0, .real 0⟩
    let first : Pull Exact := ⟨0, hull, .unitX⟩
    let pulls := [first, ⟨1, hull, .unitX⟩, ⟨2, hull, .unitX⟩]
    let shots := gun.shotTicks 0 pulls
    0 ∈ shots ∧ (shots.Pairwise fun t₁ t₂ => t₁ < t₂ ∧ Nat.min lastTick (t₁ + 2) ≤ t₂) ∧
      shots.length ≤ 2 := by
  intro mount gun hull first pulls shots
  have hticks : (pulls.map (·.tick)).Pairwise (· ≤ ·) :=
    show ([0, 1, 2] : List Nat).Pairwise (· ≤ ·) by decide
  obtain ⟨hpaced, hrounds, -, -, hfires⟩ := gun.paced_trials 0 hticks
  have hfirst : (gun.attempt 0 first).isShot = true := by
    have haimed : (Vec3.unitX : Vec3 Exact).direction?.isSome = true := by
      rw [Vec3.direction?_unitX, Option.isSome_some]
    have hfree : (0.0 : Exact) ≤ .real 0 := by rw [Exact.zero_eq, Exact.real_le]
    exact hfires _ rfl (by decide) haimed rfl hfree (le_refl (0 : ℝ))
  refine ⟨?_, hpaced, hrounds⟩
  rw [show shots = 0 :: _ from shotTicks_of_isShot hfirst]
  exact List.mem_cons_self

end FleetArena
