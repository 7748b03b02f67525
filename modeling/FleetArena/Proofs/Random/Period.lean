import FleetArena.Random
import Mathlib.Data.UInt
import Mathlib.Dynamics.PeriodicPts.Lemmas
import Mathlib.Tactic.LinearCombination
import Mathlib.Tactic.Ring

/-! The period of the random generator. An odd increment takes it through all of its states before
one comes back, and there are no more than `2 ^ 32` states for each word of output. -/
namespace FleetArena.Pcg
open scoped UInt64.CommRing
open Function

attribute [ext] Pcg

section
variable {g : Pcg}

/-- The increment is odd, which gives the congruence its full period. -/
def IsOdd (g : Pcg) : Prop :=
  ∃ s, g.increment = 2 * s + 1

theorem increment_iterate (n : ℕ) : (step^[n] g).increment = g.increment := by
  induction n generalizing g with
  | zero => rfl
  | succ n ih => rw [Function.iterate_succ_apply, ih, step]

theorem IsOdd.iterate (h : g.IsOdd) (n : ℕ) : (step^[n] g).IsOdd := by
  rw [IsOdd, increment_iterate]
  exact h

theorem isOdd_ofSeed (seed : UInt64) : (ofSeed seed).IsOdd := by
  have hodd (x : UInt64) : ∃ s, x ||| 1 = 2 * s + 1 := by
    have hmod : (x ||| 1) % 2 = 1 := by
      apply UInt64.toNat_inj.mp
      simp
    exact ⟨(x ||| 1) / 2, by grind⟩
  exact hodd _

/-- What a number of steps that is a power of two makes of every state. -/
theorem exists_iterate_two_pow {increment : UInt64} (h : ∃ s, increment = 2 * s + 1) (k : ℕ) :
    ∃ t s : UInt64, ∀ x, step^[2 ^ k] ⟨x, increment⟩ =
      ⟨(1 + 2 ^ (k + 2) * t) * x + 2 ^ k * (2 * s + 1), increment⟩ := by
  induction k with
  | zero =>
    obtain ⟨s, hs⟩ := h
    have hmultiplier : multiplier = 1 + 2 ^ (0 + 2) * (multiplier / 4) := by decide +kernel
    refine ⟨multiplier / 4, s, fun x => ?_⟩
    rw [← hmultiplier, ← hs, pow_zero, pow_zero, one_mul, mul_comm]
    rfl
  | succ k ih =>
    -- twice as many steps square the factor, which stays one more than a multiple of a higher power
    obtain ⟨t, s, hstep⟩ := ih
    refine ⟨t + 2 ^ (k + 1) * t * t, s + 2 ^ k * t * (2 * s + 1), fun x => ?_⟩
    rw [pow_succ, mul_two, Function.iterate_add_apply, hstep, hstep]
    congr 1
    ring

/-- The generator passes through all of its states before one comes back. -/
theorem IsOdd.minimalPeriod_step (h : g.IsOdd) : minimalPeriod step g = 2 ^ 64 := by
  have : Fact (Nat.Prime 2) := ⟨Nat.prime_two⟩
  have hzero : (2 : UInt64) ^ 64 = 0 := by decide +kernel
  have hhalf : (2 : UInt64) ^ 63 ≠ 0 := by decide +kernel
  apply minimalPeriod_eq_prime_pow
  · -- half a period later the state is the same but for the highest bit
    obtain ⟨t, s, hstep⟩ := exists_iterate_two_pow h 63
    have hstate : (step^[2 ^ 63] g).state = g.state + 2 ^ 63 := by
      rw [hstep]
      show (1 + 2 ^ 65 * t) * g.state + 2 ^ 63 * (2 * s + 1) = _
      linear_combination (2 * t * g.state + s) * hzero
    intro hback
    rw [hback.eq] at hstate
    exact hhalf (left_eq_add.mp hstate)
  · obtain ⟨t, s, hstep⟩ := exists_iterate_two_pow h 64
    have hstate : (1 + 2 ^ (64 + 2) * t) * g.state + 2 ^ 64 * (2 * s + 1) = g.state := by
      linear_combination (4 * t * g.state + 2 * s + 1) * hzero
    rw [IsPeriodicPt, IsFixedPt, hstep, hstate]

/-- Within a period all states are different. -/
theorem IsOdd.injOn_state (h : g.IsOdd) :
    Set.InjOn (fun n => (step^[n] g).state) (Set.Iio (2 ^ 64)) := by
  intro m hm n hn hstate
  have hincrement : (step^[m] g).increment = (step^[n] g).increment := by
    rw [increment_iterate, increment_iterate]
  rw [← h.minimalPeriod_step] at hm hn
  exact iterate_injOn_Iio_minimalPeriod hm hn (Pcg.ext hstate hincrement)

end

/-- The bits of a state that the output turns. -/
def word (x : UInt64) : UInt32 :=
  (((x >>> 18) ^^^ x) >>> 27).toUInt32

/-- How far the output turns them. -/
def turn (x : UInt64) : UInt32 :=
  (x >>> 59).toUInt32

section
variable {x : UInt64} {j : ℕ}

theorem toNat_turn : (turn x).toNat = x.toNat / 2 ^ 59 := by
  have hlt := x.toNat_lt
  rw [turn, UInt64.toNat_toUInt32, UInt64.toNat_shiftRight]
  show x.toNat >>> 59 % 2 ^ 32 = _
  rw [Nat.shiftRight_eq_div_pow]
  omega

theorem toNat_turn_lt (x : UInt64) : (turn x).toNat < 32 := by
  have hlt := x.toNat_lt
  rw [toNat_turn]
  omega

theorem testBit_word (hj : j < 32) :
    (word x).toNat.testBit j = (x.toNat.testBit (j + 45) ^^ x.toNat.testBit (j + 27)) := by
  rw [word, UInt64.toNat_toUInt32, UInt64.toNat_shiftRight, UInt64.toNat_xor,
    UInt64.toNat_shiftRight]
  show ((x.toNat >>> 18 ^^^ x.toNat) >>> 27 % 2 ^ 32).testBit j = _
  simp only [Nat.testBit_mod_two_pow, hj, decide_true, Bool.true_and, Nat.testBit_shiftRight,
    Nat.testBit_xor]
  rw [show 18 + (27 + j) = j + 45 by omega, Nat.add_comm 27 j]

theorem testBit_output (hj : j < 32) : (output x).toNat.testBit j =
    (word x).toNat.testBit ((j + (turn x).toNat) % 32) := by
  have hturn := toNat_turn_lt x
  have hback : ((32 - turn x) &&& 31).toNat = (32 - (turn x).toNat) % 32 := by
    have hall : ∀ t < 32, ((32 - UInt32.ofNat t) &&& 31).toNat = (32 - t) % 32 := by decide
    have h := hall _ hturn
    rwa [UInt32.ofNat_toNat] at h
  have hword (i : ℕ) (hi : 32 ≤ i) : (word x).toNat.testBit i = false :=
    Nat.testBit_lt_two_pow ((word x).toNat_lt.trans_le (Nat.pow_le_pow_right two_pos hi))
  have hout : output x = (word x >>> turn x) ||| (word x <<< ((32 - turn x) &&& 31)) := rfl
  rw [hout, UInt32.toNat_or, UInt32.toNat_shiftRight, UInt32.toNat_shiftLeft, hback,
    Nat.mod_eq_of_lt hturn, Nat.mod_mod, Nat.testBit_or, Nat.testBit_shiftRight,
    Nat.testBit_mod_two_pow, Nat.testBit_shiftLeft]
  -- a bit comes from the shift to the right as long as its place is in the word, and then from the
  -- other shift
  generalize (turn x).toNat = t at hturn ⊢
  rcases lt_or_ge (j + t) 32 with hlow | hhigh
  · rw [Nat.mod_eq_of_lt hlow, Nat.add_comm t j]
    rcases Nat.eq_zero_or_pos t with rfl | hpos
    · simp [hj]
    · have hsh : (32 - t) % 32 = 32 - t := Nat.mod_eq_of_lt (by omega)
      have hover : ¬32 - t ≤ j := by omega
      simp [hsh, hover]
  · have hsh : (32 - t) % 32 = 32 - t := Nat.mod_eq_of_lt (by omega)
    have hle : 32 - t ≤ j := by omega
    have hmod : (j + t) % 32 = j - (32 - t) := by omega
    simp [hword _ (Nat.add_comm t j ▸ hhigh), hsh, hle, hmod, hj]

/-- A state is determined by its output, by how far this was turned and by the low bits. -/
theorem state_ext {y : UInt64} (hout : output x = output y) (hturn : turn x = turn y)
    (hlow : x.toNat % 2 ^ 27 = y.toNat % 2 ^ 27) : x = y := by
  have hword (i : ℕ) (hi : i < 32) : (word x).toNat.testBit i = (word y).toNat.testBit i := by
    have hlt : (turn y).toNat < 32 := toNat_turn_lt y
    let j := (i + 32 - (turn y).toNat) % 32
    have hj : j < 32 := Nat.mod_lt _ (by omega)
    have hplace : (j + (turn y).toNat) % 32 = i := by omega
    have hbit := testBit_output (x := x) hj
    rw [hout, testBit_output hj, hturn, hplace] at hbit
    exact hbit.symm
  have hturned (i : ℕ) (hi : 59 ≤ i) : x.toNat.testBit i = y.toNat.testBit i := by
    have hbits := congrArg (fun t : UInt32 => t.toNat.testBit (i - 59)) hturn
    simp only [toNat_turn, Nat.testBit_div_two_pow] at hbits
    rwa [Nat.sub_add_cancel hi] at hbits
  -- from the highest bit down, as a bit of the word is the sum of a bit and of a higher one
  have hhigh (n : ℕ) : ∀ i, 27 ≤ i → 64 ≤ i + n → x.toNat.testBit i = y.toNat.testBit i := by
    induction n with
    | zero => exact fun i _ hi => hturned i (by omega)
    | succ n ih =>
      intro i hi hn
      rcases le_or_gt 59 i with hturn | hlt
      · exact hturned i hturn
      have hbit := hword (i - 27) (by omega)
      rw [testBit_word (by omega), testBit_word (by omega), Nat.sub_add_cancel hi,
        ih (i - 27 + 45) (by omega) (by omega)] at hbit
      exact Bool.xor_right_inj.mp hbit
  apply UInt64.toNat_inj.mp
  apply Nat.eq_of_testBit_eq
  intro i
  rcases le_or_gt 27 i with hi | hi
  · exact hhigh 64 i hi (by omega)
  · have hbits := congrArg (·.testBit i) hlow
    simpa only [Nat.testBit_mod_two_pow, hi, decide_true, Bool.true_and] using hbits

/-- Every word is the output of few states. -/
theorem card_le_of_output {states : Finset UInt64} {w : UInt32} (h : ∀ x ∈ states, output x = w) :
    states.card ≤ 2 ^ 32 := by
  -- what a state is told apart by, the turn above the low bits
  let place (x : UInt64) : ℕ := (turn x).toNat * 2 ^ 27 + x.toNat % 2 ^ 27
  have hmaps : Set.MapsTo place states (Finset.range (2 ^ 32)) := by
    intro x _
    have hlt := toNat_turn_lt x
    simp only [Finset.coe_range, Set.mem_Iio, place]
    omega
  have hinj : Set.InjOn place states := by
    intro x hx y hy hplace
    simp only [place] at hplace
    have hturn : turn x = turn y := UInt32.toNat_inj.mp (by omega)
    exact state_ext ((h x hx).trans (h y hy).symm) hturn (by omega)
  simpa only [Finset.card_range] using Finset.card_le_card_of_injOn place hmaps hinj

end

/-- The generator answers with a word at no more than `2 ^ 32` times of a period. -/
theorem IsOdd.card_le_of_output {g : Pcg} (h : g.IsOdd) {times : Finset ℕ} {w : UInt32}
    (htimes : ∀ n ∈ times, n < 2 ^ 64) (hw : ∀ n ∈ times, output (step^[n] g).state = w) :
    times.card ≤ 2 ^ 32 := by
  have hinj : Set.InjOn (fun n => (step^[n] g).state) times := h.injOn_state.mono htimes
  rw [← Finset.card_image_of_injOn hinj]
  apply Pcg.card_le_of_output
  exact Finset.forall_mem_image.mpr hw

end FleetArena.Pcg
