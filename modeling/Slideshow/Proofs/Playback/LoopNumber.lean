import Mathlib.Algebra.Order.Ring.Rat
import Mathlib.Tactic.Linarith
import Mathlib.Tactic.Ring
import Slideshow.Playback.Loop

/-!
# Loop numbers

Folding a time takes whole loops off it. Over exact numbers the loops that are taken off can be
counted by one division, and the time that is left is the elapsed time without them. The end of a
loop belongs to it, so the count goes up just behind a multiple of the period.

## Main definitions

* `Loop.number`: how many loops are over before a time.

## Main statements

* `Loop.number_eq_iff`: the loop that a time lies in.
* `Loop.wrap_eq`: the folded time is the elapsed time without the loops that are over.
* `Loop.wrap_mem`: it lies within one loop.
-/

namespace Slideshow.Loop

variable {period time time' : Rat}

/-- How many loops of length `period` are over before `elapsed`. A loop is not over at its end. -/
def number (period elapsed : Rat) : Int :=
  if elapsed ≤ period then 0 else (elapsed / period).ceil - 1

theorem number_of_le (h : time ≤ period) : number period time = 0 :=
  if_pos h

theorem number_nonneg (hperiod : 0 < period) (time : Rat) : 0 ≤ number period time := by
  unfold number
  split
  · exact le_rfl
  · next h =>
    have hone : (1 : Int) < (time / period).ceil := by
      rw [Rat.lt_ceil_iff, Int.cast_one, lt_div_iff₀ hperiod, one_mul]
      exact not_le.mp h
    omega

theorem le_number_add_one_mul (hperiod : 0 < period) (time : Rat) :
    time ≤ (number period time + 1) * period := by
  unfold number
  split
  · simpa using ‹time ≤ period›
  · have hceil : time / period ≤ (time / period).ceil := Rat.le_ceil
    rw [div_le_iff₀ hperiod] at hceil
    simpa using hceil

theorem number_mul_lt (hperiod : 0 < period) (h : period < time) :
    number period time * period < time := by
  have hceil : ((time / period).ceil : Rat) < time / period + 1 := Rat.ceil_lt
  rw [number, if_neg (not_le.mpr h), Int.cast_sub, Int.cast_one, ← lt_div_iff₀ hperiod]
  linarith

theorem number_mul_le (hperiod : 0 < period) (h : 0 ≤ time) :
    number period time * period ≤ time := by
  obtain hle | hlt := le_or_gt time period
  · simpa [number_of_le hle] using h
  · exact (number_mul_lt hperiod hlt).le

/-- A time behind the beginning lies in loop `n` if it is later than `n` periods and no later than
one more. -/
theorem number_eq_iff (hperiod : 0 < period) (htime : 0 < time) {n : Int} :
    number period time = n ↔ n * period < time ∧ time ≤ (n + 1) * period := by
  have hlower : number period time * period < time := by
    obtain hle | hlt := le_or_gt time period
    · simpa [number_of_le hle] using htime
    · exact number_mul_lt hperiod hlt
  have hupper := le_number_add_one_mul hperiod time
  constructor
  · rintro rfl
    exact ⟨hlower, hupper⟩
  · rintro ⟨hn, hn'⟩
    -- Both loops hold the time, so neither is over before the other one begins.
    have hle : ((number period time : Rat)) < n + 1 :=
      lt_of_mul_lt_mul_right (hlower.trans_le hn') hperiod.le
    have hge : (n : Rat) < number period time + 1 :=
      lt_of_mul_lt_mul_right (hn.trans_le hupper) hperiod.le
    norm_cast at hle hge
    omega

theorem number_mono (hperiod : 0 < period) (h : time ≤ time') :
    number period time ≤ number period time' := by
  obtain hle | hlt := le_or_gt time period
  · rw [number_of_le hle]
    exact number_nonneg hperiod time'
  · have hlower := number_mul_lt hperiod hlt
    have hupper := le_number_add_one_mul hperiod time'
    have hcast : (number period time : Rat) < number period time' + 1 :=
      lt_of_mul_lt_mul_right (hlower.trans_le (h.trans hupper)) hperiod.le
    norm_cast at hcast
    omega

/-- One loop more is over when one period more has passed. -/
theorem number_sub_period (hperiod : 0 < period) (h : period < time) :
    number period (time - period) = number period time - 1 := by
  have hlower := number_mul_lt hperiod h
  have hupper := le_number_add_one_mul hperiod time
  rw [number_eq_iff hperiod (sub_pos.mpr h)]
  push_cast
  constructor <;> linarith

/-! ### Folding -/

/-- Enough passes take off all the loops that are over. -/
theorem fold_eq (hperiod : 0 < period) {passes : Nat} (h : time ≤ (passes + 1) * period) :
    fold period passes time = time - number period time * period := by
  induction passes generalizing time with
  | zero =>
    have hle : time ≤ period := by simpa using h
    simp [fold, number_of_le hle]
  | succ passes ih =>
    rw [fold]
    split
    · next hlt =>
      -- The period that is taken off here is one of the loops that are over.
      have hpasses : time - period ≤ (passes + 1) * period := by
        push_cast at h
        linarith
      rw [ih hpasses, number_sub_period hperiod hlt]
      push_cast
      ring
    · next hle => simp [number_of_le (not_lt.mp hle)]

/-- The passes that are allowed for are enough. -/
theorem le_passBound_mul (hperiod : 0 < period) (time : Rat) :
    time ≤ (passBound time period + 1) * period := by
  have hceil : time / period ≤ (time / period).ceil := Rat.le_ceil
  have hbound : ((time / period).ceil : Rat) ≤ passBound time period + 1 := by
    have hnat : (time / period).ceil ≤ (passBound time period : Int) + 1 := by
      show (time / period).ceil ≤ ((2 * (time / period).ceil.toNat + 2 : Nat) : Int) + 1
      omega
    exact_mod_cast hnat
  rw [← div_le_iff₀ hperiod]
  exact hceil.trans hbound

/-- What is left of a time is the time without the loops that are over. -/
theorem wrap_eq (hperiod : 0 < period) (time : Rat) :
    wrap time period = time - number period time * period := by
  rw [wrap, if_neg (not_le.mpr hperiod)]
  exact fold_eq hperiod (le_passBound_mul hperiod time)

/-- What is left of a time lies within one loop, the end included. -/
theorem wrap_mem (hperiod : 0 < period) (h : 0 ≤ time) :
    0 ≤ wrap time period ∧ wrap time period ≤ period := by
  have hlower := number_mul_le hperiod h
  have hupper := le_number_add_one_mul hperiod time
  rw [wrap_eq hperiod]
  constructor <;> linarith

/-- The end of the second loop belongs to it. -/
example : number 5 10 = 1 ∧ wrap (10 : Rat) 5 = 5 := by decide +kernel

end Slideshow.Loop
