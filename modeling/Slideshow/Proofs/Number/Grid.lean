import Mathlib.Data.Int.Log
import Mathlib.Tactic.FieldSimp
import Mathlib.Tactic.GCongr
import Mathlib.Tactic.NormNum
import Mathlib.Tactic.Positivity
import Mathlib.Tactic.Ring
import Slideshow.Number.Binary64
import Slideshow.Proofs.Number.Rounding

/-!
# The grid of binary64 numbers

Near a number the binary64 numbers are the whole multiples of a power of two, which grows with the
number. A result that is none of them becomes the nearest multiple. All of this is about rational
numbers; nothing here ends at the largest binary64 number.

## Main definitions

* `Binary64.exponent`, `Binary64.unit`: the distance of binary64 numbers near a number.
* `Binary64.rounded`: the multiple of it that is nearest.

## Main statements

* `Binary64.unit_dvd`: a coarser grid is part of a finer one.
* `Binary64.abs_rounded_sub_le`: rounding is off by half a unit at most.
* `Binary64.rounded_mono`: rounding keeps the order.
-/

namespace Slideshow.Binary64

variable {x y : Rat}

/-- The exponent of the grid around a number. Below the normal range it stays as it is. -/
def exponent (x : Rat) : Int :=
  if x = 0 then -1074 else max (Int.log 2 |x| - 52) (-1074)

/-- The distance of binary64 numbers around a number. -/
def unit (x : Rat) : Rat :=
  2 ^ exponent x

/-- The binary64 number that a result is rounded to, if there were no largest one. -/
def rounded (x : Rat) : Rat :=
  Rounding.nearest (x / unit x) * unit x

/-! ### The distance -/

theorem unit_pos (x : Rat) : 0 < unit x :=
  zpow_pos (by norm_num) _

theorem le_exponent (x : Rat) : -1074 ≤ exponent x := by
  unfold exponent
  split
  · exact le_rfl
  · exact le_max_right _ _

@[simp] theorem exponent_neg (x : Rat) : exponent (-x) = exponent x := by
  simp [exponent]

@[simp] theorem unit_neg (x : Rat) : unit (-x) = unit x := by
  simp [unit]

/-- A number is less than 2 ^ 53 units. -/
theorem abs_lt_mul_unit (x : Rat) : |x| < 2 ^ 53 * unit x := by
  by_cases hx : x = 0
  · have := unit_pos x
    subst hx
    simpa using this
  · have hlt : |x| < (2 : Rat) ^ (Int.log 2 |x| + 1) := by
      exact_mod_cast Int.lt_zpow_succ_log_self (R := Rat) (b := 2) (by decide) |x|
    refine hlt.trans_le ?_
    rw [unit, exponent, if_neg hx, ← zpow_natCast, ← zpow_add₀ (by norm_num)]
    exact zpow_le_zpow_right₀ (by norm_num) (by push_cast; omega)

/-- Unless the grid is the finest one, a number has 2 ^ 52 units. -/
theorem mul_unit_le (h : -1074 < exponent x) : 2 ^ 52 * unit x ≤ |x| := by
  have hx : x ≠ 0 := by
    rintro rfl
    simp [exponent] at h
  rw [exponent, if_neg hx] at h
  have hlog : exponent x = Int.log 2 |x| - 52 := by
    rw [exponent, if_neg hx]
    omega
  have hle : (2 : Rat) ^ Int.log 2 |x| ≤ |x| := by
    exact_mod_cast Int.zpow_log_le_self (R := Rat) (b := 2) (by decide) (abs_pos.mpr hx)
  refine le_trans (le_of_eq ?_) hle
  rw [unit, hlog, ← zpow_natCast, ← zpow_add₀ (by norm_num)]
  congr 1
  push_cast
  ring

/-- The exponent is the least one at which a number has no more than 53 bits before the point. -/
theorem exponent_le {e : Int} (he : -1074 ≤ e) (h : |x| < 2 ^ 53 * 2 ^ e) : exponent x ≤ e := by
  by_contra hlt
  have hle := mul_unit_le (he.trans_lt (not_le.mp hlt))
  have hstep : (2 : Rat) ^ e * 2 ≤ unit x := by
    rw [← zpow_add_one₀ (by norm_num)]
    exact zpow_le_zpow_right₀ (by norm_num) (by omega)
  linarith

theorem exponent_mono (h : |x| ≤ |y|) : exponent x ≤ exponent y :=
  exponent_le (le_exponent y) (h.trans_lt (abs_lt_mul_unit y))

/-- It is the greatest one at which a number has 53 bits. -/
theorem le_exponent_of_le {e : Int} (h : 2 ^ 52 * 2 ^ e ≤ |x|) : e ≤ exponent x := by
  by_contra hlt
  have hstep : unit x * 2 ≤ (2 : Rat) ^ e := by
    rw [unit, ← zpow_add_one₀ (by norm_num)]
    exact zpow_le_zpow_right₀ (by norm_num) (by omega)
  have := abs_lt_mul_unit x
  linarith

/-- A number has one exponent. -/
theorem exponent_eq {e : Int} (hx : |x| < 2 ^ 53 * 2 ^ e)
    (h : e = -1074 ∨ -1074 ≤ e ∧ 2 ^ 52 * 2 ^ e ≤ |x|) : exponent x = e := by
  refine le_antisymm (exponent_le (h.elim Eq.ge And.left) hx) ?_
  obtain rfl | ⟨_, hle⟩ := h
  · exact le_exponent x
  · exact le_exponent_of_le hle

/-- A power of two that is no finer than the grid is a whole number of units. -/
theorem exists_zpow_eq {e : Int} (h : exponent x ≤ e) : ∃ n : Nat, (2 : Rat) ^ e = n * unit x := by
  obtain ⟨k, rfl⟩ := Int.le.dest h
  refine ⟨2 ^ k, ?_⟩
  rw [unit, zpow_add₀ (by norm_num)]
  push_cast
  rw [zpow_natCast, mul_comm]

/-- The units of a number are whole units of a smaller one. -/
theorem unit_dvd (h : |x| ≤ |y|) : ∃ n : Nat, unit y = n * unit x :=
  exists_zpow_eq (exponent_mono h)

/-! ### Rounding -/

@[simp] theorem rounded_zero : rounded 0 = 0 := by
  have h : Rounding.nearest 0 = 0 := Rounding.nearest_intCast 0
  simp [rounded, h]

@[simp] theorem rounded_neg (x : Rat) : rounded (-x) = -rounded x := by
  rw [rounded, unit_neg, neg_div, Rounding.nearest_neg, rounded]
  push_cast
  ring

/-- Whole units stay as they are. -/
theorem rounded_of_eq_mul {n : Int} (h : x = n * unit x) : rounded x = x := by
  have hdiv : x / unit x = n := by
    rw [div_eq_iff (unit_pos x).ne']
    exact h
  rw [rounded, hdiv, Rounding.nearest_intCast, ← h]

theorem abs_rounded_sub_le (x : Rat) : |rounded x - x| ≤ unit x / 2 := by
  have h := (Rounding.near_nearest (x / unit x)).abs_sub_le
  have hscale : rounded x - x = -(x / unit x - Rounding.nearest (x / unit x)) * unit x := by
    have := (unit_pos x).ne'
    rw [rounded]
    field_simp
    ring
  rw [hscale, abs_mul, abs_neg, abs_of_pos (unit_pos x)]
  have := mul_le_mul_of_nonneg_right h (unit_pos x).le
  linarith

theorem rounded_le_of_le_mul {n : Int} (h : x ≤ n * unit x) : rounded x ≤ n * unit x := by
  have hdiv : x / unit x ≤ n := (div_le_iff₀ (unit_pos x)).mpr h
  exact mul_le_mul_of_nonneg_right (by exact_mod_cast Rounding.nearest_le_of_le hdiv)
    (unit_pos x).le

theorem le_rounded_of_mul_le {n : Int} (h : n * unit x ≤ x) : n * unit x ≤ rounded x := by
  have hdiv : n ≤ x / unit x := (le_div_iff₀ (unit_pos x)).mpr h
  exact mul_le_mul_of_nonneg_right (by exact_mod_cast Rounding.le_nearest_of_le hdiv)
    (unit_pos x).le

theorem rounded_nonneg (h : 0 ≤ x) : 0 ≤ rounded x := by
  simpa using le_rounded_of_mul_le (x := x) (n := 0) (by simpa using h)

theorem rounded_mono_of_nonneg (hx : 0 ≤ x) (h : x ≤ y) : rounded x ≤ rounded y := by
  have habs : |x| ≤ |y| := abs_le_abs_of_nonneg hx h
  obtain heq | hlt := (exponent_mono habs).eq_or_lt
  · have hunit : unit x = unit y := by rw [unit, heq, unit]
    rw [rounded, rounded, ← hunit]
    refine mul_le_mul_of_nonneg_right ?_ (unit_pos x).le
    exact_mod_cast Rounding.nearest_mono (div_le_div_of_nonneg_right h (unit_pos x).le)
  · -- Between two grids there is a power of two, which belongs to both of them.
    have hy := mul_unit_le ((le_exponent x).trans_lt hlt)
    rw [abs_of_nonneg (hx.trans h)] at hy
    have hle : x ≤ 2 ^ 52 * unit y := by
      have hx' := abs_lt_mul_unit x
      rw [abs_of_nonneg hx] at hx'
      have hstep : unit x * 2 ≤ unit y := by
        rw [unit, unit, ← zpow_add_one₀ (by norm_num)]
        exact zpow_le_zpow_right₀ (by norm_num) (by omega)
      linarith
    obtain ⟨n, hn⟩ := unit_dvd habs
    calc rounded x ≤ ((2 ^ 52 * n : Int) : Rat) * unit x :=
          rounded_le_of_le_mul (by push_cast; rw [mul_assoc, ← hn]; exact hle)
      _ = ((2 ^ 52 : Int) : Rat) * unit y := by
          push_cast
          rw [hn]
          ring
      _ ≤ rounded y := le_rounded_of_mul_le (by push_cast; exact hy)

theorem rounded_mono (h : x ≤ y) : rounded x ≤ rounded y := by
  obtain hx | hx := le_total 0 x
  · exact rounded_mono_of_nonneg hx h
  · obtain hy | hy := le_total 0 y
    · have hx' := rounded_nonneg (neg_nonneg.mpr hx)
      rw [rounded_neg] at hx'
      exact (neg_nonneg.mp hx').trans (rounded_nonneg hy)
    · have h' := rounded_mono_of_nonneg (neg_nonneg.mpr hy) (neg_le_neg h)
      rw [rounded_neg, rounded_neg] at h'
      exact neg_le_neg_iff.mp h'

end Slideshow.Binary64
