import Mathlib.Tactic.LinearCombination
import Slideshow.Proofs.Number.Grid

/-!
# Rounded differences

Taking a small number off a large one makes the large one smaller, unless the small one is lost in
rounding. How often the small one fits into the large one tells the two cases apart.

## Main statements

* `Binary64.rounded_sub_lt`: up to 2 ^ 53 times, and the difference is smaller.
* `Binary64.rounded_sub_le`: then it is smaller by two thirds of what was taken off.
* `Binary64.rounded_sub_eq`: 2 ^ 54 times or more, and the difference is the large number again.
-/

namespace Slideshow.Binary64

variable {x y : Rat}

/-- A number on the grid is a whole number of its units. -/
theorem exists_eq_mul_unit (hx : rounded x = x) : ∃ n : Int, x = n * unit x :=
  ⟨_, hx.symm⟩

/-- A positive number of units is one unit at least. -/
theorem unit_le_mul {n : Int} (h : 0 < n * unit x) : unit x ≤ n * unit x := by
  have hpos : (0 : Rat) < n := (mul_pos_iff_of_pos_right (unit_pos x)).mp h
  have hone : (1 : Rat) ≤ n := by exact_mod_cast hpos
  calc unit x = 1 * unit x := (one_mul _).symm
    _ ≤ n * unit x := mul_le_mul_of_nonneg_right hone (unit_pos x).le

theorem abs_sub_le_abs (hpos : 0 < y) (hlt : y < x) : |x - y| ≤ |x| :=
  abs_le_abs_of_nonneg (sub_pos.mpr hlt).le (sub_le_self x hpos.le)

theorem rounded_sub_lt (hy : rounded y = y) (hpos : 0 < y) (hlt : y < x) (h : x ≤ 2 ^ 53 * y) :
    rounded (x - y) < x := by
  have hround := (abs_le.mp (abs_rounded_sub_le (x - y))).2
  have hhalf : unit (x - y) / 2 < y := by
    by_cases hfinest : exponent (x - y) = -1074
    · have hle : unit (x - y) ≤ unit y := by
        rw [unit, unit, hfinest]
        exact zpow_le_zpow_right₀ (by norm_num) (le_exponent y)
      obtain ⟨n, hn⟩ := exists_eq_mul_unit hy
      have hone : unit y ≤ y := (unit_le_mul (hn ▸ hpos)).trans_eq hn.symm
      have := unit_pos (x - y)
      linarith
    · have hle := mul_unit_le ((le_exponent (x - y)).lt_of_ne' hfinest)
      rw [abs_of_pos (sub_pos.mpr hlt)] at hle
      linarith
  linarith

theorem rounded_sub_le (hx : rounded x = x) (hpos : 0 < y) (hlt : y < x)
    (h : rounded (x - y) < x) : rounded (x - y) ≤ x - 2 / 3 * y := by
  have hround := (abs_le.mp (abs_rounded_sub_le (x - y))).2
  obtain ⟨k, hk⟩ := exists_eq_mul_unit hx
  obtain ⟨n, hn⟩ := unit_dvd (abs_sub_le_abs hpos hlt)
  -- The number and the difference are whole units apart, so they are one unit apart at least.
  have hapart : x - rounded (x - y) =
      ((k * n - Rounding.nearest ((x - y) / unit (x - y)) : Int) : Rat) * unit (x - y) := by
    rw [rounded]
    push_cast
    linear_combination hk + k * hn
  have hone : unit (x - y) ≤ x - rounded (x - y) := by
    rw [← sub_pos, hapart] at h
    rw [hapart]
    exact unit_le_mul h
  linarith

/-- What is taken off is lost if it is less than half a unit, or half a unit next to an even one. -/
theorem rounded_sub_eq_of_le {k : Int} (hk : x = k * unit (x - y)) (hpos : 0 < y)
    (h : y < unit (x - y) / 2 ∨ y ≤ unit (x - y) / 2 ∧ k % 2 = 0) : rounded (x - y) = x := by
  have hunit := unit_pos (x - y)
  have hquotient : (x - y) / unit (x - y) = k - y / unit (x - y) := by
    rw [sub_div]
    congr 1
    rw [div_eq_iff hunit.ne']
    exact hk
  have habs : |k - y / unit (x - y) - k| = y / unit (x - y) := by
    rw [sub_sub_cancel_left, abs_neg, abs_of_pos (div_pos hpos hunit)]
  have hnear : Rounding.Near ((x - y) / unit (x - y)) k := by
    rw [hquotient, Rounding.Near, habs, div_lt_iff₀ hunit, div_eq_iff hunit.ne']
    obtain h | ⟨h, heven⟩ := h
    · exact .inl (by linarith)
    · obtain h | h := h.lt_or_eq
      · exact .inl (by linarith)
      · exact .inr ⟨by linarith, heven⟩
  rw [rounded, Rounding.nearest_eq_iff.mpr hnear, ← hk]

theorem rounded_sub_eq (hx : rounded x = x) (hpos : 0 < y) (h : 2 ^ 54 * y ≤ x) :
    rounded (x - y) = x := by
  have hlt : y < x := by linarith
  have hx' := abs_lt_mul_unit x
  rw [abs_of_pos (hpos.trans hlt)] at hx'
  obtain ⟨k, hk⟩ := exists_eq_mul_unit hx
  obtain heq | hlower := (exponent_mono (abs_sub_le_abs hpos hlt)).eq_or_lt
  · have hunit : unit (x - y) = unit x := by rw [unit, heq, unit]
    exact rounded_sub_eq_of_le (hunit ▸ hk) hpos (.inl (by rw [hunit]; linarith))
  · -- The difference lies below a power of two, and the number does not: it is that power.
    have hfull := mul_unit_le ((le_exponent (x - y)).trans_lt hlower)
    rw [abs_of_pos (hpos.trans hlt)] at hfull
    have hbelow := abs_lt_mul_unit (x - y)
    rw [abs_of_pos (sub_pos.mpr hlt)] at hbelow
    have hstep : unit (x - y) * 2 ≤ unit x := by
      rw [unit, unit, ← zpow_add_one₀ (by norm_num)]
      exact zpow_le_zpow_right₀ (by norm_num) (by omega)
    have hunit := unit_pos x
    have hpower : x = 2 ^ 52 * unit x := by
      have hle : (k : Rat) < (2 ^ 52 : Int) + 1 := by
        refine lt_of_mul_lt_mul_right ?_ hunit.le
        rw [← hk]
        push_cast
        linarith
      have hge : ((2 ^ 52 : Int) : Rat) ≤ k := by
        refine le_of_mul_le_mul_right ?_ hunit
        rw [← hk]
        exact_mod_cast hfull
      norm_cast at hle hge
      have hcount : k = 2 ^ 52 := by omega
      rw [hcount] at hk
      exact_mod_cast hk
    have hhalf : unit x ≤ unit (x - y) * 2 := by
      have hpred : (2 : Rat) ^ (exponent x - 1) * 2 = unit x := by
        rw [unit, ← zpow_add_one₀ (by norm_num), sub_add_cancel]
      have hle : exponent x - 1 ≤ exponent (x - y) := by
        apply le_exponent_of_le
        rw [abs_of_pos (sub_pos.mpr hlt)]
        linarith
      rw [unit, unit, ← zpow_add_one₀ (by norm_num)]
      exact zpow_le_zpow_right₀ (by norm_num) (by omega)
    refine rounded_sub_eq_of_le (k := 2 ^ 53) ?_ hpos (.inr ⟨by linarith, by norm_num⟩)
    push_cast
    linarith

end Slideshow.Binary64
