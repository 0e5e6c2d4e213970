import Mathlib.Algebra.Order.Ring.Rat
import Mathlib.Data.Rat.Floor
import Mathlib.Tactic.Linarith
import Slideshow.Number.Rounding

/-!
# The nearest integer

The nearest integer is at most half a unit away, and even where two are equally near. That pins it
down: rounding keeps the order, keeps integers as they are, and does not depend on the sign.

## Main definitions

* `Rounding.Near`: an integer next to a number, at its side of the middle.

## Main statements

* `Rounding.near_nearest`, `Rounding.Near.eq`: there is exactly one such integer, the nearest one.
* `Rounding.nearest_mono`, `Rounding.nearest_neg`, `Rounding.nearest_intCast`.
-/

namespace Slideshow.Rounding

variable {r s : Rat} {n k : Int}

/-- `n` is no more than one half away from `r`, and even if it is as much as that. -/
def Near (r : Rat) (n : Int) : Prop :=
  |r - n| < 1 / 2 ∨ |r - n| = 1 / 2 ∧ n % 2 = 0

theorem Near.abs_sub_le (h : Near r n) : |r - n| ≤ 1 / 2 :=
  h.elim le_of_lt fun h => h.1.le

/-- The comparison of a fraction with one half, in whole numbers. -/
theorem twice_lt_den_iff (r : Rat) (low : Int) :
    (2 * (r.num - low * r.den) < (r.den : Int) ↔ r - low < 1 / 2) ∧
      ((r.den : Int) < 2 * (r.num - low * r.den) ↔ 1 / 2 < r - low) := by
  have hden : (0 : Rat) < r.den := by exact_mod_cast r.den_pos
  have hnum : (r.num : Rat) = r * r.den := (Rat.mul_den_eq_num r).symm
  constructor
  · rw [← Int.cast_lt (R := Rat)]
    push_cast
    rw [hnum]
    constructor <;> intro h <;> nlinarith
  · rw [← Int.cast_lt (R := Rat)]
    push_cast
    rw [hnum]
    constructor <;> intro h <;> nlinarith

theorem near_nearest (r : Rat) : Near r (nearest r) := by
  have hfloor : r.num.fdiv r.den = ⌊r⌋ := by
    rw [Rat.floor_def', Int.fdiv_eq_ediv_of_nonneg _ (Int.natCast_nonneg _)]
  have hle := Int.floor_le r
  have hlt := Int.lt_floor_add_one r
  obtain ⟨hlow, hhigh⟩ := twice_lt_den_iff r ⌊r⌋
  unfold nearest nearestQuotient Near
  rw [hfloor]
  dsimp only
  split_ifs with h h' heven
  · left
    rw [abs_of_nonneg (sub_nonneg.mpr hle)]
    exact hlow.mp h
  · left
    rw [abs_of_neg (by push_cast; linarith)]
    have := hhigh.mp h'
    push_cast
    linarith
  all_goals
    have hhalf : r - ⌊r⌋ = 1 / 2 :=
      le_antisymm (not_lt.mp (mt hhigh.mpr h')) (not_lt.mp (mt hlow.mpr h))
    right
  · rw [hhalf]
    exact ⟨abs_of_pos (by norm_num), heven⟩
  · have hsub : r - (⌊r⌋ + 1 : Int) = -(1 / 2) := by
      push_cast
      linarith
    rw [hsub]
    exact ⟨by norm_num, by omega⟩

/-- Two integers near a number are the same. -/
theorem Near.eq (h : Near r n) (h' : Near r k) : n = k := by
  have hn := abs_le.mp h.abs_sub_le
  have hk := abs_le.mp h'.abs_sub_le
  have hle : (n : Rat) ≤ k + 1 := by linarith
  have hge : (k : Rat) ≤ n + 1 := by linarith
  norm_cast at hle hge
  -- Otherwise the number lies in the middle of two neighbours, and both are even.
  by_contra hne
  have htie {a b : Int} (ha : Near r a) (hab : b = a + 1) (hb : Near r b) : False := by
    have ha' := abs_le.mp ha.abs_sub_le
    have hb' := abs_le.mp hb.abs_sub_le
    subst hab
    push_cast at hb'
    have hmiddle : r = a + 1 / 2 := by linarith
    unfold Near at ha hb
    rw [hmiddle] at ha hb
    push_cast at hb
    norm_num at ha hb
    omega
  obtain hlt | hlt := lt_or_gt_of_ne hne
  · exact htie h (by omega) h'
  · exact htie h' (by omega) h

theorem nearest_eq_iff : nearest r = n ↔ Near r n :=
  ⟨fun h => h ▸ near_nearest r, fun h => (near_nearest r).eq h⟩

theorem nearest_intCast (n : Int) : nearest n = n :=
  nearest_eq_iff.mpr (.inl (by norm_num))

theorem nearest_neg (r : Rat) : nearest (-r) = -nearest r := by
  have habs : |-r - (-nearest r : Int)| = |r - nearest r| := by
    rw [← abs_neg (r - nearest r)]
    push_cast
    congr 1
    ring
  rw [nearest_eq_iff]
  have h := near_nearest r
  rw [Near, ← habs] at h
  exact h.imp id fun h => ⟨h.1, by omega⟩

theorem nearest_mono (h : r ≤ s) : nearest r ≤ nearest s := by
  by_contra hlt
  have hr := abs_le.mp (near_nearest r).abs_sub_le
  have hs := abs_le.mp (near_nearest s).abs_sub_le
  have hstep : (nearest s : Rat) + 1 ≤ nearest r := by exact_mod_cast not_le.mp hlt
  have hrs : r = s := by linarith
  exact hlt (hrs ▸ le_rfl)

theorem nearest_le_of_le (h : r ≤ n) : nearest r ≤ n :=
  nearest_intCast n ▸ nearest_mono h

theorem le_nearest_of_le (h : n ≤ r) : n ≤ nearest r :=
  nearest_intCast n ▸ nearest_mono h

end Slideshow.Rounding
