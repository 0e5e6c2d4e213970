import Slideshow.Proofs.Number.Operations

/-!
# Bounds of binary64 results

Sums and products of numbers that are not negative stay finite as long as their bounds do. Rounding
adds little to a bound, and nothing to a large one that a small number is added to. A bound from
below is kept as long as it is a binary64 number, and what grows beyond all of them is infinite.

## Main definitions

* `Binary64.AtMost`: a number from zero to a bound.
* `Binary64.ceiling`: a bound that adding one leaves alone.
* `Binary64.Reaches`: a number that is no less than a bound, and perhaps infinite.

## Main statements

* `Binary64.AtMost.add`, `Binary64.AtMost.mul`: bounds of sums and products.
* `Binary64.rounded_le`, `Binary64.rounded_ceiling_add_one`: what rounding makes of a bound.
* `Binary64.Reaches.infinite`: a number that no finite one reaches.
-/

namespace Slideshow.Binary64

variable {x y : Rat} {a b : Float}

/-- `a` is a number from zero to `x`. -/
def AtMost (a : Float) (x : Rat) : Prop :=
  ∃ v, exact a = .ok v ∧ 0 ≤ v ∧ v ≤ x

theorem AtMost.mono (h : AtMost a x) (hle : x ≤ y) : AtMost a y := by
  obtain ⟨v, hv, hnonneg, hbound⟩ := h
  exact ⟨v, hv, hnonneg, hbound.trans hle⟩

/-- A result between zero and a bound that is finite after rounding. -/
theorem atMost_of_settled {v z : Rat} (ha : exact a = settled v) (hv : 0 ≤ v) (hle : v ≤ x)
    (hx : rounded x ≤ z) (hz : z < 2 ^ 1024) : AtMost a z := by
  have hnonneg := rounded_nonneg hv
  have hbound : rounded v ≤ z := (rounded_mono hle).trans hx
  rw [settled_of_lt (by rw [abs_of_nonneg hnonneg]; exact hbound.trans_lt hz)] at ha
  exact ⟨_, ha, hnonneg, hbound⟩

theorem AtMost.add {z : Rat} (ha : AtMost a x) (hb : AtMost b y) (hround : rounded (x + y) ≤ z)
    (hz : z < 2 ^ 1024) : AtMost (a + b) z := by
  obtain ⟨v, hv, hv₀, hv₁⟩ := ha
  obtain ⟨w, hw, hw₀, hw₁⟩ := hb
  exact atMost_of_settled (exact_add hv hw) (add_nonneg hv₀ hw₀) (add_le_add hv₁ hw₁) hround hz

theorem AtMost.mul {z : Rat} (ha : AtMost a x) (hb : AtMost b y) (hround : rounded (x * y) ≤ z)
    (hz : z < 2 ^ 1024) : AtMost (a * b) z := by
  obtain ⟨v, hv, hv₀, hv₁⟩ := ha
  obtain ⟨w, hw, hw₀, hw₁⟩ := hb
  exact atMost_of_settled (exact_mul hv hw) (mul_nonneg hv₀ hw₀)
    (mul_le_mul hv₁ hw₁ hw₀ (hv₀.trans hv₁)) hround hz

/-- Rounding adds half a unit, which is little of a large number and little in itself of a small
one. -/
theorem rounded_le (hx : 0 ≤ x) : rounded x ≤ x + x / 2 ^ 53 + 1 / 1000 := by
  have hround := (abs_le.mp (abs_rounded_sub_le x)).2
  by_cases hfinest : exponent x = -1074
  · have hsmall : unit x ≤ 1 / 1024 := by
      have hpow : (2 : Rat) ^ (-10 : Int) = 1 / 1024 := by norm_num
      rw [unit, hfinest, ← hpow]
      exact zpow_le_zpow_right₀ (by norm_num) (by norm_num)
    have hshare : 0 ≤ x / 2 ^ 53 := by positivity
    linarith
  · have hle := mul_unit_le ((le_exponent x).lt_of_ne' hfinest)
    rw [abs_of_nonneg hx] at hle
    linarith

theorem one_lt_limit : (1 : Rat) < 2 ^ 1024 :=
  one_lt_pow₀ (by norm_num) (by norm_num)

/-- The distance of the largest numbers. -/
def topUnit : Rat := 2 ^ (971 : Int)

theorem four_le_topUnit : 4 ≤ topUnit := by
  have h : (2 : Rat) ^ (2 : Int) ≤ 2 ^ (971 : Int) :=
    zpow_le_zpow_right₀ (by norm_num) (by norm_num)
  exact le_trans (by norm_num) h

theorem pow_eq_mul_topUnit : (2 : Rat) ^ 1024 = 2 ^ 53 * topUnit := by
  rw [topUnit, ← zpow_natCast, ← zpow_natCast, ← zpow_add₀ (by norm_num)]
  rfl

/-- A number with that distance to its neighbours. -/
def ceiling : Rat := ((7 * 2 ^ 50 : Int) : Rat) * topUnit

theorem ceiling_lt : ceiling < 2 ^ 1024 := by
  have h := four_le_topUnit
  rw [pow_eq_mul_topUnit, ceiling]
  push_cast
  linarith

/-- Adding one to it is lost in rounding. -/
theorem rounded_ceiling_add_one : rounded (ceiling + 1) = ceiling := by
  have h := four_le_topUnit
  have hpos : 0 < topUnit := by linarith
  have hexponent : exponent (ceiling + 1) = 971 := by
    rw [ceiling]
    push_cast
    refine exponent_eq ?_ (.inr ⟨by norm_num, ?_⟩)
    · rw [abs_of_pos (by linarith)]
      show _ < 2 ^ 53 * topUnit
      linarith
    · rw [abs_of_pos (by linarith)]
      show 2 ^ 52 * topUnit ≤ _
      linarith
  have hunit : unit (ceiling + 1) = topUnit := by rw [unit, hexponent, topUnit]
  have hquotient : (ceiling + 1) / topUnit - (7 * 2 ^ 50 : Int) = 1 / topUnit := by
    rw [ceiling]
    field_simp
    ring
  have hnear : Rounding.Near ((ceiling + 1) / topUnit) (7 * 2 ^ 50) := by
    left
    rw [hquotient, abs_of_pos (by positivity), div_lt_iff₀ hpos]
    linarith
  rw [rounded, hunit, Rounding.nearest_eq_iff.mpr hnear, ← ceiling]

/-! ### From below -/

/-- `a` is no less than `x`, and perhaps infinite. -/
def Reaches (a : Float) (x : Rat) : Prop :=
  exact a = .error .positiveInfinity ∨ ∃ v, exact a = .ok v ∧ x ≤ v

/-- Powers of two are on the grid. -/
theorem rounded_pow (n : Nat) : rounded (2 ^ n) = 2 ^ n := by
  have hlt : |(2 : Rat) ^ n| < 2 ^ 53 * 2 ^ (n : Int) := by
    have hpos : (0 : Rat) < 2 ^ n := by positivity
    rw [abs_of_pos hpos, zpow_natCast]
    linarith
  obtain ⟨k, hk⟩ := exists_zpow_eq (exponent_le (by omega) hlt)
  rw [zpow_natCast] at hk
  exact rounded_of_eq_mul (n := k) (by exact_mod_cast hk)

theorem reaches_of_settled {v : Rat} (ha : exact a = settled v) (hx : rounded x = x) (hpos : 0 < x)
    (hle : x ≤ v) : Reaches a x := by
  rw [settled] at ha
  split at ha
  · exact .inr ⟨_, ha, hx ▸ rounded_mono hle⟩
  · rw [if_pos (hpos.trans_le hle)] at ha
    exact .inl ha

theorem Reaches.add {w : Rat} (ha : Reaches a x) (hb : exact b = .ok w) (hw : 0 ≤ w)
    (hx : rounded x = x) (hpos : 0 < x) : Reaches (a + b) x := by
  obtain ha | ⟨v, hv, hle⟩ := ha
  · exact .inl (exact_add_of_infinite ha hb)
  · exact reaches_of_settled (exact_add hv hb) hx hpos (by linarith)

theorem Reaches.mul {w : Rat} (ha : Reaches a x) (hb : exact b = .ok w) (hw : 0 < w)
    (hle : y ≤ x * w) (hy : rounded y = y) (hpos : 0 < y) : Reaches (a * b) y := by
  obtain ha | ⟨v, hv, hx⟩ := ha
  · exact .inl (exact_mul_of_infinite ha hb hw)
  · exact reaches_of_settled (exact_mul hv hb) hy hpos
      (hle.trans (mul_le_mul_of_nonneg_right hx hw.le))

theorem Reaches.infinite (ha : Reaches a x) (hx : 2 ^ 1024 ≤ x) :
    exact a = .error .positiveInfinity := by
  obtain ha | ⟨v, hv, hle⟩ := ha
  · exact ha
  · exact absurd (abs_lt_of_exact hv) (not_lt.mpr ((hx.trans hle).trans (le_abs_self v)))

end Slideshow.Binary64
