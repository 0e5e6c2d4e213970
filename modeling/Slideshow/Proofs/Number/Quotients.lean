import Slideshow.Proofs.Number.Operations

/-!
# Binary64 quotients

A quotient is cut off where the grid is fine enough, and the remainder says what was cut off. So
quotients of finite numbers, too, are the exact results, rounded once.

## Main statements

* `Binary64.stands_div`: a whole quotient with its remainder stands for the exact quotient.
* `Binary64.value_div`, `Binary64.exact_div`: the division.
-/

namespace Slideshow.Binary64

open Float.Model Float.Model.UnpackedFloat

variable {x y : Rat} {u v : UnpackedFloat}

/-- A remainder says how a quotient lies to the half behind its whole part. -/
theorem stands_div (n : Nat) {d : Nat} (hd : 0 < d) :
    Stands (.ofMantissaAndAccuracy (n / d) (accuracyOfFraction (n % d) d)) ((n : Rat) / d) := by
  have hd' : (0 : Rat) < d := by exact_mod_cast hd
  have hrest : (n : Rat) / d - (n / d : Nat) = (n % d : Nat) / d := by
    have hn : (n : Rat) = d * (n / d : Nat) + (n % d : Nat) := by
      exact_mod_cast (Nat.div_add_mod n d).symm
    rw [eq_div_iff hd'.ne', sub_mul, div_mul_cancel₀ _ hd'.ne']
    linarith
  have hnonneg : (0 : Rat) ≤ (n % d : Nat) / d := by positivity
  have hlt : ((n % d : Nat) : Rat) / d < 1 := by
    rw [div_lt_one hd']
    exact_mod_cast Nat.mod_lt n hd
  rw [Stands, mantissa_ofMantissaAndAccuracy, hrest]
  refine ⟨⟨by linarith, by linarith⟩, ?_⟩
  rw [accuracyOfFraction]
  split
  · next hzero => simp [hzero, ExtendedMantissa.ofMantissaAndAccuracy]
  · next hzero =>
    have hpos : ((n % d : Nat) : Rat) / d ≠ 0 :=
      div_ne_zero (by exact_mod_cast hzero) hd'.ne'
    have hhalf : (1 : Rat) / 2 ≤ (n % d : Nat) / d ↔ d ≤ 2 * (n % d) := by
      rw [div_le_div_iff₀ two_pos hd', one_mul, mul_comm]
      exact_mod_cast Iff.rfl
    have hhalf' : ((n % d : Nat) : Rat) / d = 1 / 2 ↔ 2 * (n % d) = d := by
      rw [div_eq_div_iff hd'.ne' two_ne_zero, one_mul, mul_comm]
      exact_mod_cast Iff.rfl
    rw [hhalf, ne_eq, ne_eq, hhalf']
    obtain hcase | hcase | hcase := lt_trichotomy (2 * (n % d)) d
    · rw [compare_lt_iff_lt.mpr hcase]
      simp [ExtendedMantissa.ofMantissaAndAccuracy, hpos, hcase, hcase.ne]
    · rw [compare_eq_iff_eq.mpr hcase]
      simp [ExtendedMantissa.ofMantissaAndAccuracy, hcase]
    · rw [compare_gt_iff_gt.mpr hcase]
      simp [ExtendedMantissa.ofMantissaAndAccuracy, hpos, hcase.le, hcase.ne']

section Mantissas

variable {m m' : Nat} (e e' : Int)

/-- The exponent at which a quotient is cut off. -/
def cutExponent (m : Nat) (e : Int) (m' : Nat) (e' : Int) : Int :=
  min (e - e') (Format.binary64.targetExponent (totalExponent m e - totalExponent m' e'))

/-- How far the dividend is shifted to get there. -/
def cutShift (m : Nat) (e : Int) (m' : Nat) (e' : Int) : Nat :=
  (e - e' - cutExponent m e m' e').toNat

/-- The shift does not change the quotient. -/
theorem shifted_div_mul (m m' : Nat) :
    ((m <<< cutShift m e m' e' : Nat) : Rat) / m' * 2 ^ cutExponent m e m' e' =
      m * 2 ^ e / (m' * 2 ^ e') := by
  have hshift : (cutShift m e m' e' : Int) = e - e' - cutExponent m e m' e' := by
    have hle : cutExponent m e m' e' ≤ e - e' := min_le_left ..
    unfold cutShift
    omega
  have hsum : (2 : Rat) ^ cutShift m e m' e' * 2 ^ cutExponent m e m' e' = 2 ^ e / 2 ^ e' := by
    rw [← zpow_natCast, ← zpow_add₀ (by norm_num), hshift, sub_add_cancel,
      zpow_sub₀ (by norm_num)]
  rw [Nat.shiftLeft_eq]
  push_cast
  rw [div_mul_eq_mul_div, mul_assoc, hsum, mul_div_mul_comm, mul_div_right_comm]

/-- A quotient is cut off at the grid or below it. -/
theorem cutExponent_le (hm : 0 < m) (hm' : 0 < m') :
    cutExponent m e m' e' ≤ exponent (m * 2 ^ e / (m' * 2 ^ e')) := by
  obtain ⟨hlow, _⟩ := zpow_log2_le hm le_rfl (lt_add_one (m : Rat)) e
  obtain ⟨_, hhigh⟩ := zpow_log2_le hm' le_rfl (lt_add_one (m' : Rat)) e'
  have hpos : (0 : Rat) < m' * 2 ^ e' := mul_pos (by exact_mod_cast hm') (zpow_pos (by norm_num) e')
  have hmin : Format.binary64.minExponent = -1074 := by decide
  have htarget : Format.binary64.targetExponent (totalExponent m e - totalExponent m' e') =
      max ((m.log2 : Int) + e - (m'.log2 + e') - 53) (-1074) := by
    rw [Format.targetExponent, totalExponent, totalExponent, hmin]
    show max ((m.log2 : Int) + 1 + e - (m'.log2 + 1 + e') - 53) (-1074) = _
    congr 1
    ring
  refine (min_le_right ..).trans ?_
  rw [htarget]
  refine max_le (le_exponent_of_le ?_) (le_exponent _)
  rw [abs_of_nonneg (by positivity), le_div_iff₀ hpos]
  calc (2 : Rat) ^ 52 * 2 ^ ((m.log2 : Int) + e - (m'.log2 + e') - 53) * (m' * 2 ^ e')
      ≤ 2 ^ 52 * 2 ^ ((m.log2 : Int) + e - (m'.log2 + e') - 53) *
          2 ^ ((m'.log2 : Int) + e' + 1) :=
        mul_le_mul_of_nonneg_left hhigh.le (by positivity)
    _ = 2 ^ ((m.log2 : Int) + e) := by
        rw [← zpow_natCast, ← zpow_add₀ (by norm_num), ← zpow_add₀ (by norm_num)]
        congr 1
        push_cast
        ring
    _ ≤ m * 2 ^ e := hlow

end Mantissas

theorem cast_apply_div (sign sign' : UnpackedFloat.Sign) :
    (((sign / sign').apply 1 : Int) : Rat) = (sign.apply 1 : Int) / (sign'.apply 1 : Int) := by
  cases sign <;> cases sign'
  · show ((1 : Int) : Rat) = (-1 : Int) / (-1 : Int)
    norm_num
  · show ((-1 : Int) : Rat) = (-1 : Int) / (1 : Int)
    norm_num
  · show ((-1 : Int) : Rat) = (1 : Int) / (-1 : Int)
    norm_num
  · show ((1 : Int) : Rat) = (1 : Int) / (1 : Int)
    norm_num

theorem div_finite (sign sign' : UnpackedFloat.Sign) (m m' : Nat) (e e' : Int) (hm : 0 < m)
    (hm' : 0 < m') :
    UnpackedFloat.div .binary64 (.finite sign m e hm) (.finite sign' m' e' hm') =
      roundWithAccuracy .binary64 (sign / sign') ((m <<< cutShift m e m' e') / m')
        (cutExponent m e m' e') (accuracyOfFraction ((m <<< cutShift m e m' e') % m') m') :=
  rfl

theorem value_div (hx : value u = .ok x) (hy : value v = .ok y) (hne : y ≠ 0) :
    Canonical (UnpackedFloat.div .binary64 u v) ∧
      value (UnpackedFloat.div .binary64 u v) = .ok (rounded (x / y)) := by
  cases v with
  | infinity sign' => cases sign' <;> cases hy
  | notANumber => cases hy
  | zero => cases hy; exact absurd rfl hne
  | finite sign' m' e' hm' =>
    cases u with
    | infinity sign => cases sign <;> cases hx
    | notANumber => cases hx
    | zero sign =>
      cases hx
      rw [zero_div, rounded_zero]
      exact ⟨trivial, rfl⟩
    | finite sign m e hm =>
      cases hx
      cases hy
      have hstands := stands_div (m <<< cutShift m e m' e') hm'
      have hvalue := shifted_div_mul e e' m m'
      have hq : (0 : Rat) < (m <<< cutShift m e m' e' : Nat) / m' := by
        have hshifted : 0 < m <<< cutShift m e m' e' := Nat.shiftLeft_pos_iff.mpr hm
        exact div_pos (by exact_mod_cast hshifted) (by exact_mod_cast hm')
      have he := cutExponent_le e e' hm hm'
      rw [← hvalue] at he
      rw [div_finite]
      refine ⟨canonical_roundWithAccuracy_of_stands _ hstands hq he, ?_⟩
      rw [value_roundWithAccuracy_of_stands _ hstands hq he, hvalue, cast_apply_div,
        cast_apply sign m, cast_apply sign' m', mul_assoc, mul_assoc, div_mul_div_comm]

/-- The quotient of two finite numbers is rounded once. -/
theorem exact_div {a b : Float} (ha : exact a = .ok x) (hb : exact b = .ok y) (hne : y ≠ 0) :
    exact (a / b) = settled (x / y) := by
  rw [exact_eq] at ha hb
  obtain ⟨hcanonical, hvalue⟩ := value_div ha hb hne
  exact exact_pack hcanonical hvalue

end Slideshow.Binary64
