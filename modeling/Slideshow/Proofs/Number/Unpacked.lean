import Mathlib.Algebra.Order.Field.Power
import Slideshow.Proofs.Number.Grid

/-!
# Rounding of mantissas

The binary64 model shifts a mantissa to its exponent and keeps two bits of what it loses. Those two
bits are enough for the nearest mantissa, and so the result of an operation is the exact result,
rounded to the grid.

## Main definitions

* `Binary64.value`: the rational number that an unpacked number stands for.
* `Binary64.Stands`: what a mantissa and its two bits say about the number that was shifted.
* `Binary64.Canonical`: unpacked numbers that lie on the grid as they should.

## Main statements

* `Binary64.value_round`, `Binary64.canonical_round`: the value and the form of a rounded number.
-/

namespace Slideshow.Binary64

open Float.Model Float.Model.UnpackedFloat

/-- The rational number that an unpacked number stands for. -/
def value : UnpackedFloat → Except NonFinite Rat
  | .zero _ => .ok 0
  | .finite sign m e _ => .ok (sign.apply m * 2 ^ e)
  | .infinity .positive => .error .positiveInfinity
  | .infinity .negative => .error .negativeInfinity
  | .notANumber => .error .notANumber

theorem value_finite (sign : UnpackedFloat.Sign) (m : Nat) (e : Int) (hm : 0 < m) :
    value (.finite sign m e hm) = .ok (sign.apply m * 2 ^ e) :=
  rfl

theorem dyadic_eq (m e : Int) : dyadic m e = m * 2 ^ e := by
  cases e with
  | ofNat e =>
    show (m : Rat) * 2 ^ e = m * 2 ^ (e : Int)
    rw [zpow_natCast (2 : Rat) e]
  | negSucc e =>
    rw [dyadic, zpow_negSucc, Rat.mkRat_eq_div, ← div_eq_mul_inv]
    exact congrArg _ (Nat.cast_pow 2 (e + 1))

theorem exact_eq (x : Float) : exact x = value x.toModel.unpack := by
  unfold exact value
  cases x.toModel.unpack with
  | finite sign m e _ => exact congrArg Except.ok (dyadic_eq (sign.apply m) e)
  | zero => rfl
  | infinity sign => cases sign <;> rfl
  | notANumber => rfl

/-! ### Shifts -/

/-- `em` is what is left of `x`: the integer below it, whether the fraction is a half or more, and
whether it is anything else than zero or a half. -/
def Stands (em : ExtendedMantissa) (x : Rat) : Prop :=
  ((em.mantissa : Rat) ≤ x ∧ x < em.mantissa + 1) ∧
    (em.roundBit = true ↔ 1 / 2 ≤ x - em.mantissa) ∧
      (em.stickyBit = true ↔ x - em.mantissa ≠ 0 ∧ x - em.mantissa ≠ 1 / 2)

theorem stands_exact (m : Nat) : Stands (.ofMantissaAndAccuracy m .exact) m := by
  simp [Stands, ExtendedMantissa.ofMantissaAndAccuracy]

theorem Stands.shiftRightOne {em : ExtendedMantissa} {x : Rat} (h : Stands em x) :
    Stands em.shiftRightOne (x / 2) := by
  obtain ⟨⟨hle, hlt⟩, hround, hsticky⟩ := h
  have hdiv : (em.mantissa : Rat) = 2 * (em.mantissa / 2 : Nat) + (em.mantissa % 2 : Nat) := by
    exact_mod_cast (Nat.div_add_mod em.mantissa 2).symm
  have hfraction : x / 2 - (em.mantissa / 2 : Nat) =
      ((em.mantissa % 2 : Nat) + (x - em.mantissa)) / 2 := by
    linarith
  have hsticky' : (em.roundBit || em.stickyBit) = true ↔ x - em.mantissa ≠ 0 := by
    rw [Bool.or_eq_true, hround, hsticky]
    constructor
    · rintro (h | h)
      · linarith
      · exact h.1
    · intro h
      by_cases hhalf : x - em.mantissa = 1 / 2
      · exact .inl hhalf.ge
      · exact .inr ⟨h, hhalf⟩
  unfold Stands ExtendedMantissa.shiftRightOne
  rw [hsticky']
  dsimp only
  rw [hfraction]
  obtain hbit | hbit : em.mantissa % 2 = 0 ∨ em.mantissa % 2 = 1 := by omega
  all_goals
    rw [hbit] at hdiv ⊢
    push_cast at hdiv ⊢
    refine ⟨⟨by linarith, by linarith⟩, ?_, ?_⟩
  · simpa using by linarith
  · constructor
    · exact fun h => ⟨fun h' => h (by linarith), fun h' => by linarith⟩
    · exact fun h h' => h.1 (by rw [h']; norm_num)
  · simpa using by linarith
  · constructor
    · exact fun h => ⟨fun h' => by linarith, fun h' => h (by linarith)⟩
    · exact fun h h' => h.2 (by rw [h']; norm_num)

theorem Stands.shiftRight {em : ExtendedMantissa} {x : Rat} (h : Stands em x) (n : Nat) :
    Stands (em >>> n) (x / 2 ^ n) := by
  induction n with
  | zero =>
    rw [pow_zero, div_one]
    exact h
  | succ n ih =>
    rw [pow_succ, ← div_div]
    exact ih.shiftRightOne

/-- The two bits decide the rounding. -/
theorem Stands.roundedMantissa {em : ExtendedMantissa} {x : Rat} (h : Stands em x) :
    Rounding.nearest x = em.roundedMantissa := by
  obtain ⟨m, round, sticky⟩ := em
  obtain ⟨⟨hle, hlt⟩, hround, hsticky⟩ := h
  dsimp only at hle hlt hround hsticky
  rw [Rounding.nearest_eq_iff, Rounding.Near]
  cases round <;> cases sticky <;>
    simp only [Bool.false_eq_true, false_iff, true_iff, not_le, not_and, not_not]
      at hround hsticky <;>
    simp only [ExtendedMantissa.roundedMantissa, ExtendedMantissa.accuracy,
      Accuracy.roundToNearestEven, Int.cast_natCast]
  · have hzero : x - m = 0 := by
      by_contra h
      linarith [hsticky h]
    left
    rw [hzero]
    norm_num
  · left
    rwa [abs_of_nonneg (sub_nonneg.mpr hle)]
  · have hhalf : x - m = 1 / 2 := hsticky (by linarith)
    obtain hbit | hbit : m % 2 = 0 ∨ m % 2 = 1 := by omega
    all_goals
      right
      rw [hbit]
      refine ⟨?_, by omega⟩
      push_cast
    · rw [add_zero, hhalf]
      norm_num
    · rw [← sub_sub, hhalf]
      norm_num
  · left
    have hne := hround.lt_of_ne' hsticky.2
    rw [abs_of_neg (by push_cast; linarith)]
    push_cast
    linarith

/-! ### Rounding -/

variable {x q : Rat} {m : Nat} {e : Int} {accuracy : Accuracy}

/-- A mantissa has as many bits as its logarithm says, whatever fraction it was cut off from. -/
theorem zpow_log2_le (hm : 0 < m) (hle : (m : Rat) ≤ q) (hlt : q < m + 1) (e : Int) :
    (2 : Rat) ^ ((m.log2 : Int) + e) ≤ q * 2 ^ e ∧
      q * 2 ^ e < 2 ^ ((m.log2 : Int) + e + 1) := by
  have hpos : (0 : Rat) < 2 ^ e := zpow_pos (by norm_num) e
  have hlow : (2 : Rat) ^ m.log2 ≤ m := by exact_mod_cast Nat.log2_self_le hm.ne'
  have hhigh : (m : Rat) + 1 ≤ 2 ^ (m.log2 + 1) := by exact_mod_cast Nat.lt_log2_self (n := m)
  have hadd : ((m.log2 : Int) + e + 1) = ((m.log2 + 1 : Nat) : Int) + e := by
    push_cast
    ring
  rw [hadd, zpow_add₀ (by norm_num), zpow_add₀ (by norm_num), zpow_natCast, zpow_natCast]
  exact ⟨mul_le_mul_of_nonneg_right (hlow.trans hle) hpos.le,
    mul_lt_mul_of_pos_right (hlt.trans_le hhigh) hpos⟩

/-- The exponent that a mantissa is shifted to is that of the grid. -/
theorem targetExponent_eq (hm : 0 < m) (hle : (m : Rat) ≤ q) (hlt : q < m + 1) (e : Int) :
    Format.binary64.targetExponent (totalExponent m e) = exponent (q * 2 ^ e) := by
  have hq : 0 < q := lt_of_lt_of_le (by exact_mod_cast hm) hle
  have hpos : 0 < q * 2 ^ e := mul_pos hq (zpow_pos (by norm_num) e)
  obtain ⟨hlow, hhigh⟩ := zpow_log2_le hm hle hlt e
  have hlog : Int.log 2 (q * 2 ^ e) = m.log2 + e := by
    refine le_antisymm ?_ ((Int.zpow_le_iff_le_log (by decide) hpos).mp (by exact_mod_cast hlow))
    exact Int.lt_add_one_iff.mp
      ((Int.lt_zpow_iff_log_lt (by decide) hpos).mp (by exact_mod_cast hhigh))
  have hmin : Format.binary64.minExponent = -1074 := by decide
  rw [exponent, if_neg hpos.ne', abs_of_pos hpos, hlog, Format.targetExponent, totalExponent, hmin]
  show max ((m.log2 : Int) + 1 + e - 53) (-1074) = _
  congr 1
  ring

/-- That holds of the mantissa zero as well, if what it was cut off from has its exponent below the
grid: then the grid is the finest one. -/
theorem targetExponent_of_le (hq : 0 < q) (hle : (m : Rat) ≤ q) (hlt : q < m + 1)
    (he : e ≤ exponent (q * 2 ^ e)) :
    Format.binary64.targetExponent (totalExponent m e) = exponent (q * 2 ^ e) := by
  obtain rfl | hm := Nat.eq_zero_or_pos m
  · have hpos : (0 : Rat) < 2 ^ e := zpow_pos (by norm_num) e
    rw [Nat.cast_zero, zero_add] at hlt
    have hsmall : |q * 2 ^ e| < 2 ^ e := by
      rw [abs_of_pos (mul_pos hq hpos)]
      exact mul_lt_of_lt_one_left hpos hlt
    have hfinest : exponent (q * 2 ^ e) = -1074 := by
      by_contra hne
      have hfull := mul_unit_le ((le_exponent (q * 2 ^ e)).lt_of_ne' hne)
      have hunit : (2 : Rat) ^ e ≤ unit (q * 2 ^ e) := zpow_le_zpow_right₀ (by norm_num) he
      linarith
    have hmin : Format.binary64.minExponent = -1074 := by decide
    rw [hfinest] at he ⊢
    rw [Format.targetExponent, totalExponent, hmin]
    show max ((Nat.log2 0 : Int) + 1 + e - 53) (-1074) = -1074
    rw [Nat.log2_zero]
    push_cast
    omega
  · exact targetExponent_eq hm hle hlt e

/-- The rounded mantissa on the grid around a number. -/
def gridMantissa (x : Rat) : Nat :=
  (Rounding.nearest (x / unit x)).toNat

theorem gridMantissa_mul (hx : 0 ≤ x) : (gridMantissa x : Rat) * unit x = rounded x := by
  have hnonneg : 0 ≤ Rounding.nearest (x / unit x) :=
    Rounding.le_nearest_of_le (by exact_mod_cast div_nonneg hx (unit_pos x).le)
  have hcast : ((gridMantissa x : Int) : Rat) = Rounding.nearest (x / unit x) :=
    congrArg _ (Int.toNat_of_nonneg hnonneg)
  rw [rounded, ← hcast, Int.cast_natCast]

theorem gridMantissa_le (x : Rat) : gridMantissa x ≤ 2 ^ 53 := by
  have hlt : x / unit x ≤ ((2 ^ 53 : Int) : Rat) := by
    rw [div_le_iff₀ (unit_pos x)]
    push_cast
    exact (le_abs_self x).trans (abs_lt_mul_unit x).le
  have := Rounding.nearest_le_of_le hlt
  unfold gridMantissa
  omega

theorem le_gridMantissa (hx : 0 ≤ x) (h : -1074 < exponent x) : 2 ^ 52 ≤ gridMantissa x := by
  have hle : ((2 ^ 52 : Int) : Rat) ≤ x / unit x := by
    rw [le_div_iff₀ (unit_pos x)]
    push_cast
    exact (mul_unit_le h).trans_eq (abs_of_nonneg hx)
  have := Rounding.le_nearest_of_le hle
  unfold gridMantissa
  omega

theorem mantissa_ofMantissaAndAccuracy (m : Nat) (accuracy : Accuracy) :
    (ExtendedMantissa.ofMantissaAndAccuracy m accuracy).mantissa = m := by
  obtain _ | ordering := accuracy
  · rfl
  · cases ordering <;> rfl

/-- What a mantissa and its accuracy stand for is rounded to the grid by a shift. -/
theorem shiftToTargetExponent_eq (h : Stands (.ofMantissaAndAccuracy m accuracy) q) (hq : 0 < q)
    (he : e ≤ exponent (q * 2 ^ e)) :
    (shiftToTargetExponent .binary64 m e accuracy).1.roundedMantissa = gridMantissa (q * 2 ^ e) ∧
      (shiftToTargetExponent .binary64 m e accuracy).2 = exponent (q * 2 ^ e) := by
  obtain ⟨hle, hlt⟩ := h.1
  rw [mantissa_ofMantissaAndAccuracy] at hle hlt
  obtain ⟨k, hk⟩ := Int.le.dest he
  have hshift : (exponent (q * 2 ^ e) - e).toNat = k := by omega
  have hquotient : q * 2 ^ e / unit (q * 2 ^ e) = q / 2 ^ k := by
    rw [unit, ← hk, zpow_add₀ (by norm_num), zpow_natCast]
    field_simp
  rw [shiftToTargetExponent, targetExponent_of_le hq hle hlt he, shiftToExponent, hshift]
  refine ⟨?_, hk⟩
  rw [gridMantissa, hquotient, (h.shiftRight k).roundedMantissa, Int.toNat_natCast]

/-- A mantissa on the grid stays as it is, unless rounding has given it one bit too many. -/
theorem shiftToTargetExponent_of_le {r : Nat} (hr : r ≤ 2 ^ 53) (he : -1074 ≤ e) :
    (shiftToTargetExponent .binary64 r e .exact).1.mantissa = (if r < 2 ^ 53 then r else 2 ^ 52) ∧
      (shiftToTargetExponent .binary64 r e .exact).2 = if r < 2 ^ 53 then e else e + 1 := by
  have hmin : Format.binary64.minExponent = -1074 := by decide
  have htarget : Format.binary64.targetExponent (totalExponent r e) =
      max ((r.log2 : Int) + 1 + e - 53) (-1074) := by
    rw [Format.targetExponent, totalExponent, hmin]
    rfl
  obtain hlt | rfl := hr.lt_or_eq
  · have hlog : r.log2 < 53 := by
      obtain rfl | hpos := Nat.eq_zero_or_pos r
      · decide
      · exact (Nat.log2_lt hpos.ne').mpr hlt
    have hzero : (Format.binary64.targetExponent (totalExponent r e) - e).toNat = 0 := by omega
    rw [shiftToTargetExponent, shiftToExponent, hzero, if_pos hlt, if_pos hlt]
    exact ⟨rfl, add_zero e⟩
  · have hlog : (2 ^ 53 : Nat).log2 = 53 := Nat.log2_two_pow
    have hone : (Format.binary64.targetExponent (totalExponent (2 ^ 53) e) - e).toNat = 1 := by
      omega
    rw [shiftToTargetExponent, shiftToExponent, hone]
    exact ⟨rfl, rfl⟩

/-- The number with a mantissa that may be zero. -/
def ofMantissa (sign : UnpackedFloat.Sign) (m : Nat) (e : Int) : UnpackedFloat :=
  if h : m = 0 then .zero sign else .finite sign m e (Nat.pos_of_ne_zero h)

/-- Rounding takes the mantissa of the grid, or the next power of two. -/
theorem roundWithAccuracy_cases (sign : UnpackedFloat.Sign)
    (h : Stands (.ofMantissaAndAccuracy m accuracy) q) (hq : 0 < q)
    (he : e ≤ exponent (q * 2 ^ e)) :
    (gridMantissa (q * 2 ^ e) = 0 ∧ roundWithAccuracy .binary64 sign m e accuracy = .zero sign) ∨
      (∃ hpos : 0 < gridMantissa (q * 2 ^ e), gridMantissa (q * 2 ^ e) < 2 ^ 53 ∧
        roundWithAccuracy .binary64 sign m e accuracy =
          .finite sign (gridMantissa (q * 2 ^ e)) (exponent (q * 2 ^ e)) hpos) ∨
        (gridMantissa (q * 2 ^ e) = 2 ^ 53 ∧ roundWithAccuracy .binary64 sign m e accuracy =
          .finite sign (2 ^ 52) (exponent (q * 2 ^ e) + 1) (by decide)) := by
  let shifted := shiftToTargetExponent .binary64 m e accuracy
  let final := shiftToTargetExponent .binary64 shifted.1.roundedMantissa shifted.2 .exact
  have hround : roundWithAccuracy .binary64 sign m e accuracy =
      ofMantissa sign final.1.mantissa final.2 :=
    rfl
  have hle := gridMantissa_le (q * 2 ^ e)
  obtain ⟨hmantissa, hexponent⟩ := shiftToTargetExponent_eq h hq he
  obtain ⟨hfinal, hfinal'⟩ := shiftToTargetExponent_of_le hle (le_exponent (q * 2 ^ e))
  rw [← hmantissa, ← hexponent] at hfinal hfinal'
  rw [hround, hfinal, hfinal', hmantissa, hexponent]
  obtain hlt | hmax := hle.lt_or_eq
  · rw [if_pos hlt, if_pos hlt]
    obtain hzero | hpos := Nat.eq_zero_or_pos (gridMantissa (q * 2 ^ e))
    · exact .inl ⟨hzero, dif_pos hzero⟩
    · exact .inr (.inl ⟨hpos, hlt, dif_neg hpos.ne'⟩)
  · rw [if_neg (by omega), if_neg (by omega)]
    exact .inr (.inr ⟨hmax, rfl⟩)

/-- An unpacked number on the grid, with a mantissa of 53 bits unless the grid is the finest one. -/
def Canonical : UnpackedFloat → Prop
  | .finite _ m e _ => m < 2 ^ 53 ∧ (e = -1074 ∨ -1074 ≤ e ∧ 2 ^ 52 ≤ m)
  | _ => True

theorem canonical_roundWithAccuracy_of_stands (sign : UnpackedFloat.Sign)
    (h : Stands (.ofMantissaAndAccuracy m accuracy) q) (hq : 0 < q)
    (he : e ≤ exponent (q * 2 ^ e)) :
    Canonical (roundWithAccuracy .binary64 sign m e accuracy) := by
  have hpos : 0 ≤ q * 2 ^ e := by positivity
  have hle := le_exponent (q * 2 ^ e)
  obtain ⟨_, h⟩ | ⟨_, hlt, h⟩ | ⟨_, h⟩ := roundWithAccuracy_cases sign h hq he <;> rw [h]
  · trivial
  · refine ⟨hlt, ?_⟩
    by_cases hfinest : exponent (q * 2 ^ e) = -1074
    · exact .inl hfinest
    · exact .inr ⟨hle, le_gridMantissa hpos (hle.lt_of_ne' hfinest)⟩
  · exact ⟨by norm_num, .inr ⟨by omega, le_rfl⟩⟩

/-- A sign in front of a natural number is a factor. -/
theorem cast_apply (sign : UnpackedFloat.Sign) (n : Nat) :
    ((sign.apply n : Int) : Rat) = (sign.apply 1 : Int) * n := by
  cases sign <;> simp [UnpackedFloat.Sign.apply]

theorem value_roundWithAccuracy_of_stands (sign : UnpackedFloat.Sign)
    (h : Stands (.ofMantissaAndAccuracy m accuracy) q) (hq : 0 < q)
    (he : e ≤ exponent (q * 2 ^ e)) :
    value (roundWithAccuracy .binary64 sign m e accuracy) =
      .ok (rounded ((sign.apply 1 : Int) * (q * 2 ^ e))) := by
  have hgrid := gridMantissa_mul (show 0 ≤ q * 2 ^ e by positivity)
  have hrounded : rounded ((sign.apply 1 : Int) * (q * 2 ^ e)) =
      (sign.apply 1 : Int) * rounded (q * 2 ^ e) := by
    cases sign <;> simp [UnpackedFloat.Sign.apply]
  rw [hrounded, ← hgrid]
  obtain ⟨hzero, h⟩ | ⟨_, _, h⟩ | ⟨hmax, h⟩ := roundWithAccuracy_cases sign h hq he <;> rw [h]
  · show Except.ok 0 = _
    simp [hzero]
  · rw [value_finite, cast_apply, mul_assoc, unit]
  · rw [value_finite, cast_apply, hmax, mul_assoc, unit, zpow_add_one₀ (by norm_num)]
    refine congrArg _ ?_
    push_cast
    ring

theorem canonical_roundWithAccuracy (sign : UnpackedFloat.Sign) (hm : 0 < m)
    (he : e ≤ exponent (m * 2 ^ e)) :
    Canonical (roundWithAccuracy .binary64 sign m e .exact) :=
  canonical_roundWithAccuracy_of_stands sign (stands_exact m) (by exact_mod_cast hm) he

theorem value_roundWithAccuracy (sign : UnpackedFloat.Sign) (hm : 0 < m)
    (he : e ≤ exponent (m * 2 ^ e)) :
    value (roundWithAccuracy .binary64 sign m e .exact) =
      .ok (rounded (sign.apply m * 2 ^ e)) := by
  rw [value_roundWithAccuracy_of_stands sign (stands_exact m) (by exact_mod_cast hm) he,
    cast_apply sign m, mul_assoc]

theorem decreaseExponent_eq (m : Nat) (e t : Int) :
    ((decreaseExponent m e t).1 : Rat) * 2 ^ (decreaseExponent m e t).2 = m * 2 ^ e ∧
      (decreaseExponent m e t).2 = min e t := by
  have hexponent : e - (e - t).toNat = min e t := by omega
  refine ⟨?_, hexponent⟩
  show ((m <<< (e - t).toNat : Nat) : Rat) * 2 ^ (e - ((e - t).toNat : Int)) = _
  rw [Nat.shiftLeft_eq]
  push_cast
  rw [← zpow_natCast (2 : Rat), mul_assoc, ← zpow_add₀ (by norm_num)]
  congr 2
  ring

theorem round_eq (sign : UnpackedFloat.Sign) (hm : 0 < m) (e : Int) :
    ∃ (m' : Nat) (e' : Int), 0 < m' ∧ (m' : Rat) * 2 ^ e' = m * 2 ^ e ∧
      e' ≤ exponent (m' * 2 ^ e') ∧
      UnpackedFloat.round .binary64 sign m e = roundWithAccuracy .binary64 sign m' e' .exact := by
  obtain ⟨hvalue, hexponent⟩ := decreaseExponent_eq m e (exponent (m * 2 ^ e))
  refine ⟨_, _, ?_, hvalue, ?_, ?_⟩
  · show 0 < m <<< _
    rw [Nat.shiftLeft_eq]
    exact Nat.mul_pos hm (Nat.two_pow_pos _)
  · rw [hvalue, hexponent]
    exact min_le_right ..
  · rw [UnpackedFloat.round, targetExponent_eq hm le_rfl (lt_add_one _)]

theorem canonical_round (sign : UnpackedFloat.Sign) (hm : 0 < m) (e : Int) :
    Canonical (UnpackedFloat.round .binary64 sign m e) := by
  obtain ⟨m', e', hm', _, he', hround⟩ := round_eq sign hm e
  rw [hround]
  exact canonical_roundWithAccuracy sign hm' he'

theorem value_round (sign : UnpackedFloat.Sign) (hm : 0 < m) (e : Int) :
    value (UnpackedFloat.round .binary64 sign m e) = .ok (rounded (sign.apply m * 2 ^ e)) := by
  obtain ⟨m', e', hm', hvalue, he', hround⟩ := round_eq sign hm e
  rw [hround, value_roundWithAccuracy sign hm' he']
  cases sign <;> simp [UnpackedFloat.Sign.apply, hvalue]

theorem canonical_normalize (m e : Int) (zeroSign : UnpackedFloat.Sign) :
    Canonical (UnpackedFloat.normalize .binary64 m e zeroSign) := by
  unfold UnpackedFloat.normalize
  split
  · next h =>
    have := Int.compare_eq_lt.mp h
    exact canonical_round _ (by omega) e
  · trivial
  · next h =>
    have := Int.compare_eq_gt.mp h
    exact canonical_round _ (by omega) e

/-- The exact result of an operation is rounded once. -/
theorem value_normalize (m e : Int) (zeroSign : UnpackedFloat.Sign) :
    value (UnpackedFloat.normalize .binary64 m e zeroSign) = .ok (rounded (m * 2 ^ e)) := by
  unfold UnpackedFloat.normalize
  split
  · next h =>
    have hneg := Int.compare_eq_lt.mp h
    have hcast : UnpackedFloat.Sign.negative.apply (-m).toNat = m := by
      show -((-m).toNat : Int) = m
      omega
    rw [value_round _ (by omega), hcast]
  · next h =>
    have hzero := Int.compare_eq_eq.mp h
    show Except.ok 0 = _
    simp [hzero]
  · next h =>
    have hpos := Int.compare_eq_gt.mp h
    have hcast : UnpackedFloat.Sign.positive.apply m.toNat = m := by
      show (m.toNat : Int) = m
      omega
    rw [value_round _ (by omega), hcast]

/-- Numbers on the grid are not changed by rounding. -/
theorem exponent_of_canonical {sign : UnpackedFloat.Sign} {hm : 0 < m}
    (h : Canonical (.finite sign m e hm)) : exponent (sign.apply m * 2 ^ e) = e := by
  obtain ⟨hlt, hform⟩ := h
  have hpos : (0 : Rat) < 2 ^ e := zpow_pos (by norm_num) e
  have habs : |(sign.apply m : Rat) * 2 ^ e| = m * 2 ^ e := by
    rw [abs_mul, abs_of_pos hpos]
    cases sign <;> simp [UnpackedFloat.Sign.apply]
  refine exponent_eq ?_ (hform.imp id fun h => ⟨h.1, ?_⟩)
  · rw [habs]
    exact mul_lt_mul_of_pos_right (by exact_mod_cast hlt) hpos
  · rw [habs]
    exact mul_le_mul_of_nonneg_right (by exact_mod_cast h.2) hpos.le

theorem rounded_of_canonical {u : UnpackedFloat} (h : Canonical u) (hx : value u = .ok x) :
    rounded x = x := by
  cases u with
  | zero => cases hx; exact rounded_zero
  | finite sign m e hm =>
    cases hx
    refine rounded_of_eq_mul (n := sign.apply m) ?_
    rw [unit, exponent_of_canonical h]
  | infinity sign => cases sign <;> cases hx
  | notANumber => cases hx

end Slideshow.Binary64
