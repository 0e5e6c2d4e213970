import Slideshow.Proofs.Number.Packed

/-!
# Binary64 operations

Sums, differences and products of finite binary64 numbers are the exact results, rounded to the grid
and infinite where that is too large. Comparisons are exact.

## Main definitions

* `Binary64.settled`: the binary64 number that an exact result becomes.

## Main statements

* `Binary64.exact_add`, `Binary64.exact_sub`, `Binary64.exact_mul`: the operations.
* `Binary64.lt_iff`, `Binary64.le_iff`: the comparisons.
-/

namespace Slideshow.Binary64

open Float.Model Float.Model.UnpackedFloat

variable {x y : Rat} {u v : UnpackedFloat}

/-- The binary64 number that an exact result becomes. -/
def settled (x : Rat) : Except NonFinite Rat :=
  if |rounded x| < 2 ^ 1024 then .ok (rounded x)
  else .error (if 0 < x then .positiveInfinity else .negativeInfinity)

theorem settled_of_lt (h : |rounded x| < 2 ^ 1024) : settled x = .ok (rounded x) :=
  if_pos h

/-- Storing a number on the grid only fails for numbers that are too large. -/
theorem value_stored (h : Canonical u) (hx : value u = .ok (rounded x)) :
    value (stored u) = settled x := by
  cases u with
  | zero =>
    have hzero : (0 : Rat) = rounded x := Except.ok.inj hx
    rw [settled_of_lt (by rw [← hzero]; norm_num)]
    exact hx
  | infinity sign => cases sign <;> cases hx
  | notANumber => cases hx
  | finite sign m e hm =>
    obtain ⟨hlt, hform⟩ := h
    have hrounded : (sign.apply m : Rat) * 2 ^ e = rounded x := Except.ok.inj hx
    have hpos : (0 : Rat) < 2 ^ e := zpow_pos (by norm_num) e
    have habs : |rounded x| = m * 2 ^ e := by
      rw [← hrounded, abs_mul, abs_of_pos hpos]
      cases sign <;> simp [UnpackedFloat.Sign.apply]
    by_cases hmax : e ≤ 971
    · rw [settled_of_lt, stored_finite, if_pos hmax, hx]
      calc |rounded x| = m * 2 ^ e := habs
        _ < 2 ^ 53 * 2 ^ e := mul_lt_mul_of_pos_right (by exact_mod_cast hlt) hpos
        _ ≤ 2 ^ 53 * 2 ^ (971 : Int) :=
          mul_le_mul_of_nonneg_left (zpow_le_zpow_right₀ (by norm_num) hmax) (by norm_num)
        _ = 2 ^ 1024 := by
          rw [← zpow_natCast, ← zpow_natCast, ← zpow_add₀ (by norm_num)]
          rfl
    · have hlarge : (2 : Rat) ^ 1024 ≤ |rounded x| := by
        have hfull : 2 ^ 52 ≤ m := by omega
        calc (2 : Rat) ^ 1024 = 2 ^ 52 * 2 ^ (972 : Int) := by
              rw [← zpow_natCast, ← zpow_natCast, ← zpow_add₀ (by norm_num)]
              rfl
          _ ≤ 2 ^ 52 * 2 ^ e :=
            mul_le_mul_of_nonneg_left (zpow_le_zpow_right₀ (by norm_num) (by omega)) (by norm_num)
          _ ≤ m * 2 ^ e := mul_le_mul_of_nonneg_right (by exact_mod_cast hfull) hpos.le
          _ = |rounded x| := habs.symm
      have hm' : (0 : Rat) < m * 2 ^ e := mul_pos (by exact_mod_cast hm) hpos
      rw [settled, if_neg (not_lt.mpr hlarge), stored_finite, if_neg hmax]
      cases sign with
      | positive =>
        have hx' : 0 < x := by
          by_contra hneg
          have := rounded_nonneg (neg_nonneg.mpr (not_lt.mp hneg))
          rw [rounded_neg, ← hrounded] at this
          simp only [UnpackedFloat.Sign.apply, Int.cast_natCast] at this
          linarith only [this, hm']
        rw [if_pos hx']
        rfl
      | negative =>
        have hx' : ¬0 < x := by
          intro hpos'
          have := rounded_nonneg hpos'.le
          rw [← hrounded] at this
          simp only [UnpackedFloat.Sign.apply, Int.cast_neg, Int.cast_natCast, neg_mul] at this
          linarith only [this, hm']
        rw [if_neg hx']
        rfl

theorem exact_pack (h : Canonical u) (hx : value u = .ok (rounded x)) :
    exact ⟨Float.Model.pack u⟩ = settled x := by
  rw [exact_eq, unpack_pack h, value_stored h hx]

/-! ### Arithmetic -/

/-- Two mantissas brought to the smaller exponent. -/
theorem decreaseExponent_min (sign : UnpackedFloat.Sign) (m : Nat) {e t : Int} (h : t ≤ e) :
    (sign.apply (decreaseExponent m e t).1 : Rat) * 2 ^ t = sign.apply m * 2 ^ e := by
  obtain ⟨hvalue, hexponent⟩ := decreaseExponent_eq m e t
  rw [hexponent, min_eq_right h] at hvalue
  cases sign <;> simp [UnpackedFloat.Sign.apply, hvalue]

theorem neg_finite (sign : UnpackedFloat.Sign) (m : Nat) (e : Int) (hm : 0 < m) :
    (UnpackedFloat.finite sign m e hm).neg = .finite (-sign) m e hm :=
  rfl

theorem add_finite (sign sign' : UnpackedFloat.Sign) (m m' : Nat) (e e' : Int) (hm : 0 < m)
    (hm' : 0 < m') :
    UnpackedFloat.add .binary64 (.finite sign m e hm) (.finite sign' m' e' hm') =
      .normalize .binary64 (sign.apply (decreaseExponent m e (min e e')).1 +
        sign'.apply (decreaseExponent m' e' (min e e')).1) (min e e') .positive :=
  rfl

theorem mul_finite (sign sign' : UnpackedFloat.Sign) (m m' : Nat) (e e' : Int) (hm : 0 < m)
    (hm' : 0 < m') :
    UnpackedFloat.mul .binary64 (.finite sign m e hm) (.finite sign' m' e' hm') =
      roundWithAccuracy .binary64 (sign * sign') (m * m') (e + e') .exact :=
  rfl

theorem value_add (hu : Canonical u) (hv : Canonical v) (hx : value u = .ok x)
    (hy : value v = .ok y) :
    Canonical (UnpackedFloat.add .binary64 u v) ∧
      value (UnpackedFloat.add .binary64 u v) = .ok (rounded (x + y)) := by
  cases u with
  | infinity sign => cases sign <;> cases hx
  | notANumber => cases hx
  | zero sign =>
    cases hx
    cases v with
    | infinity sign' => cases sign' <;> cases hy
    | notANumber => cases hy
    | zero sign' =>
      cases hy
      rw [add_zero, rounded_zero]
      cases sign <;> cases sign' <;> exact ⟨trivial, rfl⟩
    | finite =>
      rw [zero_add, rounded_of_canonical hv hy]
      exact ⟨hv, hy⟩
  | finite sign m e hm =>
    cases v with
    | infinity sign' => cases sign' <;> cases hy
    | notANumber => cases hy
    | zero sign' =>
      cases hy
      rw [add_zero, rounded_of_canonical hu hx]
      exact ⟨hu, hx⟩
    | finite sign' m' e' hm' =>
      cases hx
      cases hy
      refine ⟨canonical_normalize .., ?_⟩
      rw [add_finite, value_normalize]
      push_cast
      rw [add_mul, decreaseExponent_min _ _ (min_le_left ..),
        decreaseExponent_min _ _ (min_le_right ..)]

theorem apply_neg (sign : UnpackedFloat.Sign) (n : Int) : (-sign).apply n = -sign.apply n := by
  cases sign with
  | negative => exact (neg_neg n).symm
  | positive => rfl

theorem value_neg (hx : value u = .ok x) : value u.neg = .ok (-x) := by
  cases u with
  | infinity sign => cases sign <;> cases hx
  | notANumber => cases hx
  | zero sign => cases hx; rfl
  | finite sign m e hm =>
    cases hx
    rw [neg_finite, value_finite, apply_neg]
    push_cast
    rw [neg_mul]

theorem canonical_neg (hu : Canonical u) : Canonical u.neg := by
  cases u <;> exact hu

/-- A difference is the sum with the opposite number. -/
theorem sub_eq_add_neg (u v : UnpackedFloat) :
    UnpackedFloat.sub .binary64 u v = UnpackedFloat.add .binary64 u v.neg := by
  cases u with
  | finite sign m e hm =>
    cases v with
    | finite sign' m' e' hm' =>
      rw [neg_finite, add_finite, apply_neg, ← Int.sub_eq_add_neg]
      rfl
    | _ => rfl
  | infinity sign | zero sign | notANumber => cases v <;> rfl

theorem apply_mul (sign sign' : UnpackedFloat.Sign) (m m' : Nat) :
    (sign * sign').apply (m * m' : Nat) = sign.apply m * sign'.apply m' := by
  rw [Nat.cast_mul]
  cases sign <;> cases sign'
  · exact (neg_mul_neg _ _).symm
  · exact (neg_mul _ _).symm
  · exact (mul_neg _ _).symm
  · rfl

/-- The product of two mantissas has its exponent below the grid, as rounding needs it. -/
theorem add_le_exponent {sign sign' : UnpackedFloat.Sign} {m m' : Nat} {e e' : Int} {hm : 0 < m}
    {hm' : 0 < m'} (hu : Canonical (.finite sign m e hm))
    (hv : Canonical (.finite sign' m' e' hm')) :
    e + e' ≤ exponent ((m * m' : Nat) * 2 ^ (e + e')) := by
  have hpos : (0 : Rat) < 2 ^ (e + e') := zpow_pos (by norm_num) _
  by_cases hfull : 2 ^ 52 ≤ m * m'
  · refine le_exponent_of_le ?_
    rw [abs_of_nonneg (by positivity)]
    exact mul_le_mul_of_nonneg_right (by exact_mod_cast hfull) hpos.le
  · have hsmall : m < 2 ^ 52 := (Nat.le_mul_of_pos_right m hm').trans_lt (not_le.mp hfull)
    have hsmall' : m' < 2 ^ 52 := (Nat.le_mul_of_pos_left m' hm).trans_lt (not_le.mp hfull)
    obtain ⟨_, hu⟩ := hu
    obtain ⟨_, hv⟩ := hv
    exact le_trans (by omega) (le_exponent _)

theorem value_mul (hu : Canonical u) (hv : Canonical v) (hx : value u = .ok x)
    (hy : value v = .ok y) :
    Canonical (UnpackedFloat.mul .binary64 u v) ∧
      value (UnpackedFloat.mul .binary64 u v) = .ok (rounded (x * y)) := by
  cases u with
  | infinity sign => cases sign <;> cases hx
  | notANumber => cases hx
  | zero sign =>
    cases hx
    rw [zero_mul, rounded_zero]
    cases v with
    | infinity sign' => cases sign' <;> cases hy
    | notANumber => cases hy
    | zero | finite => exact ⟨trivial, rfl⟩
  | finite sign m e hm =>
    cases v with
    | infinity sign' => cases sign' <;> cases hy
    | notANumber => cases hy
    | zero sign' =>
      cases hy
      rw [mul_zero, rounded_zero]
      exact ⟨trivial, rfl⟩
    | finite sign' m' e' hm' =>
      cases hx
      cases hy
      have hpos := Nat.mul_pos hm hm'
      have he := add_le_exponent hu hv
      rw [mul_finite]
      refine ⟨canonical_roundWithAccuracy _ hpos he, ?_⟩
      rw [value_roundWithAccuracy _ hpos he, apply_mul, zpow_add₀ (by norm_num)]
      push_cast
      congr 2
      ring

/-! ### Comparisons -/

/-- On the grid a greater exponent belongs to a greater number. -/
theorem mul_zpow_lt {sign sign' : UnpackedFloat.Sign} {m m' : Nat} {e e' : Int} {hm : 0 < m}
    {hm' : 0 < m'} (hu : Canonical (.finite sign m e hm)) (hv : Canonical (.finite sign' m' e' hm'))
    (h : e < e') : (m : Rat) * 2 ^ e < m' * 2 ^ e' := by
  obtain ⟨hlt, hform⟩ := hu
  obtain ⟨_, hform'⟩ := hv
  have hfull : 2 ^ 52 ≤ m' := by omega
  have hpos (e : Int) : (0 : Rat) < 2 ^ e := zpow_pos (by norm_num) e
  have hstep : (2 : Rat) ^ e * 2 ≤ 2 ^ e' := by
    rw [← zpow_add_one₀ (by norm_num)]
    exact zpow_le_zpow_right₀ (by norm_num) (by omega)
  calc (m : Rat) * 2 ^ e < 2 ^ 53 * 2 ^ e :=
        mul_lt_mul_of_pos_right (by exact_mod_cast hlt) (hpos e)
    _ = 2 ^ 52 * (2 ^ e * 2) := by ring
    _ ≤ 2 ^ 52 * 2 ^ e' := mul_le_mul_of_nonneg_left hstep (by norm_num)
    _ ≤ m' * 2 ^ e' := mul_le_mul_of_nonneg_right (by exact_mod_cast hfull) (hpos e').le

/-- The exponents decide, and then the mantissas. -/
theorem compare_eq {sign sign' : UnpackedFloat.Sign} {m m' : Nat} {e e' : Int} {hm : 0 < m}
    {hm' : 0 < m'} (hu : Canonical (.finite sign m e hm))
    (hv : Canonical (.finite sign' m' e' hm')) :
    (compare e e').then (compare m m') = compare ((m : Rat) * 2 ^ e) (m' * 2 ^ e') := by
  obtain hlt | rfl | hlt := lt_trichotomy e e'
  · rw [compare_lt_iff_lt.mpr hlt, compare_lt_iff_lt.mpr (mul_zpow_lt hu hv hlt)]
    rfl
  · have hpos : (0 : Rat) < 2 ^ e := zpow_pos (by norm_num) e
    rw [compare_eq_iff_eq.mpr rfl]
    show compare m m' = _
    obtain hm | rfl | hm := lt_trichotomy m m'
    · rw [compare_lt_iff_lt.mpr hm,
        compare_lt_iff_lt.mpr (mul_lt_mul_of_pos_right (by exact_mod_cast hm) hpos)]
    · rw [compare_eq_iff_eq.mpr rfl, compare_eq_iff_eq.mpr rfl]
    · rw [compare_gt_iff_gt.mpr hm,
        compare_gt_iff_gt.mpr (mul_lt_mul_of_pos_right (by exact_mod_cast hm) hpos)]
  · rw [compare_gt_iff_gt.mpr hlt, compare_gt_iff_gt.mpr (mul_zpow_lt hv hu hlt)]
    rfl

theorem compare_neg_neg (x y : Rat) : compare (-x) (-y) = (compare x y).swap := by
  obtain h | rfl | h := lt_trichotomy x y
  · rw [compare_lt_iff_lt.mpr h, compare_gt_iff_gt.mpr (neg_lt_neg h)]
    rfl
  · rw [compare_eq_iff_eq.mpr rfl, compare_eq_iff_eq.mpr rfl]
    rfl
  · rw [compare_gt_iff_gt.mpr h, compare_lt_iff_lt.mpr (neg_lt_neg h)]
    rfl

theorem value_compare (hu : Canonical u) (hv : Canonical v) (hx : value u = .ok x)
    (hy : value v = .ok y) : u.compare v = some (compare x y) := by
  have hpos {m : Nat} (hm : 0 < m) (e : Int) : (0 : Rat) < (m : Int) * 2 ^ e :=
    mul_pos (by exact_mod_cast hm) (zpow_pos (by norm_num) e)
  have hneg (m : Nat) (e : Int) : ((-(m : Int) : Int) : Rat) * 2 ^ e = -((m : Int) * 2 ^ e) := by
    rw [Int.cast_neg, neg_mul]
  have hneg' {m : Nat} (hm : 0 < m) (e : Int) : ((-(m : Int) : Int) : Rat) * 2 ^ e < 0 := by
    rw [hneg]
    exact neg_neg_of_pos (hpos hm e)
  cases u with
  | infinity sign => cases sign <;> cases hx
  | notANumber => cases hx
  | zero =>
    cases hx
    cases v with
    | infinity sign' => cases sign' <;> cases hy
    | notANumber => cases hy
    | zero => cases hy; rfl
    | finite sign' m' e' hm' =>
      cases hy
      cases sign' with
      | positive => exact congrArg _ (compare_lt_iff_lt.mpr (hpos hm' e')).symm
      | negative => exact congrArg _ (compare_gt_iff_gt.mpr (hneg' hm' e')).symm
  | finite sign m e hm =>
    cases hx
    cases v with
    | infinity sign' => cases sign' <;> cases hy
    | notANumber => cases hy
    | zero =>
      cases hy
      cases sign with
      | positive => exact congrArg _ (compare_gt_iff_gt.mpr (hpos hm e)).symm
      | negative => exact congrArg _ (compare_lt_iff_lt.mpr (hneg' hm e)).symm
    | finite sign' m' e' hm' =>
      cases hy
      have hlex := compare_eq hu hv
      cases sign <;> cases sign'
      · show some ((compare e e').then (compare m m')).swap =
          some (compare (((-(m : Int) : Int) : Rat) * 2 ^ e) ((-(m' : Int) : Int) * 2 ^ e'))
        rw [hlex, hneg, hneg, compare_neg_neg]
        rfl
      · exact congrArg _ (compare_lt_iff_lt.mpr ((hneg' hm e).trans (hpos hm' e'))).symm
      · exact congrArg _ (compare_gt_iff_gt.mpr ((hneg' hm' e').trans (hpos hm e))).symm
      · exact congrArg _ hlex

/-! ### Numbers of the machine -/

variable {a b : Float}

theorem exact_add (ha : exact a = .ok x) (hb : exact b = .ok y) :
    exact (a + b) = settled (x + y) := by
  rw [exact_eq] at ha hb
  obtain ⟨hcanonical, hvalue⟩ :=
    value_add (canonical_unpack _).1 (canonical_unpack _).1 ha hb
  exact exact_pack hcanonical hvalue

theorem exact_sub (ha : exact a = .ok x) (hb : exact b = .ok y) :
    exact (a - b) = settled (x - y) := by
  rw [exact_eq] at ha hb
  obtain ⟨hcanonical, hvalue⟩ :=
    value_add (canonical_unpack _).1 (canonical_neg (canonical_unpack _).1) ha (value_neg hb)
  rw [← sub_eq_add_neg] at hcanonical hvalue
  rw [Rat.sub_eq_add_neg]
  exact exact_pack hcanonical hvalue

theorem exact_mul (ha : exact a = .ok x) (hb : exact b = .ok y) :
    exact (a * b) = settled (x * y) := by
  rw [exact_eq] at ha hb
  obtain ⟨hcanonical, hvalue⟩ :=
    value_mul (canonical_unpack _).1 (canonical_unpack _).1 ha hb
  exact exact_pack hcanonical hvalue

theorem exact_neg (ha : exact a = .ok x) : exact (-a) = .ok (-x) := by
  have hneg : (-a).toModel = Float.Model.pack a.toModel.unpack.neg := rfl
  obtain ⟨hcanonical, hstored⟩ := canonical_unpack a.toModel
  have hstored' : stored a.toModel.unpack.neg = a.toModel.unpack.neg := by
    rw [exact_eq] at ha
    cases hu : a.toModel.unpack with
    | finite sign m e hm =>
      rw [hu, stored_finite] at hstored
      rw [neg_finite, stored_finite]
      by_cases hle : e ≤ 971
      · rw [if_pos hle]
      · rw [if_neg hle] at hstored
        cases hstored
    | _ => rfl
  rw [exact_eq] at ha ⊢
  rw [hneg, unpack_pack (canonical_neg hcanonical), hstored']
  exact value_neg ha

theorem rounded_of_exact (ha : exact a = .ok x) : rounded x = x := by
  rw [exact_eq] at ha
  exact rounded_of_canonical (canonical_unpack _).1 ha

/-- Finite numbers lie below the power of two that none of them reaches. -/
theorem abs_lt_of_exact (ha : exact a = .ok x) : |x| < 2 ^ 1024 := by
  have hx := rounded_of_exact ha
  rw [exact_eq] at ha
  obtain ⟨hcanonical, hstored⟩ := canonical_unpack a.toModel
  have hsettled := value_stored hcanonical (hx.symm ▸ ha)
  rw [hstored, ha, settled, hx] at hsettled
  by_contra h
  rw [if_neg h] at hsettled
  cases hsettled

/-- What is left of a positive number after a part of it is finite. -/
theorem exact_sub_of_le (ha : exact a = .ok x) (hb : exact b = .ok y) (hy : 0 ≤ y) (hle : y ≤ x) :
    exact (a - b) = .ok (rounded (x - y)) := by
  have hnonneg : 0 ≤ rounded (x - y) := rounded_nonneg (sub_nonneg.mpr hle)
  have hupper : rounded (x - y) ≤ x :=
    (rounded_mono (sub_le_self x hy)).trans_eq (rounded_of_exact ha)
  rw [exact_sub ha hb, settled_of_lt]
  rw [abs_of_nonneg hnonneg]
  exact hupper.trans_lt ((le_abs_self x).trans_lt (abs_lt_of_exact ha))

theorem lt_iff (ha : exact a = .ok x) (hb : exact b = .ok y) : a < b ↔ x < y := by
  rw [exact_eq] at ha hb
  have h := value_compare (canonical_unpack _).1 (canonical_unpack _).1 ha hb
  have hlt : a < b ↔ (a.toModel.unpack.compare b.toModel.unpack == some .lt) = true :=
    decide_eq_true_iff
  rw [hlt, h, beq_iff_eq, Option.some_inj, compare_lt_iff_lt]

theorem le_iff (ha : exact a = .ok x) (hb : exact b = .ok y) : a ≤ b ↔ x ≤ y := by
  rw [exact_eq] at ha hb
  have h := value_compare (canonical_unpack _).1 (canonical_unpack _).1 ha hb
  have hle : a ≤ b ↔ (a.toModel.unpack.compare b.toModel.unpack).any (·.isLE) = true :=
    decide_eq_true_iff
  rw [hle, h, Option.any_some, ← Ordering.ne_gt_iff_isLE]
  exact compare_le_iff_le

/-! ### Positive infinity -/

theorem unpack_of_infinite (ha : exact a = .error .positiveInfinity) :
    a.toModel.unpack = .infinity .positive := by
  rw [exact_eq] at ha
  cases hu : a.toModel.unpack with
  | infinity sign =>
    rw [hu] at ha
    cases sign with
    | negative => cases ha
    | positive => rfl
  | _ =>
    rw [hu] at ha
    cases ha

theorem add_infinite (hv : value v = .ok y) :
    UnpackedFloat.add .binary64 (.infinity .positive) v = .infinity .positive := by
  cases v with
  | infinity sign => cases sign <;> cases hv
  | notANumber => cases hv
  | zero | finite => rfl

theorem exact_of_infinite (ha : a.toModel = Float.Model.pack (.infinity .positive)) :
    exact a = .error .positiveInfinity := by
  rw [exact_eq, ha, unpack_pack (u := .infinity .positive) trivial]
  rfl

/-- Adding a finite number to infinity leaves infinity. -/
theorem exact_add_of_infinite (ha : exact a = .error .positiveInfinity) (hb : exact b = .ok y) :
    exact (a + b) = .error .positiveInfinity := by
  have hadd : (a + b).toModel =
      Float.Model.pack (UnpackedFloat.add .binary64 a.toModel.unpack b.toModel.unpack) :=
    rfl
  rw [exact_eq] at hb
  rw [unpack_of_infinite ha, add_infinite hb] at hadd
  exact exact_of_infinite hadd

/-- Taking a finite number off infinity leaves infinity. -/
theorem exact_sub_of_infinite (ha : exact a = .error .positiveInfinity) (hb : exact b = .ok y) :
    exact (a - b) = .error .positiveInfinity := by
  have hsub : (a - b).toModel =
      Float.Model.pack (UnpackedFloat.sub .binary64 a.toModel.unpack b.toModel.unpack) :=
    rfl
  rw [exact_eq] at hb
  rw [sub_eq_add_neg, unpack_of_infinite ha, add_infinite (value_neg hb)] at hsub
  exact exact_of_infinite hsub

/-- Infinity times a positive number is infinity. -/
theorem exact_mul_of_infinite (ha : exact a = .error .positiveInfinity) (hb : exact b = .ok y)
    (hy : 0 < y) : exact (a * b) = .error .positiveInfinity := by
  have hmul : (a * b).toModel =
      Float.Model.pack (UnpackedFloat.mul .binary64 a.toModel.unpack b.toModel.unpack) :=
    rfl
  rw [exact_eq] at hb
  rw [unpack_of_infinite ha] at hmul
  cases hu : b.toModel.unpack with
  | infinity sign => rw [hu] at hb; cases sign <;> cases hb
  | notANumber => rw [hu] at hb; cases hb
  | zero sign => rw [hu] at hb; cases hb; exact absurd hy (lt_irrefl 0)
  | finite sign m e hm =>
    rw [hu] at hb hmul
    cases sign with
    | positive => exact exact_of_infinite hmul
    | negative =>
      have hvalue : ((UnpackedFloat.Sign.negative.apply m : Int) : Rat) * 2 ^ e = y :=
        Except.ok.inj hb
      have hm' : (0 : Rat) < m * 2 ^ e :=
        mul_pos (by exact_mod_cast hm) (zpow_pos (by norm_num) e)
      simp only [UnpackedFloat.Sign.apply, Int.cast_neg, Int.cast_natCast, neg_mul] at hvalue
      linarith only [hvalue, hm', hy]

theorem compare_of_infinite (ha : exact a = .ok x) (hb : exact b = .error .positiveInfinity) :
    a.toModel.unpack.compare b.toModel.unpack = some .lt := by
  rw [exact_eq] at ha
  rw [unpack_of_infinite hb]
  cases hu : a.toModel.unpack with
  | infinity sign => rw [hu] at ha; cases sign <;> cases ha
  | notANumber => rw [hu] at ha; cases ha
  | zero => rfl
  | finite sign => cases sign <;> rfl

theorem lt_of_infinite (ha : exact a = .ok x) (hb : exact b = .error .positiveInfinity) :
    a < b := by
  have hlt : a < b ↔ (a.toModel.unpack.compare b.toModel.unpack == some .lt) = true :=
    decide_eq_true_iff
  rw [hlt, compare_of_infinite ha hb]
  rfl

theorem le_of_infinite (ha : exact a = .ok x) (hb : exact b = .error .positiveInfinity) :
    a ≤ b := by
  have hle : a ≤ b ↔ (a.toModel.unpack.compare b.toModel.unpack).any (·.isLE) = true :=
    decide_eq_true_iff
  rw [hle, compare_of_infinite ha hb]
  rfl

/-! ### Negative infinity -/

theorem unpack_of_negativeInfinity (ha : exact a = .error .negativeInfinity) :
    a.toModel.unpack = .infinity .negative := by
  rw [exact_eq] at ha
  cases hu : a.toModel.unpack with
  | infinity sign =>
    rw [hu] at ha
    cases sign with
    | negative => rfl
    | positive => cases ha
  | _ =>
    rw [hu] at ha
    cases ha

theorem lt_of_negativeInfinity (ha : exact a = .error .negativeInfinity) (hb : exact b = .ok y) :
    a < b := by
  have hlt : a < b ↔ (a.toModel.unpack.compare b.toModel.unpack == some .lt) = true :=
    decide_eq_true_iff
  rw [exact_eq] at hb
  rw [hlt, unpack_of_negativeInfinity ha]
  cases hv : b.toModel.unpack with
  | infinity sign => rw [hv] at hb; cases sign <;> cases hb
  | notANumber => rw [hv] at hb; cases hb
  | zero => rfl
  | finite sign => cases sign <;> rfl

theorem not_lt_of_negativeInfinity (ha : exact a = .ok x)
    (hb : exact b = .error .negativeInfinity) : ¬a < b := by
  have hlt : a < b ↔ (a.toModel.unpack.compare b.toModel.unpack == some .lt) = true :=
    decide_eq_true_iff
  rw [exact_eq] at ha
  rw [hlt, unpack_of_negativeInfinity hb]
  cases hu : a.toModel.unpack with
  | infinity sign => rw [hu] at ha; cases sign <;> cases ha
  | notANumber => rw [hu] at ha; cases ha
  | zero => exact Bool.false_ne_true
  | finite sign => cases sign <;> exact Bool.false_ne_true

/-- Nothing lies below what is no number. -/
theorem not_lt_of_notANumber (hb : exact b = .error .notANumber) : ¬a < b := by
  have hlt : a < b ↔ (a.toModel.unpack.compare b.toModel.unpack == some .lt) = true :=
    decide_eq_true_iff
  rw [exact_eq] at hb
  rw [hlt]
  cases hv : b.toModel.unpack with
  | infinity sign => rw [hv] at hb; cases sign <;> cases hb
  | notANumber => cases a.toModel.unpack <;> exact Bool.false_ne_true
  | _ => rw [hv] at hb; cases hb

end Slideshow.Binary64
