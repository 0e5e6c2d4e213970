import Slideshow.Proofs.Number.Unpacked

/-!
# Packed numbers

A binary64 number is stored in 64 bits. Storing an unpacked number on the grid loses nothing, unless
the number is too large, and what is stored is always on the grid.

## Main definitions

* `Binary64.stored`: what becomes of an unpacked number that is stored.
* `Binary64.exponentBits`, `Binary64.mantissaBits`, `Binary64.signBit`: the parts of the 64 bits.

## Main statements

* `Binary64.unpack_special`, `Binary64.unpack_subnormal`, `Binary64.unpack_normal`: how the bits of
  the exponent decide what is taken out.
* `Binary64.unpack_pack`: what is stored can be taken out again.
* `Binary64.canonical_unpack`: what is taken out is on the grid.
-/

namespace Slideshow.Binary64

open Float.Model Float.Model.UnpackedFloat

/-- What becomes of an unpacked number that is stored. -/
def stored : UnpackedFloat → UnpackedFloat
  | .finite sign m e hm => if e ≤ 971 then .finite sign m e hm else .infinity sign
  | u => u

theorem stored_finite (sign : UnpackedFloat.Sign) (m : Nat) (e : Int) (hm : 0 < m) :
    stored (.finite sign m e hm) = if e ≤ 971 then .finite sign m e hm else .infinity sign :=
  rfl

theorem finite_eq_finite {s s' : UnpackedFloat.Sign} {m m' : Nat} {e e' : Int} {hm : 0 < m}
    {hm' : 0 < m'} (hs : s = s') (h : m = m') (he : e = e') :
    UnpackedFloat.finite s m e hm = .finite s' m' e' hm' := by
  subst hs h he
  rfl

theorem unpackSign_packComponents (sign : UnpackedFloat.Sign) (e : BitVec 11) (m : BitVec 52) :
    UnpackedFloat.Sign.ofBitVec (unpackSign (packComponents .binary64 sign e m)) = sign := by
  show UnpackedFloat.Sign.ofBitVec (BitVec.extractLsb' 63 1 _) = sign
  delta packComponents
  rw [BitVec.extractLsb'_append_eq_of_le (by omega), BitVec.extractLsb'_append_eq_of_le (by omega)]
  cases sign <;> rfl

theorem toNat_append_one (m : BitVec 52) : (1#1 ++ m).toNat = 2 ^ 52 + m.toNat := by
  rw [BitVec.toNat_append, ← Nat.shiftLeft_add_eq_or_of_lt m.isLt]
  rfl

theorem ne_zero_iff {n : Nat} {b : BitVec n} : b ≠ 0#n ↔ b.toNat ≠ 0 := by
  rw [Ne, ← BitVec.toNat_inj, BitVec.toNat_zero]

theorem ne_ones_iff {b : BitVec 11} : b ≠ -1#11 ↔ b.toNat ≠ 2047 := by
  rw [Ne, ← BitVec.toNat_inj]
  rfl

section Unpacking

variable {b : BitVec 64} {sign : UnpackedFloat.Sign} {e m : Nat}

/-- The bits of the exponent. -/
def exponentBits (b : BitVec 64) : BitVec 11 :=
  @unpackExponent .binary64 b

/-- The bits of the mantissa, without the leading one of a number of full length. -/
def mantissaBits (b : BitVec 64) : BitVec 52 :=
  @unpackMantissa .binary64 b

/-- The sign that stands before the other bits. -/
def signBit (b : BitVec 64) : UnpackedFloat.Sign :=
  .ofBitVec (@unpackSign .binary64 b)

theorem unpack_special (h : exponentBits b = -1#11) :
    UnpackedFloat.unpack .binary64 b =
      if mantissaBits b = 0#52 then .infinity (signBit b) else .notANumber :=
  if_pos h

/-- A number below the normal range, or zero. -/
theorem unpack_subnormal (h : exponentBits b = 0#11) :
    UnpackedFloat.unpack .binary64 b =
      if hm : mantissaBits b = 0#52 then .zero (signBit b)
      else .finite (signBit b) (mantissaBits b).toNat (-1074)
        (Nat.pos_of_ne_zero (ne_zero_iff.mp hm)) := by
  have hexponent : ((exponentBits b).toNat : Int) - (1023 + 52 : Int) + 1 = -1074 := by
    rw [h]
    rfl
  have hones : exponentBits b ≠ -1#11 := by
    rw [h]
    decide
  refine (if_neg hones).trans ((if_pos h).trans ?_)
  by_cases hm : mantissaBits b = 0#52
  · rw [dif_pos hm]
    exact dif_pos hm
  · rw [dif_neg hm]
    exact (dif_neg hm).trans (finite_eq_finite rfl rfl hexponent)

/-- A number of full length. -/
theorem unpack_normal (hones : exponentBits b ≠ -1#11) (hzero : exponentBits b ≠ 0#11) :
    UnpackedFloat.unpack .binary64 b =
      .finite (signBit b) (2 ^ 52 + (mantissaBits b).toNat) ((exponentBits b).toNat - 1075)
        (by omega) :=
  (if_neg hones).trans ((if_neg hzero).trans (finite_eq_finite rfl (toNat_append_one _) rfl))

theorem unpack_packComponents (he : 0 < e) (he' : e < 2047) (hm : 2 ^ 52 ≤ m) (hm' : m < 2 ^ 53) :
    UnpackedFloat.unpack .binary64
        (packComponents .binary64 sign (BitVec.ofNat 11 e) (BitVec.ofNat 52 m)) =
      .finite sign m (e - 1075) (by omega) := by
  have hbits : exponentBits (packComponents .binary64 sign (BitVec.ofNat 11 e)
      (BitVec.ofNat 52 m)) = BitVec.ofNat 11 e :=
    unpackExponent_packComponents
  have hmantissa : mantissaBits (packComponents .binary64 sign (BitVec.ofNat 11 e)
      (BitVec.ofNat 52 m)) = BitVec.ofNat 52 m :=
    unpackMantissa_packComponents
  have hexponent : (BitVec.ofNat 11 e).toNat = e := by
    rw [BitVec.toNat_ofNat]
    omega
  rw [unpack_normal (by rw [hbits, ne_ones_iff]; omega) (by rw [hbits, ne_zero_iff]; omega)]
  refine finite_eq_finite (unpackSign_packComponents ..) ?_ ?_
  · rw [hmantissa, BitVec.toNat_ofNat]
    omega
  · rw [hbits, hexponent]

theorem unpack_packComponents_zero (hm : 0 < m) (hm' : m < 2 ^ 52) :
    UnpackedFloat.unpack .binary64 (packComponents .binary64 sign 0#11 (BitVec.ofNat 52 m)) =
      .finite sign m (-1074) hm := by
  have hbits : mantissaBits (packComponents .binary64 sign 0#11 (BitVec.ofNat 52 m)) =
      BitVec.ofNat 52 m :=
    unpackMantissa_packComponents
  have hmantissa : (BitVec.ofNat 52 m).toNat = m := by
    rw [BitVec.toNat_ofNat]
    omega
  rw [unpack_subnormal unpackExponent_packComponents,
    dif_neg (by rw [hbits]; exact ne_zero_iff.mpr (by omega))]
  exact finite_eq_finite (unpackSign_packComponents ..) (by rw [hbits, hmantissa]) rfl

end Unpacking

/-- What is stored can be taken out again. -/
theorem unpack_pack {u : UnpackedFloat} (h : Canonical u) :
    (Float.Model.pack u).unpack = stored u := by
  show UnpackedFloat.unpack .binary64 (UnpackedFloat.pack .binary64 u) = stored u
  cases u with
  | zero sign | infinity sign => cases sign <;> rfl
  | notANumber => rfl
  | finite sign m e hm =>
    obtain ⟨hlt, hform⟩ := h
    have hpack : UnpackedFloat.pack .binary64 (.finite sign m e hm) =
        if 2 ^ 11 ≤ (e + 1023 + 52).toNat + 1 then packedInfinity .binary64 sign
        else if m.log2 + 1 = 53 then
          packComponents .binary64 sign (BitVec.ofNat 11 (e + 1023 + 52).toNat) (BitVec.ofNat 52 m)
        else packComponents .binary64 sign 0#11 (BitVec.ofNat 52 m) :=
      rfl
    rw [add_assoc e 1023 52] at hpack
    rw [hpack, stored_finite]
    by_cases hmax : e ≤ 971
    · rw [if_pos hmax, if_neg (by omega)]
      by_cases hfull : 2 ^ 52 ≤ m
      · have hlog : m.log2 = 52 := (Nat.log2_eq_iff hm.ne').mpr ⟨hfull, hlt⟩
        rw [if_pos (by omega), unpack_packComponents (by omega) (by omega) hfull hlt]
        exact finite_eq_finite rfl rfl (by omega)
      -- Only the finest grid has shorter mantissas, and the exponent bits are zero there.
      · have hlog : m.log2 ≠ 52 := fun h => hfull ((Nat.log2_eq_iff hm.ne').mp h).1
        obtain rfl : e = -1074 := by omega
        rw [if_neg (by omega), unpack_packComponents_zero hm (by omega)]
    · rw [if_neg hmax, if_pos (by omega)]
      cases sign <;> rfl

/-- What is taken out is on the grid and not too large. -/
theorem canonical_unpack (x : Float.Model) : Canonical x.unpack ∧ stored x.unpack = x.unpack := by
  let b := x.toBits.toBitVec
  show Canonical (UnpackedFloat.unpack .binary64 b) ∧ stored (UnpackedFloat.unpack .binary64 b) =
    UnpackedFloat.unpack .binary64 b
  have hmantissa := (mantissaBits b).isLt
  have hexponent := (exponentBits b).isLt
  by_cases hones : exponentBits b = -1#11
  · rw [unpack_special hones]
    by_cases hzero : mantissaBits b = 0#52
    · rw [if_pos hzero]
      exact ⟨trivial, rfl⟩
    · rw [if_neg hzero]
      exact ⟨trivial, rfl⟩
  by_cases hsmall : exponentBits b = 0#11
  · rw [unpack_subnormal hsmall]
    by_cases hzero : mantissaBits b = 0#52
    · rw [dif_pos hzero]
      exact ⟨trivial, rfl⟩
    · rw [dif_neg hzero]
      exact ⟨⟨by omega, .inl rfl⟩, rfl⟩
  · have hlow := ne_zero_iff.mp hsmall
    have hhigh := ne_ones_iff.mp hones
    rw [unpack_normal hones hsmall, stored_finite, if_pos (by omega)]
    exact ⟨⟨by omega, .inr ⟨by omega, by omega⟩⟩, rfl⟩

end Slideshow.Binary64
