import Arbor.Number
import Mathlib

set_option autoImplicit false

/-! # The bits of a finite float

`Decimal.toFloat` makes a `Float` by writing its bits, and `Decimal.shapeOf` reads them back. A
word whose exponent field is not all ones is a finite float, and making a float of it keeps it as
it is (`Decimal.toBits_ofBits`): only the payloads of NaNs are normalized. So a mantissa and an
exponent in the range of binary64 (`Decimal.InRange`) are read back as they were written
(`Decimal.shapeOf_toFloat`), and the ceiling of the float they make is the least integer not
below `m · 2 ^ q` (`Decimal.ceil_toFloat`).
-/

open Float.Model Float.Model.UnpackedFloat

namespace Arbor

namespace Decimal

/-! ## Words that are finite floats -/

theorem sign_toBitVec_ofBitVec (v : BitVec 1) : (Sign.ofBitVec v).toBitVec = v := by
  unfold Sign.ofBitVec
  split
  · next h => exact h.symm
  · next h =>
    apply BitVec.eq_of_toNat_eq
    have hne : v.toNat ≠ 0 := fun h0 => h (BitVec.eq_of_toNat_eq h0)
    have hlt := v.isLt
    simp only [Sign.toBitVec, BitVec.toNat_ofNat]
    omega

/-- A word is its sign, exponent and mantissa fields put back together. -/
theorem packComponents_fields (b : BitVec Format.binary64.numBits) :
    packComponents Format.binary64 (Sign.ofBitVec (unpackSign b)) (unpackExponent b)
      (unpackMantissa b) = b := by
  apply BitVec.eq_of_toNat_eq
  have hb : b.toNat < 2 ^ 64 := b.isLt
  simp only [packComponents, sign_toBitVec_ofBitVec, BitVec.toNat_append, unpackSign,
    unpackExponent, unpackMantissa, BitVec.toNat_cast, BitVec.extractLsb_toNat]
  simp only [Format.binary64, Nat.reduceAdd, Nat.reduceSub, Nat.reducePow, Nat.shiftRight_zero]
  rw [← Nat.shiftLeft_add_eq_or_of_lt (by omega), ← Nat.shiftLeft_add_eq_or_of_lt (by omega)]
  simp only [Nat.shiftLeft_eq, Nat.shiftRight_eq_div_pow, Nat.reducePow]
  omega

/-- Unpacking a word that is no NaN and packing it again gives the word back: zeros, subnormal
and normal values are each packed from the fields they were read from. -/
theorem pack_unpack (b : BitVec Format.binary64.numBits) (hb : unpackExponent b ≠ -1#11) :
    UnpackedFloat.pack Format.binary64 (UnpackedFloat.unpack Format.binary64 b) = b := by
  have hE := (unpackExponent b).isLt
  have hM := (unpackMantissa b).isLt
  simp only [Format.binary64] at hE hM
  refine Eq.trans ?_ (packComponents_fields b)
  unfold UnpackedFloat.unpack
  simp only [hb, ↓reduceIte]
  split
  · next h0 =>
    split
    · next hm0 =>
      simp only [UnpackedFloat.pack, packedZero, h0, hm0]
      rfl
    · next hm0 =>
      -- a subnormal value: exponent field zero, a mantissa shorter than 53 bits
      have hm : (unpackMantissa b).toNat ≠ 0 := fun h =>
        hm0 (BitVec.eq_of_toNat_eq (by simpa using h))
      have hlog : (unpackMantissa b).toNat.log2 < 52 := (Nat.log2_lt hm).mpr hM
      simp only [UnpackedFloat.pack, Format.exponentBias, Format.mantissaBits, Format.binary64, h0]
      have hne : (unpackMantissa b).toNat.log2 + 1 ≠ 1 + 52 := by omega
      simp [hne]
  · next h0 =>
    -- a normal value: the implicit leading bit makes the mantissa 53 bits long
    have hE' : (unpackExponent b).toNat ≠ 2047 := fun h =>
      hb (BitVec.eq_of_toNat_eq (by simpa using h))
    have hval : (1#1 ++ unpackMantissa b).toNat = 2 ^ 52 + (unpackMantissa b).toNat := by
      rw [BitVec.toNat_append, ← Nat.shiftLeft_add_eq_or_of_lt hM]
      rfl
    have hlog : (1#1 ++ unpackMantissa b).toNat.log2 = 52 := by
      rw [hval, Nat.log2_eq_iff (by omega)]
      exact ⟨by omega, by omega⟩
    have hexp : (((unpackExponent b).toNat : Int) - 1075 + 1023 + 52).toNat =
        (unpackExponent b).toNat := by omega
    have hlow : BitVec.setWidth 52 (1#1 ++ unpackMantissa b) = unpackMantissa b := by
      apply BitVec.eq_of_toNat_eq
      rw [BitVec.toNat_setWidth, hval]
      omega
    have hfin : ¬ 2047 ≤ (unpackExponent b).toNat := by omega
    simp only [UnpackedFloat.pack, Format.exponentBias, Format.mantissaBits, Format.binary64, hlog]
    simp [hexp, hlow, hfin]

theorem exponentField_toNat (b : UInt64) : ((b >>> 52) &&& 0x7FF).toNat = b.toNat / 2 ^ 52 % 2 ^ 11 := by
  rw [UInt64.toNat_and, UInt64.toNat_shiftRight]
  have hmask : (0x7FF : UInt64).toNat = 2 ^ 11 - 1 := rfl
  rw [hmask, Nat.and_two_pow_sub_one_eq_mod, Nat.shiftRight_eq_div_pow]
  simp

theorem fractionField_toNat (b : UInt64) : (b &&& 0xFFFFFFFFFFFFF).toNat = b.toNat % 2 ^ 52 := by
  rw [UInt64.toNat_and]
  have hmask : (0xFFFFFFFFFFFFF : UInt64).toNat = 2 ^ 52 - 1 := rfl
  rw [hmask, Nat.and_two_pow_sub_one_eq_mod]

theorem signBit_toNat (b : UInt64) : (b >>> 63).toNat = b.toNat / 2 ^ 63 := by
  rw [UInt64.toNat_shiftRight, Nat.shiftRight_eq_div_pow]
  simp

/-- **A word that is no NaN is kept by a float.** Making a float of a word whose exponent field
is not all ones and reading its bits gives the word back. -/
theorem toBits_ofBits (b : UInt64) (hb : b.toNat / 2 ^ 52 % 2 ^ 11 ≠ 2047) :
    (Float.ofBits b).toBits = b := by
  have hfield : @unpackExponent Format.binary64 b.toBitVec ≠ -1#11 := by
    intro h
    have hnat := congrArg BitVec.toNat h
    simp only [unpackExponent, BitVec.toNat_cast, BitVec.extractLsb_toNat, Format.binary64,
      Nat.shiftRight_eq_div_pow] at hnat
    exact hb (by simpa using hnat)
  show UInt64.ofBitVec (UnpackedFloat.pack Format.binary64
    (UnpackedFloat.unpack Format.binary64 b.toBitVec)) = b
  rw [pack_unpack _ hfield]

/-! ## Mantissas and exponents that binary64 holds -/

/-- A mantissa and an exponent that binary64 holds as they are: `m · 2 ^ q` with `m` below
`2 ^ 53` and `q` in the exponent range, `m` of full length unless the value is subnormal. -/
structure InRange (m : Nat) (q : Int) : Prop where
  mantissa_lt : m < 2 ^ 53
  exponent_ge : -1074 ≤ q
  exponent_le : q ≤ 971
  subnormal : m < 2 ^ 52 → q = -1074

/-- **A float is read back as it was written.** The shape of the non-negative float built from a
mantissa and an exponent in range is that mantissa and exponent. -/
theorem toNat_ofNat_of_lt {word : Nat} (hlt : word < 2 ^ 64) :
    (UInt64.ofNat word).toNat = word := by
  rw [UInt64.toNat_ofNat']
  omega

/-- A word below `2 ^ 63` has a clear sign bit. -/
theorem signBit_ofNat {word : Nat} (hlt : word < 2 ^ 63) :
    (UInt64.ofNat word >>> 63 == 1) = false := by
  rw [beq_eq_false_iff_ne]
  intro h
  have hnat := congrArg UInt64.toNat h
  rw [signBit_toNat, toNat_ofNat_of_lt (by omega)] at hnat
  simp at hnat
  omega

/-- A word whose exponent field is not all ones has a finite exponent field. -/
theorem exponentField_ofNat {word : Nat} (hlt : word < 2 ^ 64)
    (hfield : word / 2 ^ 52 % 2 ^ 11 ≠ 2047) :
    (UInt64.ofNat word >>> 52 &&& 0x7FF == 0x7FF) = false := by
  rw [beq_eq_false_iff_ne]
  intro h
  have hnat := congrArg UInt64.toNat h
  rw [exponentField_toNat, toNat_ofNat_of_lt hlt] at hnat
  exact hfield hnat

theorem shapeOf_toFloat {m : Nat} {q : Int} (h : InRange m q) :
    ∃ narrow, shapeOf (toFloat false m q) = .finite false ⟨m, q, narrow⟩ := by
  have hm := h.mantissa_lt
  have hq₁ := h.exponent_ge
  have hq₂ := h.exponent_le
  -- the word as a number: the mantissa alone when subnormal, else the biased exponent above the
  -- 52 fraction bits
  obtain ⟨word, hword, hexp, hfrac, hlt⟩ : ∃ word : Nat,
      toFloat false m q = Float.ofBits (.ofNat word) ∧
      (word / 2 ^ 52 % 2 ^ 11 = if m < 2 ^ 52 then 0 else (q + 1075).toNat) ∧
      word % 2 ^ 52 = (if m < 2 ^ 52 then m else m - 2 ^ 52) ∧ word < 2 ^ 63 := by
    refine ⟨if m < 2 ^ 52 then m else (q + 1075).toNat * 2 ^ 52 + (m - 2 ^ 52),
      by simp [toFloat], ?_⟩
    split <;> omega
  have hbits : (UInt64.ofNat word).toNat = word := toNat_ofNat_of_lt (by omega)
  have hfield : word / 2 ^ 52 % 2 ^ 11 ≠ 2047 := by
    rw [hexp]
    split <;> omega
  have hkeep : (Float.ofBits (.ofNat word)).toBits = .ofNat word :=
    toBits_ofBits _ (by rwa [hbits])
  unfold shapeOf Binary.ofBits
  simp only [hword, hkeep, signBit_ofNat hlt, exponentField_ofNat (by omega) hfield,
    Bool.false_eq_true, ↓reduceIte, exponentField_toNat, fractionField_toNat, hbits]
  by_cases hsub : m < 2 ^ 52
  · rw [if_pos hsub] at hexp hfrac
    exact ⟨false, by simp only [hexp, hfrac, h.subnormal hsub, beq_self_eq_true, ↓reduceIte]⟩
  · rw [if_neg hsub] at hexp hfrac
    have hbiased : (q + 1075).toNat ≠ 0 := by omega
    have hmant : 2 ^ 52 + (m - 2 ^ 52) = m := by omega
    have hq : ((q + 1075).toNat : Int) - 1075 = q := by omega
    have hne : ((q + 1075).toNat == 0) = false := by simpa using hbiased
    refine ⟨m - 2 ^ 52 == 0 && decide ((q + 1075).toNat > 1), ?_⟩
    simp only [hexp, hfrac, hne, Bool.false_eq_true, ↓reduceIte, hmant, hq]

/-! ## The ceiling of a float -/

/-- The least integer not below `a / b` is `(a + b - 1) / b`, for a positive `b`. -/
theorem ceil_div_eq (a : ℤ) {b : ℤ} (hb : 0 < b) : ⌈(a : ℚ) / b⌉ = (a + b - 1) / b := by
  have hdiv := Int.mul_ediv_add_emod (a + b - 1) b
  have hr₀ := Int.emod_nonneg (a + b - 1) hb.ne'
  have hr₁ := Int.emod_lt_of_pos (a + b - 1) hb
  have hbq : (0 : ℚ) < b := by exact_mod_cast hb
  rw [Int.ceil_eq_iff]
  constructor
  · rw [lt_div_iff₀ hbq]
    exact_mod_cast (by linarith : ((a + b - 1) / b - 1) * b < a)
  · rw [div_le_iff₀ hbq]
    exact_mod_cast (by linarith : a ≤ (a + b - 1) / b * b)

/-- A power of two with an integer exponent, as a ratio of natural powers. -/
theorem two_zpow_eq_div (q : ℤ) : (2 : ℚ) ^ q = 2 ^ q.toNat / 2 ^ (-q).toNat := by
  rcases le_total 0 q with hq | hq
  · have hneg : (-q).toNat = 0 := by omega
    rw [hneg, pow_zero, div_one, ← zpow_natCast, Int.toNat_of_nonneg hq]
  · have hpos : q.toNat = 0 := by omega
    rw [hpos, pow_zero, one_div, ← zpow_natCast, Int.toNat_of_nonneg (by omega), zpow_neg, inv_inv]

/-- **The ceiling of a float in range.** The ceiling of the non-negative float built from a
mantissa and an exponent in range is the least integer not below `m · 2 ^ q`. -/
theorem ceil_toFloat {m : Nat} {q : Int} (h : InRange m q) :
    (Num.float (toFloat false m q)).ceil = .ok ⌈(m : ℚ) * 2 ^ q⌉ := by
  obtain ⟨narrow, hshape⟩ := shapeOf_toFloat h
  have hscale : (0 : ℤ) < 2 ^ (-q).toNat := by positivity
  have hvalue : (m : ℚ) * 2 ^ q = ((m * 2 ^ q.toNat : ℕ) : ℤ) / ((2 ^ (-q).toNat : ℕ) : ℤ) := by
    rw [two_zpow_eq_div]
    push_cast
    ring
  rw [hvalue, ceil_div_eq _ (by exact_mod_cast hscale)]
  simp [Num.ceil, hshape]

end Decimal

end Arbor
