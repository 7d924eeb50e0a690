import ClientWiring.Double
import Mathlib

/-!
# Doubles above zero

The bits of a double are its sign, its exponent and its fraction, from the highest bit down.  Arithmetic takes
them apart first, and a double that stands for no number becomes the one that stands for all of those; apart
from that nothing is lost on the way                                                   (unpack_toFloat).
So the order of the numbers can be read off the bits: above zero are the doubles without sign from the
smallest fraction up to the infinite number, and neither a zero nor what stands for no number is among them:

    bits of x                                  0.0 < x
    0                                          no
    0x0000000000000001 … 0x7FF0000000000000    yes
    all above, with sign or no number          no                                 (zero_lt_toFloat_iff)
-/

namespace ClientWiring.Double

open Float.Model (Format UnpackedFloat)
open Float.Model.UnpackedFloat

/-- A double is above zero: its bits are those of a number, or of the infinite one, without sign. -/
def IsPositive (x : Double) : Prop := 0 < x.bits ∧ x.bits ≤ infinityBits

instance (x : Double) : Decidable x.IsPositive :=
  inferInstanceAs (Decidable (0 < x.bits ∧ x.bits ≤ infinityBits))

/-! ## What the bits stand for -/

/-- Bits that stand for no number come out as the one pattern for it, and all others as they are. -/
theorem unpack_toFloat (x : Double) :
    x.toFloat.toModel.unpack = unpack Format.binary64 x.bits.toBitVec := by
  show unpack Format.binary64 (pack Format.binary64 (unpack Format.binary64 x.bits.toBitVec)) = _
  rw [pack_unpack]
  by_cases hnan : @isNaNBits Format.binary64 x.bits.toBitVec = true
  · obtain ⟨hones, hfraction⟩ := of_decide_eq_true hnan
    rw [if_pos hnan, unpack_packedNaN, unpack]
    simp only [if_pos hones, if_neg hfraction]
  · rw [if_neg hnan]

variable (b : BitVec 64)

theorem sign_eq_positive_iff :
    Sign.ofBitVec (@unpackSign Format.binary64 b) = .positive ↔ b.toNat < 2 ^ 63 := by
  have hlt : b.toNat < 2 ^ 64 := b.isLt
  have hbit : (@unpackSign Format.binary64 b).toNat = b.toNat / 2 ^ 63 := by
    unfold unpackSign
    rw [BitVec.toNat_cast, BitVec.extractLsb_toNat, Nat.shiftRight_eq_div_pow]
    show b.toNat / 2 ^ 63 % 2 ^ 1 = _
    omega
  have hzero : @unpackSign Format.binary64 b = 0#1 ↔ b.toNat < 2 ^ 63 := by
    rw [← BitVec.toNat_inj, hbit]
    show b.toNat / 2 ^ 63 = 0 ↔ _
    omega
  rw [← hzero, Sign.ofBitVec]
  by_cases h : @unpackSign Format.binary64 b = 0#1 <;> simp [h]

theorem exponent_eq_ones_iff :
    @unpackExponent Format.binary64 b = -1#11 ↔ b.toNat / 2 ^ 52 % 2 ^ 11 = 2047 := by
  unfold unpackExponent
  rw [← BitVec.toNat_inj, BitVec.toNat_cast, BitVec.extractLsb_toNat, Nat.shiftRight_eq_div_pow]
  rfl

theorem exponent_eq_zero_iff :
    @unpackExponent Format.binary64 b = 0#11 ↔ b.toNat / 2 ^ 52 % 2 ^ 11 = 0 := by
  unfold unpackExponent
  rw [← BitVec.toNat_inj, BitVec.toNat_cast, BitVec.extractLsb_toNat, Nat.shiftRight_eq_div_pow]
  rfl

theorem fraction_eq_zero_iff :
    @unpackMantissa Format.binary64 b = 0#52 ↔ b.toNat % 2 ^ 52 = 0 := by
  unfold unpackMantissa
  rw [← BitVec.toNat_inj, BitVec.toNat_cast, BitVec.extractLsb_toNat, Nat.shiftRight_eq_div_pow]
  simp

/-! ## Above zero -/

theorem zero_lt_infinity_iff (s : Sign) :
    (UnpackedFloat.zero .positive).lt (.infinity s) = true ↔ s = .positive := by
  cases s with
  | negative => exact iff_of_false Bool.false_ne_true (fun h => by cases h)
  | positive => exact iff_of_true rfl rfl

theorem zero_lt_finite_iff (s : Sign) (m : Nat) (e : Int) (h : 0 < m) :
    (UnpackedFloat.zero .positive).lt (.finite s m e h) = true ↔ s = .positive := by
  cases s with
  | negative => exact iff_of_false Bool.false_ne_true (fun h => by cases h)
  | positive => exact iff_of_true rfl rfl

/-- Numbers and the infinite one are above zero if they have no sign; by cases on what the bits stand for. -/
theorem zero_lt_unpack_iff :
    (UnpackedFloat.zero .positive).lt (unpack Format.binary64 b) = true ↔
      0 < b.toNat ∧ b.toNat ≤ 2047 * 2 ^ 52 := by
  have hlt : b.toNat < 2 ^ 64 := b.isLt
  unfold unpack
  by_cases hones : @unpackExponent Format.binary64 b = -1#11
  · have hexponent := (exponent_eq_ones_iff b).mp hones
    by_cases hzero : @unpackMantissa Format.binary64 b = 0#52
    · have hfraction := (fraction_eq_zero_iff b).mp hzero
      simp only [if_pos hones, if_pos hzero, zero_lt_infinity_iff, sign_eq_positive_iff]
      omega
    · have hfraction := mt (fraction_eq_zero_iff b).mpr hzero
      simp only [if_pos hones, if_neg hzero]
      refine iff_of_false Bool.false_ne_true ?_
      omega
  · have hexponent := mt (exponent_eq_ones_iff b).mpr hones
    by_cases hbare : @unpackExponent Format.binary64 b = 0#11
    · have hnone := (exponent_eq_zero_iff b).mp hbare
      by_cases hzero : @unpackMantissa Format.binary64 b = 0#52
      · have hfraction := (fraction_eq_zero_iff b).mp hzero
        simp only [if_neg hones, if_pos hbare, dif_pos hzero]
        refine iff_of_false Bool.false_ne_true ?_
        omega
      · have hfraction := mt (fraction_eq_zero_iff b).mpr hzero
        simp only [if_neg hones, if_pos hbare, dif_neg hzero, zero_lt_finite_iff,
          sign_eq_positive_iff]
        omega
    · have hsome := mt (exponent_eq_zero_iff b).mpr hbare
      simp only [if_neg hones, if_neg hbare, zero_lt_finite_iff, sign_eq_positive_iff]
      omega

/-- Which doubles compare as greater than zero can be read off their bits. -/
theorem zero_lt_toFloat_iff (x : Double) : 0.0 < x.toFloat ↔ x.IsPositive := by
  have hzero : (0.0 : Float).toModel.unpack = .zero .positive := by rfl
  have hlt : 0.0 < x.toFloat ↔
      (UnpackedFloat.zero .positive).lt x.toFloat.toModel.unpack = true := by
    rw [← hzero]
    exact decide_eq_true_iff
  rw [hlt, unpack_toFloat, zero_lt_unpack_iff]
  unfold IsPositive
  rw [UInt64.lt_iff_toNat_lt, UInt64.le_iff_toNat_le]
  rfl

end ClientWiring.Double
