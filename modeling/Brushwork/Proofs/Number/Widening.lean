import Mathlib
import Brushwork.Proofs.Number.Value

/-!
# Widening a single-precision number

The double-precision number that a finite one is widened to has the same value
(`Binary.hasValue_widen`). Its units are smaller, so there are more of them, and their
significand leaves nothing (`BinaryFormat.nearest_two_pow`, `BinaryFormat.units_ofUnits`). A zero
is widened to a zero (`Binary.widen_beq_zero`).
-/

namespace Brushwork

open Float.Model
open BinaryFormat (single double)

/-- Over a power of two, a number is a number of units. -/
theorem BinaryFormat.nearest_two_pow (f : BinaryFormat) (n k : Nat) (h : k ≤ f.unitPlaces) :
    f.nearest n (2 ^ k) = f.ofUnits (n * 2 ^ (f.unitPlaces - k)) := by
  have hscaled : n * 2 ^ f.unitPlaces = n * 2 ^ (f.unitPlaces - k) * 2 ^ k := by
    rw [Nat.mul_assoc, ← Nat.pow_add, Nat.sub_add_cancel h]
  have hpos : 0 < 2 ^ k := Nat.two_pow_pos k
  unfold nearest ofUnits significand places
  simp only [Nat.pow_eq, hscaled, Nat.mul_div_cancel _ hpos]
  rw [Nat.mul_comm (2 ^ k), roundToEven_mul_right _ _ hpos]

namespace Double

section Bits

variable (b : BitVec Format.binary64.numBits)

theorem toNat_unpackExponent :
    (UnpackedFloat.unpackExponent b).toNat = b.toNat / 2 ^ 52 % 2 ^ 11 := by
  rw [UnpackedFloat.unpackExponent_def, BitVec.extractLsb'_toNat, Nat.shiftRight_eq_div_pow]

/-- Packing what bits are read as gives the bits back, if their exponent is that of a finite
number. -/
theorem pack_unpack_of_lt (h : b.toNat % 2 ^ 63 < 2047 * 2 ^ 52) :
    UnpackedFloat.pack .binary64 (UnpackedFloat.unpack .binary64 b) = b := by
  have hexponent : UnpackedFloat.unpackExponent b ≠ -1#11 := by
    intro hones
    have hnat := toNat_unpackExponent b
    rw [hones, show (-1#11).toNat = 2047 from rfl] at hnat
    omega
  rw [UnpackedFloat.pack_unpack, if_neg]
  rw [UnpackedFloat.isNaNBits, decide_eq_true_iff]
  exact fun hnan => hexponent hnan.1

end Bits

/-- A finite code with a sign is the bits of a number. -/
theorem bits_ofCode (negative : Bool) {c : Nat} (h : c < double.infinity) :
    Binary.bits (Binary.ofCode negative c : Float) = c + if negative then 2 ^ 63 else 0 := by
  have hinfinity : double.infinity = 2047 * 2 ^ 52 := rfl
  rw [hinfinity] at h
  obtain ⟨n, hn⟩ : ∃ n, n = c + if negative then 2 ^ 63 else 0 := ⟨_, rfl⟩
  have hlt : n < 2 ^ 64 := by
    rw [hn]
    split_ifs <;> omega
  have hmod : n % 2 ^ 63 = c := by
    rw [hn]
    split_ifs <;> omega
  have hnat : (UInt64.ofNat n).toBitVec.toNat = n := UInt64.toNat_ofNat_of_lt' hlt
  have hpack := pack_unpack_of_lt (UInt64.ofNat n).toBitVec (by rw [hnat, hmod]; exact h)
  rw [← hn]
  calc Binary.bits (Binary.ofCode negative c : Float)
      = (UnpackedFloat.pack .binary64
          (UnpackedFloat.unpack .binary64 (UInt64.ofNat n).toBitVec)).toNat := by rw [hn]; rfl
    _ = n := by rw [hpack, hnat]

theorem code_ofCode (negative : Bool) {c : Nat} (h : c < double.infinity) :
    Binary.code (Binary.ofCode negative c : Float) = c ∧
      Binary.isNegative (Binary.ofCode negative c : Float) = negative := by
  have hinfinity : double.infinity = 2047 * 2 ^ 52 := rfl
  have hplace : (Binary.format Float).signPlace = 2 ^ 63 := rfl
  rw [Binary.code, Binary.isNegative, bits_ofCode negative h, hplace]
  rw [hinfinity] at h
  cases negative with
  | true => exact ⟨by rw [if_pos rfl]; omega, decide_eq_true (Nat.le_add_left ..)⟩
  | false =>
    rw [if_neg Bool.false_ne_true]
    exact ⟨Nat.mod_eq_of_lt (by omega), decide_eq_false (by omega)⟩

/-- Counted in the smaller units, a single-precision number keeps all of its significand. -/
theorem units_ofUnits_units {code : Nat} (h : code < 255 * 2 ^ 23) :
    double.ofUnits (single.units code * 2 ^ 925) < double.infinity ∧
      double.units (double.ofUnits (single.units code * 2 ^ 925)) =
        single.units code * 2 ^ 925 := by
  have hfraction : double.fractionBits = 52 := rfl
  have hinfinity : double.infinity = 2047 * 2 ^ 52 := rfl
  have hshift : Single.shiftOf code < 254 := by
    unfold Single.shiftOf
    omega
  have hplaces : double.places (single.units code * 2 ^ 925) ≤ Single.shiftOf code + 925 := by
    rw [Single.units_eq, Nat.mul_assoc, ← Nat.pow_add]
    rcases Nat.eq_zero_or_pos (Single.mantissaOf code) with hzero | hpos
    · rw [hzero, Nat.zero_mul]
      exact Nat.zero_le _
    · have hlog : (Single.mantissaOf code).log2 < 24 :=
        (Nat.log2_lt hpos.ne').2 (Single.mantissaOf_lt code)
      rw [BinaryFormat.places, log2_mul_two_pow hpos, hfraction]
      omega
  obtain ⟨-, hhigh⟩ := double.significand_bounds (single.units code * 2 ^ 925)
  have hlt : double.ofUnits (single.units code * 2 ^ 925) < double.infinity := by
    refine (min_le_left _ _).trans_lt ?_
    rw [hfraction] at hhigh ⊢
    omega
  refine ⟨hlt, double.units_ofUnits ?_ hlt⟩
  refine (Nat.pow_dvd_pow 2 hplaces).trans ?_
  rw [Single.units_eq, Nat.mul_assoc, ← Nat.pow_add]
  exact Nat.dvd_mul_left ..

end Double

namespace Binary

theorem widen_of_isFinite {x : Float32} (h : isFinite x = true) :
    widen x = ofCode (isNegative x) (double.ofUnits (single.units (code x) * 2 ^ 925)) := by
  have hone : Nat.pow 2 (format Float32).unitPlaces = 2 ^ 149 := rfl
  have hgap : double.unitPlaces - 149 = 925 := rfl
  have hnearest := double.nearest_two_pow (single.units (code x)) 149 (by decide)
  rw [hgap, ← hone] at hnearest
  rw [widen, convert, if_pos h, ← hnearest]
  rfl

/-- Widening a finite number keeps its value. -/
theorem hasValue_widen {x : Float32} {q : ℚ} (hx : HasValue x q) : HasValue (widen x) q := by
  obtain ⟨h, rfl⟩ := hx
  obtain ⟨hlt, hunits⟩ := Double.units_ofUnits_units (isFinite_iff.1 h)
  obtain ⟨hcode, hsign⟩ := Double.code_ofCode (isNegative x) hlt
  have hformat : format Float = double := rfl
  rw [← hformat] at hlt
  refine ⟨?_, ?_⟩
  · rw [isFinite, widen_of_isFinite h, hcode]
    exact decide_eq_true hlt
  · have hplaces : double.unitPlaces = 149 + 925 := rfl
    have hpos : (2 : ℚ) ^ 925 ≠ 0 := by positivity
    rw [value_eq_signedUnits_div, value, widen_of_isFinite h, hcode, hsign, hformat, hunits,
      Single.signed_mul, Int.cast_mul, Int.cast_natCast, hplaces, Nat.cast_pow, Nat.cast_pow,
      Nat.cast_ofNat, pow_add, mul_div_mul_right _ _ hpos]
    rfl

/-- Only the two zeros are equal to zero. -/
theorem code_eq_zero_of_beq_zero {x : Float32} (h : (x == 0) = true) : code x = 0 := by
  have hbeq : x.toModel.unpack.beq (0 : Float32).toModel.unpack = true := h
  have hzero : signedCode 0 = 0 := by decide
  rw [UnpackedFloat.beq, compare_unpack, hzero] at hbeq
  split_ifs at hbeq
  · rw [beq_iff_eq, Option.some_inj, compare_eq_iff_eq, signedCode, Single.signed] at hbeq
    split_ifs at hbeq <;> omega
  · cases hbeq

/-- A zero is widened to one. -/
theorem widen_beq_zero {x : Float32} (h : (x == 0) = true) : (widen x == 0) = true := by
  rw [← ofCode_code x, code_eq_zero_of_beq_zero h]
  cases isNegative x <;> decide +kernel

end Binary

end Brushwork
