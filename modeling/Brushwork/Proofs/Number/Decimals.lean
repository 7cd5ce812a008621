import Brushwork.Number.Shortest
import Brushwork.Proofs.Number.Digits
import Brushwork.Proofs.Number.Widening

/-!
# The shortest decimal reads back

A decimal names the number nearest to it. Its exponent can be folded into its digits
(`BinaryFormat.ofDecimal_mul_pow`). The exact decimal of a finite magnitude names the magnitude
(`Single.ofDecimal_exactDigits`) : a unit is `5 ^ 149 / 10 ^ 149`, and the decimal is neither too
long nor too short for its power of ten to be worked out. The shortest decimal is found among
those that name it, so it does too (`BinaryFormat.ofDecimal_shortest`).
-/

namespace Brushwork

open BinaryFormat (single decimalLength)

namespace BinaryFormat

variable (f : BinaryFormat)

/-! ## Numbers nearest to a decimal -/

theorem nearest_mul_right (num den : Nat) {c : Nat} (hc : 0 < c) :
    f.nearest (num * c) (den * c) = f.nearest num den := by
  have hscaled : num * c * 2 ^ f.unitPlaces = num * 2 ^ f.unitPlaces * c := Nat.mul_right_comm ..
  unfold nearest
  simp only [Nat.pow_eq, hscaled, Nat.mul_div_mul_right _ _ hc]
  rw [Nat.mul_right_comm den c, roundToEven_mul_right _ _ hc]

theorem decimalLength_le_iff {n k : Nat} (hk : 0 < k) : decimalLength n ≤ k ↔ n < 10 ^ k :=
  Nat.length_toDigits_le_iff (by decide) hk

/-- A zero more makes a number one digit longer. -/
theorem decimalLength_mul_pow {n : Nat} (hn : 0 < n) (k : Nat) :
    decimalLength (n * 10 ^ k) = decimalLength n + k := by
  induction k with
  | zero => rw [Nat.pow_zero, Nat.mul_one, Nat.add_zero]
  | succ k ih =>
    have hpos : 0 < n * 10 ^ k := Nat.mul_pos hn (Nat.pow_pos (by decide))
    have hnext : n * 10 ^ (k + 1) = 10 * (n * 10 ^ k) + 0 := by rw [Nat.pow_succ]; ring
    rw [hnext, decimalLength, ← Nat.toDigits_append_toDigits (by decide) hpos (by decide),
      List.length_append, Nat.toDigits_zero, List.length_singleton, ← Nat.add_assoc, ← ih]
    rfl

theorem ofDecimal_zero (exponent : Int) : f.ofDecimal 0 exponent = 0 := by
  unfold ofDecimal
  dsimp only
  rw [if_pos rfl]

/-- A decimal whose exponent is folded into its digits has the same number nearest to it. -/
theorem ofDecimal_mul_pow (digits k : Nat) :
    f.ofDecimal (digits * 10 ^ k) 0 = f.ofDecimal digits k := by
  rcases Nat.eq_zero_or_pos digits with rfl | hpos
  · rw [Nat.zero_mul, ofDecimal_zero, ofDecimal_zero]
  · have hne : digits * 10 ^ k ≠ 0 := (Nat.mul_pos hpos (Nat.pow_pos (by decide))).ne'
    unfold ofDecimal
    simp only [decimalLength_mul_pow hpos, if_neg hne, if_neg hpos.ne', Nat.pow_eq]
    simp [Nat.add_comm]

/-- A decimal that is neither far beyond the format's range nor far below it. -/
theorem ofDecimal_of_bounds {digits : Nat} {exponent : Int} (hdigits : digits ≠ 0)
    (hlarge : 3 * (exponent + decimalLength digits - 1) < (2 ^ (f.exponentBits - 1) : Nat))
    (hsmall : -((f.unitPlaces : Int) + 1) < 3 * (exponent + decimalLength digits)) :
    f.ofDecimal digits exponent =
      f.nearest (digits * 10 ^ exponent.toNat) (10 ^ (-exponent).toNat) := by
  unfold ofDecimal
  simp only [Nat.pow_eq]
  rw [if_neg hdigits, if_neg (not_le.2 hlarge), if_neg (not_le.2 hsmall)]

/-! ## The shortest decimal -/

theorem ofDecimal_of_shortened? {code exact dropped digits : Nat}
    (h : f.shortened? code exact dropped = some digits) :
    f.ofDecimal digits ((dropped : Int) - f.unitPlaces) = code := by
  unfold shortened? at h
  dsimp only at h
  split at h
  case h_1 hlow hnext =>
    obtain rfl := Option.some.inj h
    split_ifs
    · exact beq_iff_eq.1 hlow
    · exact beq_iff_eq.1 hnext
  case h_2 hlow _ =>
    obtain rfl := Option.some.inj h
    exact beq_iff_eq.1 hlow
  case h_3 _ hnext =>
    obtain rfl := Option.some.inj h
    exact beq_iff_eq.1 hnext
  case h_4 => cases h

/-- What is found reads back, if the exact decimal does. -/
theorem ofDecimal_shortestFrom {code exact : Nat}
    (hexact : f.ofDecimal exact (-f.unitPlaces) = code) (dropped : Nat) :
    f.ofDecimal (f.shortestFrom code exact dropped).1
      ((f.shortestFrom code exact dropped).2 - f.unitPlaces) = code := by
  induction dropped with
  | zero => rwa [shortestFrom, Nat.cast_zero, Int.zero_sub]
  | succ dropped ih =>
    unfold shortestFrom
    cases h : f.shortened? code exact (dropped + 1) with
    | none => exact ih
    | some digits => exact f.ofDecimal_of_shortened? h

theorem ofDecimal_shortest {code : Nat}
    (hexact : f.ofDecimal (f.exactDigits code) (-f.unitPlaces) = code) :
    f.ofDecimal (f.shortest code).1 (f.shortest code).2 = code := by
  unfold shortest
  dsimp only
  split_ifs with hzero
  · rw [ofDecimal_zero, hzero]
  · exact f.ofDecimal_shortestFrom hexact _

end BinaryFormat

namespace Single

/-- A finite number of units is below `2 ^ 24 * 2 ^ 253`. -/
theorem units_lt {code : Nat} (h : code < 255 * 2 ^ 23) :
    single.units code < 2 ^ 24 * 2 ^ 253 := by
  have hshift : shiftOf code ≤ 253 := by
    unfold shiftOf
    omega
  rw [units_eq]
  exact Nat.mul_lt_mul_of_lt_of_le (mantissaOf_lt code) (Nat.pow_le_pow_right two_pos hshift)
    (Nat.two_pow_pos _)

/-- The exact decimal of a finite magnitude has between 105 and 188 digits. -/
theorem decimalLength_exactDigits {code : Nat} (hpos : code ≠ 0) (h : code < 255 * 2 ^ 23) :
    104 < decimalLength (single.exactDigits code) ∧
      decimalLength (single.exactDigits code) ≤ 188 := by
  have hunits := units_pos hpos
  have hplaces : single.unitPlaces = 149 := rfl
  rw [← Nat.not_le, BinaryFormat.decimalLength_le_iff (by decide),
    BinaryFormat.decimalLength_le_iff (by decide), BinaryFormat.exactDigits, hplaces, Nat.pow_eq]
  constructor
  · have hleast : 10 ^ 104 ≤ 5 ^ 149 := by norm_num
    rw [Nat.not_lt]
    exact hleast.trans (Nat.le_mul_of_pos_left _ hunits)
  · have hmost : 2 ^ 24 * 2 ^ 253 * 5 ^ 149 < 10 ^ 188 := by norm_num
    exact (Nat.mul_lt_mul_of_pos_right (units_lt h) (Nat.pow_pos (Nat.succ_pos 4))).trans hmost

theorem ofDecimal_exactDigits {code : Nat} (h : code < 255 * 2 ^ 23) :
    single.ofDecimal (single.exactDigits code) (-single.unitPlaces) = code := by
  have hplaces : single.unitPlaces = 149 := rfl
  rcases Nat.eq_zero_or_pos code with rfl | hpos
  · rw [BinaryFormat.exactDigits, units_zero, Nat.zero_mul, BinaryFormat.ofDecimal_zero]
  · obtain ⟨hshort, hlong⟩ := decimalLength_exactDigits hpos.ne' h
    have hdigits : single.exactDigits code ≠ 0 :=
      (Nat.mul_pos (units_pos hpos.ne') (Nat.pow_pos (Nat.succ_pos 4))).ne'
    have hexponents : ((2 ^ (single.exponentBits - 1) : Nat) : Int) = 128 := rfl
    rw [single.ofDecimal_of_bounds hdigits (by rw [hplaces, hexponents]; omega)
      (by rw [hplaces]; omega), hplaces, BinaryFormat.exactDigits, hplaces, Nat.pow_eq]
    -- A unit is `5 ^ 149 / 10 ^ 149`, and without the fives a number of units.
    have hten : 10 ^ (-(-(149 : Nat) : Int)).toNat = 2 ^ 149 * 5 ^ 149 := by
      rw [neg_neg, Int.toNat_natCast]
      exact Nat.mul_pow 2 5 149
    have hone : 10 ^ (-(149 : Nat) : Int).toNat = 1 := by
      rw [Int.toNat_neg_natCast, Nat.pow_zero]
    rw [hten, hone, Nat.mul_one, single.nearest_mul_right _ _ (Nat.pow_pos (Nat.succ_pos 4)),
      single.nearest_two_pow _ 149 (by rw [hplaces]), hplaces, Nat.sub_self, Nat.pow_zero,
      Nat.mul_one, single.ofUnits_units h.le]

end Single

end Brushwork
