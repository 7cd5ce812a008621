import Mathlib
import Brushwork.Proofs.Number.Value

/-!
# Quotients of single-precision numbers

A quotient that is itself the value of a number is not rounded (`Binary.hasValue_div`).
The significand that the division works with has enough places for it, so nothing is left over
(`Single.divCore_eq`), and settling it takes only zeros away (`Single.roundWithAccuracy_mul`).
-/

namespace Brushwork

open Float.Model
open Float.Model.UnpackedFloat (Sign)
open BinaryFormat (single)

namespace Single

/-- Settling a significand that fills its places, with zeros behind it, takes the zeros away. -/
theorem roundWithAccuracy_mul (sign : Sign) {c t : Nat} (d : Nat) (hc : 0 < c)
    (hlow : t = 0 ∨ 2 ^ 23 ≤ c) (hlt : c < 2 ^ 24) :
    UnpackedFloat.roundWithAccuracy .binary32 sign (c * 2 ^ d) (t - 149 - d) .exact =
      .finite sign c (t - 149) hc := by
  have hlog : c.log2 < 24 := (Nat.log2_lt hc.ne').2 hlt
  have hfull : t = 0 ∨ c.log2 = 23 := by
    refine hlow.imp_right fun h => ?_
    have := (Nat.le_log2 hc.ne').2 h
    omega
  have htarget : Format.binary32.targetExponent (totalExponent (c * 2 ^ d) (t - 149 - d)) =
      (t : Int) - 149 := by
    have hmin : Format.binary32.minExponent = -149 := rfl
    have hbits : (Format.binary32.mantissaBits : Int) = 24 := rfl
    rw [Format.targetExponent, totalExponent, hmin, hbits, log2_mul_two_pow hc]
    omega
  have hamount : ((t : Int) - 149 - (t - 149 - d)).toNat = d := by omega
  have hexponent : (t : Int) - 149 - d + d = t - 149 := by omega
  have hround : roundToEven (c * 2 ^ d) (2 ^ d) = c := by
    rw [roundToEven_of_dvd (Nat.dvd_mul_left ..), Nat.mul_div_cancel _ (Nat.two_pow_pos d)]
  obtain ⟨hmantissa, hplaces⟩ := shiftToTargetExponent_of_le hc hlt.le t
  rw [settledMantissa, if_pos hlt] at hmantissa
  rw [settledPlaces, if_pos hlt] at hplaces
  unfold UnpackedFloat.roundWithAccuracy
  rw [UnpackedFloat.shiftToTargetExponent, UnpackedFloat.shiftToExponent]
  simp only [htarget, hamount, UnpackedFloat.ExtendedMantissa.ofMantissaAndAccuracy,
    roundedMantissa_shiftRight, hround, hexponent, hmantissa, hplaces]
  exact dif_neg hc.ne'

/-- Nothing is left over by a division whose exact quotient is a number. -/
theorem divCore_eq {a b c p k t : Nat} (ha : 0 < a) (hb : 0 < b) (hc : 0 < c) (hlt : c < 2 ^ 24)
    (h : a * 2 ^ p * 2 ^ 149 = c * 2 ^ t * (b * 2 ^ k)) :
    ∃ d : Nat, UnpackedFloat.divCore .binary32 a (p - 149) b (k - 149) =
      (c * 2 ^ d, (t : Int) - 149 - d, .exact) := by
  have hlog : a.log2 + p + 149 ≤ 24 + b.log2 + t + k := by
    have hle : (c * b).log2 ≤ 24 + b.log2 := by
      refine Nat.le_of_lt_succ ((Nat.log2_lt (by positivity)).2 ?_)
      rw [Nat.succ_eq_add_one, Nat.add_assoc, Nat.pow_add]
      exact Nat.mul_lt_mul_of_lt_of_lt hlt Nat.lt_log2_self
    have hleft : (a * 2 ^ (p + 149)).log2 = a.log2 + (p + 149) := log2_mul_two_pow ha _
    have hright : (c * b * 2 ^ (t + k)).log2 = (c * b).log2 + (t + k) :=
      log2_mul_two_pow (by positivity) _
    have hunits : a * 2 ^ (p + 149) = c * b * 2 ^ (t + k) := by
      rw [Nat.pow_add, Nat.pow_add, ← Nat.mul_assoc, h]
      ring
    rw [hunits, hright] at hleft
    omega
  have hmin : Format.binary32.minExponent = -149 := rfl
  have hbits : (Format.binary32.mantissaBits : Int) = 24 := rfl
  -- The exponent that the division works at is at most that of the quotient.
  obtain ⟨T, hT⟩ : ∃ T : Int, T = min ((p : Int) - 149 - (k - 149))
      (Format.binary32.targetExponent (totalExponent a (p - 149) - totalExponent b (k - 149))) :=
    ⟨_, rfl⟩
  have hexponent : T ≤ t - 149 ∧ T ≤ (p : Int) - 149 - (k - 149) := by
    rw [hT, Format.targetExponent, totalExponent, totalExponent, hmin, hbits]
    omega
  have hmantissa : a * 2 ^ ((p : Int) - 149 - (k - 149) - T).toNat =
      c * 2 ^ ((t : Int) - 149 - T).toNat * b := by
    obtain ⟨n, hn⟩ : ∃ n : Nat, n = ((p : Int) - 149 - (k - 149) - T).toNat := ⟨_, rfl⟩
    obtain ⟨d, hd⟩ : ∃ d : Nat, d = ((t : Int) - 149 - T).toNat := ⟨_, rfl⟩
    have hsum : n + (t + k) = d + (p + 149) := by omega
    rw [← hn, ← hd]
    refine Nat.eq_of_mul_eq_mul_right (Nat.two_pow_pos (t + k)) ?_
    calc a * 2 ^ n * 2 ^ (t + k) = a * 2 ^ (n + (t + k)) := by rw [Nat.mul_assoc, ← Nat.pow_add]
      _ = 2 ^ d * (a * 2 ^ p * 2 ^ 149) := by rw [hsum, Nat.pow_add, Nat.pow_add]; ring
      _ = c * 2 ^ d * b * 2 ^ (t + k) := by rw [h, Nat.pow_add]; ring
  refine ⟨((t : Int) - 149 - T).toNat, ?_⟩
  unfold UnpackedFloat.divCore
  simp only [← hT, Nat.shiftLeft_eq, hmantissa, Nat.mul_div_cancel _ hb, Nat.mul_mod_left]
  refine Prod.ext rfl (Prod.ext ?_ rfl)
  dsimp only
  omega

theorem signOf_div (m n : Bool) : signOf m / signOf n = signOf (m != n) := by
  cases m <;> cases n <;> rfl

/-- A quotient that is a number is packed into its bits. -/
theorem pack_div (m n : Bool) {a b c : Nat} (ha : a < 255 * 2 ^ 23) (hb : b < 255 * 2 ^ 23)
    (hc : c < 255 * 2 ^ 23) (hb0 : b ≠ 0)
    (h : single.units a * 2 ^ 149 = single.units c * single.units b) :
    UnpackedFloat.pack .binary32 (UnpackedFloat.div .binary32 (read m a) (read n b)) =
      bitsOf (m != n) c := by
  by_cases hc0 : c = 0
  · have ha0 : a = 0 := by
      rw [hc0, units_zero, Nat.zero_mul] at h
      by_contra hne
      exact absurd h (Nat.mul_ne_zero (units_pos hne).ne' (by positivity))
    rw [ha0, hc0, read_finite n hb0 hb]
    have hzero : UnpackedFloat.div .binary32 (read m 0) (.finite (signOf n) (mantissaOf b)
        (shiftOf b - 149) (mantissaOf_pos hb0)) = .zero (signOf m / signOf n) := rfl
    rw [hzero, signOf_div]
    exact pack_read _ (Nat.zero_le _)
  · have ha0 : a ≠ 0 := by
      rintro rfl
      rw [units_zero, Nat.zero_mul] at h
      exact Nat.mul_ne_zero (units_pos hc0).ne' (units_pos hb0).ne' h.symm
    have hlow := shiftOf_eq_zero_or_le_mantissaOf c
    have hlt := mantissaOf_lt c
    rw [units_eq, units_eq, units_eq] at h
    obtain ⟨d, hcore⟩ := divCore_eq (mantissaOf_pos ha0) (mantissaOf_pos hb0) (mantissaOf_pos hc0)
      hlt h
    rw [read_finite m ha0 ha, read_finite n hb0 hb]
    unfold UnpackedFloat.div
    simp only [hcore, signOf_div, roundWithAccuracy_mul _ d (mantissaOf_pos hc0) hlow hlt,
      ← read_finite (m != n) hc0 hc]
    exact pack_read _ hc.le

/-- The sign of a quotient is that of the number that it is. -/
theorem signed_bne {m n o : Bool} {a b c : Nat} (hb : 0 < b)
    (h : signed m (a * 2 ^ 149) = signed o c * signed n b) :
    signed (m != n) c = signed o c := by
  rcases Nat.eq_zero_or_pos c with rfl | hc
  · rw [signed_zero, signed_zero]
  have hpos : 0 < (c * b : Int) := by positivity
  cases m <;> cases n <;> cases o <;> simp [signed] at h ⊢ <;> omega

end Single

namespace Binary

variable {x y z : Float32}

/-- A quotient that is the value of a number has that value. -/
theorem hasValue_div (hx : isFinite x = true) (hy : isFinite y = true) (hz : isFinite z = true)
    (hne : value y ≠ 0) (h : value x = value z * value y) : HasValue (x / y) (value z) := by
  have hunits : Single.signed (isNegative x) (single.units (code x) * 2 ^ 149) =
      Single.signed (isNegative z) (single.units (code z)) *
        Single.signed (isNegative y) (single.units (code y)) := by
    have hexact : signedUnits x * 2 ^ 149 = signedUnits z * signedUnits y := by
      rw [value_eq_signedUnits_div, value_eq_signedUnits_div, value_eq_signedUnits_div] at h
      field_simp at h
      exact_mod_cast h
    rw [Single.signed_mul, Nat.cast_pow]
    exact hexact
  have hcode : code y ≠ 0 := fun hzero => hne (value_eq_zero_iff.2 hzero)
  have hpos : 0 < single.units (code y) := Single.units_pos hcode
  have hnat := congrArg Int.natAbs hunits
  rw [Int.natAbs_mul, Single.natAbs_signed, Single.natAbs_signed, Single.natAbs_signed] at hnat
  rw [isFinite_iff] at hx hy hz
  have hpack := Single.pack_div (isNegative x) (isNegative y) hx hy hz hcode hnat
  rw [← unpack_eq, ← unpack_eq] at hpack
  have hcodeDiv : code (x / y) = code z := code_of_pack hpack (code_lt z)
  have hsignDiv : isNegative (x / y) = (isNegative x != isNegative y) :=
    isNegative_of_pack hpack (code_lt z)
  refine ⟨?_, ?_⟩
  · rw [isFinite_iff, hcodeDiv]
    exact hz
  · rw [value_eq_value_iff, signedUnits, signedUnits, hcodeDiv, hsignDiv]
    exact Single.signed_bne hpos hunits

end Binary

end Brushwork
