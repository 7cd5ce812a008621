import Mathlib
import Brushwork.Proofs.Number.Difference

/-!
# The position that a number stands for

A single-precision number is rounded to the nearest whole one exactly (`units_rounded`), and
every position below `2 ^ 24` is a number (`signedUnits_ofNat`). So a number that is close to
what it is rounded to is as close to a position, and one that is close to a position is rounded
to it (`snaps_iff`). What is not a number is the exception : it stands for the position zero,
and its distance from that exceeds no bound.
-/

namespace Brushwork

open Float.Model
open BinaryFormat (single)

namespace Single

/-- A whole number below `2 ^ 24` has a code. -/
theorem ofUnits_of_lt {n : Nat} (h : n < 2 ^ 24) :
    single.ofUnits (n * 2 ^ 149) < 255 * 2 ^ 23 ∧
      single.units (single.ofUnits (n * 2 ^ 149)) = n * 2 ^ 149 := by
  have hplaces : single.places (n * 2 ^ 149) ≤ 149 := by
    rcases Nat.eq_zero_or_pos n with rfl | hpos
    · rw [Nat.zero_mul]
      decide
    · have hlog : n.log2 < 24 := (Nat.log2_lt hpos.ne').2 h
      have hfraction : single.fractionBits = 23 := rfl
      rw [BinaryFormat.places, log2_mul_two_pow hpos, hfraction]
      omega
  obtain ⟨-, hhigh⟩ := single.significand_bounds (n * 2 ^ 149)
  have hfraction : single.fractionBits = 23 := rfl
  have hlt : single.ofUnits (n * 2 ^ 149) < 255 * 2 ^ 23 := by
    refine (min_le_left _ _).trans_lt ?_
    rw [hfraction] at hhigh ⊢
    omega
  exact ⟨hlt, single.units_ofUnits ((Nat.pow_dvd_pow 2 hplaces).mul_left n) hlt⟩

/-- The whole number nearest to a number of units, halves upwards. -/
def wholeOf (units : Nat) : Nat :=
  (2 * units + 2 ^ 149) / 2 ^ 150

/-- A number of at least `2 ^ 23` is whole. -/
theorem one_dvd_units {code : Nat} (h : 2 ^ 23 * 2 ^ 149 ≤ single.units code) :
    2 ^ 149 ∣ single.units code := by
  rw [units_eq] at h ⊢
  have hmantissa := mantissaOf_lt code
  have hshift : 149 ≤ shiftOf code := by
    by_contra hlt
    have hpow : 2 ^ shiftOf code ≤ 2 ^ 148 := Nat.pow_le_pow_right (by decide) (by omega)
    have hmul : mantissaOf code * 2 ^ shiftOf code ≤ mantissaOf code * 2 ^ 148 :=
      Nat.mul_le_mul_left _ hpow
    omega
  exact (Nat.pow_dvd_pow 2 hshift).mul_left _

/-- Rounding a finite number gives the nearest whole number exactly. -/
theorem units_rounded {code : Nat} (h : code < 255 * 2 ^ 23) :
    single.rounded code < 255 * 2 ^ 23 ∧
      single.units (single.rounded code) =
        wholeOf (single.units code) * 2 ^ 149 := by
  have hrounded : single.rounded code =
      single.ofUnits (wholeOf (single.units code) * 2 ^ 149) :=
    single.nearest_one _
  rw [hrounded]
  rcases Nat.lt_or_ge (wholeOf (single.units code)) (2 ^ 24) with hlt | hge
  · exact ofUnits_of_lt hlt
  · have hlarge : 2 ^ 23 * 2 ^ 149 ≤ single.units code := by
      unfold wholeOf at hge
      omega
    obtain ⟨n, hn⟩ := one_dvd_units hlarge
    have hwhole : wholeOf (single.units code) * 2 ^ 149 =
        single.units code := by
      unfold wholeOf
      rw [hn]
      omega
    rw [hwhole, single.ofUnits_units h.le]
    exact ⟨h, rfl⟩

end Single

namespace Binary

variable {x : Float32}

/-! ## Whole numbers -/

theorem ofNat_eq (n : Nat) :
    (Scalar.ofNat n : Float32) = ofCode false (single.ofUnits (n * 2 ^ 149)) :=
  congrArg (ofCode false) (single.nearest_one n)

theorem isFinite_ofNat {n : Nat} (h : n < 2 ^ 24) : isFinite (Scalar.ofNat n : Float32) = true := by
  obtain ⟨hlt, -⟩ := Single.ofUnits_of_lt h
  rw [isFinite_iff, ofNat_eq, code_ofCode false hlt.le]
  exact hlt

theorem signedUnits_ofNat {n : Nat} (h : n < 2 ^ 24) :
    signedUnits (Scalar.ofNat n) = (n * 2 ^ 149 : Nat) := by
  obtain ⟨hlt, hunits⟩ := Single.ofUnits_of_lt h
  rw [signedUnits, ofNat_eq, code_ofCode false hlt.le, isNegative_ofCode false hlt.le]
  exact congrArg Nat.cast hunits

theorem round_of_not_isFinite (h : isFinite x = false) : round x = x := by
  rw [round, h]
  rfl

/-- What is not finite stands for no position of a table, or for the first. -/
theorem toPosition_of_not_isFinite (h : isFinite x = false) :
    toPosition x = if isNaN x || isNegative x then 0 else UInt64.size - 1 := by
  rw [toPosition, h]
  rfl

theorem round_of_isFinite (h : isFinite x = true) :
    round x = ofCode (isNegative x) (single.rounded (code x)) :=
  if_pos h

section Round

variable (h : isFinite x = true)

include h

theorem code_round : code (round x) = single.rounded (code x) := by
  obtain ⟨hlt, -⟩ := Single.units_rounded (isFinite_iff.1 h)
  rw [round_of_isFinite h, code_ofCode _ hlt.le]

theorem isNegative_round : isNegative (round x) = isNegative x := by
  obtain ⟨hlt, -⟩ := Single.units_rounded (isFinite_iff.1 h)
  rw [round_of_isFinite h, isNegative_ofCode _ hlt.le]

theorem isFinite_round : isFinite (round x) = true := by
  obtain ⟨hlt, -⟩ := Single.units_rounded (isFinite_iff.1 h)
  rw [isFinite_iff, code_round h]
  exact hlt

/-- The whole number nearest to the magnitude of a number. -/
theorem units_code_round :
    single.units (code (round x)) =
      Single.wholeOf (single.units (code x)) * 2 ^ 149 := by
  rw [code_round h]
  exact (Single.units_rounded (isFinite_iff.1 h)).2

theorem toPosition_round :
    toPosition (round x) = if isNegative x then 0
      else min (Single.wholeOf (single.units (code x))) (UInt64.size - 1) := by
  have hunits : (format Float32).units (code (round x)) / Nat.pow 2 (format Float32).unitPlaces =
      Single.wholeOf (single.units (code x)) :=
    (congrArg (· / 2 ^ 149) (units_code_round h)).trans (Nat.mul_div_cancel _ (by decide))
  rw [toPosition, isNaN_eq_false_of_isFinite (isFinite_round h), isFinite_round h,
    isNegative_round h, Bool.false_or, if_pos rfl, hunits]

/-- How far a number is from its nearest whole number. -/
theorem code_sub_round :
    code (x - round x) = single.ofUnits
      ((single.units (code x) : Int)
        - (Single.wholeOf (single.units (code x)) * 2 ^ 149 : Nat)).natAbs := by
  have hunits : (format Float32).units (code (round x)) =
      Single.wholeOf (single.units (code x)) * 2 ^ 149 := units_code_round h
  rw [code_sub h (isFinite_round h), signedUnits, signedUnits, isNegative_round h, hunits]
  cases isNegative x with
  | true =>
    refine congrArg single.ofUnits ?_
    simp only [Single.signed, if_true]
    rw [← Int.natAbs_neg]
    congr 1
    rw [Int.neg_sub, Int.sub_neg, Int.add_comm]
    rfl
  | false => rfl

end Round

/-! ## The position that a number stands for -/

/-- A difference of a half or more is not rounded below a half. -/
theorem le_ofUnits_of_half_le {units : Nat} (h : 2 ^ 148 ≤ units) :
    126 * 2 ^ 23 ≤ single.ofUnits units := by
  have hfraction : single.fractionBits = 23 := rfl
  have hinfinity : single.infinity = 255 * 2 ^ 23 := rfl
  have hplaces : 125 ≤ single.places units := by
    have hlog : 148 ≤ units.log2 := (Nat.le_log2 (by omega)).2 h
    rw [BinaryFormat.places, hfraction]
    omega
  obtain ⟨hlow, -⟩ := single.significand_bounds units
  rw [hfraction] at hlow
  rw [BinaryFormat.ofUnits, hfraction, hinfinity]
  omega

/-- A finite number that is rounded to a position is as far from the position as from the
number it is rounded to. -/
theorem code_sub_ofNat_toPosition {i : Nat} (h : isFinite x = true) (hi : i < 2 ^ 24)
    (hposition : toPosition (round x) = i) (hsign : 0 ≤ round x) :
    code (x - Scalar.ofNat i) = code (x - round x) := by
  have hunits := units_code_round h
  rw [toPosition_round h] at hposition
  rw [zero_le_iff, isNegative_round h] at hsign
  rw [code_sub h (isFinite_ofNat hi), code_sub_round h, signedUnits_ofNat hi, signedUnits]
  cases hnegative : isNegative x with
  | true =>
    rw [hsign.2 hnegative, Single.units_zero] at hunits
    rw [hnegative, if_pos rfl] at hposition
    rw [← hunits, ← hposition, Nat.zero_mul, Nat.cast_zero, Int.sub_zero, Int.sub_zero,
      Single.natAbs_signed]
    rfl
  | false =>
    rw [hnegative, if_neg Bool.false_ne_true] at hposition
    have hsize : UInt64.size = 2 ^ 64 := rfl
    rw [show Single.wholeOf (single.units (code x)) = i by omega]
    rfl

/-- A finite number that is less than a half away from a position is rounded to it. -/
theorem toPosition_round_of_near {i : Nat} (h : isFinite x = true) (hi : i < 2 ^ 24)
    (hnear : code (x - Scalar.ofNat i) < 126 * 2 ^ 23) :
    toPosition (round x) = i ∧ 0 ≤ round x := by
  have hhalf : (signedUnits x - (i * 2 ^ 149 : Nat)).natAbs < 2 ^ 148 := by
    rw [code_sub h (isFinite_ofNat hi), signedUnits_ofNat hi] at hnear
    exact Nat.lt_of_not_le fun hle => (le_ofUnits_of_half_le hle).not_gt hnear
  have hvalue : signedUnits x =
      Single.signed (isNegative x) (single.units (code x)) := rfl
  rw [hvalue] at hhalf
  have hcode := single.ofUnits_units (isFinite_iff.1 (isFinite_round h)).le
  rw [units_code_round h] at hcode
  rw [toPosition_round h, zero_le_iff, isNegative_round h]
  unfold Single.wholeOf at hcode ⊢
  unfold Single.signed at hhalf
  have hsize : UInt64.size = 2 ^ 64 := rfl
  cases hnegative : isNegative x with
  | true =>
    rw [hnegative, if_pos rfl] at hhalf
    have hwhole : (2 * single.units (code x) + 2 ^ 149) / 2 ^ 150 = 0 := by omega
    rw [hwhole, Nat.zero_mul, Single.ofUnits_zero] at hcode
    refine ⟨?_, isNaN_eq_false_of_isFinite (isFinite_round h), fun _ => hcode.symm⟩
    rw [if_pos rfl]
    omega
  | false =>
    rw [hnegative, if_neg Bool.false_ne_true] at hhalf
    refine ⟨?_, isNaN_eq_false_of_isFinite (isFinite_round h), fun h => absurd h Bool.false_ne_true⟩
    rw [if_neg Bool.false_ne_true]
    omega

/-- A position is infinitely far from what is not finite. -/
theorem le_code_sub_ofNat {i : Nat} (h : isFinite x = false) (hi : i < 2 ^ 24) :
    255 * 2 ^ 23 ≤ code (x - Scalar.ofNat i) := by
  rcases isNaN_or_infinite_or_isFinite x with hnan | hinfinite | hfinite
  · exact (isNaN_eq_true_iff.1 (isNaN_sub _ hnan)).le
  · exact (code_sub_of_infinite hinfinite (isFinite_ofNat hi)).ge
  · exact absurd (h.symm.trans hfinite) Bool.false_ne_true

theorem isNaN_round (x : Float32) : isNaN (round x) = isNaN x := by
  cases h : isFinite x with
  | true => rw [isNaN_eq_false_of_isFinite h, isNaN_eq_false_of_isFinite (isFinite_round h)]
  | false => rw [round_of_not_isFinite h]

/-- Only a finite number has a distance from what it is rounded to. -/
theorem isNaN_sub_round (x : Float32) : isNaN (x - round x) = !isFinite x := by
  rcases isNaN_or_infinite_or_isFinite x with hnan | hinfinite | hfinite
  · rw [isNaN_sub _ hnan, isFinite_eq_false_iff.2 (isNaN_eq_true_iff.1 hnan).le]
    rfl
  · have hfinite := isFinite_eq_false_iff.2 hinfinite.ge
    rw [round_of_not_isFinite hfinite, isNaN_sub_self hinfinite, hfinite]
    rfl
  · rw [hfinite]
    refine (isNaN_eq_false_iff _).2 ?_
    rw [code_sub_round hfinite]
    exact min_le_right _ _

/-! ## Snapping to a position -/

section Snap

variable {t : Float32} (ht : isNegative t = false) (hhalf : code t < 126 * 2 ^ 23) {i : Nat}
  (hi : i < 2 ^ 24)

include hhalf

theorem isNaN_bound : isNaN t = false :=
  (isNaN_eq_false_iff t).2 (by omega)

include ht hi

/-- Only a finite number is close to a position. -/
theorem isFinite_of_abs_sub_le (h : (x - Scalar.ofNat i).abs ≤ t) : isFinite x = true := by
  rw [abs_le_iff _ (isNaN_bound hhalf) ht] at h
  by_contra hfinite
  have hfar := le_code_sub_ofNat (Bool.eq_false_iff.2 hfinite) hi
  omega

/-- A number is rounded to a position, and is no further from what it is rounded to than a
bound below a half, exactly if it is no further from the position. What is not a number stands
for the first position, and exceeds no bound. -/
theorem snaps_iff :
    (toPosition (round x) = i ∧ (isNaN (round x) = true ∨ 0 ≤ round x) ∧
        (isNaN (x - round x).abs = true ∨ (x - round x).abs ≤ t)) ↔
      isNaN x = true ∧ i = 0 ∨ (x - Scalar.ofNat i).abs ≤ t := by
  have hnear : ¬ isFinite x = true → ¬ (x - Scalar.ofNat i).abs ≤ t :=
    fun h hle => h (isFinite_of_abs_sub_le ht hhalf hi hle)
  have hbound : ∀ d : Float32, d.abs ≤ t ↔ code d ≤ code t :=
    fun d => abs_le_iff d (isNaN_bound hhalf) ht
  rw [isNaN_abs, isNaN_sub_round, isNaN_round]
  cases hfinite : isFinite x with
  | false =>
    have hcode := isFinite_eq_false_iff.1 hfinite
    have hsize : UInt64.size = 2 ^ 64 := rfl
    rw [round_of_not_isFinite hfinite, toPosition_of_not_isFinite hfinite, zero_le_iff,
      or_iff_left (hnear (by rw [hfinite]; exact Bool.false_ne_true))]
    cases isNaN x with
    | true =>
      rw [Bool.true_or, if_pos rfl]
      exact ⟨fun h => ⟨rfl, h.1.symm⟩, fun h => ⟨h.2.symm, Or.inl rfl, Or.inl rfl⟩⟩
    | false =>
      -- An infinity is negative or far behind every position.
      refine iff_of_false (fun ⟨hposition, hsign, _⟩ => ?_) nofun
      cases hnegative : isNegative x with
      | true =>
        have hzero := (hsign.resolve_left Bool.false_ne_true).2 hnegative
        omega
      | false =>
        rw [hnegative, Bool.or_false, if_neg Bool.false_ne_true] at hposition
        omega
  | true =>
    rw [isNaN_eq_false_of_isFinite hfinite, hbound, hbound]
    simp only [Bool.not_true, Bool.false_eq_true, false_or, false_and]
    constructor
    · rintro ⟨hposition, hle, hnear⟩
      rwa [code_sub_ofNat_toPosition hfinite hi hposition hle]
    · intro hnear
      obtain ⟨hposition, hle⟩ := toPosition_round_of_near hfinite hi (hnear.trans_lt hhalf)
      exact ⟨hposition, hle, code_sub_ofNat_toPosition hfinite hi hposition hle ▸ hnear⟩

end Snap

end Binary

end Brushwork
