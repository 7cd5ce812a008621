import Mathlib
import Brushwork.Proofs.Number.Single

/-!
# The order of single-precision numbers

Numbers are ordered as their codes are with their signs (`Binary.lt_iff`, `Binary.le_iff`), so
the two zeros are equal. A comparison with what is not a number is false. The larger of two is
below a bound if each of them that is a number is, and one of them is a number
(`Scalar.greatest_le_iff`) : a value that is no number is no larger than any bound.
-/

namespace Brushwork

open Float.Model

namespace Single

/-- A code with the sign of a number. -/
def signed (negative : Bool) (code : Nat) : Int :=
  if negative then -code else code

/-- Finite codes are ordered as their shifts and then their significands are. -/
theorem compare_shiftOf_mantissaOf (a b : Nat) :
    (compare ((shiftOf a : Int) - 149) ((shiftOf b : Int) - 149)).then
      (compare (mantissaOf a) (mantissaOf b)) = compare a b := by
  rcases Nat.lt_trichotomy a b with hlt | rfl | hgt
  · rw [compare_lt_iff_lt.2 hlt]
    rcases shiftOf_lt_or_mantissaOf_lt hlt with hshift | ⟨hshift, hmantissa⟩
    · rw [compare_lt_iff_lt.2 (by omega), Ordering.lt_then]
    · rw [hshift, compare_eq_iff_eq.2 rfl, compare_lt_iff_lt.2 hmantissa, Ordering.eq_then]
  · rw [compare_eq_iff_eq.2 rfl, compare_eq_iff_eq.2 rfl, compare_eq_iff_eq.2 rfl, Ordering.eq_then]
  · rw [compare_gt_iff_gt.2 hgt]
    rcases shiftOf_lt_or_mantissaOf_lt hgt with hshift | ⟨hshift, hmantissa⟩
    · rw [compare_gt_iff_gt.2 (by omega), Ordering.gt_then]
    · rw [hshift, compare_eq_iff_eq.2 rfl, compare_gt_iff_gt.2 hmantissa, Ordering.eq_then]

theorem compare_natCast (a b : Nat) : compare (a : Int) b = compare a b := by
  rw [← cmp_eq_compare, ← cmp_eq_compare, Nat.strictMono_cast.cmp_map_eq]

theorem compare_neg_neg (a b : Int) : compare (-a) (-b) = (compare a b).swap := by
  have hanti : StrictAnti fun n : Int => -n := fun _ _ => neg_lt_neg
  rw [← cmp_eq_compare, ← cmp_eq_compare, cmp_swap]
  exact hanti.cmp_map_eq a b

theorem compare_neg_natCast (a b : Nat) : compare (-(a : Int)) (-b) = (compare a b).swap := by
  rw [compare_neg_neg, compare_natCast]

/-- Numbers compare as their signed codes do. -/
theorem compare_read {m n : Bool} {a b : Nat} (ha : a ≤ 255 * 2 ^ 23) (hb : b ≤ 255 * 2 ^ 23) :
    (read m a).compare (read n b) = some (compare (signed m a) (signed n b)) := by
  have hpos : 0 < 255 * 2 ^ 23 := by decide
  unfold read signed signOf
  rw [if_neg (Nat.not_lt.2 ha), if_neg (Nat.not_lt.2 hb)]
  generalize 255 * 2 ^ 23 = i at *
  -- Two finite numbers of one sign compare by their significands, all others by their kinds.
  cases m <;> cases n <;> simp only [Bool.false_eq_true, if_false, if_true] <;> split_ifs
  all_goals first
    | exact congrArg some (compare_lt_iff_lt.2 (by omega)).symm
    | exact congrArg some (compare_gt_iff_gt.2 (by omega)).symm
    | exact congrArg some (compare_eq_iff_eq.2 (by omega)).symm
    | exact congrArg some ((compare_shiftOf_mantissaOf a b).trans (compare_natCast a b).symm)
    | exact congrArg some ((congrArg Ordering.swap (compare_shiftOf_mantissaOf a b)).trans
        (compare_neg_natCast a b).symm)

end Single

namespace Binary

variable (x y : Float32)

theorem beq_self : (x == x) = !isNaN x := by
  have hbeq : (x == x) = x.toModel.unpack.beq x.toModel.unpack := rfl
  rw [hbeq, Bool.eq_iff_iff, UnpackedFloat.beq_iff_ne_notANumber_and_eq, Bool.not_eq_true',
    ← Bool.not_eq_true, isNaN_iff]
  tauto

/-- The code of a number with its sign. -/
def signedCode : Int :=
  Single.signed (isNegative x) (code x)

/-- Two values compare as their signed codes if both are numbers. -/
theorem compare_unpack :
    x.toModel.unpack.compare y.toModel.unpack =
      if isNaN x = false ∧ isNaN y = false then some (compare (signedCode x) (signedCode y))
      else none := by
  split_ifs with h
  · rw [isNaN_eq_false_iff, isNaN_eq_false_iff] at h
    rw [unpack_eq, unpack_eq, Single.compare_read h.1 h.2]
    rfl
  · rw [not_and_or, Bool.not_eq_false, Bool.not_eq_false, isNaN_iff, isNaN_iff] at h
    rcases h with h | h
    · rw [h]
      rfl
    · rw [h]
      cases x.toModel.unpack <;> rfl

theorem lt_iff : x < y ↔ isNaN x = false ∧ isNaN y = false ∧ signedCode x < signedCode y := by
  have hlt : x < y ↔ x.toModel.unpack.lt y.toModel.unpack = true := decide_eq_true_iff
  rw [hlt, UnpackedFloat.lt, compare_unpack, beq_iff_eq]
  split_ifs with h
  · rw [Option.some_inj, compare_lt_iff_lt]
    exact ⟨fun hlt => ⟨h.1, h.2, hlt⟩, fun hlt => hlt.2.2⟩
  · exact iff_of_false nofun fun hlt => h ⟨hlt.1, hlt.2.1⟩

theorem le_iff : x ≤ y ↔ isNaN x = false ∧ isNaN y = false ∧ signedCode x ≤ signedCode y := by
  have hle : x ≤ y ↔ x.toModel.unpack.le y.toModel.unpack = true := decide_eq_true_iff
  rw [hle, UnpackedFloat.le, compare_unpack]
  split_ifs with h
  · rw [Option.any_some, ← compare_le_iff_le, Ordering.isLE_iff_ne_gt]
    exact ⟨fun hle => ⟨h.1, h.2, hle⟩, fun hle => hle.2.2⟩
  · exact iff_of_false nofun fun hle => h ⟨hle.1, hle.2.1⟩

/-- An absolute value is compared with a bound that is not negative by its code. -/
theorem abs_le_iff {t : Float32} (ht : isNaN t = false) (hsign : isNegative t = false) :
    x.abs ≤ t ↔ code x ≤ code t := by
  have hcode : signedCode t = code t := by
    rw [signedCode, hsign]
    rfl
  rw [le_iff, hcode, isNaN_abs]
  cases hx : isNaN x with
  | true =>
    rw [isNaN_eq_false_iff] at ht
    rw [← Bool.not_eq_false, isNaN_eq_false_iff] at hx
    exact iff_of_false (fun h => Bool.noConfusion h.1) (fun h => hx (h.trans ht))
  | false =>
    obtain ⟨habs, hnegative⟩ := code_abs x hx
    rw [signedCode, hnegative, habs]
    exact ⟨fun h => Int.ofNat_le.1 h.2.2, fun h => ⟨rfl, ht, Int.ofNat_le.2 h⟩⟩

theorem zero_le_iff : 0 ≤ x ↔ isNaN x = false ∧ (isNegative x = true → code x = 0) := by
  have hzero : signedCode 0 = 0 := by decide
  have hnumber : isNaN (0 : Float32) = false := by decide
  rw [le_iff, hzero, signedCode, Single.signed]
  cases isNegative x with
  | true => simp [hnumber]
  | false => simp [hnumber]

end Binary

namespace Scalar

open Binary

variable (a b t : Float32)

/-- The larger of two is below a bound exactly if each is that is a number, and one is. -/
theorem greatest_le_iff :
    Scalar.greatest a b ≤ t ↔ (isNaN a = true ∨ a ≤ t) ∧ (isNaN b = true ∨ b ≤ t) ∧
      ¬ (isNaN a = true ∧ isNaN b = true) := by
  have hb : (b == b) = !isNaN b := beq_self b
  have hlt : b < a ↔ isNaN b = false ∧ isNaN a = false ∧ signedCode b < signedCode a := lt_iff b a
  have hle : ∀ c : Float32, c ≤ t ↔
      isNaN c = false ∧ isNaN t = false ∧ signedCode c ≤ signedCode t := fun c => le_iff c t
  unfold Scalar.greatest
  rw [hb]
  split_ifs <;> grind

/-- The smaller of two is above a bound exactly if each is that is a number, and one is. -/
theorem le_least_iff :
    t ≤ Scalar.least a b ↔ (isNaN a = true ∨ t ≤ a) ∧ (isNaN b = true ∨ t ≤ b) ∧
      ¬ (isNaN a = true ∧ isNaN b = true) := by
  have hb : (b == b) = !isNaN b := beq_self b
  have hlt : a < b ↔ isNaN a = false ∧ isNaN b = false ∧ signedCode a < signedCode b := lt_iff a b
  have hle : ∀ c : Float32, t ≤ c ↔
      isNaN t = false ∧ isNaN c = false ∧ signedCode t ≤ signedCode c := fun c => le_iff t c
  unfold Scalar.least
  rw [hb]
  split_ifs <;> grind

end Scalar

end Brushwork
