import Mathlib
import Brushwork.Proofs.Number.Order

/-!
# Ranks of scalars

Comparisons of floating-point values are those of a linear order on the numbers, and false of what
is not a number. `Scalar.ComparesBy` says so for any type of scalars by a rank that the numbers
are ordered by, so that a statement about comparisons is one about ranks. Double-precision values
have one (`Scalar.comparesBy_rankOf`) : what a value stands for is ranked by its kind and its sign
first, then by its exponent and its significand (`rankOf`).
-/

namespace Brushwork

open Float.Model Std

/-! ## Scalars ordered by rank -/

namespace Scalar

universe u v

variable {α : Type u} [Scalar α] {ρ : Type v} [LinearOrder ρ]

/-- A scalar that is equal to itself, as all are but not-a-number. -/
def IsNumber (x : α) : Prop :=
  (x == x) = true

/-- Numbers are ordered as their ranks are, and a comparison with what is no number is false. -/
structure ComparesBy (rank : α → ρ) : Prop where
  lt_iff (x y : α) : x < y ↔ IsNumber x ∧ IsNumber y ∧ rank x < rank y
  le_iff (x y : α) : x ≤ y ↔ IsNumber x ∧ IsNumber y ∧ rank x ≤ rank y

namespace ComparesBy

variable {rank : α → ρ} (h : ComparesBy rank) {x y z : α}
include h

theorem isNumber_left (hlt : x < y) : IsNumber x :=
  ((h.lt_iff x y).1 hlt).1

theorem isNumber_right (hlt : x < y) : IsNumber y :=
  ((h.lt_iff x y).1 hlt).2.1

theorem le_of_not_lt (hx : IsNumber x) (hy : IsNumber y) (hnot : ¬ y < x) : x ≤ y := by
  rw [h.lt_iff] at hnot
  rw [h.le_iff]
  exact ⟨hx, hy, le_of_not_gt fun hlt => hnot ⟨hy, hx, hlt⟩⟩

theorem not_lt_of_le (hle : x ≤ y) : ¬ y < x := by
  rw [h.le_iff] at hle
  rw [h.lt_iff]
  exact fun hlt => hle.2.2.not_gt hlt.2.2

theorem le_of_lt (hlt : x < y) : x ≤ y := by
  rw [h.lt_iff] at hlt
  rw [h.le_iff]
  exact ⟨hlt.1, hlt.2.1, hlt.2.2.le⟩

theorem le_refl (hx : IsNumber x) : x ≤ x :=
  (h.le_iff x x).2 ⟨hx, hx, le_rfl⟩

theorem lt_of_le_of_lt (hle : x ≤ y) (hlt : y < z) : x < z := by
  rw [h.le_iff] at hle
  rw [h.lt_iff] at hlt ⊢
  exact ⟨hle.1, hlt.2.1, hle.2.2.trans_lt hlt.2.2⟩

theorem lt_of_lt_of_le (hlt : x < y) (hle : y ≤ z) : x < z := by
  rw [h.le_iff] at hle
  rw [h.lt_iff] at hlt ⊢
  exact ⟨hlt.1, hle.2.1, hlt.2.2.trans_le hle.2.2⟩

end ComparesBy

end Scalar

/-! ## The rank of a floating-point value -/

/-- Where what a value stands for is among the numbers : by its kind and its sign first, then by
its exponent and its significand. -/
def rankOf : UnpackedFloat → ℤ ×ₗ ℤ ×ₗ ℤ
  | .infinity .negative => toLex (-2, toLex (0, 0))
  | .finite .negative m e _ => toLex (-1, toLex (-e, -m))
  | .zero _ | .notANumber => toLex (0, toLex (0, 0))
  | .finite .positive m e _ => toLex (1, toLex (e, m))
  | .infinity .positive => toLex (2, toLex (0, 0))

theorem compare_toLex {α β : Type*} [LinearOrder α] [LinearOrder β] (a c : α) (b d : β) :
    compare (toLex (a, b)) (toLex (c, d)) = (compare a c).then (compare b d) := by
  rw [Prod.Lex.compare_def]
  rfl

/-- Exponents are compared before significands, the other way round below zero. -/
theorem compare_rankOf_finite (s : UnpackedFloat.Sign) {m n : ℕ} (e f : ℤ) (hm : 0 < m)
    (hn : 0 < n) : (UnpackedFloat.finite s m e hm).compare (.finite s n f hn) =
      some (compare (rankOf (.finite s m e hm)) (rankOf (.finite s n f hn))) := by
  cases s with
  | negative =>
    simp only [UnpackedFloat.compare, rankOf, compare_toLex, Single.compare_neg_neg,
      Single.compare_natCast, ReflOrd.compare_self, Ordering.eq_then, Ordering.swap_then]
  | positive =>
    simp only [UnpackedFloat.compare, rankOf, compare_toLex, Single.compare_natCast,
      ReflOrd.compare_self, Ordering.eq_then]

/-- Values that are numbers compare as their ranks do. -/
theorem compare_eq_compare_rankOf {a b : UnpackedFloat} (ha : a ≠ .notANumber)
    (hb : b ≠ .notANumber) : a.compare b = some (compare (rankOf a) (rankOf b)) := by
  -- Only two finite values of one sign are not told apart by their kinds.
  rcases a with (_ | _) | _ | (_ | _) | ⟨_ | _, m, e, hm⟩ <;>
    rcases b with (_ | _) | _ | (_ | _) | ⟨_ | _, n, f, hn⟩ <;>
    first | contradiction | rfl | exact compare_rankOf_finite _ e f hm hn

theorem compare_eq_none {a b : UnpackedFloat} (h : ¬ (a ≠ .notANumber ∧ b ≠ .notANumber)) :
    a.compare b = none := by
  rw [not_and_or, not_ne_iff, not_ne_iff] at h
  rcases h with rfl | rfl
  · rfl
  · cases a <;> rfl

theorem lt_iff_rankOf_lt {a b : UnpackedFloat} :
    a.lt b = true ↔ a ≠ .notANumber ∧ b ≠ .notANumber ∧ rankOf a < rankOf b := by
  by_cases h : a ≠ .notANumber ∧ b ≠ .notANumber
  · rw [UnpackedFloat.lt, compare_eq_compare_rankOf h.1 h.2, beq_iff_eq, Option.some_inj,
      compare_lt_iff_lt]
    exact ⟨fun hlt => ⟨h.1, h.2, hlt⟩, fun hlt => hlt.2.2⟩
  · rw [UnpackedFloat.lt, compare_eq_none h]
    exact iff_of_false Bool.false_ne_true fun hlt => h ⟨hlt.1, hlt.2.1⟩

theorem le_iff_rankOf_le {a b : UnpackedFloat} :
    a.le b = true ↔ a ≠ .notANumber ∧ b ≠ .notANumber ∧ rankOf a ≤ rankOf b := by
  by_cases h : a ≠ .notANumber ∧ b ≠ .notANumber
  · rw [UnpackedFloat.le, compare_eq_compare_rankOf h.1 h.2, Option.any_some, ← compare_le_iff_le,
      Ordering.isLE_iff_ne_gt]
    exact ⟨fun hle => ⟨h.1, h.2, hle⟩, fun hle => hle.2.2⟩
  · rw [UnpackedFloat.le, compare_eq_none h]
    exact iff_of_false Bool.false_ne_true fun hle => h ⟨hle.1, hle.2.1⟩

namespace Scalar

variable {x y : Float}

theorem isNumber_iff_unpack_ne : IsNumber x ↔ x.toModel.unpack ≠ .notANumber := by
  have hbeq : IsNumber x ↔ x.toModel.unpack.beq x.toModel.unpack = true := Iff.rfl
  rw [hbeq, UnpackedFloat.beq_iff_ne_notANumber_and_eq]
  tauto

theorem isNumber_iff_isNaN : IsNumber x ↔ x.isNaN = false := by
  have hnan : x.isNaN = x.toModel.unpack.isNaN := rfl
  rw [isNumber_iff_unpack_ne, hnan]
  cases x.toModel.unpack <;> simp [UnpackedFloat.isNaN]

/-- Double-precision values are ordered by the rank of what they stand for. -/
theorem comparesBy_rankOf : ComparesBy fun x : Float => rankOf x.toModel.unpack where
  lt_iff x y := by
    have hlt : x < y ↔ x.toModel.unpack.lt y.toModel.unpack = true := decide_eq_true_iff
    rw [hlt, lt_iff_rankOf_lt, isNumber_iff_unpack_ne, isNumber_iff_unpack_ne]
  le_iff x y := by
    have hle : x ≤ y ↔ x.toModel.unpack.le y.toModel.unpack = true := decide_eq_true_iff
    rw [hle, le_iff_rankOf_le, isNumber_iff_unpack_ne, isNumber_iff_unpack_ne]

end Scalar

end Brushwork
