import Mathlib
import Brushwork.Proofs.Number.Value

/-!
# Exact arithmetic

The real numbers are scalars on which every operation is exact, so that the formulas of geometry
can be read in exact arithmetic. A finite number is read as the real number that is its value
(`Binary.exact`), and its negation as the negation of that (`Binary.exact_neg`).
-/

namespace Brushwork

/-- The real numbers. They have no greatest and no least one, for which zero stands. -/
noncomputable instance : Scalar ℝ where
  decidableLT := inferInstance
  decidableLE := inferInstance
  ofDecimal digits places := digits / 10 ^ places
  sqrt := Real.sqrt
  abs x := |x|
  round x := SignType.sign x * ⌊|x| + 1 / 2⌋
  toPosition x := ⌊x⌋₊
  isFinite _ := true
  top := 0
  bottom := 0

namespace Binary

/-- The value of a number in exact arithmetic. -/
noncomputable def exact (x : Float32) : ℝ :=
  value x

variable {x y : Float32}

/-- Finite numbers are ordered as in exact arithmetic. -/
theorem le_iff_exact_le (hx : isFinite x = true) (hy : isFinite y = true) :
    x ≤ y ↔ exact x ≤ exact y := by
  rw [le_iff_value_le hx hy, exact, exact, Rat.cast_le]

theorem HasValue.exact_eq {q : ℚ} (h : HasValue x q) : exact x = q := by
  rw [exact, h.value_eq]

@[simp] theorem exact_zero : exact 0 = 0 := by
  have h : HasValue (0 : Float32) 0 := by decide +kernel
  rw [h.exact_eq, Rat.cast_zero]

@[simp] theorem exact_one : exact 1 = 1 := by
  have h : HasValue (1 : Float32) 1 := by decide +kernel
  rw [h.exact_eq, Rat.cast_one]

/-- A finite number is negated exactly. -/
theorem exact_neg (h : isFinite x = true) : exact (-x) = -exact x := by
  obtain ⟨hcode, hsign⟩ := code_neg x (isNaN_eq_false_of_isFinite h)
  have hunits : signedUnits (-x) = -signedUnits x := by
    rw [signedUnits, signedUnits, hcode, hsign]
    cases isNegative x <;> simp [Single.signed]
  rw [exact, exact, value_eq_signedUnits_div, value_eq_signedUnits_div, hunits]
  push_cast
  ring

end Binary

end Brushwork
