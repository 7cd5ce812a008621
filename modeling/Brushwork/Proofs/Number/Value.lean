import Mathlib
import Brushwork.Proofs.Number.Position

/-!
# The value of a number

A finite number stands for a rational one : so many units of which `2 ^ unitPlaces` make one
(`Binary.value`). Single-precision numbers are ordered as their values are
(`Binary.lt_iff_value_lt`), for a larger code has more units (`Single.units_strictMono`).
-/

namespace Brushwork

open BinaryFormat (single)

namespace Single

/-- A larger code has more units. -/
theorem units_strictMono : StrictMono single.units := by
  intro a b h
  rw [units_eq, units_eq]
  rcases shiftOf_lt_or_mantissaOf_lt h with hshift | ⟨heq, hmantissa⟩
  · have hge : 2 ^ 23 ≤ mantissaOf b :=
      (shiftOf_eq_zero_or_le_mantissaOf b).resolve_left (Nat.ne_zero_of_lt hshift)
    calc mantissaOf a * 2 ^ shiftOf a < 2 ^ 24 * 2 ^ shiftOf a :=
          Nat.mul_lt_mul_of_pos_right (mantissaOf_lt a) (Nat.two_pow_pos _)
      _ = 2 ^ 23 * 2 ^ (shiftOf a + 1) := by rw [Nat.pow_succ, Nat.pow_succ]; ring
      _ ≤ mantissaOf b * 2 ^ shiftOf b :=
          Nat.mul_le_mul hge (Nat.pow_le_pow_right two_pos hshift)
  · rw [heq]
    exact Nat.mul_lt_mul_of_pos_right hmantissa (Nat.two_pow_pos _)

theorem units_pos {code : Nat} (h : code ≠ 0) : 0 < single.units code :=
  Nat.lt_of_le_of_lt (Nat.zero_le _) (units_strictMono (Nat.pos_of_ne_zero h))

/-- Counting that grows with the codes keeps the order of codes with their signs. -/
theorem signed_lt_signed_iff {f : Nat → Nat} (hf : StrictMono f) (hzero : f 0 = 0) (m n : Bool)
    (a b : Nat) : signed m (f a) < signed n (f b) ↔ signed m a < signed n b := by
  have hlt : f a < f b ↔ a < b := hf.lt_iff_lt
  have hgt : f b < f a ↔ b < a := hf.lt_iff_lt
  have hle : ∀ k, k ≤ f k := fun _ => hf.le_apply
  have hnone : ∀ k, k = 0 → f k = 0 := fun k hk => hk ▸ hzero
  have hna := hnone a
  have hnb := hnone b
  have ha := hle a
  have hb := hle b
  unfold signed
  split_ifs <;> omega

end Single

namespace Binary

section Value

variable {α : Type} [Binary α]

/-- The value of a finite number. -/
def value (x : α) : ℚ :=
  (Single.signed (isNegative x) ((format α).units (code x)) : ℚ)
    / (2 ^ (format α).unitPlaces : Nat)

/-- The number is finite and has a value. -/
structure HasValue (x : α) (q : ℚ) : Prop where
  isFinite : Binary.isFinite x = true
  value_eq : value x = q

instance (x : α) (q : ℚ) : Decidable (HasValue x q) :=
  decidable_of_iff (Binary.isFinite x = true ∧ value x = q)
    ⟨fun h => ⟨h.1, h.2⟩, fun h => ⟨h.1, h.2⟩⟩

end Value

variable {x y : Float32}

theorem value_eq_signedUnits_div (x : Float32) : value x = signedUnits x / 2 ^ 149 := by
  have hplaces : ((2 ^ (format Float32).unitPlaces : Nat) : ℚ) = 2 ^ 149 := by
    rw [Nat.cast_pow]
    rfl
  rw [value, hplaces, signedUnits]

theorem value_lt_value_iff : value x < value y ↔ signedUnits x < signedUnits y := by
  rw [value_eq_signedUnits_div, value_eq_signedUnits_div,
    div_lt_div_iff_of_pos_right (by positivity), Int.cast_lt]

/-- Finite numbers are ordered as their values are. -/
theorem lt_iff_value_lt (hx : isFinite x = true) (hy : isFinite y = true) :
    x < y ↔ value x < value y := by
  have hunits : signedUnits x < signedUnits y ↔ signedCode x < signedCode y :=
    Single.signed_lt_signed_iff Single.units_strictMono Single.units_zero ..
  rw [lt_iff, value_lt_value_iff, hunits, isNaN_eq_false_of_isFinite hx,
    isNaN_eq_false_of_isFinite hy]
  tauto

theorem le_iff_value_le (hx : isFinite x = true) (hy : isFinite y = true) :
    x ≤ y ↔ value x ≤ value y := by
  rw [← not_lt, ← lt_iff_value_lt hy hx, lt_iff, le_iff, isNaN_eq_false_of_isFinite hx,
    isNaN_eq_false_of_isFinite hy, ← not_lt]
  tauto

theorem value_eq_value_iff : value x = value y ↔ signedUnits x = signedUnits y := by
  rw [value_eq_signedUnits_div, value_eq_signedUnits_div, div_left_inj' (by positivity),
    Int.cast_inj]

theorem value_eq_zero_iff : value x = 0 ↔ code x = 0 := by
  rw [value_eq_signedUnits_div, div_eq_zero_iff, or_iff_left (by positivity), Int.cast_eq_zero,
    ← Int.natAbs_eq_zero, signedUnits, Single.natAbs_signed]
  exact Single.units_strictMono.injective.eq_iff' Single.units_zero

/-- A position is a number of that value. -/
theorem hasValue_ofNat {n : Nat} (h : n < 2 ^ 24) : HasValue (Scalar.ofNat n : Float32) n where
  isFinite := isFinite_ofNat h
  value_eq := by
    rw [value_eq_signedUnits_div, signedUnits_ofNat h, Int.cast_natCast, Nat.cast_mul,
      Nat.cast_pow, Nat.cast_ofNat, mul_div_cancel_right₀ _ (by positivity)]

/-- The difference of numbers of one value is zero. -/
theorem code_sub_of_value_eq (hx : isFinite x = true) (hy : isFinite y = true)
    (h : value x = value y) : code (x - y) = 0 := by
  rw [code_sub hx hy, value_eq_value_iff.1 h, sub_self, Int.natAbs_zero]
  exact Single.ofUnits_zero

end Binary

end Brushwork
