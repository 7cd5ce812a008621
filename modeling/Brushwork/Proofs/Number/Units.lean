import Mathlib
import Brushwork.Number.Binary

/-!
# The code nearest to a number of units

A code is made of a number of places and a significand, which together say how many units it
is (`units_places`). `BinaryFormat.ofUnits` is the code nearest to a number of units. It gives
back the code whose units they are (`ofUnits_units`), and has as many units as were asked for
if the significand leaves nothing of them (`units_ofUnits`).
-/

namespace Brushwork

theorem roundToEven_of_dvd {num den : Nat} (h : den ∣ num) : roundToEven num den = num / den := by
  have hrest : num % den = 0 := Nat.mod_eq_zero_of_dvd h
  unfold roundToEven
  dsimp only
  rw [hrest]
  split_ifs with hlt hgt
  · rfl
  · omega
  · have hden : den = 0 := by omega
    rw [hden, Nat.div_zero]

/-- Rounding a quotient gives the number below it or the one above it. -/
theorem roundToEven_bounds (num den : Nat) :
    num / den ≤ roundToEven num den ∧ roundToEven num den ≤ num / den + 1 := by
  unfold roundToEven
  dsimp only
  split_ifs <;> omega

theorem roundToEven_mul_right (num den : Nat) {c : Nat} (hc : 0 < c) :
    roundToEven (num * c) (den * c) = roundToEven num den := by
  have hlt : 2 * (num % den * c) < den * c ↔ 2 * (num % den) < den := by
    rw [← Nat.mul_assoc, Nat.mul_lt_mul_right hc]
  have hgt : den * c < 2 * (num % den * c) ↔ den < 2 * (num % den) := by
    rw [← Nat.mul_assoc, Nat.mul_lt_mul_right hc]
  unfold roundToEven
  simp only [Nat.mul_div_mul_right _ _ hc, Nat.mul_mod_mul_right, hlt, hgt]

theorem log2_mul_two_pow {m : Nat} (hm : 0 < m) (p : Nat) : (m * 2 ^ p).log2 = m.log2 + p := by
  rw [Nat.log2_eq_iff (by positivity), Nat.pow_add, Nat.add_right_comm, Nat.pow_add]
  exact ⟨Nat.mul_le_mul_right _ (Nat.log2_self_le hm.ne'),
    Nat.mul_lt_mul_of_pos_right Nat.lt_log2_self (Nat.two_pow_pos p)⟩

namespace BinaryFormat

variable (f : BinaryFormat)

/-- How many places a number of units is shifted by for its significand. -/
def places (units : Nat) : Nat :=
  units.log2 - f.fractionBits

/-- The significand of a number of units, rounded. -/
def significand (units : Nat) : Nat :=
  roundToEven units (2 ^ f.places units)

/-- The code nearest to a number of units. -/
def ofUnits (units : Nat) : Nat :=
  min (f.places units * 2 ^ f.fractionBits + f.significand units) f.infinity

theorem nearest_one (n : Nat) : f.nearest n 1 = f.ofUnits (n * 2 ^ f.unitPlaces) := by
  unfold nearest ofUnits significand places
  simp only [Nat.pow_eq, Nat.div_one, Nat.one_mul]

/-- A code of shifted places and a significand that fills them. -/
theorem units_places {s q : Nat} (hlow : s = 0 ∨ 2 ^ f.fractionBits ≤ q)
    (hhigh : q ≤ 2 ^ (f.fractionBits + 1)) :
    f.units (s * 2 ^ f.fractionBits + q) = q * 2 ^ s := by
  have hpos : 0 < 2 ^ f.fractionBits := Nat.two_pow_pos _
  rw [Nat.pow_succ] at hhigh
  unfold units
  simp only [Nat.pow_eq]
  generalize 2 ^ f.fractionBits = p at *
  rcases Nat.lt_or_ge q p with hsub | hnormal
  · obtain rfl : s = 0 := by omega
    rw [Nat.zero_mul, Nat.zero_add, Nat.div_eq_of_lt hsub, if_pos rfl, Nat.mod_eq_of_lt hsub,
      Nat.pow_zero, Nat.mul_one]
  rcases Nat.lt_or_ge q (p * 2) with hnext | hlast
  · have hdiv : (s * p + q) / p = s + 1 := by
      rw [Nat.div_eq_iff hpos, Nat.add_mul]
      omega
    have hmod : (s * p + q) % p = q - p := by
      rw [Nat.mul_add_mod_self_right, Nat.mod_eq_sub_mod hnormal, Nat.mod_eq_of_lt (by omega)]
    rw [hdiv, hmod, if_neg (Nat.succ_ne_zero s), Nat.add_sub_cancel, Nat.add_sub_cancel' hnormal]
  · obtain rfl : q = p * 2 := by omega
    have hdiv : (s * p + p * 2) / p = s + 2 := by
      rw [Nat.mul_comm p 2, ← Nat.add_mul, Nat.mul_div_cancel _ hpos]
    have hmod : (s * p + p * 2) % p = 0 := by
      rw [Nat.mul_comm p 2, ← Nat.add_mul, Nat.mul_mod_left]
    rw [hdiv, hmod, if_neg (by omega), Nat.add_zero, show s + 2 - 1 = s + 1 by omega,
      Nat.pow_succ, Nat.mul_assoc, Nat.mul_comm 2]

/-- The significand fills the places, and is at most one too large for them. -/
theorem significand_bounds (units : Nat) :
    (f.places units = 0 ∨ 2 ^ f.fractionBits ≤ f.significand units) ∧
      f.significand units ≤ 2 ^ (f.fractionBits + 1) := by
  obtain ⟨hlow, hhigh⟩ := roundToEven_bounds units (2 ^ f.places units)
  have hlt : units < 2 ^ (units.log2 + 1) := Nat.lt_log2_self
  have hdiv : units / 2 ^ f.places units < 2 ^ (f.fractionBits + 1) := by
    rw [Nat.div_lt_iff_lt_mul (Nat.two_pow_pos _), ← Nat.pow_add]
    refine hlt.trans_le (Nat.pow_le_pow_right two_pos ?_)
    unfold places
    omega
  refine ⟨?_, hhigh.trans hdiv⟩
  rcases Nat.eq_zero_or_pos (f.places units) with hzero | hpos
  · exact Or.inl hzero
  · right
    have hne : units ≠ 0 := by
      rintro rfl
      exact absurd hpos (by simp [places])
    refine le_trans ?_ hlow
    rw [Nat.le_div_iff_mul_le (Nat.two_pow_pos _), ← Nat.pow_add]
    refine (Nat.pow_le_pow_right two_pos ?_).trans (Nat.log2_self_le hne)
    unfold places at hpos ⊢
    omega

/-- A number of units that its significand leaves nothing of has a code, unless it is too
large. -/
theorem units_ofUnits {units : Nat} (hdvd : 2 ^ f.places units ∣ units)
    (h : f.ofUnits units < f.infinity) : f.units (f.ofUnits units) = units := by
  obtain ⟨hlow, hhigh⟩ := f.significand_bounds units
  rw [ofUnits] at h ⊢
  rw [min_eq_left (by omega), f.units_places hlow hhigh, significand, roundToEven_of_dvd hdvd,
    Nat.div_mul_cancel hdvd]

/-- The places and the significand of the units of a code are those of the code. -/
theorem places_units_add_significand (code : Nat) :
    f.places (f.units code) * 2 ^ f.fractionBits + f.significand (f.units code) = code := by
  have hpos : 0 < 2 ^ f.fractionBits := Nat.two_pow_pos _
  have hmod : code % 2 ^ f.fractionBits < 2 ^ f.fractionBits := Nat.mod_lt _ hpos
  have hsplit := Nat.div_add_mod code (2 ^ f.fractionBits)
  have hself : ∀ units, f.places units = 0 → f.significand units = units := by
    intro units hplaces
    rw [significand, hplaces, Nat.pow_zero, roundToEven_of_dvd (one_dvd _), Nat.div_one]
  unfold units
  simp only [Nat.pow_eq]
  split_ifs with hexponent
  · have hplaces : f.places (code % 2 ^ f.fractionBits) = 0 := by
      unfold places
      by_cases hzero : code % 2 ^ f.fractionBits = 0
      · rw [hzero, Nat.log2_zero, Nat.zero_sub]
      · have := (Nat.log2_lt hzero).2 hmod
        omega
    rw [hexponent] at hsplit
    rw [hself _ hplaces, hplaces]
    omega
  · generalize hshift : code / 2 ^ f.fractionBits - 1 = s
    have hlog : (2 ^ f.fractionBits + code % 2 ^ f.fractionBits).log2 = f.fractionBits := by
      rw [Nat.log2_eq_iff (by positivity), Nat.pow_succ]
      omega
    have hplaces : f.places ((2 ^ f.fractionBits + code % 2 ^ f.fractionBits) * 2 ^ s) = s := by
      rw [places, log2_mul_two_pow (by positivity), hlog, Nat.add_sub_cancel_left]
    rw [significand, hplaces, roundToEven_of_dvd (Nat.dvd_mul_left ..),
      Nat.mul_div_cancel _ (Nat.two_pow_pos _)]
    have hexp : code / 2 ^ f.fractionBits = s + 1 := by
      rw [← hshift]
      exact (Nat.sub_add_cancel (Nat.pos_of_ne_zero hexponent)).symm
    rw [hexp, Nat.mul_add, Nat.mul_one, Nat.mul_comm] at hsplit
    omega

/-- The code nearest to the units of a code is the code itself. -/
theorem ofUnits_units {code : Nat} (h : code ≤ f.infinity) : f.ofUnits (f.units code) = code := by
  rw [ofUnits, places_units_add_significand, min_eq_left h]

end BinaryFormat

end Brushwork
