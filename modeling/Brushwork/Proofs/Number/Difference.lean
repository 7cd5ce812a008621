import Mathlib
import Brushwork.Proofs.Number.Units
import Brushwork.Proofs.Number.Order

/-!
# Differences of single-precision numbers

The difference of two finite numbers is the exact difference of their units, rounded once :
its code is the code nearest to that (`Binary.code_sub`). The significands are aligned and
subtracted exactly, so what is left to see is that shifting a significand and looking at the
two bits behind it is rounding the quotient to even (`roundedMantissa_shiftRight`), and that
the result is packed into the code of its units (`Single.pack_round`).
-/

namespace Brushwork

open Float.Model
open Float.Model.UnpackedFloat (Sign ExtendedMantissa)
open BinaryFormat (single)

/-- Shifting a significand to the right keeps in two bits how its rest compares with a half. -/
theorem shiftRight_exact (m k : Nat) :
    (⟨m, false, false⟩ : ExtendedMantissa) >>> k =
      ⟨m / 2 ^ k, 2 ^ k ≤ 2 * (m % 2 ^ k), m % 2 ^ k ≠ 0 ∧ 2 * (m % 2 ^ k) ≠ 2 ^ k⟩ := by
  induction k with
  | zero => simp [HShiftRight.hShiftRight, Nat.repeat, Nat.mod_one]
  | succ k ih =>
    have hstep : (⟨m, false, false⟩ : ExtendedMantissa) >>> (k + 1) =
        ((⟨m, false, false⟩ : ExtendedMantissa) >>> k).shiftRightOne := rfl
    have hpos : 0 < 2 ^ k := Nat.two_pow_pos k
    have hrest : m % 2 ^ k < 2 ^ k := Nat.mod_lt _ hpos
    have hmod : m % 2 ^ (k + 1) = m % 2 ^ k + 2 ^ k * (m / 2 ^ k % 2) := by
      rw [Nat.pow_succ, Nat.mod_mul]
    rw [hstep, ih, ExtendedMantissa.shiftRightOne, hmod, Nat.div_div_eq_div_mul, ← Nat.pow_succ,
      Nat.pow_succ]
    congr 1
    · rw [Bool.eq_iff_iff, bne_iff_ne, decide_eq_true_iff]
      rcases Nat.mod_two_eq_zero_or_one (m / 2 ^ k) with hbit | hbit <;> rw [hbit] <;> omega
    · rw [Bool.eq_iff_iff, Bool.or_eq_true]
      simp only [decide_eq_true_eq]
      rcases Nat.mod_two_eq_zero_or_one (m / 2 ^ k) with hbit | hbit <;> rw [hbit] <;> omega

theorem roundedMantissa_shiftRight (m k : Nat) :
    ((⟨m, false, false⟩ : ExtendedMantissa) >>> k).roundedMantissa = roundToEven m (2 ^ k) := by
  rw [shiftRight_exact]
  have hpos : 0 < 2 ^ k := Nat.two_pow_pos k
  unfold roundToEven ExtendedMantissa.roundedMantissa
  dsimp only
  rcases Nat.lt_trichotomy (2 * (m % 2 ^ k)) (2 ^ k) with hlt | heq | hgt
  · rw [if_pos hlt, decide_eq_false (by omega)]
    rcases Nat.eq_zero_or_pos (m % 2 ^ k) with hzero | hrest
    · rw [decide_eq_false (by omega)]
      rfl
    · rw [decide_eq_true (by omega)]
      rfl
  · rw [if_neg (by omega), if_neg (by omega), decide_eq_true (by omega), decide_eq_false (by omega)]
    rfl
  · rw [if_neg (by omega), if_pos hgt, decide_eq_true (by omega), decide_eq_true (by omega)]
    rfl

namespace Single

theorem targetExponent_eq {m : Nat} (hm : 0 < m) (p : Nat) :
    Format.binary32.targetExponent (totalExponent m (p - 149)) =
      (single.places (m * 2 ^ p) : Int) - 149 := by
  have hmin : Format.binary32.minExponent = -149 := rfl
  have hbits : (Format.binary32.mantissaBits : Int) = 24 := rfl
  have hfraction : single.fractionBits = 23 := rfl
  rw [Format.targetExponent, hmin, hbits, totalExponent, BinaryFormat.places,
    log2_mul_two_pow hm, hfraction]
  omega

theorem shiftToTargetExponent_eq {m : Nat} (hm : 0 < m) (p : Nat) :
    UnpackedFloat.shiftToTargetExponent .binary32 m (p - 149) .exact =
      ((⟨m, false, false⟩ : ExtendedMantissa) >>> (single.places (m * 2 ^ p) - p),
        ((max (single.places (m * 2 ^ p)) p : Nat) : Int) - 149) := by
  unfold UnpackedFloat.shiftToTargetExponent UnpackedFloat.shiftToExponent
  simp only [targetExponent_eq hm]
  have hamount : ((single.places (m * 2 ^ p) : Int) - 149 - (p - 149)).toNat =
      single.places (m * 2 ^ p) - p := by
    omega
  rw [hamount]
  refine Prod.ext rfl ?_
  dsimp only
  omega

theorem significand_mul_two_pow {m p : Nat}
    (hp : p ≤ single.places (m * 2 ^ p)) :
    single.significand (m * 2 ^ p) =
      roundToEven m (2 ^ (single.places (m * 2 ^ p) - p)) := by
  rw [BinaryFormat.significand]
  conv_lhs => rw [← Nat.sub_add_cancel hp, Nat.pow_add]
  exact roundToEven_mul_right _ _ (Nat.two_pow_pos p)

/-- A significand of at most `2 ^ 24`, halved if it is one too large for its places. -/
def settledMantissa (q : Nat) : Nat :=
  if q < 2 ^ 24 then q else 2 ^ 23

/-- The places of a significand of at most `2 ^ 24`, one more if it is too large for them. -/
def settledPlaces (q t : Nat) : Nat :=
  if q < 2 ^ 24 then t else t + 1

theorem settledMantissa_pos {q : Nat} (hq : 0 < q) : 0 < settledMantissa q := by
  unfold settledMantissa
  split_ifs
  · exact hq
  · decide

theorem shiftToTargetExponent_of_le {q : Nat} (hq : 0 < q) (hhigh : q ≤ 2 ^ 24) (t : Nat) :
    (UnpackedFloat.shiftToTargetExponent .binary32 q (t - 149) .exact).1.mantissa =
        settledMantissa q ∧
      (UnpackedFloat.shiftToTargetExponent .binary32 q (t - 149) .exact).2 =
        (settledPlaces q t : Int) - 149 := by
  have hplaces : single.places (q * 2 ^ t) = q.log2 + t - 23 := by
    rw [BinaryFormat.places, log2_mul_two_pow hq]
    rfl
  rw [shiftToTargetExponent_eq hq, shiftRight_exact, hplaces]
  dsimp only
  unfold settledMantissa settledPlaces
  rcases Nat.lt_or_ge q (2 ^ 24) with hlt | hge
  · have hlog : q.log2 < 24 := (Nat.log2_lt hq.ne').2 hlt
    have hshift : q.log2 + t - 23 - t = 0 := by omega
    have hmax : max (q.log2 + t - 23) t = t := by omega
    rw [hshift, hmax, if_pos hlt, if_pos hlt, Nat.pow_zero, Nat.div_one]
    exact ⟨rfl, rfl⟩
  · obtain rfl : q = 2 ^ 24 := le_antisymm hhigh hge
    have hlog : (2 ^ 24).log2 = 24 := Nat.log2_two_pow
    have hshift : (2 ^ 24).log2 + t - 23 - t = 1 := by omega
    have hmax : max ((2 ^ 24).log2 + t - 23) t = t + 1 := by omega
    rw [hshift, hmax, if_neg (Nat.lt_irrefl _), if_neg (Nat.lt_irrefl _)]
    exact ⟨rfl, rfl⟩

theorem roundWithAccuracy_eq (sign : Sign) {m p : Nat} (hm : 0 < m)
    (hp : p ≤ single.places (m * 2 ^ p))
    (hq : 0 < single.significand (m * 2 ^ p)) :
    UnpackedFloat.roundWithAccuracy .binary32 sign m (p - 149) .exact =
      .finite sign (settledMantissa (single.significand (m * 2 ^ p)))
        (settledPlaces (single.significand (m * 2 ^ p))
          (single.places (m * 2 ^ p)) - 149) (settledMantissa_pos hq) := by
  obtain ⟨-, hhigh⟩ := single.significand_bounds (m * 2 ^ p)
  obtain ⟨hmantissa, hexponent⟩ := shiftToTargetExponent_of_le hq hhigh
    (single.places (m * 2 ^ p))
  unfold UnpackedFloat.roundWithAccuracy
  simp only [shiftToTargetExponent_eq hm, roundedMantissa_shiftRight,
    ← significand_mul_two_pow hp, max_eq_left hp, hmantissa, hexponent]
  exact dif_neg (settledMantissa_pos hq).ne'

theorem significand_pos {units : Nat} (h : 0 < units) :
    0 < single.significand units := by
  obtain ⟨hlow | hlow, -⟩ := single.significand_bounds units
  · rw [BinaryFormat.significand, hlow, Nat.pow_zero, roundToEven_of_dvd (one_dvd _), Nat.div_one]
    exact h
  · exact (Nat.two_pow_pos _).trans_le hlow

/-- Rounding a significand and an exponent settles the significand of the units. -/
theorem round_eq (sign : Sign) {m : Nat} (hm : 0 < m) (p : Nat) :
    UnpackedFloat.round .binary32 sign m (p - 149) =
      .finite sign (settledMantissa (single.significand (m * 2 ^ p)))
        (settledPlaces (single.significand (m * 2 ^ p))
          (single.places (m * 2 ^ p)) - 149)
        (settledMantissa_pos (significand_pos (by positivity))) := by
  unfold UnpackedFloat.round UnpackedFloat.decreaseExponent
  simp only [targetExponent_eq hm, Nat.shiftLeft_eq]
  have hamount : ((p : Int) - 149 - ((single.places (m * 2 ^ p) : Int) - 149)).toNat =
      p - single.places (m * 2 ^ p) := by
    omega
  have hexponent : (p : Int) - 149 - ((p - single.places (m * 2 ^ p) : Nat) : Int) =
      ((p - (p - single.places (m * 2 ^ p)) : Nat) : Int) - 149 := by
    omega
  have hunits : m * 2 ^ (p - single.places (m * 2 ^ p)) *
      2 ^ (p - (p - single.places (m * 2 ^ p))) = m * 2 ^ p := by
    rw [Nat.mul_assoc, ← Nat.pow_add]
    congr 2
    omega
  rw [hamount, hexponent, roundWithAccuracy_eq sign (by positivity)]
  · simp only [hunits]
  · rw [hunits]
    omega
  · rw [hunits]
    exact significand_pos (by positivity)

/-- Settling a significand keeps the code that it and its places make up. -/
theorem settled_bounds {q t : Nat} (hlow : t = 0 ∨ 2 ^ 23 ≤ q) (hhigh : q ≤ 2 ^ 24) :
    (settledPlaces q t = 0 ∨ 2 ^ 23 ≤ settledMantissa q) ∧ settledMantissa q < 2 ^ 24 ∧
      settledPlaces q t * 2 ^ 23 + settledMantissa q = t * 2 ^ 23 + q := by
  unfold settledPlaces settledMantissa
  split_ifs <;> omega

/-- Rounding a significand and an exponent packs the code nearest to the units. -/
theorem pack_round (negative : Bool) {m : Nat} (hm : 0 < m) (p : Nat) :
    UnpackedFloat.pack .binary32 (UnpackedFloat.round .binary32 (signOf negative) m (p - 149)) =
      bitsOf negative (single.ofUnits (m * 2 ^ p)) := by
  obtain ⟨hlow, hhigh⟩ := single.significand_bounds (m * 2 ^ p)
  obtain ⟨hplaces, hmantissa, hcode⟩ := settled_bounds hlow hhigh
  rw [round_eq _ hm, pack_finite negative _ hplaces hmantissa, hcode]
  rfl

theorem units_zero : single.units 0 = 0 :=
  rfl

theorem ofUnits_zero : single.ofUnits 0 = 0 := by
  have h := single.ofUnits_units (Nat.zero_le single.infinity)
  rwa [units_zero] at h

theorem pack_normalize (d : Int) (p : Nat) :
    ∃ negative, UnpackedFloat.pack .binary32
        (UnpackedFloat.normalize .binary32 d (p - 149) .positive) =
      bitsOf negative (single.ofUnits (d * 2 ^ p).natAbs) := by
  have habs : (d * 2 ^ p).natAbs = d.natAbs * 2 ^ p := by
    rw [Int.natAbs_mul, Int.natAbs_pow]
    rfl
  rw [habs]
  unfold UnpackedFloat.normalize
  rcases Int.lt_trichotomy d 0 with hlt | rfl | hgt
  · refine ⟨true, ?_⟩
    rw [compare_lt_iff_lt.2 hlt, ← pack_round true (by omega) p,
      show d.natAbs = (-d).toNat by omega]
    rfl
  · refine ⟨false, ?_⟩
    rw [compare_eq_iff_eq.2 rfl, Int.natAbs_zero, Nat.zero_mul, ofUnits_zero]
    exact pack_read false (Nat.zero_le _)
  · refine ⟨false, ?_⟩
    rw [compare_gt_iff_gt.2 hgt, ← pack_round false (by omega) p,
      show d.natAbs = d.toNat by omega]
    rfl

theorem units_eq (code : Nat) :
    single.units code = mantissaOf code * 2 ^ shiftOf code := by
  have hunits : single.units code = if code / 2 ^ 23 = 0 then code % 2 ^ 23
      else (2 ^ 23 + code % 2 ^ 23) * 2 ^ (code / 2 ^ 23 - 1) := rfl
  rw [hunits, mantissaOf, shiftOf]
  split_ifs with h
  · rw [h, Nat.zero_sub, Nat.pow_zero, Nat.mul_one]
    omega
  · rfl

theorem neg_signOf (negative : Bool) : -signOf negative = signOf !negative := by
  cases negative <;> rfl

theorem apply_signOf (negative : Bool) (n : Nat) :
    (signOf negative).apply n = signed negative n := by
  cases negative <;> rfl

theorem natAbs_signed (negative : Bool) (n : Nat) : (signed negative n).natAbs = n := by
  unfold signed
  split_ifs <;> omega

theorem signed_zero (negative : Bool) : signed negative 0 = 0 := by
  cases negative <;> rfl

theorem signed_mul (negative : Bool) (n k : Nat) :
    signed negative (n * k) = signed negative n * k := by
  unfold signed
  split_ifs
  · rw [Nat.cast_mul, Int.neg_mul]
  · rw [Nat.cast_mul]

theorem read_finite (negative : Bool) {code : Nat} (hpos : code ≠ 0) (h : code < 255 * 2 ^ 23) :
    read negative code = .finite (signOf negative) (mantissaOf code) (shiftOf code - 149)
      (mantissaOf_pos hpos) := by
  unfold read
  rw [if_neg h.le.not_gt, if_neg h.ne, dif_neg hpos]

/-- What the bits of the code nearest to the units of a number are. -/
theorem bitsOf_ofUnits_units (negative : Bool) {code : Nat} (h : code ≤ 255 * 2 ^ 23) :
    bitsOf negative (single.ofUnits (single.units code)) =
      UnpackedFloat.pack .binary32 (read negative code) := by
  rw [single.ofUnits_units h, pack_read negative h]

/-- Decreasing an exponent to a smaller one keeps the units. -/
theorem decreaseExponent_mul {m p k : Nat} (h : k ≤ p) :
    (UnpackedFloat.decreaseExponent m (p - 149) (k - 149)).1 * 2 ^ k = m * 2 ^ p := by
  have hamount : ((p : Int) - 149 - (k - 149)).toNat = p - k := by omega
  rw [UnpackedFloat.decreaseExponent, hamount, Nat.shiftLeft_eq, Nat.mul_assoc, ← Nat.pow_add,
    Nat.sub_add_cancel h]

theorem sub_finite (m n : Bool) {a b : Nat} (ha : 0 < a) (hb : 0 < b) (p k : Nat) :
    ∃ negative, UnpackedFloat.pack .binary32 (UnpackedFloat.sub .binary32
        (.finite (signOf m) a (p - 149) ha) (.finite (signOf n) b (k - 149) hb)) =
      bitsOf negative (single.ofUnits
        (signed m (a * 2 ^ p) - signed n (b * 2 ^ k)).natAbs) := by
  have hmin : min ((p : Int) - 149) (k - 149) = (min p k : Nat) - 149 := by omega
  unfold UnpackedFloat.sub
  simp only [hmin, apply_signOf]
  have hleft := decreaseExponent_mul (m := a) (min_le_left p k)
  have hright := decreaseExponent_mul (m := b) (min_le_right p k)
  obtain ⟨negative, h⟩ := pack_normalize
    (signed m (UnpackedFloat.decreaseExponent a (p - 149) ((min p k : Nat) - 149)).1 -
      signed n (UnpackedFloat.decreaseExponent b (k - 149) ((min p k : Nat) - 149)).1) (min p k)
  refine ⟨negative, h.trans ?_⟩
  rw [← hleft, ← hright, signed_mul, signed_mul, Int.sub_mul, Nat.cast_pow]
  rfl

/-- The difference of two finite numbers is packed as the code nearest to the exact
difference. -/
theorem pack_sub (m n : Bool) {a b : Nat} (ha : a < 255 * 2 ^ 23) (hb : b < 255 * 2 ^ 23) :
    ∃ negative, UnpackedFloat.pack .binary32
        (UnpackedFloat.sub .binary32 (read m a) (read n b)) =
      bitsOf negative (single.ofUnits
        (signed m (single.units a) - signed n (single.units b)).natAbs) := by
  rcases Nat.eq_zero_or_pos a with rfl | ha0 <;> rcases Nat.eq_zero_or_pos b with rfl | hb0
  · rw [units_zero, signed_zero, signed_zero, Int.sub_zero, Int.natAbs_zero, ofUnits_zero]
    obtain ⟨negative, h⟩ : ∃ negative,
        UnpackedFloat.sub .binary32 (read m 0) (read n 0) = read negative 0 := by
      cases m <;> cases n <;> first | exact ⟨false, rfl⟩ | exact ⟨true, rfl⟩
    refine ⟨negative, ?_⟩
    rw [h]
    exact pack_read negative (Nat.zero_le _)
  · rw [units_zero, signed_zero, Int.zero_sub, Int.natAbs_neg, natAbs_signed]
    refine ⟨!n, ?_⟩
    rw [bitsOf_ofUnits_units _ hb.le, read_finite n hb0.ne' hb, read_finite _ hb0.ne' hb,
      ← neg_signOf]
    rfl
  · rw [units_zero, signed_zero, Int.sub_zero, natAbs_signed]
    refine ⟨m, ?_⟩
    rw [bitsOf_ofUnits_units _ ha.le, read_finite m ha0.ne' ha]
    rfl
  · rw [read_finite m ha0.ne' ha, read_finite n hb0.ne' hb, units_eq, units_eq]
    exact sub_finite m n _ _ _ _

end Single

namespace Binary

/-- How many units a number is. -/
def signedUnits (x : Float32) : Int :=
  Single.signed (isNegative x) ((format Float32).units (code x))

/-- The difference of two finite numbers is the exact difference, rounded. -/
theorem code_sub {x y : Float32} (hx : isFinite x = true) (hy : isFinite y = true) :
    code (x - y) = (format Float32).ofUnits (signedUnits x - signedUnits y).natAbs := by
  rw [isFinite, decide_eq_true_iff] at hx hy
  obtain ⟨negative, h⟩ := Single.pack_sub (isNegative x) (isNegative y) hx hy
  rw [← unpack_eq, ← unpack_eq] at h
  exact code_of_pack h (lt_of_le_of_lt (min_le_right _ _) (by decide))

/-! ## Infinities and what is not a number -/

variable {x : Float32}

theorem isNaN_sub (y : Float32) (h : isNaN x = true) : isNaN (x - y) = true := by
  rw [isNaN_iff] at h
  refine isNaN_of_pack_read (u := UnpackedFloat.sub .binary32 x.toModel.unpack y.toModel.unpack) ?_
  rw [h]
  rfl

theorem unpack_of_infinite (h : code x = 255 * 2 ^ 23) :
    x.toModel.unpack = .infinity (Single.signOf (isNegative x)) := by
  rw [unpack_eq, h, Single.read, if_neg (Nat.lt_irrefl _), if_pos rfl]

/-- An infinity has no difference with itself. -/
theorem isNaN_sub_self (h : code x = 255 * 2 ^ 23) : isNaN (x - x) = true := by
  refine isNaN_of_pack_read (u := UnpackedFloat.sub .binary32 x.toModel.unpack x.toModel.unpack) ?_
  rw [unpack_of_infinite h]
  cases isNegative x <;> rfl

/-- Subtracting a finite number from an infinity leaves it. -/
theorem code_sub_of_infinite {y : Float32} (hx : code x = 255 * 2 ^ 23)
    (hy : isFinite y = true) : code (x - y) = 255 * 2 ^ 23 := by
  rw [isFinite_iff] at hy
  have hsub : UnpackedFloat.sub .binary32 x.toModel.unpack y.toModel.unpack =
      Single.read (isNegative x) (255 * 2 ^ 23) := by
    rw [unpack_of_infinite hx, unpack_eq y]
    unfold Single.read
    rw [if_neg hy.le.not_gt, if_neg hy.ne, if_neg (Nat.lt_irrefl _), if_pos rfl]
    split_ifs <;> cases isNegative x <;> rfl
  exact code_of_pack ((congrArg _ hsub).trans (Single.pack_read _ le_rfl)) (by decide)

end Binary

end Brushwork
