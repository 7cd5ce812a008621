import Mathlib
import Brushwork.Number.Scalar

/-!
# Single-precision numbers through their codes

The bits of a number are its sign and its code (`Binary.ofCode_code`). `Single.read` is what
they stand for, and reading and packing are inverse to each other for the code of a number
(`Single.pack_read`). So what an operation makes of a number is known from its sign and its code
(`Binary.unpack_eq`), and the code of what it packs tells whether that is a number, infinite or
finite.
-/

namespace Brushwork

open Float.Model
open Float.Model.UnpackedFloat (Sign)

namespace Single

/-! ## Reading a code -/

/-- The sign that a bit stands for. -/
def signOf (negative : Bool) : Sign :=
  if negative then .negative else .positive

/-- The significand of a finite code, with the leading bit that is not stored. -/
def mantissaOf (code : Nat) : Nat :=
  if code / 2 ^ 23 = 0 then code else 2 ^ 23 + code % 2 ^ 23

/-- How many places the significand of a finite code is shifted by. -/
def shiftOf (code : Nat) : Nat :=
  code / 2 ^ 23 - 1

theorem mantissaOf_pos {code : Nat} (h : code ≠ 0) : 0 < mantissaOf code := by
  unfold mantissaOf
  split_ifs <;> omega

theorem mantissaOf_lt (code : Nat) : mantissaOf code < 2 ^ 24 := by
  unfold mantissaOf
  split_ifs <;> omega

/-- Only a significand that is not shifted may have fewer places. -/
theorem shiftOf_eq_zero_or_le_mantissaOf (code : Nat) :
    shiftOf code = 0 ∨ 2 ^ 23 ≤ mantissaOf code := by
  unfold shiftOf mantissaOf
  split_ifs <;> omega

/-- Codes are ordered by the shift first and then by the significand. -/
theorem shiftOf_lt_or_mantissaOf_lt {a b : Nat} (h : a < b) :
    shiftOf a < shiftOf b ∨ shiftOf a = shiftOf b ∧ mantissaOf a < mantissaOf b := by
  unfold shiftOf mantissaOf
  split_ifs <;> omega

/-- What a sign and a code are read as. -/
def read (negative : Bool) (code : Nat) : UnpackedFloat :=
  if 255 * 2 ^ 23 < code then .notANumber
  else if code = 255 * 2 ^ 23 then .infinity (signOf negative)
  else if h : code = 0 then .zero (signOf negative)
  else .finite (signOf negative) (mantissaOf code) (shiftOf code - 149) (mantissaOf_pos h)

section Bits

variable (b : BitVec Format.binary32.numBits)

theorem toNat_unpackMantissa :
    (UnpackedFloat.unpackMantissa b).toNat = b.toNat % 2 ^ 23 := by
  rw [UnpackedFloat.unpackMantissa_def, BitVec.extractLsb'_toNat]
  simp

theorem toNat_unpackExponent :
    (UnpackedFloat.unpackExponent b).toNat = b.toNat / 2 ^ 23 % 2 ^ 8 := by
  rw [UnpackedFloat.unpackExponent_def, BitVec.extractLsb'_toNat, Nat.shiftRight_eq_div_pow]

theorem toNat_unpackSign :
    (UnpackedFloat.unpackSign b).toNat = b.toNat / 2 ^ 31 % 2 := by
  rw [UnpackedFloat.unpackSign_def, BitVec.extractLsb'_toNat, Nat.shiftRight_eq_div_pow]
  rfl

theorem ofBitVec_unpackSign :
    Sign.ofBitVec (UnpackedFloat.unpackSign b) = signOf (2 ^ 31 ≤ b.toNat) := by
  have hlt : b.toNat < 2 ^ 32 := b.isLt
  have hsign : UnpackedFloat.unpackSign b = 0#1 ↔ ¬ 2 ^ 31 ≤ b.toNat := by
    rw [← BitVec.toNat_inj, toNat_unpackSign, BitVec.toNat_ofNat]
    omega
  unfold Sign.ofBitVec signOf
  simp only [hsign, decide_eq_true_eq, ite_not]

theorem unpackExponent_eq_iff (e : BitVec 8) :
    UnpackedFloat.unpackExponent b = e ↔ b.toNat / 2 ^ 23 % 2 ^ 8 = e.toNat := by
  rw [← toNat_unpackExponent, BitVec.toNat_inj]

theorem unpackMantissa_eq_zero_iff :
    UnpackedFloat.unpackMantissa b = 0#23 ↔ b.toNat % 2 ^ 23 = 0 := by
  rw [← toNat_unpackMantissa, ← BitVec.toNat_inj]
  rfl

theorem toNat_append_unpackMantissa :
    (1#1 ++ UnpackedFloat.unpackMantissa b).toNat =
      2 ^ 23 + b.toNat % 2 ^ 23 := by
  have hor := Nat.two_pow_add_eq_or_of_lt
    (UnpackedFloat.unpackMantissa b).isLt 1
  rw [Nat.mul_one] at hor
  rw [BitVec.toNat_append, ← toNat_unpackMantissa, hor]
  rfl

/-- Bits are read by their sign and their code. -/
theorem unpack_eq_read :
    UnpackedFloat.unpack .binary32 b = read (2 ^ 31 ≤ b.toNat) (b.toNat % 2 ^ 31) := by
  have hlt : b.toNat < 2 ^ 32 := b.isLt
  have hones := unpackExponent_eq_iff b (-1#8)
  have hzeros := unpackExponent_eq_iff b 0#8
  have hnone := unpackMantissa_eq_zero_iff b
  have happend := toNat_append_unpackMantissa b
  have hbias : (Format.binary32.exponentBias : Int) + (23 : Nat) = 150 := rfl
  rw [show (-1#8).toNat = 255 from rfl] at hones
  rw [show (0#8).toNat = 0 from rfl] at hzeros
  unfold UnpackedFloat.unpack read mantissaOf shiftOf
  dsimp only
  simp only [ofBitVec_unpackSign, hones, hzeros, hnone, happend, toNat_unpackExponent,
    toNat_unpackMantissa, hbias]
  -- The fields of the bits and the size of the code tell the same five kinds apart.
  split_ifs <;> first | omega | rfl | (congr 1 <;> omega)

end Bits

theorem read_eq_notANumber_iff {negative : Bool} {code : Nat} :
    read negative code = .notANumber ↔ 255 * 2 ^ 23 < code := by
  unfold read
  split_ifs with hnan
  · exact iff_of_true rfl hnan
  all_goals exact iff_of_false nofun hnan

theorem isNaNBits_iff (b : BitVec Format.binary32.numBits) :
    UnpackedFloat.isNaNBits b = true ↔ 255 * 2 ^ 23 < b.toNat % 2 ^ 31 := by
  have hones := unpackExponent_eq_iff b (-1#8)
  have hnone := unpackMantissa_eq_zero_iff b
  rw [show (-1#8).toNat = 255 from rfl] at hones
  unfold UnpackedFloat.isNaNBits
  rw [decide_eq_true_iff, ne_eq]
  dsimp only
  rw [hones, hnone]
  omega

/-- Packing what bits are read as gives the bits back, unless they are no number. -/
theorem pack_unpack_of_le {b : BitVec Format.binary32.numBits}
    (h : b.toNat % 2 ^ 31 ≤ 255 * 2 ^ 23) :
    UnpackedFloat.pack .binary32 (UnpackedFloat.unpack .binary32 b) = b := by
  rw [UnpackedFloat.pack_unpack, if_neg]
  rw [isNaNBits_iff]
  exact Nat.not_lt.2 h

/-- The bits of a sign and a code. -/
def bitsOf (negative : Bool) (code : Nat) : BitVec Format.binary32.numBits :=
  BitVec.ofNat _ (code + if negative then 2 ^ 31 else 0)

theorem toNat_bitsOf (negative : Bool) {code : Nat} (h : code < 2 ^ 31) :
    (bitsOf negative code).toNat = code + if negative then 2 ^ 31 else 0 := by
  have hnumBits : 2 ^ Format.binary32.numBits = 2 ^ 32 := rfl
  rw [bitsOf, BitVec.toNat_ofNat, hnumBits, Nat.mod_eq_of_lt]
  split_ifs <;> omega

theorem toNat_bitsOf_mod (negative : Bool) {code : Nat} (h : code < 2 ^ 31) :
    (bitsOf negative code).toNat % 2 ^ 31 = code := by
  rw [toNat_bitsOf negative h]
  split_ifs <;> omega

theorem unpack_bitsOf (negative : Bool) {code : Nat} (h : code < 2 ^ 31) :
    UnpackedFloat.unpack .binary32 (bitsOf negative code) = read negative code := by
  rw [unpack_eq_read, toNat_bitsOf_mod negative h, toNat_bitsOf negative h]
  cases negative with
  | true => rw [if_pos rfl, decide_eq_true (Nat.le_add_left ..)]
  | false => rw [if_neg Bool.false_ne_true, Nat.add_zero, decide_eq_false (Nat.not_le.2 h)]

/-- What a code that is a number is read as is packed into its bits. -/
theorem pack_read (negative : Bool) {code : Nat} (h : code ≤ 255 * 2 ^ 23) :
    UnpackedFloat.pack .binary32 (read negative code) = bitsOf negative code := by
  have hlt : code < 2 ^ 31 := by omega
  rw [← unpack_bitsOf negative hlt, pack_unpack_of_le]
  rwa [toNat_bitsOf_mod negative hlt]

/-- A significand that fills its places is packed into the code of both, or into that of
infinity if it is too large. -/
theorem pack_finite (negative : Bool) {m t : Nat} (hm : 0 < m) (hlow : t = 0 ∨ 2 ^ 23 ≤ m)
    (hlt : m < 2 ^ 24) :
    UnpackedFloat.pack .binary32 (.finite (signOf negative) m (t - 149) hm) =
      bitsOf negative (min (t * 2 ^ 23 + m) (255 * 2 ^ 23)) := by
  rcases Nat.lt_or_ge (t * 2 ^ 23 + m) (255 * 2 ^ 23) with hfinite | hinfinite
  · rw [min_eq_left hfinite.le, ← pack_read negative hfinite.le]
    congr 1
    unfold read mantissaOf shiftOf
    split_ifs <;> first | omega | (congr 1 <;> omega)
  · rw [min_eq_right hinfinite, ← pack_read negative le_rfl]
    have hbias : (Format.binary32.exponentBias : Int) = 127 := rfl
    unfold UnpackedFloat.pack
    dsimp only
    rw [if_pos (by rw [hbias]; omega)]
    rfl

end Single

namespace Binary

variable (x : Float32)

theorem bits_lt : bits x < 2 ^ 32 :=
  x.toBits.toNat_lt

theorem code_lt : code x < 2 ^ 31 :=
  Nat.mod_lt _ (by decide)

theorem code_add_sign :
    code x + (if isNegative x then (format Float32).signPlace else 0) = bits x := by
  have hlt := bits_lt x
  have hplace : (format Float32).signPlace = 2 ^ 31 := rfl
  unfold code isNegative
  rw [hplace]
  simp only [decide_eq_true_eq]
  split_ifs <;> omega

/-- A number is made of its sign and its code. -/
theorem ofCode_code : ofCode (isNegative x) (code x) = x := by
  unfold ofCode
  rw [code_add_sign]
  exact (congrArg Float32.ofBits (UInt32.ofNat_toNat)).trans (Float32.ofBits_toBits x)

theorem unpack_eq : x.toModel.unpack = Single.read (isNegative x) (code x) :=
  Single.unpack_eq_read x.toBits.toBitVec

theorem ofCode_eq_pack (negative : Bool) {code : Nat} (h : code < 2 ^ 31) :
    (ofCode negative code : Float32) = .ofModel (.pack (Single.read negative code)) := by
  rw [← Single.unpack_bitsOf negative h]
  rfl

theorem code_of_pack {u : UnpackedFloat} {negative : Bool} {c : Nat}
    (h : UnpackedFloat.pack .binary32 u = Single.bitsOf negative c) (hc : c < 2 ^ 31) :
    code (Float32.ofModel (.pack u)) = c := by
  have hbits : bits (Float32.ofModel (.pack u)) = (UnpackedFloat.pack .binary32 u).toNat := rfl
  rw [code, hbits, h]
  exact Single.toNat_bitsOf_mod negative hc

theorem isNegative_of_pack {u : UnpackedFloat} {negative : Bool} {c : Nat}
    (h : UnpackedFloat.pack .binary32 u = Single.bitsOf negative c) (hc : c < 2 ^ 31) :
    isNegative (Float32.ofModel (.pack u)) = negative := by
  have hbits : bits (Float32.ofModel (.pack u)) = (UnpackedFloat.pack .binary32 u).toNat := rfl
  have hplace : (format Float32).signPlace = 2 ^ 31 := rfl
  rw [isNegative, hbits, h, hplace, Single.toNat_bitsOf negative hc]
  cases negative with
  | true => exact decide_eq_true (Nat.le_add_left ..)
  | false => exact decide_eq_false (Nat.not_le.2 hc)

theorem code_ofCode (negative : Bool) {c : Nat} (h : c ≤ (format Float32).infinity) :
    code (ofCode negative c : Float32) = c := by
  have hlt : c < 2 ^ 31 := h.trans_lt (by decide)
  rw [ofCode_eq_pack negative hlt]
  exact code_of_pack (Single.pack_read negative h) hlt

theorem isNegative_ofCode (negative : Bool) {c : Nat} (h : c ≤ (format Float32).infinity) :
    isNegative (ofCode negative c : Float32) = negative := by
  have hlt : c < 2 ^ 31 := h.trans_lt (by decide)
  rw [ofCode_eq_pack negative hlt]
  exact isNegative_of_pack (Single.pack_read negative h) hlt

theorem isNaN_iff : isNaN x = true ↔ x.toModel.unpack = .notANumber := by
  rw [unpack_eq, Single.read_eq_notANumber_iff, isNaN, decide_eq_true_iff]
  rfl

theorem isNaN_eq_false_iff : isNaN x = false ↔ code x ≤ 255 * 2 ^ 23 := by
  rw [isNaN, decide_eq_false_iff_not, Nat.not_lt]
  rfl

variable {x}

theorem isNaN_eq_true_iff : isNaN x = true ↔ 255 * 2 ^ 23 < code x := by
  rw [← Bool.not_eq_false, isNaN_eq_false_iff, Nat.not_le]

/-! ## Kinds of numbers -/

theorem isFinite_iff : isFinite x = true ↔ code x < 255 * 2 ^ 23 := by
  rw [isFinite, decide_eq_true_iff]
  rfl

theorem isFinite_eq_false_iff : isFinite x = false ↔ 255 * 2 ^ 23 ≤ code x := by
  rw [← Bool.not_eq_true, isFinite_iff, Nat.not_lt]

theorem isNaN_eq_false_of_isFinite (h : isFinite x = true) : isNaN x = false := by
  rw [isFinite_iff] at h
  exact (isNaN_eq_false_iff x).2 h.le

/-- A number is not-a-number, infinite or finite. -/
theorem isNaN_or_infinite_or_isFinite (x : Float32) :
    isNaN x = true ∨ code x = 255 * 2 ^ 23 ∨ isFinite x = true := by
  rw [isFinite_iff, ← Bool.not_eq_false, isNaN_eq_false_iff]
  omega

/-! ## Absolute values and negation -/

variable (x)

theorem isNaN_of_pack_read {u : UnpackedFloat} (h : u = .notANumber) :
    isNaN (Float32.ofModel (.pack u)) = true := by
  rw [isNaN_iff, h]
  exact UnpackedFloat.unpack_packedNaN

theorem code_abs (h : isNaN x = false) : code x.abs = code x ∧ isNegative x.abs = false := by
  rw [isNaN_eq_false_iff] at h
  have habs : (Single.read (isNegative x) (code x)).abs = Single.read false (code x) := by
    unfold Single.read
    split_ifs <;> rfl
  have hpack : UnpackedFloat.pack .binary32 x.toModel.unpack.abs =
      Single.bitsOf false (code x) := by
    rw [unpack_eq, habs, Single.pack_read false h]
  exact ⟨code_of_pack hpack (code_lt x), isNegative_of_pack hpack (code_lt x)⟩

theorem code_neg (h : isNaN x = false) : code (-x) = code x ∧ isNegative (-x) = !isNegative x := by
  rw [isNaN_eq_false_iff] at h
  have hneg : (Single.read (isNegative x) (code x)).neg = Single.read (!isNegative x) (code x) := by
    unfold Single.read
    split_ifs <;> cases isNegative x <;> rfl
  have hpack : UnpackedFloat.pack .binary32 x.toModel.unpack.neg =
      Single.bitsOf (!isNegative x) (code x) := by
    rw [unpack_eq, hneg, Single.pack_read _ h]
  exact ⟨code_of_pack hpack (code_lt x), isNegative_of_pack hpack (code_lt x)⟩

@[simp] theorem isNaN_abs : isNaN x.abs = isNaN x := by
  cases h : isNaN x with
  | true =>
    rw [isNaN_iff] at h
    refine isNaN_of_pack_read (u := x.toModel.unpack.abs) ?_
    rw [h]
    rfl
  | false =>
    obtain ⟨habs, -⟩ := code_abs x h
    rw [isNaN_eq_false_iff] at h ⊢
    rwa [habs]

end Binary

end Brushwork
