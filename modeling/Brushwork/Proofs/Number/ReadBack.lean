import Brushwork.Proofs.Number.Decimals
import Brushwork.Text.Blank

/-!
# The text of a number reads back

The text of a single-precision number is one of the three names or digits with at most one point
among them. Laid out in positional notation, a decimal is read as one that the same number is
nearest to (`isWritten_positional`, `readDecimal?_of_isWritten`), and the shortest decimal of a
number is one that the number itself is nearest to. So every number is read back from its text,
the sign of zero and not-a-number included (`readNumber?_numberText`).
-/

namespace Brushwork

open BinaryFormat (single)

/-! ## Digits in positional notation -/

/-- A text is digits, and a point with more digits if there are any. -/
structure IsWritten (text whole fraction : List Char) : Prop where
  text_eq : text = whole ++ fraction ∧ fraction = [] ∨ text = whole ++ '.' :: fraction
  whole_ne_nil : whole ≠ []
  isDigit : ∀ c ∈ whole ++ fraction, c.isDigit = true

/-- The number nearest to a decimal is the one nearest to what its positional notation says. -/
theorem isWritten_positional (digits : Nat) (exponent : Int) :
    ∃ whole fraction, IsWritten (positional [] digits exponent) whole fraction ∧
      ∀ f : BinaryFormat, f.ofDecimal (digitsValue (whole ++ fraction)) (-fraction.length) =
        f.ofDecimal digits exponent := by
  unfold positional
  dsimp only
  split_ifs with hplaces
  · have hexponent : exponent = exponent.toNat := by omega
    refine ⟨Nat.toDigits 10 digits ++ List.replicate exponent.toNat '0', [], ⟨Or.inl ⟨rfl, rfl⟩,
      List.append_ne_nil_of_left_ne_nil Nat.toDigits_ne_nil _, ?_⟩, fun f => ?_⟩
    · intro c hc
      rw [List.append_nil] at hc
      rcases List.mem_append.1 hc with hdigit | hzero
      · exact isDigit_toDigits digits c hdigit
      · rw [List.eq_of_mem_replicate hzero]
        rfl
    · rw [List.append_nil, digitsValue_append_zeros, digitsValue_toDigits, List.length_nil,
        Nat.cast_zero, neg_zero, f.ofDecimal_mul_pow, ← hexponent]
  · generalize hplaced : (-exponent).toNat = places at *
    generalize hpadded : List.replicate (places + 1 - (Nat.toDigits 10 digits).length) '0'
      ++ Nat.toDigits 10 digits = padded
    have hlength : places < padded.length := by
      rw [← hpadded, List.length_append, List.length_replicate]
      omega
    have hjoin : padded.take (padded.length - places) ++ padded.drop (padded.length - places) =
      padded := List.take_append_drop ..
    have hfraction : (padded.drop (padded.length - places)).length = places := by
      rw [List.length_drop]
      omega
    have hexponent : -(places : Int) = exponent := by omega
    refine ⟨padded.take (padded.length - places), padded.drop (padded.length - places),
      ⟨Or.inr rfl, ?_, ?_⟩, fun f => ?_⟩
    · rw [← List.length_pos_iff, List.length_take]
      omega
    · rw [hjoin, ← hpadded]
      exact isDigit_zeros_append _ (isDigit_toDigits digits)
    · rw [hjoin, hfraction, hexponent, ← hpadded, digitsValue_zeros_append, digitsValue_toDigits]

namespace IsWritten

variable {text whole fraction : List Char}

/-- Positional notation begins with a digit. -/
theorem eq_cons (h : IsWritten text whole fraction) :
    ∃ c cs, text = c :: cs ∧ c.isDigit = true := by
  obtain ⟨c, cs, rfl⟩ := List.exists_cons_of_ne_nil h.whole_ne_nil
  have hc : c.isDigit = true := h.isDigit c List.mem_cons_self
  rcases h.text_eq with ⟨htext, -⟩ | htext
  · exact ⟨c, _, htext, hc⟩
  · exact ⟨c, _, htext, hc⟩

theorem isDigit_or_eq_point (h : IsWritten text whole fraction) :
    ∀ c ∈ text, c.isDigit = true ∨ c = '.' := by
  intro c hc
  rcases h.text_eq with ⟨htext, -⟩ | htext
  · rw [htext] at hc
    exact Or.inl (h.isDigit c hc)
  · rw [htext, List.mem_append, List.mem_cons] at hc
    rcases hc with hwhole | rfl | hfraction
    · exact Or.inl (h.isDigit c (List.mem_append_left _ hwhole))
    · exact Or.inr rfl
    · exact Or.inl (h.isDigit c (List.mem_append_right _ hfraction))

/-- Positional notation is read as its digits, the last of them at the end of the fraction. -/
theorem readDecimal?_eq (h : IsWritten text whole fraction) (negative : Bool) :
    Numeral.readDecimal? negative text =
      some (.decimal negative (digitsValue (whole ++ fraction)) (-fraction.length)) := by
  have hwhole : ∀ c ∈ whole, c.isDigit = true :=
    fun c hc => h.isDigit c (List.mem_append_left _ hc)
  have hempty : whole.isEmpty = false := List.isEmpty_eq_false_iff.2 h.whole_ne_nil
  obtain ⟨rest, htext, hrest, hsplit⟩ : ∃ rest, text = whole ++ rest ∧
      (∀ c ∈ rest.head?, c.isDigit = false) ∧ Numeral.splitFraction rest = (fraction, []) := by
    rcases h.text_eq with ⟨htext, rfl⟩ | htext
    · exact ⟨[], htext, nofun, rfl⟩
    · refine ⟨'.' :: fraction, htext, ?_, ?_⟩
      · rintro c ⟨⟩
        rfl
      · have hspan : (fraction ++ []).span Char.isDigit = (fraction, []) :=
          span_isDigit (fun c hc => h.isDigit c (List.mem_append_right whole hc)) nofun
        rwa [List.append_nil] at hspan
  have hspan := span_isDigit hwhole hrest
  unfold Numeral.readDecimal?
  simp only [htext, hspan, hsplit, hempty, Bool.false_and, Bool.false_eq_true, if_false,
    Numeral.readExponent?, Option.map_some, Int.zero_sub]

end IsWritten

/-! ## Numerals -/

theorem toLower_of_isDigit {c : Char} (h : c.isDigit = true) : c.toLower = c := by
  rw [Char.isDigit, Bool.and_eq_true, decide_eq_true_iff, decide_eq_true_iff] at h
  rw [Char.toLower, dif_neg]
  exact fun hupper => absurd (UInt32.le_trans hupper.1 h.2) (by decide)

theorem isBlank_of_isDigit {c : Char} (h : c.isDigit = true) : isBlank c = false := by
  rw [Char.isDigit, Bool.and_eq_true, decide_eq_true_iff, decide_eq_true_iff] at h
  have hlow : 48 ≤ c.toNat := h.1
  have hhigh : c.toNat ≤ 57 := h.2
  simp only [isBlank, Bool.or_eq_false_iff, Bool.and_eq_false_iff, decide_eq_false_iff_not,
    beq_eq_false_iff_ne]
  omega

/-- A text that begins with a digit after the sign is no name, so it is read as a decimal. -/
theorem read?_sign_append (negative : Bool) {c : Char} {cs : List Char} (hc : c.isDigit = true) :
    Numeral.read? ((if negative then ['-'] else []) ++ c :: cs) =
      Numeral.readDecimal? negative (c :: cs) := by
  have hne : ∀ d : Char, d.isDigit = false → c ≠ d := fun d hd hcd => by
    rw [hcd, hd] at hc
    cases hc
  have hsplit : splitSign ((if negative then ['-'] else []) ++ c :: cs) = (negative, c :: cs) := by
    cases negative with
    | true => rfl
    | false =>
      unfold splitSign
      split
      case h_1 h => exact absurd (List.head_eq_of_cons_eq h) (hne _ rfl)
      case h_2 h => exact absurd (List.head_eq_of_cons_eq h) (hne _ rfl)
      case h_3 => rfl
  unfold Numeral.read?
  simp only [hsplit, List.map_cons, toLower_of_isDigit hc, List.cons.injEq, hne 'n' rfl,
    hne 'i' rfl, false_and, or_self, if_false]

namespace Binary

variable {x : Float32}

/-- There is one number that is not a number. -/
theorem eq_nan (h : isNaN x = true) : x = nan := by
  rw [isNaN_eq_true_iff] at h
  have hnan : (nan : Float32) = .ofModel (.pack (Single.read false single.notANumber)) :=
    ofCode_eq_pack false (by decide)
  have hread : ∀ negative {code : Nat}, 255 * 2 ^ 23 < code →
      Single.read negative code = .notANumber := fun _ _ hcode =>
    Single.read_eq_notANumber_iff.2 hcode
  rw [hnan, hread false (by decide), ← hread (isNegative x) h,
    ← ofCode_eq_pack (isNegative x) (code_lt x), ofCode_code]

theorem eq_infinite (h : code x = 255 * 2 ^ 23) : x = infinite (isNegative x) := by
  have hinfinity : (format Float32).infinity = 255 * 2 ^ 23 := by decide
  rw [infinite, hinfinity, ← h, ofCode_code]

end Binary

/-! ## Texts of numbers -/

theorem numberText_of_isNaN {x : Float32} (h : Binary.isNaN x = true) :
    numberText [] x = ['N', 'a', 'N'] := by
  rw [numberText, if_pos h]

theorem numberText_of_not_isNaN {x : Float32} (h : Binary.isNaN x = false) :
    ∃ digits exponent, single.shortest (Binary.code x) = (digits, exponent) ∧
      numberText [] x = (if Binary.isNegative x then ['-'] else []) ++
        if Binary.isFinite x then positional [] digits exponent else ['i', 'n', 'f'] := by
  have hnumber : ¬ Binary.isNaN x = true := by
    rw [h]
    exact Bool.false_ne_true
  have hformat : Binary.format Float32 = single := rfl
  rw [numberText, if_neg hnumber, hformat]
  -- The shortest decimal goes by a name, so that it is not worked out.
  generalize single.shortest (Binary.code x) = shortest
  obtain ⟨digits, exponent⟩ := shortest
  refine ⟨digits, exponent, rfl, ?_⟩
  cases Binary.isFinite x <;> rfl

/-- The text of a number is not empty, and there is no blank in it. -/
theorem numberText_ne_nil_and_not_isBlank (x : Float32) :
    numberText [] x ≠ [] ∧ ∀ c ∈ numberText [] x, isBlank c = false := by
  cases hnan : Binary.isNaN x with
  | true =>
    rw [numberText_of_isNaN hnan]
    exact ⟨List.cons_ne_nil _ _, by simp [isBlank]⟩
  | false =>
    obtain ⟨digits, exponent, -, htext⟩ := numberText_of_not_isNaN hnan
    have hsign : ∀ c ∈ (if Binary.isNegative x then ['-'] else []), isBlank c = false := by
      cases Binary.isNegative x <;> simp [isBlank]
    rw [htext]
    cases Binary.isFinite x with
    | false =>
      rw [if_neg Bool.false_ne_true]
      exact ⟨List.append_ne_nil_of_right_ne_nil _ (List.cons_ne_nil _ _),
        List.forall_mem_append.2 ⟨hsign, by simp [isBlank]⟩⟩
    | true =>
      obtain ⟨whole, fraction, hwritten, -⟩ := isWritten_positional digits exponent
      obtain ⟨c, cs, hcons, -⟩ := hwritten.eq_cons
      rw [if_pos rfl]
      refine ⟨List.append_ne_nil_of_right_ne_nil _ (hcons ▸ List.cons_ne_nil c cs),
        List.forall_mem_append.2 ⟨hsign, fun d hd => ?_⟩⟩
      rcases hwritten.isDigit_or_eq_point d hd with hdigit | rfl
      · exact isBlank_of_isDigit hdigit
      · rfl

/-- Every number is read back from its text. -/
theorem readNumber?_numberText (x : Float32) : readNumber? (numberText [] x) = some x := by
  cases hnan : Binary.isNaN x with
  | true =>
    rw [numberText_of_isNaN hnan, Binary.eq_nan hnan]
    rfl
  | false =>
    obtain ⟨digits, exponent, hshortest, htext⟩ := numberText_of_not_isNaN hnan
    cases hfinite : Binary.isFinite x with
    | false =>
      have hread : ∀ negative, Numeral.read?
          ((if negative then ['-'] else []) ++ ['i', 'n', 'f']) = some (.infinite negative) := by
        decide
      have hcode : Binary.code x = 255 * 2 ^ 23 :=
        Nat.le_antisymm ((Binary.isNaN_eq_false_iff x).1 hnan)
          (Binary.isFinite_eq_false_iff.1 hfinite)
      rw [htext, hfinite, if_neg Bool.false_ne_true, readNumber?, hread, Option.map_some,
        Numeral.toBinary, ← Binary.eq_infinite hcode]
    | true =>
      obtain ⟨whole, fraction, hwritten, hnearest⟩ := isWritten_positional digits exponent
      obtain ⟨c, cs, hcons, hdigit⟩ := hwritten.eq_cons
      have hread := hwritten.readDecimal?_eq (Binary.isNegative x)
      have hcode := single.ofDecimal_shortest
        (Single.ofDecimal_exactDigits (Binary.isFinite_iff.1 hfinite))
      have hformat : Binary.format Float32 = single := rfl
      rw [hcons] at hread
      rw [hshortest] at hcode
      rw [htext, hfinite, if_pos rfl, hcons, readNumber?, read?_sign_append _ hdigit, hread,
        Option.map_some, Numeral.toBinary, Binary.ofDecimal, hformat, hnearest, hcode,
        Binary.ofCode_code]

end Brushwork
