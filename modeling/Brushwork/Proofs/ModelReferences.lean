import Brushwork.Level.Entity
import Brushwork.Proofs.Number.Digits

/-!
# Which model an entity refers to

`RefersTo` is the grammar of model references : a star, an optional plus sign and one or more
digits whose value is below `2 ^ 64`. `Properties.UsesModel` says which model an entity uses by
it : the one its reference names or, for an entity that holds the world and has no value that
starts with a star, model 0. `modelNumber?_usesModel` says that exactly this is read, for every
entity. A text after a star that does not belong to the grammar gives no model, not even to the
world, and every number below `2 ^ 64` is read back from its digits, with any zeros in front.
-/

namespace Brushwork

/-- A number after a plus sign, which may be left out. -/
def unsigned : List Char → List Char
  | '+' :: cs => cs
  | cs => cs

theorem readPosition?_eq (cs : List Char) :
    readPosition? cs = (readDigits? (unsigned cs)).filter (· < UInt64.size) :=
  rfl

theorem unsigned_eq_or (cs : List Char) : cs = unsigned cs ∨ cs = '+' :: unsigned cs := by
  unfold unsigned
  split
  · exact Or.inr rfl
  · exact Or.inl rfl

theorem unsigned_of_isDigit {cs : List Char} (h : ∀ c ∈ cs, c.isDigit = true) :
    unsigned cs = cs := by
  unfold unsigned
  split
  · exact absurd (h '+' List.mem_cons_self) (by decide)
  · rfl

/-- The texts that refer to a model, with its number. -/
inductive RefersTo : List Char → Nat → Prop
  | intro {plus digits : List Char} (hplus : plus = [] ∨ plus = ['+']) (hsome : digits ≠ [])
      (hdigits : ∀ c ∈ digits, c.isDigit = true) (hfits : decimalValue digits < 2 ^ 64) :
      RefersTo ('*' :: (plus ++ digits)) (decimalValue digits)

theorem RefersTo.head?_eq {cs : List Char} {n : Nat} (h : RefersTo cs n) :
    cs.head? = some '*' := by
  cases h
  rfl

theorem readPosition?_eq_some_iff {cs : List Char} {n : Nat} :
    readPosition? cs = some n ↔ unsigned cs ≠ [] ∧ (∀ c ∈ unsigned cs, c.isDigit = true) ∧
      decimalValue (unsigned cs) = n ∧ n < 2 ^ 64 := by
  rw [readPosition?_eq, Option.filter_eq_some_iff, readDigits?_eq_some_iff,
    digitsValue_eq_decimalValue, decide_eq_true_iff, and_assoc, and_assoc]
  rfl

theorem readPosition?_eq_some_iff_refersTo {cs : List Char} {n : Nat} :
    readPosition? cs = some n ↔ RefersTo ('*' :: cs) n := by
  rw [readPosition?_eq_some_iff]
  constructor
  · rintro ⟨hsome, hdigits, rfl, hfits⟩
    obtain ⟨plus, hplus, hcs⟩ : ∃ plus, (plus = [] ∨ plus = ['+']) ∧ plus ++ unsigned cs = cs :=
      (unsigned_eq_or cs).elim (fun h => ⟨[], Or.inl rfl, h.symm⟩)
        fun h => ⟨['+'], Or.inr rfl, h.symm⟩
    have hrefers := RefersTo.intro hplus hsome hdigits hfits
    rwa [hcs] at hrefers
  · rintro ⟨rfl | rfl, hsome, hdigits, hfits⟩
    · rw [List.nil_append, unsigned_of_isDigit hdigits]
      exact ⟨hsome, hdigits, rfl, hfits⟩
    · exact ⟨hsome, hdigits, rfl, hfits⟩

theorem readPosition?_eq_none_iff {cs : List Char} :
    readPosition? cs = none ↔ unsigned cs = [] ∨ (∃ c ∈ unsigned cs, c.isDigit = false) ∨
      2 ^ 64 ≤ decimalValue (unsigned cs) := by
  have hsome : (∃ n, readPosition? cs = some n) ↔ unsigned cs ≠ [] ∧
      (∀ c ∈ unsigned cs, c.isDigit = true) ∧ decimalValue (unsigned cs) < 2 ^ 64 := by
    simp only [readPosition?_eq_some_iff, exists_and_left, exists_eq_left']
  rw [← not_iff_not, ← ne_eq, Option.ne_none_iff_exists', hsome]
  push Not
  simp only [ne_eq, Bool.not_eq_false]

/-- The digits of a number, with any zeros in front, are read as the number. -/
theorem readPosition?_zeros_append_toDigits {n : Nat} (k : Nat) (h : n < 2 ^ 64) :
    readPosition? (List.replicate k '0' ++ Nat.toDigits 10 n) = some n := by
  have hdigits := isDigit_zeros_append k (isDigit_toDigits n)
  rw [readPosition?_eq_some_iff, unsigned_of_isDigit hdigits, ← digitsValue_eq_decimalValue,
    digitsValue_zeros_append, digitsValue_toDigits]
  exact ⟨List.append_ne_nil_of_right_ne_nil _ Nat.toDigits_ne_nil, hdigits, rfl, h⟩

namespace Properties

/-- The model that an entity uses. -/
inductive UsesModel (entity : Properties) : Nat → Prop
  /-- The entity refers to the model. -/
  | referred {value : String} {n : Nat} (hvalue : entity.get? modelKey = some value)
      (h : RefersTo value.toList n) : UsesModel entity n
  /-- The entity holds the world, and has no value with a star that says otherwise. -/
  | world (hvalue : ∀ value, entity.get? modelKey = some value → value.toList.head? ≠ some '*')
      (hworld : entity.classname? = some worldClass) : UsesModel entity 0

variable {entity : Properties}

theorem starred?_eq_some_iff {value : String} {number : List Char} :
    starred? value = some number ↔ value.toList = '*' :: number := by
  unfold starred?
  split
  case h_1 rest h => rw [h, Option.some_inj, List.cons.injEq, and_iff_right rfl]
  case h_2 h => exact iff_of_false nofun fun hvalue => h number hvalue

/-- A value with a star is the only one that counts, also if it refers to no model. -/
theorem modelNumber?_of_star {value : String} {number : List Char}
    (hvalue : entity.get? modelKey = some value) (hstar : value.toList = '*' :: number) :
    entity.modelNumber? = readPosition? number := by
  rw [modelNumber?, hvalue, Option.bind_some, starred?_eq_some_iff.2 hstar]

theorem modelNumber?_of_no_star
    (h : ∀ value, entity.get? modelKey = some value → value.toList.head? ≠ some '*') :
    entity.modelNumber? = if entity.classname? = some worldClass then some 0 else none := by
  have hnone : (entity.get? modelKey).bind starred? = none := by
    rw [Option.bind_eq_none_iff]
    intro value hvalue
    rw [Option.eq_none_iff_forall_ne_some]
    intro number hnumber
    refine h value hvalue ?_
    rw [starred?_eq_some_iff.1 hnumber, List.head?_cons]
  rw [modelNumber?, hnone, isWorld]
  simp only [beq_iff_eq]

/-- An entity has a value with a star, or none that starts with one. -/
theorem star_or_no_star (entity : Properties) :
    (∃ value number, entity.get? modelKey = some value ∧ value.toList = '*' :: number) ∨
      ∀ value, entity.get? modelKey = some value → value.toList.head? ≠ some '*' := by
  by_cases h : ∃ value, entity.get? modelKey = some value ∧ value.toList.head? = some '*'
  · obtain ⟨value, hvalue, hhead⟩ := h
    obtain ⟨number, hnumber⟩ := List.head?_eq_some_iff.1 hhead
    exact Or.inl ⟨value, number, hvalue, hnumber⟩
  · exact Or.inr fun value hvalue hhead => h ⟨value, hvalue, hhead⟩

theorem modelNumber?_eq_some_iff (entity : Properties) (n : Nat) :
    entity.modelNumber? = some n ↔ entity.UsesModel n := by
  rcases entity.star_or_no_star with ⟨value, number, hvalue, hstar⟩ | hnone
  · rw [modelNumber?_of_star hvalue hstar, readPosition?_eq_some_iff_refersTo, ← hstar]
    constructor
    · exact UsesModel.referred hvalue
    · rintro (⟨hother, h⟩ | ⟨hno, -⟩)
      · rwa [← Option.some.inj (hother.symm.trans hvalue)]
      · exact absurd (by rw [hstar, List.head?_cons]) (hno value hvalue)
  · rw [modelNumber?_of_no_star hnone]
    constructor
    · intro h
      obtain ⟨hworld, rfl⟩ : entity.classname? = some worldClass ∧ 0 = n := by simpa using h
      exact UsesModel.world hnone hworld
    · rintro (⟨hvalue, h⟩ | ⟨-, hworld⟩)
      · exact absurd h.head?_eq (hnone _ hvalue)
      · rw [if_pos hworld]

theorem modelNumber?_eq_none_iff (entity : Properties) :
    entity.modelNumber? = none ↔ ∀ n, ¬ entity.UsesModel n := by
  simp only [Option.eq_none_iff_forall_ne_some, ne_eq, modelNumber?_eq_some_iff]

/-- What model an entity uses is read off its properties by the grammar of model references.
A text after a star that the grammar does not know gives no model : one without digits, one
with anything but digits after an optional plus sign, and one of `2 ^ 64` or more. Every number
below that is read back from its digits. -/
theorem modelNumber?_usesModel (entity : Properties) :
    (∀ n, entity.modelNumber? = some n ↔ entity.UsesModel n) ∧
    (∀ number, entity.get? modelKey = some (String.ofList ('*' :: number)) →
      (entity.modelNumber? = none ↔ unsigned number = [] ∨
        (∃ c ∈ unsigned number, c.isDigit = false) ∨
        2 ^ 64 ≤ decimalValue (unsigned number))) ∧
    ∀ n zeros, n < 2 ^ 64 →
      entity.get? modelKey = some ("*" ++ String.ofList (List.replicate zeros '0') ++ n.repr) →
      entity.modelNumber? = some n := by
  refine ⟨entity.modelNumber?_eq_some_iff, fun number hvalue => ?_, fun n zeros hn hvalue => ?_⟩
  · rw [modelNumber?_of_star hvalue String.toList_ofList, readPosition?_eq_none_iff]
  · have hstar : ("*" ++ String.ofList (List.replicate zeros '0') ++ n.repr).toList =
        '*' :: (List.replicate zeros '0' ++ Nat.toDigits 10 n) := by
      simp only [String.toList_append, Nat.repr_eq_ofList_toDigits, String.toList_ofList]
      rfl
    rw [modelNumber?_of_star hvalue hstar, readPosition?_zeros_append_toDigits zeros hn]

/-- Zeros in front of a number are passed over. -/
theorem modelNumber?_usesModel_door :
    (ofList [("classname", "func_door"), ("model", "*0012")]).modelNumber? = some 12 :=
  (modelNumber?_usesModel _).2.2 12 2 (by decide) (by decide +kernel)

end Properties

end Brushwork
