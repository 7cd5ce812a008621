/-!
# Blanks and words

The blanks are the characters with the Unicode property `White_Space`. `words` cuts a text
at its blanks, runs of them counting once.
-/

namespace Brushwork

/-- The characters with the Unicode property `White_Space`, by their code points. -/
def isBlank (c : Char) : Bool :=
  let n := c.toNat
  (0x9 ≤ n && n ≤ 0xd) || n == 0x20 || n == 0x85 || n == 0xa0 || n == 0x1680 ||
    (0x2000 ≤ n && n ≤ 0x200a) || n == 0x2028 || n == 0x2029 || n == 0x202f ||
    n == 0x205f || n == 0x3000

/-- Put a word in front, unless it is empty. -/
def consWord (word : List Char) (rest : List (List Char)) : List (List Char) :=
  if word.isEmpty then rest else word :: rest

/-- The words of a text that continues the word begun by `begun`. -/
def wordsFrom (begun : List Char) : List Char → List (List Char)
  | [] => consWord begun []
  | c :: cs =>
    if isBlank c then consWord begun (wordsFrom [] cs) else wordsFrom (begun ++ [c]) cs

/-- The maximal runs of characters that are not blank, in order. -/
def words (cs : List Char) : List (List Char) :=
  wordsFrom [] cs

theorem wordsFrom_append_of_not_blank :
    ∀ (word begun rest : List Char), (∀ c ∈ word, isBlank c = false) →
      wordsFrom begun (word ++ rest) = wordsFrom (begun ++ word) rest
  | [], begun, rest, _ => by simp
  | c :: word, begun, rest, h => by
    have hc : isBlank c = false := h c (by simp)
    have ih := wordsFrom_append_of_not_blank word (begun ++ [c]) rest
      fun d hd => h d (by simp [hd])
    simpa [wordsFrom, hc] using ih

end Brushwork
