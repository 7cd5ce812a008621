import Brushwork.Number.Binary

/-!
# Decimal numerals

`Numeral.read?` reads the text of a number : an optional sign, then either a name
(`inf`, `infinity`, `nan`, in any mixture of cases) or digits with an optional point among
or beside them and an optional exponent. At least one digit stands before the exponent, at
least one in it, and nothing else is allowed. `readNumber?` gives the number of a binary
format nearest to the numeral.

`readPosition?` reads a position : digits after an optional plus sign, below `2 ^ 64`.
-/

namespace Brushwork

/-- The value of a string of decimal digits. -/
def digitsValue (ds : List Char) : Nat :=
  ds.foldl (fun n c => 10 * n + (c.toNat - '0'.toNat)) 0

/-- The value of one or more decimal digits. -/
def readDigits? (cs : List Char) : Option Nat :=
  if !cs.isEmpty && cs.all Char.isDigit then some (digitsValue cs) else none

/-- A leading sign, which may be left out, and what follows it. -/
def splitSign : List Char → Bool × List Char
  | '-' :: cs => (true, cs)
  | '+' :: cs => (false, cs)
  | cs => (false, cs)

/-- A position in a table : an optional plus sign and digits, below `2 ^ 64`. -/
def readPosition? (cs : List Char) : Option Nat :=
  let digits := match cs with
    | '+' :: cs => cs
    | cs => cs
  (readDigits? digits).filter (· < UInt64.size)

/-- What the text of a number can stand for. -/
inductive Numeral
  /-- No number. -/
  | nan
  /-- Infinity. -/
  | infinite (negative : Bool)
  /-- `digits * 10 ^ exponent`. -/
  | decimal (negative : Bool) (digits : Nat) (exponent : Int)
  deriving DecidableEq, Repr

namespace Numeral

/-- The exponent that ends a numeral, zero if it is left out. -/
def readExponent? : List Char → Option Int
  | [] => some 0
  | c :: cs =>
    if c = 'e' ∨ c = 'E' then
      let (negative, digits) := splitSign cs
      (readDigits? digits).map fun n => if negative then -(n : Int) else n
    else none

/-- The digits after a point, if there is one, and what follows them. -/
def splitFraction : List Char → List Char × List Char
  | '.' :: cs => cs.span Char.isDigit
  | cs => ([], cs)

/-- A numeral without sign that is written in digits. -/
def readDecimal? (negative : Bool) (cs : List Char) : Option Numeral :=
  let (whole, rest) := cs.span Char.isDigit
  let (fraction, rest) := splitFraction rest
  if whole.isEmpty && fraction.isEmpty then none
  else (readExponent? rest).map fun exponent =>
    .decimal negative (digitsValue (whole ++ fraction)) (exponent - fraction.length)

/-- The numeral a text writes. -/
def read? (cs : List Char) : Option Numeral :=
  let (negative, body) := splitSign cs
  let name := body.map Char.toLower
  if name = ['n', 'a', 'n'] then some .nan
  else if name = ['i', 'n', 'f'] ∨ name = ['i', 'n', 'f', 'i', 'n', 'i', 't', 'y'] then
    some (.infinite negative)
  else readDecimal? negative body

/-- The number of a binary format nearest to a numeral. -/
def toBinary {α : Type} [Binary α] : Numeral → α
  | nan => Binary.nan
  | infinite negative => Binary.infinite negative
  | decimal negative digits exponent => Binary.ofDecimal negative digits exponent

end Numeral

/-- The number of a binary format that a text writes. -/
def readNumber? {α : Type} [Binary α] (cs : List Char) : Option α :=
  (Numeral.read? cs).map Numeral.toBinary

end Brushwork
