import Brushwork.Number.Decimal

/-!
# Shortest decimal text

A finite number is written with the fewest decimal digits that read back as the same
number. Every finite magnitude is a finite decimal : a unit is `5 ^ p / 10 ^ p` for the
format's `p` places. `BinaryFormat.shortest` drops as many digits of that exact decimal as
it can : at each length it tries the two neighbours of the number on the grid of decimals
of that length, keeps one that reads back, of two the nearer, and of two equally near the
larger. Dropping no digit always reads back.

`numberText` lays the digits out in positional notation, never with an exponent.
-/

namespace Brushwork

namespace BinaryFormat

variable (f : BinaryFormat)

/-- The decimal digits of the magnitude with a finite code, the last of them standing for
`10 ^ (-unitPlaces)`. -/
def exactDigits (code : Nat) : Nat :=
  f.units code * Nat.pow 5 f.unitPlaces

/-- The neighbour of `exact` among the multiples of `10 ^ dropped` that reads back as
`code`, the nearer if both do. -/
def shortened? (code exact dropped : Nat) : Option Nat :=
  let grid := Nat.pow 10 dropped
  let low := exact / grid
  let readsBack (n : Nat) : Bool := f.ofDecimal n ((dropped : Int) - f.unitPlaces) == code
  match readsBack low, readsBack (low + 1) with
  | true, true => some (if 2 * (exact % grid) < grid then low else low + 1)
  | true, false => some low
  | false, true => some (low + 1)
  | false, false => none

/-- The shortest digits found with at most `dropped` digits of `exact` left out, and how
many were left out. -/
def shortestFrom (code exact : Nat) : Nat → Nat × Nat
  | 0 => (exact, 0)
  | dropped + 1 =>
    match f.shortened? code exact (dropped + 1) with
    | some digits => (digits, dropped + 1)
    | none => shortestFrom code exact dropped

/-- The shortest decimal `digits * 10 ^ exponent` that reads back as a finite code. -/
def shortest (code : Nat) : Nat × Int :=
  let exact := f.exactDigits code
  let (digits, dropped) := f.shortestFrom code exact (decimalLength exact)
  if code = 0 then (0, 0) else (digits, (dropped : Int) - f.unitPlaces)

end BinaryFormat

/-- `digits * 10 ^ exponent` in positional notation. A whole number ends in `wholeMark`. -/
def positional (wholeMark : List Char) (digits : Nat) (exponent : Int) : List Char :=
  let written := Nat.toDigits 10 digits
  let places := (-exponent).toNat
  if places = 0 then written ++ List.replicate exponent.toNat '0' ++ wholeMark
  else
    let padded := List.replicate (places + 1 - written.length) '0' ++ written
    let whole := padded.length - places
    padded.take whole ++ '.' :: padded.drop whole

/-- The shortest text of a number that reads back as the same number. -/
def numberText {α : Type} [Binary α] (wholeMark : List Char) (x : α) : List Char :=
  if Binary.isNaN x then ['N', 'a', 'N']
  else
    let sign := if Binary.isNegative x then ['-'] else []
    if Binary.isFinite x then
      let (digits, exponent) := (Binary.format α).shortest (Binary.code x)
      sign ++ positional wholeMark digits exponent
    else sign ++ ['i', 'n', 'f']

/-- The text of a single-precision number : a whole number has no point. -/
def singleText (x : Float32) : String :=
  .ofList (numberText [] x)

/-- The text of a double-precision number : a whole number ends in a point and a zero. -/
def doubleText (x : Float) : String :=
  .ofList (numberText ['.', '0'] x)

end Brushwork
