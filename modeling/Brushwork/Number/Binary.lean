/-!
# Binary number formats

A finite number of a binary interchange format is a whole number of *units*, the unit
being the smallest positive number of the format. The *code* of a magnitude is its bit
pattern without the sign; codes are ordered as the magnitudes are, and the code after the
largest finite one is infinity, with the not-a-number codes above it.

`BinaryFormat.units` reads a code and `BinaryFormat.nearest` gives the code of the
magnitude nearest to a quotient, a tie going to the even code. Everything is exact
arithmetic on natural numbers, so widening a number, narrowing it and rounding it to a
whole one are definitions a proof can unfold.
-/

namespace Brushwork

/-- `num / den` rounded to the nearest whole number, a tie to the even one. -/
def roundToEven (num den : Nat) : Nat :=
  let low := num / den
  let twice := 2 * (num % den)
  if twice < den then low
  else if den < twice then low + 1
  else low + low % 2

/-- A binary interchange format, by the widths of its two fields below the sign. -/
structure BinaryFormat where
  fractionBits : Nat
  exponentBits : Nat

namespace BinaryFormat

/-- The format of `Float32`. -/
def single : BinaryFormat := ⟨23, 8⟩

/-- The format of `Float`. -/
def double : BinaryFormat := ⟨52, 11⟩

variable (f : BinaryFormat)

-- Powers are `Nat.pow` and not `^`, which is read differently where monoids are known.
/-- One is `2 ^ unitPlaces` units. -/
def unitPlaces : Nat :=
  Nat.pow 2 (f.exponentBits - 1) - 2 + f.fractionBits

/-- The code of infinity : the exponent field is all ones and the fraction is zero. -/
def infinity : Nat :=
  (Nat.pow 2 f.exponentBits - 1) * Nat.pow 2 f.fractionBits

/-- A code that is not a number. -/
def notANumber : Nat :=
  f.infinity + Nat.pow 2 (f.fractionBits - 1)

/-- The value of the sign bit. -/
def signPlace : Nat :=
  Nat.pow 2 (f.exponentBits + f.fractionBits)

/-- How many units the magnitude with a finite code is. -/
def units (code : Nat) : Nat :=
  let exponent := code / Nat.pow 2 f.fractionBits
  let fraction := code % Nat.pow 2 f.fractionBits
  if exponent = 0 then fraction
  else (Nat.pow 2 f.fractionBits + fraction) * Nat.pow 2 (exponent - 1)

/-- The code nearest to `num / den`, a tie to the even one. Neighbouring magnitudes of the
size of the quotient are `2 ^ shift` units apart. -/
def nearest (num den : Nat) : Nat :=
  let scaled := num * Nat.pow 2 f.unitPlaces
  let shift := (scaled / den).log2 - f.fractionBits
  min (shift * Nat.pow 2 f.fractionBits + roundToEven scaled (den * Nat.pow 2 shift)) f.infinity

/-- How many decimal digits `n` is written with. -/
def decimalLength (n : Nat) : Nat :=
  (Nat.toDigits 10 n).length

/-- The code nearest to `digits * 10 ^ exponent`. A number far beyond the format's range
is infinity or zero without its power of ten being worked out. -/
def ofDecimal (digits : Nat) (exponent : Int) : Nat :=
  let top : Int := exponent + decimalLength digits
  if digits = 0 then 0
  else if Nat.pow 2 (f.exponentBits - 1) ≤ 3 * (top - 1) then f.infinity
  else if 3 * top ≤ -((f.unitPlaces : Int) + 1) then 0
  else f.nearest (digits * Nat.pow 10 exponent.toNat) (Nat.pow 10 (-exponent).toNat)

/-- The code of a finite magnitude rounded to the nearest whole number, halves away from
zero. -/
def rounded (code : Nat) : Nat :=
  f.nearest ((2 * f.units code + Nat.pow 2 f.unitPlaces) / Nat.pow 2 (f.unitPlaces + 1)) 1

end BinaryFormat

/-- A type whose values are the bit patterns of a binary format. -/
class Binary (α : Type) where
  /-- The format of the bit patterns. -/
  format : BinaryFormat
  /-- The bit pattern of a value. -/
  bits : α → Nat
  /-- The value with a bit pattern. -/
  ofBits : Nat → α

instance : Binary Float32 where
  format := .single
  bits x := x.toBits.toNat
  ofBits n := .ofBits (.ofNat n)

instance : Binary Float where
  format := .double
  bits x := x.toBits.toNat
  ofBits n := .ofBits (.ofNat n)

namespace Binary

variable {α β : Type} [Binary α] [Binary β]

/-- The sign bit is set. -/
def isNegative (x : α) : Bool :=
  (format α).signPlace ≤ bits x

/-- The bit pattern without the sign. -/
def code (x : α) : Nat :=
  bits x % (format α).signPlace

/-- The value with a sign and a code. -/
def ofCode (negative : Bool) (code : Nat) : α :=
  ofBits (code + if negative then (format α).signPlace else 0)

/-- Neither infinite nor not-a-number. -/
def isFinite (x : α) : Bool :=
  code x < (format α).infinity

/-- Not a number. -/
def isNaN (x : α) : Bool :=
  (format α).infinity < code x

/-- The value that is not a number. -/
def nan : α :=
  ofCode false (format α).notANumber

/-- The infinity of a sign. -/
def infinite (negative : Bool) : α :=
  ofCode negative (format α).infinity

/-- The value nearest to `± num / den`. -/
def ofQuotient (negative : Bool) (num den : Nat) : α :=
  ofCode negative ((format α).nearest num den)

/-- The value nearest to `± digits * 10 ^ exponent`. -/
def ofDecimal (negative : Bool) (digits : Nat) (exponent : Int) : α :=
  ofCode negative ((format α).ofDecimal digits exponent)

/-- The value nearest to a whole number. -/
def ofInt (n : Int) : α :=
  ofQuotient (n < 0) n.natAbs 1

/-- The value of another format nearest to `x`, its sign kept. -/
def convert (x : α) : β :=
  if isFinite x then
    ofQuotient (isNegative x) ((format α).units (code x)) (Nat.pow 2 (format α).unitPlaces)
  else if isNaN x then nan
  else infinite (isNegative x)

/-- The nearest whole number, halves away from zero, the sign of zero kept. -/
def round (x : α) : α :=
  if isFinite x then ofCode (isNegative x) ((format α).rounded (code x)) else x

/-- The whole part, as a position in a table of at most `2 ^ 64 - 1` entries : too large a
number is that bound, a negative one or not-a-number is zero. -/
def toPosition (x : α) : Nat :=
  if isNaN x || isNegative x then 0
  else if isFinite x then
    min ((format α).units (code x) / Nat.pow 2 (format α).unitPlaces) (UInt64.size - 1)
  else UInt64.size - 1

end Binary

/-- The double-precision number equal to a single-precision one. -/
def widen (x : Float32) : Float :=
  Binary.convert x

/-- The single-precision number nearest to a double-precision one. -/
def narrow (x : Float) : Float32 :=
  Binary.convert x

end Brushwork
