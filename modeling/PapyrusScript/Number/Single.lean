import PapyrusScript.Number.Integer

/-!
# Single-precision numbers

A float literal is a number of the 32-bit binary format.  Its bits are, from
the top, one sign bit, eight exponent bits and twenty-three bits of the
significand.  A finite number is `significand · 2 ^ exponent` with a
significand below `2 ^ 24`.

Decimal text is rounded once, from its exact value to the nearest number of
the format, and to the even significand halfway between two.  All arithmetic
is on natural numbers.
-/

namespace PapyrusScript

/-- A 32-bit binary floating-point number, given by its bits. -/
structure Single where
  bits : UInt32
  deriving DecidableEq, Repr, Inhabited

namespace Single

/-- The sign bit, the highest of all. -/
def signBit : Nat := Nat.pow 2 31

/-- The lowest exponent bit, the twenty-fourth from below.  In the significand
of a number with a full one it is not stored, because it is always set. -/
def exponentBit : Nat := Nat.pow 2 23

/-- The number of smallest units in one. -/
def unitsInOne : Nat := Nat.pow 2 149

/-- The bits below the sign. -/
def magnitudeBits (number : Single) : Nat := number.bits.toNat % signBit

/-- Whether the sign bit is set. -/
def isNegative (number : Single) : Bool := signBit ≤ number.bits.toNat

/-- The bits of infinity, the first pattern above all finite magnitudes. -/
def infinityBits : Nat := 255 * exponentBit

/-- The bits of the number that stands for no value. -/
def notANumberBits : Nat := infinityBits + exponentBit / 2

/-- Whether the number is neither infinite nor without a value. -/
def isFinite (number : Single) : Bool := number.magnitudeBits < infinityBits

/-- Whether the number is infinite. -/
def isInfinite (number : Single) : Bool := number.magnitudeBits = infinityBits

/-- The number with the other sign. -/
def negate (number : Single) : Single := ⟨number.bits ^^^ 0x80000000⟩

/-- The significand of a finite number. -/
def significand (number : Single) : Nat :=
  if number.magnitudeBits < exponentBit then
    number.magnitudeBits
  else
    number.magnitudeBits % exponentBit + exponentBit

/-- The exponent of the last place of a finite number, counted up from that
of the smallest numbers, which is `-149`. -/
def scale (number : Single) : Nat := number.magnitudeBits / exponentBit - 1

/-- The number with the given sign and the given bits below the sign. -/
def ofMagnitude (negative : Bool) (magnitude : Nat) : Single :=
  ⟨UInt32.ofNat (if negative then magnitude + signBit else magnitude)⟩

/-- The natural number nearest to a quotient, the even one of two. -/
def roundQuotient (numerator denominator : Nat) : Nat :=
  let floor := numerator / denominator
  let twice := 2 * (numerator % denominator)
  if twice < denominator then floor
  else if denominator < twice then floor + 1
  else floor + floor % 2

/-- The places by which a quotient exceeds the format's smallest unit when
its significand has twenty-four bits; zero for smaller quotients, which have
fewer bits.  The quotient is given in units of `2 ^ (-149)`. -/
def scaleOf (numerator denominator : Nat) : Nat :=
  (numerator / denominator).log2 - 23

/-- The bits below the sign of the number nearest to a positive quotient, or
of infinity where the format ends.  A significand that rounds up to
`2 ^ 24` carries into the exponent. -/
def nearestMagnitude (numerator denominator : Nat) : Nat :=
  let units := numerator * unitsInOne
  let places := scaleOf units denominator
  let rounded := roundQuotient units (denominator * Nat.pow 2 places)
  min (places * exponentBit + rounded) infinityBits

/-- The bits below the sign of the number nearest to a decimal: the digits
as a natural number, times a power of ten.  Decimals far outside the format
are settled by the place of their first digit. -/
def magnitudeOfDecimal (digits : Nat) (exponent : Int) : Nat :=
  let first := (Nat.toDigits 10 digits).length + exponent
  if digits = 0 || first < -60 then 0
  else if 60 < first then infinityBits
  else
    nearestMagnitude
      (digits * Nat.pow 10 exponent.toNat) (Nat.pow 10 (-exponent).toNat)

/-- The exponent after its mark: an optional sign and at least one digit. -/
def exponent? (text : List Char) : Option Int :=
  match text with
  | [] => some 0
  | mark :: rest =>
      if mark = 'e' || mark = 'E' then Number.signed? rest else none

/-- The parts of a decimal: digits around an optional point, at least one of
them, and an optional exponent. -/
def decimal? (text : List Char) : Option (Nat × Int) :=
  let whole := text.takeWhile Text.isDigit
  let afterWhole := text.dropWhile Text.isDigit
  let (part, scaled) :=
    match afterWhole with
    | '.' :: rest =>
        (rest.takeWhile Text.isDigit, rest.dropWhile Text.isDigit)
    | _ => ([], afterWhole)
  if whole.isEmpty && part.isEmpty then
    none
  else
    (exponent? scaled).map fun exponent =>
      (Number.digitsValue 10 (whole ++ part), exponent - part.length)

/-- The words for infinity and for no value, in any case. -/
def special? (text : List Char) : Option Nat :=
  let word := text.map Text.foldCase
  if word = "inf".toList || word = "infinity".toList then
    some infinityBits
  else if word = "nan".toList then
    some notANumberBits
  else
    none

/-- Read a number: an optional sign, and a decimal or a special word. -/
def ofText? (text : List Char) : Option Single :=
  let (negative, size) := Number.splitSign text
  let magnitude : Option Nat :=
    match special? size with
    | some bits => some bits
    | none =>
        (decimal? size).map fun (digits, exponent) =>
          magnitudeOfDecimal digits exponent
  magnitude.map (ofMagnitude negative)

end Single

end PapyrusScript
