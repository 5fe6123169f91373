import PapyrusScript.Number.Single

/-!
# Shortest decimal text

A finite number is written with the fewest digits that read back as the same
number; among those, the digits nearest to its exact value, and the even ones
of two that are equally near.

The search goes from one digit upwards.  On each decimal grid only the two
neighbours of the exact value can be nearest, and nine digits always suffice.
The text then depends on the place of the first digit: close to the point it
is written in full, with at least one digit after the point, and otherwise
with an exponent.
-/

namespace PapyrusScript.Single

/-- A row of digits times a power of ten. -/
structure Decimal where
  digits : Nat
  exponent : Int
  deriving DecidableEq, Repr, Inhabited

/-- The exact size of a finite number as a quotient. -/
def quotient (number : Single) : Nat × Nat :=
  (number.significand * Nat.pow 2 number.scale, unitsInOne)

/-- The grid point at or below a quotient, and whether it is the nearest. -/
def below (numerator denominator : Nat) (exponent : Int) : Nat × Nat :=
  let scaled := numerator * Nat.pow 10 (-exponent).toNat
  let unit := denominator * Nat.pow 10 exponent.toNat
  (scaled / unit, roundQuotient scaled unit)

/-- The decimal on one grid that reads back as a number, the nearest one if
both neighbours do. -/
def onGrid? (number : Single) (exponent : Int) : Option Decimal :=
  let (numerator, denominator) := number.quotient
  let (low, near) := below numerator denominator exponent
  let far := if near = low then low + 1 else low
  [near, far].findSome? fun digits =>
    if magnitudeOfDecimal digits exponent = number.magnitudeBits then
      some ⟨digits, exponent⟩
    else
      none

/-- The place of the first digit of a positive quotient. -/
def firstPlace (numerator denominator : Nat) : Int :=
  if denominator ≤ numerator then
    ((Nat.toDigits 10 (numerator / denominator)).length : Int) - 1
  else
    let inverse := (denominator + numerator - 1) / numerator
    Int.negOfNat (Nat.toDigits 10 (inverse - 1)).length

/-- The shortest decimal of a finite number. -/
def shortest (number : Single) : Decimal :=
  if number.magnitudeBits = 0 then
    ⟨0, 0⟩
  else
    let (numerator, denominator) := number.quotient
    let place := firstPlace numerator denominator
    let found :=
      (List.range 9).findSome? fun (further : Nat) =>
        number.onGrid? (place - further)
    found.getD ⟨0, 0⟩

/-- A row of zeros. -/
def zeros (count : Nat) : String := String.ofList (List.replicate count '0')

/-- Digits and a power of ten as text.  The point is written where it falls
if the first digit is at most six places after it or twelve before it;
otherwise it follows the first digit, and the exponent is written out. -/
def Decimal.text (decimal : Decimal) : String :=
  let digits := Nat.toDigits 10 decimal.digits
  let first : Int := digits.length - 1 + decimal.exponent
  if decimal.digits = 0 then
    "0.0"
  else if first < -6 || 12 < first then
    let tail := digits.drop 1
    let point := if tail.isEmpty then "" else "." ++ String.ofList tail
    let sign := if first < 0 then "-" else "+"
    String.ofList (digits.take 1) ++ point ++ "e" ++ sign ++
      toString first.natAbs
  else if first < 0 then
    "0." ++ zeros (first.natAbs - 1) ++ String.ofList digits
  else if decimal.exponent < 0 then
    String.ofList (digits.take (first.toNat + 1)) ++ "." ++
      String.ofList (digits.drop (first.toNat + 1))
  else
    String.ofList digits ++ zeros decimal.exponent.toNat ++ ".0"

/-- Digits without the zeros at their end. -/
def Decimal.trimmed (decimal : Decimal) : Decimal :=
  let digits := Nat.toDigits 10 decimal.digits
  let tail := digits.reverse.takeWhile fun digit => digit = '0'
  if decimal.digits = 0 then decimal
  else
    ⟨decimal.digits / Nat.pow 10 tail.length, decimal.exponent + tail.length⟩

/-- The shortest text of a finite number. -/
def text (number : Single) : String :=
  let sign := if number.isNegative then "-" else ""
  sign ++ number.shortest.trimmed.text

end PapyrusScript.Single
