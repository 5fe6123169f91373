import PapyrusScript.Text.Letters

/-!
# Integer literals

An integer is a 32-bit word.  A decimal literal must denote a number in the
signed range.  A hexadecimal literal is a bit pattern, so it may use all
thirty-two bits, and a sign in front of it negates the word.
-/

namespace PapyrusScript.Number

/-- The value of a digit, in any base up to sixteen. -/
def digitValue (digit : Char) : Nat :=
  if Text.isDigit digit then digit.toNat - '0'.toNat
  else (Text.foldCase digit).toNat - 'a'.toNat + 10

/-- The number that a row of digits denotes in a base. -/
def digitsValue (base : Nat) (digits : List Char) : Nat :=
  digits.foldl (fun value digit => value * base + digitValue digit) 0

/-- Read a row of digits, at least one, and nothing else. -/
def natural? (base : Nat) (isBaseDigit : Char → Bool) (text : List Char) :
    Option Nat :=
  if !text.isEmpty && text.all isBaseDigit then
    some (digitsValue base text)
  else
    none

/-- Split a leading sign off a text; a minus counts as negative. -/
def splitSign : List Char → Bool × List Char
  | '+' :: rest => (false, rest)
  | '-' :: rest => (true, rest)
  | text => (false, text)

/-- Read a decimal number with an optional sign. -/
def signed? (text : List Char) : Option Int :=
  let (negative, digits) := splitSign text
  (natural? 10 Text.isDigit digits).map fun size =>
    if negative then -(size : Int) else size

/-- The 32-bit word of a number in the signed range. -/
def word? (value : Int) : Option Int32 :=
  if Int32.minValue.toInt ≤ value ∧ value ≤ Int32.maxValue.toInt then
    some (Int32.ofInt value)
  else
    none

/-- Read the digits of a hexadecimal number, with an optional plus, as a bit
pattern of thirty-two bits. -/
def bits? (text : List Char) : Option Int32 :=
  let digits :=
    match text with
    | '+' :: rest => rest
    | _ => text
  match natural? 16 Text.isHexDigit digits with
  | some pattern =>
      if pattern < UInt32.size then some (UInt32.ofNat pattern).toInt32
      else none
  | none => none

/-- The digits after the hexadecimal mark, if a text starts with it. -/
def hexDigits? : List Char → Option (List Char)
  | '0' :: 'x' :: rest => some rest
  | '0' :: 'X' :: rest => some rest
  | _ => none

/-- The value of an integer literal, with or without a minus in front. -/
def integer? (negative : Bool) (text : List Char) : Option Int32 :=
  match hexDigits? text with
  | some digits =>
      (bits? digits).map fun word => if negative then -word else word
  | none => (signed? (if negative then '-' :: text else text)).bind word?

example : integer? false "2147483647".toList = some Int32.maxValue := by
  decide

example : integer? true "2147483648".toList = some Int32.minValue := by
  decide

example : integer? false "2147483648".toList = none := by
  decide

example : integer? false "0xFFFFFFFF".toList = some (-1) := by
  decide

end PapyrusScript.Number
