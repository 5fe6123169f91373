/-!
# UTF-8

Bytes are read as UTF-8, one character after the other.  A character has one
to four bytes: a leading byte that says how many, and continuation bytes.
Longer forms than needed, surrogates and values above the last code point are
refused.  When reading fails, the answer is the number of bytes in front of
the first character that is not valid.
-/

namespace PapyrusScript.Text

/-- The payload of a continuation byte. -/
def continuation? (byte : UInt8) : Option Nat :=
  if 0x80 ≤ byte.toNat && byte.toNat < 0xC0 then
    some (byte.toNat - 0x80)
  else
    none

/-- The character with a code, if the code needs more than `shorter` to be
written and is that of a character. -/
def character? (shorter code : Nat) : Option Char :=
  if shorter ≤ code && code.isValidChar then some (Char.ofNat code) else none

/-- A character of two bytes. -/
def twoBytes? (first second : UInt8) : Option Char := do
  let low ← continuation? second
  character? 0x80 ((first.toNat - 0xC0) * 0x40 + low)

/-- A character of three bytes. -/
def threeBytes? (first second third : UInt8) : Option Char := do
  let middle ← continuation? second
  let low ← continuation? third
  character? 0x800 (((first.toNat - 0xE0) * 0x40 + middle) * 0x40 + low)

/-- A character of four bytes. -/
def fourBytes? (first second third fourth : UInt8) : Option Char := do
  let high ← continuation? second
  let middle ← continuation? third
  let low ← continuation? fourth
  character? 0x10000
    ((((first.toNat - 0xF0) * 0x40 + high) * 0x40 + middle) * 0x40 + low)

/-- The first character of some bytes, and the number of its bytes. -/
def firstCharacter? : List UInt8 → Option (Char × Nat)
  | [] => none
  | first :: rest =>
      if first.toNat < 0x80 then
        some (Char.ofNat first.toNat, 1)
      else if first.toNat < 0xC0 then
        none
      else if first.toNat < 0xE0 then
        match rest with
        | second :: _ => (twoBytes? first second).map fun found => (found, 2)
        | _ => none
      else if first.toNat < 0xF0 then
        match rest with
        | second :: third :: _ =>
            (threeBytes? first second third).map fun found => (found, 3)
        | _ => none
      else
        match rest with
        | second :: third :: fourth :: _ =>
            (fourBytes? first second third fourth).map fun found => (found, 4)
        | _ => none

/-- Read bytes that come after `offset` others, at most one character for
each byte of `budget`. -/
def decodeWithin :
    List UInt8 → Nat → List UInt8 → Except Nat (List Char)
  | _, _, [] => .ok []
  | [], offset, _ => .error offset
  | _ :: budget, offset, bytes =>
      match firstCharacter? bytes with
      | none => .error offset
      | some (letter, count) =>
          match decodeWithin budget (offset + count) (bytes.drop count) with
          | .ok rest => .ok (letter :: rest)
          | .error valid => .error valid

/-- The text of some bytes, or the length of their longest valid beginning. -/
def decodeUtf8 (bytes : List UInt8) : Except Nat String :=
  (decodeWithin bytes 0 bytes).map String.ofList

end PapyrusScript.Text
