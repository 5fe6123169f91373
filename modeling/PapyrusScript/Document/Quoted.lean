/-!
# Quoted text

A text in a JSON document stands between quotes.  Inside them

* a quote, a backslash and the control characters are written as escapes,
  with a letter of their own where one exists and four hexadecimal digits
  otherwise;
* every other character is written as it is.
-/

namespace PapyrusScript.Document

/-- The digit of a value below sixteen, in lower case. -/
def hexDigit (value : Nat) : Char :=
  if value < 10 then Char.ofNat (value + 48) else Char.ofNat (value + 87)

/-- The letter after the backslash in the short escape of a character. -/
def shortEscape? (letter : Char) : Option Char :=
  if letter = '"' then some '"'
  else if letter = '\\' then some '\\'
  else if letter = '\x08' then some 'b'
  else if letter = '\x0c' then some 'f'
  else if letter = '\n' then some 'n'
  else if letter = '\r' then some 'r'
  else if letter = '\t' then some 't'
  else none

/-- The written form of one character. -/
def escape (letter : Char) : List Char :=
  match shortEscape? letter with
  | some short => ['\\', short]
  | none =>
      if letter.toNat < 0x20 then
        ['\\', 'u', '0', '0', hexDigit (letter.toNat / 16),
          hexDigit (letter.toNat % 16)]
      else
        [letter]

/-- A text between quotes. -/
def quote (text : List Char) : List Char := '"' :: text.flatMap escape ++ ['"']

end PapyrusScript.Document
