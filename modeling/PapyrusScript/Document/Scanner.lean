import PapyrusScript.Number.Integer

/-!
# Scanning documents

These functions take one part off the front of the text of a JSON document
and answer with what follows it, or with nothing if the part is malformed.
Blanks are the four that the format knows.  A part that is only skipped is
held to the grammar, except that the escapes in its texts need not pair up
surrogates.
-/

namespace PapyrusScript.Document

/-- Whether a character may stand between the parts of a document. -/
def isSpace (letter : Char) : Bool :=
  letter = ' ' || letter = '\t' || letter = '\n' || letter = '\r'

/-- Pass the blanks at the start of a text. -/
def skipSpaces (source : List Char) : List Char := source.dropWhile isSpace

/-- Pass one character, and the blanks in front of it. -/
def skipSign (sign : Char) (source : List Char) : Option (List Char) :=
  match skipSpaces source with
  | letter :: rest => if letter = sign then some rest else none
  | [] => none

/-- Read four hexadecimal digits. -/
def fourDigits? : List Char → Option (Nat × List Char)
  | a :: b :: c :: d :: rest =>
      (Number.natural? 16 Text.isHexDigit [a, b, c, d]).map fun value =>
        (value, rest)
  | _ => none

/-- Read the rest of an escape that gives a character by its number.  A high
surrogate and the low one after it stand for one character. -/
def numbered? (source : List Char) : Option (Char × List Char) := do
  let (first, rest) ← fourDigits? source
  if 0xD800 ≤ first && first < 0xDC00 then
    match rest with
    | '\\' :: 'u' :: more => do
        let (second, after) ← fourDigits? more
        if 0xDC00 ≤ second && second < 0xE000 then
          let code := 0x10000 + (first - 0xD800) * 0x400 + (second - 0xDC00)
          some (Char.ofNat code, after)
        else
          none
    | _ => none
  else if 0xDC00 ≤ first && first < 0xE000 then
    none
  else
    some (Char.ofNat first, rest)

/-- The character that the letter of a short escape stands for. -/
def shortMeaning? (letter : Char) : Option Char :=
  if letter = '"' then some '"'
  else if letter = '\\' then some '\\'
  else if letter = '/' then some '/'
  else if letter = 'b' then some '\x08'
  else if letter = 'f' then some '\x0c'
  else if letter = 'n' then some '\n'
  else if letter = 'r' then some '\r'
  else if letter = 't' then some '\t'
  else none

/-- Read an escape whose backslash has been passed. -/
def escaped? : List Char → Option (Char × List Char)
  | 'u' :: rest => numbered? rest
  | letter :: rest => (shortMeaning? letter).map fun found => (found, rest)
  | [] => none

/-- Read a text up to its closing quote, at most one character for each
character of `budget`. -/
def textWithin : List Char → List Char → Option (List Char × List Char)
  | [], _ => none
  | _ :: budget, source =>
      match source with
      | [] => none
      | '"' :: rest => some ([], rest)
      | '\\' :: rest => do
          let (letter, after) ← escaped? rest
          let (letters, final) ← textWithin budget after
          some (letter :: letters, final)
      | letter :: rest =>
          if letter.toNat < 0x20 then
            none
          else do
            let (letters, final) ← textWithin budget rest
            some (letter :: letters, final)

/-- Read a text with its quotes, and the blanks in front of it. -/
def text? (source : List Char) : Option (List Char × List Char) := do
  let rest ← skipSign '"' source
  textWithin rest rest

/-- Read a natural number without needless zeros in front, and the blanks in
front of it. -/
def natural? (source : List Char) : Option (Nat × List Char) :=
  match skipSpaces source with
  | '0' :: rest => some (0, rest)
  | visible => do
      let digits := visible.takeWhile Text.isDigit
      let value ← Number.natural? 10 Text.isDigit digits
      some (value, visible.dropWhile Text.isDigit)

/-- Pass at least one digit. -/
def skipDigits (source : List Char) : Option (List Char) :=
  match source with
  | first :: rest =>
      if Text.isDigit first then some (rest.dropWhile Text.isDigit) else none
  | [] => none

/-- Pass the fraction of a number, if there is one. -/
def skipFraction (source : List Char) : Option (List Char) :=
  match source with
  | '.' :: rest => skipDigits rest
  | _ => some source

/-- Pass the exponent of a number, if there is one. -/
def skipExponent (source : List Char) : Option (List Char) :=
  match source with
  | mark :: rest =>
      if mark = 'e' || mark = 'E' then
        match rest with
        | '+' :: digits => skipDigits digits
        | '-' :: digits => skipDigits digits
        | _ => skipDigits rest
      else
        some source
  | [] => some source

/-- Pass a number. -/
def skipNumber (source : List Char) : Option (List Char) := do
  let unsigned :=
    match source with
    | '-' :: rest => rest
    | _ => source
  let after ←
    match unsigned with
    | '0' :: rest => some rest
    | _ => skipDigits unsigned
  skipExponent (← skipFraction after)

/-- Pass a fixed word. -/
def skipWord (word : String) (source : List Char) : Option (List Char) :=
  if word.toList.isPrefixOf source then
    some (source.drop word.length)
  else
    none

/-- Pass the rest of a text up to its closing quote, with any escapes. -/
def skipText : List Char → Option (List Char)
  | [] => none
  | '"' :: rest => some rest
  | '\\' :: 'u' :: a :: b :: c :: d :: rest =>
      if [a, b, c, d].all Text.isHexDigit then skipText rest else none
  | '\\' :: letter :: rest =>
      if (shortMeaning? letter).isSome then skipText rest else none
  | letter :: rest =>
      if letter.toNat < 0x20 || letter = '\\' then none else skipText rest

mutual

/-- Pass a value and the blanks in front of it, looking at most one level
deeper for each character of `budget`. -/
def skipValue : List Char → List Char → Option (List Char)
  | [], _ => none
  | _ :: budget, source =>
      match skipSpaces source with
      | '"' :: rest => skipText rest
      | '[' :: rest =>
          match skipSign ']' rest with
          | some after => some after
          | none => skipItems budget rest
      | '\x7b' :: rest =>
          match skipSign '\x7d' rest with
          | some after => some after
          | none => skipFields budget rest
      | 't' :: rest => skipWord "rue" rest
      | 'f' :: rest => skipWord "alse" rest
      | 'n' :: rest => skipWord "ull" rest
      | visible => skipNumber visible

/-- Pass the items of a list and its closing bracket. -/
def skipItems : List Char → List Char → Option (List Char)
  | [], _ => none
  | _ :: budget, source => do
      let after ← skipValue budget source
      match skipSign ',' after with
      | some rest => skipItems budget rest
      | none => skipSign ']' after

/-- Pass the fields of a record and its closing brace. -/
def skipFields : List Char → List Char → Option (List Char)
  | [], _ => none
  | _ :: budget, source => do
      let named ← skipText (← skipSign '"' source)
      let after ← skipValue budget (← skipSign ':' named)
      match skipSign ',' after with
      | some rest => skipFields budget rest
      | none => skipSign '\x7d' after

end

/-- Whether only blanks are left. -/
def atEnd (source : List Char) : Bool := (skipSpaces source).isEmpty

end PapyrusScript.Document
