import PapyrusScript.Text.Blank
import PapyrusScript.Token.Spelling

/-!
# Lexemes

A lexeme is the source text of one token, together with what it says: a kind,
a value, and the text that follows it.  The first character decides which of
the readers below applies:

* a letter or an underscore starts a word, which is a keyword or a name;
* a digit starts a number, decimal or hexadecimal;
* a quote starts a string, which ends at a quote or before the line does;
* a brace starts a documentation comment, which ends at the closing brace;
* otherwise the longest symbol is taken, or one character if there is none.

Reading never fails.  Text that forms no token becomes a lexeme of an invalid
kind, and it is never empty unless the source is.
-/

namespace PapyrusScript

/-- The text of one token, what it says, and the text after it. -/
structure Lexeme where
  kind : Kind
  value : List Char
  text : List Char
  rest : List Char
  deriving DecidableEq, Repr, Inhabited

namespace Lexeme

/-- Read a keyword or a name. -/
def word (source : List Char) : Lexeme :=
  let text := source.takeWhile Text.isNamePart
  let kind :=
    match keyword? (String.ofList text) with
    | some known => .keyword known
    | none => .identifier
  ⟨kind, text, text, source.dropWhile Text.isNamePart⟩

/-- The exponent at the start of a text: a letter `e` in either case, an
optional sign and at least one digit.  Anything else is no exponent. -/
def exponent (source : List Char) : List Char :=
  match source with
  | mark :: rest =>
      if mark = 'e' || mark = 'E' then
        let sign := (rest.take 1).filter fun first =>
          first = '+' || first = '-'
        let digits := (rest.drop sign.length).takeWhile Text.isDigit
        if digits.isEmpty then [] else mark :: sign ++ digits
      else
        []
  | [] => []

/-- The fraction at the start of a text: a point and any digits after it. -/
def fraction (source : List Char) : List Char :=
  match source with
  | '.' :: rest => '.' :: rest.takeWhile Text.isDigit
  | _ => []

/-- The number at the start of a text and its kind.  It is malformed when the
hexadecimal mark or the point has no digit after it. -/
def numeral (source : List Char) : Kind × List Char :=
  match source with
  | '0' :: mark :: rest =>
      if mark = 'x' || mark = 'X' then
        let digits := rest.takeWhile Text.isHexDigit
        let kind :=
          if digits.isEmpty then .invalid .malformedNumber else .intLiteral
        (kind, '0' :: mark :: digits)
      else
        decimal source
  | _ => decimal source
where
  /-- A decimal number: digits, an optional fraction, an optional exponent. -/
  decimal (source : List Char) : Kind × List Char :=
    let whole := source.takeWhile Text.isDigit
    let part := fraction (source.drop whole.length)
    let scaled := exponent (source.drop (whole.length + part.length))
    let kind :=
      if part = ['.'] then .invalid .malformedNumber
      else if part.isEmpty && scaled.isEmpty then .intLiteral
      else .floatLiteral
    (kind, whole ++ part ++ scaled)

/-- Read a number.  One that runs straight into a name is malformed, and the
name belongs to it. -/
def number (source : List Char) : Lexeme :=
  let (kind, digits) := numeral source
  let after := source.drop digits.length
  let tail := after.takeWhile Text.isNamePart
  let text := digits ++ tail
  ⟨if tail.isEmpty then kind else .invalid .malformedNumber, text, text,
    after.dropWhile Text.isNamePart⟩

/-- The character that a letter after a backslash stands for. -/
def escape? : Char → Option Char
  | 'n' => some '\n'
  | 't' => some '\t'
  | '\\' => some '\\'
  | '"' => some '"'
  | _ => none

/-- The inside of a string literal: its characters as written, the value they
stand for, whether every escape is known, and whether a quote closes it. -/
structure Quoted where
  raw : List Char
  value : List Char
  sound : Bool
  closed : Bool
  rest : List Char
  deriving DecidableEq, Repr, Inhabited

/-- Read the inside of a string literal.  It ends after a quote, or in front
of a line feed or the end of the text, where it is left open. -/
def quoted : List Char → Quoted
  | [] => ⟨[], [], true, false, []⟩
  | '\n' :: rest => ⟨[], [], true, false, '\n' :: rest⟩
  | '"' :: rest => ⟨[], [], true, true, rest⟩
  | '\\' :: rest =>
      match rest with
      | [] => ⟨['\\'], [], true, false, []⟩
      | '\n' :: below => ⟨['\\'], [], true, false, '\n' :: below⟩
      | letter :: after =>
          let inner := quoted after
          match escape? letter with
          | some meant =>
              { inner with
                raw := '\\' :: letter :: inner.raw
                value := meant :: inner.value }
          | none =>
              { inner with
                raw := '\\' :: letter :: inner.raw
                sound := false }
  | letter :: rest =>
      let inner := quoted rest
      { inner with
        raw := letter :: inner.raw
        value := letter :: inner.value }

/-- Read a string literal whose opening quote has been passed. -/
def string (inside : List Char) : Lexeme :=
  let inner := quoted inside
  if !inner.closed then
    ⟨.invalid .unterminatedString, inner.raw, '"' :: inner.raw, inner.rest⟩
  else
    let text := '"' :: inner.raw ++ ['"']
    if inner.sound then
      ⟨.stringLiteral, inner.value, text, inner.rest⟩
    else
      ⟨.invalid .invalidEscape, inner.raw, text, inner.rest⟩

/-- Whether a character is inside a documentation comment. -/
def isInDoc (letter : Char) : Bool := letter ≠ '\x7d'

/-- Read a documentation comment whose opening brace has been passed. -/
def docComment (inside : List Char) : Lexeme :=
  let body := inside.takeWhile isInDoc
  match inside.dropWhile isInDoc with
  | [] => ⟨.invalid .unterminatedDocComment, ['\x7b'], '\x7b' :: body, []⟩
  | close :: rest =>
      ⟨.docComment, Text.trim body, '\x7b' :: body ++ [close], rest⟩

/-- Read the longest symbol, or else one character that starts no token. -/
def sign (source : List Char) : Lexeme :=
  match symbol? source with
  | some found =>
      let text := found.spelling.toList
      ⟨.symbol found, text, text, source.drop text.length⟩
  | none =>
      let text := source.take 1
      ⟨.invalid .unexpectedCharacter, text, text, source.drop 1⟩

/-- Read one lexeme from a text that starts with no filler. -/
def read (source : List Char) : Lexeme :=
  match source with
  | [] => ⟨.endOfText, [], [], []⟩
  | ';' :: _ => ⟨.invalid .unterminatedComment, [';', '/'], source, []⟩
  | '\x7b' :: inside => docComment inside
  | '"' :: inside => string inside
  | first :: _ =>
      if Text.isDigit first then number source
      else if Text.isNameStart first then word source
      else sign source

/-! ## Nothing is lost -/

theorem prefix_append_takeWhile {first source : List Char} (test : Char → Bool)
    (isStart : first <+: source) :
    first ++ (source.drop first.length).takeWhile test <+: source := by
  obtain ⟨rest, rfl⟩ := isStart
  simpa using List.takeWhile_prefix test

theorem exponentSign_isPrefix (source : List Char) (test : Char → Bool) :
    (source.take 1).filter test <+: source := by
  cases source with
  | nil => exact List.nil_prefix
  | cons first rest =>
      by_cases holds : test first = true
      · simp [holds]
      · simp [holds]

/-- An exponent is the start of its text. -/
theorem exponent_isPrefix (source : List Char) :
    exponent source <+: source := by
  fun_cases exponent source with
  | case1 mark rest known sign digits missing => exact List.nil_prefix
  | case2 mark rest known sign digits present =>
      simpa using prefix_append_takeWhile Text.isDigit <|
        exponentSign_isPrefix rest fun first => first = '+' || first = '-'
  | case3 => exact List.nil_prefix
  | case4 => exact List.nil_prefix

/-- A fraction is the start of its text. -/
theorem fraction_isPrefix (source : List Char) :
    fraction source <+: source := by
  fun_cases fraction source with
  | case1 rest => simpa using List.takeWhile_prefix Text.isDigit
  | case2 => exact List.nil_prefix

/-- What is read of a decimal is a beginning of the text. -/
theorem decimal_isPrefix (source : List Char) :
    (numeral.decimal source).2 <+: source := by
  have whole := List.prefix_iff_eq_append.1 <|
    List.takeWhile_prefix (l := source) Text.isDigit
  have part := List.prefix_iff_eq_append.1 <|
    fraction_isPrefix (source.drop (source.takeWhile Text.isDigit).length)
  have scaled := exponent_isPrefix <|
    source.drop ((source.takeWhile Text.isDigit).length +
      (fraction
        (source.drop (source.takeWhile Text.isDigit).length)).length)
  simp only [numeral.decimal, List.append_assoc]
  rw [List.drop_drop] at part
  conv => rhs; rw [← whole, ← part]
  exact (List.prefix_append_right_inj _).2 <|
    (List.prefix_append_right_inj _).2 scaled

theorem numeral_isPrefix (source : List Char) :
    (numeral source).2 <+: source := by
  fun_cases numeral source with
  | case1 mark rest known digits kind =>
      simpa using List.takeWhile_prefix Text.isHexDigit
  | case2 mark rest other => exact decimal_isPrefix _
  | case3 => exact decimal_isPrefix _

/-- A number and what follows it make up the text. -/
theorem number_append (source : List Char) :
    (number source).text ++ (number source).rest = source := by
  have digits := List.prefix_iff_eq_append.1 (numeral_isPrefix source)
  simp only [number, List.append_assoc, List.takeWhile_append_dropWhile]
  exact digits

/-- The characters as written, the closing quote if there is one, and what
follows make up the text. -/
theorem quoted_append (source : List Char) :
    (quoted source).raw ++ (if (quoted source).closed then ['"'] else []) ++
      (quoted source).rest = source := by
  fun_induction quoted source with
  | case1 => rfl
  | case2 rest => rfl
  | case3 rest => rfl
  | case4 => rfl
  | case5 below => rfl
  | case6 letter after _ inner meant known ih =>
      simpa using ih
  | case7 letter after _ inner unknown ih =>
      simpa using ih
  | case8 letter rest _ _ _ inner ih =>
      simpa using ih

theorem string_append (inside : List Char) :
    (string inside).text ++ (string inside).rest = '"' :: inside := by
  have parts := quoted_append inside
  unfold string
  cases closed : (quoted inside).closed with
  | true =>
      cases sound : (quoted inside).sound <;>
        simpa [closed, sound] using parts
  | false => simpa [closed] using parts

theorem docComment_append (inside : List Char) :
    (docComment inside).text ++ (docComment inside).rest =
      '\x7b' :: inside := by
  have parts := List.takeWhile_append_dropWhile (p := isInDoc) (l := inside)
  unfold docComment
  split
  · rename_i ended
    simpa [ended] using parts
  · rename_i close rest ended
    simpa [ended] using parts

theorem symbol?_append {source : List Char} {found : Symbol}
    (isFound : symbol? source = some found) :
    found.spelling.toList ++ source.drop found.spelling.toList.length =
      source := by
  have starts := List.find?_some isFound
  exact List.prefix_iff_eq_append.1 (List.isPrefixOf_iff_prefix.1 starts)

theorem sign_append (source : List Char) :
    (sign source).text ++ (sign source).rest = source := by
  unfold sign
  split
  · rename_i found isFound
    exact symbol?_append isFound
  · exact List.take_append_drop 1 source

theorem word_append (source : List Char) :
    (word source).text ++ (word source).rest = source :=
  List.takeWhile_append_dropWhile

/-- A lexeme and what follows it make up the text. -/
theorem read_append (source : List Char) :
    (read source).text ++ (read source).rest = source := by
  fun_cases read source with
  | case1 => rfl
  | case2 rest => simp
  | case3 inside => exact docComment_append inside
  | case4 inside => exact string_append inside
  | case5 first rest _ _ _ digit => exact number_append _
  | case6 first rest _ _ _ _ letter => exact word_append _
  | case7 first rest _ _ _ _ _ => exact sign_append _

end Lexeme

end PapyrusScript
