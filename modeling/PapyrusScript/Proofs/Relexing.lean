import Mathlib.Data.List.DropRight
import PapyrusScript.Proofs.Stretches
import PapyrusScript.Proofs.Stretches.Filler

/-!
# Tokens written out and read again

A token is written by what it says: a string in quotes, with a backslash in
front of what would end or change it, a documentation comment in braces, and
any other token as it is.  In front of a blank what has been written is read as
the same token.

The tokens of a text without invalid ones can be written out with one blank
between them, and what has been written has the same tokens.  Each lexeme ends
in front of the next blank.  A line break is written where one was found, so
one is found there again, and nowhere else a line feed is written.
-/

namespace PapyrusScript

def escaped : Char → List Char
  | '\\' => ['\\', '\\']
  | '"' => ['\\', '"']
  | '\n' => ['\\', 'n']
  | '\t' => ['\\', 't']
  | letter => [letter]

/-- How a token of a kind is written that says something. -/
def Kind.written (value : List Char) : Kind → List Char
  | .stringLiteral => ['"'] ++ value.flatMap escaped ++ ['"']
  | .docComment => ['\x7b'] ++ value ++ ['\x7d']
  | .newline => ['\n']
  | .endOfText => []
  | _ => value

/-! ## Trimmed texts -/

namespace Text

theorem trim_eq (text : List Char) :
    trim text = (text.dropWhile isBlank).rdropWhile isBlank :=
  rfl

theorem mem_of_mem_trim
    {letter : Char} {text : List Char} (member : letter ∈ trim text) :
    letter ∈ text := by
  rw [trim_eq] at member
  exact (List.dropWhile_sublist isBlank).mem
    ((List.rdropWhile_prefix isBlank _).mem member)

/-- Trimming twice is trimming once. -/
theorem trim_trim (text : List Char) : trim (trim text) = trim text := by
  have front : (trim text).dropWhile isBlank = trim text := by
    cases shape : trim text with
    | nil => rfl
    | cons letter rest =>
      obtain ⟨back, whole⟩ : letter :: rest <+: text.dropWhile isBlank :=
        shape ▸ List.rdropWhile_prefix isBlank _
      have nonempty : text.dropWhile isBlank ≠ [] := by
        rw [← whole]
        exact List.cons_ne_nil _ _
      have stops := List.head_dropWhile_not isBlank nonempty
      simp only [← whole, List.cons_append, List.head_cons] at stops
      exact List.dropWhile_cons_of_neg (by simp [stops])
  rw [trim_eq (trim text), front, trim_eq]
  exact List.rdropWhile_idempotent isBlank _

end Text

namespace Lexeme

variable {source : List Char} {test : Char → Bool}

/-! ## Numbers -/

/-- A test takes what it holds of, in front of a text whose start fails it. -/
theorem takeWhile_append_of_stops
    {front back : List Char} (holds : ∀ letter ∈ front, test letter = true)
    (stops : ∀ letter ∈ back.head?, test letter = false) :
    (front ++ back).takeWhile test = front := by
  have nothing : back.takeWhile test = [] := by
    cases back with
    | nil => rfl
    | cons letter back =>
      have fails := stops letter rfl
      simp [fails]
  rw [List.takeWhile_append_of_pos holds, nothing, List.append_nil]

/-- What is left of a text behind what a test holds of. -/
theorem dropWhile_append_of_stops
    {front back : List Char} (holds : ∀ letter ∈ front, test letter = true)
    (stops : ∀ letter ∈ back.head?, test letter = false) :
    (front ++ back).dropWhile test = back := by
  have whole := List.takeWhile_append_dropWhile (p := test) (l := front ++ back)
  rw [takeWhile_append_of_stops holds stops] at whole
  exact List.append_cancel_left whole

/-- What a test takes, in front of a text whose start fails it. -/
theorem takeWhile_takeWhile_append
    {back : List Char} (stops : ∀ letter ∈ back.head?, test letter = false)
    (front : List Char) :
    (front.takeWhile test ++ back).takeWhile test = front.takeWhile test :=
  takeWhile_append_of_stops (fun _ member => List.mem_takeWhile_imp member)
    stops

theorem takeWhile_takeWhile (test : Char → Bool) (front : List Char) :
    (front.takeWhile test).takeWhile test = front.takeWhile test := by
  have whole := @takeWhile_takeWhile_append test [] nofun front
  rwa [List.append_nil] at whole

theorem head_exponent
    {letter : Char} (starts : letter ∈ (exponent source).head?) :
    letter = 'e' ∨ letter = 'E' := by
  revert starts
  fun_cases exponent source with
  | case1 mark rest known sign digits missing => simp
  | case2 mark rest known sign digits present =>
    intro starts
    obtain rfl : mark = letter := by simpa using starts
    simpa using known
  | case3 => simp
  | case4 => simp

theorem head_fraction
    {letter : Char} (starts : letter ∈ (fraction source).head?) :
    letter = '.' := by
  revert starts
  fun_cases fraction source with
  | case1 rest =>
    intro starts
    simpa using starts.symm
  | case2 => simp

/-- An exponent by itself is read as a whole. -/
theorem exponent_exponent (source : List Char) :
    exponent (exponent source) = exponent source := by
  fun_cases exponent source with
  | case1 mark rest known sign digits missing => rfl
  | case2 mark rest known sign digits present =>
    have known : mark = 'e' ∨ mark = 'E' := by simpa using known
    have taken : (sign ++ digits).take 1 = rest.take 1 := by
      cases rest with
      | nil => rfl
      | cons first rest =>
        by_cases signed : first = '+' ∨ first = '-'
        · simp [sign, signed]
        · have digit : Text.isDigit first = true := by
            by_contra other
            simp [digits, sign, signed, other] at present
          simp [digits, sign, signed, digit]
    have whole : digits.takeWhile Text.isDigit = digits :=
      takeWhile_takeWhile Text.isDigit _
    have again : ((sign ++ digits).take 1).filter
        (fun first => first = '+' || first = '-') = sign := by
      rw [taken]
    simp [exponent, known, again, whole, present]
  | case3 => rfl
  | case4 => rfl

/-- A fraction in front of an exponent is read as a whole. -/
theorem fraction_append_exponent (source scaled : List Char) :
    fraction (fraction source ++ exponent scaled) = fraction source := by
  fun_cases fraction source with
  | case1 rest =>
    have stops : ∀ letter ∈ (exponent scaled).head?,
        Text.isDigit letter = false := by
      intro letter starts
      rcases head_exponent starts with rfl | rfl <;> decide
    rw [List.cons_append, fraction, takeWhile_takeWhile_append stops]
  | case2 other =>
    cases shape : exponent scaled with
    | nil => rfl
    | cons mark digits =>
      have starts := @head_exponent scaled mark (by simp [shape])
      rcases starts with rfl | rfl <;> rfl

/-- The text of a decimal number is read as that number. -/
theorem decimal_decimal (source : List Char) :
    numeral.decimal (numeral.decimal source).2 = numeral.decimal source := by
  unfold numeral.decimal
  dsimp only
  generalize source.drop (source.takeWhile Text.isDigit).length = behind
  generalize source.drop _ = scaled
  have stops : ∀ letter ∈ (fraction behind ++ exponent scaled).head?,
      Text.isDigit letter = false := by
    intro letter starts
    cases shape : fraction behind with
    | nil =>
      rw [shape, List.nil_append] at starts
      rcases head_exponent starts with rfl | rfl <;> decide
    | cons point digits =>
      have same := @head_fraction behind point (by simp [shape])
      rw [shape, same] at starts
      obtain rfl : '.' = letter := by simpa using starts
      decide
  have whole := takeWhile_takeWhile_append stops source
  generalize source.takeWhile Text.isDigit = digits at whole ⊢
  have left : (digits ++ (fraction behind ++ exponent scaled)).drop
      (digits.length + (fraction behind).length) = exponent scaled := by
    rw [← List.drop_drop, List.drop_left, List.drop_left]
  rw [List.append_assoc, whole, List.drop_left, fraction_append_exponent, left,
    exponent_exponent, List.append_assoc]

theorem numeral_of_unmarked
    (unmarked : ∀ mark rest, source = '0' :: mark :: rest →
      ¬ (mark = 'x' ∨ mark = 'X')) :
    numeral source = numeral.decimal source := by
  unfold numeral
  split
  · rename_i mark rest
    have other := unmarked mark rest rfl
    simp [other]
  · rfl

/-- A number by itself is read as a whole. -/
theorem numeral_numeral (source : List Char) :
    numeral (numeral source).2 = numeral source := by
  by_cases marked : ∃ mark rest, source = '0' :: mark :: rest ∧
      (mark = 'x' ∨ mark = 'X')
  · obtain ⟨mark, rest, rfl, known⟩ := marked
    simp [numeral, known, takeWhile_takeWhile]
  · have unmarked (mark : Char) (rest : List Char)
        (shape : source = '0' :: mark :: rest) : ¬ (mark = 'x' ∨ mark = 'X') :=
      fun known => marked ⟨mark, rest, shape, known⟩
    have whole := numeral_of_unmarked unmarked
    obtain ⟨behind, parts⟩ := numeral_isPrefix source
    rw [whole] at parts ⊢
    rw [numeral_of_unmarked, decimal_decimal]
    intro mark rest shape
    rw [shape] at parts
    exact unmarked mark (rest ++ behind) parts.symm

/-! ## Lexemes that are their own value -/

theorem number_text (valid : (number source).kind.isInvalid = false) :
    number (number source).text = { number source with rest := [] } := by
  have again := numeral_numeral source
  by_cases apart : ((source.drop (numeral source).2.length).takeWhile
      Text.isNamePart).isEmpty = true
  · have nothing := List.isEmpty_iff.1 apart
    simp [number, nothing, again]
  · simp [number, apart, Kind.isInvalid] at valid

theorem word_text (source : List Char) :
    word (word source).text = { word source with rest := [] } := by
  have left : (source.takeWhile Text.isNamePart).dropWhile Text.isNamePart =
      [] :=
    List.dropWhile_eq_nil_iff.2 fun _ member => List.mem_takeWhile_imp member
  simp only [word, takeWhile_takeWhile, left]

theorem symbol?_spelling (symbol : Symbol) :
    symbol? symbol.spelling.toList = some symbol := by
  cases symbol <;> decide

theorem sign_text (valid : (sign source).kind.isInvalid = false) :
    sign (sign source).text = { sign source with rest := [] } := by
  cases found : symbol? source with
  | some symbol => simp [sign, found, symbol?_spelling]
  | none => simp [sign, found, Kind.isInvalid] at valid

/-- A lexeme that is neither a string nor a comment starts with the first
character of its text, and its own text is read as that lexeme. -/
theorem read_text
    {first : Char} (plain : first ∉ [';', '\x7b', '"']) {rest : List Char}
    (valid : (read (first :: rest)).kind.isInvalid = false) :
    ∃ others, (read (first :: rest)).text = first :: others ∧
      read (first :: others) =
        ⟨(read (first :: rest)).kind, (read (first :: rest)).value,
          first :: others, []⟩ := by
  have inside : (read (first :: rest)).kind ≠ .endOfText :=
    fun ended => List.cons_ne_nil _ _ (eq_nil_of_kind_read ended)
  have parts := read_append (first :: rest)
  cases shape : (read (first :: rest)).text with
  | nil => exact absurd shape (text_ne_nil_of_read inside)
  | cons letter others =>
    rw [shape, List.cons_append, List.cons.injEq] at parts
    obtain ⟨rfl, _⟩ := parts
    refine ⟨others, rfl, ?_⟩
    rw [read_cons_of_plain plain] at shape valid ⊢
    rw [read_cons_of_plain plain]
    by_cases digit : Text.isDigit letter = true
    · rw [if_pos digit] at shape valid ⊢
      rw [if_pos digit, ← shape, number_text valid]
    · rw [if_neg digit] at shape valid ⊢
      rw [if_neg digit]
      by_cases start : Text.isNameStart letter = true
      · rw [if_pos start] at shape valid ⊢
        rw [if_pos start, ← shape, word_text]
      · rw [if_neg start] at shape valid ⊢
        rw [if_neg start, ← shape, sign_text valid]

/-! ## Strings and comments -/

/-- What a string says is read from its escaped characters. -/
theorem quoted_escaped (value more : List Char) :
    quoted (value.flatMap escaped ++ '"' :: more) =
      ⟨value.flatMap escaped, value, true, true, more⟩ := by
  induction value with
  | nil => rfl
  | cons letter value ih =>
    rw [List.flatMap_cons, List.append_assoc]
    by_cases backslash : letter = '\\'
    · simp [backslash, escaped, quoted, escape?, ih]
    · by_cases quote : letter = '"'
      · simp [quote, escaped, quoted, escape?, ih]
      · by_cases feed : letter = '\n'
        · simp [feed, escaped, quoted, escape?, ih]
        · by_cases tab : letter = '\t'
          · simp [tab, escaped, quoted, escape?, ih]
          · have plain : escaped letter = [letter] := by
              unfold escaped
              split <;> first | contradiction | rfl
            rw [plain, List.singleton_append, quoted]
            · rw [ih]
              rfl
            · exact feed
            · exact quote
            · exact backslash

theorem string_escaped (value more : List Char) :
    string (value.flatMap escaped ++ '"' :: more) =
      ⟨.stringLiteral, value, Kind.stringLiteral.written value, more⟩ := by
  simp [string, quoted_escaped, Kind.written]

theorem kind_string_of_valid
    {inside : List Char} (valid : (string inside).kind.isInvalid = false) :
    (string inside).kind = .stringLiteral := by
  revert valid
  unfold string
  dsimp only
  split
  · nofun
  · split
    · exact fun _ => rfl
    · nofun

theorem docComment_trim
    {body : List Char} (inside : ∀ letter ∈ body, isInDoc letter = true)
    (more : List Char) :
    docComment (Text.trim body ++ '\x7d' :: more) =
      ⟨.docComment, Text.trim body,
        Kind.docComment.written (Text.trim body), more⟩ := by
  have holds (letter : Char) (member : letter ∈ Text.trim body) :
      isInDoc letter = true :=
    inside letter (Text.mem_of_mem_trim member)
  have stops : isInDoc '\x7d' = false := by decide
  simp [docComment, List.takeWhile_append_of_pos holds,
    List.dropWhile_append_of_pos holds, stops, Text.trim_trim, Kind.written]

theorem docComment_of_valid
    {inside : List Char} (valid : (docComment inside).kind.isInvalid = false) :
    (docComment inside).kind = .docComment ∧
      (docComment inside).value = Text.trim (inside.takeWhile isInDoc) := by
  revert valid
  unfold docComment
  dsimp only
  split
  · nofun
  · exact fun _ => ⟨rfl, rfl⟩

/-! ## Read back -/

/-- A lexeme without a delimiter is written as it is read. -/
theorem written_of_plain
    {first : Char} (plain : first ∉ [';', '\x7b', '"']) (rest : List Char) :
    (read (first :: rest)).kind.written (read (first :: rest)).value =
      (read (first :: rest)).text := by
  rw [read_cons_of_plain plain]
  by_cases digit : Text.isDigit first = true
  · rw [if_pos digit]
    have kinds := kind_numeral (first :: rest)
    simp only [List.mem_cons, List.not_mem_nil, or_false] at kinds
    unfold number
    dsimp only
    split
    · rcases kinds with kind | kind | kind <;> rw [kind] <;> rfl
    · rfl
  · rw [if_neg digit]
    by_cases start : Text.isNameStart first = true
    · rw [if_pos start]
      unfold word
      dsimp only
      split <;> rfl
    · rw [if_neg start]
      unfold sign
      split <;> rfl

/-- Filler is told from a lexeme by its first character. -/
theorem read?_eq_none_of_valid {first : Char} {rest : List Char}
    (visible : Filler.read? (first :: rest) = none)
    (valid : (read (first :: rest)).kind.isInvalid = false)
    (others : List Char) : Filler.read? (first :: others) = none := by
  have feed : first ≠ '\n' := by
    rintro rfl
    cases visible
  have comment : first ≠ ';' := by
    rintro rfl
    cases valid
  have backslash : first ≠ '\\' := by
    rintro rfl
    cases valid
  simpa [Filler.read?, feed, comment, backslash] using visible

/-- What has been written for a lexeme is read as that lexeme in front of a
blank. -/
theorem read_written (visible : Filler.read? source = none)
    (inside : (read source).kind ≠ .endOfText)
    (valid : (read source).kind.isInvalid = false) (more : List Char) :
    Filler.read? ((read source).kind.written (read source).value ++
        ' ' :: more) = none ∧
      read ((read source).kind.written (read source).value ++ ' ' :: more) =
        ⟨(read source).kind, (read source).value,
          (read source).kind.written (read source).value, ' ' :: more⟩ := by
  cases source with
  | nil => exact absurd rfl inside
  | cons first rest =>
    by_cases plain : first ∉ [';', '\x7b', '"']
    · have blank : separates ' ' = true := by decide
      obtain ⟨others, shape, again⟩ := read_text plain valid
      rw [written_of_plain plain, shape, read_followedBy plain blank, again]
      exact ⟨read?_eq_none_of_valid visible valid _, rfl⟩
    · simp only [List.mem_cons, List.not_mem_nil, or_false,
        Decidable.not_not] at plain
      rcases plain with rfl | rfl | rfl
      · cases valid
      · have body : ∀ letter ∈ rest.takeWhile isInDoc, isInDoc letter = true :=
          fun _ member => List.mem_takeWhile_imp member
        have lexeme : read ('\x7b' :: rest) = docComment rest := rfl
        rw [lexeme] at valid ⊢
        obtain ⟨kind, value⟩ := docComment_of_valid valid
        have again := docComment_trim body (' ' :: more)
        rw [kind, value]
        rw [Kind.written, List.append_assoc, List.append_assoc]
        exact ⟨rfl, again⟩
      · have lexeme : read ('"' :: rest) = string rest := rfl
        rw [lexeme] at valid ⊢
        rw [kind_string_of_valid valid]
        have again := string_escaped (string rest).value (' ' :: more)
        rw [Kind.written, List.append_assoc, List.append_assoc]
        exact ⟨rfl, again⟩

end Lexeme

/-! ## Tokens written out and read again -/

variable {source : List Char}

/-- How a token is written. -/
def Token.written (token : Token) : List Char :=
  token.kind.written token.text.toList

/-- Some tokens written out, with one blank between them. -/
def writtenOut (found : List Token) : String :=
  String.ofList ([' '].intercalate (found.map Token.written))

/-- What a token says, wherever it stands. -/
def Token.said (token : Token) : Kind × String := (token.kind, token.text)

/-! ## Blanks and line feeds -/

theorem Filler.readAll_spacing {pieces : List Filler}
    (spacing : ∀ piece ∈ pieces, piece = .blank ' ' ∨ piece = .lineFeed)
    {following : List Char} (visible : read? following = none) :
    readAll (allText pieces ++ following) = (pieces, following) := by
  induction pieces with
  | nil => exact readAll_of_read?_eq_none visible
  | cons piece pieces ih =>
    rw [List.forall_mem_cons] at spacing
    have found : read? (allText (piece :: pieces) ++ following) =
        some (piece, allText pieces ++ following) := by
      rcases spacing.1 with rfl | rfl <;> rfl
    rw [readAll_of_read?_eq_some found, ih spacing.2]

/-- A line breaks at a spacing exactly if it did at the gap. -/
theorem lineBreak?_said
    {layout : Layout} {next : Kind} {pieces spacing : List Filler}
    {start : Position}
    (feeds : .lineFeed ∈ spacing ↔
      (lineBreak? layout start pieces next).isSome = true)
    (place : Position) :
    (lineBreak? layout place spacing next).map Token.said =
      (lineBreak? layout start pieces next).map Token.said := by
  unfold lineBreak? beforeLineFeed? at *
  by_cases resumes : (layout.started &&
      (layout.depth = 0 || next.isStructural)) = true
  · simp only [resumes, if_true] at feeds ⊢
    by_cases broken : .lineFeed ∈ pieces
    · have feed : .lineFeed ∈ spacing := by
        rw [feeds]
        simp [broken]
      simp [broken, feed, Token.said]
    · have smooth : .lineFeed ∉ spacing := by
        rw [feeds]
        simp [broken]
      simp [broken, smooth]
  · rw [if_neg resumes, if_neg resumes]

theorem Layout.behind_congr {first second : List Token}
    (same : first.map Token.said = second.map Token.said) (layout : Layout) :
    layout.behind first = layout.behind second := by
  have both := congrArg (List.map Prod.fst) same
  rw [List.map_map, List.map_map] at both
  exact Layout.behind_congr_kind both layout

/-! ## One stretch -/

/-- The filler in front of a lexeme that has been written out: some blanks,
and a line feed and one blank more where the line breaks. -/
def spacing (blanks : Nat) (breaks : Bool) : List Filler :=
  .replicate blanks (.blank ' ') ++
    if breaks then [.lineFeed, .blank ' '] else []

theorem mem_spacing {blanks : Nat} {breaks : Bool} {piece : Filler}
    (member : piece ∈ spacing blanks breaks) :
    piece = .blank ' ' ∨ piece = .lineFeed := by
  rcases List.mem_append.1 member with front | back
  · exact .inl (List.eq_of_mem_replicate front)
  · cases breaks with
    | false => cases back
    | true => simpa [or_comm] using back

theorem lineFeed_mem_spacing (blanks : Nat) (breaks : Bool) :
    .lineFeed ∈ spacing blanks breaks ↔ breaks = true := by
  cases breaks <;> simp [spacing]

/-- Written out, a stretch with blanks in front of it has the same tokens. -/
theorem Stretch.tokens_said
    (stretch : Stretch) (layout : Layout) (start place : Position)
    (blanks : Nat) (text : List Char) :
    (Stretch.tokens
        ⟨spacing blanks
            (lineBreak? layout start stretch.gap stretch.kind).isSome,
          stretch.kind, stretch.value, text⟩ layout place).map Token.said =
      (stretch.tokens layout start).map Token.said := by
  have line := lineBreak?_said
    (lineFeed_mem_spacing blanks
      (lineBreak? layout start stretch.gap stretch.kind).isSome) place
  simp only [tokens, List.map_append, ← Option.toList_map, line]
  rfl

theorem allText_spacing (blanks : Nat) (breaks : Bool) :
    Filler.allText (spacing blanks breaks) =
      .replicate blanks ' ' ++ if breaks then ['\n', ' '] else [] := by
  have front : Filler.allText (.replicate blanks (.blank ' ')) =
      .replicate blanks ' ' := by
    simp [Filler.allText, Filler.text, List.flatMap_replicate]
  cases breaks <;> simp [spacing, front, Filler.text]

/-- The characters of a stretch written out, with what is written behind it. -/
theorem Stretch.written_tokens
    (stretch : Stretch) (layout : Layout) (start : Position)
    (more : List (List Char)) :
    [' '].intercalate ((stretch.tokens layout start).map Token.written ++
        more) =
      (if (lineBreak? layout start stretch.gap stretch.kind).isSome then
        ['\n', ' '] else []) ++
        [' '].intercalate (stretch.kind.written stretch.value :: more) := by
  have lexeme : (stretch.token start).written =
      stretch.kind.written stretch.value := by
    simp [Token.written, token]
  cases broken : lineBreak? layout start stretch.gap stretch.kind with
  | none => simp [tokens, broken, lexeme]
  | some line =>
    obtain ⟨front, back, _, rfl⟩ := exists_of_lineBreak? broken
    have feed : Token.written ⟨.newline, "\n",
        Span.covering (start.advance (Filler.allText front)) ['\n']⟩ = ['\n'] :=
      rfl
    simp [tokens, broken, lexeme, feed, List.intercalate_cons_cons]

/-- Behind blanks and line feeds a lexeme is read with them as its gap. -/
theorem Stretch.first_spacing
    {visible rest text value : List Char} {kind : Kind}
    (nothing : Filler.read? visible = none)
    (lexeme : Lexeme.read visible = ⟨kind, value, text, rest⟩)
    (blanks : Nat) (breaks : Bool) :
    first (Filler.allText (spacing blanks breaks) ++ visible) =
        ⟨spacing blanks breaks, kind, value, text⟩ ∧
      textBehind (Filler.allText (spacing blanks breaks) ++ visible) =
        rest := by
  have filler := @Filler.readAll_spacing (spacing blanks breaks)
    (fun _ member => mem_spacing member) visible nothing
  simp only [first, textBehind, filler, lexeme]
  exact ⟨trivial, trivial⟩

/-- Written out, a stretch is read as itself in front of a blank. -/
theorem Stretch.first_written (inside : (first source).kind ≠ .endOfText)
    (valid : (first source).kind.isInvalid = false) (blanks : Nat)
    (breaks : Bool) (more : List Char) :
    first (Filler.allText (spacing blanks breaks) ++
        ((first source).kind.written (first source).value ++ ' ' :: more)) =
      ⟨spacing blanks breaks, (first source).kind, (first source).value,
        (first source).kind.written (first source).value⟩ ∧
      textBehind (Filler.allText (spacing blanks breaks) ++
        ((first source).kind.written (first source).value ++ ' ' :: more)) =
      ' ' :: more := by
  obtain ⟨nothing, lexeme⟩ :=
    Lexeme.read_written (Filler.read?_readAll source) inside valid more
  exact first_spacing nothing lexeme blanks breaks

/-! ## All stretches -/

theorem layOut_ne_nil
    (layout : Layout) (start : Position) (source : List Char) :
    layOut layout start (stretches source) ≠ [] := by
  rw [stretches, layOut, Stretch.tokens]
  simp

theorem intercalate_cons_of_ne_nil
    {found : List Token} (more : found ≠ []) (text : List Char) :
    [' '].intercalate (text :: found.map Token.written) =
      text ++ ' ' :: [' '].intercalate (found.map Token.written) := by
  cases found with
  | nil => exact absurd rfl more
  | cons token found => simp [List.intercalate_cons_cons]

/-- Written out, the end of the text is read as the end of the text. -/
theorem said_last
    (ended : (Stretch.first source).kind = .endOfText) (layout : Layout)
    (start place : Position) (blanks : Nat) :
    (layOut layout place (stretches (.replicate blanks ' ' ++
        [' '].intercalate (((Stretch.first source).tokens layout start).map
          Token.written)))).map Token.said =
      ((Stretch.first source).tokens layout start).map Token.said := by
  have same := (Stretch.first source).tokens_said layout start place blanks []
  have written := (Stretch.first source).written_tokens layout start []
  generalize (lineBreak? layout start (Stretch.first source).gap
    (Stretch.first source).kind).isSome = breaks at same written
  have nothing : (Filler.readAll source).2 = [] :=
    Lexeme.eq_nil_of_kind_read ended
  have silent : (Stretch.first source).value = [] := by
    simp [Stretch.first, nothing, Lexeme.read]
  have lexeme : Lexeme.read [] = ⟨.endOfText, [], [], []⟩ := rfl
  have front := (Stretch.first_spacing (by rfl) lexeme blanks breaks).1
  rw [List.append_nil, List.intercalate_singleton, ended, Kind.written]
    at written
  rw [written, ← List.append_assoc, ← allText_spacing,
    stretches_of_endOfText (by rw [front]), front, layOut, layOut,
    List.append_nil, ← same, ended, silent]

/-- Written out, a stretch that does not end the text is read as itself, and
what is written behind it by itself. -/
theorem said_cons (inside : (Stretch.first source).kind ≠ .endOfText)
    (valid : (Stretch.first source).kind.isInvalid = false) (layout : Layout)
    (start : Position) {following : List Token} (more : following ≠ [])
    (further : ∀ place,
      (layOut (layout.behind ((Stretch.first source).tokens layout start))
        place (stretches (' ' ::
          [' '].intercalate (following.map Token.written)))).map Token.said =
        following.map Token.said)
    (place : Position) (blanks : Nat) :
    (layOut layout place (stretches (.replicate blanks ' ' ++
        [' '].intercalate
          (((Stretch.first source).tokens layout start ++ following).map
            Token.written)))).map Token.said =
      ((Stretch.first source).tokens layout start ++ following).map
        Token.said := by
  have same := (Stretch.first source).tokens_said layout start place blanks
    ((Stretch.first source).kind.written (Stretch.first source).value)
  have written := (Stretch.first source).written_tokens layout start
    (following.map Token.written)
  generalize (lineBreak? layout start (Stretch.first source).gap
    (Stretch.first source).kind).isSome = breaks at same written
  obtain ⟨front, behind⟩ := Stretch.first_written inside valid blanks breaks
    ([' '].intercalate (following.map Token.written))
  rw [List.map_append, written, intercalate_cons_of_ne_nil more,
    ← List.append_assoc, ← allText_spacing,
    stretches_of_ne_endOfText (by rw [front]; exact inside), front, behind,
    layOut, List.map_append, List.map_append, Layout.behind_congr same,
    further, same]

/-- Laid out, the stretches of what has been written out have the same
tokens. -/
theorem said_layOut {layout : Layout} {start : Position}
    (valid : ∀ token ∈ layOut layout start (stretches source),
      token.kind.isInvalid = false)
    (place : Position) (blanks : Nat) :
    (layOut layout place (stretches (.replicate blanks ' ' ++
        [' '].intercalate
          ((layOut layout start (stretches source)).map
            Token.written)))).map Token.said =
      (layOut layout start (stretches source)).map Token.said := by
  induction size : source.length using Nat.strong_induction_on
    generalizing source layout start place blanks with
  | _ length ih =>
    by_cases ended : (Stretch.first source).kind = .endOfText
    · have whole : layOut layout start (stretches source) =
          (Stretch.first source).tokens layout start := by
        rw [stretches_of_endOfText ended, layOut, layOut, List.append_nil]
      rw [whole]
      exact said_last ended layout start place blanks
    · have shorter : (textBehind source).length < length :=
        size ▸ length_rest_lt ended
      rw [stretches_of_ne_endOfText ended, layOut] at valid ⊢
      rw [List.forall_mem_append] at valid
      have here : (Stretch.first source).kind.isInvalid = false :=
        valid.1 ((Stretch.first source).token start) (by simp [Stretch.tokens])
      exact said_cons ended here layout start (layOut_ne_nil _ _ _)
        (fun place => ih _ shorter valid.2 place 1 rfl)
        place blanks

/-- A text without invalid tokens, written out with one blank between its
tokens, has tokens that say the same. -/
theorem tokens_writtenOut {source : String}
    (valid : ∀ token ∈ tokens source, token.kind.isInvalid = false) :
    (tokens (writtenOut (tokens source))).map
        (fun token => (token.kind, token.text)) =
      (tokens source).map fun token => (token.kind, token.text) := by
  rw [tokens_eq_layOut source] at valid ⊢
  rw [tokens_eq_layOut, writtenOut, String.toList_ofList]
  exact said_layOut valid .origin 0

/-- A string with an escape, a line break, and a comment inside braces. -/
def spacedOut : String := "x=\"\\n\";c\n\n\x7b d \x7d"

/-- Its tokens. -/
def Token.spacedOut : List Token :=
  [⟨.identifier, "x", ⟨1, 1⟩, ⟨1, 2⟩⟩, ⟨.symbol .assign, "=", ⟨1, 2⟩, ⟨1, 3⟩⟩,
    ⟨.stringLiteral, "\n", ⟨1, 3⟩, ⟨1, 7⟩⟩,
    ⟨.newline, "\n", ⟨1, 9⟩, ⟨2, 1⟩⟩, ⟨.docComment, "d", ⟨3, 1⟩, ⟨3, 6⟩⟩,
    .endOfText ⟨3, 6⟩]

/-- The escape is written as an escape, and one line break is written for the
two line feeds behind the comment. -/
theorem tokens_writtenOut_spacedOut :
    tokens spacedOut = Token.spacedOut ∧
      writtenOut Token.spacedOut = "x = \"\\n\" \n \x7bd\x7d " ∧
        (tokens "x = \"\\n\" \n \x7bd\x7d ").map
            (fun token => (token.kind, token.text)) =
          Token.spacedOut.map fun token => (token.kind, token.text) := by
  have found : tokens spacedOut = Token.spacedOut := by decide +kernel
  have text : writtenOut Token.spacedOut = "x = \"\\n\" \n \x7bd\x7d " := by
    decide +kernel
  have valid : ∀ token ∈ tokens spacedOut, token.kind.isInvalid = false := by
    rw [found]
    decide
  have same := tokens_writtenOut valid
  rw [found, text] at same
  exact ⟨found, text, same⟩

end PapyrusScript
