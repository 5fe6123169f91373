import PapyrusScript.Proofs.Lexemes
import PapyrusScript.Proofs.Relexing

/-!
# The text of string literals

The inside of a string literal is a row of items.  An item is a character, or
a backslash and the character behind it, which is an escape if it is known.
A quote behind the items closes the literal.  A text that cannot be cut into
items and a quote is left open in front of its first line feed.
-/

namespace PapyrusScript

/-- The characters that make an escape behind a backslash, each with the one
that it stands for. -/
def knownEscapes : List (Char × Char) :=
  [('n', '\n'), ('t', '\t'), ('\\', '\\'), ('"', '"')]

/-- One character inside a string literal as it is written. -/
inductive StringItem where
  | plain (letter : Char) (isPlain : letter ∉ ['"', '\\', '\n'])
  | known (letter meant : Char) (isKnown : (letter, meant) ∈ knownEscapes)
  | unknown (letter : Char) (inLine : letter ≠ '\n')
      (isUnknown : letter ∉ knownEscapes.map Prod.fst)
  deriving DecidableEq, Repr

namespace StringItem

/-- The text of an item. -/
def text : StringItem → List Char
  | .plain letter _ => [letter]
  | .known letter _ _ => ['\\', letter]
  | .unknown letter _ _ => ['\\', letter]

/-- What an item stands for, if it is no unknown escape. -/
def meaning? : StringItem → Option Char
  | .plain letter _ => some letter
  | .known _ meant _ => some meant
  | .unknown _ _ _ => none

/-- The text of several items. -/
def written (items : List StringItem) : List Char := items.flatMap text

/-- What several items stand for, if all escapes are known. -/
def decoded? (items : List StringItem) : Option (List Char) :=
  items.mapM meaning?

@[simp]
theorem written_nil : written [] = [] := rfl

@[simp]
theorem written_cons (item : StringItem) (items : List StringItem) :
    written (item :: items) = item.text ++ written items :=
  rfl

@[simp]
theorem decoded?_nil : decoded? [] = some [] := rfl

theorem decoded?_cons (item : StringItem) (items : List StringItem) :
    decoded? (item :: items) =
      item.meaning?.bind fun meant =>
        (decoded? items).map fun value => meant :: value := by
  unfold decoded?
  rw [List.mapM_cons]
  cases item.meaning? with
  | none => rfl
  | some meant => cases items.mapM meaning? <;> rfl

theorem decoded?_eq_none_iff (items : List StringItem) :
    decoded? items = none ↔ ∃ item ∈ items, item.meaning? = none := by
  induction items with
  | nil => simp
  | cons item items ih =>
    rw [decoded?_cons, List.exists_mem_cons_iff, ← ih]
    cases item.meaning? <;> simp

/-- If all escapes are known, every item stands for a character. -/
theorem filterMap_of_decoded? {items : List StringItem} {value : List Char}
    (decodes : decoded? items = some value) :
    items.filterMap meaning? = value := by
  induction items generalizing value with
  | nil => exact Option.some.inj decodes
  | cons item items ih =>
    rw [decoded?_cons] at decodes
    obtain ⟨meant, stands, decodes⟩ := Option.bind_eq_some_iff.1 decodes
    obtain ⟨rest, further, rfl⟩ := Option.map_eq_some_iff.1 decodes
    rw [List.filterMap_cons, stands]
    exact congrArg (meant :: ·) (ih further)

end StringItem

namespace Lexeme

open StringItem

variable {inside : List Char}

/-! ## Escapes -/

theorem escape?_eq_some_iff (letter meant : Char) :
    escape? letter = some meant ↔ (letter, meant) ∈ knownEscapes := by
  unfold escape?
  split <;> simp_all [knownEscapes, eq_comm]

theorem escape?_eq_none_iff (letter : Char) :
    escape? letter = none ↔ letter ∉ knownEscapes.map Prod.fst := by
  unfold escape?
  split <;> simp_all [knownEscapes]

/-! ## The inside of a literal -/

/-- The items of a string are read up to the quote behind them. -/
theorem quoted_written (items : List StringItem) (rest : List Char) :
    quoted (written items ++ '"' :: rest) =
      ⟨written items, items.filterMap meaning?, (decoded? items).isSome, true,
        rest⟩ := by
  induction items with
  | nil => rfl
  | cons item items ih =>
    rw [written_cons, List.append_assoc, decoded?_cons]
    cases item with
    | plain letter isPlain =>
      simp only [List.mem_cons, List.not_mem_nil, or_false, not_or] at isPlain
      obtain ⟨quote, backslash, feed⟩ := isPlain
      rw [StringItem.text, List.singleton_append, quoted]
      · rw [ih]
        simp [meaning?]
      · exact feed
      · exact quote
      · exact backslash
    | known letter meant isKnown =>
      have feed : letter ≠ '\n' := by
        rintro rfl
        simp [knownEscapes] at isKnown
      have stands := (escape?_eq_some_iff letter meant).2 isKnown
      rw [StringItem.text, List.cons_append, List.singleton_append, quoted]
      · rw [ih]
        simp [meaning?, stands]
      · exact feed
    | unknown letter inLine isUnknown =>
      have stands := (escape?_eq_none_iff letter).2 isUnknown
      rw [StringItem.text, List.cons_append, List.singleton_append, quoted]
      · rw [ih]
        simp [List.filterMap_cons, meaning?, stands]
      · exact inLine

/-- A literal that is closed consists of items and a quote. -/
theorem exists_items_of_closed (closed : (quoted inside).closed = true) :
    ∃ items, inside = written items ++ '"' :: (quoted inside).rest := by
  fun_induction quoted inside with
  | case1 => cases closed
  | case2 rest => cases closed
  | case3 rest => exact ⟨[], rfl⟩
  | case4 => cases closed
  | case5 below => cases closed
  | case6 letter after feed inner meant isKnown ih =>
    obtain ⟨items, shape⟩ := ih closed
    refine ⟨.known letter meant ((escape?_eq_some_iff _ _).1 isKnown) ::
      items, ?_⟩
    rw [shape]
    rfl
  | case7 letter after feed inner isUnknown ih =>
    obtain ⟨items, shape⟩ := ih closed
    refine ⟨.unknown letter feed ((escape?_eq_none_iff _).1 isUnknown) ::
      items, ?_⟩
    rw [shape]
    rfl
  | case8 letter rest feed quote backslash inner ih =>
    obtain ⟨items, shape⟩ := ih closed
    have isPlain : letter ∉ ['"', '\\', '\n'] := by
      simp only [List.mem_cons, List.not_mem_nil, or_false, not_or]
      exact ⟨quote, backslash, feed⟩
    refine ⟨.plain letter isPlain :: items, ?_⟩
    rw [shape]
    rfl

/-- A literal that is left open goes on to the end of its line. -/
theorem quoted_of_unclosed (unclosed : (quoted inside).closed = false) :
    (quoted inside).raw = inside.takeWhile Filler.isInLine ∧
      (quoted inside).rest = inside.dropWhile Filler.isInLine := by
  have slash : Filler.isInLine '\\' = true := rfl
  fun_induction quoted inside with
  | case1 => exact ⟨rfl, rfl⟩
  | case2 rest => exact ⟨rfl, rfl⟩
  | case3 rest => cases unclosed
  | case4 => exact ⟨rfl, rfl⟩
  | case5 below => exact ⟨rfl, rfl⟩
  | case6 letter after feed inner meant isKnown ih =>
    obtain ⟨raw, rest⟩ := ih unclosed
    have inLine : Filler.isInLine letter = true := decide_eq_true feed
    simp [slash, inLine, inner, raw, rest]
  | case7 letter after feed inner isUnknown ih =>
    obtain ⟨raw, rest⟩ := ih unclosed
    have inLine : Filler.isInLine letter = true := decide_eq_true feed
    simp [slash, inLine, inner, raw, rest]
  | case8 letter rest feed quote backslash inner ih =>
    obtain ⟨raw, rest⟩ := ih unclosed
    have inLine : Filler.isInLine letter = true := decide_eq_true feed
    simp [inLine, inner, raw, rest]

/-! ## Literals -/

/-- A row of items is read as a literal if all escapes are known, and as a
broken one otherwise. -/
theorem string_written (items : List StringItem) (rest : List Char) :
    string (written items ++ '"' :: rest) =
      match decoded? items with
      | some value =>
        ⟨.stringLiteral, value, '"' :: written items ++ ['"'], rest⟩
      | none =>
        ⟨.invalid .invalidEscape, written items,
          '"' :: written items ++ ['"'], rest⟩ := by
  simp only [string, quoted_written]
  cases decodes : decoded? items with
  | none => rfl
  | some value =>
    simp only [filterMap_of_decoded? decodes]
    rfl

/-- A text that is no row of items and a quote is left open in front of its
first line feed. -/
theorem string_of_unwritten
    (open_ : ∀ items rest, inside ≠ written items ++ '"' :: rest) :
    string inside =
      ⟨.invalid .unterminatedString, inside.takeWhile Filler.isInLine,
        '"' :: inside.takeWhile Filler.isInLine,
        inside.dropWhile Filler.isInLine⟩ := by
  cases closed : (quoted inside).closed with
  | true =>
    obtain ⟨items, shape⟩ := exists_items_of_closed closed
    exact absurd shape (open_ items _)
  | false =>
    obtain ⟨raw, rest⟩ := quoted_of_unclosed closed
    simp only [string, closed, raw, rest]
    rfl

/-- A text behind a quote is a row of items and a quote, or it is not. -/
theorem exists_items_or_unwritten (inside : List Char) :
    (∃ items rest, inside = written items ++ '"' :: rest) ∨
      ∀ items rest, inside ≠ written items ++ '"' :: rest := by
  by_cases closed : ∃ items rest, inside = written items ++ '"' :: rest
  · exact .inl closed
  · refine .inr fun items rest shape => closed ⟨items, rest, shape⟩

/-- A string literal is a row of items and a quote, all escapes known. -/
theorem kind_string_eq_stringLiteral_iff (inside : List Char) :
    (string inside).kind = .stringLiteral ↔
      ∃ items rest value, inside = written items ++ '"' :: rest ∧
        decoded? items = some value := by
  constructor
  · intro literal
    rcases exists_items_or_unwritten inside with
      ⟨items, rest, rfl⟩ | unwritten
    · rw [string_written] at literal
      cases decodes : decoded? items with
      | none => simp [decodes] at literal
      | some value => exact ⟨items, rest, value, rfl, decodes⟩
    · simp [string_of_unwritten unwritten] at literal
  · rintro ⟨items, rest, value, rfl, decodes⟩
    rw [string_written, decodes]

/-- A string has an unknown escape exactly if one of its items is one. -/
theorem kind_string_eq_invalidEscape_iff (inside : List Char) :
    (string inside).kind = .invalid .invalidEscape ↔
      ∃ items rest, inside = written items ++ '"' :: rest ∧
        ∃ item ∈ items, item.meaning? = none := by
  constructor
  · intro broken
    rcases exists_items_or_unwritten inside with
      ⟨items, rest, rfl⟩ | unwritten
    · rw [string_written] at broken
      cases decodes : decoded? items with
      | none =>
        exact ⟨items, rest, rfl, (decoded?_eq_none_iff items).1 decodes⟩
      | some value => simp [decodes] at broken
    · simp [string_of_unwritten unwritten] at broken
  · rintro ⟨items, rest, rfl, stray⟩
    rw [string_written, (decoded?_eq_none_iff items).2 stray]

theorem kind_string_eq_unterminatedString_iff (inside : List Char) :
    (string inside).kind = .invalid .unterminatedString ↔
      ∀ items rest, inside ≠ written items ++ '"' :: rest := by
  constructor
  · rintro unclosed items rest rfl
    rw [string_written] at unclosed
    cases decodes : decoded? items <;> simp [decodes] at unclosed
  · intro unwritten
    rw [string_of_unwritten unwritten]

theorem text_string_written (items : List StringItem) (rest : List Char) :
    (string (written items ++ '"' :: rest)).text =
      '"' :: written items ++ ['"'] := by
  rw [string_written]
  cases decoded? items <;> rfl

end Lexeme

/-! ## A text in quotes -/

/-- A text as a string literal, with escapes for what would end or change
it. -/
def inQuotes (value : String) : String :=
  String.ofList (['"'] ++ value.toList.flatMap escaped ++ ['"'])

/-- The only token of a text in quotes stands for that text. -/
theorem tokens_inQuotes (value : String) :
    tokens (inQuotes value) =
      [⟨.stringLiteral, value, ⟨.origin, placeAfter (inQuotes value).toList⟩⟩,
        .endOfText (placeAfter (inQuotes value).toList)] := by
  have read : Lexeme.read (['"'] ++ value.toList.flatMap escaped ++ ['"']) =
      ⟨.stringLiteral, value.toList,
        ['"'] ++ value.toList.flatMap escaped ++ ['"'], []⟩ :=
    Lexeme.string_escaped value.toList []
  rw [inQuotes, tokens_of_single rfl (by rw [read]; nofun) (by rw [read]), read]
  simp [Lexeme.tokenBehind, ← advance_origin]

/-! ## The law of string literals -/

open StringItem

/-- A quote that starts a token is followed by items and another quote, and
then the token is a literal if all escapes are known and a broken one if not;
it ends behind the second quote.  Otherwise the token is left open and ends in
front of the line feed.  Every text can be written in this way. -/
theorem quote_starts_string
    {source : String} {token : Token} {before inside : List Char}
    (member : token ∈ tokens source)
    (cut : source.toList = before ++ '"' :: inside)
    (starts : token.span.start = placeAfter before) :
    (token.kind = .stringLiteral ↔
        ∃ items rest value, inside = written items ++ '"' :: rest ∧
          decoded? items = some value) ∧
      (token.kind = .invalid .invalidEscape ↔
        ∃ items rest, inside = written items ++ '"' :: rest ∧
          ∃ item ∈ items, item.meaning? = none) ∧
      (token.kind = .invalid .unterminatedString ↔
        ∀ items rest, inside ≠ written items ++ '"' :: rest) ∧
      (∀ items rest, inside = written items ++ '"' :: rest →
        token.span.stop = placeAfter (before ++ '"' :: written items ++ ['"']) ∧
          ∀ value, decoded? items = some value →
            token.text = String.ofList value) ∧
      ((∀ items rest, inside ≠ written items ++ '"' :: rest) →
        token.span.stop =
          placeAfter (before ++ '"' :: inside.takeWhile Filler.isInLine)) ∧
      ∀ value, tokens (inQuotes value) =
        [⟨.stringLiteral, value, ⟨.origin, placeAfter (inQuotes value).toList⟩⟩,
          .endOfText (placeAfter (inQuotes value).toList)] := by
  obtain rfl : token = (Lexeme.string inside).tokenBehind before :=
    eq_tokenBehind_of_start member cut starts (by decide)
  refine ⟨Lexeme.kind_string_eq_stringLiteral_iff inside,
    Lexeme.kind_string_eq_invalidEscape_iff inside,
    Lexeme.kind_string_eq_unterminatedString_iff inside, ?_, ?_,
    tokens_inQuotes⟩
  · rintro items rest rfl
    constructor
    · rw [Lexeme.tokenBehind, Lexeme.text_string_written, List.append_assoc]
    · intro value decodes
      rw [Lexeme.tokenBehind, Lexeme.string_written, decodes]
  · intro unwritten
    rw [Lexeme.tokenBehind, Lexeme.string_of_unwritten unwritten]

/-- A call with a string in its second line, which holds a quote and an
unknown escape. -/
def wrongEscape : String := "Say(\n\"a\\\"b\\q\")"

def StringItem.ofWrongEscape : List StringItem :=
  [.plain 'a' (by decide), .known '"' '"' (by decide), .plain 'b' (by decide),
    .unknown 'q' (by decide) (by decide)]

/-- The string does not end at the quote inside, and it is broken. -/
theorem wrongEscape_starts_string :
    ∃ token ∈ tokens wrongEscape,
      token.span = ⟨⟨2, 1⟩, ⟨2, 9⟩⟩ ∧ token.kind = .invalid .invalidEscape := by
  obtain ⟨token, member, starts⟩ :
      ∃ token ∈ tokens wrongEscape,
        token.span.start = placeAfter "Say(\n".toList := by
    decide +kernel
  have cut : wrongEscape.toList =
      "Say(\n".toList ++ '"' :: (written ofWrongEscape ++ ['"', ')']) := by
    decide
  obtain ⟨_, broken, _, closed, _⟩ := quote_starts_string member cut starts
  obtain ⟨stops, _⟩ := closed ofWrongEscape [')'] rfl
  refine ⟨token, member, ?_, broken.2 ⟨ofWrongEscape, [')'], rfl, ?_⟩⟩
  · have ends : placeAfter ("Say(\n".toList ++
        '"' :: written ofWrongEscape ++ ['"']) = ⟨2, 9⟩ := by
      decide
    exact congrArg₂ Span.mk starts (stops.trans ends)
  · exact ⟨_, List.mem_cons_of_mem _ (List.mem_cons_of_mem _
      (List.mem_cons_of_mem _ (List.mem_singleton_self _))), rfl⟩

end PapyrusScript
