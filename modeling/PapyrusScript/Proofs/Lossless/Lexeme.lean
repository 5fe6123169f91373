import PapyrusScript.Token.Filler
import Mathlib.Data.List.TakeWhile
import PapyrusScript.Token.Lexeme

/-!
# What filler and tokens say of their text

A piece of filler is a blank character, a line feed, a whole comment or a
whole line continuation.  Whether a line comment or a continuation is whole
depends on the text behind it as well: both may end with the text.

Most tokens say exactly what stands in the source.  A string literal says what
it stands for, a documentation comment what stands between its braces, and an
invalid string or comment what is known of it.
-/

namespace PapyrusScript

namespace Filler

/-! ## Filler -/

def IsLineComment (text : List Char) : Prop :=
  ∃ body, text = ';' :: body ∧ ¬ ['/'] <+: body ∧ '\n' ∉ body

def IsBlockComment (text : List Char) : Prop :=
  ∃ body, text = [';', '/'] ++ body ++ ['/', ';'] ∧
    ¬ ['/', ';'] <:+: body ++ ['/']

/-- Whether a line ends in front of a text. -/
def EndsLine (following : List Char) : Prop :=
  following = [] ∨ ['\n'] <+: following

/-- A backslash, blanks, a line comment or none, and the end of a line or of
the text. -/
def IsContinuation (text following : List Char) : Prop :=
  ∃ blanks comment ending,
    text = ['\\'] ++ blanks ++ comment ++ ending ∧
      (∀ letter ∈ blanks, isTrailingBlank letter = true) ∧
      (comment = [] ∨ IsLineComment comment) ∧
      (ending = ['\n'] ∨ ending = [] ∧ following = [])

/-- A piece of filler is whole, in front of the text that follows it. -/
def IsWhole (following : List Char) : Filler → Prop
  | .blank letter => Text.isBlank letter = true
  | .lineFeed => True
  | .lineComment text => IsLineComment text ∧ EndsLine following
  | .blockComment text => IsBlockComment text
  | .continuation text => IsContinuation text following

/-- Every one of several pieces is whole, in front of those behind it and of
the text that follows them all. -/
def AreWhole (following : List Char) : List Filler → Prop
  | [] => True
  | piece :: rest =>
    piece.IsWhole (allText rest ++ following) ∧ AreWhole following rest

theorem areWhole_append (following : List Char) (first second : List Filler) :
    AreWhole following (first ++ second) ↔
      AreWhole (allText second ++ following) first ∧
        AreWhole following second := by
  induction first with
  | nil => simp [AreWhole]
  | cons piece first ih =>
    simp only [List.cons_append, AreWhole, ih]
    simp only [allText, List.flatMap_append, List.append_assoc, and_assoc]

/-! ## Comments -/

theorem not_mem_takeWhile_isInLine (source : List Char) :
    '\n' ∉ source.takeWhile isInLine := by
  intro member
  have inLine := List.mem_takeWhile_imp member
  simp [isInLine] at inLine

theorem endsLine_dropWhile (source : List Char) :
    EndsLine (source.dropWhile isInLine) := by
  cases shape : source.dropWhile isInLine with
  | nil => exact .inl rfl
  | cons letter rest =>
    right
    have more : source.dropWhile isInLine ≠ [] := by
      rw [shape]
      exact List.cons_ne_nil letter rest
    have stops := List.head_dropWhile_not isInLine more
    simp only [shape, List.head_cons, isInLine, decide_eq_false_iff_not,
      not_not] at stops
    exact stops ▸ ⟨rest, rfl⟩

theorem isLineComment_takeWhile
    {source : List Char} (other : ¬ ['/'] <+: source) :
    IsLineComment (';' :: source.takeWhile isInLine) := by
  refine ⟨_, rfl, fun slash => other ?_, not_mem_takeWhile_isInLine source⟩
  exact slash.trans (List.takeWhile_prefix isInLine)

/-- A block comment is cut behind the first sign that closes it. -/
theorem splitAfterClose_first
    {source : List Char} {parts : List Char × List Char}
    (closed : splitAfterClose source = some parts) :
    ∃ body, parts.1 = body ++ ['/', ';'] ∧ ¬ ['/', ';'] <:+: body ++ ['/'] := by
  fun_induction splitAfterClose source generalizing parts with
  | case1 rest =>
    cases closed
    exact ⟨[], rfl, by decide⟩
  | case2 letter rest other ih =>
    obtain ⟨found, inner, rfl⟩ := Option.map_eq_some_iff.1 closed
    obtain ⟨body, shape, first⟩ := ih inner
    refine ⟨letter :: body, congrArg (letter :: ·) shape, fun within => ?_⟩
    rcases List.infix_cons_iff.1 within with starts | later
    · -- a close that starts here would have been found here
      have whole := splitAfterClose_append inner
      obtain ⟨same, starts⟩ := List.cons_prefix_cons.1 starts
      cases body with
      | nil => simp at starts
      | cons next body =>
        have close := (List.cons_prefix_cons.1 starts).1
        rw [shape, ← close] at whole
        exact other _ same.symm whole.symm
    · exact first later
  | case3 => cases closed

theorem isLineComment_trailingComment (source : List Char) :
    trailingComment source = [] ∨ IsLineComment (trailingComment source) := by
  fun_cases trailingComment source with
  | case1 rest => exact .inl rfl
  | case2 rest other =>
    right
    apply isLineComment_takeWhile
    rintro ⟨more, rfl⟩
    exact other more rfl
  | case3 => exact .inl rfl

/-! ## Reading -/

/-- What is cut off as a continuation is one. -/
theorem isContinuation_continuation?
    {rest : List Char} {parts : List Char × List Char}
    (continued : continuation? rest = some parts) :
    IsContinuation ('\\' :: parts.1) parts.2 := by
  have blanks (letter : Char)
      (member : letter ∈ rest.takeWhile isTrailingBlank) :
      isTrailingBlank letter = true :=
    List.mem_takeWhile_imp member
  have comment := isLineComment_trailingComment
    (rest.drop (rest.takeWhile isTrailingBlank).length)
  unfold continuation? at continued
  dsimp only at continued
  split at continued
  · cases continued
    exact ⟨_, _, [], by simp, blanks, comment, .inr ⟨rfl, rfl⟩⟩
  · cases continued
    exact ⟨_, _, ['\n'], by simp, blanks, comment, .inl rfl⟩
  · cases continued

/-- What is read as filler is a whole piece. -/
theorem isWhole_of_read? {source rest : List Char} {piece : Filler}
    (found : read? source = some (piece, rest)) : piece.IsWhole rest := by
  unfold read? at found
  split at found
  · cases found
  · cases found
    trivial
  · obtain ⟨parts, closed, equality⟩ := Option.map_eq_some_iff.1 found
    cases equality
    obtain ⟨body, shape, first⟩ := splitAfterClose_first closed
    exact ⟨body, by simp [shape], first⟩
  · rename_i rest other
    cases found
    refine ⟨isLineComment_takeWhile ?_, endsLine_dropWhile rest⟩
    rintro ⟨more, rfl⟩
    exact other more rfl
  · obtain ⟨parts, continued, equality⟩ := Option.map_eq_some_iff.1 found
    cases equality
    exact isContinuation_continuation? continued
  · split at found
    · rename_i blank
      cases found
      exact blank
    · cases found

theorem areWhole_readWithin (budget source : List Char) :
    AreWhole (readWithin budget source).2 (readWithin budget source).1 := by
  fun_induction readWithin budget source with
  | case1 source => trivial
  | case2 _ budget source nothing => trivial
  | case3 _ budget source piece rest found pieces after inner
      ih =>
    rw [inner] at ih
    have whole := readWithin_append budget rest
    rw [inner] at whole
    refine ⟨?_, ih⟩
    rw [whole]
    exact isWhole_of_read? found

theorem areWhole_readAll (source : List Char) :
    AreWhole (readAll source).2 (readAll source).1 :=
  areWhole_readWithin source source

end Filler

/-! ## Tokens -/

open Lexeme

/-- What the inside of a string literal stands for, if every backslash in it
starts a known escape. -/
def unescape? : List Char → Option (List Char)
  | [] => some []
  | '\\' :: [] => none
  | '\\' :: letter :: rest =>
    (escape? letter).bind fun meant =>
      (unescape? rest).map fun value => meant :: value
  | letter :: rest => (unescape? rest).map fun value => letter :: value

def Kind.Carries (text value : List Char) : Kind → Prop
  | .stringLiteral =>
    ∃ inside, text = ['"'] ++ inside ++ ['"'] ∧ unescape? inside = some value
  | .docComment =>
    ∃ inside, text = ['\x7b'] ++ inside ++ ['\x7d'] ∧ value = Text.trim inside
  | .invalid .unterminatedString => text = ['"'] ++ value
  | .invalid .invalidEscape => text = ['"'] ++ value ++ ['"']
  | .invalid .unterminatedComment => value = [';', '/'] ∧ value <+: text
  | .invalid .unterminatedDocComment => value = ['\x7b'] ∧ value <+: text
  | _ => value = text

def Lexeme.Carries (lexeme : Lexeme) : Prop :=
  lexeme.kind.Carries lexeme.text lexeme.value

namespace Lexeme

variable {source : List Char}

/-! ## Strings -/

/-- Of a literal whose escapes are all known, the value is what they stand
for. -/
theorem unescape?_quoted (closed : (quoted source).closed = true)
    (sound : (quoted source).sound = true) :
    unescape? (quoted source).raw = some (quoted source).value := by
  fun_induction quoted source with
  | case1 => cases closed
  | case2 rest => cases closed
  | case3 rest => rfl
  | case4 => cases closed
  | case5 below => cases closed
  | case6 letter after _ inner meant known ih =>
    simp [unescape?, known, ih closed sound, inner]
  | case7 letter after _ inner unknown ih => cases sound
  | case8 letter rest _ _ other inner ih =>
    rw [unescape?]
    · simp [ih closed sound, inner]
    · exact fun same _ => other same
    · exact fun _ _ same _ => other same

theorem carries_string (inside : List Char) : (string inside).Carries := by
  unfold string
  dsimp only
  split
  · exact rfl
  · rename_i ended
    split
    · rename_i sound
      exact ⟨_, rfl, unescape?_quoted (by simpa using ended) sound⟩
    · exact rfl

/-! ## Comments -/

/-- A documentation comment carries what stands between its braces. -/
theorem carries_docComment (inside : List Char) :
    (docComment inside).Carries := by
  unfold docComment
  dsimp only
  split
  · exact ⟨rfl, _, rfl⟩
  · rename_i close rest ended
    have more : inside.dropWhile isInDoc ≠ [] := by
      rw [ended]
      exact List.cons_ne_nil close rest
    have stops := List.head_dropWhile_not isInDoc more
    simp only [ended, List.head_cons, isInDoc, decide_eq_false_iff_not,
      Decidable.not_not] at stops
    rw [stops]
    exact ⟨_, rfl, rfl⟩

/-! ## Texts that are their own value -/

theorem kind_decimal (source : List Char) :
    (numeral.decimal source).1 ∈
      [Kind.intLiteral, .floatLiteral, .invalid .malformedNumber] := by
  unfold numeral.decimal
  dsimp only
  split
  · simp
  · split <;> simp

theorem kind_numeral (source : List Char) :
    (numeral source).1 ∈
      [Kind.intLiteral, .floatLiteral, .invalid .malformedNumber] := by
  unfold numeral
  split
  · split
    · dsimp only
      split <;> simp
    · exact kind_decimal _
  · exact kind_decimal source

theorem carries_number (source : List Char) : (number source).Carries := by
  have kinds := kind_numeral source
  unfold number Carries
  dsimp only
  split
  · simp only [List.mem_cons, List.not_mem_nil, or_false] at kinds
    rcases kinds with kind | kind | kind <;> rw [kind] <;> exact rfl
  · exact rfl

theorem carries_word (source : List Char) : (word source).Carries := by
  unfold word Carries
  dsimp only
  split <;> exact rfl

theorem carries_sign (source : List Char) : (sign source).Carries := by
  unfold sign
  split <;> exact rfl

/-! ## Reading -/

/-- Every lexeme carries what its kind says of its text. -/
theorem carries_read (visible : Filler.read? source = none) :
    (read source).Carries := by
  fun_cases read source with
  | case1 => exact rfl
  | case2 rest =>
    refine ⟨rfl, ?_⟩
    cases rest with
    | nil => cases visible
    | cons next rest =>
      by_cases slash : next = '/'
      · rw [slash]
        exact ⟨rest, rfl⟩
      · simp [Filler.read?, slash] at visible
  | case3 inside => exact carries_docComment inside
  | case4 inside => exact carries_string inside
  | case5 first rest _ _ _ digit => exact carries_number _
  | case6 first rest _ _ _ _ letter => exact carries_word _
  | case7 first rest _ _ _ _ _ => exact carries_sign _

/-- A lexeme is the end of the text, a number, or of a kind that is neither,
and no line break. -/
theorem read_cases (source : List Char) :
    source = [] ∨
      (∃ first rest, source = first :: rest ∧ Text.isDigit first = true ∧
        read source = number source) ∨
      (read source).kind ∉
        [Kind.endOfText, .newline, .intLiteral, .floatLiteral] := by
  fun_cases read source with
  | case1 => exact .inl rfl
  | case2 rest => simp
  | case3 inside =>
    refine .inr (.inr ?_)
    unfold docComment
    dsimp only
    split <;> simp
  | case4 inside =>
    refine .inr (.inr ?_)
    unfold string
    dsimp only
    split
    · simp
    · split <;> simp
  | case5 first rest _ _ _ digit =>
    exact .inr (.inl ⟨first, rest, rfl, digit, rfl⟩)
  | case6 first rest _ _ _ _ letter =>
    refine .inr (.inr ?_)
    unfold word
    dsimp only
    split <;> simp
  | case7 first rest _ _ _ _ _ =>
    refine .inr (.inr ?_)
    unfold sign
    split <;> simp

theorem kind_number (source : List Char) :
    (number source).kind ∈
      [Kind.intLiteral, .floatLiteral, .invalid .malformedNumber] := by
  unfold number
  dsimp only
  split
  · exact kind_numeral source
  · simp

theorem eq_nil_of_kind_read (ended : (read source).kind = .endOfText) :
    source = [] := by
  rcases read_cases source with
    nothing | ⟨first, rest, _, _, number⟩ | other
  · exact nothing
  · have kinds := kind_number source
    rw [← number, ended] at kinds
    simp at kinds
  · simp [ended] at other

end Lexeme

end PapyrusScript
