import PapyrusScript.Proofs.Lossless

/-!
# Gaps and lexemes of a text

A separator is a character that no word, number or symbol goes on with.  Such a
lexeme is read as if the text ended in front of the next separator.  A string
ends in front of a line feed anyway, and a closed comment at its own end.

Which stretches of a text are lexemes does not depend on its line breaks.  So
the tokens of a text can be found in two passes.  The first cuts the text into
stretches, each of them a lexeme and the filler in front of it; the last one
ends the text.  The second lays the lexemes out in lines, with what is known of
the tokens so far carried from each stretch to the next.
-/

namespace PapyrusScript

section

variable {α : Type} {test : α → Bool} {stop : α}

theorem takeWhile_append_cons
    (stops : test stop = false) (front back : List α) :
    (front ++ stop :: back).takeWhile test = front.takeWhile test := by
  induction front with
  | nil => simp [stops]
  | cons first front ih =>
    by_cases holds : test first = true
    · simp [holds, ih]
    · simp [holds]

theorem dropWhile_append_cons
    (stops : test stop = false) (front back : List α) :
    (front ++ stop :: back).dropWhile test =
      front.dropWhile test ++ stop :: back := by
  induction front with
  | nil => simp [stops]
  | cons first front ih =>
    by_cases holds : test first = true
    · simp [holds, ih]
    · simp [holds]

end

namespace Lexeme

def separates (letter : Char) : Bool :=
  !Text.isNamePart letter &&
    !(['.', '+', '-', '=', '&', '|'].contains letter)

def followedBy (lexeme : Lexeme) (more : List Char) : Lexeme :=
  { lexeme with rest := lexeme.rest ++ more }

theorem isNamePart_of_isHexDigit
    {letter : Char} (digit : Text.isHexDigit letter = true) :
    Text.isNamePart letter = true := by
  simp only [Text.isHexDigit, Bool.or_eq_true, Bool.and_eq_true,
    decide_eq_true_eq] at digit
  simp only [Text.isNamePart, Text.isLetter, Bool.or_eq_true,
    Bool.and_eq_true, decide_eq_true_eq]
  rcases digit with (decimal | ⟨above, below⟩) | ⟨above, below⟩
  · exact .inl (.inr decimal)
  · exact .inl (.inl (.inl ⟨above, Char.le_trans below (by decide)⟩))
  · exact .inl (.inl (.inr ⟨above, Char.le_trans below (by decide)⟩))

theorem isNamePart_of_isDigit
    {letter : Char} (digit : Text.isDigit letter = true) :
    Text.isNamePart letter = true := by
  simp [Text.isNamePart, digit]

/-! ## Words, numbers and symbols -/

section Separators

variable {letter : Char} (apart : separates letter = true)
variable {source : List Char}
include apart

theorem not_isNamePart : Text.isNamePart letter = false := by
  simp only [separates, Bool.and_eq_true, Bool.not_eq_true'] at apart
  exact apart.1

theorem not_isDigit : Text.isDigit letter = false := by
  have outside := not_isNamePart apart
  refine Bool.eq_false_iff.2 fun digit => ?_
  rw [isNamePart_of_isDigit digit] at outside
  cases outside

theorem not_isHexDigit : Text.isHexDigit letter = false := by
  have outside := not_isNamePart apart
  refine Bool.eq_false_iff.2 fun digit => ?_
  rw [isNamePart_of_isHexDigit digit] at outside
  cases outside

theorem ne_of_separates
    {other : Char} (goesOn : separates other = false) : letter ≠ other := by
  rintro rfl
  rw [goesOn] at apart
  cases apart

theorem word_followedBy (source more : List Char) :
    word (source ++ letter :: more) =
      (word source).followedBy (letter :: more) := by
  have stops := not_isNamePart apart
  simp only [word, followedBy, takeWhile_append_cons stops,
    dropWhile_append_cons stops]

theorem fraction_append_cons (source more : List Char) :
    fraction (source ++ letter :: more) = fraction source := by
  cases source with
  | nil =>
    have other : letter ≠ '.' := ne_of_separates apart (by decide)
    simp [fraction, other]
  | cons first source =>
    by_cases point : first = '.'
    · simp [fraction, point, takeWhile_append_cons (not_isDigit apart)]
    · simp [fraction, point]

/-- An exponent ends in front of a separator. -/
theorem exponent_append_cons (source more : List Char) :
    exponent (source ++ letter :: more) = exponent source := by
  cases source with
  | nil =>
    have lower : letter ≠ 'e' := ne_of_separates apart (by decide)
    have upper : letter ≠ 'E' := ne_of_separates apart (by decide)
    simp [exponent, lower, upper]
  | cons mark source =>
    have sign : ((source ++ letter :: more).take 1).filter
          (fun first => first = '+' || first = '-') =
        (source.take 1).filter fun first => first = '+' || first = '-' := by
      cases source with
      | nil =>
        have plus : letter ≠ '+' := ne_of_separates apart (by decide)
        have minus : letter ≠ '-' := ne_of_separates apart (by decide)
        simp [plus, minus]
      | cons first source => simp
    have short : ((source.take 1).filter fun first =>
        first = '+' || first = '-').length ≤ source.length :=
      Nat.le_trans (List.length_filter_le _ _) (List.length_take_le' _ _)
    rw [List.cons_append, exponent, exponent, sign]
    simp only [List.drop_append_of_le_length short,
      takeWhile_append_cons (not_isDigit apart)]

/-- A decimal ends in front of a separator. -/
theorem decimal_append_cons (source more : List Char) :
    numeral.decimal (source ++ letter :: more) = numeral.decimal source := by
  have whole := List.takeWhile_prefix (l := source) Text.isDigit
  have part := fraction_isPrefix
    (source.drop (source.takeWhile Text.isDigit).length)
  have digits : (source.takeWhile Text.isDigit).length ≤ source.length :=
    whole.length_le
  have both : (source.takeWhile Text.isDigit).length +
      (fraction (source.drop
        (source.takeWhile Text.isDigit).length)).length ≤ source.length := by
    have rest := part.length_le
    rw [List.length_drop] at rest
    omega
  simp only [numeral.decimal, takeWhile_append_cons (not_isDigit apart),
    List.drop_append_of_le_length digits, List.drop_append_of_le_length both,
    fraction_append_cons apart, exponent_append_cons apart]

/-- A numeral ends in front of a separator. -/
theorem numeral_append_cons (nonempty : source ≠ []) (more : List Char) :
    numeral (source ++ letter :: more) = numeral source := by
  have decimal := decimal_append_cons apart source more
  cases source with
  | nil => exact absurd rfl nonempty
  | cons first source =>
    by_cases zero : first = '0'
    · subst zero
      cases source with
      | nil =>
        have lower : letter ≠ 'x' := ne_of_separates apart (by decide)
        have upper : letter ≠ 'X' := ne_of_separates apart (by decide)
        simpa [numeral, lower, upper] using decimal
      | cons mark source =>
        by_cases hex : mark = 'x' ∨ mark = 'X'
        · simp [numeral, hex, takeWhile_append_cons (not_isHexDigit apart)]
        · simpa [numeral, hex] using decimal
    · simpa [numeral, zero] using decimal

theorem number_followedBy (nonempty : source ≠ []) (more : List Char) :
    number (source ++ letter :: more) =
      (number source).followedBy (letter :: more) := by
  have stops := not_isNamePart apart
  have short := (numeral_isPrefix source).length_le
  simp only [number, followedBy, numeral_append_cons apart nonempty,
    List.drop_append_of_le_length short, takeWhile_append_cons stops,
    dropWhile_append_cons stops]

theorem isPrefixOf_append_cons
    {word : List Char} (goesOn : ∀ other ∈ word, separates other = false)
    (source more : List Char) :
    word.isPrefixOf (source ++ letter :: more) = word.isPrefixOf source := by
  induction word generalizing source with
  | nil => simp
  | cons first word ih =>
    rw [List.forall_mem_cons] at goesOn
    cases source with
    | nil =>
      have other := ne_of_separates apart goesOn.1
      simp [List.isPrefixOf, other.symm]
    | cons next source =>
      rw [List.cons_append, List.isPrefixOf, List.isPrefixOf, ih goesOn.2]

/-- No symbol is spelled across a separator. -/
theorem spelling_isPrefixOf_append_cons
    (sign : Symbol) (nonempty : source ≠ []) (more : List Char) :
    sign.spelling.toList.isPrefixOf (source ++ letter :: more) =
      sign.spelling.toList.isPrefixOf source := by
  have goesOn : ∀ other ∈ sign.spelling.toList.tail,
      separates other = false := by
    have joined : sign.spelling.toList.tail.any separates = false := by
      cases sign <;> decide
    simpa only [List.any_eq_false, Bool.not_eq_true] using joined
  cases source with
  | nil => exact absurd rfl nonempty
  | cons first source =>
    cases shape : sign.spelling.toList with
    | nil => rfl
    | cons start others =>
      rw [shape, List.tail_cons] at goesOn
      rw [List.cons_append, List.isPrefixOf, List.isPrefixOf,
        isPrefixOf_append_cons apart goesOn]

theorem symbol?_append_cons (nonempty : source ≠ []) (more : List Char) :
    symbol? (source ++ letter :: more) = symbol? source := by
  unfold symbol?
  congr 1
  funext sign
  exact spelling_isPrefixOf_append_cons apart sign nonempty more

theorem sign_followedBy (nonempty : source ≠ []) (more : List Char) :
    sign (source ++ letter :: more) =
      (sign source).followedBy (letter :: more) := by
  unfold sign
  rw [symbol?_append_cons apart nonempty]
  cases found : symbol? source with
  | some symbol =>
    have starts := List.find?_some found
    have short := (List.isPrefixOf_iff_prefix.1 starts).length_le
    simp only [followedBy, List.drop_append_of_le_length short]
  | none =>
    cases source with
    | nil => exact absurd rfl nonempty
    | cons first source => rfl

end Separators

/-! ## Strings and comments -/

/-- A string ends in front of a line feed. -/
theorem quoted_append_lineFeed (source more : List Char) :
    quoted (source ++ '\n' :: more) =
      { quoted source with rest := (quoted source).rest ++ '\n' :: more } := by
  fun_induction quoted source with
  | case1 => rfl
  | case2 rest => rfl
  | case3 rest => rfl
  | case4 => rfl
  | case5 below => rfl
  | case6 letter after _ inner meant known ih =>
    simp [quoted, known, ih, inner]
  | case7 letter after _ inner unknown ih =>
    simp [quoted, unknown, ih, inner]
  | case8 letter rest _ _ _ inner ih =>
    simp [quoted, ih, inner]

theorem string_append_lineFeed (source more : List Char) :
    string (source ++ '\n' :: more) =
      (string source).followedBy ('\n' :: more) := by
  unfold string followedBy
  rw [quoted_append_lineFeed]
  dsimp only
  split
  · rfl
  · split <;> rfl

/-- A documentation comment that is closed does not look behind its end. -/
theorem docComment_append_of_closed
    {inside : List Char} (closed : inside.dropWhile isInDoc ≠ [])
    (more : List Char) :
    docComment (inside ++ more) = (docComment inside).followedBy more := by
  have parts := List.takeWhile_append_dropWhile (p := isInDoc) (l := inside)
  have stops := List.head_dropWhile_not isInDoc closed
  cases shape : inside.dropWhile isInDoc with
  | nil => exact absurd shape closed
  | cons close rest =>
    simp only [shape, List.head_cons] at stops
    rw [shape] at parts
    have whole : inside ++ more =
        inside.takeWhile isInDoc ++ close :: (rest ++ more) := by
      rw [← List.cons_append, ← List.append_assoc, parts]
    have inDoc : ∀ letter ∈ inside.takeWhile isInDoc, isInDoc letter = true :=
      fun _ member => List.mem_takeWhile_imp member
    have taken : (inside ++ more).takeWhile isInDoc =
        inside.takeWhile isInDoc := by
      rw [whole, List.takeWhile_append_of_pos inDoc]
      simp [stops]
    have left : (inside ++ more).dropWhile isInDoc =
        close :: (rest ++ more) := by
      rw [whole, List.dropWhile_append_of_pos inDoc]
      simp [stops]
    simp [docComment, taken, left, shape, followedBy]

/-- A comment that is not closed takes the rest of the text. -/
theorem rest_docComment_of_open
    {inside : List Char} (unclosed : inside.dropWhile isInDoc = []) :
    (docComment inside).rest = [] := by
  simp [docComment, unclosed]

/-! ## Lexemes in front of a line feed -/

theorem read_cons_of_plain
    {first : Char} (plain : first ∉ [';', '\x7b', '"']) (rest : List Char) :
    read (first :: rest) =
      if Text.isDigit first then number (first :: rest)
      else if Text.isNameStart first then word (first :: rest)
      else sign (first :: rest) := by
  simp only [List.mem_cons, List.not_mem_nil, or_false, not_or] at plain
  obtain ⟨comment, brace, quote⟩ := plain
  rw [read]
  · exact comment
  · exact brace
  · exact quote

/-- A lexeme that is neither a string nor a comment ends in front of a
separator. -/
theorem read_followedBy
    {first letter : Char} (plain : first ∉ [';', '\x7b', '"'])
    (apart : separates letter = true) (source more : List Char) :
    read (first :: source ++ letter :: more) =
      (read (first :: source)).followedBy (letter :: more) := by
  have nonempty := List.cons_ne_nil first source
  rw [List.cons_append, read_cons_of_plain plain, read_cons_of_plain plain,
    ← List.cons_append]
  by_cases digit : Text.isDigit first = true
  · rw [if_pos digit, if_pos digit, number_followedBy apart nonempty]
  · rw [if_neg digit, if_neg digit]
    by_cases start : Text.isNameStart first = true
    · rw [if_pos start, if_pos start, word_followedBy apart]
    · rw [if_neg start, if_neg start, sign_followedBy apart nonempty]

/-- A lexeme that leaves a line feed ends in front of it, whatever follows. -/
theorem read_append_lineFeed {source : List Char} (nonempty : source ≠ [])
    (ends : (read (source ++ ['\n'])).rest ≠ []) (more : List Char) :
    read (source ++ '\n' :: more) =
      (read source).followedBy ('\n' :: more) := by
  cases source with
  | nil => exact absurd rfl nonempty
  | cons first source =>
    by_cases comment : first = ';'
    · exact absurd (by rw [comment]; rfl) ends
    · by_cases brace : first = '\x7b'
      · rw [brace] at ends ⊢
        have closed : source.dropWhile isInDoc ≠ [] := by
          intro unclosed
          refine ends (rest_docComment_of_open ?_)
          rw [List.dropWhile_eq_nil_iff] at unclosed ⊢
          intro letter member
          rcases List.mem_append.1 member with inside | feed
          · exact unclosed letter inside
          · obtain rfl := List.mem_singleton.1 feed
            rfl
        exact docComment_append_of_closed closed _
      · by_cases quote : first = '"'
        · rw [quote]
          exact string_append_lineFeed source more
        · exact read_followedBy (by simp [comment, brace, quote])
            (by decide) source more

/-- A lexeme that leaves a text with a line feed at its end is the same when
that text goes on. -/
theorem read_append_of_rest
    {source front : List Char} (left : (read source).rest = front ++ ['\n'])
    (more : List Char) :
    read (source ++ more) = (read source).followedBy more := by
  obtain ⟨body, nonempty, rfl⟩ :
      ∃ body, body ≠ [] ∧ source = body ++ ['\n'] := by
    have parts := read_append source
    have inside : (read source).kind ≠ .endOfText := by
      intro ended
      simp [eq_nil_of_kind_read ended, read] at left
    refine ⟨(read source).text ++ front, ?_, ?_⟩
    · simp [text_ne_nil_of_read inside]
    · rw [List.append_assoc, ← left, parts]
  have ends : (read (body ++ ['\n'])).rest ≠ [] := by simp [left]
  rw [List.append_assoc, List.singleton_append,
    read_append_lineFeed nonempty ends more,
    read_append_lineFeed nonempty ends []]
  simp [followedBy]

theorem kind_read_ne_newline (source : List Char) :
    (read source).kind ≠ .newline := by
  intro breaks
  rcases read_cases source with
    rfl | ⟨first, rest, _, _, number⟩ | other
  · cases breaks
  · have kinds := kind_number source
    rw [← number, breaks] at kinds
    simp at kinds
  · simp [breaks] at other

end Lexeme

/-! ## Gaps and lexemes -/

variable {source : List Char} {stretch : Stretch}

/-- The filler in front of a lexeme, and the lexeme. -/
structure Stretch where
  gap : List Filler
  kind : Kind
  value : List Char
  text : List Char
  deriving DecidableEq, Repr, Inhabited

namespace Stretch

/-- The first stretch of a text. -/
def first (source : List Char) : Stretch :=
  let (gap, visible) := Filler.readAll source
  let lexeme := Lexeme.read visible
  ⟨gap, lexeme.kind, lexeme.value, lexeme.text⟩

/-- All characters of a stretch. -/
def allText (stretch : Stretch) : List Char :=
  Filler.allText stretch.gap ++ stretch.text

/-- The token of a stretch that begins at a place. -/
def token (stretch : Stretch) (start : Position) : Token :=
  ⟨stretch.kind, String.ofList stretch.value,
    Span.covering (start.advance (Filler.allText stretch.gap)) stretch.text⟩

/-- The tokens of a stretch that begins at a place: its lexeme, and in front
of it the line break that the gap amounts to. -/
def tokens (stretch : Stretch) (layout : Layout) (start : Position) :
    List Token :=
  (lineBreak? layout start stretch.gap stretch.kind).toList ++
    [stretch.token start]

@[simp]
theorem kind_token (stretch : Stretch) (start : Position) :
    (stretch.token start).kind = stretch.kind :=
  rfl

theorem stop_token (stretch : Stretch) (start : Position) :
    (stretch.token start).span.stop = start.advance stretch.allText :=
  (Position.advance_append _ _ _).symm

end Stretch

def stretches (source : List Char) : List Stretch :=
  Stretch.first source ::
    if (Stretch.first source).kind = .endOfText then []
    else stretches (textBehind source)
termination_by source.length
decreasing_by
  rename_i inside
  exact length_rest_lt inside

def Stretch.wholeText (found : List Stretch) : List Char :=
  found.flatMap Stretch.allText

def Layout.behind (layout : Layout) (found : List Token) : Layout :=
  found.foldl (fun layout token => layout.after token.kind) layout

def layOut : Layout → Position → List Stretch → List Token
  | _, _, [] => []
  | layout, start, stretch :: rest =>
    let found := stretch.tokens layout start
    found ++ layOut (layout.behind found) (start.advance stretch.allText) rest

/-! ## Cutting a text -/

theorem stretches_of_endOfText
    (ended : (Stretch.first source).kind = .endOfText) :
    stretches source = [Stretch.first source] := by
  rw [stretches, if_pos ended]

theorem stretches_of_ne_endOfText
    (inside : (Stretch.first source).kind ≠ .endOfText) :
    stretches source = Stretch.first source :: stretches (textBehind source) := by
  rw [stretches, if_neg inside]

theorem head_stretches
    {rest : List Stretch} (cut : stretches source = stretch :: rest) :
    stretch = Stretch.first source := by
  rw [stretches, List.cons.injEq] at cut
  exact cut.1.symm

theorem allText_first_append (source : List Char) :
    (Stretch.first source).allText ++ textBehind source = source := by
  have lexeme := Lexeme.read_append (Filler.readAll source).2
  have filler := Filler.readAll_append source
  calc
    (Stretch.first source).allText ++ textBehind source =
        Filler.allText (Filler.readAll source).1 ++
          ((Lexeme.read (Filler.readAll source).2).text ++
            (Lexeme.read (Filler.readAll source).2).rest) :=
      List.append_assoc _ _ _
    _ = source := by rw [lexeme, filler]

/-- Behind some of its stretches a text is cut into the others. -/
theorem exists_remaining {front : List Stretch} {rest : List Stretch}
    (cut : stretches source = front ++ stretch :: rest) :
    ∃ remaining,
      source = Stretch.wholeText front ++ remaining ∧
        stretches remaining = stretch :: rest := by
  induction front generalizing source with
  | nil => exact ⟨source, rfl, cut⟩
  | cons next front ih =>
    have same : next = Stretch.first source := head_stretches cut
    by_cases ended : (Stretch.first source).kind = .endOfText
    · rw [stretches_of_endOfText ended] at cut
      simp at cut
    · rw [stretches_of_ne_endOfText ended, List.cons_append,
        List.cons.injEq] at cut
      obtain ⟨remaining, whole, further⟩ := ih cut.2
      refine ⟨remaining, ?_, further⟩
      rw [Stretch.wholeText, List.flatMap_cons, List.append_assoc, same,
        ← Stretch.wholeText, ← whole, allText_first_append]

/-- The last stretch of a text is its end, and no other is. -/
theorem exists_last_stretch (source : List Char) :
    ∃ front last,
      stretches source = front ++ [last] ∧ last.kind = .endOfText ∧
        ∀ stretch ∈ front, stretch.kind ≠ .endOfText := by
  fun_induction stretches source with
  | case1 source ih =>
    by_cases ended : (Stretch.first source).kind = .endOfText
    · exact ⟨[], Stretch.first source, by simp [ended], ended, by simp⟩
    · obtain ⟨front, last, cut, ends, inside⟩ := ih ended
      refine ⟨Stretch.first source :: front, last, ?_, ends, ?_⟩
      · rw [if_neg ended, cut, List.cons_append]
      · exact List.forall_mem_cons.2 ⟨ended, inside⟩

/-- In front of the end of the text there is filler and nothing else. -/
theorem eq_wholeText_append {init : List Stretch} {last : Stretch}
    (cut : stretches source = init ++ [last]) (ended : last.kind = .endOfText) :
    source = Stretch.wholeText init ++ Filler.allText last.gap := by
  obtain ⟨remaining, whole, further⟩ := exists_remaining cut
  obtain rfl := head_stretches further
  have nothing : (Filler.readAll remaining).2 = [] :=
    Lexeme.eq_nil_of_kind_read ended
  have parts := Filler.readAll_append remaining
  rw [nothing, List.append_nil] at parts
  rw [whole]
  exact congrArg (Stretch.wholeText init ++ ·) parts.symm

theorem kind_ne_newline_of_mem_stretches
    (member : stretch ∈ stretches source) : stretch.kind ≠ .newline := by
  obtain ⟨front, rest, cut⟩ := List.append_of_mem member
  obtain ⟨remaining, _, further⟩ := exists_remaining cut
  rw [head_stretches further]
  exact Lexeme.kind_read_ne_newline _

/-! ## Laying out -/

theorem Layout.behind_append (layout : Layout) (first second : List Token) :
    layout.behind (first ++ second) = (layout.behind first).behind second :=
  List.foldl_append

/-- What is known behind some tokens shows in their kinds. -/
theorem Layout.behind_congr_kind {first second : List Token}
    (same : first.map Token.kind = second.map Token.kind) (layout : Layout) :
    layout.behind first = layout.behind second := by
  have folded (found : List Token) :
      layout.behind found = (found.map Token.kind).foldl Layout.after layout :=
    List.foldl_map.symm
  rw [folded, folded, same]

theorem Layout.behind_tokens
    (layout : Layout) (start : Position) (stretch : Stretch) :
    layout.behind (stretch.tokens layout start) =
      (match lineBreak? layout start stretch.gap stretch.kind with
        | some line => layout.after line.kind
        | none => layout).after stretch.kind := by
  unfold Stretch.tokens
  cases lineBreak? layout start stretch.gap stretch.kind <;> rfl

/-- The tokens of a text are those of its first stretch and those behind. -/
theorem tokensUpTo_stretch
    (count : Nat) (layout : Layout) (start : Position) (source : List Char) :
    tokensUpTo (count + 1) layout start source =
      (Stretch.first source).tokens layout start ++
        if (Stretch.first source).kind = .endOfText then []
        else
          tokensUpTo count
            (layout.behind ((Stretch.first source).tokens layout start))
            (start.advance (Stretch.first source).allText)
            (textBehind source) := by
  rw [tokensUpTo_succ, Layout.behind_tokens, ← Stretch.stop_token,
    Stretch.tokens, List.append_assoc]
  rfl

/-- Both ways of cutting a text give the same tokens. -/
theorem tokensUpTo_eq_layOut
    (count : Nat) (layout : Layout) (start : Position) (source : List Char)
    (enough : source.length < count) :
    tokensUpTo count layout start source =
      layOut layout start (stretches source) := by
  induction count generalizing layout start source with
  | zero => exact absurd enough (Nat.not_lt_zero _)
  | succ count ih =>
    rw [tokensUpTo_stretch]
    by_cases ended : (Stretch.first source).kind = .endOfText
    · rw [if_pos ended, stretches_of_endOfText ended]
      rfl
    · have shorter : (textBehind source).length < count :=
        Nat.lt_of_lt_of_le (length_rest_lt ended)
          (Nat.le_of_lt_succ enough)
      rw [if_neg ended, stretches_of_ne_endOfText ended, ih _ _ _ shorter]
      rfl

/-- The tokens of a script are its stretches, laid out. -/
theorem tokens_eq_layOut (source : String) :
    tokens source = layOut .initial .origin (stretches source.toList) := by
  refine tokensUpTo_eq_layOut _ _ _ _ ?_
  rw [String.length_toList]
  exact Nat.lt_succ_self _

theorem layOut_append
    (layout : Layout) (start : Position) (first second : List Stretch) :
    layOut layout start (first ++ second) =
      layOut layout start first ++
        layOut (layout.behind (layOut layout start first))
          (start.advance (Stretch.wholeText first)) second := by
  induction first generalizing layout start with
  | nil => rfl
  | cons stretch first ih =>
    simp only [List.cons_append, layOut, ih,
      Layout.behind_append, Stretch.wholeText, List.flatMap_cons,
      Position.advance_append, List.append_assoc]

end PapyrusScript
