import PapyrusScript.Proofs.Lossless.Lexeme

/-!
# Filler is read in one way

Whole pieces of filler are read as these pieces, whatever follows them, as long
as they stay whole in front of it.  Only a line feed could be named in two
ways, since it is a blank character too.
-/

namespace PapyrusScript.Filler

variable {source following rest : List Char} {pieces : List Filler}
variable {body : List Char} {text : List Char} {piece : Filler}

@[simp]
theorem allText_nil : allText [] = [] := rfl

@[simp]
theorem allText_cons (piece : Filler) (pieces : List Filler) :
    allText (piece :: pieces) = piece.text ++ allText pieces :=
  rfl

@[simp]
theorem allText_append (first second : List Filler) :
    allText (first ++ second) = allText first ++ allText second :=
  List.flatMap_append

@[simp]
theorem text_lineFeed : lineFeed.text = ['\n'] := rfl

/-! ## Reading piece by piece -/

/-- With room for every piece, it does not matter how much room there is. -/
theorem readWithin_eq_readAll
    (budget source : List Char) (enough : source.length ≤ budget.length) :
    readWithin budget source = readAll source := by
  suffices same : ∀ first second source : List Char,
      source.length ≤ first.length → source.length ≤ second.length →
        readWithin first source = readWithin second source from
    same _ _ _ enough (Nat.le_refl _)
  intro first
  induction first with
  | nil =>
    intro second source room _
    obtain rfl := List.length_eq_zero_iff.1 (Nat.le_zero.1 room)
    cases second <;> rfl
  | cons _ first ih =>
    intro second source room other
    cases second with
    | nil =>
      obtain rfl := List.length_eq_zero_iff.1 (Nat.le_zero.1 other)
      rfl
    | cons _ second =>
      cases found : read? source with
      | none => simp [readWithin, found]
      | some parts =>
        have shorter := length_rest_lt_of_read? found
        simp only [List.length_cons] at room other
        simp only [readWithin, found]
        rw [ih second parts.2 (by omega) (by omega)]

theorem readAll_of_read?_eq_none (visible : read? source = none) :
    readAll source = ([], source) := by
  cases source with
  | nil => rfl
  | cons letter rest => simp [readAll, readWithin, visible]

theorem readAll_of_read?_eq_some (found : read? source = some (piece, rest)) :
    readAll source = (piece :: (readAll rest).1, (readAll rest).2) := by
  have shorter := length_rest_lt_of_read? found
  cases source with
  | nil => cases found
  | cons letter tail =>
    have room := Nat.le_of_lt_succ shorter
    rw [readAll, readWithin, found]
    simp only [readWithin_eq_readAll tail rest room]

theorem readAll_lineFeed (rest : List Char) :
    readAll ('\n' :: rest) =
      (.lineFeed :: (readAll rest).1, (readAll rest).2) := by
  have found : read? ('\n' :: rest) = some (.lineFeed, rest) := rfl
  exact readAll_of_read?_eq_some found

/-! ## Whole pieces -/

/-- A piece the way it is read.  A blank character that is a line feed is read
as one. -/
def asRead : Filler → Filler
  | .blank letter => if letter = '\n' then .lineFeed else .blank letter
  | piece => piece

theorem text_asRead (piece : Filler) : piece.asRead.text = piece.text := by
  cases piece with
  | blank letter =>
    by_cases feed : letter = '\n'
    · simp [asRead, feed, text]
    · simp [asRead, feed]
  | _ => rfl

theorem takeWhile_isInLine_append
    (inLine : '\n' ∉ body) (ends : EndsLine following) :
    (body ++ following).takeWhile isInLine = body ∧
      (body ++ following).dropWhile isInLine = following := by
  have whole : ∀ letter ∈ body, isInLine letter = true := by
    intro letter member
    have other : letter ≠ '\n' := fun same => inLine (same ▸ member)
    simpa [isInLine] using other
  rw [List.takeWhile_append_of_pos whole, List.dropWhile_append_of_pos whole]
  rcases ends with rfl | ⟨below, rfl⟩
  · simp
  · simp [isInLine]

theorem not_slash_of_endsLine
    (other : ¬ ['/'] <+: body) (ends : EndsLine following) (more : List Char) :
    body ++ following ≠ '/' :: more := by
  intro slash
  cases body with
  | nil =>
    rcases ends with rfl | ⟨below, rfl⟩
    · cases slash
    · simp at slash
  | cons letter body =>
    rw [List.cons_append, List.cons.injEq] at slash
    exact other ⟨body, by simp [slash.1]⟩

theorem read?_lineComment
    (comment : IsLineComment text) (ends : EndsLine following) :
    read? (text ++ following) = some (.lineComment text, following) := by
  obtain ⟨body, rfl, other, inLine⟩ := comment
  obtain ⟨taken, left⟩ := takeWhile_isInLine_append inLine ends
  rw [List.cons_append, read?]
  · rw [taken, left]
  · exact not_slash_of_endsLine other ends

/-- A block comment ends at the first sign that closes it. -/
theorem splitAfterClose_of_first
    (first : ¬ ['/', ';'] <:+: body ++ ['/']) (following : List Char) :
    splitAfterClose (body ++ ['/', ';'] ++ following) =
      some (body ++ ['/', ';'], following) := by
  induction body with
  | nil => rfl
  | cons letter body ih =>
    have later : ¬ ['/', ';'] <:+: body ++ ['/'] :=
      fun within => first (List.infix_cons within)
    rw [List.cons_append, List.cons_append, splitAfterClose]
    · rw [ih later]
      rfl
    · rintro more rfl starts
      -- a close at this letter would be earlier than the first one
      cases body with
      | nil => simp at starts
      | cons next body =>
        rw [List.cons_append, List.cons_append, List.cons.injEq] at starts
        exact first ⟨[], body ++ ['/'], by simp [starts.1]⟩

/-- A text is split unless nothing in it closes a comment. -/
theorem splitAfterClose_eq_none_iff (source : List Char) :
    splitAfterClose source = none ↔ ¬ ['/', ';'] <:+: source := by
  fun_induction splitAfterClose source with
  | case1 rest =>
    have starts : ['/', ';'] <+: '/' :: ';' :: rest := ⟨rest, rfl⟩
    exact iff_of_false (Option.some_ne_none _)
      (not_not_intro starts.isInfix)
  | case2 letter rest other ih =>
    have later : ¬ ['/', ';'] <+: letter :: rest := by
      rintro ⟨more, starts⟩
      obtain ⟨rfl, rfl⟩ := List.cons.inj starts
      exact other more rfl rfl
    rw [Option.map_eq_none_iff, ih, List.infix_cons_iff, not_or]
    exact (and_iff_right later).symm
  | case3 => simp

theorem read?_blockComment
    (comment : IsBlockComment text) (following : List Char) :
    read? (text ++ following) = some (.blockComment text, following) := by
  obtain ⟨body, rfl, first⟩ := comment
  have split := splitAfterClose_of_first first following
  simp only [List.append_assoc, List.cons_append, List.nil_append] at split ⊢
  rw [read?, split]
  rfl

/-- A line comment behind a backslash ends with its line. -/
theorem trailingComment_of_isLineComment
    {comment : List Char} (isComment : comment = [] ∨ IsLineComment comment)
    (ends : EndsLine following) :
    trailingComment (comment ++ following) = comment := by
  rcases isComment with rfl | ⟨body, rfl, other, inLine⟩
  · rcases ends with rfl | ⟨below, rfl⟩ <;> rfl
  · rw [List.cons_append, trailingComment]
    · rw [(takeWhile_isInLine_append inLine ends).1]
    · exact not_slash_of_endsLine other ends

/-- A whole continuation is read as one. -/
theorem read?_continuation (continued : IsContinuation text following) :
    read? (text ++ following) = some (.continuation text, following) := by
  obtain ⟨blanks, comment, ending, rfl, blank, isComment, ends⟩ := continued
  have lineEnds : EndsLine (ending ++ following) := by
    rcases ends with rfl | ⟨rfl, rfl⟩
    · exact .inr ⟨following, rfl⟩
    · exact .inl rfl
  have stops : (comment ++ (ending ++ following)).takeWhile isTrailingBlank =
      [] := by
    rcases isComment with rfl | ⟨body, rfl, _⟩
    · rcases ends with rfl | ⟨rfl, rfl⟩ <;> rfl
    · rfl
  have taken : (blanks ++ (comment ++ (ending ++ following))).takeWhile
      isTrailingBlank = blanks := by
    rw [List.takeWhile_append_of_pos blank, stops, List.append_nil]
  have passed :
      continuation? (blanks ++ (comment ++ (ending ++ following))) =
        some (blanks ++ comment ++ ending, following) := by
    simp only [continuation?, taken, List.drop_left,
      trailingComment_of_isLineComment isComment lineEnds]
    rw [← List.append_assoc blanks, List.drop_left]
    rcases ends with rfl | ⟨rfl, rfl⟩
    · rfl
    · simp
  simp only [List.append_assoc, List.cons_append, List.nil_append] at passed ⊢
  rw [read?, passed]
  rfl

/-- A blank character is read as a piece of filler by itself. -/
theorem read?_blank {letter : Char} (blank : Text.isBlank letter = true)
    (following : List Char) :
    read? (letter :: following) =
      some ((Filler.blank letter).asRead, following) := by
  by_cases feed : letter = '\n'
  · simp [feed, asRead, read?]
  · have others : letter ≠ ';' ∧ letter ≠ '\\' := by
      constructor <;>
        (rintro rfl
         revert blank
         decide)
    rw [read?, if_pos blank, asRead, if_neg feed]
    · exact feed
    · exact fun _ same => absurd same others.1
    · exact others.1
    · exact others.2

theorem read?_of_isWhole (whole : piece.IsWhole following) :
    read? (piece.text ++ following) = some (piece.asRead, following) := by
  cases piece with
  | blank letter => exact read?_blank whole following
  | lineFeed => rfl
  | lineComment text => exact read?_lineComment whole.1 whole.2
  | blockComment text => exact read?_blockComment whole following
  | continuation text => exact read?_continuation whole

theorem text_ne_nil_of_isWhole (whole : piece.IsWhole following) :
    piece.text ≠ [] := by
  rw [← text_asRead]
  exact text_ne_nil_of_read? (read?_of_isWhole whole)

/-- Whole pieces are read one by one, and then what follows them. -/
theorem readAll_of_areWhole (whole : AreWhole following pieces) :
    readAll (allText pieces ++ following) =
      (pieces.map asRead ++ (readAll following).1, (readAll following).2) := by
  induction pieces with
  | nil => rfl
  | cons piece pieces ih =>
    obtain ⟨first, others⟩ := whole
    have found := read?_of_isWhole first
    rw [allText_cons, List.append_assoc, readAll_of_read?_eq_some found,
      ih others]
    rfl

/-! ## Pieces as they are read -/

/-- Everything that has been read is named as it is read. -/
theorem map_asRead_readAll (source : List Char) :
    (readAll source).1.map asRead = (readAll source).1 := by
  have again := readAll_of_areWhole (areWhole_readAll source)
  have nothing := readAll_of_read?_eq_none (read?_readAll source)
  rw [readAll_append, nothing, List.append_nil] at again
  exact (congrArg Prod.fst again).symm

/-- A semicolon that starts no filler opens a block comment that is never
closed. -/
theorem exists_unclosed (visible : read? (';' :: rest) = none) :
    ∃ body, rest = '/' :: body ∧ splitAfterClose body = none := by
  by_cases opens : ∃ body, rest = '/' :: body
  · obtain ⟨body, rfl⟩ := opens
    rw [read?, Option.map_eq_none_iff] at visible
    exact ⟨body, rfl, visible⟩
  · rw [read?] at visible
    · cases visible
    · rintro body rfl
      exact opens ⟨body, rfl⟩

/-! ## What follows -/

/-- Whole pieces stay whole if more text follows what is behind them. -/
theorem AreWhole.append
    (whole : AreWhole following pieces) (more : following ≠ [])
    (further : List Char) : AreWhole (following ++ further) pieces := by
  induction pieces with
  | nil => trivial
  | cons piece pieces ih =>
    obtain ⟨first, others⟩ := whole
    refine ⟨?_, ih others⟩
    rw [← List.append_assoc]
    have inside : allText pieces ++ following ≠ [] := by simp [more]
    cases piece with
    | blank letter => exact first
    | lineFeed => trivial
    | lineComment text =>
      obtain ⟨comment, ends⟩ := first
      rcases ends with nothing | feed
      · exact absurd nothing inside
      · exact ⟨comment, .inr (feed.trans (List.prefix_append _ _))⟩
    | blockComment text => exact first
    | continuation text =>
      obtain ⟨blanks, comment, ending, shape, blank, isComment, ends⟩ := first
      rcases ends with feed | ⟨_, nothing⟩
      · exact ⟨blanks, comment, ending, shape, blank, isComment, .inl feed⟩
      · exact absurd nothing inside

/-- A backslash in front of blanks and another character continues no line if
and only if that character neither ends the line nor starts a line comment. -/
theorem continuation?_eq_none_iff {blanks : List Char} {letter : Char}
    (blank : ∀ other ∈ blanks, isTrailingBlank other = true)
    (stops : isTrailingBlank letter = false) (rest : List Char) :
    continuation? (blanks ++ letter :: rest) = none ↔
      letter ≠ '\n' ∧ (letter = ';' → ['/'] <+: rest) := by
  have taken : (blanks ++ letter :: rest).takeWhile isTrailingBlank =
      blanks := by
    rw [List.takeWhile_append_of_pos blank]
    simp [stops]
  have left : (blanks ++ letter :: rest).drop
      (blanks ++ trailingComment (letter :: rest)).length =
        (letter :: rest).drop (trailingComment (letter :: rest)).length := by
    rw [List.length_append, ← List.drop_drop, List.drop_left]
  simp only [continuation?, taken, List.drop_left, left]
  by_cases semicolon : letter = ';'
  · subst semicolon
    by_cases slash : ['/'] <+: rest
    · obtain ⟨more, rfl⟩ := slash
      simp [trailingComment]
    · have comment : trailingComment (';' :: rest) =
          ';' :: rest.takeWhile isInLine := by
        rw [trailingComment]
        rintro more rfl
        exact slash ⟨more, rfl⟩
      have ends := endsLine_dropWhile rest
      have left : rest.drop (rest.takeWhile isInLine).length =
          rest.dropWhile isInLine := by
        have whole := @List.drop_left _
          (rest.takeWhile isInLine) (rest.dropWhile isInLine)
        rwa [List.takeWhile_append_dropWhile] at whole
      rw [comment, List.length_cons, List.drop_succ_cons, left]
      rcases ends with nothing | ⟨below, feed⟩
      · simp [nothing, slash]
      · rw [← feed]
        simp [slash]
  · have comment : trailingComment (letter :: rest) = [] := by
      simp [trailingComment, semicolon]
    rw [comment]
    by_cases feed : letter = '\n'
    · simp [feed]
    · simp [feed, semicolon]

/-- What is no continuation has a character behind its blanks. -/
theorem exists_of_continuation?_eq_none
    (nothing : continuation? source = none) :
    ∃ blanks letter rest,
      source = blanks ++ letter :: rest ∧
        (∀ other ∈ blanks, isTrailingBlank other = true) ∧
        isTrailingBlank letter = false ∧
        letter ≠ '\n' ∧ (letter = ';' → ['/'] <+: rest) := by
  have parts := List.takeWhile_append_dropWhile
    (p := isTrailingBlank) (l := source)
  have blank : ∀ letter ∈ source.takeWhile isTrailingBlank,
      isTrailingBlank letter = true :=
    fun _ member => List.mem_takeWhile_imp member
  cases shape : source.dropWhile isTrailingBlank with
  | nil =>
    -- blanks alone go on to the end of the text
    have taken : source.takeWhile isTrailingBlank = source := by
      simpa [shape] using parts
    simp [continuation?, taken, trailingComment] at nothing
  | cons letter rest =>
    have stops : isTrailingBlank letter = false := by
      have more : source.dropWhile isTrailingBlank ≠ [] := by simp [shape]
      simpa [shape] using List.head_dropWhile_not isTrailingBlank more
    rw [shape] at parts
    rw [← parts] at nothing
    obtain ⟨inLine, comment⟩ :=
      (continuation?_eq_none_iff blank stops rest).1 nothing
    exact ⟨_, letter, rest, parts.symm, blank, stops, inLine, comment⟩

/-- A backslash that continues no line does not do so when the text goes
on. -/
theorem continuation?_append_eq_none
    (nothing : continuation? source = none) (further : List Char) :
    continuation? (source ++ further) = none := by
  obtain ⟨blanks, letter, rest, rfl, blank, stops, inLine, comment⟩ :=
    exists_of_continuation?_eq_none nothing
  rw [List.append_assoc, List.cons_append]
  refine (continuation?_eq_none_iff blank stops _).2 ⟨inLine, ?_⟩
  exact fun semicolon =>
    (comment semicolon).trans (List.prefix_append _ _)

/-- What starts with no filler and no comment does not do so when the text
goes on. -/
theorem read?_append_eq_none
    {first : Char} (visible : read? (first :: rest) = none)
    (other : first ≠ ';') (further : List Char) :
    read? (first :: rest ++ further) = none := by
  by_cases backslash : first = '\\'
  · rw [backslash, read?, Option.map_eq_none_iff] at visible
    rw [backslash, List.cons_append, read?,
      continuation?_append_eq_none visible, Option.map_none]
  · by_cases feed : first = '\n'
    · rw [feed] at visible
      cases visible
    · have solid (rest : List Char) :
          read? (first :: rest) =
            if Text.isBlank first then some (.blank first, rest)
            else none := by
        rw [read?]
        · exact feed
        · exact fun _ same => absurd same other
        · exact other
        · exact backslash
      rw [solid] at visible
      rw [List.cons_append, solid]
      by_cases blank : Text.isBlank first = true
      · rw [if_pos blank] at visible
        cases visible
      · rw [if_neg blank]

/-- Filler ends in front of what is neither filler nor a comment, also when the
text goes on. -/
theorem readAll_append_of_visible
    {first : Char} (visible : (readAll source).2 = first :: rest)
    (other : first ≠ ';') (further : List Char) :
    readAll (source ++ further) =
      ((readAll source).1, (readAll source).2 ++ further) := by
  have whole := areWhole_readAll source
  have parts := readAll_append source
  have stops := read?_readAll source
  rw [visible] at whole parts stops
  have again := readAll_of_areWhole (whole.append (by simp) further)
  have nothing :=
    readAll_of_read?_eq_none (read?_append_eq_none stops other further)
  rw [← List.append_assoc, parts, map_asRead_readAll, nothing,
    List.append_nil] at again
  rw [again, visible]

/-- Filler up to a line feed that is part of it stays the same when the text
goes on. -/
theorem readAll_append_of_lineFeed {front : List Filler}
    (shape : readAll source = (front ++ [.lineFeed], []))
    (further : List Char) :
    readAll (source ++ further) =
      (front ++ .lineFeed :: (readAll further).1, (readAll further).2) := by
  have whole := areWhole_readAll source
  have parts := readAll_append source
  have named := map_asRead_readAll source
  simp only [shape, List.map_append, List.append_nil] at whole parts named
  obtain ⟨ahead, _⟩ := (areWhole_append _ _ _).1 whole
  have feeds : AreWhole ('\n' :: further) front := by
    simpa using ahead.append (by simp) further
  have text : source ++ further = allText front ++ '\n' :: further := by
    rw [← parts]
    simp
  rw [text, readAll_of_areWhole feeds, readAll_lineFeed,
    List.append_inj_left' named rfl]

end PapyrusScript.Filler
