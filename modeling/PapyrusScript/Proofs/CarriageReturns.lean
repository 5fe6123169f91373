import PapyrusScript.Proofs.Insertion.Lexeme
import PapyrusScript.Proofs.LineEnds.Script
import PapyrusScript.Proofs.LineEnds.Stretches
import PapyrusScript.Proofs.StringLiterals

/-!
# Lines that end with a carriage return and a line feed

Some editors end a line with two characters.  The carriage return is filler
in front of the line feed: a blank character, the end of a line comment, or
part of a longer piece.  Two lexemes take it in.  A documentation comment keeps
it between its lines, and a string that is never closed takes the one at the
end of its line, so what is left of the text then starts with the line feed
alone.
-/

namespace PapyrusScript

namespace Text

def withReturns (text : List Char) : List Char :=
  text.flatMap fun letter => if letter = '\n' then ['\r', '\n'] else [letter]

def withoutReturns (text : List Char) : List Char :=
  text.filter fun letter => letter ≠ '\r'

variable {text : List Char}

@[simp]
theorem withReturns_nil : withReturns [] = [] := rfl

@[simp]
theorem withReturns_lineFeed (rest : List Char) :
    withReturns ('\n' :: rest) = '\r' :: '\n' :: withReturns rest :=
  rfl

@[simp]
theorem withReturns_cons
    {letter : Char} (inLine : letter ≠ '\n') (rest : List Char) :
    withReturns (letter :: rest) = letter :: withReturns rest := by
  simp [withReturns, inLine]

@[simp]
theorem withReturns_append (front back : List Char) :
    withReturns (front ++ back) = withReturns front ++ withReturns back :=
  List.flatMap_append

theorem withReturns_of_notMem (inLine : '\n' ∉ text) :
    withReturns text = text := by
  induction text with
  | nil => rfl
  | cons letter rest ih =>
    rw [List.mem_cons, not_or] at inLine
    rw [withReturns_cons (Ne.symm inLine.1), ih inLine.2]

/-- With carriage returns a text starts with the same character, unless that
ends a line. -/
theorem starts_withReturns_iff
    {letter : Char} (feed : letter ≠ '\n') (other : letter ≠ '\r')
    (text : List Char) : [letter] <+: withReturns text ↔ [letter] <+: text := by
  cases text with
  | nil => rfl
  | cons first rest =>
    by_cases same : first = '\n'
    · simp [same, List.cons_prefix_cons, feed, other]
    · simp [same, List.cons_prefix_cons]

@[simp]
theorem withoutReturns_return (rest : List Char) :
    withoutReturns ('\r' :: rest) = withoutReturns rest :=
  rfl

@[simp]
theorem withoutReturns_cons
    {letter : Char} (other : letter ≠ '\r') (rest : List Char) :
    withoutReturns (letter :: rest) = letter :: withoutReturns rest := by
  simp [withoutReturns, other]

/-- The carriage returns that have been put in can be taken out again. -/
theorem withoutReturns_withReturns (clean : '\r' ∉ text) :
    withoutReturns (withReturns text) = text := by
  induction text with
  | nil => rfl
  | cons letter rest ih =>
    rw [List.mem_cons, not_or] at clean
    have again := ih clean.2
    by_cases feed : letter = '\n'
    · simp [feed, again]
    · simp [feed, again, Ne.symm clean.1]

theorem withoutReturns_dropWhile (text : List Char) :
    withoutReturns (text.dropWhile isBlank) =
      (withoutReturns text).dropWhile isBlank := by
  have blank : isBlank '\r' = true := by decide
  induction text with
  | nil => rfl
  | cons letter rest ih =>
    by_cases same : letter = '\r'
    · simp [same, blank, ih]
    · by_cases filler : isBlank letter = true
      · simp [same, filler, ih]
      · simp [same, filler]

/-- A carriage return is a blank, so trimming a text and taking its carriage
returns out can be done in either order. -/
theorem withoutReturns_trim (text : List Char) :
    withoutReturns (trim text) = trim (withoutReturns text) := by
  have reversed (text : List Char) :
      withoutReturns text.reverse = (withoutReturns text).reverse :=
    List.filter_reverse
  simp only [trim, reversed, withoutReturns_dropWhile]

end Text

/-- A carriage return in front of a line feed moves nothing behind them. -/
theorem Position.advance_withReturns (start : Position) (text : List Char) :
    start.advance (Text.withReturns text) = start.advance text := by
  induction text generalizing start with
  | nil => rfl
  | cons letter rest ih =>
    by_cases feed : letter = '\n'
    · simp [feed, step, ih]
    · simp [feed, ih]

namespace Filler

variable {source following : List Char} {pieces : List Filler}
variable {text : List Char}

/-! ## Gaps -/

/-- A gap with a carriage return in front of every line feed.  At the end of a
line comment it belongs to the comment. -/
def withReturns : List Filler → List Filler
  | [] => []
  | .lineFeed :: rest => .blank '\r' :: .lineFeed :: withReturns rest
  | .lineComment text :: .lineFeed :: rest =>
    .lineComment (text ++ ['\r']) :: .lineFeed :: withReturns rest
  | .blockComment text :: rest =>
    .blockComment (Text.withReturns text) :: withReturns rest
  | .continuation text :: rest =>
    .continuation (Text.withReturns text) :: withReturns rest
  | piece :: rest => piece :: withReturns rest

theorem lineFeed_mem_withReturns (pieces : List Filler) :
    .lineFeed ∈ withReturns pieces ↔ .lineFeed ∈ pieces := by
  fun_induction withReturns pieces with
  | case6 piece rest _ _ _ _ ih =>
    simp [ih]
  | _ => simp_all

theorem map_asRead_withReturns (named : pieces.map asRead = pieces) :
    (withReturns pieces).map asRead = withReturns pieces := by
  fun_induction withReturns pieces with
  | case6 piece rest _ _ _ _ ih =>
    obtain ⟨name, others⟩ := List.cons.inj named
    simp [ih others, name]
  | _ => simp_all [asRead]

theorem IsLineComment.inLine (comment : IsLineComment text) : '\n' ∉ text := by
  obtain ⟨body, rfl, _, inLine⟩ := comment
  simpa using inLine

/-- Filler with returns in it is the filler of the text with returns. -/
theorem allText_withReturns
    (whole : AreWhole following pieces) (named : pieces.map asRead = pieces) :
    allText (withReturns pieces) = Text.withReturns (allText pieces) := by
  fun_induction withReturns pieces with
  | case1 => rfl
  | case3 text rest ih =>
    have below := (List.cons.inj (List.cons.inj named).2).2
    have same := ih whole.2.2 below
    have inLine := Text.withReturns_of_notMem whole.1.1.inLine
    simp [same, inLine, Filler.text]
  | case6 piece rest feed _ block continued ih =>
    obtain ⟨name, others⟩ := List.cons.inj named
    have same := ih whole.2 others
    have inLine : '\n' ∉ piece.text := by
      cases piece with
      | blank letter =>
        rintro member
        obtain rfl := List.mem_singleton.1 member
        cases name
      | lineFeed => exact (feed rfl).elim
      | lineComment text => exact whole.1.1.inLine
      | blockComment text => exact (block text rfl).elim
      | continuation text => exact (continued text rfl).elim
    simp [same, Text.withReturns_of_notMem inLine]
  | _ =>
    rename_i ih
    have others := (List.cons.inj named).2
    simp [ih whole.2 others, Filler.text]

/-- What ends a line in front of a lexeme is a line feed, or else the text
ends. -/
theorem AreWhole.cases_of_endsLine
    (whole : AreWhole following pieces) (named : pieces.map asRead = pieces)
    (visible : ¬ ['\n'] <+: following)
    (ends : EndsLine (allText pieces ++ following)) :
    (∃ rest, pieces = .lineFeed :: rest) ∨ pieces = [] ∧ following = [] := by
  cases pieces with
  | nil => exact .inr ⟨rfl, ends.resolve_right visible⟩
  | cons piece rest =>
    have name := (List.cons.inj named).1
    have some := text_ne_nil_of_isWhole whole.1
    have starts : ['\n'] <+: piece.text ++ (allText rest ++ following) := by
      rw [← List.append_assoc]
      exact ends.resolve_left (by simp [some])
    obtain ⟨more, starts⟩ := starts
    cases piece with
    | blank letter =>
      obtain rfl := (List.cons.inj starts).1
      cases name
    | lineFeed => exact .inl ⟨rest, rfl⟩
    | lineComment text =>
      obtain ⟨⟨body, rfl, _⟩, _⟩ := whole.1
      cases starts
    | blockComment text =>
      obtain ⟨body, rfl, _⟩ := whole.1
      cases starts
    | continuation text =>
      obtain ⟨blanks, comment, ending, rfl, _⟩ := whole.1
      cases starts

theorem IsLineComment.append_return (comment : IsLineComment text) :
    IsLineComment (text ++ ['\r']) := by
  obtain ⟨body, rfl, other, inLine⟩ := comment
  refine ⟨body ++ ['\r'], rfl, ?_, by simpa using inLine⟩
  intro slash
  cases body with
  | nil => simp at slash
  | cons letter body =>
    exact other ((List.cons_prefix_cons.1 slash).1 ▸ ⟨body, rfl⟩)

/-- A comment is not closed by returns in it. -/
theorem closes_of_withReturns (closes : ['/', ';'] <:+: Text.withReturns text) :
    ['/', ';'] <:+: text := by
  induction text with
  | nil => exact closes
  | cons letter rest ih =>
    by_cases feed : letter = '\n'
    · subst feed
      have later : ['/', ';'] <:+: Text.withReturns rest := by
        simpa [List.infix_cons_iff, List.cons_prefix_cons] using closes
      exact List.infix_cons (ih later)
    · rw [Text.withReturns_cons feed] at closes
      rcases List.infix_cons_iff.1 closes with starts | later
      · obtain ⟨slash, close⟩ := List.cons_prefix_cons.1 starts
        have close := (Text.starts_withReturns_iff (by decide) (by decide)
          rest).1 close
        exact (List.cons_prefix_cons.2 ⟨slash, close⟩).isInfix
      · exact List.infix_cons (ih later)

theorem IsBlockComment.withReturns (comment : IsBlockComment text) :
    IsBlockComment (Text.withReturns text) := by
  obtain ⟨body, rfl, first⟩ := comment
  refine ⟨Text.withReturns body, by simp, fun closes => first ?_⟩
  exact closes_of_withReturns (by simpa using closes)

theorem withReturns_blanks {blanks : List Char}
    (blank : ∀ letter ∈ blanks, isTrailingBlank letter = true) :
    Text.withReturns blanks = blanks := by
  refine Text.withReturns_of_notMem fun member => ?_
  cases blank _ member

/-- A continuation is still one if its line ends with a return. -/
theorem IsContinuation.withReturns (continued : IsContinuation text following) :
    IsContinuation (Text.withReturns text) (Text.withReturns following) := by
  obtain ⟨blanks, comment, ending, rfl, blank, isComment, ends⟩ := continued
  have blanksSame := withReturns_blanks blank
  have commentSame : Text.withReturns comment = comment := by
    rcases isComment with rfl | isComment
    · rfl
    · exact Text.withReturns_of_notMem isComment.inLine
  rcases ends with rfl | ⟨rfl, rfl⟩
  · rcases isComment with rfl | isComment
    · -- without a comment the carriage return is a blank behind the others
      refine ⟨blanks ++ ['\r'], [], ['\n'], by simp [blanksSame], ?_, .inl rfl,
        .inl rfl⟩
      simpa [or_imp, forall_and] using ⟨blank, by decide⟩
    · exact ⟨blanks, comment ++ ['\r'], ['\n'],
        by simp [blanksSame, commentSame], blank, .inr isComment.append_return,
        .inl rfl⟩
  · exact ⟨blanks, comment, [], by simp [blanksSame, commentSame], blank,
      isComment, .inr ⟨rfl, rfl⟩⟩

/-- Whole pieces of filler are whole when their lines end with returns. -/
theorem AreWhole.withReturns
    (whole : AreWhole following pieces) (named : pieces.map asRead = pieces)
    (visible : ¬ ['\n'] <+: following) :
    AreWhole (Text.withReturns following) (Filler.withReturns pieces) := by
  fun_induction Filler.withReturns pieces with
  | case1 => trivial
  | case2 rest ih =>
    have others := (List.cons.inj named).2
    have blank : Text.isBlank '\r' = true := by decide
    exact ⟨blank, trivial, ih whole.2 others⟩
  | case3 text rest ih =>
    have below := (List.cons.inj (List.cons.inj named).2).2
    have comment := whole.1.1.append_return
    exact ⟨⟨comment, .inr ⟨_, rfl⟩⟩, trivial, ih whole.2.2 below⟩
  | case4 text rest ih =>
    have others := (List.cons.inj named).2
    exact ⟨IsBlockComment.withReturns whole.1, ih whole.2 others⟩
  | case5 text rest ih =>
    have others := (List.cons.inj named).2
    refine ⟨?_, ih whole.2 others⟩
    rw [allText_withReturns whole.2 others, ← Text.withReturns_append]
    exact IsContinuation.withReturns whole.1
  | case6 piece rest feed broken block continued ih =>
    have others := (List.cons.inj named).2
    refine ⟨?_, ih whole.2 others⟩
    cases piece with
    | blank letter => exact whole.1
    | lineFeed => exact (feed rfl).elim
    | lineComment text =>
      rcases whole.2.cases_of_endsLine others visible whole.1.2 with
        ⟨below, rfl⟩ | ⟨rfl, rfl⟩
      · exact (broken text below rfl rfl).elim
      · exact ⟨whole.1.1, .inl rfl⟩
    | blockComment text => exact (block text rfl).elim
    | continuation text => exact (continued text rfl).elim

/-- What starts with no filler does not do so with carriage returns. -/
theorem read?_withReturns (visible : read? source = none) :
    read? (Text.withReturns source) = none := by
  cases source with
  | nil => rfl
  | cons first rest =>
    have feed : first ≠ '\n' := by
      rintro rfl
      cases visible
    rw [Text.withReturns_cons feed]
    by_cases comment : first = ';'
    · subst comment
      obtain ⟨body, rfl, unclosed⟩ := exists_unclosed visible
      rw [splitAfterClose_eq_none_iff] at unclosed
      have still := (splitAfterClose_eq_none_iff _).2
        (mt closes_of_withReturns unclosed)
      rw [Text.withReturns_cons (by decide), read?, still, Option.map_none]
    · by_cases backslash : first = '\\'
      · subst backslash
        rw [read?, Option.map_eq_none_iff] at visible ⊢
        obtain ⟨blanks, letter, rest, rfl, blank, stops, inLine, comment⟩ :=
          exists_of_continuation?_eq_none visible
        rw [Text.withReturns_append, withReturns_blanks blank,
          Text.withReturns_cons inLine]
        refine (continuation?_eq_none_iff blank stops _).2 ⟨inLine, ?_⟩
        exact fun semicolon => (Text.starts_withReturns_iff (by decide)
          (by decide) rest).2 (comment semicolon)
      · simpa [read?, feed, comment, backslash] using visible

/-- The gap in front of a lexeme is the one with carriage returns. -/
theorem readAll_withReturns (source : List Char) :
    readAll (Text.withReturns source) =
      (withReturns (readAll source).1,
        Text.withReturns (readAll source).2) := by
  have visible := read?_readAll source
  have named := map_asRead_readAll source
  have whole := areWhole_readAll source
  have parts := readAll_append source
  have inLine : ¬ ['\n'] <+: (readAll source).2 := by
    rintro ⟨more, starts⟩
    rw [← starts] at visible
    cases visible
  have again := readAll_of_visible (whole.withReturns named inLine)
    (map_asRead_withReturns named) (read?_withReturns visible)
  rwa [allText_withReturns whole named, ← Text.withReturns_append, parts]
    at again

end Filler

namespace Lexeme

variable {inside : List Char}

/-! ## Lexemes -/

/-- Behind a lexeme and its counterpart both texts go on.  The counterpart may
have taken the carriage return at the end of its line. -/
def GoesOn (lexeme twin : Lexeme) : Prop :=
  twin.text = Text.withReturns lexeme.text ∧
      twin.rest = Text.withReturns lexeme.rest ∨
    twin.text = lexeme.text ++ ['\r'] ∧
      ∃ below, lexeme.rest = '\n' :: below ∧
        twin.rest = '\n' :: Text.withReturns below

/-- What becomes of a lexeme when the lines of a text end with carriage
returns.  Only an invalid one takes part of the end of its line. -/
structure Returned (lexeme twin : Lexeme) : Prop where
  kind : twin.kind = lexeme.kind
  value : lexeme.kind.isFixed = true → twin.value = lexeme.value
  doc : lexeme.kind = .docComment →
    Text.withoutReturns twin.value = lexeme.value
  text : lexeme.kind.isInvalid = false →
    twin.text = Text.withReturns lexeme.text
  goesOn : GoesOn lexeme twin

theorem Returned.of_inLine {lexeme : Lexeme} (inLine : '\n' ∉ lexeme.text)
    (other : lexeme.kind ≠ .docComment) :
    Returned lexeme
      { lexeme with rest := Text.withReturns lexeme.rest } :=
  have same := (Text.withReturns_of_notMem inLine).symm
  ⟨rfl, fun _ => rfl, fun documented => absurd documented other,
    fun _ => same, .inl ⟨same, rfl⟩⟩

/-- An invalid lexeme may keep the return at its end. -/
theorem Returned.of_isInvalid
    {lexeme twin : Lexeme} (same : twin.kind = lexeme.kind)
    (invalid : lexeme.kind.isInvalid = true) (goesOn : GoesOn lexeme twin) :
    Returned lexeme twin where
  kind := same
  value fixed := by
    rw [Kind.isInvalid_of_isFixed fixed] at invalid
    cases invalid
  doc documented := by
    rw [documented] at invalid
    cases invalid
  text valid := by
    rw [valid] at invalid
    cases invalid
  goesOn := goesOn

theorem kind_read_ne_docComment {first : Char} {rest : List Char}
    (visible : Filler.read? (first :: rest) = none) (other : first ≠ '\x7b') :
    (read (first :: rest)).kind ≠ .docComment := by
  intro documented
  have carries := carries_read visible
  have parts := read_append (first :: rest)
  rw [Carries, documented] at carries
  obtain ⟨inside, text, _⟩ := carries
  rw [text] at parts
  exact other (List.cons.inj parts).1.symm

/-- A word, number or symbol ends in front of the carriage return of its
line. -/
theorem read_withReturns_of_plain
    {first : Char} {rest : List Char} (plain : first ∉ [';', '\x7b', '"'])
    (feed : first ≠ '\n') :
    '\n' ∉ (read (first :: rest)).text ∧
      read (Text.withReturns (first :: rest)) =
        { read (first :: rest) with
          rest := Text.withReturns (read (first :: rest)).rest } := by
  have inLine {front : List Char} (inside : '\n' ∉ front) :
      '\n' ∉ (read (first :: front)).text ∧
        '\n' ∉ (read (first :: front)).rest := by
    rw [← not_or, ← List.mem_append, read_append, List.mem_cons, not_or]
    exact ⟨Ne.symm feed, inside⟩
  rw [Text.withReturns_cons feed]
  by_cases broken : '\n' ∈ rest
  · obtain ⟨front, below, rfl, inside⟩ := List.eq_append_cons_of_mem broken
    obtain ⟨text, left⟩ := inLine inside
    have here := read_followedBy plain
      (show separates '\n' = true by decide) front below
    have there := read_followedBy plain
      (show separates '\r' = true by decide) front
      ('\n' :: Text.withReturns below)
    rw [List.cons_append] at here there
    rw [Text.withReturns_append, Text.withReturns_of_notMem inside,
      Text.withReturns_lineFeed, here, there]
    refine ⟨text, ?_⟩
    simp [followedBy, Text.withReturns_of_notMem left]
  · obtain ⟨text, left⟩ := inLine broken
    rw [Text.withReturns_of_notMem broken, Text.withReturns_of_notMem left]
    exact ⟨text, rfl⟩

/-! ## Strings -/

theorem lineFeed_notMem_raw (inside : List Char) :
    '\n' ∉ (quoted inside).raw := by
  fun_induction quoted inside with
  | case6 letter after other inner meant known ih =>
    simpa [Ne.symm other] using ih
  | case7 letter after other inner unknown ih =>
    simpa [Ne.symm other] using ih
  | case8 letter rest feed quote backslash inner ih =>
    simpa [Ne.symm feed] using ih
  | _ => simp

/-- A string that is left open takes a carriage return in front of the line
feed. -/
theorem quoted_of_open_return
    (unclosed : (quoted inside).closed = false) (more : List Char) :
    let twin := quoted ((quoted inside).raw ++ '\r' :: '\n' :: more)
    twin.closed = false ∧ twin.raw = (quoted inside).raw ++ ['\r'] ∧
      twin.rest = '\n' :: more := by
  fun_induction quoted inside with
  | case1 => simp [quoted]
  | case2 rest => simp [quoted]
  | case3 rest => cases unclosed
  | case4 => simp [quoted, escape?]
  | case5 below => simp [quoted, escape?]
  | case6 letter after other inner meant known ih =>
    have further := ih unclosed
    simp [quoted, known, further, inner]
  | case7 letter after other inner unknown ih =>
    have further := ih unclosed
    simp [quoted, unknown, further, inner]
  | case8 letter rest feed quote backslash inner ih =>
    have further := ih unclosed
    simp [quoted, further, inner]

/-- A string that ends within the text, or with it, stays as it is. -/
theorem returned_string_of_inLine (same : quoted (Text.withReturns inside) =
      { quoted inside with rest := Text.withReturns (quoted inside).rest }) :
    Returned (string inside) (string (Text.withReturns inside)) := by
  have raw := lineFeed_notMem_raw inside
  have twin : string (Text.withReturns inside) =
      { string inside with rest := Text.withReturns (string inside).rest } := by
    unfold string
    rw [same]
    dsimp only
    split
    · rfl
    · split <;> rfl
  rw [twin]
  unfold string
  dsimp only
  split
  · exact .of_inLine (by simp [raw]) (by simp)
  · split
    · exact .of_inLine (by simp [raw]) (by simp)
    · exact .of_inLine (by simp [raw]) (by simp)

/-- A string is the same, or takes the return of the line that ends it. -/
theorem returned_string (inside : List Char) :
    Returned (string inside) (string (Text.withReturns inside)) := by
  have parts := quoted_append inside
  have raw := Text.withReturns_of_notMem (lineFeed_notMem_raw inside)
  cases closed : (quoted inside).closed with
  | true =>
    have again := quoted_of_closed closed
      (Text.withReturns (quoted inside).rest)
    refine returned_string_of_inLine ?_
    rw [closed, if_pos rfl] at parts
    conv => lhs; rw [← parts]
    simpa [raw] using again
  | false =>
    rw [closed, if_neg (by decide), List.append_nil] at parts
    rcases endsLine_of_open closed with nothing | ⟨below, starts⟩
    · have left : Text.withReturns (quoted inside).rest =
          (quoted inside).rest := by
        rw [nothing]
        rfl
      rw [nothing, List.append_nil] at parts
      rw [parts] at raw
      refine returned_string_of_inLine ?_
      rw [raw, left]
    · rw [List.singleton_append] at starts
      rw [← starts] at parts
      obtain ⟨still, taken, left⟩ :=
        quoted_of_open_return closed (Text.withReturns below)
      have text : Text.withReturns inside =
          (quoted inside).raw ++ '\r' :: '\n' :: Text.withReturns below := by
        conv => lhs; rw [← parts]
        simp [raw]
      rw [← text] at still taken left
      have here : string inside =
          ⟨.invalid .unterminatedString, (quoted inside).raw,
            '"' :: (quoted inside).raw, '\n' :: below⟩ := by
        simp [string, closed, starts]
      have there : string (Text.withReturns inside) =
          ⟨.invalid .unterminatedString, (quoted inside).raw ++ ['\r'],
            '"' :: (quoted inside).raw ++ ['\r'],
            '\n' :: Text.withReturns below⟩ := by
        simp [string, still, taken, left]
      rw [here, there]
      exact .of_isInvalid rfl rfl (.inr ⟨rfl, below, rfl, rfl⟩)

/-! ## Comments -/

theorem isInDoc_of_mem_withReturns
    {body : List Char} (inDoc : ∀ letter ∈ body, isInDoc letter = true) :
    ∀ letter ∈ Text.withReturns body, isInDoc letter = true := by
  induction body with
  | nil => exact List.forall_mem_nil _
  | cons first rest ih =>
    rw [List.forall_mem_cons] at inDoc
    have later := ih inDoc.2
    by_cases feed : first = '\n'
    · simpa [feed, or_imp, forall_and, isInDoc] using later
    · rw [Text.withReturns_cons feed, List.forall_mem_cons]
      exact ⟨inDoc.1, later⟩

/-- A documentation comment keeps the carriage returns between its lines. -/
theorem returned_docComment (clean : '\r' ∉ inside) :
    Returned (docComment inside) (docComment (Text.withReturns inside)) := by
  have parts := List.takeWhile_append_dropWhile (p := isInDoc) (l := inside)
  have inDoc : ∀ letter ∈ inside.takeWhile isInDoc, isInDoc letter = true :=
    fun _ member => List.mem_takeWhile_imp member
  have twinInDoc := isInDoc_of_mem_withReturns inDoc
  cases shape : inside.dropWhile isInDoc with
  | nil =>
    rw [shape, List.append_nil] at parts
    rw [parts] at inDoc twinInDoc
    have still := List.dropWhile_eq_nil_iff.2 twinInDoc
    have taken := List.takeWhile_eq_self_iff.2 twinInDoc
    simp only [docComment, shape, still, taken, parts]
    refine .of_isInvalid rfl rfl (.inl ⟨?_, rfl⟩)
    exact (Text.withReturns_cons (by decide) inside).symm
  | cons close rest =>
    have stops : isInDoc close = false := by
      have some : inside.dropWhile isInDoc ≠ [] := by simp [shape]
      simpa [shape] using List.head_dropWhile_not isInDoc some
    have feed : close ≠ '\n' := by
      rintro rfl
      cases stops
    rw [shape] at parts
    generalize inside.takeWhile isInDoc = body at *
    subst parts
    rw [List.mem_append, not_or] at clean
    rw [Text.withReturns_append, Text.withReturns_cons feed,
      docComment_cons inDoc stops, docComment_cons twinInDoc stops]
    have text : '\x7b' :: Text.withReturns body ++ [close] =
        Text.withReturns ('\x7b' :: body ++ [close]) := by
      simp [feed]
    refine ⟨rfl, fun fixed => ?_, fun _ => ?_, fun _ => text, .inl ⟨text, rfl⟩⟩
    · cases fixed
    · rw [Text.withoutReturns_trim, Text.withoutReturns_withReturns clean.1]

/-- Every lexeme has its counterpart in the text with carriage returns. -/
theorem returned_read
    {source : List Char} (visible : Filler.read? source = none)
    (clean : '\r' ∉ source) :
    Returned (read source) (read (Text.withReturns source)) := by
  cases source with
  | nil => exact .of_inLine List.not_mem_nil (by decide)
  | cons first rest =>
    have feed : first ≠ '\n' := by
      rintro rfl
      cases visible
    by_cases plain : first ∉ [';', '\x7b', '"']
    · obtain ⟨inLine, same⟩ := read_withReturns_of_plain plain feed
      rw [same]
      refine .of_inLine inLine (kind_read_ne_docComment visible ?_)
      rintro rfl
      simp at plain
    · simp only [List.mem_cons, List.not_mem_nil, or_false,
        Decidable.not_not] at plain
      rw [Text.withReturns_cons feed]
      rcases plain with rfl | rfl | rfl
      · refine .of_isInvalid rfl rfl (.inl ⟨?_, rfl⟩)
        exact (Text.withReturns_cons feed rest).symm
      · exact returned_docComment (mt (List.mem_cons_of_mem _) clean)
      · exact returned_string rest

end Lexeme

/-! ## Texts -/

/-- The text with a carriage return in front of every line feed. -/
def Text.addReturns (source : String) : String :=
  String.ofList (withReturns source.toList)

/-- The text without its carriage returns. -/
def Text.dropReturns (text : String) : String :=
  String.ofList (withoutReturns text.toList)

/-- The comparison of comments with their carriage returns taken out. -/
def Wording.ofReturns : Wording := ⟨id, Text.dropReturns⟩

/-- What is left of a text and of the text with carriage returns.  Behind a
string that is never closed, its line feed comes next in both. -/
inductive Follows : List Char → List Char → Position → Position → Prop where
  | inStep (source : List Char) (start : Position) :
      Follows source (Text.withReturns source) start start
  | inLine (below : List Char) {start twinStart : Position}
      (line : twinStart.line = start.line) :
      Follows ('\n' :: below) ('\n' :: Text.withReturns below) start twinStart

namespace Lexeme.Returned

variable {lexeme twin : Lexeme} (returned : Returned lexeme twin)

include returned

variable {place twinPlace : Position} (same : twinPlace = place)

include same

theorem covering (valid : lexeme.kind.isInvalid = false) :
    Span.covering twinPlace twin.text = Span.covering place lexeme.text := by
  rw [Span.covering, returned.text valid, Position.advance_withReturns, same]
  rfl

/-- At the same place the tokens of both lexemes stand for each other. -/
theorem pairs :
    Wording.ofReturns.Pairs
      ⟨lexeme.kind, String.ofList lexeme.value, Span.covering place lexeme.text⟩
      ⟨twin.kind, String.ofList twin.value,
        Span.covering twinPlace twin.text⟩ where
  kind := returned.kind
  same fixed := by
    have valid := Kind.isInvalid_of_isFixed fixed
    rw [returned.kind, returned.value fixed, returned.covering same valid]
  span documented := by
    have valid : lexeme.kind.isInvalid = false := by
      rw [show lexeme.kind = _ from documented]
      rfl
    exact returned.covering same valid
  doc documented := by
    have same := returned.doc documented
    simp [Wording.ofReturns, Text.dropReturns, same]

/-- Behind both lexemes the texts go on in the same line. -/
theorem follows :
    Follows lexeme.rest twin.rest (place.advance lexeme.text)
      (twinPlace.advance twin.text) := by
  subst same
  rcases returned.goesOn with ⟨text, left⟩ | ⟨text, below, left, twinLeft⟩
  · rw [text, left, Position.advance_withReturns]
    exact .inStep _ _
  · rw [text, left, twinLeft, Position.advance_append]
    exact .inLine below rfl

end Lexeme.Returned

section

variable {source twin : List Char} {start twinStart : Position}

/-- Both gaps have a line feed or neither has one, and the lexemes behind them
are at the same place. -/
theorem Follows.gap (follows : Follows source twin start twinStart) :
    (.lineFeed ∈ (Filler.readAll twin).1 ↔
        .lineFeed ∈ (Filler.readAll source).1) ∧
      twinStart.advance (Filler.allText (Filler.readAll twin).1) =
        start.advance (Filler.allText (Filler.readAll source).1) ∧
      (Filler.readAll twin).2 = Text.withReturns (Filler.readAll source).2 := by
  have place (source : List Char) (start : Position) :
      start.advance (Filler.allText
          (Filler.withReturns (Filler.readAll source).1)) =
        start.advance (Filler.allText (Filler.readAll source).1) := by
    rw [Filler.allText_withReturns (Filler.areWhole_readAll source)
      (Filler.map_asRead_readAll source), Position.advance_withReturns]
  cases follows with
  | inStep =>
    rw [Filler.readAll_withReturns]
    exact ⟨Filler.lineFeed_mem_withReturns _, place _ _, rfl⟩
  | inLine below line =>
    have same : twinStart.step '\n' = start.step '\n' := by
      simp [Position.step, line]
    rw [Filler.readAll_lineFeed, Filler.readAll_lineFeed,
      Filler.readAll_withReturns]
    refine ⟨by simp, ?_, rfl⟩
    simp [same, place]

/-- The first stretches stand for each other, and so does what is behind
them. -/
theorem Follows.first
    (follows : Follows source twin start twinStart) (clean : '\r' ∉ source) :
    Wording.ofReturns.Couples (Stretch.first source) (Stretch.first twin)
        start twinStart ∧
      Follows (textBehind source) (textBehind twin)
        (start.advance (Stretch.first source).allText)
        (twinStart.advance (Stretch.first twin).allText) := by
  obtain ⟨feeds, place, text⟩ := follows.gap
  have visible := Filler.read?_readAll source
  have parts := Filler.readAll_append source
  have clean : '\r' ∉ (Filler.readAll source).2 := by
    rw [← parts, List.mem_append, not_or] at clean
    exact clean.2
  have returned := Lexeme.returned_read visible clean
  rw [← text] at returned
  rw [← Stretch.stop_token, ← Stretch.stop_token]
  exact ⟨⟨feeds, returned.pairs place⟩, returned.follows place⟩

/-- The tokens of a text with carriage returns stand for those of the text, one
by one. -/
theorem Follows.pairs
    (follows : Follows source twin start twinStart) (clean : '\r' ∉ source)
    (layout : Layout) :
    List.Forall₂ Wording.ofReturns.Pairs
      (layOut layout start (stretches source))
      (layOut layout twinStart (stretches twin)) := by
  fun_induction stretches source generalizing twin start twinStart layout with
  | case1 source ih =>
    obtain ⟨couple, behind⟩ := follows.first clean
    have same : (Stretch.first twin).kind = (Stretch.first source).kind :=
      couple.pair.kind
    by_cases ended : (Stretch.first source).kind = .endOfText
    · rw [if_pos ended, stretches_of_endOfText (same.trans ended)]
      exact couple.pairs_layOut (fun _ => .nil) layout
    · have clean : '\r' ∉ textBehind source := by
        rw [← allText_first_append source, List.mem_append, not_or] at clean
        exact clean.2
      rw [if_neg ended, stretches_of_ne_endOfText (same.trans_ne ended)]
      exact couple.pairs_layOut
        (fun layout => ih ended behind clean layout) layout

end

theorem pairs_tokens_addReturns
    {source : String} (clean : '\r' ∉ source.toList) :
    List.Forall₂ Wording.ofReturns.Pairs (tokens source)
      (tokens (Text.addReturns source)) := by
  rw [tokens_eq_layOut, tokens_eq_layOut, Text.addReturns, String.toList_ofList]
  exact (Follows.inStep _ _).pairs clean _

/-- Lines may end with a carriage return and a line feed as well.  The tokens
are of the same kinds, the text is read without a report or with one as before,
and without a report the tree is the same up to the carriage returns in its
documentation comments. -/
theorem Parsed.ofText_addReturns
    {source : String} (clean : '\r' ∉ source.toList) :
    (tokens (Text.addReturns source)).map Token.kind =
        (tokens source).map Token.kind ∧
      ((ofText (Text.addReturns source)).diagnostics = [] ↔
        (ofText source).diagnostics = []) ∧
      ((ofText source).diagnostics = [] →
        (ofText (Text.addReturns source)).script.reworded Text.dropReturns =
          (ofText source).script) := by
  have pairs := pairs_tokens_addReturns clean
  have rows := Wording.Pairs.rows pairs
  refine ⟨Wording.Pairs.kinds pairs, (diagnostics_eq_nil_iff_of_rows rows).symm,
    fun silent => ?_⟩
  have same := (alike_of_rows rows silent).2
  simpa [Wording.Alike, Wording.ofReturns] using same

/-- A header that goes on behind a backslash, and a comment of two lines. -/
def Script.documentedHeader : String :=
  "Scriptname Door \\\nHidden\n\x7bOpens\n  once.\x7d\n"

/-- With carriage returns the comment has one, and nothing else of the script
changes. -/
theorem Parsed.ofText_addReturns_documentedHeader :
    let returned := Text.addReturns Script.documentedHeader
    (tokens returned).map Token.kind =
        (tokens Script.documentedHeader).map Token.kind ∧
      (ofText returned).diagnostics = [] ∧
      (ofText returned).script.doc = some "Opens\r\n  once." ∧
      (ofText returned).script.reworded Text.dropReturns =
        (ofText Script.documentedHeader).script := by
  have clean : '\r' ∉ Script.documentedHeader.toList := by decide +kernel
  have silent : (ofText Script.documentedHeader).diagnostics = [] := by
    decide +kernel
  obtain ⟨kinds, reports, same⟩ := ofText_addReturns clean
  exact ⟨kinds, reports.2 silent, by decide +kernel, same silent⟩

end PapyrusScript
