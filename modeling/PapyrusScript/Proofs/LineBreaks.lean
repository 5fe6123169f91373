import Mathlib.Data.List.DropRight
import PapyrusScript.Proofs.Stretches
import PapyrusScript.Proofs.Stretches.Filler

/-!
# Where lines break

Between two tokens that are no line breaks there is at most one line break.
There is one if and only if some line feed between them stands outside comments
and continuations, and moreover no bracket is open there or the second token
can only start a line.  It stands at the first such line feed, and no line
break comes before the first token.

When a text ends with a line feed that ends a line, what follows it is read as
a text by itself, only further down.  Its tokens stand behind those of the
first text, provided that no bracket is open there, or that what follows starts
with a token that can only start a line.
-/

namespace PapyrusScript

section Breaks

variable {token : Token} {start : Position} {layout : Layout}

/-! ## Open brackets -/

def sinceLineBreak (found : List Token) : List Token :=
  (found.reverse.takeWhile fun token => token.kind ≠ .newline).reverse

/-- The brackets that are open behind one more token.  One that closes none is
ignored. -/
def countBracket (depth : Nat) (token : Token) : Nat :=
  match token.kind with
  | .symbol .openParen | .symbol .openBracket => depth + 1
  | .symbol .closeParen | .symbol .closeBracket => depth - 1
  | _ => depth

/-- The brackets that have been opened behind the last line break and not been
closed. -/
def openBrackets (found : List Token) : Nat :=
  (sinceLineBreak found).foldl countBracket 0

theorem openBrackets_concat (found : List Token) (token : Token) :
    openBrackets (found ++ [token]) =
      if token.kind = .newline then 0
      else countBracket (openBrackets found) token := by
  by_cases breaks : token.kind = .newline
  · simp [openBrackets, sinceLineBreak, breaks]
  · simp [openBrackets, sinceLineBreak, breaks]

theorem Layout.after_eq (layout : Layout) (token : Token) :
    layout.after token.kind =
      ⟨true, if token.kind = .newline then 0
        else countBracket layout.depth token⟩ := by
  unfold countBracket
  cases token.kind with
  | symbol sign => cases sign <;> rfl
  | _ => rfl

/-- What is known behind some tokens: whether there are any, and how many
brackets are open. -/
theorem Layout.behind_initial (found : List Token) :
    Layout.initial.behind found = ⟨!found.isEmpty, openBrackets found⟩ := by
  induction found using List.reverseRecOn with
  | nil => rfl
  | append_singleton found token ih =>
    have last (layout : Layout) :
        layout.behind [token] = layout.after token.kind := rfl
    rw [behind_append, last, after_eq, ih, openBrackets_concat]
    simp

/-! ## Line feeds in a gap -/

/-- Whether a line feed between two texts, of which the first stands behind a
token, belongs to no comment and no continuation: what stands in front of it
is whole filler. -/
def IsLineEnd (ahead following : List Char) : Prop :=
  ∃ pieces,
    Filler.allText pieces = ahead ∧ Filler.AreWhole ('\n' :: following) pieces

/-- The text between two tokens, with the text in front and behind. -/
structure Gap (source : List Char) (first second : Token) where
  before : List Char
  inside : List Char
  following : List Char
  whole : source = before ++ inside ++ following
  starts : first.span.stop = placeAfter before
  stops : second.span.start = placeAfter (before ++ inside)

namespace Gap

variable {source : List Char} {first second : Token}

/-- Whether a line ends in the gap behind the text `ahead`. -/
def EndsLine (gap : Gap source first second) (ahead : List Char) : Prop :=
  ∃ rest,
    gap.inside = ahead ++ '\n' :: rest ∧ IsLineEnd ahead (rest ++ gap.following)

/-- Whether behind the text `ahead` a line ends in the gap for the first
time. -/
def EndsFirstLine (gap : Gap source first second) (ahead : List Char) : Prop :=
  gap.EndsLine ahead ∧ ∀ other, gap.EndsLine other → ahead <+: other

end Gap

/-- The lines that end in some filler end at its line feeds. -/
theorem isLineEnd_readAll_iff (source ahead : List Char) :
    (∃ rest, Filler.allText (Filler.readAll source).1 = ahead ++ '\n' :: rest ∧
        IsLineEnd ahead (rest ++ (Filler.readAll source).2)) ↔
      ∃ front back, (Filler.readAll source).1 = front ++ .lineFeed :: back ∧
        Filler.allText front = ahead := by
  constructor
  · rintro ⟨rest, shape, pieces, rfl, whole⟩
    -- the line feed is read as one, since whole filler stands in front of it
    have read := Filler.readAll_of_areWhole whole
    have text := Filler.readAll_append source
    rw [shape, List.append_assoc, List.cons_append] at text
    rw [text, Filler.readAll_lineFeed] at read
    refine ⟨pieces.map Filler.asRead, _, congrArg Prod.fst read, ?_⟩
    simp only [Filler.allText, List.flatMap_map, Filler.text_asRead]
  · rintro ⟨front, back, shape, rfl⟩
    have whole := Filler.areWhole_readAll source
    rw [shape] at whole ⊢
    refine ⟨Filler.allText back, ?_, front, rfl, ?_⟩
    · simp
    · have ahead := ((Filler.areWhole_append _ _ _).1 whole).1
      simpa using ahead

/-- The filler in front of the first line feed is the start of that in front
of any. -/
theorem beforeLineFeed?_of_append (front back : List Filler) :
    beforeLineFeed? (front ++ .lineFeed :: back) =
      some (front.takeWhile fun piece => piece ≠ .lineFeed) := by
  rw [beforeLineFeed?, if_pos (by simp), takeWhile_append_cons (by simp)]

/-! ## Neighbours -/

/-- A token behind some of the tokens of two rows stands in the second row or
in the first. -/
theorem append_cons_cases {first second front tail : List Token}
    (split : first ++ second = front ++ token :: tail) :
    (∃ further, front = first ++ further ∧ second = further ++ token :: tail) ∨
      ∃ further, first = front ++ token :: further ∧
        tail = further ++ second := by
  rcases List.append_eq_append_iff.1 split with
    ⟨further, shape, later⟩ | ⟨further, shape, later⟩
  · exact .inl ⟨further, shape, later⟩
  · cases further with
    | nil => exact .inl ⟨[], by simpa using shape.symm, later.symm⟩
    | cons next further =>
      rw [List.cons_append, List.cons.injEq] at later
      exact .inr ⟨further, by rw [shape, later.1], later.2⟩

/-- Of the tokens of a stretch only the last is no line break. -/
theorem Stretch.tokens_eq_append_cons
    {stretch : Stretch} {front further : List Token}
    (split : stretch.tokens layout start = front ++ token :: further)
    (visible : token.kind ≠ .newline) :
    front = (lineBreak? layout start stretch.gap stretch.kind).toList ∧
      token = stretch.token start ∧ further = [] := by
  unfold tokens at split
  cases broken : lineBreak? layout start stretch.gap stretch.kind with
  | none =>
    rw [broken] at split
    cases front with
    | nil =>
      rw [Option.toList_none, List.nil_append, List.nil_append,
        List.cons.injEq] at split
      exact ⟨rfl, split.1.symm, split.2.symm⟩
    | cons next front => simp at split
  | some line =>
    rw [broken, Option.toList_some, List.singleton_append] at split
    cases front with
    | nil =>
      rw [List.nil_append, List.cons.injEq] at split
      exact absurd (split.1 ▸ (place_of_lineBreak? broken).1) visible
    | cons next front =>
      rw [List.cons_append, List.cons.injEq] at split
      obtain ⟨rfl, split⟩ := split
      cases front with
      | nil =>
        rw [List.nil_append, List.cons.injEq] at split
        exact ⟨rfl, split.1.symm, split.2.symm⟩
      | cons next front => simp at split

/-- A token that is no line break is the lexeme of a stretch.  The tokens in
front of it are those of the stretches in front, and a line break if the gap
amounts to one. -/
theorem exists_stretch_of_layOut
    {found : List Stretch} {front tail : List Token}
    (split : layOut layout start found = front ++ token :: tail)
    (visible : token.kind ≠ .newline) :
    ∃ init stretch rest,
      found = init ++ stretch :: rest ∧
        front = layOut layout start init ++
          (lineBreak? (layout.behind (layOut layout start init))
            (start.advance (Stretch.wholeText init)) stretch.gap
            stretch.kind).toList ∧
        token = stretch.token (start.advance (Stretch.wholeText init)) ∧
        tail = layOut (layout.behind (front ++ [token]))
          (start.advance (Stretch.wholeText (init ++ [stretch]))) rest := by
  induction found generalizing layout start front with
  | nil => simp [layOut] at split
  | cons stretch rest ih =>
    rw [layOut] at split
    rcases append_cons_cases split with
      ⟨further, shape, later⟩ | ⟨further, shape, later⟩
    · obtain ⟨init, next, others, rfl, ahead, place, behind⟩ :=
        ih later
      refine ⟨stretch :: init, next, others, rfl, ?_, ?_, ?_⟩
      · rw [shape, ahead]
        simp [layOut, Layout.behind_append, Stretch.wholeText,
          Position.advance_append]
      · simpa [Stretch.wholeText, Position.advance_append] using place
      · rw [shape]
        simpa [Stretch.wholeText, Position.advance_append,
          Layout.behind_append] using behind
    · obtain ⟨rfl, rfl, rfl⟩ := Stretch.tokens_eq_append_cons shape visible
      refine ⟨[], stretch, rest, rfl, rfl, rfl, ?_⟩
      rw [later, shape]
      simp [Stretch.wholeText]

/-- The first token that is no line break is the lexeme of the first
stretch. -/
theorem first_of_layOut_stretches
    {source : List Char} {between back : List Token}
    (split : layOut layout start (stretches source) = between ++ token :: back)
    (visible : token.kind ≠ .newline)
    (breaks : ∀ line ∈ between, line.kind = .newline) :
    between =
        (lineBreak? layout start (Filler.readAll source).1 token.kind).toList ∧
      token = (Stretch.first source).token start := by
  obtain ⟨init, stretch, rest, cut, ahead, place, _⟩ :=
    exists_stretch_of_layOut split visible
  cases init with
  | nil =>
    obtain rfl := head_stretches cut
    rw [ahead, place]
    exact ⟨rfl, rfl⟩
  | cons other init =>
    -- the lexeme of an earlier stretch would stand among the line breaks
    have earlier : other.token start ∈ between := by
      rw [ahead]
      simp [layOut, Stretch.tokens]
    have member : other ∈ stretches source := by simp [cut]
    exact absurd (breaks _ earlier) (kind_ne_newline_of_mem_stretches member)

/-! ## The law of line breaks -/

/-- Behind some tokens the filler amounts to a line break if it has a line
feed, and no bracket is open or the next token can only start a line. -/
theorem lineBreak?_behind
    {found : List Token} (some : found ≠ []) (start : Position)
    (pieces : List Filler) (next : Kind) :
    lineBreak? (Layout.initial.behind found) start pieces next =
      if openBrackets found = 0 ∨ next.isStructural = true then
        (beforeLineFeed? pieces).map fun before =>
          ⟨.newline, "\n",
            Span.covering (start.advance (Filler.allText before)) ['\n']⟩
      else none := by
  have started : found.isEmpty = false := by simpa using some
  rw [Layout.behind_initial, lineBreak?, started]
  simp

/-- Between two neighbours there is the filler read behind the first, and the
line break that it amounts to. -/
theorem exists_gap_between
    {source : String} {front between back : List Token} {first second : Token}
    (split : tokens source = front ++ first :: (between ++ second :: back))
    (visible : first.kind ≠ .newline) (nextVisible : second.kind ≠ .newline)
    (breaks : ∀ line ∈ between, line.kind = .newline) :
    ∃ (gap : Gap source.toList first second) (remaining : List Char),
      gap.inside = Filler.allText (Filler.readAll remaining).1 ∧
        gap.following = (Filler.readAll remaining).2 ∧
        between = (lineBreak? (Layout.initial.behind (front ++ [first]))
          (placeAfter gap.before) (Filler.readAll remaining).1
          second.kind).toList := by
  rw [tokens_eq_layOut] at split
  obtain ⟨init, stretch, rest, cut, _, rfl, behind⟩ :=
    exists_stretch_of_layOut split visible
  cases rest with
  | nil => simp [layOut] at behind
  | cons next rest =>
    rw [List.append_cons] at cut
    obtain ⟨remaining, whole, further⟩ := exists_remaining cut
    rw [← further] at behind
    obtain ⟨line, rfl⟩ :=
      first_of_layOut_stretches behind.symm nextVisible breaks
    have place : placeAfter (Stretch.wholeText (init ++ [stretch])) =
        Position.origin.advance (Stretch.wholeText (init ++ [stretch])) :=
      (advance_origin _).symm
    let gap : Gap source.toList
        (stretch.token (Position.origin.advance (Stretch.wholeText init)))
        ((Stretch.first remaining).token (Position.origin.advance
          (Stretch.wholeText (init ++ [stretch])))) :=
      { before := Stretch.wholeText (init ++ [stretch])
        inside := Filler.allText (Filler.readAll remaining).1
        following := (Filler.readAll remaining).2
        whole := by
          rw [List.append_assoc, Filler.readAll_append, ← whole]
        starts := by
          rw [Stretch.stop_token, ← Position.advance_append, place]
          simp [Stretch.wholeText]
        stops := by
          rw [← advance_origin, Position.advance_append]
          rfl }
    refine ⟨gap, remaining, rfl, rfl, ?_⟩
    rw [line, place]

/-- No line break comes before the first token.  Between two neighbours among
the other tokens there is at most one.  There is one if and only if a line ends
in the gap between them, and no bracket is open behind the first or the second
can only start a line; and it is the first line feed that ends a line there. -/
theorem lineBreak_between (source : String) :
    (∀ token ∈ (tokens source).head?, token.kind ≠ .newline) ∧
      ∀ front first between second back,
        tokens source = front ++ first :: (between ++ second :: back) →
        first.kind ≠ .newline → second.kind ≠ .newline →
        (∀ line ∈ between, line.kind = .newline) →
          ∃ gap : Gap source.toList first second,
            between.length ≤ 1 ∧
              (between ≠ [] ↔
                (∃ ahead, gap.EndsLine ahead) ∧
                  (openBrackets (front ++ [first]) = 0 ∨
                    second.kind.isStructural = true)) ∧
              ∀ line ∈ between, ∃ ahead, gap.EndsFirstLine ahead ∧
                line = ⟨.newline, "\n", placeAfter (gap.before ++ ahead),
                  placeAfter (gap.before ++ ahead ++ ['\n'])⟩ := by
  constructor
  -- the first token is the lexeme of the first stretch, never a line break
  · intro token head
    have starts : (tokens source).head? =
        some ((Stretch.first source.toList).token .origin) := by
      rw [tokens_eq_layOut, stretches]
      rfl
    rw [starts, Option.mem_some_iff] at head
    exact head ▸ Lexeme.kind_read_ne_newline _
  -- between two lexemes lies the gap of the second one, and the layout decides
  -- whether a line feed in it counts
  · intro front first between second back split visible nextVisible breaks
    obtain ⟨gap, remaining, inside, following, line⟩ :=
      exists_gap_between split visible nextVisible breaks
    have ends (ahead : List Char) := isLineEnd_readAll_iff remaining ahead
    simp only [← inside, ← following] at ends
    rw [lineBreak?_behind (by simp)] at line
    have feeds : (∃ ahead, gap.EndsLine ahead) ↔
        .lineFeed ∈ (Filler.readAll remaining).1 := by
      constructor
      · rintro ⟨ahead, lineEnds⟩
        obtain ⟨before, behind, shape, _⟩ := (ends ahead).1 lineEnds
        simp [shape]
      · intro member
        obtain ⟨before, behind, shape⟩ := List.append_of_mem member
        exact ⟨_, (ends _).2 ⟨before, behind, shape, rfl⟩⟩
    by_cases resumes : openBrackets (front ++ [first]) = 0 ∨
        second.kind.isStructural = true
    · rw [if_pos resumes] at line
      refine ⟨gap, ?_, ?_, ?_⟩
      · rw [line]
        exact Option.length_toList_le
      · rw [feeds, line]
        simp [beforeLineFeed?, resumes]
      · intro found member
        rw [line] at member
        obtain ⟨before, nearest, rfl⟩ :=
          Option.map_eq_some_iff.1 (Option.mem_toList.1 member)
        obtain ⟨rest, shape⟩ := beforeLineFeed?_append nearest
        refine ⟨_, ⟨(ends _).2 ⟨before, rest, shape, rfl⟩, ?_⟩, ?_⟩
        · intro other lineEnds
          obtain ⟨front, back, split, rfl⟩ := (ends other).1 lineEnds
          rw [split, beforeLineFeed?_of_append, Option.some.injEq] at nearest
          obtain ⟨more, same⟩ : before <+: front :=
            nearest ▸ List.takeWhile_prefix _
          exact ⟨Filler.allText more, by rw [← same, Filler.allText_append]⟩
        · simp only [Span.covering, ← advance_origin, Position.advance_append]
    · rw [if_neg resumes, Option.toList_none] at line
      exact ⟨gap, by simp [line], by simp [line, resumes], by simp [line]⟩

/-! ## A bracket that is never closed -/

/-- A call over two lines whose bracket is never closed. -/
def unclosedCall : String := "f(a,\nb ;c\n\nReturn"

/-- The tokens of the call in front of the last argument. -/
def Token.unclosed : List Token :=
  [⟨.identifier, "f", ⟨1, 1⟩, ⟨1, 2⟩⟩,
    ⟨.symbol .openParen, "(", ⟨1, 2⟩, ⟨1, 3⟩⟩,
    ⟨.identifier, "a", ⟨1, 3⟩, ⟨1, 4⟩⟩,
    ⟨.symbol .comma, ",", ⟨1, 4⟩, ⟨1, 5⟩⟩]

/-- The last argument of the call. -/
def Token.argument : Token := ⟨.identifier, "b", ⟨2, 1⟩, ⟨2, 2⟩⟩

/-- The keyword behind the call. -/
def Token.statement : Token := ⟨.keyword .returnValue, "Return", ⟨4, 1⟩, ⟨4, 7⟩⟩

/-- In front of the keyword the line breaks although the bracket is open, at
the line feed behind the comment. -/
theorem unclosedCall_breaks_line :
    tokens unclosedCall = Token.unclosed ++ Token.argument ::
        ([⟨.newline, "\n", ⟨2, 5⟩, ⟨3, 1⟩⟩] ++ Token.statement ::
          [Token.endOfText ⟨4, 7⟩]) ∧
      openBrackets (Token.unclosed ++ [Token.argument]) = 1 ∧
      ∃ (gap : Gap unclosedCall.toList Token.argument Token.statement)
          (ahead : List Char),
        gap.EndsFirstLine ahead ∧
          (⟨2, 5⟩ : Position) = placeAfter (gap.before ++ ahead) := by
  have split : tokens unclosedCall = Token.unclosed ++ Token.argument ::
      ([⟨.newline, "\n", ⟨2, 5⟩, ⟨3, 1⟩⟩] ++ Token.statement ::
        [Token.endOfText ⟨4, 7⟩]) := by
    decide +kernel
  obtain ⟨gap, _, _, place⟩ :=
    (lineBreak_between unclosedCall).2 _ _ _ _ _ split (by decide) (by decide)
      (by simp)
  obtain ⟨ahead, first, line⟩ := place _ (List.mem_singleton_self _)
  refine ⟨split, by decide, gap, ahead, first, ?_⟩
  exact congrArg (fun token => token.span.start) line

end Breaks

/-! ## Texts line by line -/

section Lines

variable {init : List Stretch} {layout : Layout} {pieces : List Filler}
  {last : Stretch}

/-! ## Further down -/

/-- The place some lines further down. -/
def Position.below (place : Position) (lines : Nat) : Position :=
  ⟨place.line + lines, place.column⟩

/-- A token some lines further down. -/
def Token.below (token : Token) (lines : Nat) : Token :=
  { token with
    span := ⟨token.span.start.below lines, token.span.stop.below lines⟩ }

theorem advance_lineFeed (before : List Char) :
    Position.origin.advance (before ++ ['\n']) =
      Position.origin.below ((before ++ ['\n']).count '\n') := by
  rw [advance_origin, placeAfter]
  simp [Position.below, Position.origin]

theorem Position.advance_below
    (place : Position) (lines : Nat) (text : List Char) :
    (place.below lines).advance text = (place.advance text).below lines := by
  induction text generalizing place with
  | nil => rfl
  | cons letter text ih =>
    have step : (place.below lines).step letter =
        (place.step letter).below lines := by
      by_cases feed : letter = '\n'
      · simp [Position.step, Position.below, feed]
        omega
      · simp [Position.step, Position.below, feed]
    rw [advance_cons, advance_cons, step, ih]

theorem Span.covering_below
    (start : Position) (lines : Nat) (text : List Char) :
    Span.covering (start.below lines) text =
      ⟨(Span.covering start text).start.below lines,
        (Span.covering start text).stop.below lines⟩ := by
  rw [Span.covering, Position.advance_below]
  rfl

theorem lineBreak?_below
    (layout : Layout) (start : Position) (lines : Nat) (pieces : List Filler)
    (next : Kind) :
    lineBreak? layout (start.below lines) pieces next =
      (lineBreak? layout start pieces next).map (Token.below · lines) := by
  unfold lineBreak?
  split
  · rw [Option.map_map]
    congr 1
    funext before
    simp only [Position.advance_below, Span.covering_below]
    rfl
  · rfl

theorem Stretch.tokens_below
    (stretch : Stretch) (layout : Layout) (start : Position) (lines : Nat) :
    stretch.tokens layout (start.below lines) =
      (stretch.tokens layout start).map (Token.below · lines) := by
  have lexeme : stretch.token (start.below lines) =
      (stretch.token start).below lines := by
    simp only [token, Position.advance_below, Span.covering_below]
    rfl
  rw [tokens, tokens, lineBreak?_below, List.map_append, lexeme,
    List.map_singleton]
  cases lineBreak? layout start stretch.gap stretch.kind <;> rfl

theorem Layout.behind_below
    (layout : Layout) (found : List Token) (lines : Nat) :
    layout.behind (found.map (Token.below · lines)) = layout.behind found := by
  rw [behind, List.foldl_map]
  rfl

/-- Stretches further down have their tokens further down. -/
theorem layOut_below (layout : Layout) (start : Position) (lines : Nat)
    (found : List Stretch) :
    layOut layout (start.below lines) found =
      (layOut layout start found).map (Token.below · lines) := by
  induction found generalizing layout start with
  | nil => rfl
  | cons stretch rest ih =>
    simp only [layOut, Stretch.tokens_below, Layout.behind_below,
      Position.advance_below, ih, List.map_append]

/-! ## Texts that go on -/

/-- A stretch that leaves a line feed is the same when the text goes on. -/
theorem Stretch.first_append
    {source front : List Char} (left : textBehind source = front ++ ['\n'])
    (more : List Char) :
    first (source ++ more) = first source ∧
      textBehind (source ++ more) = textBehind source ++ more := by
  have lexeme := Lexeme.read_append_of_rest left more
  have filler : Filler.readAll (source ++ more) =
      ((Filler.readAll source).1, (Filler.readAll source).2 ++ more) := by
    cases shape : (Filler.readAll source).2 with
    | nil => simp [textBehind, shape, Lexeme.read] at left
    | cons letter rest =>
      have other : letter ≠ ';' := by
        rintro rfl
        simp [textBehind, shape, Lexeme.read] at left
      rw [Filler.readAll_append_of_visible shape other, shape]
  simp only [first, textBehind, filler, lexeme]
  exact ⟨rfl, rfl⟩

/-- When the last filler of a text ends with a line feed, a text that follows
is cut as it would be alone, with that filler in front. -/
theorem stretches_append {source : List Char} {ahead : List Filler}
    (cut : stretches source = init ++ [last]) (ended : last.kind = .endOfText)
    (feed : last.gap = ahead ++ [.lineFeed]) (following : List Char) :
    ∃ rest,
      stretches following = Stretch.first following :: rest ∧
        stretches (source ++ following) =
          init ++
            { Stretch.first following with
              gap := last.gap ++ (Stretch.first following).gap } :: rest := by
  induction init generalizing source with
  | nil =>
    obtain rfl := head_stretches cut
    have nothing : (Filler.readAll source).2 = [] :=
      Lexeme.eq_nil_of_kind_read ended
    have shape : Filler.readAll source = (ahead ++ [.lineFeed], []) :=
      Prod.ext feed nothing
    have filler := Filler.readAll_append_of_lineFeed shape following
    have start : Stretch.first (source ++ following) =
        { Stretch.first following with
          gap := (Stretch.first source).gap ++
            (Stretch.first following).gap } := by
      rw [feed]
      simp [Stretch.first, filler]
    have same : textBehind (source ++ following) = textBehind following := by
      simp [textBehind, filler]
    refine ⟨_, stretches.eq_1 following, ?_⟩
    rw [stretches, start, same]
    rfl
  | cons stretch init ih =>
    have inside : (Stretch.first source).kind ≠ .endOfText := by
      intro ended
      rw [stretches_of_endOfText ended] at cut
      simp at cut
    rw [stretches_of_ne_endOfText inside, List.cons_append,
      List.cons.injEq] at cut
    obtain ⟨rfl, further⟩ := cut
    obtain ⟨rest, alone, behind⟩ := ih further
    have left : ∃ front, textBehind source = front ++ ['\n'] := by
      refine ⟨Stretch.wholeText init ++ Filler.allText ahead, ?_⟩
      rw [eq_wholeText_append further ended, feed]
      simp
    obtain ⟨front, left⟩ := left
    obtain ⟨start, same⟩ := Stretch.first_append left following
    refine ⟨rest, alone, ?_⟩
    rw [stretches_of_ne_endOfText (start ▸ inside), start, same, behind]
    rfl

/-! ## The end of the last line -/

/-- The tokens of a text up to its last lexeme: without its end, and without a
line break in front of that. -/
def upToLastLexeme (found : List Token) : List Token :=
  found.dropLast.rdropWhile fun token => token.kind = .newline

def lastStop (found : List Token) : Position :=
  match found.getLast? with
  | none => .origin
  | some last => last.span.stop

/-- Whether a text ends with a line feed that ends a line: behind the last
lexeme there is whole filler and then this line feed. -/
def EndsLastLine (source : String) : Prop :=
  ∃ before ahead,
    source.toList = before ++ ahead ++ ['\n'] ∧
      placeAfter before = lastStop (upToLastLexeme (tokens source)) ∧
        IsLineEnd ahead []

/-- A place in a text determines the text in front of it. -/
theorem eq_of_placeAfter {first second front back : List Char}
    (same : first ++ front = second ++ back)
    (place : placeAfter first = placeAfter second) : first = second := by
  have further (text : List Char) {more : List Char} (some : more ≠ []) :
      placeAfter text ≠ placeAfter (text ++ more) := by
    intro equal
    have later := Position.lt_advance (Position.origin.advance text) some
    rw [← Position.advance_append, advance_origin, advance_origin,
      ← equal] at later
    exact Position.lt_irrefl _ later
  rcases List.append_eq_append_iff.1 same with
    ⟨more, rfl, _⟩ | ⟨more, rfl, _⟩
  · by_cases some : more = []
    · simp [some]
    · exact absurd place (further first some)
  · by_cases some : more = []
    · simp [some]
    · exact absurd place.symm (further second some)

theorem layOut_concat (layout : Layout) (start : Position) (init : List Stretch)
    (last : Stretch) :
    layOut layout start (init ++ [last]) =
      layOut layout start init ++
        (lineBreak? (layout.behind (layOut layout start init))
          (start.advance (Stretch.wholeText init)) last.gap
          last.kind).toList ++
        [last.token (start.advance (Stretch.wholeText init))] := by
  simp [layOut_append, layOut, Stretch.tokens]

/-- Some stretches have been laid out up to their last lexeme, and a line
break behind it would not count. -/
theorem rdropWhile_layOut
    (visible : ∀ stretch ∈ init, stretch.kind ≠ .newline) {lines : List Token}
    (breaks : ∀ line ∈ lines, line.kind = .newline) :
    ((layOut .initial .origin init ++ lines).rdropWhile fun token =>
        token.kind = .newline) = layOut .initial .origin init ∧
      lastStop (layOut .initial .origin init) =
        placeAfter (Stretch.wholeText init) := by
  constructor
  · induction lines using List.reverseRecOn with
    | nil =>
      cases init using List.reverseRecOn with
      | nil => rfl
      | append_singleton init last =>
        have inside := visible last (by simp)
        rw [List.append_nil, layOut_concat,
          List.rdropWhile_concat_neg _ _ _ (by simp [inside])]
    | append_singleton lines line ih =>
      rw [← List.append_assoc,
        List.rdropWhile_concat_pos _ _ _ (by simp [breaks line (by simp)])]
      exact ih fun other member =>
        breaks other (List.mem_append_left _ member)
  · cases init using List.reverseRecOn with
    | nil => rfl
    | append_singleton init last =>
      rw [layOut_concat, lastStop, List.getLast?_concat]
      dsimp only
      rw [Stretch.stop_token, ← Position.advance_append, advance_origin]
      simp [Stretch.wholeText]

/-- The tokens of a text in front of its end, and up to its last lexeme. -/
theorem dropLast_tokens
    {source : String} (cut : stretches source.toList = init ++ [last]) :
    (tokens source).dropLast =
        layOut .initial .origin init ++
          (lineBreak? (Layout.initial.behind (layOut .initial .origin init))
            (Position.origin.advance (Stretch.wholeText init)) last.gap
            last.kind).toList ∧
      upToLastLexeme (tokens source) = layOut .initial .origin init := by
  have visible (stretch : Stretch) (member : stretch ∈ init) :
      stretch.kind ≠ .newline :=
    kind_ne_newline_of_mem_stretches (cut ▸ List.mem_append_left _ member)
  have front : (tokens source).dropLast =
      layOut .initial .origin init ++
        (lineBreak? (Layout.initial.behind (layOut .initial .origin init))
          (Position.origin.advance (Stretch.wholeText init)) last.gap
          last.kind).toList := by
    rw [tokens_eq_layOut, cut, layOut_concat, List.dropLast_concat]
  refine ⟨front, ?_⟩
  rw [upToLastLexeme, front]
  refine (rdropWhile_layOut visible fun line member => ?_).1
  exact (place_of_lineBreak? (Option.mem_toList.1 member)).1

/-- The last filler of a text that ends its last line ends with a line feed. -/
theorem EndsLastLine.lineFeed {source : String} (ends : EndsLastLine source)
    (cut : stretches source.toList = init ++ [last])
    (ended : last.kind = .endOfText) :
    ∃ ahead, last.gap = ahead ++ [.lineFeed] := by
  obtain ⟨before, ahead, whole, place, lineEnd⟩ := ends
  have visible (stretch : Stretch) (member : stretch ∈ init) :
      stretch.kind ≠ .newline :=
    kind_ne_newline_of_mem_stretches (cut ▸ List.mem_append_left _ member)
  rw [(dropLast_tokens cut).2,
    (rdropWhile_layOut visible (List.forall_mem_nil _)).2] at place
  have parts := eq_wholeText_append cut ended
  rw [whole, List.append_assoc] at parts
  obtain rfl := eq_of_placeAfter parts place
  rw [List.append_cancel_left_eq] at parts
  obtain ⟨remaining, _, further⟩ := exists_remaining cut
  obtain rfl := head_stretches further
  have nothing : (Filler.readAll remaining).2 = [] :=
    Lexeme.eq_nil_of_kind_read ended
  obtain ⟨front, back, shape, rfl⟩ :=
    (isLineEnd_readAll_iff remaining ahead).1
      ⟨[], parts.symm, by rwa [nothing, List.append_nil]⟩
  refine ⟨front, ?_⟩
  change (Filler.readAll remaining).1 = _
  cases back with
  | nil => exact shape
  | cons piece back =>
    -- a piece behind the line feed would have characters
    have whole := Filler.areWhole_readAll remaining
    rw [shape] at whole
    have piecesWhole := ((Filler.areWhole_append _ _ _).1 whole).2.2
    have some := Filler.text_ne_nil_of_isWhole piecesWhole.1
    change _ = Filler.allText (Filler.readAll remaining).1 at parts
    rw [shape] at parts
    simp [some] at parts

/-! ## One text behind another -/

theorem Layout.after_congr
    {first second : Layout} (same : first.depth = second.depth)
    (kind : Kind) : first.after kind = second.after kind := by
  cases kind with
  | symbol sign => cases sign <;> simp [after, same]
  | _ => simp [after, same]

theorem Stretch.tokens_of_not_started
    (fresh : layout.started = false) (stretch : Stretch) (start : Position) :
    stretch.tokens layout start = [stretch.token start] := by
  simp [tokens, lineBreak?, fresh]

/-- Behind a line feed the line breaks there or nowhere. -/
theorem lineBreak?_append
    {next : Kind} (resumes : layout.depth = 0 ∨ next.isStructural = true)
    (start : Position) (feeds : .lineFeed ∈ pieces) (further : List Filler) :
    lineBreak? layout start (pieces ++ further) next =
      lineBreak? layout start pieces .endOfText := by
  obtain ⟨front, back, rfl⟩ := List.append_of_mem feeds
  have ends : Kind.endOfText.isStructural = true := rfl
  simp only [lineBreak?, List.append_assoc, List.cons_append,
    beforeLineFeed?_of_append]
  rcases resumes with closed | structural
  · simp [closed]
  · simp [structural, ends]

theorem lineBreak?_eq_none {start : Position} (feeds : .lineFeed ∈ pieces)
    (nothing : lineBreak? layout start pieces .endOfText = none) :
    layout.started = false := by
  obtain ⟨front, back, rfl⟩ := List.append_of_mem feeds
  have ends : Kind.endOfText.isStructural = true := rfl
  simpa [lineBreak?, beforeLineFeed?_of_append, ends] using nothing

/-- Behind the line feed that ends a line, a stretch is laid out as in a text
by itself. -/
theorem layOut_behindLine
    {next : Stretch} (fresh : layout.started = false → layout.depth = 0)
    (resumes : layout.depth = 0 ∨ next.kind.isStructural = true)
    (feeds : .lineFeed ∈ pieces) (start : Position) (rest : List Stretch) :
    layOut layout start ({ next with gap := pieces ++ next.gap } :: rest) =
      (lineBreak? layout start pieces .endOfText).toList ++
        layOut .initial (start.advance (Filler.allText pieces))
          (next :: rest) := by
  have lexeme : Stretch.token { next with gap := pieces ++ next.gap } start =
      next.token (start.advance (Filler.allText pieces)) := by
    simp [Stretch.token, Position.advance_append]
  have place : start.advance
      (Stretch.allText { next with gap := pieces ++ next.gap }) =
        (start.advance (Filler.allText pieces)).advance next.allText := by
    simp [Stretch.allText, Position.advance_append]
  have found : Stretch.tokens { next with gap := pieces ++ next.gap } layout
      start = (lineBreak? layout start pieces .endOfText).toList ++
        [next.token (start.advance (Filler.allText pieces))] := by
    rw [Stretch.tokens, lineBreak?_append resumes start feeds, lexeme]
  have same : layout.behind
        ((lineBreak? layout start pieces .endOfText).toList ++
          [next.token (start.advance (Filler.allText pieces))]) =
      Layout.initial.behind
        [next.token (start.advance (Filler.allText pieces))] := by
    rw [Layout.behind_append]
    refine Layout.after_congr ?_ _
    cases broken : lineBreak? layout start pieces .endOfText with
    | some line =>
      have breaks := (place_of_lineBreak? broken).1
      simp [Layout.behind, breaks, Layout.after, Layout.initial]
    | none =>
      exact fresh (lineBreak?_eq_none feeds broken)
  rw [layOut, layOut, found, place, same,
    Stretch.tokens_of_not_started rfl, List.append_assoc]

/-- A text behind one that ends its last line: the tokens of the first without
its end, and those of the second as many lines further down as the first has.
-/
theorem tokens_append_of_endsLastLine
    {first second : String} (ends : EndsLastLine first)
    (resumes : openBrackets (upToLastLexeme (tokens first)) = 0 ∨
      ∃ token ∈ (tokens second).head?, token.kind.isStructural = true) :
    tokens (first ++ second) =
      (tokens first).dropLast ++
        (tokens second).map fun token =>
          token.below (first.toList.count '\n') := by
  obtain ⟨init, last, cut, ended, _⟩ := exists_last_stretch first.toList
  obtain ⟨ahead, feed⟩ := ends.lineFeed cut ended
  obtain ⟨rest, alone, together⟩ := stretches_append cut ended feed second.toList
  obtain ⟨front, body⟩ := dropLast_tokens cut
  have state := Layout.behind_initial (layOut .initial .origin init)
  have feeds : .lineFeed ∈ last.gap := by simp [feed]
  have fresh : (Layout.initial.behind
      (layOut .initial .origin init)).started = false →
        (Layout.initial.behind (layOut .initial .origin init)).depth = 0 := by
    rw [state]
    intro nothing
    have empty : layOut .initial .origin init = [] := by simpa using nothing
    rw [empty]
    rfl
  have resumes : (Layout.initial.behind
        (layOut .initial .origin init)).depth = 0 ∨
      (Stretch.first second.toList).kind.isStructural = true := by
    rcases resumes with closed | ⟨token, head, structural⟩
    · left
      rw [body] at closed
      rw [state, closed]
    · right
      rw [tokens_eq_layOut, alone, layOut,
        Stretch.tokens_of_not_started rfl] at head
      have starts := Option.mem_some_iff.1 head
      rwa [← starts] at structural
  have place : (Position.origin.advance (Stretch.wholeText init)).advance
      (Filler.allText last.gap) =
        Position.origin.below (first.toList.count '\n') := by
    have whole := eq_wholeText_append cut ended
    rw [← Position.advance_append, ← whole]
    rw [feed, Filler.allText_append, Filler.allText_cons, Filler.text_lineFeed,
      Filler.allText_nil, List.append_nil, ← List.append_assoc] at whole
    rw [whole, advance_lineFeed]
  rw [tokens_eq_layOut, tokens_eq_layOut second, String.toList_append,
    together, front, layOut_append, layOut_behindLine fresh resumes feeds,
    place, layOut_below, ended, alone, List.append_assoc]

/-- A line that leaves a bracket open. -/
def openLine : String := "f(a, ;b\n"

/-- The tokens of that line. -/
def Token.opened : List Token :=
  [⟨.identifier, "f", ⟨1, 1⟩, ⟨1, 2⟩⟩,
    ⟨.symbol .openParen, "(", ⟨1, 2⟩, ⟨1, 3⟩⟩,
    ⟨.identifier, "a", ⟨1, 3⟩, ⟨1, 4⟩⟩,
    ⟨.symbol .comma, ",", ⟨1, 4⟩, ⟨1, 5⟩⟩]

/-- A keyword behind the open bracket is read as in a text by itself. -/
theorem tokens_openLine_append :
    openBrackets (upToLastLexeme (tokens openLine)) = 1 ∧
      tokens "Return\n" =
          [⟨.keyword .returnValue, "Return", ⟨1, 1⟩, ⟨1, 7⟩⟩,
            ⟨.newline, "\n", ⟨1, 7⟩, ⟨2, 1⟩⟩, Token.endOfText ⟨2, 1⟩] ∧
        tokens (openLine ++ "Return\n") =
          Token.opened ++
            [⟨.newline, "\n", ⟨1, 8⟩, ⟨2, 1⟩⟩,
              ⟨.keyword .returnValue, "Return", ⟨2, 1⟩, ⟨2, 7⟩⟩,
              ⟨.newline, "\n", ⟨2, 7⟩, ⟨3, 1⟩⟩, Token.endOfText ⟨3, 1⟩] := by
  have line : tokens openLine = Token.opened ++
      [⟨.newline, "\n", ⟨1, 8⟩, ⟨2, 1⟩⟩, Token.endOfText ⟨2, 1⟩] := by
    decide +kernel
  have alone : tokens "Return\n" =
      [⟨.keyword .returnValue, "Return", ⟨1, 1⟩, ⟨1, 7⟩⟩,
        ⟨.newline, "\n", ⟨1, 7⟩, ⟨2, 1⟩⟩, Token.endOfText ⟨2, 1⟩] := by
    decide +kernel
  have ends : EndsLastLine openLine := by
    refine ⟨['f', '(', 'a', ','], [' ', ';', 'b'], rfl, ?_, ?_⟩
    · rw [line]
      decide
    · have comment : Filler.IsLineComment [';', 'b'] :=
        ⟨['b'], rfl, by decide, by decide⟩
      have feed : Filler.EndsLine ['\n'] := .inr List.prefix_rfl
      have blank : Text.isBlank ' ' = true := by decide
      exact ⟨[.blank ' ', .lineComment [';', 'b']], rfl, blank,
        ⟨comment, feed⟩, trivial⟩
  have head : ∃ token ∈ (tokens "Return\n").head?,
      token.kind.isStructural = true := by
    rw [alone]
    exact ⟨_, Option.mem_some_self _, rfl⟩
  refine ⟨by rw [line]; decide, alone, ?_⟩
  rw [tokens_append_of_endsLastLine ends (.inr head), line, alone]
  decide

end Lines

end PapyrusScript
