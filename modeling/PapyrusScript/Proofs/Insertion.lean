import PapyrusScript.Proofs.Insertion.Lexeme
import PapyrusScript.Proofs.LineBreaks
import PapyrusScript.Proofs.Relexing

/-!
# Layout in front of a token

Blanks, a block comment or a line continuation may be put directly in front of
any token but a line break and the end of the text: the kinds and values of the
tokens stay the same.  The text is cut into the same stretches, and only the
gap in front of that token grows.  No line feed is added to the gap that could
end a line, since the one in a block comment or behind a backslash does not.
-/

namespace PapyrusScript

variable {init rest : List Stretch} {stretch : Stretch} {pieces : List Filler}
  {source : List Char}

/-- Text that may stand in front of a token: blanks and tabs, a block comment,
or a line continuation up to its line feed. -/
inductive Spacer : List Char → Prop where
  | blanks {text : List Char}
      (blank : ∀ letter ∈ text, letter = ' ' ∨ letter = '\t') :
      Spacer text
  | blockComment {text : List Char} (unclosed : ¬ ['/', ';'] <:+: text) :
      Spacer ([';', '/'] ++ text ++ ['/', ';'])
  | continuation {blanks comment : List Char}
      (blank : ∀ letter ∈ blanks, Filler.isTrailingBlank letter = true)
      (isComment : comment = [] ∨ Filler.IsLineComment comment) :
      Spacer (['\\'] ++ blanks ++ comment ++ ['\n'])

/-- The close of a comment does not start in front of its slash. -/
theorem Filler.isBlockComment_of_unclosed
    {body : List Char} (unclosed : ¬ ['/', ';'] <:+: body) :
    IsBlockComment ([';', '/'] ++ body ++ ['/', ';']) := by
  refine ⟨body, rfl, fun within => ?_⟩
  obtain ⟨front, back, shape⟩ := within
  cases back using List.reverseRecOn with
  | nil =>
    rw [List.append_nil, ← List.singleton_append, ← List.append_assoc]
      at shape
    cases List.append_inj_right' shape rfl
  | append_singleton back last =>
    rw [← List.append_assoc] at shape
    exact unclosed ⟨front, back, List.append_inj_left' shape rfl⟩

/-- A spacer consists of pieces of filler that break no line. -/
theorem Spacer.exists_pieces {inserted : List Char} (spacer : Spacer inserted) :
    ∃ pieces, Filler.allText pieces = inserted ∧
      ∀ piece ∈ pieces, piece.KeepsLine := by
  cases spacer with
  | blanks blank =>
    refine ⟨inserted.map .blank, ?_, ?_⟩
    · simp [Filler.allText, List.flatMap_map, Filler.text]
    · simpa [Filler.KeepsLine] using blank
  | blockComment unclosed =>
    have whole := Filler.isBlockComment_of_unclosed unclosed
    refine ⟨[.blockComment _], List.append_nil _, ?_⟩
    exact List.forall_mem_singleton.2 whole
  | continuation blank isComment =>
    refine ⟨[.continuation _], List.append_nil _, ?_⟩
    exact List.forall_mem_singleton.2 ⟨_, _, rfl, blank, isComment⟩

/-! ## One stretch -/

def Stretch.behind (stretch : Stretch) (pieces : List Filler) : Stretch :=
  { stretch with gap := stretch.gap ++ pieces }

namespace Stretch

variable {source : List Char} {pieces : List Filler}

/-- Filler put in front of a lexeme only makes the gap longer. -/
theorem first_insert (apart : Filler.SetsApart pieces)
    (inside : (first source).kind ≠ .endOfText) :
    first (Filler.allText (first source).gap ++
          (Filler.allText pieces ++ (Filler.readAll source).2)) =
        (first source).behind pieces ∧
      textBehind (Filler.allText (first source).gap ++
          (Filler.allText pieces ++ (Filler.readAll source).2)) =
        textBehind source := by
  have some : (Filler.readAll source).2 ≠ [] := by
    intro nothing
    simp [first, nothing, Lexeme.read] at inside
  have filler := Filler.readAll_insert apart some
  have gap : (first source).gap = (Filler.readAll source).1 := rfl
  simp only [gap]
  simp only [first, behind, textBehind, filler, and_self]

/-- A stretch is the same when something is put behind it, provided that it
starts with a separator there and that no backslash, which is no token,
continues its line. -/
theorem first_change {ahead following : List Char} {letter : Char}
    (left : textBehind source = ahead ++ following)
    (visible : ¬ Filler.EndsLine following)
    (apart : Lexeme.separates letter = true) (more : List Char)
    (smooth : (first source).kind.isInvalid = true →
      Filler.continuation? (ahead ++ following) = none →
        Filler.continuation? (ahead ++ letter :: more) = none) :
    first ((first source).allText ++ (ahead ++ letter :: more)) = first source ∧
      textBehind ((first source).allText ++ (ahead ++ letter :: more)) =
        ahead ++ letter :: more := by
  have lexeme := Lexeme.read_insert left visible apart more
  have parts := Lexeme.read_append (Filler.readAll source).2
  have behind : (Lexeme.read (Filler.readAll source).2).rest =
      ahead ++ following := left
  have some : ahead ++ following ≠ [] := by
    have further : following ≠ [] := fun nothing => visible (.inl nothing)
    simp [further]
  have filler : Filler.readAll (Filler.allText (Filler.readAll source).1 ++
        ((Lexeme.read (Filler.readAll source).2).text ++
          (ahead ++ letter :: more))) =
      ((Filler.readAll source).1,
        (Lexeme.read (Filler.readAll source).2).text ++
          (ahead ++ letter :: more)) := by
    cases shape : (Filler.readAll source).2 with
    | nil =>
      rw [shape] at behind
      exact absurd behind.symm some
    | cons start tail =>
      have comment : start ≠ ';' := by
        rintro rfl
        rw [shape] at behind
        exact absurd behind.symm some
      rw [shape] at parts behind
      cases text : (Lexeme.read (start :: tail)).text with
      | nil =>
        refine absurd text (Lexeme.text_ne_nil_of_read fun ended => ?_)
        cases Lexeme.eq_nil_of_kind_read ended
      | cons same others =>
        rw [text, List.cons_append, List.cons.injEq] at parts
        obtain ⟨rfl, whole⟩ := parts
        refine Filler.readAll_change shape comment ?_
        rintro rfl nothing
        -- a backslash that continues no line is a lexeme by itself
        obtain rfl : others = [] := by
          cases text
          rfl
        rw [← whole, behind] at nothing
        refine smooth ?_ nothing
        show (Lexeme.read (Filler.readAll source).2).kind.isInvalid = true
        rw [shape]
        rfl
  have again : (first source).allText ++ (ahead ++ letter :: more) =
      Filler.allText (Filler.readAll source).1 ++
        ((Lexeme.read (Filler.readAll source).2).text ++
          (ahead ++ letter :: more)) := List.append_assoc _ _ _
  rw [again]
  simp only [first, textBehind, filler, lexeme, and_self]

end Stretch

/-! ## All stretches -/

theorem kind_first_ne_endOfText
    (cut : stretches source = init ++ stretch :: rest)
    (inside : stretch.kind ≠ .endOfText) :
    (Stretch.first source).kind ≠ .endOfText := by
  intro ended
  rw [stretches_of_endOfText ended] at cut
  cases init with
  | nil => exact inside ((List.cons.inj cut).1 ▸ ended)
  | cons next init => simp at cut

/-- A backslash in front of a text continues its line if and only if it does
so in front of that text with filler put into it that ends no line. -/
theorem continuation?_insert {source other : List Char}
    (cut : stretches source = init ++ stretch :: rest)
    (inside : stretch.kind ≠ .endOfText)
    (keeps : Filler.endsLine pieces = false)
    (again : stretches other = init ++ stretch.behind pieces :: rest) :
    Filler.continuation? source = none ↔ Filler.continuation? other = none := by
  have visible (text : List Char)
      (further : (Stretch.first text).kind ≠ .endOfText) :
      Filler.continuation? text = none ↔
        Filler.endsLine (Stretch.first text).gap = false := by
    refine Filler.continuation?_eq_none_iff_endsLine fun nothing => ?_
    simp [Stretch.first, nothing, Lexeme.read] at further
  rw [visible source (kind_first_ne_endOfText cut inside),
    visible other (kind_first_ne_endOfText again inside)]
  cases init with
  | nil =>
    rw [← head_stretches cut, ← head_stretches again, Stretch.behind,
      Filler.endsLine_append_of_not keeps]
  | cons next init =>
    rw [← head_stretches cut, ← head_stretches again]

/-- In front of a lexeme a text can be cut, and filler put there that sets it
apart: only the gap in front of that lexeme is longer then.  If the filler ends
a line, no token in front may be invalid, since a backslash could be. -/
theorem stretches_insert_of_setsApart
    (cut : stretches source = init ++ stretch :: rest)
    (inside : stretch.kind ≠ .endOfText) (apart : Filler.SetsApart pieces)
    (smooth : Filler.endsLine pieces = false ∨
      ∀ other ∈ init, other.kind.isInvalid = false) :
    ∃ visible, ¬ Filler.EndsLine visible ∧
      source = Stretch.wholeText init ++
        (Filler.allText stretch.gap ++ visible) ∧
      stretches (Stretch.wholeText init ++
          (Filler.allText stretch.gap ++ (Filler.allText pieces ++ visible))) =
        init ++ stretch.behind pieces :: rest := by
  induction init generalizing source with
  | nil =>
    obtain rfl := head_stretches cut
    obtain ⟨start, same⟩ := Stretch.first_insert apart inside
    rw [stretches_of_ne_endOfText inside, List.nil_append,
      List.cons.injEq] at cut
    refine ⟨(Filler.readAll source).2, ?_, ?_, ?_⟩
    · refine Filler.not_endsLine_of_read? (Filler.read?_readAll source) ?_
      intro nothing
      simp [Stretch.first, nothing, Lexeme.read] at inside
    · exact (Filler.readAll_append source).symm
    · rw [Stretch.wholeText, List.flatMap_nil, List.nil_append,
        stretches_of_ne_endOfText (by rw [start]; exact inside), start,
        same, cut.2]
      rfl
  | cons next init ih =>
    obtain rfl := head_stretches cut
    have further := kind_first_ne_endOfText cut inside
    rw [stretches_of_ne_endOfText further, List.cons_append,
      List.cons.injEq] at cut
    obtain ⟨visible, ends, whole, again⟩ :=
      ih cut.2 (smooth.imp_right fun valid =>
        (List.forall_mem_cons.1 valid).2)
    obtain ⟨letter, more, text, separates⟩ := apart.separates
    have shape : Filler.allText pieces ++ visible =
        letter :: (more ++ visible) := by
      rw [text, List.cons_append]
    rw [← List.append_assoc] at whole
    -- a backslash that continues no line must not come to continue one
    have continued :
        (Stretch.first source).kind.isInvalid = true →
          Filler.continuation? (Stretch.wholeText init ++
              Filler.allText stretch.gap ++ visible) = none →
            Filler.continuation? (Stretch.wholeText init ++
              Filler.allText stretch.gap ++
                letter :: (more ++ visible)) = none := by
      intro invalid
      rcases smooth with keeps | valid
      · have same := (continuation?_insert cut.2 inside keeps again).1
        rwa [whole, ← List.append_assoc, shape] at same
      · rw [(List.forall_mem_cons.1 valid).1] at invalid
        cases invalid
    obtain ⟨same, behind⟩ :=
      Stretch.first_change whole ends separates _ continued
    refine ⟨visible, ends, ?_, ?_⟩
    · rw [Stretch.wholeText, List.flatMap_cons, List.append_assoc,
        ← Stretch.wholeText, ← List.append_assoc _ _ visible, ← whole,
        allText_first_append]
    · rw [shape, ← List.append_assoc] at again
      rw [shape, Stretch.wholeText, List.flatMap_cons, List.append_assoc,
        ← Stretch.wholeText, ← List.append_assoc (Stretch.wholeText init),
        stretches_of_ne_endOfText (by rw [same]; exact further), same,
        behind, again, List.cons_append]

/-- Filler that keeps the line can be put in front of any lexeme. -/
theorem stretches_insert (cut : stretches source = init ++ stretch :: rest)
    (inside : stretch.kind ≠ .endOfText)
    (keeps : ∀ piece ∈ pieces, piece.KeepsLine) (some : pieces ≠ []) :
    ∃ visible, ¬ Filler.EndsLine visible ∧
      source = Stretch.wholeText init ++
        (Filler.allText stretch.gap ++ visible) ∧
      stretches (Stretch.wholeText init ++
          (Filler.allText stretch.gap ++ (Filler.allText pieces ++ visible))) =
        init ++ stretch.behind pieces :: rest :=
  stretches_insert_of_setsApart cut inside
    (Filler.setsApart_of_keepsLine keeps some)
    (.inl (Filler.endsLine_of_keepsLine keeps))

/-! ## Tokens -/

/-- What a line break says does not depend on the gap, as long as the gap has
a line feed or has none. -/
theorem lineBreak?_said_congr {first second : List Filler}
    (feeds : .lineFeed ∈ first ↔ .lineFeed ∈ second)
    (layout : Layout) (start place : Position) (next : Kind) :
    (lineBreak? layout start first next).map Token.said =
      (lineBreak? layout place second next).map Token.said := by
  unfold lineBreak? beforeLineFeed?
  split
  · by_cases broken : .lineFeed ∈ second
    · simp [broken, feeds.2 broken, Token.said]
    · simp [broken, mt feeds.1 broken]
  · rfl

namespace Stretch

/-- Two stretches that differ only in their places and gaps, and of the gaps
both have a line feed or neither has one. -/
structure Alike (first second : Stretch) : Prop where
  kind : first.kind = second.kind
  value : first.value = second.value
  feeds : .lineFeed ∈ first.gap ↔ .lineFeed ∈ second.gap

theorem Alike.refl (stretch : Stretch) : stretch.Alike stretch :=
  ⟨rfl, rfl, Iff.rfl⟩

theorem alike_behind
    {pieces : List Filler} (keeps : ∀ piece ∈ pieces, piece.KeepsLine)
    (stretch : Stretch) : stretch.Alike (stretch.behind pieces) := by
  have smooth : .lineFeed ∉ pieces :=
    fun member => (keeps _ member).ne_lineFeed rfl
  exact ⟨rfl, rfl, by simp [behind, smooth]⟩

theorem Alike.said_tokens {first second : Stretch} (alike : first.Alike second)
    (layout : Layout) (start place : Position) :
    (first.tokens layout start).map Token.said =
      (second.tokens layout place).map Token.said := by
  have line := lineBreak?_said_congr alike.feeds layout start place second.kind
  have lexeme : (first.token start).said = (second.token place).said := by
    simp [Token.said, token, alike.kind, alike.value]
  simp only [tokens, List.map_append, List.map_singleton, ← Option.toList_map,
    alike.kind, line, lexeme]

end Stretch

/-- Stretches that differ only in their gaps and places have tokens that say
the same. -/
theorem said_layOut_congr {found others : List Stretch}
    (alike : List.Forall₂ Stretch.Alike found others)
    (layout : Layout) (start place : Position) :
    (layOut layout start found).map Token.said =
      (layOut layout place others).map Token.said := by
  induction alike generalizing layout start place with
  | nil => rfl
  | cons first _ ih =>
    have same := first.said_tokens layout start place
    rw [layOut, layOut, List.map_append, List.map_append, same,
      Layout.behind_congr same]
    exact congrArg _ (ih _ _ _)

theorem alike_self (found : List Stretch) :
    List.Forall₂ Stretch.Alike found found :=
  List.forall₂_same.2 fun stretch _ => .refl stretch

/-- A spacer may be put directly in front of any token but a line break and the
end of the text: the tokens say the same as before. -/
theorem tokens_insert_spacer
    {source : String} {token : Token} {before following inserted : List Char}
    (member : token ∈ tokens source) (visible : token.kind ≠ .newline)
    (inside : token.kind ≠ .endOfText)
    (whole : source.toList = before ++ following)
    (place : token.span.start = placeAfter before)
    (spacer : Spacer inserted) :
    (tokens (String.ofList (before ++ inserted ++ following))).map
        (fun token => (token.kind, token.text)) =
      (tokens source).map fun token => (token.kind, token.text) := by
  obtain ⟨pieces, rfl, keeps⟩ := spacer.exists_pieces
  by_cases some : pieces = []
  · have same : String.ofList (before ++ [] ++ following) = source := by
      rw [List.append_nil, ← whole, String.ofList_toList]
    rw [some, Filler.allText_nil, same]
  · obtain ⟨front, tail, split⟩ := List.append_of_mem member
    rw [tokens_eq_layOut] at split
    obtain ⟨init, stretch, rest, cut, _, rfl, _⟩ :=
      exists_stretch_of_layOut split visible
    obtain ⟨text, _, parts, again⟩ := stretches_insert cut inside keeps some
    rw [← List.append_assoc] at parts
    obtain rfl : Stretch.wholeText init ++ Filler.allText stretch.gap =
        before := by
      refine eq_of_placeAfter (parts.symm.trans whole) ?_
      rw [← place, ← advance_origin, Position.advance_append]
      rfl
    obtain rfl : text = following :=
      List.append_cancel_left (parts.symm.trans whole)
    have alike : List.Forall₂ Stretch.Alike
        (init ++ stretch :: rest) (init ++ stretch.behind pieces :: rest) :=
      List.rel_append (alike_self init)
        (.cons (stretch.alike_behind keeps) (alike_self rest))
    rw [tokens_eq_layOut, tokens_eq_layOut, String.toList_ofList, cut,
      List.append_assoc, List.append_assoc, again]
    exact (said_layOut_congr alike .initial .origin .origin).symm

/-- A call that is never closed, with a backslash that continues no line and a
malformed number behind it. -/
def unfinishedCall : String := "f(\n\\ 1x"

def Token.malformed : Token := ⟨.invalid .malformedNumber, "1x", ⟨2, 3⟩, ⟨2, 5⟩⟩

/-- Behind the backslash a tab, a block comment of two lines and another line
may be put in front of the number. -/
theorem tokens_insert_unfinishedCall :
    (tokens unfinishedCall).map (fun token => (token.kind, token.text)) =
        [(.identifier, "f"), (.symbol .openParen, "("),
          (.invalid .unexpectedCharacter, "\\"),
          (.invalid .malformedNumber, "1x"), (.endOfText, "")] ∧
      ∀ inserted ∈ ["\t", ";/a\nb/;", "\\ ;c\n"],
        (tokens ("f(\n\\ " ++ inserted ++ "1x")).map
            (fun token => (token.kind, token.text)) =
          (tokens unfinishedCall).map
            fun token => (token.kind, token.text) := by
  have member : Token.malformed ∈ tokens unfinishedCall := by decide +kernel
  have place : Token.malformed.span.start =
      placeAfter ['f', '(', '\n', '\\', ' '] := by
    decide
  have insert {inserted : String} (spacer : Spacer inserted.toList) :
      (tokens ("f(\n\\ " ++ inserted ++ "1x")).map
          (fun token => (token.kind, token.text)) =
        (tokens unfinishedCall).map fun token => (token.kind, token.text) := by
    have whole : unfinishedCall.toList =
        ['f', '(', '\n', '\\', ' '] ++ ['1', 'x'] := rfl
    have same := tokens_insert_spacer member (by decide) (by decide) whole
      place spacer
    rwa [String.ofList_append, String.ofList_append, String.ofList_toList]
      at same
  refine ⟨by decide +kernel, ?_⟩
  simp only [List.forall_mem_cons]
  refine ⟨insert ?_, insert ?_, insert ?_, List.forall_mem_nil _⟩
  · exact @Spacer.blanks ['\t'] (by simp)
  · exact @Spacer.blockComment ['a', '\n', 'b'] (by decide)
  · have comment : Filler.IsLineComment [';', 'c'] :=
      ⟨['c'], rfl, by decide, by simp⟩
    have blank : ∀ letter ∈ [' '], Filler.isTrailingBlank letter = true :=
      List.forall_mem_singleton.2 rfl
    exact @Spacer.continuation [' '] _ blank (.inr comment)

end PapyrusScript
