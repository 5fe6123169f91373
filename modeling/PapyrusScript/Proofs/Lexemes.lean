import PapyrusScript.Proofs.LineBreaks

/-!
# The lexeme of a token

Every token of a script that is no line break says what a lexeme says, and it
stands where that lexeme begins.  A place in a script determines the text in
front of it.  So a token that is known to start somewhere is the lexeme that
is read there.
-/

namespace PapyrusScript

variable {token : Token} {source : String}

def Lexeme.tokenBehind (lexeme : Lexeme) (before : List Char) : Token :=
  ⟨lexeme.kind, String.ofList lexeme.value,
    ⟨placeAfter before, placeAfter (before ++ lexeme.text)⟩⟩

theorem rest_eq_of_placeAfter {first second front back : List Char}
    (same : first ++ front = second ++ back)
    (place : placeAfter first = placeAfter second) : front = back := by
  obtain rfl := eq_of_placeAfter same place
  exact List.append_cancel_left same

/-! ## Tokens and stretches -/

/-- Every token of several stretches is a token of one of them. -/
theorem exists_stretch_of_mem_layOut
    {layout : Layout} {start : Position} {found : List Stretch}
    (member : token ∈ layOut layout start found) :
    ∃ init stretch rest here,
      found = init ++ stretch :: rest ∧
        token ∈ stretch.tokens here
          (start.advance (Stretch.wholeText init)) := by
  induction found generalizing layout start with
  | nil => cases member
  | cons stretch rest ih =>
    rcases List.mem_append.1 member with here | later
    · exact ⟨[], stretch, rest, layout, rfl, here⟩
    · obtain ⟨init, next, others, there, rfl, within⟩ :=
        ih later
      refine ⟨stretch :: init, next, others, there, rfl, ?_⟩
      rwa [Stretch.wholeText, List.flatMap_cons, Position.advance_append]

/-- A token of a script stands in front of a line feed, or it is the lexeme
that is read where it stands. -/
theorem cases_of_mem_tokens (member : token ∈ tokens source) :
    (token.kind = .newline ∧ ∃ before after,
        source.toList = before ++ '\n' :: after ∧
          token.span.start = placeAfter before) ∨
      ∃ before text,
        source.toList = before ++ text ∧ Filler.read? text = none ∧
          token = (Lexeme.read text).tokenBehind before := by
  rw [tokens_eq_layOut] at member
  obtain ⟨init, stretch, rest, layout, cut, within⟩ :=
    exists_stretch_of_mem_layOut member
  obtain ⟨remaining, whole, further⟩ := exists_remaining cut
  obtain rfl := head_stretches further
  have parts := Filler.readAll_append remaining
  rcases List.mem_append.1 within with line | lexeme
  · left
    obtain ⟨front, back, gap, rfl⟩ :=
      exists_of_lineBreak? (Option.mem_toList.1 line)
    have feed : Filler.allText (Filler.readAll remaining).1 =
        Filler.allText front ++ '\n' :: Filler.allText back := by
      rw [show (Filler.readAll remaining).1 = _ from gap]
      simp
    have shape : Filler.allText front ++
        '\n' :: (Filler.allText back ++ (Filler.readAll remaining).2) =
          remaining := by
      rw [← List.cons_append, ← List.append_assoc, ← feed, parts]
    refine ⟨rfl, Stretch.wholeText init ++ Filler.allText front,
      Filler.allText back ++ (Filler.readAll remaining).2, ?_, ?_⟩
    · rw [whole, List.append_assoc, shape]
    · rw [← advance_origin, Position.advance_append]
      rfl
  · right
    refine ⟨Stretch.wholeText init ++
        Filler.allText (Filler.readAll remaining).1,
      (Filler.readAll remaining).2, ?_, Filler.read?_readAll remaining, ?_⟩
    · rw [whole, List.append_assoc, parts]
    · rw [List.mem_singleton.1 lexeme, Lexeme.tokenBehind, ← advance_origin,
        ← advance_origin, Position.advance_append, Position.advance_append,
        Position.advance_append]
      rfl

/-- A token that is no line break is a lexeme of the text. -/
theorem exists_lexeme_of_mem_tokens
    (member : token ∈ tokens source) (visible : token.kind ≠ .newline) :
    ∃ before text,
      source.toList = before ++ text ∧ Filler.read? text = none ∧
        token = (Lexeme.read text).tokenBehind before := by
  rcases cases_of_mem_tokens member with ⟨breaks, _⟩ | found
  · exact absurd breaks visible
  · exact found

/-- A token that starts at a character is the lexeme that is read there. -/
theorem eq_tokenBehind_of_start
    {before after : List Char} {first : Char} (member : token ∈ tokens source)
    (cut : source.toList = before ++ first :: after)
    (starts : token.span.start = placeAfter before) (inLine : first ≠ '\n') :
    token = (Lexeme.read (first :: after)).tokenBehind before := by
  rcases cases_of_mem_tokens member with
    ⟨_, front, back, whole, place⟩ | ⟨front, text, whole, _, rfl⟩
  · have same : '\n' :: back = first :: after :=
      rest_eq_of_placeAfter (whole.symm.trans cut) (place.symm.trans starts)
    exact absurd (List.cons.inj same).1.symm inLine
  · have text := rest_eq_of_placeAfter (whole.symm.trans cut) starts
    have front := eq_of_placeAfter (whole.symm.trans cut) starts
    rw [text, front]

theorem lineBreak?_nil (layout : Layout) (start : Position) (next : Kind) :
    lineBreak? layout start [] next = none := by
  simp [lineBreak?, beforeLineFeed?]

theorem Stretch.tokens_of_gapless
    {stretch : Stretch} (gapless : stretch.gap = []) (layout : Layout)
    (start : Position) :
    stretch.tokens layout start = [stretch.token start] := by
  simp [tokens, gapless, lineBreak?_nil]

/-- A text that is one lexeme has its token and the end of the text. -/
theorem tokens_of_single {text : List Char} (visible : Filler.read? text = none)
    (inside : (Lexeme.read text).kind ≠ .endOfText)
    (whole : (Lexeme.read text).rest = []) :
    tokens (String.ofList text) =
      [(Lexeme.read text).tokenBehind [],
        .endOfText (placeAfter (Lexeme.read text).text)] := by
  have gap := Filler.readAll_of_read?_eq_none visible
  have first : Stretch.first text =
      ⟨[], (Lexeme.read text).kind, (Lexeme.read text).value,
        (Lexeme.read text).text⟩ := by
    simp only [Stretch.first, gap]
  have behind : textBehind text = [] := by
    simp only [textBehind, gap, whole]
  have cut : stretches text = [Stretch.first text, Stretch.first []] := by
    rw [stretches_of_ne_endOfText (by rw [first]; exact inside), behind,
      stretches_of_endOfText rfl]
  rw [tokens_eq_layOut, String.toList_ofList, cut, layOut, layOut, layOut,
    Stretch.tokens_of_gapless (by rw [first]), Stretch.tokens_of_gapless rfl,
    first, Lexeme.tokenBehind, ← advance_origin, ← advance_origin,
    ← advance_origin]
  rfl

/-! ## Tokens one at a time -/

/-- A lexer in front of a lexeme hands out its token and goes on behind it. -/
theorem Lexer.next_of_visible
    {text : List Char} (visible : Filler.read? text = none)
    (layout : Layout) (place : Position) :
    (Lexer.mk layout place text none false).next =
      (Lexer.mk layout (place.advance (Lexeme.read text).text)
        (Lexeme.read text).rest none false).emit
          ⟨(Lexeme.read text).kind, String.ofList (Lexeme.read text).value,
            Span.covering place (Lexeme.read text).text⟩ := by
  have next := next_fresh layout place text
  have gap := Filler.readAll_of_read?_eq_none visible
  rw [next]
  simp only [Token.first, textBehind, gap, lineBreak?_nil]
  rfl

end PapyrusScript
