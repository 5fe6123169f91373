import PapyrusScript.Proofs.Insertion.Lexeme
import PapyrusScript.Proofs.LineEnds.Script
import PapyrusScript.Proofs.LineEnds.Stretches

/-!
# The line feed at the end of a text

The last line of a text may end with a line feed or with the text.  With one
more line feed the last gap of a text grows by it, or the line continuation at
the end of the gap does.  Every lexeme is the same as before, except that a
comment that is never closed goes on to the end of the text.  So the tokens
differ at most by a line break in front of the end of the text, and the parser
lets a line end there as well.
-/

namespace PapyrusScript

namespace Filler

variable {source : List Char} {pieces : List Filler}

/-! ## Gaps -/

/-- With a line feed behind it, the last piece of a text is still filler. -/
theorem IsWhole.exists_ended {piece : Filler} (whole : piece.IsWhole []) :
    ∃ ended, allText ended = piece.text ++ ['\n'] ∧ AreWhole [] ended ∧
      (piece = .lineFeed → .lineFeed ∈ ended) := by
  have apart (again : piece.IsWhole ['\n']) :
      ∃ ended, allText ended = piece.text ++ ['\n'] ∧ AreWhole [] ended ∧
        (piece = .lineFeed → .lineFeed ∈ ended) :=
    ⟨[piece, .lineFeed], by simp, ⟨again, trivial, trivial⟩, by simp⟩
  cases piece with
  | blank letter => exact apart whole
  | lineFeed => exact apart trivial
  | lineComment text => exact apart ⟨whole.1, .inr (List.prefix_refl _)⟩
  | blockComment text => exact apart whole
  | continuation text =>
    obtain ⟨blanks, comment, ending, rfl, blank, isComment, ends⟩ := whole
    rcases ends with rfl | ⟨rfl, _⟩
    · exact apart ⟨blanks, comment, ['\n'], rfl, blank, isComment, .inl rfl⟩
    · -- the continuation ends with the line now
      refine ⟨[.continuation (['\\'] ++ blanks ++ comment ++ ['\n'])],
        by simp [text], ⟨?_, trivial⟩, nofun⟩
      exact ⟨blanks, comment, ['\n'], rfl, blank, isComment, .inl rfl⟩

/-- With a line feed behind it, a text of filler is still one. -/
theorem AreWhole.exists_ended (whole : AreWhole [] pieces) :
    ∃ ended, allText ended = allText pieces ++ ['\n'] ∧ AreWhole [] ended ∧
      (.lineFeed ∈ pieces → .lineFeed ∈ ended) := by
  rcases List.eq_nil_or_concat' pieces with rfl | ⟨front, last, rfl⟩
  · exact ⟨[.lineFeed], rfl, ⟨trivial, trivial⟩, nofun⟩
  · obtain ⟨ahead, here, _⟩ := (areWhole_append _ _ _).1 whole
    obtain ⟨ended, text, closed, feeds⟩ := IsWhole.exists_ended here
    have some : allText [last] ++ [] ≠ [] := by
      simpa using text_ne_nil_of_isWhole here
    have further := ahead.append some ['\n']
    refine ⟨front ++ ended, ?_, (areWhole_append _ _ _).2 ⟨?_, closed⟩, ?_⟩
    · simp [text]
    · simpa [text] using further
    · intro member
      rcases List.mem_append.1 member with front | here
      · exact List.mem_append_left _ front
      · exact List.mem_append_right _ (feeds (List.mem_singleton.1 here).symm)

/-- A text of filler with a line feed more is one, and no line feed of it gets
lost. -/
theorem readAll_append_of_filler (filled : (readAll source).2 = []) :
    (readAll (source ++ ['\n'])).2 = [] ∧
      (.lineFeed ∈ (readAll source).1 →
        .lineFeed ∈ (readAll (source ++ ['\n'])).1) := by
  have whole := areWhole_readAll source
  have parts := readAll_append source
  rw [filled] at whole parts
  rw [List.append_nil] at parts
  obtain ⟨ended, text, closed, feeds⟩ := whole.exists_ended
  have again := readAll_of_areWhole closed
  rw [List.append_nil, text, parts] at again
  rw [again]
  refine ⟨rfl, fun member => List.mem_append_left _ ?_⟩
  exact List.mem_map.2 ⟨.lineFeed, feeds member, rfl⟩

/-- A block comment that is never closed is not closed by a line feed. -/
theorem splitAfterClose_append_lineFeed
    (unclosed : splitAfterClose source = none) :
    splitAfterClose (source ++ ['\n']) = none := by
  rw [splitAfterClose_eq_none_iff] at unclosed ⊢
  intro within
  rcases List.infix_concat_iff.1 within with ends | inside
  · have last := congrArg List.getLast? (List.suffix_iff_eq_append.1 ends)
    simp at last
  · exact unclosed inside

theorem read?_append_lineFeed
    (visible : read? source = none) (some : source ≠ []) :
    read? (source ++ ['\n']) = none := by
  cases source with
  | nil => exact absurd rfl some
  | cons first rest =>
    by_cases comment : first = ';'
    · subst comment
      obtain ⟨body, rfl, unclosed⟩ := exists_unclosed visible
      rw [List.cons_append, List.cons_append, read?,
        splitAfterClose_append_lineFeed unclosed, Option.map_none]
    · exact read?_append_eq_none visible comment ['\n']

/-- The gap in front of a lexeme does not depend on the end of the text. -/
theorem readAll_append_of_some (some : (readAll source).2 ≠ []) :
    readAll (source ++ ['\n']) =
      ((readAll source).1, (readAll source).2 ++ ['\n']) := by
  have visible := read?_readAll source
  have gap := (areWhole_readAll source).change
    (not_endsLine_of_read? visible some) ((readAll source).2 ++ ['\n'])
  have again := readAll_of_visible gap (map_asRead_readAll source)
    (read?_append_lineFeed visible some)
  rwa [← List.append_assoc, readAll_append] at again

end Filler

namespace Lexeme

/-! ## Lexemes -/

/-- A lexeme is the same with a line feed at the end of the text, or it is an
invalid one that goes on to that end. -/
theorem read_append_lineFeed_cases {source : List Char} (some : source ≠ []) :
    read (source ++ ['\n']) = (read source).followedBy ['\n'] ∨
      (read source).kind.isInvalid = true ∧
        (read (source ++ ['\n'])).kind = (read source).kind ∧
        (read source).rest = [] ∧ (read (source ++ ['\n'])).rest = [] := by
  cases source with
  | nil => exact absurd rfl some
  | cons first rest =>
    by_cases plain : first ∉ [';', '\x7b', '"']
    · exact .inl (read_followedBy plain (by decide) rest [])
    · simp only [List.mem_cons, List.not_mem_nil, or_false,
        Decidable.not_not] at plain
      rcases plain with rfl | rfl | rfl
      · exact .inr ⟨rfl, rfl, rfl, rfl⟩
      · by_cases unclosed : rest.dropWhile isInDoc = []
        · have still : (rest ++ ['\n']).dropWhile isInDoc = [] := by
            rw [List.dropWhile_append, unclosed]
            rfl
          refine .inr ?_
          simp [read, docComment, unclosed, still, Kind.isInvalid]
        · exact .inl (docComment_append_of_closed unclosed ['\n'])
      · exact .inl (string_append_lineFeed rest [])

end Lexeme

/-! ## Texts -/

/-- The comparison of trees as they are. -/
def Wording.plain : Wording := ⟨id, id⟩

theorem Wording.pairs_self (token : Token) : plain.Pairs token token :=
  ⟨rfl, fun _ => rfl, fun _ => rfl, fun _ => rfl⟩

/-- In front of the end of the text a line may break in the second row only. -/
theorem Stretch.rows_of_endOfText {wording : Wording} {stretch twin : Stretch}
    (ends : stretch.kind = .endOfText) (twinEnds : twin.kind = .endOfText)
    (feeds : .lineFeed ∈ stretch.gap → .lineFeed ∈ twin.gap)
    (layout : Layout) (start twinStart : Position) :
    wording.Rows (stretch.tokens layout start)
      (twin.tokens layout twinStart) := by
  by_cases back : .lineFeed ∈ twin.gap → .lineFeed ∈ stretch.gap
  · have couple : wording.Couples stretch twin start twinStart :=
      ⟨⟨back, feeds⟩, stretch.pairs_of_endOfText ends twinEnds _ _⟩
    exact Wording.Pairs.rows (couple.tokens layout)
  · obtain ⟨_, whole⟩ := Classical.not_imp.1 back
    have nothing : lineBreak? layout start stretch.gap stretch.kind = none := by
      simp [lineBreak?, beforeLineFeed?, whole]
    rw [tokens, tokens, nothing]
    cases broken : lineBreak? layout twinStart twin.gap twin.kind with
    | none =>
      exact .cons (stretch.pairs_of_endOfText ends twinEnds _ _) .nil
    | some line =>
      exact .breakThere (place_of_lineBreak? broken).1 ends twinEnds

/-- The first stretch of a text is the same with a line feed at the end of the
text, or it is an invalid one that goes on to that end. -/
theorem Stretch.first_append_lineFeed_cases
    {source : List Char} (inside : (first source).kind ≠ .endOfText) :
    first (source ++ ['\n']) = first source ∧
        textBehind (source ++ ['\n']) = textBehind source ++ ['\n'] ∨
      (first source).kind.isInvalid = true ∧
        (first (source ++ ['\n'])).gap = (first source).gap ∧
        (first (source ++ ['\n'])).kind = (first source).kind ∧
        textBehind source = [] ∧ textBehind (source ++ ['\n']) = [] := by
  have some : (Filler.readAll source).2 ≠ [] := by
    intro filled
    apply inside
    simp [first, filled, Lexeme.read]
  have gap := Filler.readAll_append_of_some some
  unfold first textBehind
  rw [gap]
  dsimp only
  rcases Lexeme.read_append_lineFeed_cases some with same | other
  · rw [same]
    exact .inl ⟨rfl, rfl⟩
  · obtain ⟨invalid, kind, left, twinLeft⟩ := other
    exact .inr ⟨invalid, rfl, kind, left, twinLeft⟩

/-- With a line feed at its end a text has the same lines. -/
theorem rows_append_lineFeed
    (layout : Layout) (start : Position) (source : List Char) :
    Wording.plain.Rows (layOut layout start (stretches source))
      (layOut layout start (stretches (source ++ ['\n']))) := by
  fun_induction stretches source generalizing layout start with
  | case1 source ih =>
    by_cases ended : (Stretch.first source).kind = .endOfText
    · have filled : (Filler.readAll source).2 = [] :=
        Lexeme.eq_nil_of_kind_read ended
      obtain ⟨still, feeds⟩ := Filler.readAll_append_of_filler filled
      have twinEnded : (Stretch.first (source ++ ['\n'])).kind =
          .endOfText := by
        unfold Stretch.first
        dsimp only
        rw [still]
        rfl
      rw [if_pos ended, stretches_of_endOfText twinEnded]
      simpa [layOut] using
        Stretch.rows_of_endOfText ended twinEnded feeds layout start start
    · rw [if_neg ended]
      have cases := Stretch.first_append_lineFeed_cases ended
      rcases cases with ⟨same, behind⟩ | ⟨invalid, gap, kind, left, twinLeft⟩
      · rw [← same] at ended
        rw [stretches_of_ne_endOfText ended, same, behind]
        refine Wording.Couples.rows_layOut ?_ ?_ layout
        · exact ⟨Iff.rfl, Wording.pairs_self _⟩
        · exact fun layout => ih (same ▸ ended) layout _
      · rw [stretches_of_ne_endOfText (kind.trans_ne ended), left, twinLeft]
        refine Wording.Couples.rows_layOut ?_ ?_ layout
        · exact ⟨by rw [gap], Stretch.pairs_of_isInvalid kind invalid _ _⟩
        · intro layout
          have ends : (Stretch.first []).kind = .endOfText := rfl
          rw [stretches_of_endOfText ends]
          simpa [layOut] using Stretch.rows_of_endOfText ends ends id layout _ _

theorem rows_tokens_append_lineFeed (source : String) :
    Wording.plain.Rows (tokens source) (tokens (source ++ "\n")) := by
  rw [tokens_eq_layOut, tokens_eq_layOut, String.toList_append]
  exact rows_append_lineFeed _ _ _

/-- A line feed at the end of a text does not matter: with it and without it
the text is read without a report or with one, and without a report the tree
is the same. -/
theorem Parsed.ofText_append_lineFeed (source : String) :
    ((ofText source).diagnostics = [] ↔
      (ofText (source ++ "\n")).diagnostics = []) ∧
    ((ofText source).diagnostics = [] →
      (ofText (source ++ "\n")).script = (ofText source).script) := by
  have rows := rows_tokens_append_lineFeed source
  refine ⟨diagnostics_eq_nil_iff_of_rows rows, fun silent => ?_⟩
  have same := (alike_of_rows rows silent).2
  simpa [Wording.Alike, Wording.plain] using same

end PapyrusScript
