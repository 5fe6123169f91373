import PapyrusScript.Proofs.KeywordCase.Folding
import PapyrusScript.Proofs.Matching.Script

/-!
# The case of keywords is irrelevant

Two sources that differ only in the case of letters of keywords are parsed to
the same script and the same diagnostics, whether they are well formed or not.
In lower case both are cut into filler and lexemes at the same places.  A
lexeme that is no keyword is written the same in both, so it says the same; a
keyword is the same keyword, and no reader looks at how it is written.
-/

namespace PapyrusScript

open Text

variable {start : Position} {layout : Layout}

/-- Texts that are the same in lower case are passed to the same place. -/
theorem Position.advance_of_lower {first second : List Char}
    (lower : second.map foldCase = first.map foldCase) (start : Position) :
    start.advance second = start.advance first := by
  have step (place : Position) (letter : Char) :
      place.step (foldCase letter) = place.step letter := by
    simp only [Position.step, foldCase_eq_iff (show isLetter '\n' = false from rfl)]
  have folded (text : List Char) :
      start.advance (text.map foldCase) = start.advance text := by
    simp only [Position.advance, List.foldl_map, step]
  rw [← folded second, lower, folded]

/-! ## Plain tokens -/

def Kind.plainText (kind : Kind) (text : String) : String :=
  if kind.isKeyword then "" else text

/-- A token without the text of a keyword. -/
def Token.plain (token : Token) : Token :=
  { token with text := token.kind.plainText token.text }

section

variable {token twin : Token} (same : token.plain = twin.plain)
include same

theorem Token.kind_of_plain_eq : twin.kind = token.kind := by
  have kinds := congrArg Token.kind same
  exact kinds.symm

theorem Token.span_of_plain_eq : twin.span = token.span := by
  have spans := congrArg Token.span same
  exact spans.symm

theorem Token.text_of_plain_eq (other : token.kind.isKeyword = false) :
    twin.text = token.text := by
  have texts := congrArg Token.text same
  simpa [plain, Kind.plainText, kind_of_plain_eq same, other, eq_comm] using
    texts

end

/-- Tokens that are the same but for the text of keywords stand for each
other, and places count. -/
def Pairing.plainly : Pairing where
  pairs token twin := token.plain = twin.plain
  kind := Token.kind_of_plain_eq
  text := Token.text_of_plain_eq
  Still := True
  span _ := Token.span_of_plain_eq
  told := []
  toldTwin := []

/-- Where no token has moved, invalid tokens share a place in both rows. -/
theorem Pairing.distinct_plainly : Pairing.plainly.Distinct := by
  intro token twin other otherTwin same otherSame _ _
  rw [plainly.span trivial same, plainly.span trivial otherSame]

/-- Plain tokens are given the same plain end of the text. -/
theorem plain_append_missingEnd {tokens twins : List Token}
    (same : twins.map Token.plain = tokens.map Token.plain) :
    (twins ++ Cursor.missingEnd twins).map Token.plain =
      (tokens ++ Cursor.missingEnd tokens).map Token.plain := by
  apply Pairing.view_append_missingEnd same
  · exact fun plain => (Token.kind_of_plain_eq plain).symm
  · intro token twin plain
    rw [Token.span_of_plain_eq plain]

/-! ## One lexeme -/

namespace Lexeme

variable {first second : List Char}

theorem rest_eq_drop (source : List Char) :
    (read source).rest = source.drop (read source).text.length := by
  have parts := congrArg (List.drop (read source).text.length)
    (read_append source)
  rwa [List.drop_left] at parts

section

variable {first second : List Char}
  (lower : second.map foldCase = first.map foldCase)
include lower

theorem text_of_lower :
    (read second).text.map foldCase = (read first).text.map foldCase := by
  rw [← (read_map_foldCase second).1, lower, (read_map_foldCase first).1]

theorem rest_of_lower :
    (read second).rest.map foldCase = (read first).rest.map foldCase := by
  have length := congrArg List.length (text_of_lower lower)
  rw [List.length_map, List.length_map] at length
  rw [rest_eq_drop, rest_eq_drop, List.map_drop, List.map_drop, lower, length]

theorem head?_of_lower : second.head? = some '"' ↔ first.head? = some '"' := by
  have heads := congrArg List.head? lower
  rw [List.head?_map, List.head?_map] at heads
  have quote (text : List Char) :
      text.head?.map foldCase = some '"' ↔ text.head? = some '"' := by
    simp [Option.map_eq_some_iff,
      foldCase_eq_iff (show isLetter '"' = false from rfl)]
  rw [← quote, heads, quote]

theorem kind_of_lower (other : first.head? ≠ some '"') :
    (read second).kind = (read first).kind := by
  have otherSecond : second.head? ≠ some '"' := by
    rwa [Ne, head?_of_lower lower]
  rw [← (read_map_foldCase second).2 otherSecond, lower,
    (read_map_foldCase first).2 other]

end

/-- A string that is closed is known from its characters. -/
theorem sound_of_raw (closed : (quoted first).closed = true)
    (closedSecond : (quoted second).closed = true)
    (raw : (quoted second).raw = (quoted first).raw) :
    (quoted second).sound = (quoted first).sound := by
  have here := quoted_of_closed closed []
  have there := quoted_of_closed closedSecond []
  rw [raw, here] at there
  exact (congrArg Quoted.sound there).symm

/-- Strings with the same text are of the same kind. -/
theorem kind_string_of_text (lower : second.map foldCase = first.map foldCase)
    (same : (string second).text = (string first).text) :
    (string second).kind = (string first).kind := by
  have ends : (quoted second).closed = (quoted first).closed := by
    rw [← (quoted_map_foldCase second).2, lower, (quoted_map_foldCase first).2]
  unfold string at *
  dsimp only at *
  rw [ends] at same ⊢
  cases closed : (quoted first).closed with
  | false => rfl
  | true =>
    have raw : (quoted second).raw = (quoted first).raw := by
      simpa [closed, apply_ite Lexeme.text] using same
    rw [sound_of_raw closed (ends.trans closed) raw]
    cases (quoted first).sound <;> rfl

/-- Lexemes that are written the same are of the same kind, if what follows
them differs only in the case of letters. -/
theorem kind_of_text (lower : second.map foldCase = first.map foldCase)
    (same : (read second).text = (read first).text) :
    (read second).kind = (read first).kind := by
  by_cases quote : first.head? = some '"'
  · obtain ⟨inside, rfl⟩ := List.head?_eq_some_iff.1 quote
    obtain ⟨insideSecond, rfl⟩ :=
      List.head?_eq_some_iff.1 ((head?_of_lower lower).2 quote)
    exact kind_string_of_text (List.cons.inj lower).2 same
  · exact kind_of_lower lower quote

theorem head?_of_isKeyword
    {source : List Char} (keyword : (read source).kind.isKeyword = true) :
    source.head? ≠ some '"' := by
  intro quote
  obtain ⟨inside, rfl⟩ := List.head?_eq_some_iff.1 quote
  rw [read, string] at keyword
  cases closed : (quoted inside).closed <;>
    cases sound : (quoted inside).sound <;>
    simp [closed, sound, Kind.isKeyword] at keyword

end Lexeme

/-- What a token says is known from its kind and the text it covers. -/
theorem Kind.Carries.unique {kind : Kind} {text value other : List Char}
    (carries : kind.Carries text value) (again : kind.Carries text other) :
    other = value := by
  cases kind with
  | stringLiteral =>
    obtain ⟨inside, shape, known⟩ := carries
    obtain ⟨same, rfl, found⟩ := again
    obtain rfl : same = inside := by simpa using shape
    exact Option.some.inj (found.symm.trans known)
  | docComment =>
    obtain ⟨inside, shape, rfl⟩ := carries
    obtain ⟨same, rfl, rfl⟩ := again
    obtain rfl : same = inside := by simpa using shape
    rfl
  | invalid error =>
    cases error with
    | unterminatedString =>
      exact List.append_cancel_left (again.symm.trans carries)
    | invalidEscape =>
      exact List.append_cancel_left
        (List.append_cancel_right (again.symm.trans carries))
    | unterminatedComment => exact again.1.trans carries.1.symm
    | unterminatedDocComment => exact again.1.trans carries.1.symm
    | _ => exact again.trans carries.symm
  | _ => exact again.trans carries.symm

/-! ## One stretch -/

/-- Rows of the same length are the same or differ somewhere. -/
theorem eq_or_exists_ne {α : Type} {first second : List α}
    (length : second.length = first.length) :
    second = first ∨
      ∃ front letter back other rest,
        first = front ++ letter :: back ∧ second = front ++ other :: rest ∧
          letter ≠ other := by
  induction first generalizing second with
  | nil => exact .inl (List.eq_nil_of_length_eq_zero length)
  | cons letter first ih =>
    cases second with
    | nil => cases length
    | cons other second =>
      by_cases same : letter = other
      · subst same
        rcases ih (Nat.succ.inj length) with
          rfl | ⟨front, one, back, two, rest, rfl, rfl, apart⟩
        · exact .inl rfl
        · exact .inr ⟨letter :: front, one, back, two, rest, rfl, rfl, apart⟩
      · exact .inr ⟨[], letter, first, other, second, rfl, rfl, same⟩

/-- Where two texts differ, some keyword among the tokens found covers the
place. -/
def DifferInKeywords
    (found : List Token) (start : Position) (first second : List Char) : Prop :=
  ∀ front letter back frontSecond other backSecond,
    first = front ++ letter :: back →
    second = frontSecond ++ other :: backSecond →
    frontSecond.length = front.length → letter ≠ other →
      ∃ token ∈ found, token.kind.isKeyword = true ∧
        token.span.start ≤ start.advance front ∧
        start.advance front < token.span.stop

namespace DifferInKeywords

variable {found : List Token} {start : Position}
  {ahead aheadSecond first second : List Char}

/-- In front of the tokens found both texts are the same. -/
theorem eq_of_before (differ : DifferInKeywords found start (ahead ++ first)
      (aheadSecond ++ second))
    (length : aheadSecond.length = ahead.length)
    (behind : ∀ token ∈ found, token.kind.isKeyword = true →
      start.advance ahead ≤ token.span.start) :
    aheadSecond = ahead := by
  rcases eq_or_exists_ne length with
    same | ⟨front, letter, back, other, rest, rfl, rfl, apart⟩
  · exact same
  · obtain ⟨token, member, keyword, begins, _⟩ :=
      differ front letter (back ++ first) front other (rest ++ second)
        (by simp) (by simp) rfl apart
    have inside := Position.lt_advance (start.advance front)
      (List.cons_ne_nil letter back)
    rw [← Position.advance_append] at inside
    exact absurd (Position.lt_of_lt_of_le inside (behind token member keyword))
      begins

/-- Behind a piece of text the tokens that end with it play no part. -/
theorem behind {more : List Token}
    (differ : DifferInKeywords (found ++ more) start (ahead ++ first)
      (aheadSecond ++ second))
    (length : aheadSecond.length = ahead.length)
    (ends : ∀ token ∈ found, token.kind.isKeyword = true →
      token.span.stop ≤ start.advance ahead) :
    DifferInKeywords more (start.advance ahead) first second := by
  rintro front letter back frontSecond other backSecond rfl rfl same apart
  obtain ⟨token, member, keyword, begins, stops⟩ :=
    differ (ahead ++ front) letter back (aheadSecond ++ frontSecond) other
      backSecond (by simp) (by simp) (by simp [length, same]) apart
  rw [Position.advance_append] at begins stops
  refine ⟨token, (List.mem_append.1 member).resolve_left fun early => ?_,
    keyword, begins, stops⟩
  have past := Position.le_trans (ends token early keyword)
    (Position.le_advance (start.advance ahead) front)
  exact past stops

end DifferInKeywords

/-! ## Tokens by stretches -/

theorem Layout.behind_map_plain (layout : Layout) (found : List Token) :
    layout.behind (found.map Token.plain) = layout.behind found :=
  List.foldl_map

/-- A keyword among the tokens of a stretch is its lexeme. -/
theorem Stretch.eq_token_of_isKeyword {stretch : Stretch} {token : Token}
    (member : token ∈ stretch.tokens layout start)
    (keyword : token.kind.isKeyword = true) :
    token = stretch.token start := by
  rcases List.mem_append.1 member with line | lexeme
  · obtain ⟨newline, _⟩ := place_of_lineBreak? (Option.mem_toList.1 line)
    rw [newline] at keyword
    cases keyword
  · exact List.mem_singleton.1 lexeme

theorem start_le_of_mem_layOut {found : List Stretch} {token : Token}
    (member : token ∈ layOut layout start found) :
    start ≤ token.span.start := by
  induction found generalizing layout start with
  | nil => cases member
  | cons stretch found ih =>
    rcases List.mem_append.1 member with here | later
    · rcases List.mem_append.1 here with line | lexeme
      · exact (place_of_lineBreak? (Option.mem_toList.1 line)).2.1
      · rw [List.mem_singleton.1 lexeme]
        exact Position.le_advance _ _
    · exact Position.le_trans (Position.le_advance _ _)
        (ih later)

def laterTokens
    (layout : Layout) (start : Position) (source : List Char) : List Token :=
  if (Stretch.first source).kind = .endOfText then []
  else
    layOut (layout.behind ((Stretch.first source).tokens layout start))
      (start.advance (Stretch.first source).allText)
      (stretches (textBehind source))

theorem layOut_stretches
    (layout : Layout) (start : Position) (source : List Char) :
    layOut layout start (stretches source) =
      (Stretch.first source).tokens layout start ++
        laterTokens layout start source := by
  rw [stretches, layOut, laterTokens]
  split <;> rfl

theorem start_le_of_mem_laterTokens {source : List Char} {token : Token}
    (member : token ∈ laterTokens layout start source) :
    start.advance (Stretch.first source).allText ≤ token.span.start := by
  unfold laterTokens at member
  split at member
  · cases member
  · exact start_le_of_mem_layOut member

/-- Where two texts differ in keywords only, so do their stretches. -/
theorem DifferInKeywords.parts {source other : List Char}
    (differ : DifferInKeywords (layOut layout start (stretches source)) start
      source other) :
    DifferInKeywords
      ((Stretch.first source).tokens layout start ++
        laterTokens layout start source)
      start
      (Filler.allText (Stretch.first source).gap ++
        ((Stretch.first source).text ++ textBehind source))
      (Filler.allText (Stretch.first other).gap ++
        ((Stretch.first other).text ++ textBehind other)) := by
  rw [layOut_stretches] at differ
  rw [← List.append_assoc, ← List.append_assoc]
  have here := allText_first_append source
  have there := allText_first_append other
  rw [Stretch.allText] at here there
  rwa [here, there]

section

variable {source other : List Char}
  (lower : other.map foldCase = source.map foldCase)
include lower

theorem Filler.readAll_of_lower :
    (readAll other).1.map Filler.lower = (readAll source).1.map Filler.lower ∧
      (readAll other).2.map foldCase = (readAll source).2.map foldCase := by
  have both : readAll (other.map foldCase) = readAll (source.map foldCase) :=
    congrArg readAll lower
  rw [readAll_map_foldCase, readAll_map_foldCase] at both
  exact ⟨congrArg Prod.fst both, congrArg Prod.snd both⟩

theorem length_gap_of_lower :
    (Filler.allText (Stretch.first other).gap).length =
      (Filler.allText (Stretch.first source).gap).length := by
  have both := congrArg Filler.allText (Filler.readAll_of_lower lower).1
  rw [Filler.allText_map_lower, Filler.allText_map_lower] at both
  have lengths := congrArg List.length both
  rw [List.length_map, List.length_map] at lengths
  exact lengths

theorem Stretch.text_of_lower :
    (Stretch.first other).text.map foldCase =
      (Stretch.first source).text.map foldCase :=
  Lexeme.text_of_lower (Filler.readAll_of_lower lower).2

theorem textBehind_of_lower :
    (textBehind other).map foldCase = (textBehind source).map foldCase :=
  Lexeme.rest_of_lower (Filler.readAll_of_lower lower).2

variable {layout : Layout} {start : Position}
  (differ : DifferInKeywords (layOut layout start (stretches source)) start
    source other)
include differ

/-- No keyword starts in front of the first lexeme, so both texts start with
the same filler. -/
theorem gap_of_differ :
    (Stretch.first other).gap = (Stretch.first source).gap := by
  refine Filler.eq_of_lower (Filler.readAll_of_lower lower).1 ?_
  refine differ.parts.eq_of_before
    (length_gap_of_lower lower) ?_
  intro token member keyword
  rcases List.mem_append.1 member with here | later
  · rw [Stretch.eq_token_of_isKeyword here keyword]
    exact Position.le_refl _
  · have past := start_le_of_mem_laterTokens later
    rw [Stretch.allText, Position.advance_append] at past
    exact Position.le_trans (Position.le_advance _ _) past

/-- A first lexeme that is no keyword is the same in both texts. -/
theorem text_of_differ (plain : (Stretch.first source).kind.isKeyword = false) :
    (Stretch.first other).text = (Stretch.first source).text := by
  have parts := differ.parts
  rw [← List.nil_append (_ ++ laterTokens _ _ _)] at parts
  refine (parts.behind (length_gap_of_lower lower)
    (List.forall_mem_nil _)).eq_of_before ?_ ?_
  · have both := congrArg List.length (Stretch.text_of_lower lower)
    rwa [List.length_map, List.length_map] at both
  · intro token member keyword
    rw [← Position.advance_append]
    rcases List.mem_append.1 member with here | later
    · rw [Stretch.eq_token_of_isKeyword here keyword] at keyword
      rw [Stretch.kind_token, plain] at keyword
      cases keyword
    · exact start_le_of_mem_laterTokens later

/-- Behind the first stretch both texts differ in keywords only, too. -/
theorem behind_of_differ :
    DifferInKeywords (laterTokens layout start source)
      (start.advance (Stretch.first source).allText)
      (textBehind source) (textBehind other) := by
  have parts := differ.parts
  have both := congrArg List.length (Stretch.text_of_lower lower)
  rw [List.length_map, List.length_map] at both
  rw [← List.append_assoc, ← List.append_assoc] at parts
  refine parts.behind ?_ ?_
  · rw [List.length_append, List.length_append, both, length_gap_of_lower lower]
  · intro token member keyword
    rw [Stretch.eq_token_of_isKeyword member keyword, Stretch.stop_token]
    exact Position.le_refl _

/-- The first lexemes of both texts are of the same kind, and they say the same
unless they are keywords. -/
theorem says_of_differ :
    (Stretch.first other).kind = (Stretch.first source).kind ∧
      ((Stretch.first source).kind.isKeyword = false →
        (Stretch.first other).value = (Stretch.first source).value) := by
  have behind := (Filler.readAll_of_lower lower).2
  by_cases keyword : (Stretch.first source).kind.isKeyword = true
  · refine ⟨Lexeme.kind_of_lower behind (Lexeme.head?_of_isKeyword keyword),
      fun plain => ?_⟩
    rw [keyword] at plain
    cases plain
  · have same := text_of_differ lower differ (Bool.eq_false_iff.2 keyword)
    have kind := Lexeme.kind_of_text behind same
    refine ⟨kind, fun _ => ?_⟩
    have carries := Lexeme.carries_read (Filler.read?_readAll source)
    have again := Lexeme.carries_read (Filler.read?_readAll other)
    unfold Lexeme.Carries at carries again
    rw [kind, show (Lexeme.read (Filler.readAll other).2).text =
      (Lexeme.read (Filler.readAll source).2).text from same] at again
    exact carries.unique again

/-- The tokens of the first stretch are the same but for keywords. -/
theorem plain_tokens_of_differ :
    ((Stretch.first other).tokens layout start).map Token.plain =
      ((Stretch.first source).tokens layout start).map Token.plain := by
  have gap := gap_of_differ lower differ
  obtain ⟨kind, value⟩ := says_of_differ lower differ
  have passed := Position.advance_of_lower (Stretch.text_of_lower lower)
  have lexeme : ((Stretch.first other).token start).plain =
      ((Stretch.first source).token start).plain := by
    have text : (Stretch.first other).kind.plainText
          (String.ofList (Stretch.first other).value) =
        (Stretch.first source).kind.plainText
          (String.ofList (Stretch.first source).value) := by
      rw [kind]
      by_cases keyword : (Stretch.first source).kind.isKeyword = true
      · rw [Kind.plainText, Kind.plainText, if_pos keyword, if_pos keyword]
      · rw [value (Bool.eq_false_iff.2 keyword)]
    rw [kind] at text
    simp only [Stretch.token, Token.plain, Span.covering, gap, kind, text,
      passed]
  simp only [Stretch.tokens, gap, kind, List.map_append, List.map_singleton,
    lexeme]

end

/-- Texts that differ in keywords only have the same tokens, but for the text of
keywords. -/
theorem plain_layOut {source other : List Char}
    (lower : other.map foldCase = source.map foldCase)
    (differ : DifferInKeywords (layOut layout start (stretches source)) start
      source other) :
    (layOut layout start (stretches other)).map Token.plain =
      (layOut layout start (stretches source)).map Token.plain := by
  fun_induction stretches source generalizing other layout start with
  | case1 source ih =>
    rw [← stretches] at differ ⊢
    have first := plain_tokens_of_differ lower differ
    have kind := (says_of_differ lower differ).1
    have later := behind_of_differ lower differ
    have moved :
        layout.behind ((Stretch.first other).tokens layout start) =
          layout.behind ((Stretch.first source).tokens layout start) := by
      rw [← Layout.behind_map_plain, first, Layout.behind_map_plain]
    have stop : start.advance (Stretch.first other).allText =
        start.advance (Stretch.first source).allText := by
      rw [Stretch.allText, Stretch.allText, Position.advance_append,
        Position.advance_append, gap_of_differ lower differ,
        Position.advance_of_lower (Stretch.text_of_lower lower)]
    rw [layOut_stretches, layOut_stretches, List.map_append,
      List.map_append, first]
    unfold laterTokens at later ⊢
    rw [kind, moved, stop]
    by_cases ended : (Stretch.first source).kind = .endOfText
    · rw [if_pos ended, if_pos ended]
    · rw [if_neg ended] at later ⊢
      rw [if_neg ended, ih ended (textBehind_of_lower lower) later]

/-! ## Sources -/

/-- Whether the character of a source with a given number belongs to a
keyword. -/
def InKeyword (source : String) (index : Nat) : Prop :=
  ∃ token ∈ tokens source, token.kind.isKeyword = true ∧
    token.span.start ≤ placeAfter (source.toList.take index) ∧
      placeAfter (source.toList.take index) < token.span.stop

instance (source : String) (index : Nat) : Decidable (InKeyword source index) :=
  inferInstanceAs (Decidable (∃ token ∈ tokens source, _))

/-- Two sources of the same length that differ only in the case of letters that
belong to keywords. -/
structure DifferInKeywordCase (source other : String) : Prop where
  length : other.toList.length = source.toList.length
  letters : ∀ (index : Nat) (here : index < source.toList.length)
    (there : index < other.toList.length),
    source.toList[index] ≠ other.toList[index] →
      foldCase source.toList[index] = foldCase other.toList[index] ∧
        InKeyword source index

namespace DifferInKeywordCase

variable {source other : String} (differ : DifferInKeywordCase source other)
include differ

theorem lower : other.toList.map foldCase = source.toList.map foldCase := by
  apply List.ext_getElem
  · rw [List.length_map, List.length_map, differ.length]
  · intro index there here
    rw [List.length_map] at there here
    rw [List.getElem_map, List.getElem_map]
    by_cases same : source.toList[index] = other.toList[index]
    · rw [same]
    · exact (differ.letters index here there same).1.symm

theorem inKeywords :
    DifferInKeywords (tokens source) .origin source.toList other.toList := by
  intro front letter back frontSecond otherLetter backSecond shape shapeSecond
    length apart
  have here : front.length < source.toList.length := by simp [shape]
  have there : front.length < other.toList.length := by
    simp [shapeSecond, length]
  have first : source.toList[front.length] = letter := by simp [shape]
  have second : other.toList[front.length] = otherLetter := by
    simp [shapeSecond, ← length]
  obtain ⟨_, token, member, keyword, begins, stops⟩ :=
    differ.letters front.length here there (by rwa [first, second])
  rw [shape, List.take_left, ← advance_origin] at begins stops
  exact ⟨token, member, keyword, begins, stops⟩

/-- Both sources have the same tokens, but for the text of keywords. -/
theorem plain_tokens :
    (tokens other).map Token.plain = (tokens source).map Token.plain := by
  have places := differ.inKeywords
  rw [tokens_eq_layOut] at places
  rw [tokens_eq_layOut, tokens_eq_layOut]
  exact plain_layOut differ.lower places

end DifferInKeywordCase

/-- The case of keywords is irrelevant: the script is the same with all its
places, and the same diagnostics are shown. -/
theorem parsing_ignores_keyword_case
    {source other : String} (differ : DifferInKeywordCase source other) :
    (Parsed.ofText other).script = (Parsed.ofText source).script ∧
      (Parsed.ofText other).diagnostics.map Diagnostic.shown =
        (Parsed.ofText source).diagnostics.map Diagnostic.shown := by
  have plain := plain_append_missingEnd differ.plain_tokens
  have rows : List.Forall₂ Pairing.plainly.pairs
      (tokens source ++ Cursor.missingEnd (tokens source))
      (tokens other ++ Cursor.missingEnd (tokens other)) := by
    have equal := List.forall₂_eq_eq_eq ▸ plain.symm
    rwa [List.forall₂_map_left_iff, List.forall₂_map_right_iff] at equal
  obtain ⟨scripts, reports⟩ := Pairing.twins_ofTokens rows rfl rfl
  exact ⟨scripts.equal trivial,
    reports Pairing.distinct_plainly fun tells => tells.shown trivial⟩

/-- A script whose function has no proper parameter and no end. -/
def brokenHeader : String := "Scriptname A\nInt Function F(As)"

/-- The same script with its keywords in other cases. -/
def brokenHeaderAloud : String := "SCRIPTNAME A\niNT FUNCTion F(aS)"

/-- Both are read as the same script with the same two errors, the first of
which meets a keyword. -/
theorem brokenHeader_ignores_case :
    DifferInKeywordCase brokenHeader brokenHeaderAloud ∧
      ((Parsed.ofText brokenHeaderAloud).script =
          (Parsed.ofText brokenHeader).script ∧
        (Parsed.ofText brokenHeaderAloud).diagnostics.map Diagnostic.shown =
          (Parsed.ofText brokenHeader).diagnostics.map Diagnostic.shown) ∧
      (Parsed.ofText brokenHeader).diagnostics.map Diagnostic.message =
        ["expected a parameter type or ')' in the parameter list " ++
            "but found 'As'",
          "unterminated function body: expected 'EndFunction' to close " ++
            "'Function' on line 2 but found end of file"] := by
  have differ : DifferInKeywordCase brokenHeader brokenHeaderAloud :=
    ⟨by decide, by decide +kernel⟩
  exact ⟨differ, parsing_ignores_keyword_case differ, by decide +kernel⟩

end PapyrusScript
