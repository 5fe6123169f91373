import Mathlib.Data.List.Infix
import PapyrusScript.Proofs.Insertion
import PapyrusScript.Proofs.Placeless
import PapyrusScript.Proofs.Transcript.Script

/-!
# Lines may be broken inside of brackets

In a script without errors a line feed may be put in front of any token that
stands inside of brackets, the closing bracket included.  Such a token stays in
its line, since the brackets of an accepted script are paired.  So the line
feed breaks no line: the tokens say the same as before, at other places.
-/

namespace PapyrusScript

variable {layout : Layout} {source : String}

/-! ## Tokens -/

/-- While a bracket is open, filler breaks no line in front of a token that
does not start one. -/
theorem lineBreak?_of_staysInLine {next : Kind} (within : 0 < layout.depth)
    (stays : next.staysInLine = true) (start : Position)
    (pieces : List Filler) : lineBreak? layout start pieces next = none := by
  simp only [Kind.staysInLine, Bool.and_eq_true, Bool.not_eq_true'] at stays
  simp [lineBreak?, Nat.ne_of_gt within, stays.2]

theorem lineBreak?_of_openBrackets
    {found : List Token} {start : Position} {pieces : List Filler} {next : Kind}
    (within : 0 < openBrackets
      (found ++ (lineBreak? layout start pieces next).toList)) :
    (lineBreak? layout start pieces next).toList = [] := by
  cases broken : lineBreak? layout start pieces next with
  | none => rfl
  | some line =>
    rw [broken, Option.toList_some, openBrackets_concat,
      if_pos (place_of_lineBreak? broken).1] at within
    exact absurd within (Nat.lt_irrefl 0)

/-- While a bracket is open, the gap in front of a stretch that stays in the
line does not matter to what the tokens say. -/
theorem said_layOut_behind {stretch : Stretch} (within : 0 < layout.depth)
    (stays : stretch.kind.staysInLine = true) (start : Position)
    (pieces : List Filler) (rest : List Stretch) :
    (layOut layout start (stretch.behind pieces :: rest)).map Token.said =
      (layOut layout start (stretch :: rest)).map Token.said := by
  have alone (other : Stretch) (kind : other.kind = stretch.kind) :
      other.tokens layout start = [other.token start] := by
    rw [Stretch.tokens, lineBreak?_of_staysInLine within (kind ▸ stays),
      Option.toList_none, List.nil_append]
  have same : ((stretch.behind pieces).tokens layout start).map Token.said =
      (stretch.tokens layout start).map Token.said := by
    rw [alone (stretch.behind pieces) rfl, alone stretch rfl]
    rfl
  rw [layOut, layOut, List.map_append, List.map_append, same,
    Layout.behind_congr same]
  exact congrArg _ (said_layOut_congr (alike_self rest) _ _ _)

theorem exists_token_of_mem
    {start : Position} {found : List Stretch} {stretch : Stretch}
    (member : stretch ∈ found) :
    ∃ token ∈ layOut layout start found, token.kind = stretch.kind := by
  induction found generalizing layout start with
  | nil => cases member
  | cons first rest ih =>
    rw [layOut]
    rcases List.mem_cons.1 member with rfl | later
    · refine ⟨stretch.token start, List.mem_append_left _ ?_, rfl⟩
      exact List.mem_append_right _ (List.mem_singleton_self _)
    · obtain ⟨token, there, kind⟩ := ih later
      exact ⟨token, List.mem_append_right _ there, kind⟩

/-- A source consists of the text in front of a token and the text from there
on. -/
structure Token.Parts
    (token : Token) (source : String) (before following : List Char) :
    Prop where
  whole : source.toList = before ++ following
  place : token.span.start = placeAfter before

/-- In front of every token that is no line break the source can be parted. -/
theorem exists_parts {token : Token} (member : token ∈ tokens source)
    (visible : token.kind ≠ .newline) :
    ∃ before following, token.Parts source before following := by
  obtain ⟨front, back, split⟩ := List.append_of_mem member
  rw [tokens_eq_layOut] at split
  obtain ⟨init, stretch, rest, cut, _, rfl, _⟩ :=
    exists_stretch_of_layOut split visible
  obtain ⟨remaining, whole, further⟩ := exists_remaining cut
  refine ⟨Stretch.wholeText init ++ Filler.allText stretch.gap,
    (Filler.readAll remaining).2, ?_, ?_⟩
  · rw [whole, head_stretches further, List.append_assoc]
    exact congrArg _ (Filler.readAll_append remaining).symm
  · rw [← advance_origin, Position.advance_append]
    rfl

/-- A line feed may be put in front of a token while a bracket is open, unless
the token can only start a line.  No token in front may be invalid, since a
backslash would continue its line then. -/
theorem tokens_insert_lineFeed
    {front back : List Token} {token : Token} {before following : List Char}
    (split : tokens source = front ++ token :: back)
    (valid : ∀ other ∈ tokens source, other.kind.isInvalid = false)
    (stays : token.kind.staysInLine = true) (within : 0 < openBrackets front)
    (parts : token.Parts source before following) :
    (tokens (String.ofList (before ++ '\n' :: following))).map Token.said =
      (tokens source).map Token.said := by
  have visible : token.kind ≠ .newline := by
    intro breaks
    rw [breaks] at stays
    cases stays
  have inside : token.kind ≠ .endOfText := by
    intro ended
    rw [ended] at stays
    cases stays
  rw [tokens_eq_layOut] at split valid
  obtain ⟨init, stretch, rest, cut, rfl, rfl, _⟩ :=
    exists_stretch_of_layOut split visible
  rw [lineBreak?_of_openBrackets within, List.append_nil] at within
  have smooth : ∀ other ∈ init, other.kind.isInvalid = false := by
    intro other member
    have found : other ∈ stretches source.toList := by
      rw [cut]
      exact List.mem_append_left _ member
    obtain ⟨same, there, kind⟩ := exists_token_of_mem found
    rw [← kind]
    exact valid same there
  obtain ⟨text, _, whole, again⟩ :=
    stretches_insert_of_setsApart cut inside Filler.setsApart_lineFeed
      (.inr smooth)
  rw [← List.append_assoc] at whole
  obtain rfl : Stretch.wholeText init ++ Filler.allText stretch.gap =
      before := by
    refine eq_of_placeAfter (whole.symm.trans parts.whole) ?_
    rw [← parts.place, ← advance_origin, Position.advance_append]
    rfl
  obtain rfl : text = following :=
    List.append_cancel_left (whole.symm.trans parts.whole)
  have deep : 0 < (Layout.initial.behind
      (layOut .initial .origin init)).depth := by
    rw [Layout.behind_initial]
    exact within
  have feed : Filler.allText [.lineFeed] ++ text = '\n' :: text := rfl
  rw [tokens_eq_layOut, tokens_eq_layOut, String.toList_ofList, cut,
    List.append_assoc, ← feed, again, layOut_append, layOut_append,
    List.map_append, List.map_append]
  exact congrArg _ (said_layOut_behind deep stays _ _ rest)

/-! ## Scripts -/

/-- In front of their end, tokens that are parsed without a report have paired
brackets. -/
theorem paired_of_accepted {tokens : List Token}
    (accepted : (Parsed.ofTokens tokens).diagnostics = []) :
    Paired (tokens.takeWhile fun token => token.kind ≠ .endOfText) := by
  obtain ⟨callables, -, placed⟩ :=
    Recovery.covers_script.holds_of_accepted accepted
  exact placed.paired

theorem not_isInvalid_of_accepted
    (accepted : (Parsed.ofText source).diagnostics = []) :
    ∀ token ∈ tokens source, token.kind.isInvalid = false := by
  have reports := lexicalErrors_eq_map source
  rw [accepted] at reports
  have nothing : invalidTokens (tokens source) = [] :=
    List.map_eq_nil_iff.1 reports.symm
  intro token member
  exact Bool.eq_false_iff.2 (List.filter_eq_nil_iff.1 nothing token member)

theorem ownPlaces_of_valid {found : List Token}
    (valid : ∀ token ∈ found, token.kind.isInvalid = false) :
    OwnPlaces found := by
  have nothing : invalidTokens found = [] :=
    List.filter_eq_nil_iff.2 fun token member =>
      Bool.eq_false_iff.1 (valid token member)
  rw [OwnPlaces, nothing]
  exact .nil

theorem valid_of_said {found twins : List Token}
    (same : twins.map Token.said = found.map Token.said)
    (valid : ∀ token ∈ found, token.kind.isInvalid = false) :
    ∀ token ∈ twins, token.kind.isInvalid = false := by
  intro twin member
  have said : twin.said ∈ found.map Token.said :=
    same ▸ List.mem_map_of_mem member
  obtain ⟨token, there, equal⟩ := List.mem_map.1 said
  have kind : token.kind = twin.kind := congrArg Prod.fst equal
  rw [← kind]
  exact valid token there

/-- A token inside of the brackets of an accepted script stays in its line, and
the brackets in front of it are counted as open. -/
theorem staysInLine_of_inBrackets {front back : List Token} {token : Token}
    (accepted : (Parsed.ofText source).diagnostics = [])
    (split : tokens source = front ++ token :: back)
    (inside : InBrackets front) :
    token.kind.staysInLine = true ∧ 0 < openBrackets front := by
  have paired := paired_of_accepted accepted
  have ends := (ascends_tokens source).ends
  rw [split, List.pairwise_append] at ends
  have visible : ∀ other ∈ front,
      (decide (other.kind ≠ .endOfText)) = true := by
    intro other member
    exact decide_eq_true (ends.2.2 other member token List.mem_cons_self)
  rw [split, List.takeWhile_append_of_pos visible] at paired
  by_cases ended : token.kind = .endOfText
  · rw [List.takeWhile_cons_of_neg (by simp [ended]), List.append_nil]
      at paired
    exact absurd inside paired.not_inBrackets
  · rw [List.takeWhile_cons_of_pos (by simp [ended])] at paired
    exact paired.inBrackets inside

/-- Lines may be broken freely inside of brackets: a line feed in front of any
token there gives a source that is parsed without errors, to the same script up
to places. -/
theorem parsing_ignores_line_feeds_in_brackets
    {source : String} {front back : List Token} {token : Token}
    (accepted : (Parsed.ofText source).diagnostics = [])
    (split : tokens source = front ++ token :: back)
    (inside : InBrackets front) :
    (∃ before following, token.Parts source before following) ∧
      ∀ before following, token.Parts source before following →
        (Parsed.ofText
            (String.ofList (before ++ '\n' :: following))).diagnostics = [] ∧
          (Parsed.ofText
              (String.ofList (before ++ '\n' :: following))).script.bare =
            (Parsed.ofText source).script.bare := by
  obtain ⟨stays, within⟩ := staysInLine_of_inBrackets accepted split inside
  have valid := not_isInvalid_of_accepted accepted
  constructor
  · refine exists_parts (split ▸ List.mem_append_cons_self) ?_
    intro breaks
    rw [breaks] at stays
    cases stays
  · intro before following parts
    have same := tokens_insert_lineFeed split valid stays within parts
    obtain ⟨scripts, reports⟩ := ofTokens_depends_on_said same
    have silent := reports (ownPlaces_of_valid valid)
      (ownPlaces_of_valid (valid_of_said same valid))
    rw [← Parsed.ofText, ← Parsed.ofText, accepted, List.map_nil,
      List.map_eq_nil_iff] at silent
    exact ⟨silent, scripts⟩

/-- A script with a subscript among the arguments of a call. -/
def subscriptInCall : String :=
  "Scriptname A\nFunction F(Int[] a)\nG(a[0] + 1)\nEndFunction\n"

def Token.startOfArguments : Token := ⟨.symbol .openParen, "(", ⟨3, 2⟩, ⟨3, 3⟩⟩

/-- The bracket that closes the subscript. -/
def Token.endOfSubscript : Token := ⟨.symbol .closeBracket, "]", ⟨3, 6⟩, ⟨3, 7⟩⟩

/-- The line may be broken in front of that bracket, which stands inside of two
brackets. -/
theorem subscriptInCall_over_two_lines :
    (Parsed.ofText subscriptInCall).diagnostics = [] ∧
      tokens subscriptInCall = (tokens subscriptInCall).take 17 ++
        Token.endOfSubscript :: (tokens subscriptInCall).drop 18 ∧
      InBrackets ((tokens subscriptInCall).take 17) ∧
      (Parsed.ofText ("Scriptname A\nFunction F(Int[] a)\n" ++
          "G(a[0\n] + 1)\nEndFunction\n")).diagnostics = [] ∧
      (Parsed.ofText ("Scriptname A\nFunction F(Int[] a)\n" ++
          "G(a[0\n] + 1)\nEndFunction\n")).script.bare =
        (Parsed.ofText subscriptInCall).script.bare := by
  have accepted : (Parsed.ofText subscriptInCall).diagnostics = [] := by
    decide +kernel
  have split : tokens subscriptInCall = (tokens subscriptInCall).take 17 ++
      Token.endOfSubscript :: (tokens subscriptInCall).drop 18 := by
    decide +kernel
  have inside : InBrackets ((tokens subscriptInCall).take 17) := by
    have within :
        ∀ passed ∈ (((tokens subscriptInCall).take 17).drop 14).inits,
          closings passed ≤ openings passed := by
      decide +kernel
    refine ⟨(tokens subscriptInCall).take 13, Token.startOfArguments,
      ((tokens subscriptInCall).take 17).drop 14, ?_, rfl,
      fun passed front => within passed ((List.mem_inits _ _).2 front)⟩
    decide +kernel
  have parts : Token.endOfSubscript.Parts subscriptInCall
      (subscriptInCall.toList.take 38) (subscriptInCall.toList.drop 38) :=
    ⟨(List.take_append_drop _ _).symm, by decide +kernel⟩
  have text : String.ofList (subscriptInCall.toList.take 38 ++
        '\n' :: subscriptInCall.toList.drop 38) =
      "Scriptname A\nFunction F(Int[] a)\n" ++
        "G(a[0\n] + 1)\nEndFunction\n" := by
    decide +kernel
  have broken :=
    (parsing_ignores_line_feeds_in_brackets accepted split inside).2 _ _ parts
  rw [text] at broken
  exact ⟨accepted, split, inside, broken⟩

end PapyrusScript
