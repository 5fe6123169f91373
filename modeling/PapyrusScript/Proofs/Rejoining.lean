import PapyrusScript.Proofs.Beside
import PapyrusScript.Proofs.Matching.Script

/-!
# Two runs that join behind a broken line

One text is read without a report.  In another one a line is broken, and else
the two are the same.  Behind the broken line the two runs stand in front of
the same tokens, none of which is invalid, with the same blocks open.  From
there on they do the same, and what the second run has reported is what it
reported of the broken line: the error that broke it, and lexical errors
after that.
-/

namespace PapyrusScript

open Cursor

variable {α β : Type}
variable {failure : Diagnostic}

/-! ## Texts without errors -/

namespace Cursor

variable {source target : Cursor} {passed : List Token}

/-- Where nothing has been reported, an invalid token would be. -/
theorem Move.invalidTokens_of_silent
    (move : Move source passed target) (silent : target.reported = [])
    (fresh : source.lastLexical = none) : invalidTokens passed = [] := by
  cases move with
  | pass ordinary =>
    apply invalidTokens_current_of_valid
    intro invalid
    simp [Kind.isOrdinary, invalid] at ordinary
  | discard invalid =>
    have told : source.discard =
        source.next.report source.current.lexicalReport := by
      simp [Cursor.discard, invalid, fresh]
    rw [told] at silent
    cases silent
  | reject =>
    rw [reported_next] at silent
    cases silent
  | report => rfl
  | enter => rfl
  | leave => rfl

theorem Path.invalidTokens_of_silent
    (path : Path source passed target) (silent : target.reported = [])
    (fresh : source.lastLexical = none) : invalidTokens passed = [] := by
  induction path with
  | stay => rfl
  | step path move ih =>
    have fewer := move.grows.reported
    rw [silent] at fewer
    have before := List.eq_nil_of_length_eq_zero (Nat.le_zero.1 fewer)
    rw [invalidTokens_append, ih before]
    exact move.invalidTokens_of_silent silent
      ((path.lastLexical_of_silent before).trans fresh)

end Cursor

/-- No token stands behind an end of the text. -/
def EndsOnce (tokens : List Token) : Prop :=
  tokens.Pairwise fun first _ => first.kind ≠ .endOfText

instance (tokens : List Token) : Decidable (EndsOnce tokens) :=
  inferInstanceAs (Decidable (List.Pairwise _ _))

theorem endsOnce_append_cons {front rest : List Token} {token : Token} :
    EndsOnce (front ++ token :: rest) ↔
      (∀ other ∈ front, other.kind ≠ .endOfText) ∧
        EndsOnce (token :: rest) := by
  unfold EndsOnce
  rw [List.pairwise_append]
  constructor
  · exact fun ⟨_, back, apart⟩ =>
      ⟨fun other member => apart other member token List.mem_cons_self, back⟩
  · intro ⟨inside, back⟩
    refine ⟨?_, back, fun other member _ _ => inside other member⟩
    exact List.pairwise_iff_getElem.2 fun _ _ _ _ _ =>
      inside _ (List.getElem_mem _)

theorem invalidTokens_of_silent {tokens : List Token} (ends : EndsOnce tokens)
    (silent : (Parsed.ofTokens tokens).diagnostics = []) :
    invalidTokens tokens = [] := by
  rw [Parsed.ofTokens_eq] at silent
  have passed := (path_script tokens).invalidTokens_of_silent
    (List.reverse_eq_nil_iff.1 silent) (lastLexical_start tokens)
  rwa [takeWhile_append_missingEnd, invalidTokens_takeWhile ends] at passed

/-! ## What is reported of a broken line -/

def FirstReport (failure : Diagnostic) (reported : List Diagnostic) : Prop :=
  ∃ further, reported = further ++ [failure] ∧
    ∀ diagnostic ∈ further, diagnostic.cause.isLexical = true

theorem FirstReport.ne_nil
    {reported : List Diagnostic} (first : FirstReport failure reported) :
    reported ≠ [] := by
  obtain ⟨further, rfl, _⟩ := first
  simp

/-- What is reported of a line that an error breaks: the error, and each
invalid token of the line that the error is not about. -/
def lineReports (failure : Diagnostic) (line : List Token) : List Diagnostic :=
  failure :: ((invalidTokens line).map Token.lexicalReport).filter
    fun report => report ≠ failure

theorem lexicalReport_ne_of_position
    {first second : Token} (apart : first.span.start ≠ second.span.start) :
    second.lexicalReport ≠ first.lexicalReport := by
  intro same
  have places := congrArg Diagnostic.position same
  rw [Token.lexicalReport, Token.lexicalReport,
    Diagnostic.position_unexpected, Diagnostic.position_unexpected] at places
  exact apart places.symm

/-- An error and lexical errors after it are what is reported of a line, if
the lexical errors among them are those of the line. -/
theorem FirstReport.reverse_eq_lineReports
    {reported : List Diagnostic} {line : List Token}
    (first : FirstReport failure reported) (own : OwnPlaces line)
    (lexical : lexicalErrors reported.reverse =
      (invalidTokens line).map Token.lexicalReport) :
    reported.reverse = lineReports failure line := by
  obtain ⟨further, rfl, onlyLexical⟩ := first
  have kept : lexicalErrors further.reverse = further.reverse :=
    List.filter_eq_self.2 fun diagnostic member =>
      onlyLexical diagnostic (List.mem_reverse.1 member)
  rw [List.reverse_append, List.reverse_singleton] at lexical ⊢
  rw [lexicalErrors_append, kept] at lexical
  unfold lineReports
  rw [← lexical, List.singleton_append, List.cons.injEq]
  refine ⟨rfl, ?_⟩
  by_cases isLexical : failure.cause.isLexical = true
  · -- the error is about the first invalid token of the line
    have first : lexicalErrors [failure] = [failure] :=
      List.filter_eq_self.2 (List.forall_mem_singleton.2 isLexical)
    rw [first, List.singleton_append] at lexical ⊢
    obtain ⟨token, tokens, found, about, rest⟩ :=
      List.map_eq_cons_iff.1 lexical.symm
    unfold OwnPlaces at own
    rw [found, List.pairwise_cons] at own
    rw [List.filter_cons_of_neg (by simp), ← rest]
    symm
    rw [List.filter_eq_self]
    intro report member
    obtain ⟨other, later, rfl⟩ := List.mem_map.1 member
    rw [← about]
    exact decide_eq_true (lexicalReport_ne_of_position (own.1 other later))
  · have nothing : lexicalErrors [failure] = [] :=
      List.filter_eq_nil_iff.2 (List.forall_mem_singleton.2 isLexical)
    rw [nothing, List.nil_append]
    symm
    rw [List.filter_eq_self]
    intro report member
    refine decide_eq_true fun same => isLexical ?_
    rw [← same]
    exact onlyLexical report (List.mem_reverse.1 member)

/-- The line is the only part of the text with invalid tokens. -/
theorem diagnostics_eq_lineReports
    {tokens line : List Token} (ends : EndsOnce tokens) (own : OwnPlaces line)
    (only : invalidTokens tokens = invalidTokens line)
    (first : FirstReport failure
      (Reader.script.run (start tokens)).2.reported) :
    (Parsed.ofTokens tokens).diagnostics = lineReports failure line := by
  have ownToo : OwnPlaces tokens := by
    unfold OwnPlaces
    rwa [only]
  have lexical := lexicalErrors_ofTokens ownToo
  rw [takeWhile_append_missingEnd, invalidTokens_takeWhile ends, only] at lexical
  rw [Parsed.ofTokens_eq] at lexical ⊢
  exact first.reverse_eq_lineReports own lexical

/-! ## Discarding the rest of a line -/

/-- The cursor has come to the rest of the text, and only lexical errors were
reported on the way. -/
structure Cursor.Cleared
    (source : Cursor) (rest : List Token) (target : Cursor) : Prop where
  budget : target.budget = rest
  openBlocks : target.openBlocks = source.openBlocks
  reported : ∃ further, target.reported = further ++ source.reported ∧
    ∀ diagnostic ∈ further, diagnostic.cause.isLexical = true

namespace Cursor.Cleared

variable {source target : Cursor} {rest : List Token}

theorem of_next (source : Cursor) :
    source.Cleared source.next.budget source.next :=
  ⟨rfl, openBlocks_next source, [], by rw [reported_next, List.nil_append],
    List.forall_mem_nil _⟩

/-- What is left to clear behind a token is cleared in front of it. -/
theorem of_discard (cleared : source.discard.Cleared rest target) :
    source.Cleared rest target := by
  obtain ⟨further, told, lexical⟩ := cleared.reported
  refine ⟨cleared.budget, cleared.openBlocks.trans (openBlocks_discard source),
    ?_⟩
  unfold Cursor.discard at told
  split at told
  · rename_i unreported
    rw [Bool.and_eq_true] at unreported
    refine ⟨further ++ [source.current.lexicalReport], ?_, ?_⟩
    · rw [told, reported_report, reported_next, List.append_assoc]
      rfl
    · intro diagnostic member
      rcases List.mem_append.1 member with member | member
      · exact lexical diagnostic member
      · rw [List.mem_singleton.1 member]
        exact Token.isLexical_lexicalReport unreported.1
  · rw [reported_next] at told
    exact ⟨further, told, lexical⟩

/-- An error was reported before the rest of its line was discarded. -/
theorem firstReport
    {failure : Diagnostic} (cleared : (source.report failure).Cleared rest target)
    (silent : source.reported = []) : FirstReport failure target.reported := by
  obtain ⟨further, told, lexical⟩ := cleared.reported
  rw [reported_report, silent] at told
  exact ⟨further, told, lexical⟩

end Cursor.Cleared

/-- The cursor stands in front of the rest of a line, which a line break
ends, and of what follows it. -/
structure Cursor.OnLine
    (row : List Token) (line : Token) (rest : List Token) (cursor : Cursor) :
    Prop where
  here : cursor.budget = row ++ line :: rest
  inside : ∀ token ∈ row, token.kind.endsLine = false
  breaks : line.kind = .newline

namespace Cursor.OnLine

variable {cursor : Cursor} {token line : Token} {row rest : List Token}

theorem kind_of_nil (onLine : cursor.OnLine [] line rest) :
    cursor.kind = .newline :=
  (kind_of_budget onLine.here).trans onLine.breaks

theorem budget_next_of_nil (onLine : cursor.OnLine [] line rest) :
    cursor.next.budget = rest :=
  budget_next_of_budget onLine.here (by rw [onLine.breaks]; nofun)

theorem current (onLine : cursor.OnLine (token :: row) line rest) :
    cursor.current = token :=
  current_of_budget onLine.here

theorem inLine (onLine : cursor.OnLine (token :: row) line rest) :
    cursor.kind ≠ .newline ∧ cursor.kind ≠ .endOfText := by
  have inLine := onLine.inside token List.mem_cons_self
  rw [← onLine.current] at inLine
  simp only [Kind.endsLine, Bool.or_eq_false_iff, decide_eq_false_iff_not]
    at inLine
  exact inLine

theorem next (onLine : cursor.OnLine (token :: row) line rest) :
    cursor.next.OnLine row line rest where
  here := budget_next_of_budget onLine.here (by
    rw [← onLine.current]
    exact onLine.inLine.2)
  inside other later := onLine.inside other (List.mem_cons_of_mem _ later)
  breaks := onLine.breaks

theorem discard (onLine : cursor.OnLine (token :: row) line rest) :
    cursor.discard.OnLine row line rest :=
  ⟨(budget_discard cursor).trans onLine.next.here, onLine.next.inside,
    onLine.breaks⟩

theorem report
    (onLine : cursor.OnLine row line rest) (diagnostic : Diagnostic) :
    (cursor.report diagnostic).OnLine row line rest :=
  ⟨onLine.here, onLine.inside, onLine.breaks⟩

end Cursor.OnLine

namespace Recovery

variable {cursor : Cursor} {row rest : List Token} {line : Token}

/-- The rest of a line is discarded up to where the line ends. -/
theorem cleared_skipLine (onLine : cursor.OnLine row line rest) :
    Reader.skipLine.Ends cursor fun _ after => cursor.Cleared rest after := by
  unfold Reader.skipLine
  rw [ends_bind, ends_get]
  induction row generalizing cursor with
  | nil =>
    have kind := onLine.kind_of_nil
    have inside : cursor.kind ≠ .endOfText := by
      rw [kind]
      nofun
    have passed : cursor.discard = cursor.next := by
      simp [Cursor.discard, kind, Kind.isInvalid]
    rw [ends_loop proceeds_discardInLine]
    unfold Reader.discardInLine
    rw [ends_bind, ends_get, if_neg inside, ends_bind, ends_discard,
      passed, if_pos (show cursor.current.kind = _ from kind), ends_pure,
      ← onLine.budget_next_of_nil]
    exact .of_next cursor
  | cons token row ih =>
    obtain ⟨goesOn, inside⟩ := onLine.inLine
    rw [ends_loop proceeds_discardInLine]
    unfold Reader.discardInLine
    rw [ends_bind, ends_get, if_neg inside, ends_bind, ends_discard,
      if_neg (show cursor.current.kind ≠ _ from goesOn), ends_pure]
    apply (ih onLine.discard).mono
    exact fun _ _ cleared => .of_discard cleared

/-- A broken statement is discarded up to where its line ends, if no block
terminator stands on it. -/
theorem cleared_synchronize (onLine : cursor.OnLine row line rest)
    (free : ∀ token ∈ row, token.kind.isBlockTerminator = false) :
    Reader.synchronize.Ends cursor
      fun _ after => cursor.Cleared rest after := by
  unfold Reader.synchronize
  rw [ends_bind, ends_get]
  induction row generalizing cursor with
  | nil =>
    rw [ends_loop proceeds_discardInStatement]
    unfold Reader.discardInStatement
    rw [ends_bind, ends_get, onLine.kind_of_nil, ends_bind, ends_advance,
      ends_pure, ← onLine.budget_next_of_nil]
    exact .of_next cursor
  | cons token row ih =>
    obtain ⟨goesOn, inside⟩ := onLine.inLine
    have stays := free token List.mem_cons_self
    rw [← onLine.current] at stays
    rw [ends_loop proceeds_discardInStatement]
    unfold Reader.discardInStatement
    rw [ends_bind, ends_get]
    split
    · rename_i found
      exact absurd found goesOn
    · rename_i found
      exact absurd found inside
    · rw [if_neg (by
          rw [show cursor.kind.isBlockTerminator = false from stays]
          nofun),
        ends_bind, ends_discard, ends_pure]
      apply (ih onLine.discard fun other later =>
        free other (List.mem_cons_of_mem _ later)).mono
      exact fun _ _ cleared => .of_discard cleared

end Recovery

/-! ## Behind the broken line -/

/-- Two rows of tokens are the same, and none of them is invalid.  In front of
the first nothing was reported. -/
def Pairing.valid (news : List Diagnostic) : Pairing where
  pairs token twin := twin = token ∧ token.kind.isInvalid = false
  kind both := congrArg Token.kind both.1
  text both _ := congrArg Token.text both.1
  Still := False
  span still := still.elim
  told := []
  toldTwin := news

/-- Two runs stand in front of the same valid tokens with the same blocks
open.  The first has reported nothing, the second an error and lexical errors
after it. -/
structure Cursor.Rejoined
    (failure : Diagnostic) (cursor twin : Cursor) : Prop where
  budget : twin.budget = cursor.budget
  valid : invalidTokens cursor.budget = []
  openBlocks : twin.openBlocks = cursor.openBlocks
  silent : cursor.reported = []
  reported : FirstReport failure twin.reported

namespace Cursor.Rejoined

variable {failure : Diagnostic} {cursor twin : Cursor}
  {news : List Diagnostic}

/-- Runs that have joined resemble each other from there on. -/
theorem resembles (joined : Rejoined failure cursor twin) :
    (Pairing.valid twin.reported).Resembles cursor twin where
  budget := by
    rw [joined.budget, List.forall₂_same]
    intro token member
    refine ⟨rfl, Bool.eq_false_iff.2 fun invalid => ?_⟩
    have found : token ∈ invalidTokens cursor.budget :=
      List.mem_filter.2 ⟨member, invalid⟩
    rw [joined.valid] at found
    cases found
  lastEnd still := still.elim
  openBlocks := joined.openBlocks
  lexical := by
    rintro - token other ⟨-, valid⟩ invalid
    rw [valid] at invalid
    cases invalid
  reported _ := ⟨[], [], by rw [joined.silent]; rfl, rfl, .nil⟩

/-- Runs that resemble each other have joined if the first is silent. -/
theorem of_resembles (alike : (Pairing.valid news).Resembles cursor twin)
    (silent : cursor.reported = []) (first : FirstReport failure news) :
    Rejoined failure cursor twin where
  budget := by
    have same : List.Forall₂ Eq cursor.budget twin.budget :=
      alike.budget.imp fun _ _ both => both.1.symm
    rwa [List.forall₂_eq_eq_eq, eq_comm] at same
  valid := by
    have valid := alike.budget
    generalize cursor.budget = row, twin.budget = twinRow at valid ⊢
    induction valid with
    | nil => rfl
    | cons both _ ih =>
      unfold invalidTokens at *
      rw [List.filter_cons_of_neg (by rw [both.2]; nofun), ih]
  openBlocks := alike.openBlocks
  silent := silent
  reported := by
    have distinct : (Pairing.valid news).Distinct := by
      rintro token _ _ _ ⟨-, valid⟩ - invalid -
      rw [valid] at invalid
      cases invalid
    have told : twin.reported = news :=
      (alike.reported distinct).eq_toldTwin silent
    rwa [told]

end Cursor.Rejoined

/-! ## Two runs side by side -/

namespace Recovery

variable {cursor cursorTwin : Cursor}

theorem Agrees.beside {reader : Recovery α} {known : α → Cursor → Cursor → Prop}
    (agrees : reader.Agrees cursor cursorTwin known) :
    reader.Beside reader cursor cursorTwin
      fun value other after twinAfter =>
        other = value ∧ known value after twinAfter :=
  agrees

end Recovery

/-- Two readers that match go on together behind the broken line, as long as
the first reports nothing. -/
theorem Recovery.Matches.rejoined
    {reader twin : Recovery α} {same : α → α → Prop}
    {cursor cursorTwin : Cursor}
    (both : ∀ news, reader.Matches (.valid news) twin same)
    (joined : Rejoined failure cursor cursorTwin)
    (silent : (reader.run cursor).2.reported = []) :
    same (reader.run cursor).1 (twin.run cursorTwin).1 ∧
      Rejoined failure (reader.run cursor).2 (twin.run cursorTwin).2 := by
  obtain ⟨answers, alike⟩ := both _ _ _ joined.resembles
  exact ⟨answers, .of_resembles alike silent joined.reported⟩

end PapyrusScript
