import PapyrusScript.Proofs.Detour.Script
import PapyrusScript.Proofs.HeaderLine
import PapyrusScript.Proofs.Truncation

/-!
# A broken line costs itself only

A statement of one line, or a condition, that is broken is given up at a token
of its line.  The error depends on the line alone: it is the same wherever the
line stands and whatever follows it.  Nothing else is reported on the way, and
the rest of the line is discarded, so the next line is where reading goes on.

A line of tokens that is no statement is put in front of some line of a body.
Its error is reported once, and each invalid token of it that this is not
about.  The script is what it was without the line.
-/

namespace PapyrusScript

open Cursor

section Errors

variable {α : Type} {cursor twin : Cursor} {row rest : List Token}
  {line : Token} {failure : Diagnostic}

/-- What starts at a cursor is decided by the tokens from there on. -/
theorem Cursor.atMemberStart_of_budget (same : twin.budget = cursor.budget) :
    twin.atMemberStart = cursor.atMemberStart := by
  have kindAt (distance : Nat) :
      twin.kindAt distance = cursor.kindAt distance := by
    rw [kindAt_eq, kindAt_eq, same]
  have kind : twin.kind = cursor.kind := kindAt 0
  unfold atMemberStart kindAfterType typeLength atTypeStart
  simp only [kind, kindAt]

/-- Whether a member starts at a cursor is decided by its line alone. -/
theorem Cursor.OnLine.atMemberStart
    {other : List Token} (onLine : cursor.OnLine row line rest)
    (twinOn : twin.OnLine row line other) :
    twin.atMemberStart = cursor.atMemberStart := by
  -- the second cursor, remembering what the first one remembers
  let placed := (twin.endingAt cursor.lastEnd).inSetting cursor.setting
  have same : twin.atMemberStart = placed.atMemberStart :=
    atMemberStart_of_budget rfl
  have onPlaced : placed.OnLine row line other :=
    ⟨twinOn.here, twinOn.inside, twinOn.breaks⟩
  rw [same]
  exact (onLine.amid onPlaced rfl rfl rfl).atMemberStart

/-- The token neither ends its line nor terminates a block, and it creates
nothing. -/
def Token.Inert (token : Token) : Prop :=
  token.kind.endsLine = false ∧ token.kind ≠ .keyword .newObject ∧
    token.kind.isBlockTerminator = false

instance (token : Token) : Decidable token.Inert :=
  inferInstanceAs (Decidable (_ ∧ _ ∧ _))

namespace Reader

variable {reader : Reader α}

/-- The error by which a reader gives up a row of tokens. -/
def errorOn? (reader : Reader α) (row : List Token) : Option Diagnostic :=
  match (reader.run.run (start row)).1 with
  | .ok _ => none
  | .error diagnostic => some diagnostic

/-- From here the reader stays on its line and only sees the tokens of it. -/
structure StaysOnLine (reader : Reader α) (cursor : Cursor) : Prop where
  agrees : ∀ fork twin, fork.Amid cursor twin →
    reader.Agrees fork cursor twin fun _ _ _ => True
  travels : reader.Travels cursor
  aloof : reader.Aloof Token.CreatesNothing cursor
  forgets : reader.ForgetsOrFails cursor

theorem staysOnLine_expression (cursor : Cursor) :
    expression.StaysOnLine cursor where
  agrees _ twin amid :=
    (steady_expression cursor twin amid).mono fun _ _ _ _ => trivial
  travels := (advances_expression cursor).travels
  aloof := aloof_expression cursor
  forgets := forgetsOrFails_expression cursor

/-- No statement of one line looks behind its line. -/
theorem staysOnLine_statement (inLine : cursor.kind ≠ .keyword .ifThen ∧
      cursor.kind ≠ .keyword .whileLoop) :
    (statement body).StaysOnLine cursor where
  agrees fork twin amid := by
    apply Agrees.look (by simp only [amid.kind, amid.atVariableStart])
    split
    · rename_i found
      exact absurd found inLine.1
    · rename_i found
      exact absurd found inLine.2
    · exact .map ((agrees_returnStatement amid).mono fun _ _ _ _ => trivial)
    · split
      · exact .map ((agrees_declareStatement amid).mono fun _ _ _ _ => trivial)
      · exact .map
          ((agrees_expressionStatement amid).mono fun _ _ _ _ => trivial)
  travels := (Recovery.advances_statement Recovery.travels_body cursor).travels
  aloof := aloof_statement body inLine
  forgets := forgetsOrFails_statement cursor body inLine

theorem onLine_alone (inLine : ∀ token ∈ row, token.kind.endsLine = false)
    (breaks : line.kind = .newline) :
    (start (row ++ [line])).OnLine row line (missingEnd (row ++ [line])) := by
  refine ⟨?_, inLine, breaks⟩
  rw [budget_start, List.append_assoc]
  rfl

theorem createsNothing_alone
    (inert : ∀ token ∈ row, token.Inert) (breaks : line.kind = .newline) :
    ∀ token ∈ (start (row ++ [line])).budget, token.CreatesNothing := by
  intro token member creates
  rw [budget_start, List.append_assoc] at member
  rcases List.mem_append.1 member with inRow | behind
  · exact (inert token inRow).2.1 creates
  · rcases List.mem_cons.1 behind with rfl | behind
    · cases breaks.symm.trans creates
    · cases (kind_of_mem_missingEnd behind).symm.trans creates

theorem run_of_errorOn? (rejects : reader.errorOn? row = some failure) :
    (reader.run.run (start row)).1 = .error failure := by
  unfold errorOn? at rejects
  split at rejects
  · cases rejects
  · rename_i found
    rw [← Option.some.inj rejects]
    exact found

/-- The error by which a line is given up does not depend on what the cursor
remembers, and nothing is reported. -/
theorem run_inSetting_of_errorOn?
    (stays : ∀ cursor rest, cursor.OnLine row line rest →
      reader.StaysOnLine cursor)
    (inert : ∀ token ∈ row, token.Inert) (breaks : line.kind = .newline)
    (rejects : reader.errorOn? (row ++ [line]) = some failure)
    {placed : Cursor} {lastEnd : Position} {setting : Setting}
    (place : placed =
      ((start (row ++ [line])).endingAt lastEnd).inSetting setting) :
    (reader.run.run placed).1 = .error failure ∧
      placed.Quiet (reader.run.run placed).2 := by
  have onSource := onLine_alone (fun token member => (inert token member).1)
    breaks
  have onEnded : ((start (row ++ [line])).endingAt lastEnd).OnLine row line
      (missingEnd (row ++ [line])) :=
    ⟨onSource.here, onSource.inside, onSource.breaks⟩
  have forgot := ((stays _ _ onSource).forgets lastEnd).1
  have aloof := ((stays _ _ onEnded).aloof
    (createsNothing_alone inert breaks)).1 setting
  rw [place, aloof, forgot]
  exact ⟨run_of_errorOn? rejects, rfl, rfl⟩

/-- A row that is given up by itself is given up by the same error in front of
more text, and nothing is reported. -/
theorem ends_errorOn (stays : ∀ cursor rest, cursor.OnLine row line rest →
      reader.StaysOnLine cursor)
    (onLine : twin.OnLine row line rest)
    (inert : ∀ token ∈ row, token.Inert)
    (rejects : reader.errorOn? (row ++ [line]) = some failure) :
    reader.Ends twin (fun _ _ => False) fun diagnostic after =>
      diagnostic = failure ∧
        (∃ more, more <:+ row ∧ after.OnLine more line rest) ∧
          twin.Quiet after := by
  -- the row by itself, remembering what the cursor remembers
  let placed := ((start (row ++ [line])).endingAt twin.lastEnd).inSetting
    twin.setting
  have onPlaced : placed.OnLine row line (missingEnd (row ++ [line])) :=
    ⟨(onLine_alone onLine.inside onLine.breaks).here, onLine.inside,
      onLine.breaks⟩
  obtain ⟨told, quiet⟩ : (reader.run.run placed).1 = .error failure ∧
      placed.Quiet (reader.run.run placed).2 :=
    run_inSetting_of_errorOn? stays inert onLine.breaks rejects rfl
  have further := stays placed _ onPlaced
  have agrees := further.agrees _ twin (onPlaced.amid onLine rfl rfl rfl)
  have reaches := further.travels.run
  unfold Agrees Recovery.Agrees at agrees
  unfold Recovery.Travels Recovery.Ends at reaches
  rw [told] at agrees
  obtain ⟨same, -, amid⟩ := agrees
  obtain ⟨more, inside, -, onLineAfter⟩ := onPlaced.of_amid reaches amid
  obtain ⟨_, _, faces⟩ := amid
  obtain ⟨news, here, there, -⟩ := faces.reported
  have nothing : news = [] :=
    List.self_eq_append_left.1 (quiet.reported.symm.trans here)
  have ends : Recovery.Ends reader.run twin fun answer after =>
      answer = .error failure ∧
        (∃ more, more <:+ row ∧ after.OnLine more line rest) ∧
          twin.Quiet after := by
    refine ⟨same, ⟨more, inside, onLineAfter⟩, ?_,
      faces.openBlocks.trans quiet.openBlocks⟩
    rw [there, nothing]
    rfl
  rw [Recovery.ends_run] at ends
  apply ends.mono
  · exact fun _ _ reached => nomatch reached.1
  · rintro _ _ ⟨⟨⟩, reached⟩
    exact ⟨rfl, reached⟩

end Reader

/-- Behind a broken line the error has been reported, and only lexical errors
besides. -/
structure Cursor.PastError
    (failure : Diagnostic) (rest : List Token) (source target : Cursor) :
    Prop where
  budget : target.budget = rest
  openBlocks : target.openBlocks = source.openBlocks
  reported : FirstReport failure target.reported

/-- The other text is read without a report up to the same tokens. -/
theorem Cursor.PastError.rejoined
    {source after : Cursor} (past : source.PastError failure rest twin)
    (budget : after.budget = rest) (valid : invalidTokens rest = [])
    (openBlocks : source.openBlocks = after.openBlocks)
    (silent : after.reported = []) : Rejoined failure after twin where
  budget := past.budget.trans budget.symm
  valid := by rwa [budget]
  openBlocks := past.openBlocks.trans openBlocks
  silent := silent
  reported := past.reported

namespace Recovery

open Reader

/-- The error of a line is reported, and the rest of the line discarded. -/
theorem ends_synchronizeAfter (onLine : cursor.OnLine row line rest)
    (free : ∀ token ∈ row, token.kind.isBlockTerminator = false)
    (silent : cursor.reported = []) (failure : Diagnostic) (value : α) :
    Ends (do
      Reader.report failure
      synchronize
      return value) cursor fun found after => found = value ∧
        cursor.PastError failure rest after := by
  rw [ends_bind, ends_report]
  apply Ends.bind (cleared_synchronize (onLine.report failure) free)
  intro _ after cleared
  exact ⟨rfl, cleared.budget, cleared.openBlocks, cleared.firstReport silent⟩

section Broken

variable (onLine : twin.OnLine row line rest) (silent : twin.reported = [])
  (inert : ∀ token ∈ row, token.Inert)

include onLine silent inert

/-- The error of a line by itself is met wherever the line stands. -/
theorem ends_errorAfter
    {reader : Reader α} {β : Type} {following : Except Diagnostic α → Recovery β}
    {value : β}
    (stays : ∀ cursor rest, cursor.OnLine row line rest →
      reader.StaysOnLine cursor)
    (onError : ∀ diagnostic, following (.error diagnostic) = (do
      Reader.report diagnostic
      synchronize
      return value))
    (rejects : reader.errorOn? (row ++ [line]) = some failure) :
    Ends (reader.run >>= following) twin fun found after => found = value ∧
      twin.PastError failure rest after := by
  rw [ends_bind, ends_run]
  apply (ends_errorOn stays onLine inert rejects).mono
  · exact fun _ _ never => never.elim
  · rintro _ after ⟨rfl, ⟨more, inside, onLine⟩, quiet⟩
    rw [onError]
    apply (ends_synchronizeAfter onLine (fun token member =>
      (inert token (inside.subset member)).2.2) (quiet.reported.trans silent) _
      value).mono
    rintro _ last ⟨same, past⟩
    exact ⟨same, past.budget, past.openBlocks.trans quiet.openBlocks,
      past.reported⟩

/-- A condition that is broken is reported and discarded. -/
theorem ends_brokenCondition (context : String)
    (rejects : expression.errorOn? (row ++ [line]) = some failure) :
    (condition context).Ends twin fun found after => found = none ∧
      twin.PastError failure rest after :=
  ends_errorAfter onLine silent inert
    (fun cursor _ _ => staysOnLine_expression cursor) (fun _ => rfl)
    rejects

/-- A statement of one line that is broken is reported and discarded. -/
theorem ends_brokenLine (outside : twin.atMemberStart = false)
    (starts : twin.kind ∉
      [.docComment, .keyword .ifThen, .keyword .whileLoop, .newline])
    (rejects : (statement body).errorOn? (row ++ [line]) = some failure)
    (block : Block) (statements : List Statement) :
    (bodyLine body block statements).Ends twin
      fun decision after => decision = .again statements ∧
        twin.PastError failure rest after := by
  simp only [List.mem_cons, List.not_mem_nil, or_false, not_or] at starts
  obtain ⟨noDoc, noIf, noWhile, noBreak⟩ := starts
  cases row with
  | nil => exact absurd onLine.kind_of_nil noBreak
  | cons first row =>
    have twinOn := onLine.here
    have open_ : twin.kind.isBlockTerminator = false := by
      rw [kind_of_budget twinOn]
      exact (inert first List.mem_cons_self).2.2
    have unclosed : block.closedBy twin.kind = false := by
      by_contra closes
      rw [Bool.not_eq_false] at closes
      rw [isBlockTerminator_of_closedBy closes] at open_
      cases open_
    have stays (cursor : Cursor) (rest : List Token)
        (onLine : cursor.OnLine (first :: row) line rest) :
        (statement body).StaysOnLine cursor := by
      have same : cursor.kind = twin.kind := by
        rw [kind_of_budget onLine.here, kind_of_budget twinOn]
      apply staysOnLine_statement
      rw [same]
      exact ⟨noIf, noWhile⟩
    unfold bodyLine Ends
    rw [run_skipNewlines_bind_of_ne _ noBreak, run_get_bind]
    dsimp only
    rw [if_neg (by simp [onLine.inLine.2, unclosed, outside]),
      if_neg (by simp [open_]), if_neg noDoc]
    exact ends_errorAfter onLine silent inert stays
      (fun _ => rfl) rejects

end Broken

/-- A condition that nothing is reported of has been found, and its line
ends behind it. -/
theorem ends_cleanCondition
    (onLine : cursor.OnLine row line rest) (context : String) :
    (condition context).Ends cursor fun found after =>
      after.reported = [] → (∃ value, found = some value) ∧
        after.budget = rest := by
  have steady := steady_expression cursor cursor
    (onLine.amid onLine rfl rfl rfl)
  have told {after : Cursor} (diagnostic : Diagnostic)
      (value : Option Expression) : Ends (do
        Reader.report diagnostic
        synchronize
        return value) after fun found last =>
          last.reported = [] → (∃ value, found = some value) ∧
            last.budget = rest := by
    apply Ends.mono (tells_synchronizeAfter diagnostic value)
    intro _ _ more silent
    rw [silent] at more
    exact absurd more (Nat.not_lt_zero _)
  unfold condition
  rw [ends_bind, ends_run]
  apply (steady.ends.and (advances_expression cursor).travels).mono
  · rintro value after ⟨⟨-, amid⟩, reaches⟩
    obtain ⟨more, -, onLine, -⟩ := onLine.of_amid reaches amid
    rw [ends_bind, ends_run]
    apply (ends_endOfLine_of_onLine onLine context).mono
    · rintro _ _ ⟨rfl, rfl⟩ _
      exact ⟨⟨value, rfl⟩, onLine.budget_next_of_nil⟩
    · exact fun _ _ _ => told _ _
  · exact fun _ _ _ => told _ _

end Recovery

end Errors

/-! ## A broken line costs itself only -/

/-- A line that is put in front of a line of a body. -/
structure LineInsertion where
  front : List Token
  comments : List Token
  first : Token
  more : List Token
  broken : List Token
  line : Token
  starts : ∃ row line, front = row ++ [line] ∧ line.kind = .newline
  commented : ∀ token ∈ comments, token.kind = .docComment
  inBody : first.kind ∉
    [.newline, .endOfText, .docComment, .keyword .endState,
      .keyword .endProperty]
  undeclared : (start (first :: more)).atMemberStart = false
  inert : ∀ token ∈ broken, token.Inert
  inLine : Heads
    (· ∉ [.docComment, .keyword .ifThen, .keyword .whileLoop, .newline]) broken
  undeclaredToo : (start (broken ++ [line])).atMemberStart = false
  breaks : line.kind = .newline

namespace LineInsertion

variable (insertion : LineInsertion)

/-- The text from the line on. -/
def onward : List Token :=
  insertion.comments ++ insertion.first :: insertion.more

def text : List Token := insertion.front ++ insertion.onward

/-- The text with the broken line. -/
def brokenText : List Token :=
  insertion.front ++ (insertion.broken ++ insertion.line :: insertion.onward)

def detour (failure : Diagnostic) : Detour where
  docs := insertion.comments
  first := insertion.first
  more := insertion.more ++ missingEnd insertion.text
  other := insertion.broken ++ insertion.line ::
    (insertion.onward ++ missingEnd insertion.text)
  failure
  gone := (· = [])
  through _ _ := False

variable {insertion} {failure : Diagnostic}

theorem rest_detour : (insertion.detour failure).rest =
    insertion.onward ++ missingEnd insertion.text := by
  simp [Detour.rest, detour, onward]

theorem missingEnd_text : missingEnd insertion.text =
    missingEnd (insertion.first :: insertion.more) := by
  rw [text, onward, ← List.append_assoc,
    missingEnd_append (List.cons_ne_nil _ _)]

theorem missingEnd_brokenText :
    missingEnd insertion.brokenText = missingEnd insertion.text := by
  have nonempty : insertion.onward ≠ [] := by simp [onward]
  rw [text, missingEnd_append nonempty, brokenText, ← List.append_assoc]
  have cons : insertion.front ++ insertion.broken ++
      insertion.line :: insertion.onward =
        insertion.front ++ insertion.broken ++ [insertion.line] ++
          insertion.onward := by
    simp
  rw [cons, missingEnd_append nonempty]

/-- The end of the text is still its only one. -/
theorem endsOnce_brokenText (ends : EndsOnce insertion.text) :
    EndsOnce insertion.brokenText := by
  have shape : insertion.brokenText = insertion.front ++
      (insertion.broken ++ [insertion.line]) ++ insertion.onward := by
    simp [brokenText]
  obtain ⟨first, rest, onward⟩ := List.exists_cons_of_ne_nil
    (show insertion.onward ≠ [] by simp [onward])
  rw [text, onward, endsOnce_append_cons] at ends
  rw [shape, onward, endsOnce_append_cons]
  refine ⟨fun token member => ?_, ends.2⟩
  rcases List.mem_append.1 member with before | inLine
  · exact ends.1 token before
  · rcases List.mem_append.1 inLine with inside | last
    · intro atEnd
      have inert := (insertion.inert token inside).1
      rw [atEnd] at inert
      cases inert
    · rw [List.mem_singleton.1 last, insertion.breaks]
      nofun

theorem invalidTokens_brokenText (valid : invalidTokens insertion.text = []) :
    invalidTokens insertion.brokenText = invalidTokens insertion.broken := by
  have line : invalidTokens (insertion.line :: insertion.onward) =
      invalidTokens insertion.onward := by
    unfold invalidTokens
    rw [List.filter_cons_of_neg (by rw [insertion.breaks]; nofun)]
  rw [text, invalidTokens_append, List.append_eq_nil_iff] at valid
  rw [brokenText, invalidTokens_append, invalidTokens_append, line, valid.1,
    valid.2, List.append_nil]
  rfl

/-- The broken line does not start a member, whatever follows it. -/
theorem atMemberStart_twin {twin : Cursor} {rest : List Token}
    (here : twin.budget = insertion.broken ++ insertion.line :: rest) :
    twin.atMemberStart = false := by
  rw [← insertion.undeclaredToo]
  have inside token (member : token ∈ insertion.broken) :=
    (insertion.inert token member).1
  have alone : (start (insertion.broken ++ [insertion.line])).OnLine
      insertion.broken insertion.line
      (missingEnd (insertion.broken ++ [insertion.line])) := by
    refine ⟨?_, inside, insertion.breaks⟩
    rw [budget_start, List.append_assoc]
    rfl
  exact alone.atMemberStart ⟨here, inside, insertion.breaks⟩

theorem kind_twin {twin : Cursor} {rest : List Token}
    (here : twin.budget = insertion.broken ++ insertion.line :: rest) :
    twin.kind ∉
      [.docComment, .keyword .ifThen, .keyword .whileLoop, .newline] := by
  have heads := insertion.inLine
  cases broken : insertion.broken with
  | nil => rw [broken] at heads; exact heads.elim
  | cons token row =>
    rw [broken] at here heads
    rw [kind_of_budget here]
    exact heads

theorem valid_onward (valid : invalidTokens insertion.text = []) :
    invalidTokens (insertion.onward ++ missingEnd insertion.text) = [] := by
  rw [text, invalidTokens_append, List.append_eq_nil_iff] at valid
  rw [invalidTokens_append, valid.2, invalidTokens_missingEnd, List.append_nil]

/-- Nothing is missing from a body that is the same in both texts. -/
theorem lacking_of_same
    {body twin : List Statement} (same : SameBy Statement.bareBody body twin) :
    (insertion.detour failure).Lacking body twin := by
  have nothing : Statement.BodyLacks (· = []) ([] ++ ([] ++ body))
      ([] ++ body) :=
    .here [] body rfl
  exact ⟨body, nothing, same⟩

/-- Behind the broken line both texts are read in the same way. -/
theorem crosses_bodyLines (valid : invalidTokens insertion.text = [])
    (rejects : (Reader.statement Reader.body).errorOn?
      (insertion.broken ++ [insertion.line]) = some failure)
    (block : Block) (statements : List Statement) {cursor twin : Cursor}
    (silent : cursor.reported = [])
    (faces : (insertion.detour failure).fork.Faces [] cursor twin) :
    (Reader.bodyLines block statements).Crosses failure cursor twin
      (fun _ _ _ => False) (insertion.detour failure).Lacking := by
  have proceeds := Recovery.proceeds_bodyLine Recovery.travels_body block
  have here : cursor.budget = insertion.onward ++ missingEnd insertion.text :=
    faces.here.trans rest_detour
  have there : twin.budget = insertion.broken ++ insertion.line ::
      (insertion.onward ++ missingEnd insertion.text) := faces.there
  have onLine : twin.OnLine insertion.broken insertion.line
      (insertion.onward ++ missingEnd insertion.text) :=
    ⟨there, fun token member => (insertion.inert token member).1,
      insertion.breaks⟩
  have broken := Recovery.ends_brokenLine onLine
    (faces.silent_twin rfl silent) insertion.inert (atMemberStart_twin there)
    (insertion.kind_twin there) rejects block statements
  have onward := Recovery.run_loop proceeds statements twin
  unfold Recovery.Ends at broken
  generalize (Reader.bodyLine Reader.body block statements).run twin =
    decided at broken onward
  obtain ⟨_, after⟩ := decided
  obtain ⟨rfl, past⟩ := broken
  have joined : Rejoined failure cursor after :=
    past.rejoined here (valid_onward valid) faces.openBlocks silent
  have line news (found twinFound : List Statement)
      (same : SameBy (List.map Statement.bare) found twinFound) :
      (Reader.bodyLine Reader.body block found).Matches (.valid news)
        (Reader.bodyLine Reader.body block twinFound)
        (Step.Decides (SameBy (List.map Statement.bare))) :=
    Recovery.matches_bodyLine Recovery.matches_body
      (fun same next => same.concat next.known) block same
  have joins := Recovery.Matches.joins (fun news => .get fun _ _ alike =>
    .loop (line news) alike.length
      (rfl : SameBy (List.map Statement.bare) statements statements)) joined
  intro quiet
  obtain ⟨same, joined⟩ := joins quiet
  rw [Reader.bodyLines, onward]
  refine .inr ⟨lacking_of_same ?_, joined⟩
  unfold SameBy at *
  rwa [Statement.bareBody_eq_map, Statement.bareBody_eq_map]

theorem otherStarts : Heads
    (· ∉ [.docComment, .keyword .ifThen, .keyword .whileLoop, .newline])
    (insertion.detour failure).other := by
  have heads := insertion.inLine
  show Heads _ (insertion.broken ++ _)
  cases broken : insertion.broken with
  | nil => rw [broken] at heads; exact heads.elim
  | cons token row => rw [broken] at heads; exact heads

/-- The two runs may pass the broken line: only the line is missing. -/
theorem passable (valid : invalidTokens insertion.text = [])
    (rejects : (Reader.statement Reader.body).errorOn?
      (insertion.broken ++ [insertion.line]) = some failure) :
    (insertion.detour failure).Passable where
  commented := insertion.commented
  starts := insertion.inBody
  undeclared cursor here := by
    rw [← insertion.undeclared]
    apply Cursor.atMemberStart_of_budget
    rw [here, budget_start]
    exact congrArg (insertion.first :: insertion.more ++ ·) missingEnd_text
  otherStarts := otherStarts.mono fun kind apart breaks => by
    simp [breaks] at apart
  otherPlain _ := otherStarts.mono fun kind apart doc => by
    simp [doc] at apart
  inBody block statements _ _ silent faces :=
    crosses_bodyLines valid rejects block statements silent faces
  elseIf _ _ never := never.elim
  lastEnd _ _ never := never.elim
  leave _ _ never := never.elim
  inArms _ _ _ _ _ never := never.elim
  widens _ _ _ gone := nomatch gone

/-- No declaration of the script starts where the line is put. -/
def InMember (insertion : LineInsertion) : Prop :=
  ∀ found cursor, DeclaredUpTo insertion.text found cursor →
    cursor.budget ≠ insertion.onward ++ missingEnd insertion.text

/-- A line that is no statement is put in front of a line of a body in a
script without errors.  The script stays as it is, the error of the line is
reported, and each invalid token of the line that this is not about. -/
theorem broken_line_costs_itself (ends : EndsOnce insertion.text)
    (silent : (Parsed.ofTokens insertion.text).diagnostics = [])
    (inMember : insertion.InMember) (own : OwnPlaces insertion.broken)
    (rejects : (Reader.statement Reader.body).errorOn?
      (insertion.broken ++ [insertion.line]) = some failure) :
    SameBy Script.bare (Parsed.ofTokens insertion.text).script
        (Parsed.ofTokens insertion.brokenText).script ∧
      (Parsed.ofTokens insertion.brokenText).diagnostics =
        lineReports failure insertion.broken := by
  have valid := invalidTokens_of_silent ends silent
  have inside : ∀ token ∈ insertion.front, token.kind ≠ .endOfText := by
    obtain ⟨first, rest, onward⟩ := List.exists_cons_of_ne_nil
      (show insertion.onward ≠ [] by simp [onward])
    rw [text, onward, endsOnce_append_cons] at ends
    exact ends.1
  have faces : (insertion.detour failure).fork.Faces insertion.front
      (start insertion.text) (start insertion.brokenText) := by
    refine Fork.faces_start insertion.starts rest_detour ?_ rfl rfl inside
    have same : missingEnd (insertion.front ++ (insertion.broken ++
        insertion.line :: insertion.onward)) = missingEnd insertion.text :=
      missingEnd_brokenText
    rw [same]
    simp [Detour.fork, detour]
  obtain ⟨edited, changed, same, reported⟩ := Detour.exists_edited
    (passable valid rejects) ⟨_, faces⟩
    (fun found cursor upTo => rest_detour ▸ inMember found cursor upTo) silent
  rw [changed.eq fun _ _ lacks => lacks.eq] at same
  exact ⟨same, diagnostics_eq_lineReports (endsOnce_brokenText ends) own
    (invalidTokens_brokenText valid) reported⟩

/-! ## A line in an arm -/

/-- A line that starts with a closing parenthesis, in the arm of a
conditional. -/
def inArm : LineInsertion where
  front := Heading.door.tokens ++
    [.onLine 4 (.keyword .function) "Function", .onLine 5 .identifier "Open",
      .onLine 6 (.symbol .openParen) "(", .onLine 7 (.symbol .closeParen) ")",
      .onLine 8 .newline "\n", .onLine 9 (.keyword .ifThen) "If",
      .onLine 10 (.keyword .trueLiteral) "True", .onLine 11 .newline "\n"]
  comments := [.onLine 18 .docComment "{done}"]
  first := .onLine 12 (.keyword .endIf) "EndIf"
  more :=
    [.onLine 13 .newline "\n", .onLine 14 (.keyword .endFunction) "EndFunction"]
  broken :=
    [.onLine 15 (.symbol .closeParen) ")",
      .onLine 16 (.invalid .unexpectedCharacter) "@"]
  line := .onLine 17 .newline "\r\n"
  starts := ⟨Heading.door.tokens ++
    [.onLine 4 (.keyword .function) "Function", .onLine 5 .identifier "Open",
      .onLine 6 (.symbol .openParen) "(", .onLine 7 (.symbol .closeParen) ")",
      .onLine 8 .newline "\n", .onLine 9 (.keyword .ifThen) "If",
      .onLine 10 (.keyword .trueLiteral) "True"], _, rfl, rfl⟩
  commented := by decide
  inBody := by decide
  undeclared := by decide
  inert := by decide
  inLine := show Kind.symbol .closeParen ∉ _ by decide
  undeclaredToo := by decide
  breaks := rfl

/-- The error that breaks the line. -/
def inArmError : Diagnostic :=
  .unexpected (.onLine 15 (.symbol .closeParen) ")") "an expression"

/-- The parenthesis is reported, then the invalid token behind it, and the
function is what it was. -/
theorem inArm_costs_itself :
    EndsOnce inArm.text ∧ (Parsed.ofTokens inArm.text).diagnostics = [] ∧
      inArm.InMember ∧ OwnPlaces inArm.broken ∧
      (Reader.statement Reader.body).errorOn? (inArm.broken ++ [inArm.line]) =
        some inArmError ∧
      SameBy Script.bare (Parsed.ofTokens inArm.text).script
        (Parsed.ofTokens inArm.brokenText).script ∧
      (Parsed.ofTokens inArm.brokenText).diagnostics =
        [inArmError, (Token.onLine 16 (.invalid .unexpectedCharacter)
          "@").lexicalReport] := by
  have ends : EndsOnce inArm.text := by decide
  have silent : (Parsed.ofTokens inArm.text).diagnostics = [] := by decide
  have own : OwnPlaces inArm.broken := by decide
  have rejects : (Reader.statement Reader.body).errorOn?
      (inArm.broken ++ [inArm.line]) = some inArmError := by
    decide
  have inMember : inArm.InMember := by
    intro found cursor upTo here
    have place := congrArg List.length here
    rcases upTo.top_or_length_le (by decide) (show _ ≤ 1 by decide) with
      ⟨rfl, -⟩ | behind
    · exact absurd place (by decide)
    · rw [place] at behind
      exact absurd behind (by decide)
  obtain ⟨same, diagnostics⟩ :=
    broken_line_costs_itself ends silent inMember own rejects
  refine ⟨ends, silent, inMember, own, rejects, same, ?_⟩
  rw [diagnostics]
  decide

end LineInsertion

end PapyrusScript
