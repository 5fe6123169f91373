import PapyrusScript.Proofs.Isolation.Body
import PapyrusScript.Proofs.Layout.Declarations
import PapyrusScript.Proofs.LexicalReports

/-!
# Declarations are read as if they stood alone

Between two declarations the cursor remembers four things: where the last
token ended, which blocks are open, where the last lexical error was, and
what has been reported.  None of them changes what is read next: the first
is replaced before it is looked at, no block is open, the lexical error was
at an earlier token, and reports are only added to.  So declarations behind
others are read as they are behind a bare header line.
-/

namespace PapyrusScript

/-! ## Where the last token ended -/

variable {α β : Type} {cursor : Cursor}

namespace Cursor

def endingAt (cursor : Cursor) (place : Position) : Cursor :=
  { cursor with lastEnd := place }

theorem next_endingAt (inLine : cursor.kind ≠ .newline) (place : Position) :
    (cursor.endingAt place).next = cursor.next := by
  have same : (cursor.endingAt place).kind ≠ .newline := inLine
  unfold next
  simp only [if_neg inLine, if_neg same]
  rfl

theorem next_endingAt_newline
    (breaks : cursor.kind = .newline) (place : Position) :
    (cursor.endingAt place).next = cursor.next.endingAt place := by
  have same : (cursor.endingAt place).kind = .newline := breaks
  obtain ⟨current, ahead, lastEnd, blocks, lexical, told, ended⟩ := cursor
  unfold next
  simp only [if_pos breaks, if_pos same]
  cases ahead with
  | nil => unfold endingAt; split <;> rfl
  | cons following rest => unfold endingAt; split <;> rfl

end Cursor

def Recovery.Forgets (reader : Recovery α) (cursor : Cursor) : Prop :=
  ∀ place, reader.run (cursor.endingAt place) = reader.run cursor

def Reader.Forgets (reader : Reader α) (cursor : Cursor) : Prop :=
  Recovery.Forgets reader.run cursor

namespace Recovery

variable {reader : Recovery α}

theorem Forgets.bind
    (forgets : reader.Forgets cursor) (following : α → Recovery β) :
    Forgets (reader >>= following) cursor := by
  intro place
  show (following (reader.run (cursor.endingAt place)).1).run
    (reader.run (cursor.endingAt place)).2 = _
  rw [forgets place]
  rfl

theorem Forgets.look {following : Cursor → Recovery β}
    (same : ∀ place, following (cursor.endingAt place) = following cursor)
    (forgets : (following cursor).Forgets cursor) :
    Forgets (get >>= following) cursor := by
  intro place
  show (following (cursor.endingAt place)).run (cursor.endingAt place) = _
  rw [same place]
  exact forgets place

theorem forgets_advance (inLine : cursor.kind ≠ .newline) :
    Reader.advance.Forgets cursor := by
  intro place
  show (cursor.current, (cursor.endingAt place).next) = _
  rw [Cursor.next_endingAt inLine]
  rfl

theorem Forgets.lift (forgets : reader.Forgets cursor) :
    Reader.Forgets (liftM reader) cursor := by
  have answered := forgets.bind fun value =>
    (pure (Except.ok value) : Recovery (Except Diagnostic α))
  exact answered

theorem Forgets.report {diagnostic : Diagnostic}
    (forgets : reader.Forgets (cursor.report diagnostic)) :
    Forgets (Reader.report diagnostic >>= fun _ => reader) cursor :=
  fun place => forgets place

theorem Forgets.unexpected
    {expected : String} {following : Diagnostic → Recovery β}
    (forgets : ∀ diagnostic, (following diagnostic).Forgets cursor) :
    Forgets (Reader.unexpected expected >>= following) cursor :=
  fun place => forgets _ place

end Recovery

namespace Reader

theorem Forgets.bind {reader : Reader α} (forgets : reader.Forgets cursor)
    (following : α → Reader β) : Forgets (reader >>= following) cursor := by
  unfold Forgets
  rw [ExceptT.run_bind]
  exact Recovery.Forgets.bind forgets _

theorem Forgets.map
    {reader : Reader α} (forgets : reader.Forgets cursor) (change : α → β) :
    Forgets (change <$> reader) cursor := by
  rw [map_eq_pure_bind]
  exact forgets.bind _

theorem Forgets.look {following : Cursor → Reader β}
    (same : ∀ place, following (cursor.endingAt place) = following cursor)
    (forgets : (following cursor).Forgets cursor) :
    Forgets (get >>= following) cursor :=
  @Recovery.Forgets.look _ _ (fun cursor => (following cursor).run)
    (fun place => congrArg ExceptT.run (same place)) forgets

theorem Forgets.afterLook
    {reader : Recovery α} {following : α → Reader β} {value : α}
    (here : reader.run cursor = (value, cursor))
    (there : ∀ place, reader.run (cursor.endingAt place) =
      (value, cursor.endingAt place))
    (forgets : (following value).Forgets cursor) :
    Forgets (liftM reader >>= following) cursor := by
  intro place
  show (following (reader.run (cursor.endingAt place)).1).run.run
      (reader.run (cursor.endingAt place)).2 =
    (following (reader.run cursor).1).run.run (reader.run cursor).2
  rw [there, here]
  exact forgets place

/-! ## Declarations -/

theorem forgets_expect
    {kind : Kind} (found : cursor.kind = kind) (inLine : kind ≠ .newline)
    (purpose : String) : (expect kind purpose).Forgets cursor := by
  apply Forgets.look (fun _ => rfl)
  rw [if_pos found]
  exact (Recovery.forgets_advance (found ▸ inLine)).lift

/-- A type replaces the last end before it is looked at. -/
theorem forgets_typeName (starts : cursor.atTypeStart = true) :
    typeName.Forgets cursor := by
  have inLine : cursor.kind ≠ .newline := by
    have free := Fork.endsLine_of_atTypeStart starts
    intro breaks
    rw [breaks] at free
    cases free
  have named : ∃ dataType, dataType? cursor.current = some dataType := by
    unfold Cursor.atTypeStart Cursor.kind at starts
    unfold dataType?
    cases found : cursor.current.kind with
    | identifier => exact ⟨_, rfl⟩
    | keyword word =>
      cases word <;> simp [found, Kind.isTypeKeyword] at starts ⊢
    | _ => simp [found, Kind.isTypeKeyword] at starts
  obtain ⟨dataType, names⟩ := named
  have element : elementType.Forgets cursor := by
    apply Forgets.look (fun _ => rfl)
    rw [names]
    exact ((Recovery.forgets_advance inLine).lift).bind _
  exact element.bind _

theorem forgets_function
    (found : cursor.kind = .keyword .function) (returnType : Option TypeName) :
    (function returnType).Forgets cursor :=
  (forgets_expect found nofun "").bind _

theorem forgets_event (found : cursor.kind = .keyword .event) :
    event.Forgets cursor :=
  (forgets_expect found nofun "").bind _

theorem forgets_importLine (found : cursor.kind = .keyword .importScript) :
    importLine.Forgets cursor :=
  (forgets_expect found nofun "").bind _

/-- A state replaces the last end before it is looked at. -/
theorem forgets_stateMembers
    (found : cursor.kind = .keyword .state ∨ cursor.kind = .keyword .auto) :
    stateMembers.Forgets cursor := by
  apply Forgets.look (fun _ => rfl)
  rcases found with found | found
  · have unmarked (cursor : Cursor) (found : cursor.kind = .keyword .state) :
        autoMark.run cursor = (false, cursor) := by
      unfold autoMark
      show (if cursor.kind = .keyword .auto then _ else _ : Recovery _).run
        cursor = _
      rw [if_neg (by rw [found]; nofun)]
      rfl
    apply Forgets.afterLook (unmarked cursor found)
      (fun place => unmarked (cursor.endingAt place) found)
    exact (forgets_expect found nofun "").bind _
  · have marked : Recovery.Forgets autoMark cursor := by
      apply Recovery.Forgets.look (fun _ => rfl)
      rw [if_pos found]
      exact (Recovery.forgets_advance (by rw [found]; nofun)).bind _
    exact marked.lift.bind _

/-- A declaration that is none but starts with a type or the keyword of a
function. -/
theorem forgets_plainMember (starts : cursor.kind = .keyword .function ∨
      cursor.atTypeStart = true) : plainMember.Forgets cursor := by
  apply Forgets.look (fun _ => rfl)
  split
  · rename_i found
    exact (forgets_function found none).map _
  · rename_i other
    exact (forgets_typeName (starts.resolve_left other)).bind _

/-- A member replaces the last end before it is looked at. -/
theorem forgets_members (declares : cursor.atDeclaration = true)
    (noImport : cursor.kind ≠ .keyword .importScript)
    (noHeader : cursor.kind ≠ .keyword .scriptname) :
    members.Forgets cursor := by
  apply Forgets.look (fun _ => rfl)
  split
  · rename_i found
    exact (forgets_event found).bind _
  · rename_i found
    exact forgets_stateMembers (.inl found)
  · rename_i found
    exact forgets_stateMembers (.inr found)
  · rename_i noEvent noState noAuto
    refine (forgets_plainMember ?_).bind _
    rcases Bool.or_eq_true_iff.1 declares with member | starts
    · unfold Cursor.atMemberStart at member
      split at member
      · rename_i found
        exact .inl found
      · rename_i found
        exact absurd found noEvent
      · rename_i found
        exact absurd found noState
      · rename_i found
        exact absurd found noImport
      · rename_i found
        exact absurd found noHeader
      · rename_i found
        exact absurd found noAuto
      · exact .inr (Bool.and_eq_true_iff.1 member).1
    · exact .inr (Bool.and_eq_true_iff.1 starts).1

end Reader

namespace Recovery

open Reader

/-! ## Recovery -/

theorem forgets_skipLine
    (inLine : cursor.kind ≠ .newline) (inside : cursor.kind ≠ .endOfText) :
    skipLine.Forgets cursor := by
  have discarded : discard.Forgets cursor := (forgets_advance inLine).bind _
  have step : (discardInLine ()).Forgets cursor := by
    apply Forgets.look (fun _ => rfl)
    rw [if_neg inside]
    exact discarded.bind _
  apply Forgets.look (fun _ => rfl)
  exact step.bind _

theorem forgets_reportAndRecover
    (inLine : cursor.kind ≠ .newline) (inside : cursor.kind ≠ .endOfText)
    (diagnostic : Diagnostic) :
    (reportAndRecover diagnostic).Forgets cursor := by
  have skipped : skipLine.Forgets (cursor.report diagnostic) :=
    forgets_skipLine inLine inside
  exact .report (skipped.bind _)

/-- A declaration replaces the last end before it is looked at. -/
theorem forgets_nextDeclaration
    (inLine : cursor.kind ≠ .newline) (inside : cursor.kind ≠ .endOfText)
    (found : Reader.ScriptBody) :
    (nextDeclaration found).Forgets cursor := by
  -- there is no line break to be passed first
  intro place
  have start (following : Unit → Recovery (Step Reader.ScriptBody))
      (forgets : (following ()).Forgets cursor) :
      (skipNewlines >>= following).run (cursor.endingAt place) =
        (skipNewlines >>= following).run cursor := by
    have sameKind : (cursor.endingAt place).kind ≠ .newline := inLine
    show (following (skipNewlines.run (cursor.endingAt place)).1).run
        (skipNewlines.run (cursor.endingAt place)).2 =
      (following (skipNewlines.run cursor).1).run
        (skipNewlines.run cursor).2
    rw [run_skipNewlines_of_ne sameKind, run_skipNewlines_of_ne inLine]
    exact forgets place
  apply start
  apply Forgets.look (fun _ => rfl)
  split
  · rename_i atEnd
    exact absurd atEnd inside
  · exact (forgets_advance inLine).bind _
  · exact (forgets_reportAndRecover inLine inside _).bind _
  · rename_i found
    have read : Forgets importLine.run cursor := forgets_importLine found
    exact read.bind _
  · rename_i noHeader noImport
    split
    · rename_i declares
      have read : Forgets members.run cursor :=
        forgets_members declares noImport noHeader
      exact read.bind _
    · exact .unexpected fun diagnostic =>
        (forgets_reportAndRecover inLine inside diagnostic).bind _

/-! ## All that is left -/

/-- Passing line breaks keeps where the last token ended. -/
theorem run_skipNewlines_endingAt (cursor : Cursor) (place : Position) :
    skipNewlines.run (cursor.endingAt place) =
      ((), (skipNewlines.run cursor).2.endingAt place) := by
  by_cases breaks : cursor.kind = .newline
  · have same : (cursor.endingAt place).kind = .newline := breaks
    rw [run_skipNewlines_next same, Cursor.next_endingAt_newline breaks,
      run_skipNewlines_next breaks]
    exact run_skipNewlines_endingAt cursor.next place
  · have same : (cursor.endingAt place).kind ≠ .newline := breaks
    rw [run_skipNewlines_of_ne same, run_skipNewlines_of_ne breaks]
termination_by cursor.budget.length
decreasing_by
  exact Cursor.precedes_next (by
    rw [breaks]
    nofun)

/-- At the end of the text nothing more is declared. -/
theorem run_nextDeclaration_of_endOfText
    (atEnd : (skipNewlines.run cursor).2.kind = .endOfText)
    (found : Reader.ScriptBody) :
    (nextDeclaration found).run cursor =
      (.done found, (skipNewlines.run cursor).2) := by
  have breaks : skipNewlines.Ends cursor fun _ after =>
      after = (skipNewlines.run cursor).2 :=
    rfl
  have ends : (nextDeclaration found).Ends cursor
      fun decision after => (decision, after) =
        (.done found, (skipNewlines.run cursor).2) := by
    unfold nextDeclaration
    apply breaks.bind
    rintro _ _ rfl
    rw [ends_bind, ends_get, atEnd]
    exact rfl
  exact ends

theorem run_nextDeclaration_skipNewlines
    (found : Reader.ScriptBody) (cursor : Cursor) :
    (nextDeclaration found).run cursor =
      (nextDeclaration found).run
        (skipNewlines.run cursor).2 := by
  unfold nextDeclaration
  exact run_skipNewlines_bind _ cursor

/-- The declarations that are left are read the same wherever the last token
ended. -/
theorem Finishes.endingAt {value final : Reader.ScriptBody} {after : Cursor}
    (finished : Finishes nextDeclaration value cursor final after)
    (place : Position) :
    ∃ last,
      Finishes nextDeclaration value (cursor.endingAt place) final
          last ∧
        last.reported = after.reported := by
  have breaks := congrArg Prod.snd (run_skipNewlines_endingAt cursor place)
  by_cases atEnd : (skipNewlines.run cursor).2.kind = .endOfText
  · have stops := run_nextDeclaration_of_endOfText atEnd value
    have stopsToo : (nextDeclaration value).run
        (cursor.endingAt place) =
          (.done value, (skipNewlines.run cursor).2.endingAt place) := by
      rw [run_nextDeclaration_of_endOfText (by rw [breaks]; exact atEnd),
        breaks]
    obtain ⟨rfl, rfl⟩ := finished.unique (.done stops)
    exact ⟨_, .done stopsToo, rfl⟩
  · have inLine := ends_skipNewlines cursor
    have same : (nextDeclaration value).run (cursor.endingAt place) =
        (nextDeclaration value).run cursor := by
      rw [run_nextDeclaration_skipNewlines, breaks,
        forgets_nextDeclaration inLine atEnd value place,
        ← run_nextDeclaration_skipNewlines]
    refine ⟨after, ?_, rfl⟩
    cases finished with
    | done stops => exact .done (same.trans stops)
    | again goesOn precedes rest => exact .again (same.trans goesOn) precedes rest

end Recovery

/-! ## Declarations behind others -/

/-- The same decision, with what it is about changed. -/
def Step.map (change : α → α) : Step α → Step α
  | .again value => .again (change value)
  | .done value => .done (change value)

def Reader.ScriptBody.append (before found : Reader.ScriptBody) :
    Reader.ScriptBody :=
  ⟨before.imports ++ found.imports, before.members ++ found.members⟩

namespace Recovery

variable {cursor : Cursor}

/-! ## What has been found before -/

/-- What has been declared in front is kept in front. -/
theorem nextDeclaration_append (before found : Reader.ScriptBody) :
    Reader.nextDeclaration (before.append found) =
      Step.map before.append <$> Reader.nextDeclaration found := by
  unfold Reader.nextDeclaration
  rw [map_bind]
  refine bind_congr fun _ => ?_
  rw [map_bind]
  refine bind_congr fun cursor => ?_
  split
  · rw [map_pure]
    rfl
  · rw [map_bind]
    exact bind_congr fun _ => (map_pure _ _).symm
  · rw [map_bind]
    exact bind_congr fun _ => (map_pure _ _).symm
  · rw [map_bind]
    refine bind_congr fun answer => ?_
    cases answer with
    | ok next => simp [Step.map, Reader.ScriptBody.append]
    | error diagnostic => simp [Step.map]
  · split
    · rw [map_bind]
      refine bind_congr fun answer => ?_
      cases answer with
      | ok next => simp [Step.map, Reader.ScriptBody.append]
      | error diagnostic => simp [Step.map]
    · simp [Step.map]

/-- What has been declared in front is in front at the end. -/
theorem Finishes.append {value final : Reader.ScriptBody} {after : Cursor}
    (finished : Finishes Reader.nextDeclaration value cursor final after)
    (before : Reader.ScriptBody) :
    Finishes Reader.nextDeclaration (before.append value) cursor
      (before.append final) after := by
  have ran {value : Reader.ScriptBody} {cursor after : Cursor}
      {decision : Step Reader.ScriptBody}
      (run : (Reader.nextDeclaration value).run cursor = (decision, after)) :
      (Reader.nextDeclaration (before.append value)).run cursor =
        (decision.map before.append, after) := by
    rw [nextDeclaration_append, StateT.run_map, run]
    rfl
  induction finished with
  | done stops => exact .done (ran stops)
  | again goesOn precedes _ ih =>
    exact .again (ran goesOn) precedes ih

end Recovery

/-! ## Where the last lexical error was -/

namespace Cursor

variable {source target : Cursor} {passed : List Token}

/-- Where no lexical error is reported the last one stays the same. -/
theorem Move.lastLexical_of_syntactic (move : Move source passed target)
    (syntactic : ∀ diagnostic ∈ target.reported,
      diagnostic.cause.isLexical = false) :
    target.lastLexical = source.lastLexical := by
  have told {token : Token} (invalid : token.kind.isInvalid = true) :
      token.lexicalReport ∉ target.reported := by
    intro member
    have lexical := Token.isLexical_lexicalReport invalid
    rw [syntactic _ member] at lexical
    cases lexical
  cases move with
  | pass => exact lastLexical_next source
  | discard invalid =>
    unfold Cursor.discard at told ⊢
    split at told
    · exact absurd List.mem_cons_self (told invalid)
    · rename_i other
      rw [if_neg other, lastLexical_next]
  | reject invalid =>
    rw [reported_next] at told
    exact absurd List.mem_cons_self (told invalid)
  | report _ notLexical =>
    unfold Cursor.report
    dsimp only
    rw [notLexical]
    rfl
  | enter => rfl
  | leave => rfl

theorem Path.lastLexical_of_syntactic (path : Path source passed target)
    (syntactic : ∀ diagnostic ∈ target.reported,
      diagnostic.cause.isLexical = false) :
    target.lastLexical = source.lastLexical := by
  induction path with
  | stay => rfl
  | step path move ih =>
    rw [move.lastLexical_of_syntactic syntactic]
    exact ih fun diagnostic member =>
      syntactic diagnostic (move.reported_suffix.subset member)

theorem Path.lastLexical_of_silent
    (path : Path source passed target) (silent : target.reported = []) :
    target.lastLexical = source.lastLexical := by
  apply path.lastLexical_of_syntactic
  rw [silent]
  exact List.forall_mem_nil _

end Cursor

/-! ## A bare header line -/

/-- A header line that only names its script. -/
structure Heading where
  keyword : Token
  name : Token
  line : Token
  opens : keyword.kind = .keyword .scriptname
  named : name.kind = .identifier
  breaks : line.kind = .newline

namespace Heading

open Cursor

variable (heading : Heading) {more : List Token}

def tokens : List Token := [heading.keyword, heading.name, heading.line]

theorem heads_more
    (plain : ∀ token rest, more = token :: rest → token.kind ≠ .docComment) :
    Heads (· ≠ .docComment)
      (more ++ missingEnd (heading.tokens ++ more)) := by
  cases more with
  | nil =>
    have inside : ∀ token ∈ heading.tokens ++ [], token.kind ≠ .endOfText := by
      simp [tokens, heading.opens, heading.named, heading.breaks]
    apply (heads_missingEnd inside).mono
    rintro _ rfl
    nofun
  | cons token rest => exact plain token rest rfl

/-- Behind a bare header line nothing has been found, nothing is open and
nothing has been reported. -/
theorem exists_behind
    (plain : ∀ token rest, more = token :: rest → token.kind ≠ .docComment) :
    ∃ behind : Cursor,
      behind.budget = more ++ missingEnd (heading.tokens ++ more) ∧
        behind.openBlocks = [] ∧ behind.lastLexical = none ∧
          behind.reported = [] ∧
            ∃ after,
              Recovery.Finishes Reader.nextDeclaration ⟨[], []⟩ behind
                ⟨(Parsed.ofTokens (heading.tokens ++ more)).script.imports,
                  (Parsed.ofTokens (heading.tokens ++ more)).script.members⟩
                after ∧
              (Parsed.ofTokens (heading.tokens ++ more)).diagnostics =
                after.reported.reverse := by
  have row : (start (heading.tokens ++ more)).budget =
      heading.tokens ++ (more ++ missingEnd (heading.tokens ++ more)) := by
    rw [budget_start, List.append_assoc]
  obtain ⟨found, finished, imports, members⟩ :=
    Recovery.ends_script (start (heading.tokens ++ more))
  have travels := Recovery.travels_scriptTop (start (heading.tokens ++ more))
  have takes : Recovery.scriptTop.Takes heading.tokens
      (more ++ missingEnd (heading.tokens ++ more)) fun _ => True := by
    have breaks : Reader.skipNewlines.Takes []
        (heading.tokens ++ (more ++ missingEnd (heading.tokens ++ more)))
        fun _ => True := by
      intro cursor here
      have first : cursor.kind ≠ .newline := by
        rw [kind_of_budget here, heading.opens]
        nofun
      unfold Recovery.Ends
      rw [Recovery.run_skipNewlines_of_ne first]
      exact ⟨trivial, here, .refl cursor⟩
    apply Recovery.Takes.after breaks
    intro _ _
    exact (Reader.takes_header heading.opens heading.named .nothing .nil
      (.absent heading.breaks) (heading.heads_more plain)).mono
      fun _ _ => trivial
  obtain ⟨_, here, quiet⟩ := takes _ row
  have silent := quiet.reported.trans (reported_start _)
  obtain ⟨⟨_, path⟩, blocks⟩ := travels
  refine ⟨_, here, blocks.trans (openBlocks_start _),
    (path.lastLexical_of_silent silent).trans (lastLexical_start _),
    silent, (Reader.script.run (start (heading.tokens ++ more))).2,
    ?_, ?_⟩
  · rw [Parsed.ofTokens_eq]
    dsimp only
    rw [imports, members]
    exact finished
  · rw [Parsed.ofTokens_eq]

end Heading

namespace Recovery

variable {fork : Fork} {cursor : Cursor}

/-! ## What follows -/

/-- Where nothing follows the row, what is read along it is all there is. -/
theorem Finishes.along {value final : Reader.ScriptBody} {after : Cursor}
    (everything : fork.rest = []) (finished : Finishes Reader.nextDeclaration value cursor final after) :
    ∀ twin, fork.Along cursor twin → ∃ twinAfter,
      Finishes Reader.nextDeclaration value twin final twinAfter ∧
        fork.Along after twinAfter := by
  have plain : fork.Plain := by
    constructor <;> simp [everything]
  have stays {cursor : Cursor} : ¬ fork.Left cursor := by
    intro left
    have nothing := left.budget
    rw [everything] at nothing
    exact Nat.not_succ_le_zero _ nothing
  induction finished with
  | @done value _ _ _ stops =>
    intro twin along
    rcases agreesUnless_nextDeclaration plain value along with lost | agrees
    · unfold Ends at lost
      rw [stops] at lost
      exact absurd lost.2 stays
    · obtain ⟨twinAfter, ran, _, _, amid⟩ := agrees.of_run stops
      exact ⟨twinAfter, .done ran, amid.along⟩
  | @again value _ _ _ _ _ goesOn _ _ ih =>
    intro twin along
    rcases agreesUnless_nextDeclaration plain value along with lost | agrees
    · unfold Ends at lost
      rw [goesOn] at lost
      exact absurd lost.toLeft stays
    · obtain ⟨between, ran, along⟩ := agrees.of_run goesOn
      obtain ⟨twinAfter, finished, along⟩ := ih between along
      have proceeded := proceeds_nextDeclaration value twin
      unfold Proceeds Ends at proceeded
      rw [ran] at proceeded
      exact ⟨twinAfter, .again ran (proceeded.2 rfl) finished, along⟩

/-- Where only the end of the text is left, there is no declaration. -/
theorem finishes_of_endOfText
    (atEnd : cursor.kind = .endOfText) (found : Reader.ScriptBody) :
    Finishes Reader.nextDeclaration found cursor found cursor := by
  have noBreak : cursor.kind ≠ .newline := by
    rw [atEnd]
    nofun
  have stays := run_skipNewlines_of_ne noBreak
  have behind : (Reader.skipNewlines.run cursor).2.kind = .endOfText := by
    rw [stays]
    exact atEnd
  have stops := run_nextDeclaration_of_endOfText behind found
  rw [stays] at stops
  exact .done stops

end Recovery

theorem Cursor.missingEnd_append
    {before more : List Token} (nonempty : more ≠ []) :
    missingEnd (before ++ more) = missingEnd more := by
  unfold missingEnd
  rw [List.getLast?_append_of_ne_nil before nonempty]

theorem Cursor.kind_of_getLast?_missingEnd {tokens : List Token} {token : Token}
    (last : (tokens ++ missingEnd tokens).getLast? = some token) :
    token.kind = .endOfText := by
  unfold missingEnd at last
  split at last
  · rw [List.getLast?_concat] at last
    exact Option.some.inj last ▸ rfl
  · rename_i found
    split at last
    · rename_i atEnd
      rw [List.append_nil, found] at last
      exact Option.some.inj last ▸ atEnd
    · rw [List.getLast?_concat] at last
      exact Option.some.inj last ▸ rfl

/-- The declarations that are left are read alike from another cursor in front
of the same tokens, with the same blocks open, if the two remember the same
lexical errors of these tokens. -/
theorem Recovery.Finishes.elsewhere
    {value final : Reader.ScriptBody} {cursor twin after : Cursor}
    (finished : Finishes Reader.nextDeclaration value cursor final after)
    (here : twin.budget = cursor.budget)
    (ended : ∀ token, cursor.budget.getLast? = some token →
      token.kind = .endOfText)
    (openBlocks : twin.openBlocks = cursor.openBlocks)
    (lexical : ∀ token ∈ cursor.budget, token.kind.isInvalid = true →
      (twin.lastLexical = some token.span.start ↔
        cursor.lastLexical = some token.span.start))
    (silent : cursor.reported = []) :
    ∃ last, Finishes Reader.nextDeclaration value twin final last ∧
      last.reported = after.reported ++ twin.reported := by
  -- both stand in front of all that is left, and memory does not matter
  let fork : Fork := ⟨[], [], [], twin.reported, fun _ => True⟩
  have faces : fork.Faces cursor.budget (cursor.endingAt twin.lastEnd) twin :=
    { here := (List.append_nil _).symm
      there := by rw [List.append_nil]; exact here
      closed := by
        intro token last
        rw [ended token last]
        rfl
      known := fun _ _ => trivial
      lastEnd := rfl
      openBlocks
      lexical
      reported := ⟨[], silent, rfl, List.forall_mem_nil _⟩ }
  obtain ⟨lastMoved, moved, same⟩ := finished.endingAt twin.lastEnd
  obtain ⟨last, finishedToo, along⟩ := moved.along rfl twin ⟨_, faces⟩
  refine ⟨last, finishedToo, ?_⟩
  obtain ⟨_, agreed⟩ := along
  obtain ⟨news, toldHere, toldThere, _⟩ := agreed.reported
  rw [toldThere, ← same, toldHere, List.append_nil]

/-- What follows other declarations is read as behind a bare header line. -/
theorem Heading.exists_finishes
    (heading : Heading) {before more : List Token} {cursor : Cursor}
    (plain : ∀ token rest, more = token :: rest → token.kind ≠ .docComment)
    (here : cursor.budget = more ++ Cursor.missingEnd (before ++ more))
    (nothing : cursor.openBlocks = [])
    (ended : ∀ token ∈ before, token.kind ≠ .endOfText)
    (fresh : ∀ token ∈ more, token.kind.isInvalid = true →
      cursor.lastLexical ≠ some token.span.start)
    (found : Reader.ScriptBody) :
    ∃ after,
      Recovery.Finishes Reader.nextDeclaration found cursor
        (found.append
          ⟨(Parsed.ofTokens (heading.tokens ++ more)).script.imports,
            (Parsed.ofTokens (heading.tokens ++ more)).script.members⟩)
        after ∧
      after.reported.reverse = cursor.reported.reverse ++
        (Parsed.ofTokens (heading.tokens ++ more)).diagnostics := by
  obtain ⟨behind, place, openBlocks, lexical, silent, last, finished, told⟩ :=
    heading.exists_behind plain
  have whole : found.append ⟨[], []⟩ = found := by
    simp [Reader.ScriptBody.append]
  rw [told]
  have answered := finished.append found
  rw [whole] at answered
  by_cases nonempty : more = []
  · subst nonempty
    have bare : ∀ token ∈ heading.tokens ++ [], token.kind ≠ .endOfText := by
      simp [Heading.tokens, heading.opens, heading.named, heading.breaks]
    have atEnd := (heads_missingEnd bare).kind place
    obtain ⟨same, rfl⟩ :=
      answered.unique (Recovery.finishes_of_endOfText atEnd found)
    refine ⟨cursor, ?_, ?_⟩
    · rw [same]
      have insideToo : ∀ token ∈ before ++ [], token.kind ≠ .endOfText := by
        rwa [List.append_nil]
      exact Recovery.finishes_of_endOfText
        ((heads_missingEnd insideToo).kind here) found
    · rw [silent, List.reverse_nil, List.append_nil]
  · rw [Cursor.missingEnd_append nonempty] at place here
    obtain ⟨after, finishedToo, reported⟩ := answered.elsewhere
      (here.trans place.symm)
      (fun token ends => Cursor.kind_of_getLast?_missingEnd (place ▸ ends))
      (nothing.trans openBlocks.symm)
      (by
        intro token member invalid
        rw [place] at member
        have valid := List.filter_eq_nil_iff.1
          (invalidTokens_missingEnd more) token
        have within := (List.mem_append.1 member).resolve_right
          fun later => valid later invalid
        simp [lexical, fresh token within invalid])
      silent
    exact ⟨after, finishedToo, by rw [reported, List.reverse_append]⟩

end PapyrusScript
