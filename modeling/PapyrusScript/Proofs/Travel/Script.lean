import PapyrusScript.Grammar.Script
import PapyrusScript.Proofs.Travel.Statement

/-!
# Where the readers of scripts take the cursor

A loop is given a budget of steps, one for each token that is left.  When
every step that goes on passes a token, the budget never runs out: the loop
ends because a step ends it.  `Finishes` is what such a loop means without
any budget, and `ends_loop` takes one step off it.

A declaration is only followed by another one if a token was passed: a broken
one that failed at its first token is skipped, and that token is none at which
skipping stops.
-/

-- All readers are described for the same sorts, also those that report nothing.
set_option linter.unusedSectionVars false

namespace PapyrusScript

open Cursor

section Loops

variable {α : Type}

/-- The loop ends with a value at a cursor because one of its steps ends it,
and every step before that one passes a token. -/
inductive Recovery.Finishes (step : α → Recovery (Step α)) :
    α → Cursor → α → Cursor → Prop
  | done {value final : α} {cursor after : Cursor}
      (stops : (step value).run cursor = (.done final, after)) :
      Finishes step value cursor final after
  | again {value following final : α} {cursor between after : Cursor}
      (goesOn : (step value).run cursor = (.again following, between))
      (advances : cursor.Precedes between)
      (rest : Finishes step following between final after) :
      Finishes step value cursor final after

/-- The same for a loop whose steps may fail, which ends it as well. -/
inductive Reader.Finishes (step : α → Reader (Step α)) :
    α → Cursor → Except Diagnostic α → Cursor → Prop
  | failed {value : α} {diagnostic : Diagnostic} {cursor after : Cursor}
      (stops : (step value).run.run cursor = (.error diagnostic, after)) :
      Finishes step value cursor (.error diagnostic) after
  | done {value final : α} {cursor after : Cursor}
      (stops : (step value).run.run cursor = (.ok (.done final), after)) :
      Finishes step value cursor (.ok final) after
  | again {value following : α} {final : Except Diagnostic α}
      {cursor between after : Cursor}
      (goesOn : (step value).run.run cursor = (.ok (.again following), between))
      (advances : cursor.Precedes between)
      (rest : Finishes step following between final after) :
      Finishes step value cursor final after

def Recovery.Terminates (step : α → Recovery (Step α)) : Prop :=
  ∀ value cursor,
    Recovery.Ends (loop step cursor.budget value) cursor
      fun final after => Recovery.Finishes step value cursor final after

def Reader.Terminates (step : α → Reader (Step α)) : Prop :=
  ∀ value cursor,
    Recovery.Ends (ExceptT.run (loop step cursor.budget value)) cursor
      fun final after => Reader.Finishes step value cursor final after

/-- What holds of the value of a step, if the loop goes on and if it ends. -/
def Step.Settles (again done : α → Cursor → Prop) :
    Step α → Cursor → Prop
  | .again value, cursor => again value cursor
  | .done value, cursor => done value cursor

namespace Recovery

variable {step : α → Recovery (Step α)}

/-- A loop finishes in one way at most. -/
theorem Finishes.unique
    {value first second : α} {cursor firstAfter secondAfter : Cursor}
    (one : Finishes step value cursor first firstAfter)
    (other : Finishes step value cursor second secondAfter) :
    first = second ∧ firstAfter = secondAfter := by
  induction one with
  | done stops =>
    cases other with
    | done stopsToo =>
      cases stops.symm.trans stopsToo
      exact ⟨rfl, rfl⟩
    | again goesOn _ _ => cases stops.symm.trans goesOn
  | again goesOn _ _ ih =>
    cases other with
    | done stops => cases goesOn.symm.trans stops
    | again goesOnToo _ rest =>
      cases goesOn.symm.trans goesOnToo
      exact ih rest

/-- A loop with as many steps as tokens finishes. -/
theorem finishes_loop (proceeds : ∀ value cursor, (step value).Proceeds cursor)
    (budget : List Token) (value : α) (cursor : Cursor)
    (enough : cursor.budget.length ≤ budget.length) :
    Ends (loop step budget value) cursor
      fun final after => Finishes step value cursor final after := by
  induction budget generalizing value cursor with
  | nil => simp [Cursor.budget] at enough
  | cons _ budget ih =>
    rw [loop, ends_bind]
    have proceeded := proceeds value cursor
    cases decided : (step value).run cursor with
    | mk decision after =>
      unfold Ends
      unfold Proceeds Ends at proceeded
      rw [decided] at proceeded ⊢
      cases decision with
      | done final => exact .done decided
      | again following =>
        have advances := proceeded.2 rfl
        refine .again decided advances ?_
        apply ih
        simp only [Precedes, List.length_cons] at advances enough
        omega

theorem terminates_of_proceeds
    (proceeds : ∀ value cursor, (step value).Proceeds cursor) :
    Terminates step :=
  fun value cursor => finishes_loop proceeds _ value cursor (Nat.le_refl _)

theorem loop_eq_of_length_le
    (proceeds : ∀ value cursor, (step value).Proceeds cursor)
    {budget : List Token} {cursor : Cursor}
    (enough : cursor.budget.length ≤ budget.length) (value : α) :
    (loop step budget value).run cursor =
      (loop step cursor.budget value).run cursor := by
  have one := finishes_loop proceeds budget value cursor enough
  have other := terminates_of_proceeds proceeds value cursor
  obtain ⟨values, cursors⟩ := Finishes.unique one other
  exact Prod.ext values cursors

/-- What a loop does with as many steps as it may need. -/
theorem run_loop
    (proceeds : ∀ value cursor, (step value).Proceeds cursor) (value : α)
    (cursor : Cursor) :
    (get >>= fun cursor => loop step cursor.budget value).run cursor =
      match (step value).run cursor with
      | (.again following, after) =>
        (get >>= fun cursor => loop step cursor.budget following).run after
      | (.done final, after) => (final, after) := by
  have proceeded := proceeds value cursor
  show (loop step (cursor.current :: cursor.ahead) value).run cursor = _
  rw [loop, StateT.run_bind]
  cases decided : (step value).run cursor with
  | mk decision after =>
    unfold Proceeds Ends at proceeded
    rw [decided] at proceeded
    cases decision with
    | done final => rfl
    | again following =>
      have enough : after.budget.length ≤ cursor.ahead.length :=
        Nat.le_of_lt_succ (proceeded.2 rfl)
      exact loop_eq_of_length_le proceeds enough following

/-- A loop takes a step and then, if that does not end it, starts afresh. -/
theorem ends_loop
    (proceeds : ∀ value cursor, (step value).Proceeds cursor) (value : α)
    (cursor : Cursor) (post : α → Cursor → Prop) :
    Ends (loop step cursor.budget value) cursor post ↔
      (step value).Ends cursor fun decision after =>
        match decision with
        | .again following =>
          Ends (loop step after.budget following) after post
        | .done final => post final after := by
  show Ends (get >>= fun cursor => loop step cursor.budget value) cursor post ↔
    _
  unfold Ends
  rw [run_loop proceeds]
  cases (step value).run cursor with
  | mk decision after => cases decision <;> rfl

/-- Induction along the steps of a loop: what holds of all that goes on behind
a step holds in front of it. -/
theorem loop_induction {motive : α → Cursor → Prop}
    (proceeds : ∀ value cursor, (step value).Proceeds cursor)
    (back : ∀ value cursor,
      (∀ following between,
        (step value).run cursor = (.again following, between) →
          motive following between) →
        motive value cursor)
    (value : α) (cursor : Cursor) : motive value cursor := by
  induction left : cursor.budget.length using Nat.strongRecOn
    generalizing value cursor with
  | ind count ih =>
    refine back value cursor fun following between goesOn => ?_
    have proceeded := proceeds value cursor
    unfold Proceeds Ends at proceeded
    rw [goesOn] at proceeded
    exact ih _ (left ▸ proceeded.2 rfl) following between rfl

/-- A loop keeps to what its steps keep to. -/
theorem ends_loop_of_keeps
    (invariant : α → Cursor → Prop) {post : α → Cursor → Prop}
    (proceeds : ∀ value cursor, (step value).Proceeds cursor)
    (keeps : ∀ value cursor, invariant value cursor →
      (step value).Ends cursor (Step.Settles invariant post))
    (value : α) {cursor : Cursor} (holds : invariant value cursor) :
    Ends (loop step cursor.budget value) cursor post := by
  apply (terminates_of_proceeds proceeds value cursor).mono
  intro final after finished
  induction finished with
  | @done value _ cursor _ stops =>
    have ends := keeps value cursor holds
    unfold Ends at ends
    rw [stops] at ends
    exact ends
  | @again value _ _ cursor _ _ goesOn _ _ ih =>
    have ends := keeps value cursor holds
    unfold Ends at ends
    rw [goesOn] at ends
    exact ih ends

end Recovery

namespace Reader

variable {step : α → Reader (Step α)}

/-- A loop finishes in one way at most. -/
theorem Finishes.unique {value : α} {first second : Except Diagnostic α}
    {cursor firstAfter secondAfter : Cursor}
    (one : Finishes step value cursor first firstAfter)
    (other : Finishes step value cursor second secondAfter) :
    first = second ∧ firstAfter = secondAfter := by
  induction one with
  | failed stops =>
    cases other with
    | failed stopsToo =>
      cases stops.symm.trans stopsToo
      exact ⟨rfl, rfl⟩
    | done stopsToo => cases stops.symm.trans stopsToo
    | again goesOn _ _ => cases stops.symm.trans goesOn
  | done stops =>
    cases other with
    | failed stopsToo => cases stops.symm.trans stopsToo
    | done stopsToo =>
      cases stops.symm.trans stopsToo
      exact ⟨rfl, rfl⟩
    | again goesOn _ _ => cases stops.symm.trans goesOn
  | again goesOn _ _ ih =>
    cases other with
    | failed stops => cases goesOn.symm.trans stops
    | done stops => cases goesOn.symm.trans stops
    | again goesOnToo _ rest =>
      cases goesOn.symm.trans goesOnToo
      exact ih rest

/-- A loop with as many steps as tokens finishes. -/
theorem finishes_loop (proceeds : ∀ value cursor, (step value).Proceeds cursor)
    (budget : List Token) (value : α) (cursor : Cursor)
    (enough : cursor.budget.length ≤ budget.length) :
    Recovery.Ends (ExceptT.run (loop step budget value)) cursor
      fun final after => Finishes step value cursor final after := by
  induction budget generalizing value cursor with
  | nil => simp [Cursor.budget] at enough
  | cons _ budget ih =>
    rw [loop, ExceptT.run_bind, Recovery.ends_bind]
    have proceeded := proceeds value cursor
    cases decided : (step value).run.run cursor with
    | mk decision after =>
      unfold Recovery.Ends
      unfold Proceeds Ends Recovery.Ends at proceeded
      rw [decided] at proceeded ⊢
      cases decision with
      | error diagnostic => exact .failed decided
      | ok decision =>
        cases decision with
        | done final => exact .done decided
        | again following =>
          have advances := proceeded.2 rfl
          refine .again decided advances ?_
          apply ih
          simp only [Precedes, List.length_cons] at advances enough
          omega

theorem terminates_of_proceeds
    (proceeds : ∀ value cursor, (step value).Proceeds cursor) :
    Terminates step :=
  fun value cursor => finishes_loop proceeds _ value cursor (Nat.le_refl _)

theorem loop_eq_of_length_le
    (proceeds : ∀ value cursor, (step value).Proceeds cursor)
    {budget : List Token} {cursor : Cursor}
    (enough : cursor.budget.length ≤ budget.length) (value : α) :
    (ExceptT.run (loop step budget value)).run cursor =
      (ExceptT.run (loop step cursor.budget value)).run cursor := by
  have one := finishes_loop proceeds budget value cursor enough
  have other := terminates_of_proceeds proceeds value cursor
  obtain ⟨values, cursors⟩ := Finishes.unique one other
  exact Prod.ext values cursors

/-- What a loop does with as many steps as it may need. -/
theorem run_loop
    (proceeds : ∀ value cursor, (step value).Proceeds cursor) (value : α)
    (cursor : Cursor) :
    (ExceptT.run (get >>= fun cursor => loop step cursor.budget value)).run
        cursor =
      match (step value).run.run cursor with
      | (.error diagnostic, after) => (.error diagnostic, after)
      | (.ok (.again following), after) =>
        (ExceptT.run (get >>= fun cursor =>
          loop step cursor.budget following)).run after
      | (.ok (.done final), after) => (.ok final, after) := by
  have proceeded := proceeds value cursor
  show (loop step (cursor.current :: cursor.ahead) value).run.run cursor = _
  rw [loop, ExceptT.run_bind, StateT.run_bind]
  cases decided : (step value).run.run cursor with
  | mk decision after =>
    unfold Proceeds Ends Recovery.Ends at proceeded
    rw [decided] at proceeded
    cases decision with
    | error diagnostic => rfl
    | ok decision =>
      cases decision with
      | done final => rfl
      | again following =>
        have enough : after.budget.length ≤ cursor.ahead.length :=
          Nat.le_of_lt_succ (proceeded.2 rfl)
        exact loop_eq_of_length_le proceeds enough following

/-- A loop takes a step and then, if that does not end it, starts afresh. -/
theorem ends_loop
    (proceeds : ∀ value cursor, (step value).Proceeds cursor) (value : α)
    (cursor : Cursor) (accepted : α → Cursor → Prop)
    (refused : Diagnostic → Cursor → Prop) :
    Ends (loop step cursor.budget value) cursor accepted refused ↔
      (step value).Ends cursor
        (fun decision after =>
          match decision with
          | .again following =>
            Ends (loop step after.budget following) after accepted refused
          | .done final => accepted final after)
        refused := by
  show Ends (get >>= fun cursor => loop step cursor.budget value) cursor
    accepted refused ↔ _
  unfold Ends Recovery.Ends
  rw [run_loop proceeds]
  cases (step value).run.run cursor with
  | mk answer after => obtain _ | (_ | _) := answer <;> rfl

/-- Induction along the steps of a loop, where one of them may fail. -/
theorem loop_induction {motive : α → Cursor → Prop}
    (proceeds : ∀ value cursor, (step value).Proceeds cursor)
    (back : ∀ value cursor,
      (∀ following between,
        (step value).run.run cursor = (.ok (.again following), between) →
          motive following between) →
        motive value cursor)
    (value : α) (cursor : Cursor) : motive value cursor := by
  induction left : cursor.budget.length using Nat.strongRecOn
    generalizing value cursor with
  | ind count ih =>
    refine back value cursor fun following between goesOn => ?_
    have proceeded := proceeds value cursor
    unfold Proceeds Ends Recovery.Ends at proceeded
    rw [goesOn] at proceeded
    exact ih _ (left ▸ proceeded.2 rfl) following between rfl

/-- A loop keeps to what its steps keep to, where one of them may fail. -/
theorem ends_loop_of_keeps
    (invariant : α → Cursor → Prop) {accepted : α → Cursor → Prop}
    {refused : Diagnostic → Cursor → Prop}
    (proceeds : ∀ value cursor, (step value).Proceeds cursor)
    (keeps : ∀ value cursor, invariant value cursor →
      (step value).Ends cursor (Step.Settles invariant accepted) refused)
    (value : α) {cursor : Cursor} (holds : invariant value cursor) :
    Ends (loop step cursor.budget value) cursor accepted refused := by
  unfold Ends
  apply (terminates_of_proceeds proceeds value cursor).mono
  intro answer after finished
  induction finished with
  | @failed value _ cursor _ stops =>
    have ends := keeps value cursor holds
    unfold Ends Recovery.Ends at ends
    rw [stops] at ends
    exact ends
  | @done value _ cursor _ stops =>
    have ends := keeps value cursor holds
    unfold Ends Recovery.Ends at ends
    rw [stops] at ends
    exact ends
  | @again value _ _ cursor _ _ goesOn _ _ ih =>
    have ends := keeps value cursor holds
    unfold Ends Recovery.Ends at ends
    rw [goesOn] at ends
    exact ih ends

end Reader

end Loops

/-! ## Where the readers of scripts take the cursor -/

namespace Reader

variable {cursor : Cursor}

theorem advances_typedMember (cursor : Cursor) :
    typedMember.Advances cursor := by
  refine (advances_typeName cursor).bind fun type after => .get ?_
  split
  · rw [map_eq_pure_bind]
    exact (advances_function (some type) after).travels.bind
      fun _ _ => .pure _
  · rw [map_eq_pure_bind]
    exact (advances_propertyAfter type after).travels.bind fun _ _ => .pure _
  · rw [map_eq_pure_bind]
    exact (advances_variableAfter type after).travels.bind fun _ _ => .pure _
  · exact (advances_reject _).travels

theorem advances_plainMember (cursor : Cursor) :
    plainMember.Advances cursor := by
  refine .get ?_
  split
  · rw [map_eq_pure_bind]
    exact (advances_function none cursor).bind fun _ _ => .pure _
  · exact advances_typedMember cursor

end Reader

namespace Recovery

open Reader

variable {α : Type} {cursor : Cursor}
variable {sort : Cause → Bool} [Cause.Outer sort]

theorem travels_skipMemberAfter
    {diagnostic : Diagnostic} (blames : Blames diagnostic cursor sort)
    (block? : Option Block) (value : α) :
    Travels
      (do
        Reader.report diagnostic
        skipMember block?
        return value) cursor sort := by
  have skipped := Travels.report blames (travels_skipMember block? _)
    (resumes_skipMember block? _)
  exact skipped.bind fun _ _ => .pure value

theorem advances_skipMemberAfter
    {diagnostic : Diagnostic} (blames : Blames diagnostic cursor sort)
    (inside : cursor.kind ≠ .endOfText) (block? : Option Block) (value : α) :
    Advances
      (do
        Reader.report diagnostic
        skipMember block?
        return value) cursor sort := by
  have skipped : (skipMember block?).Advances
      (cursor.report diagnostic) sort := advances_skipMember block? inside
  have passed := Advances.report blames skipped (resumes_skipMember block? _)
  exact passed.bind fun _ _ => .pure value

theorem advances_hoistedMember (state : String) (found : Reader.StateBody)
    (inside : cursor.kind ≠ .endOfText) :
    (hoistedMember state found).Advances cursor := by
  refine .get (.complain rfl _ ?_)
  refine (advances_plainMember _).run_bind (fun _ _ => .pure _)
    (fun diagnostic after blames => ?_) fun diagnostic after same blames => ?_
  · exact travels_skipMemberAfter blames _ found
  · exact advances_skipMemberAfter blames (same ▸ inside) _ found

theorem travels_unfinishedState
    (keyword : Token) (found : Reader.StateBody) (cursor : Cursor) :
    (unfinishedState keyword found).Proceeds cursor :=
  (travels_reportUnterminated _ _).proceeds fun _ => found

/-- A line of a state is only followed by another if a token was passed. -/
theorem proceeds_nextInState
    (keyword : Token) (state : String) (found : Reader.StateBody)
    (cursor : Cursor) :
    (nextInState keyword state found).Proceeds cursor := by
  refine (travels_skipNewlines cursor).bind_proceeds fun _ after => .get ?_
  split
  · rename_i word
    refine ((advances_of_kind word rfl).travels).bind_proceeds fun _ after => ?_
    exact (travels_finishLine _ after).proceeds fun _ => found
  · rename_i doc
    exact .again ((advances_of_kind doc rfl).bind fun _ _ => .pure _)
  · rename_i word
    have inside : after.kind ≠ .endOfText := by simp [word]
    refine .again ((advances_event after).run_bind
      (fun _ _ => .pure _) (fun diagnostic after blames => ?_)
      fun diagnostic after same blames => ?_)
    · exact travels_skipLineAfter blames _
    · exact (advances_reportAndSkipLine blames (same ▸ inside)).bind
        fun _ _ => .pure _
  · exact travels_unfinishedState keyword found after
  · exact travels_unfinishedState keyword found after
  · exact travels_unfinishedState keyword found after
  · exact travels_unfinishedState keyword found after
  · rename_i inside _ _ _
    split
    · exact travels_unfinishedState keyword found after
    · split
      · exact .again ((advances_hoistedMember state found inside).bind
          fun _ _ => .pure _)
      · refine .again (.get ?_)
        exact (advances_reportAndSkipLine (blames_unexpected after _)
          inside).bind fun _ _ => .pure _

theorem travels_stateBody (keyword : Token) (state : String) (cursor : Cursor) :
    (stateBody keyword state).Travels cursor := by
  refine travels_inBlock _ (fun cursor => .get ?_) cursor
  exact travels_loop (proceeds_nextInState keyword state) _ _ _

theorem travels_autoMark (cursor : Cursor) : autoMark.Travels cursor sort := by
  refine .get ?_
  split
  · rename_i word
    exact (advances_of_kind word rfl).travels.bind fun _ _ => .pure _
  · exact .pure _

end Recovery

namespace Reader

variable {cursor : Cursor} {sort : Cause → Bool} [Cause.Outer sort]

theorem advances_stateMembers (cursor : Cursor) :
    stateMembers.Advances cursor := by
  refine .get ?_
  refine (Recovery.travels_autoMark cursor).lift.bind_advances
    fun _ after => ?_
  refine (advances_expect _ _ after rfl).bind fun keyword after => ?_
  refine (advances_identifier _ after).travels.bind fun name after => ?_
  refine (travels_endOfLine _ after).bind fun _ after => ?_
  have body := Recovery.travels_stateBody keyword name.name after
  exact body.lift.bind fun _ _ => .get (.pure _)

theorem advances_members (cursor : Cursor) : members.Advances cursor := by
  refine .get ?_
  split
  · exact (advances_event cursor).bind fun _ _ => .pure _
  · exact advances_stateMembers cursor
  · exact advances_stateMembers cursor
  · exact (advances_plainMember cursor).bind fun _ _ => .pure _

theorem advances_importLine (cursor : Cursor) : importLine.Advances cursor sort := by
  refine (advances_expect _ _ cursor rfl).bind fun keyword after => ?_
  refine (advances_identifier _ after).travels.bind fun _ after => .get ?_
  exact (travels_endOfLine _ after).bind fun _ _ => .pure _

theorem advances_scriptName (cursor : Cursor) : scriptName.Advances cursor sort := by
  refine (advances_expect _ _ cursor rfl).bind fun _ after => ?_
  exact (advances_identifier _ after).travels

theorem travels_parentName (cursor : Cursor) : parentName.Travels cursor sort := by
  refine .get ?_
  split
  · rename_i word
    refine (Recovery.advances_of_kind word rfl).lift.travels.bind
      fun _ after => ?_
    exact (advances_identifier _ after).travels.bind fun _ _ => .pure _
  · exact .pure _

end Reader

namespace Recovery

open Reader

variable {cursor : Cursor} {sort : Cause → Bool} [Cause.Outer sort]

theorem travels_reportAndRecover
    {diagnostic : Diagnostic} (blames : Blames diagnostic cursor sort) :
    (reportAndRecover diagnostic).Travels cursor sort :=
  .report blames (travels_recoverToMember _) (resumes_recoverToMember _)

theorem advances_reportAndRecover
    {diagnostic : Diagnostic} (blames : Blames diagnostic cursor sort)
    (inside : cursor.kind ≠ .endOfText) :
    (reportAndRecover diagnostic).Advances cursor sort :=
  .report blames (advances_recoverToMember inside)
    (resumes_recoverToMember _)

/-- A declaration is only followed by another if a token was passed. -/
theorem proceeds_nextDeclaration (found : Reader.ScriptBody) (cursor : Cursor) :
    (nextDeclaration found).Proceeds cursor := by
  refine (travels_skipNewlines cursor).bind_proceeds fun _ after => .get ?_
  split
  · exact .done _
  · rename_i doc
    exact .again ((advances_of_kind doc rfl).bind fun _ _ => .pure _)
  · rename_i word
    have inside : after.kind ≠ .endOfText := by simp [word]
    have blames : Blames ⟨after.position, .duplicateHeader⟩ after :=
      blames_of_syntactic after rfl rfl
    exact .again ((advances_reportAndRecover blames inside).bind
      fun _ _ => .pure _)
  · rename_i word
    have inside : after.kind ≠ .endOfText := by simp [word]
    refine .again ((advances_importLine after).run_bind
      (fun _ _ => .pure _) (fun diagnostic after blames => ?_)
      fun diagnostic after same blames => ?_)
    · exact (travels_reportAndRecover blames).bind fun _ _ => .pure _
    · exact (advances_reportAndRecover blames (same ▸ inside)).bind
        fun _ _ => .pure _
  · rename_i inside _ _ _
    split
    · refine .again ((advances_members after).run_bind
        (fun _ _ => .pure _) (fun diagnostic after blames => ?_)
        fun diagnostic after same blames => ?_)
      · exact travels_skipMemberAfter blames _ found
      · exact advances_skipMemberAfter blames (same ▸ inside) _ found
    · refine .again (.get ?_)
      exact (advances_reportAndRecover (blames_unexpected after _)
        inside).bind fun _ _ => .pure _

theorem proceeds_headerFlags (header : Reader.Header) (cursor : Cursor) :
    (headerFlags header).Proceeds cursor sort := by
  refine .get ?_
  split
  · rename_i word
    exact .again ((advances_of_kind word rfl).bind fun _ _ => .pure _)
  · rename_i word
    exact .again ((advances_of_kind word rfl).bind fun _ _ => .pure _)
  · rename_i word
    exact .again ((advances_of_kind word rfl).bind fun _ _ => .pure _)
  · exact .done _

/-- A header line passes a token unless the text ends there. -/
theorem advances_headerLine
    (blank : Reader.Header) (inside : cursor.kind ≠ .endOfText) :
    (headerLine blank).Advances cursor sort := by
  refine (advances_scriptName cursor).run_bind
    (fun name after => ?_) (fun diagnostic after blames => ?_)
    fun diagnostic after same blames => ?_
  · refine (travels_parentName after).run_bind
      (fun parent after => .get ?_) fun diagnostic after blames => ?_
    · refine (travels_loop proceeds_headerFlags _ _ _).bind
        fun header after => ?_
      refine (travels_endOfDeclaration _ after).run_bind
        (fun _ _ => .pure _) fun diagnostic after blames => ?_
      exact (travels_reportAndRecover blames).bind fun _ _ => .pure _
    · exact (travels_reportAndRecover blames).bind fun _ _ => .pure _
  · exact (travels_reportAndRecover blames).bind fun _ _ => .pure _
  · exact (advances_reportAndRecover blames (same ▸ inside)).bind
      fun _ _ => .pure _

/-- Where a header is missing, recovery goes on to the next declaration. -/
theorem travels_missingHeader (cursor : Cursor) :
    missingHeader.Travels cursor sort := by
  refine .get (.get ?_)
  by_cases here : cursor.atDeclaration = true
  · have syntactic :
        (Diagnostic.unexpected cursor.current
          "'Scriptname' header").cause.isLexical = false := by
      rw [Diagnostic.isLexical_unexpected]
      cases found : cursor.current.kind with
      | invalid error =>
        have kind : cursor.kind = .invalid error := found
        simp [Cursor.atDeclaration, Cursor.atMemberStart,
          Cursor.atVariableStart, Cursor.atTypeStart, Kind.isTypeKeyword,
          kind] at here
      | _ => rfl
    refine (travels_report syntactic
      (Cause.Outer.spares (Diagnostic.isOuter_unexpected _ _))).bind
        fun _ after => ?_
    simp only [here]
    exact .pure _
  · have skips : (!cursor.atDeclaration) = true := by simp [here]
    simp only [if_pos skips]
    exact travels_reportAndRecover (blames_unexpected cursor _)

theorem travels_header (cursor : Cursor) : Reader.header.Travels cursor sort := by
  refine .get ?_
  dsimp only
  split
  · rename_i word
    have inside : cursor.kind ≠ .endOfText := by simp [word]
    exact (advances_headerLine _ inside).travels
  · exact (travels_missingHeader cursor).bind fun _ _ => .pure _

theorem travels_script (cursor : Cursor) : script.Travels cursor := by
  refine (travels_skipNewlines cursor).bind fun _ after => .get ?_
  refine (travels_header after).bind fun top after => .get ?_
  refine (travels_loop proceeds_nextDeclaration _ _ after).bind
    fun found after => ?_
  exact .get (.pure _)

end Recovery

end PapyrusScript
