import PapyrusScript.Proofs.Travel.Expression
import PapyrusScript.Grammar.Property

/-!
# Where the readers of statements and declarations take the cursor

A line of a body is only followed by another one if it passed a token.  When
a statement fails without passing any, the cursor is still on the first token
of its line; that is neither a line break nor a block terminator, so
`synchronize` passes it.

A parameter list and the header of a property answer with what stands before
their first error and with that error.  The error blames the token at which
they stopped, just as that of a failed reader does.
-/

-- All readers are described for the same sorts, also those that report nothing.
set_option linter.unusedSectionVars false

namespace PapyrusScript

namespace Reader

open Cursor

variable {cursor : Cursor} {sort : Cause → Bool} [Cause.Outer sort]

theorem travels_returnedValue (cursor : Cursor) :
    returnedValue.Travels cursor sort := by
  refine .get ?_
  dsimp only
  split
  · exact .pure _
  · exact (advances_expression cursor).travels.bind fun _ _ => .pure _

theorem advances_returnStatement (cursor : Cursor) :
    returnStatement.Advances cursor sort := by
  refine (advances_expect _ _ cursor rfl).bind fun _ after => ?_
  refine (travels_returnedValue after).bind fun _ after => .get ?_
  exact (travels_endOfLine _ after).bind fun _ _ => .pure _

theorem travels_initialExpression (cursor : Cursor) :
    initialExpression.Travels cursor sort := by
  refine .get ?_
  split
  · rename_i assign
    refine (Recovery.advances_of_kind assign rfl).lift.travels.bind
      fun _ after => ?_
    exact (advances_expression after).travels.bind fun _ _ => .pure _
  · exact .pure _

theorem advances_declareStatement (cursor : Cursor) :
    declareStatement.Advances cursor sort := by
  refine (advances_typeName cursor).bind fun _ after => ?_
  refine (advances_identifier _ after).travels.bind fun _ after => ?_
  refine (travels_initialExpression after).bind fun _ after => .get ?_
  exact (travels_endOfLine _ after).bind fun _ _ => .pure _

theorem travels_assignment {operator : AssignmentOperator}
    (found : cursor.kind.assignmentOperator? = some operator)
    (start : Position) (target : Expression) :
    (assignment start target operator).Travels cursor sort := by
  unfold assignment
  split
  · refine (Recovery.advances_advance
      (isOrdinary_of_assignmentOperator? found)).lift.travels.bind
        fun _ after => ?_
    refine (advances_expression after).travels.bind fun _ after => .get ?_
    split
    · exact (advances_throw (blames_of_isInner after rfl)).travels
    · exact .pure _
  · exact (advances_throw (blames_of_isInner cursor rfl)).travels

theorem travels_assignmentOr
    (start : Position) (target : Expression) (cursor : Cursor) :
    (assignmentOr start target).Travels cursor sort := by
  refine .get ?_
  split
  · rename_i operator found
    exact travels_assignment found start target
  · exact .pure _

theorem advances_expressionStatement (cursor : Cursor) :
    expressionStatement.Advances cursor sort := by
  refine .get ?_
  refine (advances_expression cursor).bind fun value after => ?_
  refine (travels_assignmentOr _ value after).bind fun _ after => ?_
  exact (travels_endOfLine _ after).bind fun _ _ => .pure _

end Reader

namespace Recovery

open Cursor Reader

variable {cursor : Cursor} {sort : Cause → Bool} [Cause.Outer sort]
variable {diagnostic : Diagnostic}

/-- Reporting a broken statement and skipping the rest of it travels. -/
theorem travels_reportAndSynchronize (blames : Blames diagnostic cursor sort) :
    Travels (Reader.report diagnostic >>= fun _ => synchronize)
      cursor sort :=
  .report blames (travels_synchronize _) (resumes_synchronize _)

theorem travels_synchronizeAfter
    {α : Type} (blames : Blames diagnostic cursor sort) (value : α) :
    Travels
      (do
        Reader.report diagnostic
        synchronize
        return value) cursor sort :=
  (travels_reportAndSynchronize blames).bind fun _ _ => .pure value

theorem advances_synchronizeAfter {α : Type} (blames : Blames diagnostic cursor sort)
    (inside : cursor.kind ≠ .endOfText)
    (free : ¬ cursor.kind.isBlockTerminator = true) (value : α) :
    Advances
      (do
        Reader.report diagnostic
        synchronize
        return value) cursor sort := by
  have skipped : synchronize.Advances (cursor.report diagnostic) sort :=
    advances_synchronize inside free
  have passed := Advances.report blames skipped (resumes_synchronize _)
  exact passed.bind fun _ _ => .pure value

theorem travels_condition (context : String) (cursor : Cursor) :
    (condition context).Travels cursor sort := by
  refine (advances_expression cursor).travels.run_bind
    (fun value after => ?_) fun diagnostic after blames => ?_
  · refine (travels_endOfLine context after).run_bind
      (fun _ _ => .pure _) fun diagnostic after blames => ?_
    exact travels_synchronizeAfter blames (some value)
  · exact travels_synchronizeAfter blames none

theorem travels_reportElseIfAfterElse
    (arms : Reader.Arms) (keyword : Token) (cursor : Cursor) :
    (reportElseIfAfterElse arms keyword).Travels cursor sort := by
  unfold reportElseIfAfterElse
  split
  · exact travels_complain rfl _
  · exact .pure _

theorem travels_endOfLoop (opener : Token) (cursor : Cursor) :
    (endOfLoop opener).Travels cursor := by
  refine .get ?_
  split
  · rename_i found
    refine (advances_of_kind found rfl).travels.bind fun _ after => ?_
    exact travels_finishLine _ after
  · exact travels_reportUnterminated _ _

section Body

variable {body : Block → Recovery (List Statement)}
  (bodyTravels : ∀ block cursor, (body block).Travels cursor)

include bodyTravels

/-- An arm is only followed by another if its keyword was passed. -/
theorem proceeds_nextArm
    (opener : Token) (arms : Reader.Arms) (cursor : Cursor) :
    (nextArm body opener arms).Proceeds cursor := by
  unfold nextArm
  refine .get ?_
  split
  · rename_i found
    refine .again ((advances_of_kind found rfl).bind fun _ after => ?_)
    refine (travels_reportElseIfAfterElse _ _ after).bind fun _ after => ?_
    refine (travels_condition _ after).bind fun _ after => ?_
    exact (bodyTravels _ after).bind fun _ _ => .get (.pure _)
  · rename_i found
    refine .again ((advances_of_kind found rfl).bind fun _ after => ?_)
    refine (travels_finishLine _ after).bind fun _ after => ?_
    refine (bodyTravels _ after).bind fun _ after => ?_
    split
    · exact (travels_complain rfl _).bind fun _ _ => .pure _
    · exact .pure _
  · rename_i found
    refine (advances_of_kind found rfl).travels.bind_proceeds
      fun _ after => ?_
    exact (travels_finishLine _ after).proceeds fun _ => arms
  · exact (travels_reportUnterminated _ _).proceeds fun _ => arms

theorem advances_conditionalStatement (found : cursor.kind = .keyword .ifThen) :
    (conditionalStatement body).Advances cursor := by
  refine (advances_of_kind found rfl).bind fun keyword after => ?_
  refine (travels_condition _ after).bind fun _ after => ?_
  refine (bodyTravels _ after).bind fun _ after => .get (.get ?_)
  have arms := travels_loop (proceeds_nextArm bodyTravels keyword)
  refine (arms _ _ after).bind fun _ after => ?_
  split
  · exact .get (.pure _)
  · exact .pure _

theorem advances_loopStatement (found : cursor.kind = .keyword .whileLoop) :
    (loopStatement body).Advances cursor := by
  refine (advances_of_kind found rfl).bind fun keyword after => ?_
  refine (travels_condition _ after).bind fun _ after => ?_
  refine (bodyTravels _ after).bind fun _ after => ?_
  refine (travels_endOfLoop keyword after).bind fun _ after => ?_
  split
  · exact .get (.pure _)
  · exact .pure _

/-- A statement passes a token. -/
theorem advances_statement (cursor : Cursor) :
    (statement body).Advances cursor := by
  unfold statement
  refine .get ?_
  split
  · rename_i found
    exact (advances_conditionalStatement bodyTravels found).lift
  · rename_i found
    exact (advances_loopStatement bodyTravels found).lift
  · rw [map_eq_pure_bind]
    exact (advances_returnStatement cursor).bind fun _ _ => .pure _
  · split <;> rw [map_eq_pure_bind]
    · exact (advances_declareStatement cursor).bind fun _ _ => .pure _
    · exact (advances_expressionStatement cursor).bind
        fun _ _ => .pure _

/-- A statement that is read or skipped passes a token, wherever it starts
but at a block terminator or the end of the text. -/
theorem advances_statementOrSkip {α : Type} (inside : cursor.kind ≠ .endOfText)
    (free : ¬ cursor.kind.isBlockTerminator = true)
    (onNone : α) (onSome : Statement → α) :
    Advances
      (do
        match ← (statement body).run with
        | .ok (some found) => return onSome found
        | .ok none => return onNone
        | .error diagnostic =>
          Reader.report diagnostic
          synchronize
          return onNone) cursor := by
  refine (advances_statement bodyTravels cursor).run_bind
    (fun value after => ?_) (fun _ after blames => ?_)
    fun diagnostic after here blames => ?_
  · cases value <;> exact .pure _
  · exact travels_synchronizeAfter blames onNone
  · exact advances_synchronizeAfter blames (here ▸ inside) (here ▸ free) _

/-- A line of a body is only followed by another if a token was passed. -/
theorem proceeds_bodyLine
    (block : Block) (statements : List Statement) (cursor : Cursor) :
    (bodyLine body block statements).Proceeds cursor := by
  refine (travels_skipNewlines cursor).bind_proceeds fun _ after => .get ?_
  dsimp only
  split
  · exact .done _
  · rename_i going
    simp only [Bool.or_eq_true, decide_eq_true_eq, not_or] at going
    have inside := going.1.1
    split
    · rename_i terminator
      split
      · exact .done _
      · have ordinary : after.kind.isOrdinary = true := by
          refine Kind.isOrdinary_of_not_isInvalid inside fun invalid => ?_
          cases found : after.kind <;>
            simp [found, Kind.isBlockTerminator, Kind.isInvalid] at *
        refine .again ((advances_advance ordinary).bind fun _ _ => ?_)
        exact (travels_complain rfl _).bind fun _ _ => .pure _
    · rename_i free
      split
      · rename_i doc
        exact .again ((advances_of_kind doc rfl).bind fun _ _ => .pure _)
      · exact .again
          (advances_statementOrSkip bodyTravels inside free _ _)

end Body

theorem travels_bodyWithin
    (budget : List Token) (block : Block) (cursor : Cursor) :
    (bodyWithin budget block).Travels cursor := by
  induction budget generalizing block cursor with
  | nil => exact .pure _
  | cons _ budget ih =>
    refine travels_inBlock block (fun cursor => .get ?_) cursor
    exact travels_loop (proceeds_bodyLine ih block) _ _ _

theorem travels_body (block : Block) (cursor : Cursor) :
    (Reader.body block).Travels cursor :=
  .get (travels_bodyWithin _ block cursor)

end Recovery

/-! ## Declarations -/

open Cursor

/-- The reader takes the cursor along a path, and an error that it answers
with blames the token it stopped at. -/
def Recovery.TravelsTo {α : Type} (reader : Recovery (α × Option Diagnostic))
    (cursor : Cursor) (sort : Cause → Bool := Cause.isNone) : Prop :=
  reader.Ends cursor fun found after =>
    cursor.Reaches after sort ∧
      ∀ diagnostic, found.2 = some diagnostic → Blames diagnostic after sort

/-- The step of a loop proceeds, and an error that it ends the loop with
blames the token it stopped at. -/
def Recovery.ProceedsTo
    {α : Type} (step : Recovery (Step (α × Option Diagnostic)))
    (cursor : Cursor) (sort : Cause → Bool := Cause.isNone) : Prop :=
  step.Ends cursor fun decision after =>
    cursor.Reaches after sort ∧
      match decision with
      | .again found => found.2 = none ∧ cursor.Precedes after
      | .done found =>
        ∀ diagnostic, found.2 = some diagnostic → Blames diagnostic after sort

namespace Recovery

open Reader

variable {α : Type} {cursor : Cursor}
variable {sort : Cause → Bool} [Cause.Outer sort]

theorem ProceedsTo.proceeds {step : Recovery (Step (α × Option Diagnostic))}
    (proceeds : step.ProceedsTo cursor sort) : step.Proceeds cursor sort := by
  refine Ends.mono proceeds fun decision after holds => ⟨holds.1, ?_⟩
  cases decision with
  | again found => exact fun _ => holds.2.2
  | done found => exact fun again => by cases again

/-- A loop that breaks off blames the token at which its step did. -/
theorem travelsTo_loop {step : α × Option Diagnostic →
      Recovery (Step (α × Option Diagnostic))}
    (proceeds : ∀ found cursor, (step found).ProceedsTo cursor sort)
    (budget : List Token) (found : α × Option Diagnostic) (cursor : Cursor)
    (unbroken : found.2 = none) :
    (loop step budget found).TravelsTo cursor sort := by
  induction budget generalizing found cursor with
  | nil =>
    refine ⟨.refl cursor, fun diagnostic blamed => ?_⟩
    cases unbroken.symm.trans blamed
  | cons _ budget ih =>
    show Ends (step found >>= _) cursor _
    rw [ends_bind]
    refine Ends.mono (proceeds found cursor) fun decision after holds => ?_
    obtain ⟨reaches, decided⟩ := holds
    cases decision with
    | again next =>
      have rest := ih next after decided.1
      exact ⟨reaches.trans rest.1, rest.2⟩
    | done final => exact ⟨reaches, decided⟩

/-- What follows a broken list is told which token is blamed. -/
theorem TravelsTo.bind {β : Type} {reader : Recovery (α × Option Diagnostic)}
    {following : α × Option Diagnostic → Recovery β}
    (first : reader.TravelsTo cursor sort)
    (onValue : ∀ value after, (following (value, none)).Travels after sort)
    (onError :
      ∀ value diagnostic after, Blames diagnostic after sort →
        (following (value, some diagnostic)).Travels after sort) :
    Travels (reader >>= following) cursor sort := by
  unfold Travels
  rw [ends_bind]
  refine Ends.mono first fun found after holds => ?_
  obtain ⟨value, error⟩ := found
  obtain ⟨reaches, blames⟩ := holds
  cases error with
  | none => exact reaches.trans (onValue value after)
  | some diagnostic =>
    exact reaches.trans (onError value diagnostic after (blames _ rfl))

/-! ## Functions and events -/

theorem advances_parameter (cursor : Cursor) : parameter.Advances cursor sort := by
  refine .get ?_
  split
  · refine (advances_typeName cursor).bind fun _ after => ?_
    refine (advances_identifier _ after).travels.bind
      fun _ after => ?_
    exact (travels_initialConstant after).bind
      fun _ _ => .get (.pure _)
  · exact advances_reject _

/-- A parameter passes a token, or blames the one it stopped at. -/
theorem proceedsTo_nextParameter
    (found : List Parameter × Option Diagnostic) (cursor : Cursor) :
    (nextParameter found).ProceedsTo cursor sort := by
  unfold nextParameter ProceedsTo
  rw [ends_bind, ends_run]
  have read : parameter.Advances cursor sort := advances_parameter cursor
  refine read.mono (fun next after passed => ?_)
    fun diagnostic after refused => ?_
  · rw [ends_bind, ends_get]
    split
    · rename_i comma
      have taken : after.Reaches after.next sort :=
        (advances_of_kind comma rfl).1
      refine ⟨passed.1.trans taken, rfl, ?_⟩
      exact passed.2.trans_reaches taken
    · rename_i closing
      have taken : after.Reaches after.next sort :=
        (advances_of_kind closing rfl).1
      exact ⟨passed.1.trans taken, fun _ blamed => by cases blamed⟩
    · refine ⟨passed.1, fun diagnostic blamed => ?_⟩
      obtain rfl := Option.some.inj blamed
      exact blames_unexpected after _
  · refine ⟨refused.1, fun blamed same => ?_⟩
    obtain rfl := Option.some.inj same
    exact refused.2

/-- A broken list of parameters blames the token it stopped at. -/
theorem travelsTo_parameters (cursor : Cursor) :
    parameters.TravelsTo cursor sort := by
  unfold parameters TravelsTo
  rw [ends_bind, ends_run]
  have opened : openParameters.Advances cursor sort :=
    advances_expect _ _ cursor rfl
  refine opened.mono (fun _ after passed => ?_)
    fun diagnostic after refused => ?_
  · rw [ends_bind, ends_get]
    split
    · rename_i closing
      have taken : after.Reaches after.next sort :=
        (advances_of_kind closing rfl).1
      exact ⟨passed.1.trans taken, fun _ blamed => by cases blamed⟩
    · have rest : TravelsTo (loop nextParameter after.budget ([], none)) after
          sort :=
        travelsTo_loop proceedsTo_nextParameter _ _ after rfl
      exact ⟨passed.1.trans rest.1, rest.2⟩
  · refine ⟨refused.1, fun blamed same => ?_⟩
    obtain rfl := Option.some.inj same
    exact refused.2

theorem proceeds_nextCallableFlag
    (block : Block) (flags : Reader.CallableFlags) (cursor : Cursor) :
    (nextCallableFlag block flags).Proceeds cursor sort := by
  refine .get ?_
  split
  · rename_i word
    exact .again ((advances_of_kind word rfl).bind fun _ _ => .pure _)
  · rename_i word
    split
    · exact .again ((advances_of_kind word rfl).bind fun _ _ => .pure _)
    · exact .done _
  · exact .done _

theorem travels_callableFlags (block : Block) (cursor : Cursor) :
    (callableFlags block).Travels cursor sort :=
  .get (travels_loop (proceeds_nextCallableFlag block) _ _ _)

theorem travels_skipLineAfter
    {diagnostic : Diagnostic} (blames : Blames diagnostic cursor sort) (value : α) :
    Travels (reportAndSkipLine diagnostic >>= fun _ => pure value)
      cursor sort :=
  (travels_reportAndSkipLine blames).bind fun _ _ => .pure value

theorem travels_callableHeader
    (block : Block) (context : String) (cursor : Cursor) :
    (callableHeader block context).Travels cursor sort := by
  refine (travelsTo_parameters cursor).bind (fun found after => ?_)
    fun found diagnostic after blames => ?_
  · refine (travels_callableFlags block after).bind fun flags after => ?_
    refine (travels_endOfDeclaration context after).run_bind
      (fun _ _ => .pure _) fun diagnostic after blames => ?_
    exact travels_skipLineAfter blames _
  · exact travels_skipLineAfter blames _

theorem isOrdinary_of_closedBy
    {block : Block} {kind : Kind} (closed : block.closedBy kind = true) :
    kind.isOrdinary = true := by
  cases kind with
  | keyword word => rfl
  | _ => cases closed

theorem travels_openBody (block : Block) (opener : Token) (cursor : Cursor) :
    (openBody block opener).Travels cursor := by
  refine (travels_body block cursor).bind fun inside after => .get ?_
  split
  · rename_i closed
    refine (advances_advance (isOrdinary_of_closedBy closed)).travels.bind
      fun _ after => ?_
    exact (travels_finishLine _ after).bind fun _ _ => .pure _
  · exact (travels_reportUnterminated _ _).bind fun _ _ => .pure _

theorem travels_callableBody
    (block : Block) (opener : Token) (flags : Reader.CallableFlags)
    (cursor : Cursor) :
    (callableBody block opener flags).Travels cursor := by
  unfold callableBody
  split
  · exact .pure _
  · exact travels_openBody block opener cursor

end Recovery

namespace Reader

variable {cursor : Cursor} {sort : Cause → Bool} [Cause.Outer sort]

theorem advances_function (returnType : Option TypeName) (cursor : Cursor) :
    (function returnType).Advances cursor := by
  refine (advances_expect _ _ cursor rfl).bind fun keyword after => ?_
  refine (advances_identifier _ after).travels.bind fun name after => ?_
  have header := Recovery.travels_callableHeader .function
    "function declaration"
  refine (header after).lift.bind fun header after => ?_
  have body := Recovery.travels_callableBody .function keyword header.flags
  exact (body after).lift.bind fun _ _ => .get (.pure _)

theorem advances_event (cursor : Cursor) : event.Advances cursor := by
  refine (advances_expect _ _ cursor rfl).bind fun keyword after => ?_
  refine (advances_identifier _ after).travels.bind fun name after => ?_
  have header := Recovery.travels_callableHeader .event "event declaration"
  refine (header after).lift.bind fun header after => ?_
  have body := Recovery.travels_callableBody .event keyword header.flags
  exact (body after).lift.bind fun _ _ => .get (.pure _)

theorem proceeds_nextVariableFlag (seen : Bool) (cursor : Cursor) :
    (nextVariableFlag seen).Proceeds cursor sort := by
  refine .get ?_
  split
  · rename_i word
    exact .again ((Recovery.advances_of_kind word rfl).bind fun _ _ => .pure _)
  · exact .done _

theorem travels_variableFlags (cursor : Cursor) :
    variableFlags.Travels cursor sort :=
  .get (Recovery.travels_loop proceeds_nextVariableFlag _ _ _)

theorem advances_variableAfter (type : TypeName) (cursor : Cursor) :
    (variableAfter type).Advances cursor sort := by
  refine (advances_identifier _ cursor).bind fun _ after => ?_
  refine (travels_initialConstant after).bind fun _ after => ?_
  refine (travels_variableFlags after).lift.bind fun _ after => .get ?_
  exact (travels_endOfLine _ after).bind fun _ _ => .pure _

end Reader

/-! ## Properties -/

namespace Recovery

open Reader

variable {cursor : Cursor} {sort : Cause → Bool} [Cause.Outer sort]

theorem proceedsTo_automaticFlag (header : Reader.PropertyHeader)
    (ordinary : cursor.kind.isOrdinary = true) :
    (automaticFlag header).ProceedsTo cursor sort := by
  unfold automaticFlag
  split
  · refine ⟨.refl cursor, fun diagnostic blamed => ?_⟩
    obtain rfl := Option.some.inj blamed
    exact blames_unexpected cursor _
  · have taken : advance.Advances cursor sort := advances_advance ordinary
    exact ⟨taken.1, rfl, taken.2⟩

/-- A flag passes its token, or blames it. -/
theorem proceedsTo_propertyFlag
    (found : Reader.PropertyHeader × Option Diagnostic) (cursor : Cursor) :
    (propertyFlag found).ProceedsTo cursor sort := by
  unfold propertyFlag ProceedsTo
  dsimp only
  rw [ends_bind, ends_get]
  split
  · rename_i word
    exact proceedsTo_automaticFlag found.1 (by rw [word]; rfl)
  · rename_i word
    exact proceedsTo_automaticFlag found.1 (by rw [word]; rfl)
  · rename_i word
    have taken : advance.Advances cursor sort := advances_of_kind word rfl
    exact ⟨taken.1, rfl, taken.2⟩
  · rename_i word
    have taken : advance.Advances cursor sort := advances_of_kind word rfl
    exact ⟨taken.1, rfl, taken.2⟩
  · exact ⟨.refl cursor, fun _ blamed => by cases blamed⟩

/-- A broken header of a property blames the token it stopped at. -/
theorem travelsTo_propertyHeader (cursor : Cursor) :
    propertyHeader.TravelsTo cursor sort := by
  unfold propertyHeader TravelsTo
  rw [ends_bind, ends_run]
  have read : initialConstant.Travels cursor sort :=
    travels_initialConstant cursor
  refine read.mono (fun initial after reaches => ?_)
    fun diagnostic after refused => ?_
  · have rest : TravelsTo (loop propertyFlag after.budget
        (⟨initial, none, false, false⟩, none)) after sort :=
      travelsTo_loop proceedsTo_propertyFlag _ _ after rfl
    exact ⟨reaches.trans rest.1, rest.2⟩
  · refine ⟨refused.1, fun blamed same => ?_⟩
    obtain rfl := Option.some.inj same
    exact refused.2

theorem travels_propertyLine (cursor : Cursor) :
    propertyLine.Travels cursor sort := by
  refine (travelsTo_propertyHeader cursor).bind
    (fun header after => .get ?_) fun header diagnostic after blames => ?_
  · refine (travels_endOfDeclaration _ after).run_bind
      (fun _ _ => .pure _) fun diagnostic after blames => .get ?_
    exact travels_skipLineAfter blames _
  · exact .get (travels_skipLineAfter blames _)

theorem advances_accessor (cursor : Cursor) : accessor.Advances cursor := by
  refine .get ?_
  split
  · exact advances_function none cursor
  · refine (advances_typeName cursor).bind fun type after => ?_
    exact (advances_function (some type) after).travels

theorem travels_complainIf
    {cause : Cause} (inner : cause.isInner = true) (applies : Bool)
    (found : Function) (cursor : Cursor) :
    (complainIf applies found cause).Travels cursor sort := by
  unfold complainIf
  split
  · exact travels_complain inner _
  · exact .pure _

theorem travels_placeAccessor
    (property : String) (accessors : Reader.Accessors) (found : Function)
    (cursor : Cursor) :
    (placeAccessor property accessors found).Travels cursor sort := by
  unfold placeAccessor
  dsimp only
  split
  · refine (travels_complainIf rfl _ _ cursor).bind fun _ after => ?_
    exact (travels_complainIf rfl _ _ after).bind fun _ _ => .pure _
  · split
    · refine (travels_complainIf rfl _ _ cursor).bind fun _ after => ?_
      exact (travels_complainIf rfl _ _ after).bind fun _ _ => .pure _
    · exact (travels_complainIf rfl _ _ cursor).bind fun _ _ => .pure _

theorem ne_endOfText_of_atFunctionStart
    (here : cursor.atFunctionStart = true) : cursor.kind ≠ .endOfText := by
  intro atEnd
  simp [Cursor.atFunctionStart, Cursor.atTypeStart, Kind.isTypeKeyword,
    atEnd] at here

/-- A function of a property is only followed if a token was passed. -/
theorem proceeds_nextAccessor
    (keyword : Token) (property : String) (accessors : Reader.Accessors)
    (cursor : Cursor) :
    (nextAccessor keyword property accessors).Proceeds cursor := by
  refine (travels_skipNewlines cursor).bind_proceeds fun _ after => .get ?_
  split
  · rename_i word
    refine ((advances_of_kind word rfl).travels).bind_proceeds fun _ after => ?_
    exact (travels_finishLine _ after).proceeds fun _ => accessors
  · split
    · rename_i doc
      exact .again ((advances_of_kind doc rfl).bind fun _ _ => .pure _)
    · split
      · rename_i here
        have inside := ne_endOfText_of_atFunctionStart here
        refine .again ((advances_accessor after).run_bind
          (fun found after => ?_) (fun diagnostic after blames => ?_)
          fun diagnostic after same blames => ?_)
        · exact (travels_placeAccessor _ _ _ after).bind fun _ _ => .pure _
        · exact travels_skipLineAfter blames _
        · exact (advances_reportAndSkipLine blames (same ▸ inside)).bind
            fun _ _ => .pure _
      · split
        · exact (travels_reportUnterminated _ _).proceeds fun _ => accessors
        · rename_i going
          simp only [Bool.or_eq_true, decide_eq_true_eq, not_or] at going
          refine .again (.get ?_)
          exact (advances_reportAndSkipLine (blames_unexpected after _)
            going.1).bind fun _ _ => .pure _

theorem travels_accessorList
    (keyword : Token) (property : String) (cursor : Cursor) :
    (accessorList keyword property).Travels cursor := by
  refine travels_inBlock _ (fun cursor => .get ?_) cursor
  exact travels_loop (proceeds_nextAccessor keyword property) _ _ _

theorem travels_reportNoAccessor
    (keyword : Token) (property : String) (accessors : Reader.Accessors)
    (cursor : Cursor) :
    (reportNoAccessor keyword property accessors).Travels cursor sort := by
  unfold reportNoAccessor
  split
  · exact travels_complain rfl _
  · exact .pure _

theorem travels_propertyBlock
    (keyword : Token) (property : String) (cursor : Cursor) :
    (propertyBlock keyword property).Travels cursor := by
  refine (travels_accessorList keyword property cursor).bind
    fun accessors after => ?_
  exact (travels_reportNoAccessor _ _ _ after).bind fun _ _ => .pure _

theorem travels_standsAlone (line : Reader.PropertyLine) (cursor : Cursor) :
    (standsAlone line).Travels cursor sort := by
  unfold standsAlone
  split
  · exact .pure _
  · exact (travels_skipNewlines cursor).bind fun _ _ => .get (.pure _)

theorem travels_reportMissingValue
    (property : String) (keyword : Token) (line : Reader.PropertyLine)
    (cursor : Cursor) :
    (reportMissingValue property keyword line).Travels cursor sort := by
  unfold reportMissingValue
  split
  · exact travels_complain rfl _
  · exact .pure _

theorem travels_automaticSource
    (property : String) (keyword : Token) (line : Reader.PropertyLine)
    (cursor : Cursor) :
    (automaticSource property keyword line).Travels cursor sort := by
  unfold automaticSource
  split
  · split
    · exact .pure _
    · exact (travels_reportMissingValue _ _ _ cursor).bind fun _ _ => .pure _
  · exact .pure _

theorem travels_reportInitialValue
    (property : String) (initial : Option Literal) (cursor : Cursor) :
    (reportInitialValue property initial).Travels cursor sort := by
  unfold reportInitialValue
  split
  · exact travels_complain rfl _
  · exact .pure _

theorem travels_fullSource
    (property : String) (keyword : Token) (line : Reader.PropertyLine)
    (cursor : Cursor) :
    (fullSource property keyword line).Travels cursor := by
  refine (travels_reportInitialValue _ _ cursor).bind fun _ after => ?_
  exact (travels_propertyBlock _ _ after).bind fun _ _ => .pure _

end Recovery

namespace Reader

/-- A property passes its keyword. -/
theorem advances_propertyAfter (type : TypeName) (cursor : Cursor) :
    (propertyAfter type).Advances cursor := by
  refine (advances_expect _ _ cursor rfl).bind fun keyword after => ?_
  refine (advances_identifier _ after).travels.bind fun name after => ?_
  have line := (Recovery.travels_propertyLine after).lift
  refine line.bind fun line after => ?_
  refine (Recovery.travels_standsAlone line after).lift.bind
    fun alone after => ?_
  split
  · exact .pure _
  · split
    · rename_i automatic _
      have source :=
        (Recovery.travels_automaticSource name.name automatic line after).lift
      exact source.bind fun _ _ => .pure _
    · have source :=
        (Recovery.travels_fullSource name.name keyword line after).lift
      exact source.bind fun _ _ => .get (.pure _)

end Reader

end PapyrusScript
