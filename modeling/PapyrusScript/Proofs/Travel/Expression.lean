import PapyrusScript.Grammar.Expression
import PapyrusScript.Proofs.Travel
import PapyrusScript.Grammar.Recovery

/-!
# Where expressions and recovery take the cursor

Every reader of a type, a literal or an expression passes a token before it
returns a value.  The recursion of expressions is on the levels of nesting
that are left, so the readers below take the readers one level deeper as
parameters that advance.

Recovery may legally pass nothing: `synchronize` stops in front of a block
terminator, and everything stops at the end of the text.  Whoever starts it
elsewhere gains a token by it.  An invalid token whose report led to the
recovery is passed first and not reported again.
-/

-- All readers are described for the same sorts, also those that report nothing.
set_option linter.unusedSectionVars false

namespace PapyrusScript

namespace Reader

open Cursor Recovery

variable {α : Type} {cursor : Cursor}
variable {diagnostic : Diagnostic} {token : Token}
variable {sort : Cause → Bool} [Cause.Outer sort]

theorem advances_expect (kind : Kind) (purpose : String) (cursor : Cursor)
    (ordinary : kind.isOrdinary = true) :
    (expect kind purpose).Advances cursor sort := by
  refine .get ?_
  split
  · rename_i found
    exact (advances_of_kind found ordinary).lift
  · split <;> exact advances_reject _

theorem advances_identifier (what : String) (cursor : Cursor) :
    (identifier what).Advances cursor sort := by
  refine .get ?_
  split
  · rename_i found
    exact (advances_of_kind found rfl).lift.bind fun _ _ => .pure _
  · exact advances_reject _

/-! ## Types and literals -/

theorem isOrdinary_of_dataType?
    {dataType : DataType} (found : dataType? token = some dataType) :
    token.kind.isOrdinary = true := by
  unfold dataType? at found
  split at found <;> simp_all [Kind.isOrdinary, Kind.isInvalid]

theorem advances_elementType (cursor : Cursor) :
    elementType.Advances cursor sort := by
  refine .get ?_
  split
  · rename_i found
    exact (advances_advance (isOrdinary_of_dataType? found)).lift.bind
      fun _ _ => .pure _
  · exact advances_reject _

theorem advances_typeName (cursor : Cursor) : typeName.Advances cursor sort := by
  refine (advances_elementType cursor).bind fun element after => .get ?_
  split
  · rename_i brackets
    simp only [Bool.and_eq_true, decide_eq_true_eq] at brackets
    obtain ⟨opening, closing⟩ := brackets
    have inside : after.kind ≠ .endOfText := by simp [opening]
    rw [← kind_next inside] at closing
    refine .take (by rw [opening]; rfl) ?_
    exact (advances_of_kind closing rfl).lift.travels.bind fun _ _ => .pure _
  · exact .pure element

theorem isInner_of_integerValue {negative : Bool}
    (failed : integerValue negative token = .error diagnostic) :
    diagnostic.cause.isInner = true := by
  unfold integerValue at failed
  split at failed
  · cases failed
  · cases failed
    rfl

theorem isInner_of_floatValue
    {negative : Bool} (failed : floatValue negative token = .error diagnostic) :
    diagnostic.cause.isInner = true := by
  unfold floatValue at failed
  split at failed
  · split at failed
    · cases failed
      rfl
    · cases failed
  · cases failed
    rfl

theorem blames_literalValue
    (failed : literalValue cursor.current = .error diagnostic) :
    Blames diagnostic cursor sort := by
  unfold literalValue at failed
  split at failed
  · exact blames_of_isInner cursor (isInner_of_integerValue failed)
  · exact blames_of_isInner cursor (isInner_of_floatValue failed)
  all_goals cases failed
  exact blames_unexpected cursor _

theorem blames_negativeValue
    (failed : negativeValue cursor.current = .error diagnostic) :
    Blames diagnostic cursor sort := by
  unfold negativeValue at failed
  split at failed
  · exact blames_of_isInner cursor (isInner_of_integerValue failed)
  · exact blames_of_isInner cursor (isInner_of_floatValue failed)
  · cases failed
    exact blames_unexpected cursor _

theorem isOrdinary_of_literalValue
    {value : Value} (found : literalValue token = .ok value) :
    token.kind.isOrdinary = true := by
  unfold literalValue at found
  split at found <;> simp_all [Kind.isOrdinary, Kind.isInvalid]

theorem isOrdinary_of_negativeValue
    {value : Value} (found : negativeValue token = .ok value) :
    token.kind.isOrdinary = true := by
  unfold negativeValue at found
  split at found <;> simp_all [Kind.isOrdinary, Kind.isInvalid]

theorem advances_literal (cursor : Cursor) : literal.Advances cursor sort := by
  refine .get ?_
  split
  · rename_i failed
    exact advances_throw (blames_literalValue failed)
  · rename_i found
    exact (advances_advance (isOrdinary_of_literalValue found)).lift.bind
      fun _ _ => .pure _

theorem advances_constant (cursor : Cursor) : constant.Advances cursor sort := by
  refine .get ?_
  split
  · rename_i minus
    refine (advances_of_kind minus rfl).lift.bind fun _ after => .get ?_
    split
    · rename_i failed
      exact (advances_throw (blames_negativeValue failed)).travels
    · rename_i found
      exact (advances_advance
        (isOrdinary_of_negativeValue found)).travels.lift.bind
          fun _ _ => .pure _
  · exact advances_literal cursor

theorem travels_initialConstant (cursor : Cursor) :
    initialConstant.Travels cursor sort := by
  refine .get ?_
  split
  · rename_i assign
    refine (advances_of_kind assign rfl).lift.travels.bind fun _ after => ?_
    exact (advances_constant after).travels.bind fun _ _ => .pure _
  · exact .pure _

/-! ## Parts of an operand -/

theorem advances_tooDeep (cursor : Cursor) :
    (tooDeep : Reader α).Advances cursor sort :=
  advances_throw (blames_of_isInner cursor rfl)

theorem travels_argumentName (cursor : Cursor) :
    argumentName.Travels cursor sort := by
  refine .get ?_
  split
  · rename_i named
    simp only [Bool.and_eq_true, decide_eq_true_eq] at named
    obtain ⟨name, assign⟩ := named
    have inside : cursor.kind ≠ .endOfText := by simp [name]
    rw [← kind_next inside] at assign
    have second : advance.Travels cursor.next sort :=
      (advances_of_kind assign rfl).travels
    exact (advances_of_kind name rfl).1.trans (second.bind fun _ _ => .pure _)
  · exact .pure _

theorem travels_checkArraySize (size : Expression) (cursor : Cursor) :
    (checkArraySize size).Travels cursor sort := by
  unfold checkArraySize
  split
  · split
    · exact travels_complain rfl _
    · exact .pure _
  · exact .pure _

section Deeper

variable {inner : Reader Expression}
  (innerAdvances : ∀ cursor, inner.Advances cursor sort)

include innerAdvances

theorem advances_argument (cursor : Cursor) :
    (argument inner).Advances cursor sort := by
  refine .get ?_
  refine (travels_argumentName cursor).lift.bind_advances fun name after => ?_
  exact (innerAdvances after).bind fun _ _ => .get (.pure _)

theorem proceeds_nextArgument
    (found : List (Argument Expression)) (cursor : Cursor) :
    (nextArgument inner found).Proceeds cursor sort := by
  have read := (advances_argument innerAdvances cursor).travels
  refine read.bind_proceeds fun next after => .get ?_
  split
  · rename_i comma
    exact .again ((advances_of_kind comma rfl).lift.bind fun _ _ => .pure _)
  · exact .done _

theorem travels_argumentList (cursor : Cursor) :
    (argumentList inner).Travels cursor sort := by
  refine .get ?_
  split
  · exact .pure _
  · exact travels_loop (proceeds_nextArgument innerAdvances) _ _ _

theorem advances_arguments (cursor : Cursor) :
    (arguments inner).Advances cursor sort := by
  refine (advances_expect _ _ cursor rfl).bind fun _ after => ?_
  refine (travels_argumentList innerAdvances after).bind fun _ after => ?_
  exact (advances_expect _ _ after rfl).travels.bind fun _ _ => .pure _

theorem advances_newObject (cursor : Cursor) :
    (newObject inner).Advances cursor sort := by
  refine (advances_expect _ _ cursor rfl).bind fun _ after => ?_
  refine (advances_elementType after).travels.bind fun _ after => .get ?_
  split
  · rename_i opening
    refine (advances_of_kind opening rfl).lift.travels.bind fun _ after => ?_
    refine (innerAdvances after).travels.bind fun size after => ?_
    refine (travels_checkArraySize size after).lift.bind fun _ after => ?_
    exact (advances_expect _ _ after rfl).travels.bind fun _ _ => .pure _
  · exact .pure _

/-- An operand without prefix passes a token. -/
theorem advances_primary (cursor : Cursor) :
    (primary inner).Advances cursor sort := by
  refine .get ?_
  dsimp only
  split
  · exact (advances_literal cursor).bind fun _ _ => .pure _
  · split
    · rename_i name
      exact (advances_of_kind name rfl).lift.bind fun _ _ => .pure _
    · rename_i opening
      refine (advances_of_kind opening rfl).lift.bind fun _ after => ?_
      refine (innerAdvances after).travels.bind fun _ after => ?_
      exact (advances_expect _ _ after rfl).travels.bind fun _ _ => .pure _
    · exact advances_newObject innerAdvances cursor
    · exact advances_reject _

/-- A part of a chain passes its dot or bracket. -/
theorem proceeds_chainPart (whole : Expression) (cursor : Cursor) :
    (chainPart inner whole).Proceeds cursor sort := by
  unfold chainPart
  refine .get ?_
  split
  · rename_i dot
    refine .again ((advances_of_kind dot rfl).lift.bind fun _ after => .get ?_)
    split
    · rename_i length
      exact (advances_of_kind length rfl).lift.travels.bind fun _ _ => .pure _
    · exact (advances_identifier _ after).travels.bind fun _ _ => .pure _
  · rename_i opening
    refine .again ((advances_of_kind opening rfl).lift.bind fun _ after => ?_)
    refine (innerAdvances after).travels.bind fun _ after => ?_
    exact (advances_expect _ _ after rfl).travels.bind fun _ _ => .pure _
  · split
    · refine .again ?_
      exact (advances_arguments innerAdvances cursor).bind fun _ _ => .pure _
    · exact .again (advances_throw (blames_of_isInner cursor rfl))
  · exact .done _

theorem advances_chain (cursor : Cursor) : (chain inner).Advances cursor sort := by
  refine (advances_primary innerAdvances cursor).bind fun _ after => .get ?_
  exact travels_loop (proceeds_chainPart innerAdvances) _ _ _

omit innerAdvances in
theorem proceeds_nextCast (operand : Expression) (cursor : Cursor) :
    (nextCast operand).Proceeds cursor sort := by
  refine .get ?_
  split
  · rename_i word
    refine .again ((advances_of_kind word rfl).lift.bind fun _ after => ?_)
    exact (advances_typeName after).travels.bind fun _ _ => .pure _
  · exact .done _

theorem advances_casts (cursor : Cursor) : (casts inner).Advances cursor sort := by
  refine (advances_chain innerAdvances cursor).bind fun _ after => .get ?_
  exact travels_loop proceeds_nextCast _ _ _

end Deeper

/-! ## Operators -/

theorem isOrdinary_of_unaryOperator? {kind : Kind} {operator : UnaryOperator}
    (found : kind.unaryOperator? = some operator) :
    kind.isOrdinary = true := by
  unfold Kind.unaryOperator? at found
  split at found <;> first | rfl | cases found

theorem isOrdinary_of_binaryOperator? {kind : Kind} {operator : BinaryOperator}
    (found : kind.binaryOperator? = some operator) :
    kind.isOrdinary = true := by
  unfold Kind.binaryOperator? at found
  split at found <;> first | rfl | cases found

theorem isOrdinary_of_assignmentOperator?
    {kind : Kind} {operator : AssignmentOperator}
    (found : kind.assignmentOperator? = some operator) :
    kind.isOrdinary = true := by
  unfold Kind.assignmentOperator? at found
  split at found <;> first | rfl | cases found

theorem advances_operand {deeper inner : Reader Expression}
    (deeperAdvances : ∀ cursor, deeper.Advances cursor sort)
    (innerAdvances : ∀ cursor, inner.Advances cursor sort) (cursor : Cursor) :
    (operand deeper inner).Advances cursor sort := by
  refine .get ?_
  split
  · exact (advances_constant cursor).bind fun _ _ => .pure _
  · split
    · rename_i found
      refine (advances_advance (isOrdinary_of_unaryOperator? found)).lift.bind
        fun _ after => ?_
      exact (deeperAdvances after).travels.bind fun _ _ => .pure _
    · exact advances_casts innerAdvances cursor

section Operators

variable {unary : Reader Expression}
  (unaryAdvances : ∀ cursor, unary.Advances cursor sort)

include unaryAdvances

/-- Operators travel, by induction on the tokens left. -/
theorem travels_operations
    (budget : List Token) (level : Precedence) (left : Expression)
    (cursor : Cursor) :
    (operations unary budget level left).Travels cursor sort := by
  induction budget generalizing level left cursor with
  | nil => exact .pure left
  | cons _ budget ih =>
    refine .get ?_
    split
    · rename_i operator found
      split
      · exact .pure left
      · refine (advances_advance
          (isOrdinary_of_binaryOperator? found)).lift.travels.bind
            fun _ after => ?_
        refine (unaryAdvances after).travels.bind fun first after => ?_
        refine (ih _ first after).bind fun _ after => ?_
        exact ih _ _ after
    · exact .pure left

theorem advances_binary (level : Precedence) (cursor : Cursor) :
    (binary unary level).Advances cursor sort := by
  refine (unaryAdvances cursor).bind fun first after => .get ?_
  exact travels_operations unaryAdvances _ _ _ _

end Operators

theorem advances_unaryAt (levels : Nat) (cursor : Cursor) :
    (unaryAt levels).Advances cursor sort := by
  induction levels generalizing cursor with
  | zero => exact advances_operand advances_tooDeep advances_tooDeep cursor
  | succ levels ih =>
    exact advances_operand ih
      (advances_binary ih .logicalOr) cursor

theorem advances_expressionAt (levels : Nat) (cursor : Cursor) :
    (expressionAt levels).Advances cursor sort := by
  cases levels with
  | zero => exact advances_tooDeep cursor
  | succ levels => exact advances_binary (advances_unaryAt levels) _ cursor

theorem advances_expression (cursor : Cursor) : expression.Advances cursor sort :=
  advances_expressionAt nestingLimit cursor

end Reader

/-! ## Recovery -/

open Cursor

variable {sort : Cause → Bool} [Cause.Outer sort]

namespace Recovery

open Reader

variable {cursor : Cursor}

/-- Discarding passes the current token and may report it. -/
theorem ends_discard (post : Token → Cursor → Prop) :
    Ends Reader.discard cursor post ↔ post cursor.current cursor.discard := by
  have place :
      cursor.next.lastLexical ≠ some cursor.current.span.start ↔
        cursor.lastLexical ≠ some cursor.position := by
    rw [lastLexical_next]
    rfl
  unfold Reader.discard Cursor.discard
  rw [ends_bind, ends_advance, ends_bind, ends_get]
  simp only [place]
  split
  · rename_i fresh
    rw [if_pos (show (cursor.kind.isInvalid && _) = true from fresh)]
    rfl
  · rename_i stale
    rw [if_neg (show ¬ (cursor.kind.isInvalid && _) = true from stale)]
    rfl

theorem advances_discard (inside : cursor.kind ≠ .endOfText) :
    Reader.discard.Advances cursor sort :=
  (ends_discard _).2 ⟨reaches_discard inside, precedes_discard inside⟩

theorem proceeds_passNewline (value : Unit) (cursor : Cursor) :
    (passNewline value).Proceeds cursor sort := by
  refine .get ?_
  split
  · rename_i found
    exact .again ((advances_of_kind found rfl).bind fun _ _ => .pure _)
  · exact .done _

theorem travels_skipNewlines (cursor : Cursor) : skipNewlines.Travels cursor sort :=
  .get (travels_loop proceeds_passNewline _ _ _)

theorem proceeds_discardInLine (value : Unit) (cursor : Cursor) :
    (discardInLine value).Proceeds cursor sort := by
  refine .get ?_
  split
  · exact .done _
  · rename_i inside
    refine .again ((advances_discard inside).bind fun _ _ => ?_)
    split <;> exact .pure _

theorem travels_skipLine (cursor : Cursor) : skipLine.Travels cursor sort :=
  .get (travels_loop proceeds_discardInLine _ _ _)

theorem proceeds_discardInStatement (value : Unit) (cursor : Cursor) :
    (discardInStatement value).Proceeds cursor sort := by
  refine .get ?_
  split
  · rename_i found
    exact (advances_of_kind found rfl).travels.proceeds fun _ => ()
  · exact .done _
  · split
    · exact .done _
    · rename_i inside _
      exact .again ((advances_discard inside).bind fun _ _ => .pure _)

theorem travels_synchronize (cursor : Cursor) : synchronize.Travels cursor sort :=
  .get (travels_loop proceeds_discardInStatement _ _ _)

/-! ## Passing something -/

theorem advances_skipLine (inside : cursor.kind ≠ .endOfText) :
    skipLine.Advances cursor sort := by
  refine .get (advances_loop proceeds_discardInLine (.get ?_))
  rw [if_neg inside]
  refine (advances_discard inside).bind fun _ _ => ?_
  split <;> exact .pure _

theorem advances_synchronize (inside : cursor.kind ≠ .endOfText)
    (free : ¬ cursor.kind.isBlockTerminator = true) :
    synchronize.Advances cursor sort := by
  refine .get (advances_loop proceeds_discardInStatement (.get ?_))
  split
  · rename_i found
    exact (advances_of_kind found rfl).bind fun _ _ => .pure _
  · rename_i found
    exact absurd found inside
  · rw [if_neg free]
    exact (advances_discard inside).bind fun _ _ => .pure _

/-! ## Passing an invalid token once -/

/-- An invalid token that has just been reported is discarded in silence. -/
theorem discard_of_reported
    (reported : cursor.lastLexical = some cursor.position) :
    cursor.discard = cursor.next := by
  simp [Cursor.discard, reported]

theorem resumes_skipLine (cursor : Cursor) : skipLine.Resumes cursor sort := by
  intro invalid reported
  have inside := Kind.ne_endOfText_of_isInvalid invalid
  have noBreak : cursor.current.kind ≠ .newline := by
    intro found
    rw [show cursor.kind = .newline from found] at invalid
    cases invalid
  unfold skipLine
  rw [ends_bind, ends_get, ends_loop_budget]
  unfold discardInLine
  rw [ends_bind, ends_get, if_neg inside, ends_bind, ends_discard,
    if_neg noBreak, discard_of_reported reported]
  exact travels_loop proceeds_discardInLine _ _ _

/-- Discarding a statement passes an invalid token without a second report. -/
theorem resumes_synchronize (cursor : Cursor) : synchronize.Resumes cursor sort := by
  intro invalid reported
  have step :
      Ends (discardInStatement ()) cursor fun decision after =>
        decision = .again () ∧ after = cursor.next := by
    unfold discardInStatement
    rw [ends_bind, ends_get]
    split
    · rename_i found
      rw [found] at invalid
      cases invalid
    · rename_i found
      rw [found] at invalid
      cases invalid
    · split
      · rename_i terminator
        cases found : cursor.kind with
        | invalid error => simp [found, Kind.isBlockTerminator] at terminator
        | _ => simp [found, Kind.isInvalid] at invalid
      · rw [ends_bind, ends_discard, discard_of_reported reported]
        exact ⟨rfl, rfl⟩
  unfold synchronize
  rw [ends_bind, ends_get, ends_loop_budget]
  refine step.mono fun decision after decided => ?_
  obtain ⟨rfl, rfl⟩ := decided
  exact travels_loop proceeds_discardInStatement _ _ _

end Recovery

/-! ## Ends of lines -/

namespace Reader

theorem travels_endOfLine (context : String) (cursor : Cursor) :
    (endOfLine context).Travels cursor sort := by
  refine .get ?_
  split
  · rename_i found
    exact (Recovery.advances_of_kind found rfl).lift.travels.bind
      fun _ _ => .pure _
  · exact .pure _
  · exact (advances_reject _).travels

/-- The end of a declaration travels, with a comment or without one. -/
theorem travels_endOfDeclaration (context : String) (cursor : Cursor) :
    (endOfDeclaration context).Travels cursor sort := by
  refine .get ?_
  split
  · rename_i found
    refine (Recovery.advances_of_kind found rfl).lift.travels.bind
      fun _ after => ?_
    exact (travels_endOfLine _ after).bind fun _ _ => .pure _
  · refine (travels_endOfLine _ cursor).bind fun _ after => .get ?_
    split
    · rename_i found
      refine (Recovery.advances_of_kind found rfl).lift.travels.bind
        fun _ after => ?_
      exact (travels_endOfLine _ after).bind fun _ _ => .pure _
    · exact .pure _

end Reader

namespace Recovery

open Reader

variable {cursor : Cursor}
variable {diagnostic : Diagnostic}

theorem travels_reportAndSkipLine (blames : Blames diagnostic cursor sort) :
    (reportAndSkipLine diagnostic).Travels cursor sort :=
  .report blames (travels_skipLine _) (resumes_skipLine _)

theorem advances_reportAndSkipLine
    (blames : Blames diagnostic cursor sort) (inside : cursor.kind ≠ .endOfText) :
    (reportAndSkipLine diagnostic).Advances cursor sort :=
  .report blames (advances_skipLine inside) (resumes_skipLine _)

theorem travels_finishLine (context : String) (cursor : Cursor) :
    (finishLine context).Travels cursor sort := by
  refine (travels_endOfLine context cursor).run_bind
    (fun _ _ => .pure _) fun _ _ blames => ?_
  exact travels_reportAndSkipLine blames

/-! ## Skipping lines -/

/-- A step that skips a line, unless it finds a reason to stop, proceeds. -/
theorem proceeds_skipLine (inside : cursor.kind ≠ .endOfText) :
    Proceeds (skipLine >>= fun _ => pure (.again ())) cursor sort :=
  .again ((advances_skipLine inside).bind fun _ _ => .pure _)

theorem proceeds_discardToMember (value : Unit) (cursor : Cursor) :
    (discardToMember value).Proceeds cursor sort := by
  refine (travels_skipNewlines cursor).bind_proceeds fun _ after => .get ?_
  split
  · exact .done _
  · rename_i going
    simp only [Bool.or_eq_true, decide_eq_true_eq, not_or] at going
    exact proceeds_skipLine going.1

theorem travels_recoverToMember (cursor : Cursor) :
    recoverToMember.Travels cursor sort :=
  (travels_skipLine cursor).bind fun _ _ =>
    .get (travels_loop proceeds_discardToMember _ _ _)

theorem advances_recoverToMember (inside : cursor.kind ≠ .endOfText) :
    recoverToMember.Advances cursor sort :=
  (advances_skipLine inside).bind fun _ _ =>
    .get (travels_loop proceeds_discardToMember _ _ _)

theorem resumes_recoverToMember (cursor : Cursor) :
    recoverToMember.Resumes cursor sort :=
  (resumes_skipLine cursor).bind fun _ _ =>
    .get (travels_loop proceeds_discardToMember _ _ _)

theorem proceeds_discardInBody
    (block : Block) (value : Unit) (cursor : Cursor) :
    (discardInBody block value).Proceeds cursor sort := by
  refine (travels_skipNewlines cursor).bind_proceeds fun _ after => .get ?_
  split
  · exact (travels_skipLine after).proceeds fun _ => ()
  · split
    · exact .done _
    · rename_i going
      simp only [Bool.or_eq_true, decide_eq_true_eq, not_or] at going
      exact proceeds_skipLine going.1.1

theorem travels_skipBody (block : Block) (cursor : Cursor) :
    (skipBody block).Travels cursor sort :=
  .get (travels_loop (proceeds_discardInBody block) _ _ _)

/-- What follows the first line when a broken member is skipped. -/
theorem travels_afterBrokenLine (block : Block) (cursor : Cursor) :
    Travels
      (do
        skipNewlines
        if block = .property && !(← get).atFunctionStart then
          return
        else
          skipBody block) cursor sort := by
  refine (travels_skipNewlines cursor).bind fun _ after => .get ?_
  split
  · exact .pure _
  · exact travels_skipBody block after

theorem advances_skipMember
    (block? : Option Block) (inside : cursor.kind ≠ .endOfText) :
    (skipMember block?).Advances cursor sort := by
  cases block? with
  | none =>
    refine .get ?_
    split
    · exact advances_recoverToMember inside
    · exact advances_skipLine inside
  | some block =>
    refine (advances_skipLine inside).bind fun _ after => ?_
    exact travels_afterBrokenLine block after

theorem travels_skipMember (block? : Option Block) (cursor : Cursor) :
    (skipMember block?).Travels cursor sort := by
  cases block? with
  | none =>
    refine .get ?_
    split
    · exact travels_recoverToMember cursor
    · exact travels_skipLine cursor
  | some block =>
    refine (travels_skipLine cursor).bind fun _ after => ?_
    exact travels_afterBrokenLine block after

theorem resumes_skipMember (block? : Option Block) (cursor : Cursor) :
    (skipMember block?).Resumes cursor sort := by
  cases block? with
  | none =>
    intro invalid reported
    unfold skipMember
    rw [ends_bind, ends_get]
    split
    · exact resumes_recoverToMember cursor invalid reported
    · exact resumes_skipLine cursor invalid reported
  | some block =>
    refine (resumes_skipLine cursor).bind fun _ after => ?_
    exact travels_afterBrokenLine block after

end Recovery

end PapyrusScript
