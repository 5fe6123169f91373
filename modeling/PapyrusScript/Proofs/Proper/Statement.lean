import PapyrusScript.Proofs.Proper.Builds

/-!
# Readers of lines and bodies build proper trees

The readers of one level of nesting take the readers one level deeper as
parameters, and so do the lemmas about them: what those read has at most
`levels` levels, and what is put together from it has one level more.

A line that is broken leaves no statement, and neither does a block whose
condition is broken.  So whatever is reported, what is left of a body is
proper.
-/

namespace PapyrusScript.Reader

section Expressions

variable {accepted : Prop}

/-! ## Types and literals -/

theorem builds_elementType :
    elementType.Builds accepted fun type => type.isArray = false := by
  apply Builds.get
  intro cursor
  split
  · exact .take fun _ => .pure rfl
  · exact builds_reject _

/-- The value of a token is finite if the token starts as a number does. -/
theorem finite_of_literalValue {token : Token} {value : Value}
    (starts : token.kind = .floatLiteral → StartsWithDigit token.text.toList)
    (found : literalValue token = .ok value) :
    value.IsFinite ∧ value.IsUnsigned := by
  unfold literalValue at found
  split at found
  · unfold integerValue at found
    split at found
    · obtain rfl := Except.ok.inj found
      exact ⟨trivial, trivial⟩
    · cases found
  · rename_i float
    obtain ⟨finite, unsigned⟩ := finite_of_floatValue (starts float) found
    exact ⟨finite, unsigned rfl⟩
  all_goals
    cases found
  all_goals exact ⟨trivial, trivial⟩

/-- Behind a minus a value is finite, and an integer is unsigned. -/
theorem finite_of_negativeValue {token : Token} {value : Value}
    (starts : token.kind = .floatLiteral → StartsWithDigit token.text.toList)
    (found : negativeValue token = .ok value) :
    value.IsFinite ∧ (token.kind = .intLiteral → value.IsUnsigned) := by
  unfold negativeValue at found
  split at found
  · unfold integerValue at found
    split at found
    · obtain rfl := Except.ok.inj found
      exact ⟨trivial, fun _ => trivial⟩
    · cases found
  · rename_i float
    refine ⟨(finite_of_floatValue (starts float) found).1, fun integer => ?_⟩
    rw [float] at integer
    cases integer
  · cases found

/-- A value that has been checked is good in the literal too. -/
theorem ends_checked
    {read : Token → Except Diagnostic Value} {good : Value → Prop}
    {cursor : Cursor}
    (sound : cursor.SeesFloats → ∀ value,
      read cursor.current = .ok value → good value)
    (place : Token → Span) :
    Ends (match read cursor.current with
      | .error diagnostic => throw diagnostic
      | .ok value => do
          let token ← advance
          return (⟨value, place token⟩ : Literal)) cursor
      (fun literal after => cursor.Grants accepted after (good literal.value))
      fun _ after => cursor.Grants accepted after True := by
  cases found : read cursor.current with
  | error diagnostic => exact .refl fun _ => trivial
  | ok value =>
    have next : cursor.Grants accepted cursor.next True := cursor.grants_next
    exact ⟨next.budget, next.reported, fun sees _ => sound sees value found⟩

theorem current_mem_budget (cursor : Cursor) : cursor.current ∈ cursor.budget :=
  List.mem_cons_self

theorem builds_literal :
    literal.Builds accepted fun literal =>
      literal.value.IsFinite ∧ literal.value.IsUnsigned := by
  intro cursor
  have checked := @ends_checked accepted literalValue
    (fun value => value.IsFinite ∧ value.IsUnsigned) cursor
    (fun sees value found =>
      finite_of_literalValue (sees _ (current_mem_budget cursor)) found)
    Token.span
  unfold literal
  rw [ends_bind, ends_get]
  exact checked

/-- Behind a minus stands a number, and an integer has no sign to lose. -/
theorem ends_constant_of_minus
    {cursor : Cursor} (minus : cursor.kind = .symbol .minus) :
    constant.Ends cursor
      (fun literal after => cursor.Grants accepted after
        (literal.value.IsFinite ∧
          (cursor.kindAt 1 = .intLiteral → literal.value.IsUnsigned)))
      fun _ after => cursor.Grants accepted after True := by
  have inside : cursor.kind ≠ .endOfText := by simp [minus]
  have next : cursor.Grants accepted cursor.next True := cursor.grants_next
  have checked := @ends_checked accepted negativeValue
    (fun value => value.IsFinite ∧
      (cursor.kindAt 1 = .intLiteral → value.IsUnsigned)) cursor.next
    (fun sees value found => by
      have number := finite_of_negativeValue
        (sees _ (current_mem_budget cursor.next)) found
      rwa [← Cursor.kind_next inside])
    (fun token => cursor.current.span.through token.span)
  unfold constant
  rw [ends_bind, ends_get, if_pos minus, ends_bind, ends_lift,
    Recovery.ends_advance, ends_bind, ends_get]
  apply checked.mono
  · exact fun _ _ further => next.trans (further.mono fun holds _ => holds)
  · exact fun _ _ further => next.trans (further.mono fun holds _ => holds)

theorem builds_constant :
    constant.Builds accepted fun literal => literal.value.IsFinite := by
  intro cursor
  by_cases minus : cursor.kind = .symbol .minus
  · apply (ends_constant_of_minus minus).mono
    · exact fun _ _ grants => grants.mono And.left
    · exact fun _ _ grants => grants
  · unfold constant
    rw [ends_bind, ends_get, if_neg minus]
    apply Ends.mono (builds_literal cursor)
    · exact fun _ _ grants => grants.mono And.left
    · exact fun _ _ grants => grants

theorem builds_initialConstant :
    initialConstant.Builds accepted Literal.AreFinite := by
  apply Builds.get
  intro cursor
  split
  · apply Builds.take
    intro _
    apply builds_constant.bind
    exact fun literal => .pure fun finite => forall_mem_some finite
  · exact .pure nofun

/-! ## One level of nesting -/

theorem builds_tooDeep {α : Type} {good : α → Prop} :
    Builds accepted (tooDeep : Reader α) good :=
  .get fun _ => builds_throw _

/-- In an accepted script the size of an array is within its limit. -/
theorem builds_checkArraySize (size : Expression) :
    Recovery.Builds accepted (checkArraySize size) fun _ =>
      accepted → size.exceedsArrayLimit = false := by
  unfold checkArraySize
  split
  · rename_i count span
    split
    · apply (Recovery.builds_complain _ _).mono
      exact fun _ rejected isAccepted => absurd isAccepted rejected
    · rename_i within
      exact .pure fun _ => decide_eq_false within
  · rename_i other
    apply Recovery.Builds.pure
    intro _
    unfold Expression.exceedsArrayLimit
    split
    · rename_i count span
      exact absurd rfl (other count span)
    · rfl

theorem builds_nextCast {levels : Nat} (operand : Expression) :
    (nextCast operand).Builds accepted fun decision =>
      operand.Within accepted levels →
        decision.value.Within accepted levels := by
  apply Builds.get
  intro cursor
  split
  · apply Builds.take
    intro _
    apply Builds.skip fun cursor => (advances_typeName cursor).travels
    intro target
    exact .pure fun within => ⟨within.proper, within.nesting⟩
  · exact .pure id

section Nested

variable {levels : Nat} {deeper inner unary : Reader Expression}

section Inner

variable (builds : inner.Builds accepted (Expression.Within accepted levels))
include builds

theorem builds_argument :
    (argument inner).Builds accepted fun argument =>
      argument.value.Within accepted levels := by
  apply Builds.get
  intro cursor
  apply Builds.skip fun cursor => (travels_argumentName cursor).lift
  intro name
  apply builds.bind
  intro value
  exact .get fun _ => .pure id

theorem builds_nextArgument (found : List (Argument Expression)) :
    (nextArgument inner found).Builds accepted fun decision =>
      Expression.AreWithin accepted levels found →
        Expression.AreWithin accepted levels decision.value := by
  apply (builds_argument builds).bind
  intro next
  apply Builds.get
  intro cursor
  split
  · exact .take fun _ => .pure Expression.AreWithin.concat
  · exact .pure Expression.AreWithin.concat

/-- Arguments stand within one level less. -/
theorem builds_arguments :
    (arguments inner).Builds accepted fun found =>
      Expression.AreWithin accepted levels found.1 := by
  have listed : (argumentList inner).Builds accepted
      (Expression.AreWithin accepted levels) := by
    apply Builds.get
    intro cursor
    split
    · exact .pure (.nil accepted levels)
    · apply (Builds.loop (builds_nextArgument builds) _ _).mono
      exact fun _ holds => holds (.nil accepted levels)
  apply Builds.skip fun cursor =>
    (advances_expect _ _ cursor rfl).travels
  intro _
  apply listed.bind
  intro found
  apply Builds.skip fun cursor =>
    (advances_expect _ _ cursor rfl).travels
  exact fun _ => .pure id

/-- A new object or array stands within the levels. -/
theorem builds_newObject :
    (newObject inner).Builds accepted
      (Expression.Within accepted (levels + 1)) := by
  apply Builds.skip fun cursor =>
    (advances_expect _ _ cursor rfl).travels
  intro keyword
  apply builds_elementType.bind
  intro type
  apply Builds.get
  intro cursor
  split
  · apply Builds.take
    intro _
    apply builds.bind
    intro size
    apply (Builds.lift (builds_checkArraySize size)).bind
    intro _
    apply Builds.skip fun cursor =>
      (advances_expect _ _ cursor rfl).travels
    intro close
    apply Builds.pure
    intro countable within _
    exact ⟨⟨rfl, within.proper, countable⟩, Nat.succ_le_succ within.nesting⟩
  · apply Builds.pure
    intro element
    exact ⟨⟨element.symm, trivial⟩, Nat.succ_le_succ (Nat.zero_le _)⟩

/-- An operand without prefix stands within the levels. -/
theorem builds_primary :
    (primary inner).Builds accepted
      (Expression.Within accepted (levels + 1)) := by
  apply Builds.get
  intro cursor
  dsimp only
  split
  · apply builds_literal.bind
    intro literal
    apply Builds.pure
    intro finite
    exact ⟨finite, Nat.succ_le_succ (Nat.zero_le _)⟩
  · split
    · apply Builds.take
      intro token
      exact .pure ⟨trivial, Nat.succ_le_succ (Nat.zero_le _)⟩
    · apply Builds.take
      intro _
      apply builds.bind
      intro value
      apply Builds.skip fun cursor =>
        (advances_expect _ _ cursor rfl).travels
      exact fun _ => .pure Expression.Within.deeper
    · exact builds_newObject builds
    · exact builds_reject _

/-- One more part of a chain keeps an expression within the levels. -/
theorem builds_chainPart (whole : Expression) :
    (chainPart inner whole).Builds accepted fun decision =>
      whole.Within accepted (levels + 1) →
        decision.value.Within accepted (levels + 1) := by
  apply Builds.get
  intro cursor
  split
  · apply Builds.take
    intro _
    apply Builds.get
    intro cursor
    split
    · apply Builds.take
      intro token
      exact .pure fun within => ⟨within.proper, within.nesting⟩
    · apply Builds.skip fun cursor => (advances_identifier _ cursor).travels
      intro field
      exact .pure fun within => ⟨within.proper, within.nesting⟩
  · apply Builds.take
    intro _
    apply builds.bind
    intro subscript
    apply Builds.skip fun cursor =>
      (advances_expect _ _ cursor rfl).travels
    intro close
    apply Builds.pure
    intro inside within
    exact ⟨⟨within.proper, inside.proper⟩,
      Nat.max_le.2 ⟨within.nesting, Nat.succ_le_succ inside.nesting⟩⟩
  · split
    · rename_i callable
      apply (builds_arguments builds).bind
      intro found
      apply Builds.pure
      intro inside within
      exact ⟨⟨callable, within.proper, inside.proper⟩,
        Nat.max_le.2 ⟨within.nesting, inside.nesting⟩⟩
    · exact .get fun _ => builds_throw _
  · exact .pure id

theorem builds_chain :
    (chain inner).Builds accepted
      (Expression.Within accepted (levels + 1)) := by
  apply (builds_primary builds).bind
  intro first
  exact .get fun _ => .loop (builds_chainPart builds) _ _

theorem builds_casts :
    (casts inner).Builds accepted
      (Expression.Within accepted (levels + 1)) := by
  apply (builds_chain builds).bind
  intro operand
  exact .get fun _ => .loop builds_nextCast _ _

end Inner

/-- Behind a prefix operator stands an operand one level down. -/
theorem builds_operand
    (operand : deeper.Builds accepted (Expression.Within accepted levels))
    (builds : inner.Builds accepted (Expression.Within accepted levels)) :
    (Reader.operand deeper inner).Builds accepted
      (Expression.Within accepted (levels + 1)) := by
  intro cursor
  unfold Reader.operand
  rw [ends_bind, ends_get]
  by_cases signed : atSignedInteger cursor = true
  · rw [if_pos signed]
    simp only [atSignedInteger, Bool.and_eq_true, decide_eq_true_eq] at signed
    obtain ⟨⟨minus, integer⟩, _⟩ := signed
    rw [ends_bind]
    apply (ends_constant_of_minus minus).mono
    · intro literal after grants
      apply grants.mono
      rintro ⟨finite, unsigned⟩
      exact ⟨⟨finite, unsigned integer⟩, Nat.succ_le_succ (Nat.zero_le _)⟩
    · exact fun _ _ grants => grants
  · rw [if_neg signed]
    split
    · refine (Builds.take fun token => ?_) cursor
      apply operand.bind
      intro value
      apply Builds.pure
      intro within
      exact ⟨within.proper, Nat.succ_le_succ within.nesting⟩
    · exact builds_casts builds cursor

/-- Operators keep an expression within the levels. -/
theorem builds_operations
    (builds : unary.Builds accepted (Expression.Within accepted levels))
    (budget : List Token) (level : Precedence) (left : Expression) :
    (operations unary budget level left).Builds accepted fun value =>
      left.Within accepted levels → value.Within accepted levels := by
  induction budget generalizing level left with
  | nil => exact .pure id
  | cons _ budget ih =>
    apply Builds.get
    intro cursor
    split
    · split
      · exact .pure id
      · apply Builds.take
        intro _
        apply builds.bind
        intro first
        apply (ih _ first).bind
        intro right
        apply (ih _ _).mono
        intro value whole grouped firstWithin leftWithin
        have rightWithin := grouped firstWithin
        exact whole ⟨⟨leftWithin.proper, rightWithin.proper⟩,
          Nat.max_le.2 ⟨leftWithin.nesting, rightWithin.nesting⟩⟩
    · exact .pure id

theorem builds_binary
    (builds : unary.Builds accepted (Expression.Within accepted levels))
    (level : Precedence) :
    (binary unary level).Builds accepted
      (Expression.Within accepted levels) := by
  apply builds.bind
  intro first
  exact .get fun _ => builds_operations builds _ _ first

end Nested

/-! ## All levels -/

/-- An operand with so many levels left below it has one level more. -/
theorem builds_unaryAt (levels : Nat) :
    (unaryAt levels).Builds accepted
      (Expression.Within accepted (levels + 1)) := by
  induction levels with
  | zero => exact builds_operand builds_tooDeep builds_tooDeep
  | succ levels ih =>
    exact builds_operand ih
      (builds_binary ih _)

theorem builds_expressionAt (levels : Nat) :
    (expressionAt levels).Builds accepted
      (Expression.Within accepted levels) := by
  cases levels with
  | zero => exact builds_tooDeep
  | succ levels => exact builds_binary (builds_unaryAt levels) _

theorem builds_expression :
    expression.Builds accepted (Expression.Within accepted nestingLimit) :=
  builds_expressionAt nestingLimit

end Expressions

/-! ## Readers of statements build proper statements -/

section Statements

open Recovery

variable {accepted : Prop}

/-! ## Statements on a line -/

theorem builds_returnedValue :
    returnedValue.Builds accepted fun value =>
      ∀ expression ∈ value, expression.Within accepted nestingLimit := by
  apply Builds.get
  intro cursor
  dsimp only
  split
  · exact .pure nofun
  · apply builds_expression.bind
    exact fun value => .pure forall_mem_some

theorem builds_returnStatement :
    returnStatement.Builds accepted (Statement.Proper accepted) := by
  apply Builds.skip fun cursor => (advances_expect _ _ cursor rfl).travels
  intro keyword
  apply builds_returnedValue.bind
  intro value
  apply Builds.get
  intro cursor
  apply Builds.skip (travels_endOfLine _)
  exact fun _ => .pure id

theorem builds_initialExpression :
    initialExpression.Builds accepted fun initial =>
      ∀ expression ∈ initial, expression.Within accepted nestingLimit := by
  apply Builds.get
  intro cursor
  split
  · apply Builds.take
    intro _
    apply builds_expression.bind
    exact fun value => .pure forall_mem_some
  · exact .pure nofun

theorem builds_declareStatement :
    declareStatement.Builds accepted (Statement.Proper accepted) := by
  apply Builds.skip fun cursor => (advances_typeName cursor).travels
  intro type
  apply Builds.skip fun cursor => (advances_identifier _ cursor).travels
  intro name
  apply builds_initialExpression.bind
  intro initial
  apply Builds.get
  intro cursor
  apply Builds.skip (travels_endOfLine _)
  exact fun _ => .pure id

/-- An assignment is proper, since its target was checked. -/
theorem builds_assignment
    (start : Position) (target : Expression) (operator : AssignmentOperator) :
    (assignment start target operator).Builds accepted fun statement =>
      target.Within accepted nestingLimit → statement.Proper accepted := by
  unfold assignment
  split
  · rename_i assignable
    apply Builds.take
    intro _
    apply builds_expression.bind
    intro value
    apply Builds.get
    intro cursor
    split
    · exact builds_throw _
    · exact .pure fun second first => ⟨assignable, first, second⟩
  · exact builds_throw _

/-- An assignment or an expression by itself is proper. -/
theorem builds_expressionStatement :
    expressionStatement.Builds accepted (Statement.Proper accepted) := by
  apply Builds.get
  intro cursor
  apply builds_expression.bind
  intro value
  have statement : (assignmentOr cursor.position value).Builds accepted
      fun statement => value.Within accepted nestingLimit →
        statement.Proper accepted := by
    apply Builds.get
    intro cursor
    split
    · exact builds_assignment _ value _
    · exact .pure id
  apply statement.bind
  intro found
  apply Builds.skip (travels_endOfLine _)
  exact fun _ => .pure id

/-! ## Conditions -/

theorem builds_condition (context : String) :
    Recovery.Builds accepted (condition context) fun found =>
      ∀ expression ∈ found, expression.Within accepted nestingLimit := by
  apply Recovery.Builds.run_bind builds_expression
  · intro value
    apply Recovery.Builds.run_bind (builds_of_travels (travels_endOfLine _))
    · exact fun _ => .pure fun _ => forall_mem_some
    · intro diagnostic
      exact builds_synchronizeAfter diagnostic forall_mem_some
  · exact fun diagnostic => builds_synchronizeAfter diagnostic nofun

/-! ## Conditionals -/

variable (accepted) in
/-- What has been read of a conditional is proper, and if no condition is
broken, it has an arm. -/
structure Arms.Proper (arms : Arms) : Prop where
  branches : Statement.ProperBranches accepted arms.branches
  otherwise : Statement.ProperOtherwise accepted arms.otherwise
  opened : arms.complete = true → arms.branches ≠ []

/-- Another arm with a condition opens the conditional, unless it comes after
the last resort. -/
theorem Arms.proper_add
    {arms : Arms} {condition : Option Expression} {body : List Statement}
    (span : Span) (branches : Statement.ProperBranches accepted arms.branches)
    (otherwise : Statement.ProperOtherwise accepted arms.otherwise)
    (opened : arms.otherwise.isSome = true → arms.complete = true →
      arms.branches ≠ [])
    (within : ∀ expression ∈ condition, expression.Within accepted nestingLimit)
    (inside : Statement.ProperBody accepted body) :
    (arms.add condition body span).Proper accepted := by
  cases condition with
  | none => exact ⟨branches, otherwise, nofun⟩
  | some condition =>
    dsimp only [Arms.add]
    by_cases late : arms.otherwise.isSome = true
    · rw [if_pos late]
      exact ⟨branches, otherwise, opened late⟩
    · rw [if_neg late]
      have added : Statement.ProperBranches accepted
          (arms.branches ++ [⟨condition, body, span⟩]) := by
        rw [Statement.properBranches_append]
        exact ⟨branches, ⟨within condition rfl, inside⟩, trivial⟩
      exact ⟨added, otherwise, fun _ => List.concat_ne_nil _ _⟩

section Body

variable {body : Block → Recovery (List Statement)}
  (builds : ∀ block, Recovery.Builds accepted (body block)
    (Statement.ProperBody accepted))

include builds

/-- An arm leaves what has been read of a conditional proper. -/
theorem builds_nextArm (opener : Token) (arms : Arms) :
    Recovery.Builds accepted (nextArm body opener arms) fun decision =>
      arms.Proper accepted → decision.value.Proper accepted := by
  apply Recovery.Builds.get
  intro cursor
  split
  · apply Recovery.Builds.take
    intro token
    apply Recovery.Builds.skip
      (travels_reportElseIfAfterElse arms token)
    intro _
    apply (builds_condition _).bind
    intro found
    apply (builds _).bind
    intro inside
    apply Recovery.Builds.get
    intro cursor
    apply Recovery.Builds.pure
    intro proper within before
    exact Arms.proper_add _ before.branches before.otherwise
      (fun _ => before.opened) within proper
  · apply Recovery.Builds.take
    intro token
    apply Recovery.Builds.skip (travels_finishLine _)
    intro _
    apply (builds _).bind
    intro inside
    split
    · exact .report _ (.pure fun _ before => before)
    · exact .pure fun proper before => ⟨before.branches, proper, before.opened⟩
  · apply Recovery.Builds.take
    intro _
    apply Recovery.Builds.skip (travels_finishLine _)
    exact fun _ => .pure id
  · apply Recovery.Builds.skip
      fun _ => travels_reportUnterminated .conditional opener
    exact fun _ => .pure id

/-- A conditional is proper, if it is left at all. -/
theorem builds_conditionalStatement :
    Recovery.Builds accepted (conditionalStatement body) fun found =>
      ∀ statement ∈ found, statement.Proper accepted := by
  apply Recovery.Builds.take
  intro keyword
  apply (builds_condition _).bind
  intro found
  apply (builds _).bind
  intro inside
  apply Recovery.Builds.get
  intro cursor
  apply Recovery.Builds.get
  intro cursor
  apply (Recovery.Builds.loop (builds_nextArm builds keyword) _ _).bind
  intro arms
  split
  · rename_i complete
    apply Recovery.Builds.get
    intro cursor
    apply Recovery.Builds.pure
    intro preserved proper within
    have final : arms.Proper accepted :=
      preserved (Arms.proper_add _ trivial trivial nofun within proper)
    exact forall_mem_some
      ⟨final.opened complete, final.branches, final.otherwise⟩
  · exact .pure fun _ _ _ => nofun

/-! ## Loops -/

/-- A loop is proper, if it is left at all. -/
theorem builds_loopStatement :
    Recovery.Builds accepted (loopStatement body) fun found =>
      ∀ statement ∈ found, statement.Proper accepted := by
  apply Recovery.Builds.take
  intro keyword
  apply (builds_condition _).bind
  intro found
  apply (builds _).bind
  intro inside
  apply Recovery.Builds.skip (travels_endOfLoop keyword)
  intro _
  cases found with
  | some condition =>
    apply Recovery.Builds.get
    intro cursor
    apply Recovery.Builds.pure
    intro proper within
    exact forall_mem_some ⟨within condition rfl, proper⟩
  | none => exact .pure fun _ _ => nofun

/-! ## Bodies -/

/-- A statement is proper, if it is left at all. -/
theorem builds_statement :
    (statement body).Builds accepted fun found =>
      ∀ statement ∈ found, statement.Proper accepted := by
  have single {reader : Reader Statement}
      (proper : reader.Builds accepted (Statement.Proper accepted)) :
      (some <$> reader).Builds accepted fun found =>
        ∀ statement ∈ found, statement.Proper accepted := by
    apply Builds.map
    exact proper.mono fun _ => forall_mem_some
  apply Builds.get
  intro cursor
  split
  · exact .lift (builds_conditionalStatement builds)
  · exact .lift (builds_loopStatement builds)
  · exact single builds_returnStatement
  · split
    · exact single builds_declareStatement
    · exact single builds_expressionStatement

/-- A line leaves the statements in front of it proper. -/
theorem builds_bodyLine (block : Block) (statements : List Statement) :
    Recovery.Builds accepted (bodyLine body block statements) fun decision =>
      Statement.ProperBody accepted statements →
        Statement.ProperBody accepted decision.value := by
  apply Recovery.Builds.skip travels_skipNewlines
  intro _
  apply Recovery.Builds.get
  intro cursor
  dsimp only
  split
  · exact .pure id
  · split
    · split
      · exact .pure id
      · apply Recovery.Builds.take
        intro token
        exact .report _ (.pure id)
    · split
      · exact .take fun _ => .pure id
      · apply Recovery.Builds.run_bind (builds_statement builds)
        · intro found
          cases found with
          | some statement =>
            apply Recovery.Builds.pure
            intro proper before
            rw [Step.value, Statement.properBody_append]
            exact ⟨before, proper statement rfl, trivial⟩
          | none => exact .pure fun _ before => before
        · exact fun diagnostic => builds_synchronizeAfter diagnostic id

end Body

theorem builds_bodyWithin (budget : List Token) (block : Block) :
    Recovery.Builds accepted (bodyWithin budget block)
      (Statement.ProperBody accepted) := by
  induction budget generalizing block with
  | nil => exact .pure trivial
  | cons _ budget ih =>
    apply Recovery.Builds.inBlock
    apply Recovery.Builds.get
    intro cursor
    exact .loop_of (builds_bodyLine ih block) _ trivial

theorem builds_body (block : Block) :
    Recovery.Builds accepted (body block) (Statement.ProperBody accepted) :=
  .get fun _ => builds_bodyWithin _ block

end Statements

end PapyrusScript.Reader
