import PapyrusScript.Proofs.Spans

/-!
# Spans of expressions and statements

An expression stands between the first token that was ahead when its reader
started and the last one that has been passed.  Its span is joined from the
spans of its parts, so it may lack parentheses at either end.

A statement stands between the first token that was ahead and the last one that
has been passed, and what recovery discards behind it does not move it.  The
arms of a conditional are added one behind the other, the last resort behind
them.
-/

namespace PapyrusScript

namespace Reader

variable {cursor : Cursor}

/-! ## Tokens and literals -/

theorem places_expect
    {kind : Kind} (visible : kind ≠ .newline) (purpose : String) :
    (expect kind purpose).Places cursor fun token after =>
      token.span.start = cursor.position ∧
        token.span.NestsIn (after.spanFrom cursor.position) := by
  unfold expect
  apply Places.get
  split
  · rename_i found
    exact .lift (Recovery.places_advance_of_visible (found ▸ visible))
  · split <;> exact places_reject _

theorem places_symbol (sign : Symbol) (purpose : String) :
    (expect (.symbol sign) purpose).Places cursor fun token after =>
      token.span.start = cursor.position ∧
        token.span.NestsIn (after.spanFrom cursor.position) := by
  have visible : Kind.symbol sign ≠ .newline := nofun
  exact places_expect visible purpose

theorem places_keyword (word : Keyword) (purpose : String) :
    (expect (.keyword word) purpose).Places cursor fun token after =>
      token.span.start = cursor.position ∧
        token.span.NestsIn (after.spanFrom cursor.position) := by
  have visible : Kind.keyword word ≠ .newline := nofun
  exact places_expect visible purpose

theorem places_identifier (what : String) :
    (identifier what).Places cursor fun name after =>
      name.span.NestsIn (after.spanFrom cursor.position) := by
  unfold identifier
  apply Places.get
  split
  · rename_i found
    apply Places.takeVisible (by rw [found]; decide)
    exact fun _ _ _ placed => .pure fun _ => placed.2
  · exact places_reject _

theorem ne_newline_of_dataType?
    {token : Token} {type : DataType} (found : dataType? token = some type) :
    token.kind ≠ .newline := by
  intro newline
  simp [dataType?, newline] at found

theorem ne_newline_of_literalValue
    {token : Token} {value : Value} (found : literalValue token = .ok value) :
    token.kind ≠ .newline := by
  intro newline
  simp [literalValue, newline] at found

theorem ne_newline_of_negativeValue
    {token : Token} {value : Value} (found : negativeValue token = .ok value) :
    token.kind ≠ .newline := by
  intro newline
  simp [negativeValue, newline] at found

theorem places_elementType :
    elementType.Places cursor fun type after =>
      type.span.NestsIn (after.spanFrom cursor.position) := by
  unfold elementType
  apply Places.get
  split
  · rename_i found
    apply Places.takeVisible (ne_newline_of_dataType? found)
    exact fun _ _ _ placed => .pure fun _ => placed.2
  · exact places_reject _

/-- A type stands from its name to its brackets. -/
theorem places_typeName :
    typeName.Places cursor fun type after =>
      type.span.NestsIn (after.spanFrom cursor.position) := by
  unfold typeName
  apply places_elementType.bind
  intro element middle moves nests
  apply Places.get
  split
  · rename_i brackets
    simp only [Bool.and_eq_true, decide_eq_true_eq] at brackets
    have closes : middle.next.kind = .symbol .closeBracket := by
      rw [Cursor.kind_next (by rw [brackets.1]; decide)]
      exact brackets.2
    apply (Places.lift Recovery.places_advance).bind
    rintro _ _ further ⟨_, rfl⟩
    apply Places.takeVisible (by rw [closes]; decide)
    intro close after last placed
    apply Places.pure
    grind
  · exact .pure fun _ => nests

theorem places_literal :
    literal.Places cursor fun node after =>
      node.span.NestsIn (after.spanFrom cursor.position) := by
  unfold literal
  apply Places.get
  split
  · exact places_throw _
  · rename_i found
    apply Places.takeVisible (ne_newline_of_literalValue found)
    exact fun _ _ _ placed => .pure fun _ => placed.2

/-- A constant stands with the minus in front of it. -/
theorem places_constant :
    constant.Places cursor fun node after =>
      node.span.NestsIn (after.spanFrom cursor.position) := by
  unfold constant
  apply Places.get
  split
  · apply Places.take
    intro minus middle moves starts
    apply Places.get
    split
    · exact places_throw _
    · rename_i found
      apply Places.takeVisible (ne_newline_of_negativeValue found)
      intro token after further placed
      apply Places.pure
      grind
  · exact places_literal

theorem places_initialConstant :
    initialConstant.Places cursor fun initial after =>
      ∀ node ∈ initial, node.span.NestsIn (after.spanFrom cursor.position) := by
  unfold initialConstant
  apply Places.get
  split
  · apply Places.take
    intro _ middle moves _
    apply places_constant.bind
    intro node after further nests
    apply Places.pure
    grind
  · exact .pure fun _ => nofun

/-! ## Arguments -/

def PlacesTrees (reader : Reader Expression) : Prop :=
  ∀ cursor, reader.Places cursor fun tree after =>
    tree.StandsIn (after.spanFrom cursor.position)

/-- The name of an argument stands in front of its value. -/
theorem places_argumentName :
    Recovery.Places argumentName cursor fun name after =>
      ∀ node ∈ name, node.span.NestsIn (after.spanFrom cursor.position) := by
  unfold argumentName
  apply Recovery.Places.get
  split
  · rename_i named
    simp only [Bool.and_eq_true, decide_eq_true_eq] at named
    apply (Recovery.places_advance_of_visible
      (by rw [named.1]; decide)).bind
    intro token middle moves placed
    apply Recovery.Places.take
    intro _ after further _
    apply Recovery.Places.pure
    grind
  · exact .pure fun _ => nofun

section Nested

variable {inner : Reader Expression} (places : PlacesTrees inner)
variable {start : Position}
include places

theorem places_argument :
    (argument inner).Places cursor fun argument after =>
      argument.span.NestsIn (after.spanFrom cursor.position) ∧
        Expression.ArrangedArgument argument := by
  unfold argument
  apply Places.get
  apply (Places.lift places_argumentName).bind
  intro name middle moves named
  apply (places middle).bind
  intro value after further nests
  apply Places.get
  apply Places.pure
  intro _
  refine ⟨?_, ⟨?_, ?_, nests.nested⟩, nests.ordered⟩ <;> grind

/-- An argument stands behind those in front of it. -/
theorem places_nextArgument
    {found : List (Argument Expression)} (begins : start ≤ cursor.position)
    (holds : (cursor.spanFrom start).Holds Argument.span
      Expression.ArrangedArgument found) :
    (nextArgument inner found).Places cursor fun decision after =>
      (after.spanFrom start).Holds Argument.span Expression.ArrangedArgument
        decision.value := by
  unfold nextArgument
  apply (places_argument places).bind
  intro argument middle moves placed
  have longer := holds.concat moves begins placed.1 placed.2
  apply Places.get
  split
  · apply Places.take
    intro _ after further _
    exact .pure fun _ => longer.mono (le_refl _) further.lastEnd
  · exact .pure fun _ => longer

theorem places_argumentList :
    (argumentList inner).Places cursor fun found after =>
      (after.spanFrom cursor.position).Holds Argument.span
        Expression.ArrangedArgument found := by
  unfold argumentList
  apply Places.get
  split
  · exact .pure fun _ => .nil
  · apply Places.loop
    · exact fun _ _ moves holds =>
        places_nextArgument places moves.position holds
    · exact fun _ => .nil

/-- The arguments of a call stand between its parentheses. -/
theorem places_arguments :
    (arguments inner).Places cursor fun found after =>
      Span.Holds ⟨cursor.position, found.2.span.start⟩ Argument.span
          Expression.ArrangedArgument found.1 ∧
        found.2.span.NestsIn (after.spanFrom cursor.position) := by
  unfold arguments
  apply (places_symbol _ _).bind
  intro _ middle moves _
  apply (places_argumentList places).bind
  intro found after further holds
  apply (places_symbol _ _).bind
  intro close last closing placed
  apply Places.pure
  intro _
  constructor
  · apply holds.mono <;> grind
  · grind

/-! ## Operands -/

/-- A new array stands from its keyword to the bracket behind its size. -/
theorem places_newObject : PlacesTrees (newObject inner) := by
  intro cursor
  unfold newObject
  apply (places_keyword _ _).bind
  intro keyword second opened placed
  apply places_elementType.bind
  intro type third typed nests
  apply Places.get
  split
  · apply Places.take
    intro _ fourth bracketed _
    apply (places fourth).bind
    intro size fifth sized tree
    apply Places.skip (travels_checkArraySize size fifth).lift
    intro _ sixth checked
    apply (places_symbol _ _).bind
    intro close last closed closing
    apply Places.pure
    intro _
    refine ⟨?_, ⟨?_, ?_, tree.nested⟩, ?_, tree.ordered⟩ <;> grind
  · apply Places.pure
    intro _
    refine ⟨?_, ⟨?_, trivial⟩, trivial⟩ <;> grind

/-- Parentheses around an expression are not part of its stretch. -/
theorem places_primary : PlacesTrees (primary inner) := by
  intro cursor
  unfold primary
  apply Places.get
  dsimp only
  split
  · apply places_literal.bind
    exact fun _ _ _ nests => .pure fun _ => ⟨nests, trivial, trivial⟩
  · split
    · rename_i found
      apply Places.takeVisible (by rw [found]; decide)
      exact fun _ _ _ placed => .pure fun _ => ⟨placed.2, trivial, trivial⟩
    · apply Places.take
      intro _ middle opened _
      apply (places middle).bind
      intro tree after moves nests
      apply (places_symbol _ _).bind
      intro _ last closed _
      apply Places.pure
      intro _
      refine ⟨?_, nests.nested, nests.ordered⟩
      grind
    · exact places_newObject places cursor
    · exact places_reject _

/-- A part of a chain stands behind what is in front of it. -/
theorem places_chainPart
    {tree : Expression} (stands : tree.StandsIn (cursor.spanFrom start)) :
    (chainPart inner tree).Places cursor fun decision after =>
      decision.value.StandsIn (after.spanFrom start) := by
  unfold chainPart
  apply Places.get
  split
  · apply Places.take
    intro _ middle moves _
    apply Places.get
    split
    · rename_i found
      apply Places.takeVisible (by rw [found]; decide)
      intro token after further placed
      apply Places.pure
      intro _
      refine ⟨?_, ⟨?_, stands.nested⟩, stands.ordered⟩ <;> grind
    · apply (places_identifier _).bind
      intro field after further placed
      apply Places.pure
      intro _
      refine ⟨?_, ⟨⟨?_, stands.nested⟩, ?_⟩, stands.ordered⟩ <;> grind
  · apply Places.take
    intro _ middle moves _
    apply (places middle).bind
    intro subscript after further inside
    apply (places_symbol _ _).bind
    intro close last closed placed
    apply Places.pure
    intro _
    refine ⟨?_, ⟨⟨?_, stands.nested⟩, ?_, inside.nested⟩,
      ?_, stands.ordered, inside.ordered⟩ <;> grind
  · split
    · apply (places_arguments places).bind
      rintro ⟨found, close⟩ after moves ⟨holds, placed⟩
      apply Places.pure
      intro _
      have inside : (tree.span.through close.span).Holds Argument.span
          Expression.ArrangedArgument found := by
        apply holds.mono <;> grind
      refine ⟨?_, ⟨⟨?_, stands.nested⟩, ?_, inside.inOrder⟩,
        stands.ordered, ?_⟩
      · grind
      · grind
      · exact Expression.argumentsNestIn_iff.2 fun argument member =>
          ⟨(inside.each argument member).1,
            (inside.each argument member).2.nested⟩
      · refine Expression.argumentsOrdered_iff.2 fun argument member => ?_
        obtain ⟨nests, arranged⟩ := holds.each argument member
        refine ⟨?_, arranged.ordered⟩
        grind
    · apply Places.get
      exact places_throw _
  · exact .pure fun _ => stands

theorem places_chain : PlacesTrees (chain inner) := by
  intro cursor
  unfold chain
  apply (places_primary places cursor).bind
  intro first middle moves stands
  apply Places.get
  apply Places.loop
  · exact fun _ _ _ whole => places_chainPart places whole
  · exact fun _ => stands

omit places in
/-- The target of a cast stands behind its operand. -/
theorem places_nextCast
    {tree : Expression} (stands : tree.StandsIn (cursor.spanFrom start)) :
    (nextCast tree).Places cursor fun decision after =>
      decision.value.StandsIn (after.spanFrom start) := by
  unfold nextCast
  apply Places.get
  split
  · apply Places.take
    intro _ middle moves _
    apply places_typeName.bind
    intro target after further placed
    apply Places.pure
    intro _
    refine ⟨?_, ⟨⟨?_, stands.nested⟩, ?_⟩, ?_, stands.ordered⟩ <;> grind
  · exact .pure fun _ => stands

theorem places_casts : PlacesTrees (casts inner) := by
  intro cursor
  unfold casts
  apply (places_chain places cursor).bind
  intro operand middle moves stands
  apply Places.get
  apply Places.loop
  · exact fun _ _ _ whole => places_nextCast whole
  · exact fun _ => stands

end Nested

/-! ## Operators -/

/-- An operand stands behind the prefix operators in front of it. -/
theorem places_operand
    {deeper inner : Reader Expression} (places : PlacesTrees deeper)
    (placesInner : PlacesTrees inner) :
    PlacesTrees (operand deeper inner) := by
  intro cursor
  unfold operand
  apply Places.get
  split
  · apply places_constant.bind
    exact fun _ _ _ nests => .pure fun _ => ⟨nests, trivial, trivial⟩
  · split
    · apply Places.take
      intro token middle moves starts
      apply (places middle).bind
      intro value after further stands
      apply Places.pure
      intro _
      refine ⟨?_, ⟨?_, stands.nested⟩, stands.ordered⟩ <;> grind
    · exact places_casts placesInner cursor

/-- Whatever operators join, the left side stands in front of the operator and
the right side behind it. -/
theorem places_operations
    {unary : Reader Expression} (places : PlacesTrees unary)
    (budget : List Token) (level : Precedence) {start : Position}
    {left : Expression} (stands : left.StandsIn (cursor.spanFrom start)) :
    (operations unary budget level left).Places cursor fun tree after =>
      tree.StandsIn (after.spanFrom start) := by
  induction budget generalizing level start left cursor with
  | nil => exact .pure fun _ => stands
  | cons _ budget ih =>
    unfold operations
    apply Places.get
    split
    · split
      · exact .pure fun _ => stands
      · apply Places.take
        intro _ second moves _
        apply (places second).bind
        intro first third further standsFirst
        apply (ih _ standsFirst).bind
        intro right after joined standsRight
        apply ih
        refine ⟨?_, ⟨⟨?_, stands.nested⟩, ?_, standsRight.nested⟩,
          ?_, stands.ordered, standsRight.ordered⟩ <;> grind
    · exact .pure fun _ => stands

theorem places_binary {unary : Reader Expression} (places : PlacesTrees unary)
    (level : Precedence) : PlacesTrees (binary unary level) := by
  intro cursor
  unfold binary
  apply (places cursor).bind
  intro first middle moves stands
  apply Places.get
  exact places_operations places _ level stands

theorem places_tooDeep : PlacesTrees tooDeep := by
  intro cursor
  apply Places.get
  exact places_throw _

theorem places_unaryAt (levels : Nat) : PlacesTrees (unaryAt levels) := by
  induction levels with
  | zero => exact places_operand places_tooDeep places_tooDeep
  | succ levels ih =>
    exact places_operand ih
      (places_binary ih _)

/-- An expression stands between the first token that was ahead and the last
one that has been passed. -/
theorem places_expression : PlacesTrees expression :=
  places_binary (places_unaryAt _) _

end Reader

/-! ## Spans of statements -/

variable {cursor : Cursor}

/-! ## Statements in one line -/

namespace Reader

theorem places_returnedValue :
    returnedValue.Places cursor fun value after =>
      ∀ tree ∈ value, tree.StandsIn (after.spanFrom cursor.position) := by
  unfold returnedValue
  apply Places.get
  dsimp only
  split
  · exact .pure fun _ => nofun
  · apply (places_expression cursor).bind
    exact fun _ _ _ stands => .pure fun _ => forall_mem_some stands

theorem places_returnStatement :
    returnStatement.Places cursor fun tree after =>
      tree.StandsIn (after.spanFrom cursor.position) := by
  unfold returnStatement
  apply (places_keyword _ _).bind
  intro keyword second taken placed
  apply places_returnedValue.bind
  intro value third returned stands
  apply Places.get
  apply Places.skip (travels_endOfLine _ third)
  intro _ after ended
  apply Places.pure
  intro _
  refine ⟨?_, fun tree member => ?_, fun tree member => ?_⟩ <;> grind

theorem places_initialExpression :
    initialExpression.Places cursor fun value after =>
      ∀ tree ∈ value, tree.StandsIn (after.spanFrom cursor.position) := by
  unfold initialExpression
  apply Places.get
  split
  · apply Places.take
    intro _ middle moves _
    apply (places_expression middle).bind
    intro value after further nests
    apply Places.pure
    grind
  · exact .pure fun _ => nofun

/-- A local declaration stands from its type to the end of its line. -/
theorem places_declareStatement :
    declareStatement.Places cursor fun tree after =>
      tree.StandsIn (after.spanFrom cursor.position) := by
  unfold declareStatement
  apply places_typeName.bind
  intro type second typed placed
  apply (places_identifier _).bind
  intro name third named placedName
  apply places_initialExpression.bind
  intro initial fourth assigned stands
  apply Places.get
  apply Places.skip (travels_endOfLine _ fourth)
  intro _ after ended
  apply Places.pure
  intro _
  refine ⟨?_, ⟨?_, ?_, fun tree member => ?_⟩, fun tree member => ?_⟩ <;>
    grind

section Assignments

variable {start : Position} {target : Expression}
  (stands : target.StandsIn (cursor.spanFrom start))
include stands

/-- The value of an assignment stands behind its target. -/
theorem places_assignment (operator : AssignmentOperator) :
    (assignment start target operator).Places cursor fun tree after =>
      tree.StandsIn (after.spanFrom start) := by
  unfold assignment
  split
  · apply Places.take
    intro _ middle moves _
    apply (places_expression middle).bind
    intro value after further standsValue
    apply Places.get
    split
    · exact places_throw _
    · apply Places.pure
      intro _
      refine ⟨?_, ⟨?_, ?_⟩, ?_, stands.ordered, standsValue.ordered⟩ <;> grind
  · exact places_throw _

theorem places_assignmentOr :
    (assignmentOr start target).Places cursor fun tree after =>
      tree.StandsIn (after.spanFrom start) := by
  unfold assignmentOr
  apply Places.get
  split
  · exact places_assignment stands _
  · apply Places.pure
    intro _
    refine ⟨stands.span, ⟨?_, stands.nested⟩, stands.ordered⟩
    grind

end Assignments

/-- An expression by itself or an assignment stands in its line. -/
theorem places_expressionStatement :
    expressionStatement.Places cursor fun tree after =>
      tree.StandsIn (after.spanFrom cursor.position) := by
  unfold expressionStatement
  apply Places.get
  apply (places_expression cursor).bind
  intro value second moves stands
  apply (places_assignmentOr stands).bind
  intro statement third assigned placed
  apply Places.skip (travels_endOfLine _ third)
  intro _ after ended
  apply Places.pure
  intro _
  refine ⟨?_, placed.arranged⟩
  grind

end Reader

namespace Recovery

open Reader

/-- A condition keeps its place whatever is discarded behind it. -/
theorem places_condition (context : String) :
    (condition context).Places cursor fun found after =>
      ∀ tree ∈ found, tree.StandsIn (after.spanFrom cursor.position) := by
  unfold condition
  apply Places.run_bind (places_expression cursor)
  · intro value middle moves stands
    have kept (after : Cursor) (further : middle.MovesTo after) :
        ∀ tree ∈ some value, tree.StandsIn (after.spanFrom cursor.position) := by
      grind
    apply Places.run_bind (travels_endOfLine _ middle).places
    · exact fun _ after further _ => .pure fun _ => kept after further
    · intro diagnostic after further
      apply places_synchronizeAfter
      exact fun last more => kept last (further.trans more)
  · intro diagnostic middle moves
    exact places_synchronizeAfter diagnostic fun _ _ => nofun

/-! ## Conditionals and loops -/

/-- The branches stand one behind the other in a stretch, and behind them the
last resort. -/
structure ArmsNestIn (arms : Arms) (outer : Span) : Prop where
  branches : outer.Holds Branch.span Statement.ArrangedBranch arms.branches
  otherwise : ∀ body ∈ arms.otherwise,
    outer.Holds Statement.span Statement.Arranged body
  ordered : Statement.OtherwiseOrdered outer.start arms.branches arms.otherwise

theorem ArmsNestIn.later
    {arms : Arms} {middle target : Cursor} {start : Position}
    (nests : ArmsNestIn arms (middle.spanFrom start))
    (moves : middle.MovesTo target) :
    ArmsNestIn arms (target.spanFrom start) where
  branches := nests.branches.mono (le_refl _) moves.lastEnd
  otherwise body member :=
    (nests.otherwise body member).mono (le_refl _) moves.lastEnd
  ordered := nests.ordered

/-- The bodies that a reader reads stand between the first token that was ahead
and the last one that has been passed. -/
def PlacesBodies (body : Block → Recovery (List Statement)) : Prop :=
  ∀ block cursor, (body block).Places cursor fun found after =>
    (after.spanFrom cursor.position).Holds Statement.span Statement.Arranged
      found

/-- An arm that is added stands behind the others. -/
theorem ArmsNestIn.add
    {arms : Arms} {middle target : Cursor} {start first place : Position}
    (nests : ArmsNestIn arms (middle.spanFrom start))
    (moves : middle.MovesTo target) (begins : start ≤ middle.position)
    {found : Option Expression} {inside : List Statement}
    (visible : (target.spanFrom first).NestsIn
      (target.spanFrom middle.position))
    (condition : ∀ tree ∈ found, tree.StandsIn (target.spanFrom first))
    (behind : ∀ tree ∈ found, tree.span.stop ≤ place) (later : first ≤ place)
    (body : (target.spanFrom place).Holds Statement.span Statement.Arranged
      inside) :
    ArmsNestIn (arms.add found inside (target.spanFrom first))
      (target.spanFrom start) := by
  have kept : ArmsNestIn arms (target.spanFrom start) :=
    nests.later moves
  unfold Arms.add
  cases found with
  | none => exact ⟨kept.branches, kept.otherwise, kept.ordered⟩
  | some tree =>
    dsimp only
    split
    · exact kept
    · rename_i absent
      have nothing : arms.otherwise = none := by simpa using absent
      have stands := condition tree rfl
      have wider : (target.spanFrom first).Holds Statement.span
          Statement.Arranged inside := body.mono later (le_refl _)
      refine ⟨nests.branches.concat moves begins visible ⟨?_, ?_⟩,
        kept.otherwise, ?_⟩
      · exact ⟨stands.nestsIn, Statement.bodyNestsIn_of_holds wider,
          body.inOrder⟩
      · exact ⟨stands.ordered,
          Statement.bodyOrdered_of_holds body (behind tree rfl)⟩
      · rw [nothing]
        trivial

section Bodies

variable {body : Block → Recovery (List Statement)}
  (places : PlacesBodies body)
include places

/-- An arm of a conditional stands behind those in front of it. -/
theorem places_nextArm {start : Position} {arms : Arms} (opener : Token)
    (begins : start ≤ cursor.position)
    (nests : ArmsNestIn arms (cursor.spanFrom start)) :
    (nextArm body opener arms).Places cursor fun decision after =>
      ArmsNestIn decision.value (after.spanFrom start) := by
  have kept (after : Cursor) (moves : cursor.MovesTo after) :
      ArmsNestIn arms (after.spanFrom start) :=
    nests.later moves
  unfold nextArm
  apply Places.get
  split
  · rename_i found
    apply (places_advance_of_visible (by rw [found]; decide)).bind
    intro token second moves placed
    apply Places.skip (travels_reportElseIfAfterElse arms token second)
    intro _ third reported
    apply (places_condition _).bind
    intro condition fourth judged nestsCondition
    apply (places _ _).bind
    intro inside after read holds
    apply Places.get
    apply Places.pure
    intro _
    have further := moves.trans (reported.trans (judged.trans read))
    apply nests.add further begins _ _ _ _ holds <;> grind
  · apply Places.take
    intro token second moves _
    apply Places.skip (travels_finishLine _ second)
    intro _ third finished
    apply (places _ _).bind
    intro inside fourth read holds
    have further := moves.trans (finished.trans read)
    split
    · apply (places_report _).bind
      exact fun _ after told _ => .pure fun _ => kept after (further.trans told)
    · apply Places.pure
      intro _
      have wider : (fourth.spanFrom start).Holds Statement.span
          Statement.Arranged inside := by
        apply holds.mono <;> grind
      refine ⟨(kept fourth further).branches, forall_mem_some wider,
        third.position, fun branch member => ?_, ?_,
        Statement.bodyOrdered_of_holds holds (le_refl _)⟩
      · have inFront := (nests.branches.each branch member).1
        grind
      · show start ≤ third.position
        grind
  · apply Places.take
    intro _ second moves _
    apply Places.skip (travels_finishLine _ second)
    exact fun _ after finished =>
      .pure fun _ => kept after (moves.trans finished)
  · apply Places.skip (travels_reportUnterminated _ _)
    exact fun _ after moves => .pure fun _ => kept after moves

/-- A conditional stands from its keyword to the one that ends it. -/
theorem places_conditionalStatement (visible : cursor.kind ≠ .newline) :
    (conditionalStatement body).Places cursor fun found after =>
      ∀ tree ∈ found, tree.StandsIn (after.spanFrom cursor.position) := by
  unfold conditionalStatement
  apply (places_advance_of_visible visible).bind
  intro keyword second moves placed
  apply (places_condition _).bind
  intro condition third judged nestsCondition
  apply (places _ _).bind
  intro inside fourth read holds
  apply Places.get
  apply Places.get
  have further := moves.trans (judged.trans read)
  have blank : ArmsNestIn ⟨[], none, true⟩
      (cursor.spanFrom cursor.position) :=
    ⟨.nil, nofun, trivial⟩
  have first : ArmsNestIn
      ((Arms.mk [] none true).add condition inside
        (fourth.spanFrom keyword.span.start))
      (fourth.spanFrom cursor.position) := by
    apply blank.add further (le_refl _) _ _ _ _ holds <;> grind
  have arms : Places
      (loop (nextArm body keyword) fourth.budget
        ((Arms.mk [] none true).add condition inside
          (fourth.spanFrom keyword.span.start))) fourth
      fun arms after => ArmsNestIn arms (after.spanFrom cursor.position) := by
    apply Places.loop
    · exact fun _ _ on nests =>
        places_nextArm places keyword (further.trans on).position nests
    · exact fun _ => first
  apply arms.bind
  intro arms fifth on nests
  split
  · apply Places.get
    apply Places.pure
    intro _
    apply forall_mem_some
    rw [placed.1]
    refine ⟨?_, ⟨⟨?_, nests.branches.inOrder⟩, ?_⟩, ?_, nests.ordered⟩
    · grind
    · exact Statement.branchesNestIn_iff.2 fun branch member =>
        ⟨(nests.branches.each branch member).1,
          (nests.branches.each branch member).2.nested⟩
    · exact Statement.otherwiseNestsIn_iff.2 fun body member =>
        (nests.otherwise body member).imp fun _ => Statement.Arranged.nested
    · exact Statement.branchesOrdered_iff.2 fun branch member =>
        (nests.branches.each branch member).2.ordered
  · exact .pure fun _ => nofun

/-- A loop stands from its keyword to the one that ends it. -/
theorem places_loopStatement (visible : cursor.kind ≠ .newline) :
    (loopStatement body).Places cursor fun found after =>
      ∀ tree ∈ found, tree.StandsIn (after.spanFrom cursor.position) := by
  unfold loopStatement
  apply (places_advance_of_visible visible).bind
  intro keyword second moves placed
  apply (places_condition _).bind
  intro condition third judged stands
  apply (places _ _).bind
  intro inside fourth read holds
  apply Places.skip (travels_endOfLoop keyword fourth)
  intro _ after ended
  split
  · rename_i tree
    apply Places.get
    apply Places.pure
    intro _
    apply forall_mem_some
    have standsTree := stands tree rfl
    have wider : (after.spanFrom keyword.span.start).Holds Statement.span
        Statement.Arranged inside := by
      apply holds.mono <;> grind
    refine ⟨?_, ⟨?_, Statement.bodyNestsIn_of_holds wider, wider.inOrder⟩,
      standsTree.ordered, Statement.bodyOrdered_of_holds holds ?_⟩ <;> grind
  · exact .pure fun _ => nofun

/-- A statement stands in front of what recovery discards. -/
theorem places_statement :
    (statement body).Places cursor fun found after =>
      ∀ tree ∈ found, tree.StandsIn (after.spanFrom cursor.position) := by
  unfold statement
  apply Reader.Places.get
  split
  · rename_i found
    exact .lift (places_conditionalStatement places (by rw [found]; decide))
  · rename_i found
    exact .lift (places_loopStatement places (by rw [found]; decide))
  · apply Reader.Places.map
    exact places_returnStatement.mono
      fun _ _ _ stands => forall_mem_some stands
  · split
    · apply Reader.Places.map
      exact places_declareStatement.mono
        fun _ _ _ stands => forall_mem_some stands
    · apply Reader.Places.map
      exact places_expressionStatement.mono
        fun _ _ _ stands => forall_mem_some stands

/-! ## Bodies -/

/-- A line of a body stands behind those in front of it. -/
theorem places_bodyLine
    {start : Position} {found : List Statement} (block : Block)
    (begins : start ≤ cursor.position)
    (holds : (cursor.spanFrom start).Holds Statement.span Statement.Arranged
      found) :
    (bodyLine body block found).Places cursor fun decision after =>
      (after.spanFrom start).Holds Statement.span Statement.Arranged
        decision.value := by
  have kept (after : Cursor) (moves : cursor.MovesTo after) :
      (after.spanFrom start).Holds Statement.span Statement.Arranged found :=
    holds.mono (le_refl _) moves.lastEnd
  unfold bodyLine
  apply Places.skip (travels_skipNewlines cursor)
  intro _ middle moves
  apply Places.get
  dsimp only
  split
  · exact .pure fun _ => kept middle moves
  · split
    · split
      · exact .pure fun _ => kept middle moves
      · apply Places.take
        intro _ after taken _
        apply (places_report _).bind
        exact fun _ last told _ =>
          .pure fun _ => kept last (moves.trans (taken.trans told))
    · split
      · apply Places.take
        exact fun _ after taken _ =>
          .pure fun _ => kept after (moves.trans taken)
      · apply Places.run_bind (places_statement places)
        · intro next after read stands
          cases next with
          | none => exact .pure fun _ => kept after (moves.trans read)
          | some tree =>
            have standsTree := stands tree rfl
            apply Places.pure
            intro _
            apply (kept middle moves).concat read
            · exact le_trans begins moves.position
            · exact standsTree.span
            · exact standsTree.arranged
        · intro diagnostic after read
          apply places_synchronizeAfter
          exact fun last more => kept last (moves.trans (read.trans more))

end Bodies

theorem places_bodyWithin (budget : List Token) :
    PlacesBodies (bodyWithin budget) := by
  induction budget with
  | nil => exact fun _ _ => .pure fun _ => .nil
  | cons _ budget ih =>
    intro block cursor
    apply Places.inBlock
    apply Places.get
    apply Places.loop
    · exact fun _ _ moves holds =>
        places_bodyLine ih block moves.position holds
    · exact fun _ => .nil

theorem places_body : PlacesBodies body := by
  intro block cursor
  apply Places.get
  exact places_bodyWithin _ block cursor

end Recovery

end PapyrusScript
