import PapyrusScript.Proofs.Layout.Line

/-!
# Bodies are read as they are laid out

The induction is on the layout of a part of a body.  Each sort of part has its
own reader: a statement, the lines of a body, or the arms of a conditional.
`Statement.Part.IsTaken` says what each of them takes.
-/

namespace PapyrusScript

open Cursor

namespace Reader

variable {row rest behind inside : List Token} {line : Token}
variable {block : Block}

/-! ## Lines of a body -/

theorem isBlockTerminator_of_closedBy
    {kind : Kind} (closes : block.closedBy kind = true) :
    kind.isBlockTerminator = true := by
  cases kind with
  | keyword word => cases block <;> cases word <;> first | rfl | cases closes
  | _ => cases closes

theorem heads_closedBy
    {closer : Token} {word : Keyword} (kind : closer.kind = .keyword word)
    (closes : block.closedBy (.keyword word) = true) :
    Heads (fun kind => block.closedBy kind = true) (closer :: rest) := by
  show block.closedBy closer.kind = true
  rw [kind]
  exact closes

/-- A line with a statement adds it to those in front. -/
theorem takes_bodyLine {tree : Statement} (before : List Statement)
    (starts : ∀ cursor : Cursor, cursor.budget = row ++ rest →
      cursor.AtStatement)
    (read : (statement body).Takes row rest fun found =>
      ∃ value, found = some value ∧ value.bare = tree.bare) :
    (bodyLine body block before).Takes row rest fun decision =>
      ∃ following, decision = .again following ∧
        ∃ value, following = before ++ [value] ∧ value.bare = tree.bare := by
  suffices takes : Heads (· ≠ .newline) (row ++ rest) →
      (bodyLine body block before).Takes row rest fun decision =>
        ∃ following, decision = .again following ∧
          ∃ value, following = before ++ [value] ∧ value.bare = tree.bare by
    intro cursor here
    exact takes (heads_of_budget here (starts cursor here).line) cursor here
  intro line
  unfold bodyLine
  apply Recovery.Takes.after (takes_skipNewlines line)
  intro _ _
  apply Recovery.Takes.get
  intro cursor here
  have start := starts cursor here
  have opened : block.closedBy cursor.kind = false := by
    rw [Bool.eq_false_iff]
    intro closes
    have terminator := isBlockTerminator_of_closedBy closes
    rw [start.terminator] at terminator
    cases terminator
  simp only [start.inside, opened, start.member, start.terminator, start.doc,
    decide_false, Bool.or_self, Bool.false_eq_true, if_false]
  apply Recovery.Takes.bind_nil read.run
  intro _ reached
  obtain ⟨_, rfl, value, rfl, same⟩ := reached
  exact .pure ⟨_, rfl, value, rfl, same⟩

/-- A closer of the block ends the body, and is not taken. -/
theorem takes_bodyLine_of_closedBy (statements : List Statement)
    (closes : Heads (fun kind => block.closedBy kind = true) rest) :
    (bodyLine body block statements).Takes [] rest fun decision =>
      ∃ final, decision = .done final ∧ final = statements := by
  have line : Heads (· ≠ .newline) rest := by
    apply closes.mono
    intro kind closed equal
    subst equal
    cases closed
  unfold bodyLine
  apply Recovery.Takes.bind_nil (takes_skipNewlines line)
  intro _ _
  apply Recovery.Takes.get
  intro cursor here
  have closed := closes.kind here
  simp only [closed, Bool.or_true, Bool.true_or, if_true]
  exact .pure ⟨_, rfl, rfl⟩

/-- A body is taken line by line, and what closes it stays. -/
theorem takes_body {fact : List Statement → Prop}
    (lines : (Recovery.iterate (bodyLine body block) []).Takes row rest
      fact) :
    (body block).Takes row rest fact := by
  intro cursor here
  have ends := lines (cursor.enter block) here
  rw [Recovery.ends_bind, Recovery.ends_get] at ends
  rw [Recovery.ends_body]
  apply ends.mono
  intro value after reached
  obtain ⟨holds, place, quiet⟩ := reached
  refine ⟨holds, place, quiet.reported, ?_⟩
  rw [openBlocks_leave, quiet.openBlocks]
  rfl

end Reader

/-- The claim of the induction: a part of a body is taken from its layout. -/
def Statement.Part.IsTaken (part : Part) (row : List Token) : Prop :=
  match part with
  | .single tree =>
    tree.WellFormed →
    ∀ rest,
      (∀ cursor : Cursor, cursor.budget = row ++ rest → cursor.AtStatement) ∧
      (Reader.statement Reader.body).Takes row rest fun found =>
        ∃ value, found = some value ∧ value.bare = tree.bare
  | .body list =>
    Statement.WellFormedBody list →
    ∀ (block : Block) rest before,
      Heads (fun kind => block.closedBy kind = true) rest →
      (Recovery.iterate (Reader.bodyLine Reader.body block) before).Takes
        row rest fun found =>
          ∃ more, found = before ++ more ∧
            Statement.bareBody more = Statement.bareBody list
  | .arms branches otherwise =>
    Statement.WellFormedBranches branches →
    Statement.WellFormedOtherwise otherwise →
    ∀ rest opener (arms : Reader.Arms),
      arms.complete = true → arms.otherwise = none →
      (Recovery.iterate (Reader.nextArm Reader.body opener) arms).Takes
        row rest fun final =>
          final.complete = true ∧
            Statement.bareOtherwise final.otherwise =
              Statement.bareOtherwise otherwise ∧
            ∃ more, final.branches = arms.branches ++ more ∧
              Statement.bareBranches more = Statement.bareBranches branches

namespace Reader

variable {row rest behind inside : List Token} {line : Token}
variable {list : List Statement}

theorem takes_body_of_isTaken
    {block : Block} (taken : (Statement.Part.body list).IsTaken row)
    (wellFormed : Statement.WellFormedBody list)
    (closes : Heads (fun kind => block.closedBy kind = true) rest) :
    (body block).Takes row rest fun found =>
      Statement.bareBody found = Statement.bareBody list := by
  apply takes_body
  apply (taken wellFormed block rest [] closes).mono
  intro _ reached
  obtain ⟨more, rfl, same⟩ := reached
  exact same

/-- The arms of a conditional behind a body close the body. -/
theorem heads_arms
    {branches : List (Branch Statement)} {otherwise : Option (List Statement)}
    (laid : Statement.LaidOut (.arms branches otherwise) row) :
    Heads (fun kind => Block.conditional.closedBy kind = true)
      (row ++ rest) := by
  cases laid with
  | elseIf kind _ _ _ _ | otherwise kind _ _ _ _ | endIf kind _ =>
    exact heads_closedBy kind rfl

/-! ## Arms of a conditional -/

/-- An arm with a condition is added behind the others. -/
theorem takes_nextArm_elseIf
    {tree : Expression} {word opener : Token} {arms : Arms}
    (kind : word.kind = .keyword .elseIf) (reads : tree.ReadFrom row)
    (ends : line.kind = .newline) (alone : arms.otherwise = none)
    (taken : (body .conditional).Takes inside rest fun found =>
      Statement.bareBody found = Statement.bareBody list) :
    (nextArm body opener arms).Takes (word :: (row ++ [line] ++ inside)) rest
      fun decision =>
        ∃ following, decision = .again following ∧
          following.complete = arms.complete ∧ following.otherwise = none ∧
          ∃ branch, following.branches = arms.branches ++ [branch] ∧
            Statement.bareBranch branch =
              ⟨tree.bare, Statement.bareBody list, .nowhere⟩ := by
  unfold nextArm
  apply Recovery.Takes.get
  intro cursor here
  rw [(kind_of_budget here).trans kind]
  apply Recovery.Takes.advance (by simp [kind])
  have quiet : (reportElseIfAfterElse arms word).Takes []
      (row ++ [line] ++ inside ++ rest) fun _ => True := by
    unfold reportElseIfAfterElse
    rw [alone]
    exact .pure trivial
  apply Recovery.Takes.after quiet
  intro _ _
  apply Recovery.Takes.bind (takes_condition reads ends _)
  intro _ reached
  obtain ⟨value, rfl, same⟩ := reached
  apply Recovery.Takes.bind_nil taken
  intro found sameBody
  apply Recovery.Takes.get
  intro after place
  apply Recovery.Takes.pure
  unfold Arms.add
  simp only [alone, Option.isSome_none, Bool.false_eq_true, if_false]
  refine ⟨_, rfl, rfl, rfl, _, rfl, ?_⟩
  simp only [Statement.bareBranch, same, sameBody]

/-- An arm without a condition becomes the last resort. -/
theorem takes_nextArm_otherwise {word opener : Token} {arms : Arms}
    (kind : word.kind = .keyword .otherwise) (ends : line.kind = .newline)
    (alone : arms.otherwise = none)
    (taken : (body .conditional).Takes inside rest fun found =>
      Statement.bareBody found = Statement.bareBody list) :
    (nextArm body opener arms).Takes (word :: line :: inside) rest
      fun decision =>
        ∃ following, decision = .again following ∧
          ∃ found, following = { arms with otherwise := some found } ∧
            Statement.bareBody found = Statement.bareBody list := by
  unfold nextArm
  apply Recovery.Takes.get
  intro cursor here
  rw [(kind_of_budget here).trans kind]
  apply Recovery.Takes.advance (by simp [kind])
  apply Recovery.Takes.bind (takes_finishLine ends _)
  intro _ _
  apply Recovery.Takes.bind_nil taken
  intro found same
  rw [alone]
  exact .pure ⟨_, rfl, found, rfl, same⟩

/-- The end of a conditional, and whatever ends its line. -/
theorem takes_nextArm_endIf
    {closer opener : Token} {ending : List Token} (arms : Arms)
    (closes : closer.kind = .keyword .endIf)
    (ends : ∀ context, (finishLine context).Takes ending rest fun _ => True) :
    (nextArm body opener arms).Takes (closer :: ending) rest fun decision =>
      ∃ final, decision = .done final ∧ final = arms := by
  unfold nextArm
  apply Recovery.Takes.get
  intro cursor here
  rw [(kind_of_budget here).trans closes]
  apply Recovery.Takes.advance (by simp [closes])
  apply Recovery.Takes.bind_nil (ends _)
  intro _ _
  exact .pure ⟨arms, rfl, rfl⟩

end Reader

open Cursor

namespace Reader

variable {row rest behind inside : List Token} {line : Token}

/-! ## Loops and conditionals -/

/-- A loop is taken up to the end of its last line. -/
theorem takes_loopStatement
    {tree : Expression} {list : List Statement} {span : Span}
    {word closer last : Token} (kind : word.kind = .keyword .whileLoop)
    (reads : tree.ReadFrom row) (ends : line.kind = .newline)
    (taken : (body .loop).Takes inside (closer :: last :: rest) fun found =>
      Statement.bareBody found = Statement.bareBody list)
    (closes : closer.kind = .keyword .endWhile)
    (endsToo : last.kind = .newline) :
    (loopStatement body).Takes
      (word :: (row ++ [line] ++ (inside ++ [closer, last]))) rest
      fun found =>
        ∃ value, found = some value ∧
          value.bare = (Statement.loop tree list span).bare := by
  have closing (opener : Token) : (endOfLoop opener).Takes [closer, last] rest
      fun _ => True := by
    unfold endOfLoop
    apply Recovery.Takes.get
    intro cursor here
    rw [if_pos ((kind_of_budget here).trans closes)]
    apply Recovery.Takes.advance (by simp [closes])
    exact takes_finishLine endsToo _
  unfold loopStatement
  apply Recovery.Takes.advance (by simp [kind])
  apply Recovery.Takes.bind (takes_condition reads ends _)
  intro _ reached
  obtain ⟨value, rfl, same⟩ := reached
  apply Recovery.Takes.bind taken
  intro found sameBody
  apply Recovery.Takes.bind_nil (closing word)
  intro _ _
  apply Recovery.Takes.get
  intro cursor here
  apply Recovery.Takes.pure
  refine ⟨_, rfl, ?_⟩
  simp only [Statement.bare, same, sameBody]

/-- A conditional is taken with its first arm and all behind it. -/
theorem takes_conditionalStatement {tree : Expression} {list : List Statement}
    {more : List (Branch Statement)} {otherwise : Option (List Statement)}
    {branchSpan span : Span} {word : Token}
    (kind : word.kind = .keyword .ifThen) (reads : tree.ReadFrom row)
    (ends : line.kind = .newline)
    (taken : (body .conditional).Takes inside (behind ++ rest) fun found =>
      Statement.bareBody found = Statement.bareBody list)
    (arms : ∀ opener (arms : Arms), arms.complete = true →
      arms.otherwise = none →
      (Recovery.iterate (nextArm body opener) arms).Takes behind rest
        fun final =>
          final.complete = true ∧
            Statement.bareOtherwise final.otherwise =
              Statement.bareOtherwise otherwise ∧
            ∃ found, final.branches = arms.branches ++ found ∧
              Statement.bareBranches found = Statement.bareBranches more) :
    (conditionalStatement body).Takes
      (word :: (row ++ [line] ++ (inside ++ behind))) rest fun found =>
        ∃ value, found = some value ∧
          value.bare =
            (Statement.conditional (⟨tree, list, branchSpan⟩ :: more)
              otherwise span).bare := by
  unfold conditionalStatement
  apply Recovery.Takes.advance (by simp [kind])
  apply Recovery.Takes.bind (takes_condition reads ends _)
  intro _ reached
  obtain ⟨value, rfl, same⟩ := reached
  apply Recovery.Takes.bind taken
  intro found sameBody
  apply Recovery.Takes.get
  intro cursor here
  apply Recovery.Takes.iterate_nil (arms word _ rfl rfl)
  intro final reached
  obtain ⟨complete, sameOtherwise, rest, branches, sameBranches⟩ := reached
  rw [if_pos complete]
  apply Recovery.Takes.get
  intro after place
  apply Recovery.Takes.pure
  refine ⟨_, rfl, ?_⟩
  rw [branches]
  simp only [Statement.bare, Statement.bareBranches, Statement.bareBranch,
    Arms.add, List.nil_append, List.cons_append, Option.isSome_none,
    Bool.false_eq_true, if_false, same, sameBody, sameOtherwise, sameBranches]

end Reader

/-! ## One sort of part after the other -/

namespace Statement

open Reader Recovery

variable {row rest behind inside before : List Token} {line : Token}
variable {span : Span}

/-- An expression by itself is taken with the end of its line. -/
theorem isTaken_expression {value : Expression} (reads : value.ReadFrom row)
    (ends : line.kind = .newline) :
    (Part.single (.expression value span)).IsTaken (row ++ [line]) := by
  intro _ rest
  have follows : line.kind.endsExpression = true := by
    rw [ends]
    rfl
  have place (cursor : Cursor) (here : cursor.budget = row ++ [line] ++ rest) :
      cursor.budget = row ++ line :: rest := by
    simpa using here
  constructor
  · intro cursor here
    exact .of_startsExpression (reads.kind (place cursor here))
      (reads.atMemberStart (place cursor here) follows)
  · apply takes_statement_of_expression
    · intro cursor here
      exact ⟨reads.kind (place cursor here),
        reads.atVariableStart (place cursor here) follows⟩
    · have taken := @takes_expressionStatement row rest line value []
        (.expression value span) reads
        (endsExpression_of_newline ends) ends
      apply taken
      intro found start same
      apply (takes_assignmentOr_of_newline start ends).mono
      intro statement shape
      rw [shape, same]
      rfl

/-- An assignment is taken with the end of its line. -/
theorem isTaken_assign
    {target value : Expression} {operator : AssignmentOperator} {sign : Token}
    (first : target.ReadFrom before)
    (assigns : sign.kind.assignmentOperator? = some operator)
    (second : value.ReadFrom behind) (ends : line.kind = .newline) :
    (Part.single (.assign target operator value span)).IsTaken
      (before ++ sign :: (behind ++ [line])) := by
  intro assignable rest
  have follows : sign.kind.endsExpression = true := by
    simp [Kind.endsExpression, assigns]
  have place (cursor : Cursor)
      (here : cursor.budget = before ++ sign :: (behind ++ [line]) ++ rest) :
      cursor.budget = before ++ sign :: (behind ++ line :: rest) := by
    simpa using here
  constructor
  · intro cursor here
    exact .of_startsExpression (first.kind (place cursor here))
      (first.atMemberStart (place cursor here) follows)
  · apply takes_statement_of_expression
    · intro cursor here
      exact ⟨first.kind (place cursor here),
        first.atVariableStart (place cursor here) follows⟩
    · have taken := @takes_expressionStatement before rest line target
        (sign :: behind) (.assign target operator value span) first follows
        ends
      apply taken
      intro found start same
      have assignableToo : found.isAssignable = true := by
        rw [← Expression.isAssignable_bare, same, Expression.isAssignable_bare]
        exact assignable
      apply (takes_assignmentOr start assignableToo assigns second
        ends).mono
      intro statement shape
      rw [shape, same]
      rfl

/-- A local declaration is taken with the end of its line. -/
theorem isTaken_declare
    {type : TypeName} {initial : Option Expression} {nameSpan span : Span}
    {token : Token} (spelled : type.Spelled row)
    (named : token.kind = .identifier)
    (starts : Expression.InitialFrom initial behind)
    (ends : line.kind = .newline) :
    (Part.single (.declare type ⟨token.text, nameSpan⟩ initial span)).IsTaken
      (row ++ token :: (behind ++ [line])) := by
  intro _ rest
  have looks (cursor : Cursor)
      (here : cursor.budget = row ++ token :: (behind ++ [line]) ++ rest) :
      cursor.atTypeStart = true ∧ cursor.kindAfterType = .identifier := by
    have place : cursor.budget = row ++ token :: (behind ++ [line] ++ rest) := by
      simpa using here
    have after := kindAfterType_of_spelled spelled
      (by simp [named] : token.kind ≠ .symbol .openBracket) place
    rwa [named] at after
  constructor
  · intro cursor here
    obtain ⟨type, name⟩ := looks cursor here
    exact .of_declaration type name
  · exact takes_statement_of_declaration looks
      (takes_declareStatement spelled named starts ends)

theorem isTaken_result {word : Token} (kind : word.kind = .keyword .returnValue)
    (ends : line.kind = .newline) :
    (Part.single (.result none span)).IsTaken [word, line] := by
  intro _ rest
  refine ⟨atStatement_of_word kind rfl, ?_⟩
  apply takes_statement_of_return kind
  have read := @takes_returnedValue_of_newline rest line ends
  have taken := @takes_returnStatement [] rest line word none span
    kind ends
  apply taken
  apply read.mono
  intro _ equal
  subst equal
  rfl

theorem isTaken_resultOf {value : Expression} {word : Token}
    (kind : word.kind = .keyword .returnValue) (reads : value.ReadFrom row)
    (ends : line.kind = .newline) :
    (Part.single (.result (some value) span)).IsTaken
      (word :: (row ++ [line])) := by
  intro _ rest
  refine ⟨atStatement_of_word kind rfl, ?_⟩
  apply takes_statement_of_return kind
  apply takes_returnStatement kind ends
  exact takes_returnedValue reads
    (endsExpression_of_newline ends)

section Blocks

variable {condition : Expression} {body : List Statement}
  {more : List (Branch Statement)} {otherwise : Option (List Statement)}
  {branchSpan span : Span} {word closer last : Token}

/-- A loop is taken if its body is. -/
theorem isTaken_loop
    (kind : word.kind = .keyword .whileLoop) (reads : condition.ReadFrom row)
    (ends : line.kind = .newline) (taken : (Part.body body).IsTaken inside)
    (closes : closer.kind = .keyword .endWhile)
    (endsToo : last.kind = .newline) :
    (Part.single (.loop condition body span)).IsTaken
      (word :: (row ++ [line] ++ (inside ++ [closer, last]))) := by
  intro wellFormed rest
  refine ⟨atStatement_of_word kind rfl, ?_⟩
  unfold Reader.statement
  apply Reader.Takes.get
  intro cursor here
  rw [(kind_of_budget here).trans kind]
  apply Reader.Takes.lift
  apply takes_loopStatement kind reads ends _ closes endsToo
  apply takes_body_of_isTaken taken wellFormed
  exact heads_closedBy closes rfl

/-- A conditional is taken if its first body and the other arms are. -/
theorem isTaken_conditional
    (kind : word.kind = .keyword .ifThen) (reads : condition.ReadFrom row)
    (ends : line.kind = .newline) (taken : (Part.body body).IsTaken inside)
    (arms : (Part.arms more otherwise).IsTaken behind)
    (closes : ∀ rest, Heads
      (fun kind => Block.conditional.closedBy kind = true) (behind ++ rest)) :
    (Part.single
      (.conditional (⟨condition, body, branchSpan⟩ :: more) otherwise
        span)).IsTaken (word :: (row ++ [line] ++ (inside ++ behind))) := by
  intro reached rest
  obtain ⟨_, ⟨own, others⟩, last⟩ := reached
  refine ⟨atStatement_of_word kind rfl, ?_⟩
  unfold Reader.statement
  apply Reader.Takes.get
  intro cursor here
  rw [(kind_of_budget here).trans kind]
  apply Reader.Takes.lift
  apply takes_conditionalStatement kind reads ends _
    (arms others last rest)
  exact takes_body_of_isTaken taken own (closes rest)

/-- A line that holds a statement, and the lines behind it. -/
theorem isTaken_cons
    {statement : Statement} (taken : (Part.single statement).IsTaken row)
    (others : (Part.body body).IsTaken behind) :
    (Part.body (statement :: body)).IsTaken (row ++ behind) := by
  intro reached block rest before closes
  obtain ⟨own, wellFormed⟩ := reached
  obtain ⟨starts, read⟩ := taken own (behind ++ rest)
  apply Recovery.Takes.again
    (proceeds_bodyLine travels_body block)
    (takes_bodyLine before starts read)
  intro _ reached
  obtain ⟨value, rfl, same⟩ := reached
  apply (others wellFormed block rest _ closes).mono
  intro _ reached
  obtain ⟨found, rfl, sameToo⟩ := reached
  refine ⟨value :: found, List.append_assoc _ _ _, ?_⟩
  simp only [bareBody, same, sameToo]

theorem isTaken_nil : (Part.body []).IsTaken [] := by
  intro _ block rest before closes
  apply Recovery.Takes.done
    (proceeds_bodyLine travels_body block)
  apply (takes_bodyLine_of_closedBy before closes).mono
  intro _ reached
  obtain ⟨_, rfl, rfl⟩ := reached
  exact ⟨_, rfl, [], (List.append_nil _).symm, rfl⟩

/-- Arms that start with a tested one are taken if its body is. -/
theorem isTaken_elseIf
    (kind : word.kind = .keyword .elseIf) (reads : condition.ReadFrom row)
    (ends : line.kind = .newline) (taken : (Part.body body).IsTaken inside)
    (arms : (Part.arms more otherwise).IsTaken behind)
    (closes : ∀ rest, Heads
      (fun kind => Block.conditional.closedBy kind = true) (behind ++ rest)) :
    (Part.arms (⟨condition, body, span⟩ :: more) otherwise).IsTaken
      (word :: (row ++ [line] ++ (inside ++ behind))) := by
  intro reached last rest opener found complete alone
  obtain ⟨own, others⟩ := reached
  rw [← List.append_assoc, ← List.cons_append]
  apply Recovery.Takes.again
    (proceeds_nextArm travels_body opener)
    (takes_nextArm_elseIf kind reads ends alone
      (takes_body_of_isTaken taken own (closes rest)))
  intro following reached
  obtain ⟨unbroken, free, branch, branches, same⟩ := reached
  apply (arms others last rest opener following
    (unbroken.trans complete) free).mono
  intro final reached
  obtain ⟨completeToo, sameOtherwise, more, split, sameMore⟩ := reached
  refine ⟨completeToo, sameOtherwise, branch :: more, ?_, ?_⟩
  · rw [split, branches, List.append_assoc]
    rfl
  · simp only [bareBranches, bareBranch, same, sameMore]

/-- The last resort is taken with the end of the conditional. -/
theorem isTaken_otherwise
    (kind : word.kind = .keyword .otherwise) (ends : line.kind = .newline)
    (taken : (Part.body body).IsTaken inside)
    (closes : closer.kind = .keyword .endIf) (endsToo : last.kind = .newline) :
    (Part.arms [] (some body)).IsTaken
      (word :: line :: (inside ++ [closer, last])) := by
  intro _ own rest opener found complete alone
  have proceeds := proceeds_nextArm travels_body opener
  apply Recovery.Takes.again proceeds
    (takes_nextArm_otherwise kind ends alone
      (takes_body_of_isTaken taken own
        (heads_closedBy closes
          (rfl : Block.conditional.closedBy (.keyword .endIf) = true))))
  intro _ reached
  obtain ⟨inside, rfl, same⟩ := reached
  apply Recovery.Takes.done proceeds
  apply (takes_nextArm_endIf _ closes
    (takes_finishLine endsToo)).mono
  intro _ reached
  obtain ⟨final, rfl, rfl⟩ := reached
  refine ⟨_, rfl, complete, ?_, [], (List.append_nil _).symm, rfl⟩
  simp only [bareOtherwise, same]

theorem isTaken_endIf
    (closes : closer.kind = .keyword .endIf) (ends : last.kind = .newline) :
    (Part.arms [] none).IsTaken [closer, last] := by
  intro _ _ rest opener found complete alone
  apply Recovery.Takes.done
    (proceeds_nextArm travels_body opener)
  apply (takes_nextArm_endIf found closes
    (takes_finishLine ends)).mono
  intro _ reached
  obtain ⟨final, rfl, rfl⟩ := reached
  refine ⟨_, rfl, complete, ?_, [], (List.append_nil _).symm, rfl⟩
  rw [alone]

end Blocks

/-! ## The induction -/

/-- A layout is taken, by induction on the layout. -/
theorem isTaken_of_laidOut
    {part : Part} (laid : LaidOut part row) : part.IsTaken row := by
  induction laid with
  | expression reads ends => exact isTaken_expression reads ends
  | assign first assigns second ends =>
    exact isTaken_assign first assigns second ends
  | result kind ends => exact isTaken_result kind ends
  | resultOf kind reads ends => exact isTaken_resultOf kind reads ends
  | declare spelled named starts ends =>
    exact isTaken_declare spelled named starts ends
  | loop kind reads ends _ closes endsToo taken =>
    exact isTaken_loop kind reads ends taken closes endsToo
  | conditional kind reads ends _ more taken arms =>
    exact isTaken_conditional kind reads ends taken arms
      fun _ => heads_arms more
  | nil => exact isTaken_nil
  | cons _ _ taken others => exact isTaken_cons taken others
  | elseIf kind reads ends _ more taken arms =>
    exact isTaken_elseIf kind reads ends taken arms
      fun _ => heads_arms more
  | otherwise kind ends _ closes endsToo taken =>
    exact isTaken_otherwise kind ends taken closes endsToo
  | endIf closes ends => exact isTaken_endIf closes ends

end Statement

end PapyrusScript
