import PapyrusScript.Proofs.Alongside.Leaving

/-!
# Bodies along a row

A statement of one line ends with its line.  A conditional or a loop goes on
through its terminator, so it may use up the row; but then it is either closed
behind the row or reported, which shows.  A body itself may stop exactly at
the end of the row without a trace.
-/

namespace PapyrusScript

variable {fork : Fork} {cursor twin : Cursor}

/-! ## Statements of one line -/

namespace Reader

theorem steady_returnedValue : returnedValue.Steady fork fun _ => True := by
  intro cursor twin amid
  apply Agrees.look (by simp only [amid.kind])
  dsimp only
  split
  · exact .pure ⟨trivial, amid⟩
  · apply (steady_expression cursor twin amid).bind
    intro value after twinAfter inside
    exact .pure ⟨trivial, inside.2⟩

theorem agrees_returnStatement (amid : fork.Amid cursor twin) :
    returnStatement.Agrees fork cursor twin fun _ => fork.Along := by
  apply (steady_expect _ _ rfl cursor twin amid).bind
  intro keyword cursor twin inside
  apply (steady_returnedValue cursor twin inside.2).bind
  intro value cursor twin inside
  apply Agrees.look (by simp only [inside.2.spanFrom])
  apply (agrees_endOfLine inside.2 _).bind
  intro _ after twinAfter along
  exact .pure along

theorem steady_initialExpression :
    initialExpression.Steady fork fun _ => True := by
  intro cursor twin amid
  apply Agrees.look (by simp only [amid.kind])
  split
  · rename_i assign
    have next := amid.next (by rw [assign]; rfl)
    apply Agrees.take amid
    apply (steady_expression _ _ next).bind
    intro value after twinAfter inside
    exact .pure ⟨trivial, inside.2⟩
  · exact .pure ⟨trivial, amid⟩

theorem agrees_declareStatement (amid : fork.Amid cursor twin) :
    declareStatement.Agrees fork cursor twin fun _ => fork.Along := by
  apply (steady_typeName cursor twin amid).bind
  intro type cursor twin inside
  apply (steady_identifier _ cursor twin inside.2).bind
  intro name cursor twin inside
  apply (steady_initialExpression cursor twin inside.2).bind
  intro initial cursor twin inside
  apply Agrees.look (by simp only [inside.2.spanFrom])
  apply (agrees_endOfLine inside.2 _).bind
  intro _ after twinAfter along
  exact .pure along

theorem endsLine_of_assignmentOperator?
    {kind : Kind} {operator : AssignmentOperator}
    (found : kind.assignmentOperator? = some operator) :
    kind.endsLine = false := by
  unfold Kind.assignmentOperator? at found
  split at found <;> first | rfl | cases found

theorem explains_of_assignmentOperator?
    {token : Token} (chained : token.kind.assignmentOperator?.isSome = true) :
    token.Explains (.chainedAssignment token.kind) := by
  rintro kind ⟨⟩
  refine ⟨rfl, ?_⟩
  cases found : token.kind with
  | invalid error =>
    rw [found] at chained
    cases chained
  | _ => rfl

/-- An expression, or an assignment to it, is read inside of the row. -/
theorem steady_assignmentOr
    (start : Position) {target : Expression} (begins : Begins fork target) :
    (assignmentOr start target).Steady fork fun _ => True := by
  intro cursor twin amid
  apply Agrees.look (by simp only [amid.kind])
  split
  · rename_i operator found
    unfold assignment
    split
    · have next := amid.next (endsLine_of_assignmentOperator? found)
      apply Agrees.take amid
      apply (steady_expression _ _ next).bind
      intro value cursor twin inside
      have amid := inside.2
      apply Agrees.look (by
        simp only [amid.kind, amid.position, amid.spanFrom])
      split
      · rename_i chained
        exact .throw ⟨amid.points rfl
          (explains_of_assignmentOperator? chained), amid⟩
      · exact .pure ⟨trivial, amid⟩
    · exact .throw ⟨Fork.Starts.points begins rfl, amid⟩
  · exact .pure ⟨trivial, amid⟩

theorem agrees_expressionStatement (amid : fork.Amid cursor twin) :
    expressionStatement.Agrees fork cursor twin fun _ => fork.Along := by
  apply Agrees.look (by simp only [amid.position])
  apply (steady_expression cursor twin amid).bind
  intro value cursor twin inside
  apply (steady_assignmentOr _ inside.1 cursor twin inside.2).bind
  intro statement cursor twin inside
  apply (agrees_endOfLine inside.2 _).bind
  intro _ after twinAfter along
  exact .pure along

end Reader

/-! ## Reports at blocks -/

namespace Recovery

open Reader

theorem agrees_complain {position : Position} {cause : Cause}
    (points : fork.Points ⟨position, cause⟩)
    (along : fork.Along cursor twin) :
    (complain position cause).Agrees cursor twin
      fun _ => fork.Along :=
  .report (along.report points)

/-- A block that is left open is blamed on the token that opened it. -/
theorem points_unterminated {block : Block} {opener token : Token}
    (opens : fork.Knows (.keyword block.opener) opener)
    (here : fork.known token ∨ token ∈ fork.rest) :
    fork.Points ⟨opener.span.start,
      .unterminated block opener.span.start.line token.kind⟩ where
  explained := ⟨opener, opens.1, rfl, opens.2, rfl⟩
  met := by
    rintro kind ⟨⟩
    exact ⟨token, here, rfl⟩

theorem agrees_reportUnterminated (block : Block) {opener : Token}
    (opens : fork.Knows (.keyword block.opener) opener)
    (amid : fork.Amid cursor twin) :
    (reportUnterminated block opener).Agrees cursor twin
      fun _ => fork.Along := by
  apply Agrees.look (by simp only [amid.kind])
  exact agrees_complain (points_unterminated opens (.inl amid.known))
    amid.along

theorem stirs_endOfLoop (opener : Token) (cursor : Cursor) :
    (endOfLoop opener).Stirs cursor := by
  apply Stirs.get
  split
  · rename_i found
    apply (advances_of_kind found rfl).stirs.bind
    exact fun _ after => (travels_finishLine _ after).grows
  · exact stirs_reportUnterminated _ _

/-- The end of a loop is passed, or it is missed in the report. -/
theorem agreesUnless_endOfLoop
    {opener : Token} (opens : fork.Knows (.keyword .whileLoop) opener)
    (along : fork.Along cursor twin) :
    (endOfLoop opener).AgreesUnless (fun _ => fork.Marked) cursor twin
      fun _ => fork.Along := by
  rcases along.cases_left with amid | left
  · right
    apply Agrees.look (by simp only [amid.kind])
    split
    · rename_i found
      exact .take amid (agrees_finishLine (amid.next (by rw [found]; rfl)) _)
    · exact agrees_reportUnterminated _ opens amid
  · exact .inl ((stirs_endOfLoop opener cursor).marked left)

theorem endsLine_of_isBlockTerminator
    {kind : Kind} (terminator : kind.isBlockTerminator = true) :
    kind.endsLine = false := by
  cases kind <;> simp [Kind.isBlockTerminator, Kind.endsLine] at *

theorem explains_stray
    {token : Token} (terminator : token.kind.isBlockTerminator = true) :
    token.Explains (.strayTerminator token.kind) := by
  rintro kind ⟨⟩
  refine ⟨rfl, ?_⟩
  cases found : token.kind with
  | invalid error =>
    rw [found] at terminator
    cases terminator
  | _ => rfl

theorem grows_reportAndSynchronize
    {α : Type} (diagnostic : Diagnostic) (value : α) :
    Grows (do
      report diagnostic
      synchronize
      return value) cursor := by
  have told : (report diagnostic).Grows cursor :=
    Cursor.grows_report cursor diagnostic
  refine told.bind fun _ after => ?_
  exact (travels_synchronize after).grows.bind fun _ _ => .pure value

section Body

variable {body : Block → Recovery (List Statement)}
  (agrees : ∀ block cursor twin, fork.Along cursor twin →
    (body block).AgreesUnless (fun _ => fork.Left) cursor twin
      fun _ => fork.Along)
  (travels : ∀ block cursor, (body block).Travels cursor)

/-! ## Conditionals and loops -/

include travels in
/-- An arm has a keyword of its own, and its absence is reported. -/
theorem stirs_nextArm (opener : Token) (arms : Reader.Arms) (cursor : Cursor) :
    (nextArm body opener arms).Stirs cursor := by
  apply Stirs.get
  split
  · rename_i found
    refine ((advances_of_kind found rfl).bind fun _ after => ?_).stirs
    refine (travels_reportElseIfAfterElse _ _ after).bind fun _ after => ?_
    refine (travels_condition _ after).bind fun _ after => ?_
    exact (travels _ after).bind fun _ _ => .get (.pure _)
  · rename_i found
    refine ((advances_of_kind found rfl).bind fun _ after => ?_).stirs
    refine (travels_finishLine _ after).bind fun _ after => ?_
    refine (travels _ after).bind fun _ after => ?_
    split
    · exact (travels_complain rfl _).bind fun _ _ => .pure _
    · exact .pure _
  · rename_i found
    refine ((advances_of_kind found rfl).bind fun _ after => ?_).stirs
    exact (travels_finishLine _ after).bind fun _ _ => .pure _
  · exact (stirs_reportUnterminated _ _).bind fun _ _ => .pure _

include travels in
theorem keeps_nextArm (opener : Token) (arms : Reader.Arms) (cursor : Cursor)
    (left : fork.Left cursor) :
    (nextArm body opener arms).Ends cursor
      (Step.Settles (fun _ => fork.Left) fun _ => fork.Marked) := by
  apply ((stirs_nextArm travels opener arms cursor).marked left).mono
  intro decision after marked
  cases decision with
  | again => exact marked.toLeft
  | done => exact marked

include agrees travels in
/-- An arm is read the same, or the first run has left the row. -/
theorem agreesUnless_nextArm
    {opener : Token} (opens : fork.Knows (.keyword .ifThen) opener)
    (arms : Reader.Arms) (along : fork.Along cursor twin) :
    (nextArm body opener arms).AgreesUnless
      (Step.Settles (fun _ => fork.Left) fun _ => fork.Marked) cursor twin
      (Step.Parts (fun _ => fork.Along) fun _ => fork.Along) := by
  rcases along.cases_left with amid | left
  · apply AgreesUnless.look (by simp only [amid.kind])
    split
    · rename_i found
      have next := amid.next (by rw [found]; rfl)
      have told : (reportElseIfAfterElse arms cursor.current).Agrees
          cursor.next twin.next fun _ => fork.Amid := by
        unfold reportElseIfAfterElse
        split
        · exact .report (next.report (amid.starts.points rfl))
        · exact .pure next
      apply AgreesUnless.take amid
      apply told.bindUnless
      intro _ cursor twin amid
      apply (agrees_condition amid _).bindUnless
      intro found cursor twin along
      apply (agrees _ cursor twin along).bind
      · intro inside after twinAfter along
        exact .look (by simp only [along.spanFrom]) (.inr (.pure along))
      · exact fun _ _ left => left
    · rename_i found
      have next := amid.next (by rw [found]; rfl)
      apply AgreesUnless.take amid
      apply (agrees_finishLine next _).bindUnless
      intro _ cursor twin along
      apply (agrees _ cursor twin along).bind
      · intro inside after twinAfter along
        right
        split
        · apply (agrees_complain (amid.starts.points rfl) along).bind
          exact fun _ _ _ along => .pure along
        · exact .pure along
      · intro inside after left
        split
        · exact left.grows (Cursor.grows_report _ _)
        · exact left
    · rename_i found
      have next := amid.next (by rw [found]; rfl)
      right
      apply Agrees.take amid
      exact (agrees_finishLine next _).bind fun _ _ _ along => .pure along
    · right
      apply (agrees_reportUnterminated _ opens amid).bind
      exact fun _ _ _ along => .pure along
  · exact .inl (keeps_nextArm travels opener arms cursor left)

include agrees travels in
/-- A conditional that goes on behind the row is closed there or reported. -/
theorem agreesUnless_conditionalStatement
    (amid : fork.Amid cursor twin) (found : cursor.kind = .keyword .ifThen) :
    (conditionalStatement body).AgreesUnless (fun _ => fork.Marked)
      cursor twin fun _ => fork.Along := by
  have next := amid.next (by rw [found]; rfl)
  have opens : fork.Knows _ cursor.current := ⟨amid.known, found⟩
  have proceeds := proceeds_nextArm travels cursor.current
  have keeps (arms : Reader.Arms) (after : Cursor) (left : fork.Left after) :=
    keeps_nextArm travels cursor.current arms after left
  apply AgreesUnless.take amid
  apply (agrees_condition next _).bindUnless
  intro condition cursor twin along
  apply (agrees _ cursor twin along).bind
  · intro inside cursor twin along
    apply AgreesUnless.look (by simp only [along.spanFrom])
    apply AgreesUnless.loop_bind (AgreesUnless.loop (fun _ => fork.Along)
      fork.Left proceeds (fun arms _ _ along =>
        agreesUnless_nextArm agrees travels opens arms along) keeps along)
    · intro arms cursor twin along
      right
      split
      · exact .look (by simp only [along.spanFrom]) (.pure along)
      · exact .pure along
    · intro arms after marked
      split <;> exact marked
  · intro inside after left
    rw [ends_bind, ends_get, ends_bind, ends_get, ends_bind]
    apply (ends_loop_of_keeps _ proceeds keeps _ left).mono
    intro arms last marked
    split <;> exact marked

include agrees in
/-- A loop that goes on behind the row is closed there or reported. -/
theorem agreesUnless_loopStatement
    (amid : fork.Amid cursor twin) (found : cursor.kind = .keyword .whileLoop) :
    (loopStatement body).AgreesUnless (fun _ => fork.Marked)
      cursor twin fun _ => fork.Along := by
  have next := amid.next (by rw [found]; rfl)
  have opens : fork.Knows _ cursor.current := ⟨amid.known, found⟩
  apply AgreesUnless.take amid
  apply (agrees_condition next _).bindUnless
  intro condition cursor twin along
  apply (agrees _ cursor twin along).bind
  · intro inside cursor twin along
    apply (agreesUnless_endOfLoop opens along).bind
    · intro _ cursor twin along
      right
      split
      · exact .look (by simp only [along.spanFrom]) (.pure along)
      · exact .pure along
    · intro _ after marked
      split <;> exact marked
  · intro inside after left
    rw [ends_bind]
    apply ((stirs_endOfLoop _ after).marked left).mono
    intro _ last marked
    split <;> exact marked

include agrees travels in
/-- A statement fails in the row, and a block that uses up the row shows. -/
theorem agreesUnless_statement (amid : fork.Amid cursor twin) :
    (statement body).AgreesUnless fork fork.Marked cursor twin
      fun _ => fork.Along := by
  apply Reader.AgreesUnless.look (by
    simp only [amid.kind, amid.atVariableStart])
  split
  · rename_i found
    exact .lift (agreesUnless_conditionalStatement agrees travels amid found)
  · rename_i found
    exact .lift (agreesUnless_loopStatement agrees amid found)
  · exact .inr (.map (agrees_returnStatement amid))
  · split
    · exact .inr (.map (agrees_declareStatement amid))
    · exact .inr (.map (agrees_expressionStatement amid))

/-! ## Bodies -/

include travels in
theorem keeps_bodyLine
    (block : Block) (statements : List Statement) (cursor : Cursor)
    (left : fork.Left cursor) :
    (bodyLine body block statements).Ends cursor
      (Step.Settles (fun _ => fork.Left) fun _ => fork.Left) := by
  have proceeds := proceeds_bodyLine travels block statements cursor
  apply (proceeds.travels.grows.left left).mono
  intro decision after left
  cases decision <;> exact left

include agrees travels in
/-- A line of a body is read the same, or the first run has left the row. -/
theorem agreesUnless_bodyLine (block : Block) (statements : List Statement)
    (along : fork.Along cursor twin) :
    (bodyLine body block statements).AgreesUnless
      (Step.Settles (fun _ => fork.Left) fun _ => fork.Left) cursor twin
      (Step.Parts (fun _ => fork.Along) fun _ => fork.Along) := by
  apply agreesUnless_afterNewlines along ?_
    (keeps_bodyLine travels block statements)
  intro cursor twin amid
  apply AgreesUnless.look (by
    simp only [amid.kind, amid.atMemberStart, amid.along.isClosedBy])
  dsimp only
  split
  · exact .inr (.pure amid.along)
  · split
    · rename_i terminator
      split
      · exact .inr (.pure amid.along)
      · have next := amid.next (endsLine_of_isBlockTerminator terminator)
        have points := amid.points rfl (explains_stray terminator)
        right
        apply Agrees.take amid
        apply (agrees_complain points next.along).bind
        exact fun _ _ _ along => .pure along
    · split
      · rename_i found
        right
        exact .take amid (.pure (amid.next (by rw [found]; rfl)).along)
      · apply AgreesUnless.run_bind (agreesUnless_statement agrees travels amid)
        · intro found after twinAfter along
          cases found <;> exact .inr (.pure along)
        · intro diagnostic after twinAfter fails
          exact .inr (agrees_reportAndSynchronize fails _)
        · intro answer after marked
          split
          · exact marked.toLeft
          · exact marked.toLeft
          · exact (grows_reportAndSynchronize _ _).left marked.toLeft

include agrees travels in
theorem agreesUnless_bodyLines
    (block : Block) (along : fork.Along cursor twin) :
    (inBlock block do
      loop (bodyLine body block) (← get).budget []).AgreesUnless
        (fun _ => fork.Left) cursor twin fun _ => fork.Along := by
  apply AgreesUnless.inBlock
  apply AgreesUnless.mono
    (AgreesUnless.loop (fun _ => fork.Along) fork.Left
      (proceeds_bodyLine travels block)
      (fun statements _ _ along =>
        agreesUnless_bodyLine agrees travels block statements along)
      (keeps_bodyLine travels block) (along.enter block))
  · exact fun _ _ left => ⟨left.budget, left.reported⟩
  · exact fun _ _ _ along => along.leave

end Body

/-- The two runs may be given different bounds on the depth of nesting, but
no body is as deep as any of them. -/
theorem agreesUnless_body (block : Block) (along : fork.Along cursor twin) :
    (Reader.body block).AgreesUnless (fun _ => fork.Left) cursor twin
      fun _ => fork.Along := by
  have within (bound : List Token) : ∀ block cursor twin,
      fork.Along cursor twin →
        (bodyWithin bound block).AgreesUnless (fun _ => fork.Left)
          cursor twin fun _ => fork.Along := by
    induction bound with
    | nil => exact fun _ _ _ along => .inr (.pure along)
    | cons _ bound ih =>
      intro block cursor twin along
      exact agreesUnless_bodyLines ih
        (travels_bodyWithin bound) block along
  have agree := @agreeWithin_body (cursor.budget ++ twin.budget) block
  apply AgreesUnless.congr (agree cursor ?_).symm (agree twin ?_).symm
    (within _ block cursor twin along)
  · simp
  · simp

end Recovery

end PapyrusScript
