import PapyrusScript.Proofs.Extent.Expression

/-!
# The extent of statements that are read

A statement is read from the place where its span starts.  The end of its line
is passed as well, but the span ends in front of it.

A conditional or a loop runs from its keyword to the keyword that closes it.
Between the lines of a body nothing is passed but gaps.
-/

namespace PapyrusScript

variable {cursor : Cursor}

def Statement.FillsLines (statement : Statement) (row : List Token) : Prop :=
  ∃ here line, row = here ++ line ∧ statement.Fills here ∧
    ∀ token ∈ line, token.kind = .newline

/-- The same for a statement that is no block. -/
def Statement.FillsLine (statement : Statement) (row : List Token) : Prop :=
  statement.FillsLines row ∧ statement.transcript.all Mark.isOfLine = true

namespace Cursor

variable {source target : Cursor} {row line : List Token}

theorem Reads.next (inside : source.kind ≠ .endOfText) :
    source.Reads [source.current] source.next where
  budget := budget_eq_cons_next inside
  lastEnd := lastEnd_next source

/-- The stretch from one cursor to another is that of the row between them,
without the line breaks at its end. -/
theorem Reads.isOf
    (reads : source.Reads (row ++ line) target) (nonempty : row ≠ [])
    (last : ∀ token ∈ row.getLast?, token.kind ≠ .newline)
    (breaks : ∀ token ∈ line, token.kind = .newline) :
    (target.spanFrom source.position).IsOf row := by
  obtain ⟨first, isFirst⟩ : ∃ first, row.head? = some first :=
    ⟨_, List.head?_eq_some_head nonempty⟩
  obtain ⟨closing, isLast⟩ : ∃ closing, row.getLast? = some closing :=
    ⟨_, List.getLast?_eq_some_getLast nonempty⟩
  refine ⟨first, isFirst, closing, isLast, ?_⟩
  have starts : first = source.current := by
    apply reads.head
    rw [List.head?_append, isFirst]
    rfl
  have ends : target.lastEnd = closing.span.stop := by
    rw [reads.lastEnd, stopBehind_append, stopBehind_of_newlines breaks]
    exact stopBehind_of_getLast? isLast (last closing isLast) _
  rw [spanFrom, ends, starts]
  rfl

theorem Reads.isOf_line (reads : source.Reads row target) (nonempty : row ≠ [])
    (inLine : IsLine row) : (target.spanFrom source.position).IsOf row := by
  rw [← List.append_nil row] at reads
  apply reads.isOf nonempty _ (List.forall_mem_nil _)
  exact fun token isLast =>
    inLine.ne_newline token (List.mem_of_getLast? isLast)

/-- The stretch of a block, whose last token closes it. -/
theorem Reads.isOf_block
    {closer : Token} (reads : source.Reads (row ++ closer :: line) target)
    (visible : closer.kind ≠ .newline)
    (breaks : ∀ token ∈ line, token.kind = .newline) :
    (target.spanFrom source.position).IsOf (row ++ [closer]) := by
  have whole : source.Reads ((row ++ [closer]) ++ line) target := by
    rwa [List.append_assoc]
  apply whole.isOf (List.append_ne_nil_of_right_ne_nil _ nofun) _ breaks
  intro token isLast
  rw [List.getLast?_concat] at isLast
  exact Option.some.inj isLast ▸ visible

end Cursor

/-! ## Statements of one line -/

namespace Reader

theorem line_returnedValue :
    returnedValue.Covers cursor fun value row =>
      IsLine row ∧ Transcribes row (Expression.returnedTranscript value) := by
  unfold returnedValue
  apply Covers.get
  dsimp only
  split
  · exact .pure ⟨.nil, .nil⟩
  · apply fills_expression.bind
    intro value after
    apply Covers.pure
    intro row fills
    rw [List.append_nil]
    exact ⟨fills.line, fills.transcribes⟩

/-- A result fills its line. -/
theorem fills_returnStatement :
    returnStatement.Covers cursor Statement.FillsLine := by
  unfold returnStatement
  apply (covers_expect _ _ (by nofun)).bindReads
    (advances_expect _ _ cursor rfl).travels
  intro keyword second
  apply line_returnedValue.bindReads (travels_returnedValue second)
  intro value third
  apply Covers.get
  apply (covers_endOfLine _).bind
  intro _ _
  apply Covers.pure
  rintro line breaks row ⟨inLine, transcribes⟩ readsValue _ ⟨rfl, kind⟩ reads
  have whole := reads.append readsValue
  have starts : keyword = cursor.current := reads.head keyword rfl
  refine ⟨⟨[keyword] ++ row, line, ?_, ⟨?_, ?_, ?_⟩, breaks⟩, ?_⟩
  · rw [List.append_nil, List.append_assoc]
  · rw [starts] at whole ⊢
    exact whole.isOf_line (List.cons_ne_nil _ _)
      (.cons (starts ▸ kind) rfl inLine)
  · exact .cons kind rfl inLine
  · exact .cons (.word kind) transcribes
  · cases value with
    | none => rfl
    | some value => exact value.all_transcript

/-- The initial value of a local variable is read in its line. -/
theorem line_initialExpression :
    initialExpression.Covers cursor fun value row =>
      IsLine row ∧ Transcribes row (Expression.initialTranscript value) := by
  unfold initialExpression
  apply Covers.get
  split
  · rename_i found
    apply Covers.advance (by simp [found])
    apply fills_expression.bind
    intro value after
    apply Covers.pure
    intro row fills
    rw [List.append_nil]
    exact ⟨.cons found rfl fills.line,
      .cons (.sign found rfl) fills.transcribes⟩
  · exact .pure ⟨.nil, .nil⟩

/-- A local declaration fills its line. -/
theorem fills_declareStatement :
    declareStatement.Covers cursor Statement.FillsLine := by
  unfold declareStatement
  apply (extends_typeName.and covers_typeName).bindReads
    (advances_typeName cursor).travels
  intro type second
  apply (covers_identifier _).bindReads (advances_identifier _ second).travels
  intro name third
  apply line_initialExpression.bindReads (travels_initialExpression third)
  intro initial fourth
  apply Covers.get
  apply (covers_endOfLine _).bind
  intro _ _
  apply Covers.pure
  rintro line breaks row ⟨inLine, transcribes⟩ readsValue _
    ⟨token, rfl, named, rfl⟩ readsName typeRow
    ⟨⟨inLineType, first, isFirst, _, _, spanned⟩, spelled⟩ readsType
  have whole := readsType.append (readsName.append readsValue)
  have starts : type.span.start = cursor.position := by
    rw [spanned, readsType.head first isFirst]
    rfl
  have nonempty : typeRow ++ ([token] ++ row) ≠ [] := by simp
  have inWhole : IsLine (typeRow ++ ([token] ++ row)) :=
    inLineType.append (.cons named rfl inLine)
  refine ⟨⟨typeRow ++ ([token] ++ row), line, ?_, ⟨?_, inWhole, ?_⟩, breaks⟩, ?_⟩
  · rw [List.append_nil, List.append_assoc, List.append_assoc]
  · rw [starts]
    exact whole.isOf_line nonempty inWhole
  · exact spelled.transcribes.append (.cons (.name named) transcribes)
  · cases initial with
    | none => simp [Statement.transcript, Expression.initialTranscript,
        type.all_transcript]
    | some value => simp [Statement.transcript, Expression.initialTranscript,
        type.all_transcript, value.all_transcript]

/-- An assignment fills the line with what has been read in front. -/
theorem fills_assignment {operator : AssignmentOperator}
    (found : cursor.kind.assignmentOperator? = some operator)
    {source : Cursor} (target : Expression) :
    (assignment source.position target operator).Covers cursor
      fun statement row => ∀ before, target.Fills before →
        source.Reads before cursor → statement.Fills (before ++ row) ∧
          statement.transcript.all Mark.isOfLine = true := by
  obtain ⟨symbol, kind, rfl, counts⟩ := isLayout_of_assignmentOperator? found
  have inside : cursor.kind ≠ .endOfText := by simp [kind]
  unfold assignment
  split
  · apply Covers.advance inside
    apply fills_expression.bindReads (advances_expression _).travels
    intro value after
    apply Covers.get
    split
    · exact covers_throw _
    · apply Covers.pure
      intro row fills readsValue before first reads
      rw [List.append_nil]
      have whole := reads.append ((Cursor.Reads.next inside).append readsValue)
      have inLine : IsLine (before ++ ([cursor.current] ++ row)) :=
        first.line.append (.cons kind rfl fills.line)
      refine ⟨⟨whole.isOf_line (by simp) inLine, inLine, ?_⟩,
        by simp [Statement.transcript, target.all_transcript,
          value.all_transcript]⟩
      exact first.transcribes.append
        (.cons (.sign kind counts) fills.transcribes)
  · exact covers_throw _

theorem fills_assignmentOr {source : Cursor} (target : Expression) :
    (assignmentOr source.position target).Covers cursor fun statement row =>
      ∀ before, target.Fills before → source.Reads before cursor →
        statement.Fills (before ++ row) ∧
          statement.transcript.all Mark.isOfLine = true := by
  unfold assignmentOr
  apply Covers.get
  split
  · rename_i operator found
    exact fills_assignment found target
  · apply Covers.pure
    intro before fills _
    rw [List.append_nil]
    exact ⟨⟨rfl, fills⟩, target.all_transcript⟩

/-- An expression by itself or an assignment fills its line. -/
theorem fills_expressionStatement :
    expressionStatement.Covers cursor Statement.FillsLine := by
  unfold expressionStatement
  apply Covers.get
  apply fills_expression.bindReads (advances_expression cursor).travels
  intro value second
  apply (fills_assignmentOr value).bind
  intro statement third
  apply (covers_endOfLine _).bind
  intro _ _
  apply Covers.pure
  intro line breaks row assigns before fills reads
  obtain ⟨whole, inLine⟩ := assigns before fills reads
  refine ⟨⟨before ++ row, line, ?_, whole, breaks⟩, inLine⟩
  rw [List.append_nil, List.append_assoc]

end Reader

open Statement

/-! ## Arms of a conditional -/

/-- The text of the arms that have been found, all of which are complete. -/
structure Reader.Arms.Fill
    (arms : Reader.Arms) (row : List Token) : Prop where
  complete : arms.complete = true
  nonempty : arms.branches ≠ []
  fills : ∃ front last, row = front ++ last ∧
    ArmsFill .ifThen arms.branches front ∧ OtherwiseFills arms.otherwise last

/-- The text of a whole conditional, and the end of its line. -/
structure Reader.Arms.FillAll
    (arms : Reader.Arms) (row : List Token) : Prop where
  complete : arms.complete = true
  fills : ∃ front last closer line, row = front ++ (last ++ closer :: line) ∧
    ArmsFill .ifThen arms.branches front ∧
      OtherwiseFills arms.otherwise last ∧
        closer.kind = .keyword .endIf ∧ ∀ token ∈ line, token.kind = .newline

namespace Recovery

open Reader

/-- A condition fills what stands in front of the end of its line. -/
theorem fills_condition (context : String) :
    (Reader.condition context).Covers cursor fun found row =>
      ∃ value here line, found = some value ∧ row = here ++ line ∧
        value.Fills here ∧ ∀ token ∈ line, token.kind = .newline := by
  unfold Reader.condition
  apply Covers.run_bind fills_expression
  · intro value after
    apply Covers.run_bind (covers_endOfLine context)
    · intro _ after
      apply Covers.pure
      intro line breaks here fills
      rw [List.append_nil]
      exact ⟨value, here, line, rfl, rfl, fills, breaks⟩
    · exact fun _ _ => tells_synchronizeAfter _ _
  · exact fun _ _ => tells_synchronizeAfter _ _

/-- A condition and a body behind the word that opens an arm. -/
theorem branchFills_of_condition
    {word : Token} {opener : Keyword} {value : Expression}
    {inside : List Statement} {here line row : List Token} (span : Span)
    (kind : word.kind = .keyword opener) (condition : value.Fills here)
    (breaks : ∀ token ∈ line, token.kind = .newline)
    (fills : BodyFills inside row) :
    BranchFills opener ⟨value, inside, span⟩
      (word :: (here ++ (line ++ row))) :=
  ⟨word, here, line ++ row, rfl, kind, condition,
    fills.after (.of_newlines breaks)⟩

section Body

variable {body : Block → Recovery (List Statement)}
  (bodyTravels : ∀ block cursor, (body block).Travels cursor)
  (bodyFills : ∀ block cursor, (body block).Covers cursor BodyFills)

include bodyTravels bodyFills

/-- An arm with a condition adds its text, unless it comes after the last
resort. -/
theorem fills_nextArm (opener : Token) (arms : Reader.Arms) :
    (nextArm body opener arms).Covers cursor fun decision row =>
      ∀ before, arms.Fill before →
        Step.Adds Reader.Arms.Fill Reader.Arms.FillAll decision
          (before ++ row) := by
  unfold nextArm
  apply Covers.get
  split
  · rename_i word
    apply Covers.advance (by simp [word])
    unfold reportElseIfAfterElse
    split
    · apply Tells.covers
      apply (tells_complain _ _).bind
      intro _ cursor
      apply (travels_condition _ cursor).grows.bind
      intro condition after
      apply (bodyTravels _ after).grows.bind
      exact fun _ _ => .pure _
    · rename_i early
      rw [pure_bind]
      apply (fills_condition _).bind
      intro condition after
      apply (bodyFills _ after).bind
      intro inside after
      apply Covers.get
      apply Covers.pure
      rintro row fills _ ⟨value, here, line, rfl, rfl, condition, breaks⟩
        before ⟨complete, nonempty, front, last, rfl, branches, otherwise⟩
      have noElse : arms.otherwise = none := by simpa using early
      rw [noElse] at otherwise
      obtain rfl : last = [] := otherwise
      rw [Reader.Arms.add_of_early noElse]
      have arm := branchFills_of_condition
        (after.spanFrom cursor.current.span.start) word condition breaks fills
      refine ⟨complete, by simp, _, [], ?_, branches.concat nonempty arm, ?_⟩
      · simp
      · rw [noElse]
        rfl
  · rename_i word
    apply Covers.advance (by simp [word])
    apply (covers_finishLine _).bind
    intro _ after
    apply (bodyFills _ after).bind
    intro inside after
    split
    · apply Tells.covers
      exact (tells_complain _ _).bind fun _ _ => .pure _
    · rename_i early
      apply Covers.pure
      rintro row fills line breaks before
        ⟨complete, nonempty, front, last, rfl, branches, otherwise⟩
      have noElse : arms.otherwise = none := by simpa using early
      rw [noElse] at otherwise
      obtain rfl : last = [] := otherwise
      refine ⟨complete, nonempty, front, cursor.current :: (line ++ row),
        by simp, branches, ?_⟩
      exact ⟨cursor.current, line ++ row, rfl, word,
        fills.after (.of_newlines breaks)⟩
  · rename_i word
    apply Covers.advance (by simp [word])
    apply (covers_finishLine _).bind
    intro _ after
    apply Covers.pure
    rintro line breaks before
      ⟨complete, _, front, last, rfl, branches, otherwise⟩
    refine ⟨complete, front, last, cursor.current, line, by simp, branches,
      otherwise, word, breaks⟩
  · apply Tells.covers
    exact (tells_reportUnterminated _ _).bind fun _ _ => .pure _

/-- A conditional fills its lines. -/
theorem fills_conditionalStatement (found : cursor.kind = .keyword .ifThen) :
    (conditionalStatement body).Covers cursor fun answer row =>
      ∃ statement, answer = some statement ∧ statement.FillsLines row := by
  have inside : cursor.kind ≠ .endOfText := by simp [found]
  unfold conditionalStatement
  apply Covers.advance inside
  apply (fills_condition _).bindReads (travels_condition _ _)
  intro condition second
  apply (bodyFills _ second).bindReads (bodyTravels _ second)
  intro within third
  apply Covers.get
  apply Covers.get
  apply (Covers.loop (proceeds_nextArm bodyTravels cursor.current)
    (fun arms _ => fills_nextArm bodyTravels bodyFills _ arms) _).bindReads
    (travels_loop (proceeds_nextArm bodyTravels cursor.current) _ _ _)
  intro arms last
  -- The first arm, and with it the text of the whole conditional.
  have whole {row middle here line : List Token} {value : Expression}
      (closes : ∀ before,
        ((Reader.Arms.mk [] none true).add (some value) within
          (third.spanFrom cursor.current.span.start)).Fill before →
            arms.FillAll (before ++ row))
      (fills : BodyFills within middle) (condition : value.Fills here)
      (breaks : ∀ token ∈ line, token.kind = .newline) :
      arms.FillAll (cursor.current :: (here ++ (line ++ middle)) ++ row) := by
    apply closes
    refine ⟨rfl, List.cons_ne_nil _ _, _, [], (List.append_nil _).symm, ?_, rfl⟩
    exact ⟨_, [], (List.append_nil _).symm,
      branchFills_of_condition _ found condition breaks fills, rfl⟩
  split
  · apply Covers.get
    apply Covers.pure
    rintro row closes readsArms middle fills readsBody _
      ⟨value, here, line, rfl, rfl, condition, breaks⟩ readsCondition
    obtain ⟨_, front, final, closer, ending, same, branches, otherwise, ends,
      breaksEnding⟩ := whole closes fills condition breaks
    have reads := (Cursor.Reads.next inside).append
      (readsCondition.append (readsBody.append readsArms))
    have shape : [cursor.current] ++ (here ++ line ++ (middle ++ row)) =
        (front ++ final) ++ closer :: ending := by
      simpa using same
    rw [shape] at reads
    refine ⟨_, rfl, front ++ (final ++ [closer]), ending, ?_,
      ⟨?_, front, final, closer, rfl, branches, otherwise, ends⟩,
      breaksEnding⟩
    · simpa using shape
    · rw [← List.append_assoc]
      exact reads.isOf_block (by rw [ends]; nofun) breaksEnding
  · rename_i incomplete
    apply Covers.pure
    rintro row closes _ middle fills _ _
      ⟨value, here, line, rfl, rfl, condition, breaks⟩ _
    exact absurd (whole closes fills condition breaks).complete incomplete

/-! ## Loops -/

omit bodyTravels bodyFills in
theorem fills_endOfLoop (opener : Token) :
    (endOfLoop opener).Covers cursor fun _ row =>
      ∃ closer line, row = closer :: line ∧
        closer.kind = .keyword .endWhile ∧
          ∀ token ∈ line, token.kind = .newline := by
  unfold endOfLoop
  apply Covers.get
  split
  · rename_i found
    apply Covers.advance (by simp [found])
    apply (covers_finishLine _).mono
    exact fun _ line breaks => ⟨cursor.current, line, rfl, found, breaks⟩
  · exact (tells_reportUnterminated _ _).covers

/-- A loop fills its lines. -/
theorem fills_loopStatement (found : cursor.kind = .keyword .whileLoop) :
    (loopStatement body).Covers cursor fun answer row =>
      ∃ statement, answer = some statement ∧ statement.FillsLines row := by
  have inside : cursor.kind ≠ .endOfText := by simp [found]
  unfold loopStatement
  apply Covers.advance inside
  apply (fills_condition _).bindReads (travels_condition _ _)
  intro condition second
  apply (bodyFills _ second).bindReads (bodyTravels _ second)
  intro within third
  apply (fills_endOfLoop _).bindReads (travels_endOfLoop _ third)
  intro _ last
  cases condition with
  | some value =>
    apply Covers.get
    apply Covers.pure
    rintro _ ⟨closer, ending, rfl, ends, breaksEnding⟩ readsEnd middle fills
      readsBody _ ⟨_, here, line, ⟨⟩, rfl, condition, breaks⟩ readsCondition
    have reads := (Cursor.Reads.next inside).append
      (readsCondition.append (readsBody.append readsEnd))
    have shape : [cursor.current] ++
        (here ++ line ++ (middle ++ closer :: ending)) =
        (cursor.current :: (here ++ (line ++ middle))) ++
          closer :: ending := by simp
    rw [shape] at reads
    refine ⟨_, rfl,
      cursor.current :: (here ++ ((line ++ middle) ++ [closer])), ending, ?_,
      ⟨?_, ?_⟩, breaksEnding⟩
    · simp
    · have isOf := reads.isOf_block (by rw [ends]; nofun) breaksEnding
      show (last.spanFrom cursor.position).IsOf _
      simpa using isOf
    · exact ⟨cursor.current, here, line ++ middle, closer, rfl, found,
        condition, fills.after (.of_newlines breaks), ends⟩
  | none =>
    apply Covers.pure
    rintro _ _ _ middle fills _ _ ⟨_, here, line, ⟨⟩, _⟩

/-! ## Lines of a body -/

/-- A statement fills its lines. -/
theorem fills_statement :
    (Reader.statement body).Covers cursor fun answer row =>
      ∃ statement, answer = some statement ∧ statement.FillsLines row := by
  unfold Reader.statement
  apply Reader.Covers.get
  split
  · rename_i found
    exact .lift (fills_conditionalStatement bodyTravels bodyFills found)
  · rename_i found
    exact .lift (fills_loopStatement bodyTravels bodyFills found)
  · apply Reader.Covers.map
    exact fills_returnStatement.mono
      fun statement _ fills => ⟨statement, rfl, fills.1⟩
  · split
    · apply Reader.Covers.map
      exact fills_declareStatement.mono
        fun statement _ fills => ⟨statement, rfl, fills.1⟩
    · apply Reader.Covers.map
      exact fills_expressionStatement.mono
        fun statement _ fills => ⟨statement, rfl, fills.1⟩

/-- A line of a body is filled by one statement more, or is a gap. -/
theorem fills_bodyLine (block : Block) (statements : List Statement) :
    (bodyLine body block statements).Covers cursor fun decision row =>
      ∀ before, BodyFills statements before →
        Step.Adds BodyFills BodyFills decision (before ++ row) := by
  unfold bodyLine
  apply covers_skipNewlines.bind
  intro _ after
  apply Covers.get
  dsimp only
  split
  · apply Covers.pure
    intro line breaks before fills
    rw [List.append_nil]
    exact fills.before (.of_newlines breaks)
  · rename_i going
    have inside : after.kind ≠ .endOfText := by
      simp only [Bool.or_eq_true, decide_eq_true_eq, not_or] at going
      exact going.1.1
    split
    · split
      · apply Covers.pure
        intro line breaks before fills
        rw [List.append_nil]
        exact fills.before (.of_newlines breaks)
      · apply Covers.advance inside
        exact ((tells_complain _ _).bind fun _ _ => .pure _).covers
    · split
      · rename_i doc
        apply Covers.advance inside
        apply Covers.pure
        intro line breaks before fills
        exact fills.before
          ((IsGap.of_newlines breaks).append (.of_docComment doc))
      · apply Covers.run_bind (fills_statement bodyTravels bodyFills)
        · intro answer last
          cases answer with
          | some statement =>
            apply Covers.pure
            rintro _ ⟨_, ⟨⟩, here, ending, rfl, filled, breaksEnding⟩ line
              breaks before fills
            show BodyFills (statements ++ [statement]) _
            have added := (fills.concat (.of_newlines breaks) filled).before
              (.of_newlines breaksEnding)
            simpa using added
          | none =>
            apply Covers.pure
            rintro _ ⟨_, ⟨⟩, _⟩
        · exact fun _ _ => tells_synchronizeAfter _ _

end Body

theorem fills_bodyWithin (budget : List Token) (block : Block) :
    (bodyWithin budget block).Covers cursor BodyFills := by
  induction budget generalizing block cursor with
  | nil => exact .pure IsGap.nil
  | cons _ budget ih =>
    unfold bodyWithin
    apply Covers.inBlock
    apply Covers.get
    apply (Covers.loop (proceeds_bodyLine (travels_bodyWithin budget) block)
      (fun statements _ => fills_bodyLine (travels_bodyWithin budget)
        (fun _ _ => ih _) block statements) []).mono
    intro inside row holds
    exact holds [] IsGap.nil

theorem fills_body (block : Block) :
    (Reader.body block).Covers cursor BodyFills :=
  .get (fills_bodyWithin _ block)

end Recovery

end PapyrusScript
