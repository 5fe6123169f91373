import PapyrusScript.Proofs.Truncation.Line

/-!
# Statements of a text that is cut

A statement of one line closes nothing, and neither does what is kept of it.
So where the rest of a broken statement is discarded, nothing but the end of
the text stops that.
-/

namespace PapyrusScript

open Cursor Cut

variable {α β : Type} {cut : Cut} {cursor twin after : Cursor}
  {outer : List Opening} {row rest passed : List Token}

/-! ## Tokens of a statement -/

theorem closesNothing_of_newlines
    (breaks : ∀ token ∈ row, token.kind = .newline) : ClosesNothing row := by
  intro token member
  rw [breaks token member]
  rfl

/-- Neither a statement of one line nor the end of its line closes a block. -/
theorem Statement.FillsLine.closesNothing {statement : Statement}
    (fills : statement.FillsLine row) : ClosesNothing row := by
  obtain ⟨⟨here, line, rfl, inRow, breaks⟩, inLine⟩ := fills
  have transcribes := Statement.transcribes_of_fills _ inRow
  exact (transcribes.closesNothing inLine).append
    (closesNothing_of_newlines breaks)

/-! ## Readers of statements -/

namespace Reader

theorem readsLine_returnStatement : returnStatement.ReadsLine where
  travels cursor := (advances_returnStatement cursor).travels
  passes cursor := by
    unfold returnStatement
    apply PassesLine.bind (advances_expect _ _ cursor rfl).travels
    intro keyword after
    apply PassesLine.bind (travels_returnedValue after)
    exact fun _ _ => .get (passesLine_endOfLine _ _)
  agrees := agrees_returnStatement

theorem readsLine_declareStatement : declareStatement.ReadsLine where
  travels cursor := (advances_declareStatement cursor).travels
  passes cursor := by
    unfold declareStatement
    apply PassesLine.bind (advances_typeName cursor).travels
    intro type after
    apply PassesLine.bind (advances_identifier _ after).travels
    intro name after
    apply PassesLine.bind (travels_initialExpression after)
    exact fun _ _ => .get (passesLine_endOfLine _ _)
  agrees := agrees_declareStatement

theorem readsLine_expressionStatement : expressionStatement.ReadsLine where
  travels cursor := (advances_expressionStatement cursor).travels
  passes cursor := by
    unfold expressionStatement
    apply PassesLine.get
    apply PassesLine.bind (advances_expression cursor).travels
    intro value after
    apply PassesLine.bind (travels_assignmentOr _ value after)
    exact fun _ _ => passesLine_endOfLine _ _
  agrees := agrees_expressionStatement

end Reader

def Reader.lineStatement (cursor : Cursor) : Reader (Option Statement) :=
  if cursor.kind = .keyword .returnValue then
    some <$> returnStatement
  else if cursor.atVariableStart then
    some <$> declareStatement
  else
    some <$> expressionStatement

namespace Reader

theorem readsLine_lineStatement (cursor : Cursor) :
    (lineStatement cursor).ReadsLine := by
  unfold lineStatement
  split
  · exact readsLine_returnStatement.map some
  · split
    · exact readsLine_declareStatement.map some
    · exact readsLine_expressionStatement.map some

theorem closesNothing_lineStatement (cursor after : Cursor) :
    (lineStatement cursor).Covers after fun _ row => ClosesNothing row := by
  unfold lineStatement
  split
  · exact .map (fills_returnStatement.mono fun _ _ fills => fills.closesNothing)
  · split
    · exact .map
        (fills_declareStatement.mono fun _ _ fills => fills.closesNothing)
    · exact .map
        (fills_expressionStatement.mono fun _ _ fills => fills.closesNothing)

theorem run_statement_of_line {body : Block → Recovery (List Statement)}
    (notIf : cursor.kind ≠ .keyword .ifThen)
    (notWhile : cursor.kind ≠ .keyword .whileLoop) :
    (statement body).run.run cursor =
      (lineStatement cursor).run.run cursor := by
  unfold statement lineStatement
  rw [Recovery.run_run_get_bind]
  split
  · contradiction
  · contradiction
  · rename_i found
    rw [if_pos found]
  · rename_i notReturn
    rw [if_neg notReturn]

end Reader

/-! ## Discarding the rest of a statement -/

namespace Recovery

/-- Where nothing closes a block, the rest of the line is discarded. -/
theorem behind_synchronize (closes : ClosesNothing cursor.budget) :
    Reader.synchronize.Ends cursor fun _ after => cursor.Behind after := by
  have step (value : Unit) (middle : Cursor)
      (reached : ∃ passed, cursor.budget = passed ++ middle.budget) :
      (Reader.discardInStatement value).Ends middle
        (Step.Settles
          (fun _ after => ∃ passed, cursor.budget = passed ++ after.budget)
          fun _ after => cursor.Behind after) := by
    obtain ⟨passed, shape⟩ := reached
    unfold Reader.discardInStatement
    rw [ends_bind, ends_get]
    split
    · rename_i breaks
      have inside : middle.kind ≠ .endOfText := by
        simp only [breaks, ne_eq, reduceCtorEq, not_false_eq_true]
      rw [Cursor.budget_eq_cons_next inside] at shape
      exact .inr ⟨passed, middle.current, shape, breaks⟩
    · rename_i atEnd
      exact .inl atEnd
    · rename_i inside
      have first : middle.kind.isBlockTerminator = false :=
        closes middle.current (by rw [shape]; simp [Cursor.budget])
      rw [first, if_neg Bool.false_ne_true, ends_bind, ends_discard]
      rw [Cursor.budget_eq_cons_next inside, ← Cursor.budget_discard] at shape
      refine ⟨passed ++ [middle.current], ?_⟩
      rw [shape, List.append_assoc]
      rfl
  exact ends_loop_of_keeps _ proceeds_discardInStatement step () ⟨[], rfl⟩

theorem behind_synchronizeAfter (diagnostic : Diagnostic) (value : α)
    (closes : ClosesNothing cursor.budget) :
    Ends (do
      Reader.report diagnostic
      Reader.synchronize
      return value) cursor fun _ after => cursor.Behind after := by
  rw [ends_bind, ends_report]
  apply (@behind_synchronize (cursor.report diagnostic) closes).bind
  exact fun _ _ behind => behind

end Recovery

theorem ClosesNothing.of_reaches
    (closes : ClosesNothing cursor.budget) (reaches : cursor.Reaches after) :
    ClosesNothing after.budget := by
  obtain ⟨⟨passed, path⟩, _⟩ := reaches
  rw [path.budget_eq.1] at closes
  exact (List.forall_mem_append.1 closes).2

/-- The row of tokens that has been passed without a report. -/
theorem Cursor.Covers.exists_row
    {fact : List Token → Prop} (covers : cursor.Covers after fact)
    (silent : after.reported = []) :
    ∃ row, cursor.budget = row ++ after.budget ∧ fact row := by
  obtain ⟨rendering, passes, holds⟩ := covers.holds (by
    rw [silent]
    exact Nat.zero_le _)
  exact ⟨rendering.tokens, passes.budget, holds⟩

theorem Recovery.Covers.exists_row
    {reader : Recovery α} {fact : α → List Token → Prop} {value : α}
    (covers : reader.Covers cursor fact)
    (ran : reader.run cursor = (value, after)) (silent : after.reported = []) :
    ∃ row, cursor.budget = row ++ after.budget ∧ fact value row := by
  unfold Recovery.Covers Recovery.Ends at covers
  rw [ran] at covers
  exact Cursor.Covers.exists_row covers silent

theorem Reader.Covers.exists_row
    {reader : Reader α} {fact : α → List Token → Prop} {value : α}
    (covers : reader.Covers cursor fact)
    (ran : reader.run.run cursor = (.ok value, after))
    (silent : after.reported = []) :
    ∃ row, cursor.budget = row ++ after.budget ∧ fact value row := by
  unfold Reader.Covers Reader.Ends Recovery.Ends at covers
  rw [ran] at covers
  exact Cursor.Covers.exists_row covers silent

/-- A line that has been passed has been passed up to its end. -/
theorem isPrefix_of_behind
    (here : cursor.budget = row ++ rest) (oneLine : OneLine row)
    (behind : cursor.Behind after)
    (shape : cursor.budget = passed ++ after.budget) : row <+: passed := by
  have within {before later : List Token} {last : Token}
      (ends : last.kind.endsLine = true)
      (same : row ++ rest = before ++ last :: later) : row <+: before := by
    rcases List.append_eq_append_iff.1 same with
      ⟨more, rfl, _⟩ | ⟨more, rfl, divided⟩
    · exact List.prefix_append _ _
    · cases more with
      | nil => simp
      | cons first more =>
        obtain rfl := (List.cons.inj divided).1
        have inLine := oneLine last (by simp)
        rw [ends] at inLine
        cases inLine
  rcases behind with atEnd | ⟨before, line, split, breaks⟩
  · have ends : after.current.kind.endsLine = true := by
      rw [show after.current.kind = _ from atEnd]
      rfl
    exact within ends (here.symm.trans shape)
  · have ends : line.kind.endsLine = true := by
      rw [breaks]
      rfl
    have whole : passed ++ after.budget = before ++ [line] ++ after.budget := by
      rw [← shape, split]
      simp
    have isPrefix : row <+: before := within ends (here.symm.trans split)
    rw [List.append_cancel_right whole]
    exact isPrefix.trans (List.prefix_append _ _)

namespace Cut

/-- What is kept of a line closes nothing if the line does not. -/
theorem Abreast.closesNothing
    (abreast : cut.Abreast row cursor twin) (oneLine : OneLine row)
    (covered : cursor.Covers after ClosesNothing)
    (behind : cursor.Behind after) (silent : after.reported = []) :
    ClosesNothing twin.budget := by
  obtain ⟨passed, shape, closes⟩ := covered.exists_row silent
  obtain ⟨more, whole⟩ := isPrefix_of_behind abreast.here oneLine behind shape
  rw [← whole] at closes
  rw [abreast.there]
  exact ClosesNothing.append (List.forall_mem_append.1 closes).1
    (.of_kind cut.ends rfl)

end Cut

/-! ## Conditions -/

namespace Recovery

open Reader

/-- A condition that is read without a report passes its line. -/
theorem behind_condition_of_silent (context : String) :
    (condition context).Ends cursor fun _ after =>
      after.reported = [] → cursor.Behind after := by
  have broken {α : Type} {middle : Cursor} (diagnostic : Diagnostic)
      (value : α) :
      Ends (do
        Reader.report diagnostic
        synchronize
        return value) middle fun _ after =>
          after.reported = [] → cursor.Behind after := by
    intro silent
    exact absurd silent (tells_synchronizeAfter diagnostic value).reported_ne_nil
  unfold condition
  rw [ends_bind, ends_run]
  apply (advances_expression cursor).travels.mono
  · intro value middle reaches
    rw [ends_bind, ends_run]
    apply (behind_endOfLine context middle).mono
    · exact fun _ _ behind _ => reaches.trans_behind behind
    · exact fun _ _ _ => broken _ _
  · exact fun _ _ _ => broken _ _

/-- A condition in a line that closes nothing passes it, broken or not. -/
theorem behind_condition
    (context : String) (closes : ClosesNothing cursor.budget) :
    (condition context).Ends cursor fun _ after =>
      cursor.Behind after := by
  have broken {α : Type} {middle : Cursor} (diagnostic : Diagnostic)
      (value : α) (reaches : cursor.Reaches middle) :
      Ends (do
        Reader.report diagnostic
        synchronize
        return value) middle fun _ after => cursor.Behind after :=
    (behind_synchronizeAfter diagnostic value (closes.of_reaches reaches)).mono
      fun _ _ behind => reaches.trans_behind behind
  unfold condition
  rw [ends_bind, ends_run]
  apply (advances_expression cursor).travels.mono
  · intro value middle reaches
    rw [ends_bind, ends_run]
    apply (behind_endOfLine context middle).mono
    · exact fun _ _ behind => reaches.trans_behind behind
    · exact fun _ _ further => broken _ _ (reaches.trans further)
  · exact fun _ _ reached => broken _ _ reached.1

/-- Both runs read a condition, or the second comes to the end in it. -/
theorem tears_condition
    (context : String) (abreast : cut.Abreast row cursor twin)
    (whole : ∀ line newline more, row = line ++ newline :: more →
      OneLine line → newline.kind = .newline → cut.Opens outer more)
    (last : OneLine row → ∀ last : Cursor, last.kind = .endOfText →
      last.unterminated = [] → cut.Spent outer last) :
    (condition context).Tears cut (fun _ => outer) cursor twin := by
  intro silent
  have behind : cursor.Behind ((condition context).run cursor).2 :=
    behind_condition_of_silent context silent
  rcases abreast.cases_line with
    oneLine | ⟨line, newline, more, rfl, oneLine, breaks⟩
  · right
    have covered : (condition context).Covers cursor fun _ row =>
        ClosesNothing row := by
      apply (fills_condition context).mono
      rintro _ _ ⟨value, here, line, _, rfl, fills, breaks⟩
      exact (fills.transcribes.closesNothing value.all_transcript).append
        (closesNothing_of_newlines breaks)
    have closes := abreast.closesNothing oneLine covered behind silent
    obtain ⟨atEnd, same⟩ := (abreast.inLastLine oneLine).ends
      (travels_condition context twin) (behind_condition context closes)
    exact last oneLine _ atEnd same
  · obtain ⟨same, along⟩ := agrees_condition (abreast.amid breaks) context
    have abreastAfter := abreast.of_along oneLine
      (travels_condition context cursor) (travels_condition context twin)
      along behind silent
    rw [show (condition context).run twin =
      (((condition context).run cursor).1,
        ((condition context).run twin).2) from Prod.ext same rfl]
    exact .of_opens (whole line newline more rfl oneLine breaks) abreastAfter

/-- A condition opens the block of its keyword once its line is kept. -/
theorem tears_openingCondition (context : String) {opening : Opening}
    (opens : cut.Opens outer (opening.keyword :: row))
    (abreast : cut.Abreast row cursor twin)
    (inLine : opening.keyword.kind.endsLine = false)
    (plain : IsPlain (opening.keyword :: row))
    (found : ∀ line, Opening.ofLine? (opening.keyword :: line) = some opening) :
    (condition context).Tears cut (fun _ => opening :: outer) cursor
      twin := by
  apply tears_condition context abreast
  · rintro line newline more rfl oneLine breaks
    rw [← List.cons_append] at opens
    exact opens.push (List.forall_mem_cons.2 ⟨inLine, oneLine⟩) breaks
      (found line) List.mem_cons_self
  · intro oneLine last atEnd silent
    exact .of_opening opens (List.forall_mem_cons.2 ⟨inLine, oneLine⟩) plain
      (found row) List.mem_cons_self atEnd silent

end Recovery

end PapyrusScript
