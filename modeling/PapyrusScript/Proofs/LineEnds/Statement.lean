import PapyrusScript.Proofs.LineEnds.Expression
import PapyrusScript.Proofs.Transcript.Line

/-!
# Lines and bodies do not depend on how lines end

Every place where a line may end takes a line break and the end of the text
alike.  Behind line breaks two runs that are abreast stand on tokens of the
same kind, so each line is read as the same sort of line.

What is read with a report need not be the same: a broken line is discarded
together with tokens that the two texts do not share.  So the readers that
recover are compared as long as nothing is reported.
-/

namespace PapyrusScript

open Cursor

variable {wording : Wording}

/-- Two cursors stand on tokens of the same kind, which are no line breaks. -/
structure Wording.Faces (wording : Wording) (cursor twin : Cursor) : Prop where
  abreast : wording.Abreast cursor twin
  kind : twin.kind = cursor.kind
  noBreak : cursor.kind ≠ .newline

/-! ## Line breaks -/

namespace Recovery

/-- Behind line breaks both runs stand on tokens of the same kind. -/
theorem beside_skipNewlines
    {cursor twin : Cursor} (abreast : wording.Abreast cursor twin) :
    Reader.skipNewlines.Beside Reader.skipNewlines cursor twin
      fun _ _ => wording.Faces := by
  -- at most one step of each run more than there are tokens left
  induction bound : cursor.budget.length + twin.budget.length
    using Nat.strongRecOn generalizing cursor twin with
  | _ bound ih =>
    subst bound
    rcases abreast.kinds with same | ⟨breaks, ends⟩ | ⟨ends, breaks⟩
    · by_cases breaks : cursor.kind = .newline
      · have twinBreaks := same.trans breaks
        unfold Beside
        rw [run_skipNewlines_next breaks, run_skipNewlines_next twinBreaks]
        refine ih _ ?_
          (abreast.next_of_newline breaks twinBreaks) rfl
        exact Nat.add_lt_add (precedes_next (by simp [breaks]))
          (precedes_next (by simp [twinBreaks]))
      · unfold Beside
        rw [run_skipNewlines_of_ne breaks,
          run_skipNewlines_of_ne (same ▸ breaks)]
        exact ⟨abreast, same, breaks⟩
    · unfold Beside
      rw [run_skipNewlines_next breaks]
      refine ih _ ?_ (abreast.next_left breaks ends) rfl
      exact Nat.add_lt_add_right (precedes_next (by simp [breaks])) _
    · unfold Beside
      rw [run_skipNewlines_next breaks]
      refine ih _ ?_ (abreast.next_right ends breaks) rfl
      exact Nat.add_lt_add_left (precedes_next (by simp [breaks])) _

end Recovery

/-! ## Ends of lines -/

namespace Reader

/-- A line break and the end of the text are passed alike. -/
theorem even_endOfLine (context : String) :
    (endOfLine context).Even wording := by
  intro cursor twin abreast
  apply Beside.get
  rcases abreast.kinds with same | ⟨breaks, ends⟩ | ⟨ends, breaks⟩
  · rw [same]
    split
    · rename_i breaks
      exact .take (.pure
        ⟨rfl, abreast.next_of_newline breaks (same.trans breaks)⟩)
    · exact .pure ⟨rfl, abreast⟩
    · exact .reject _ _
  · rw [breaks, ends]
    exact ⟨rfl, abreast.next_left breaks ends⟩
  · rw [ends, breaks]
    exact ⟨rfl, abreast.next_right ends breaks⟩

/-- A declaration ends in both texts, perhaps with different comments. -/
theorem beside_endOfDeclaration (context : String) {cursor twin : Cursor}
    (abreast : wording.Abreast cursor twin) :
    (endOfDeclaration context).Beside (endOfDeclaration context) cursor twin
      (wording.Keeps (wording.Alike Option.map)) := by
  have documented {cursor twin : Cursor} (context : String)
      (abreast : wording.Abreast cursor twin)
      (doc : cursor.kind = .docComment) :
      Beside (do
          let doc ← advance
          endOfLine context
          return some doc.text)
        (do
          let doc ← advance
          endOfLine context
          return some doc.text)
        cursor twin (wording.Keeps (wording.Alike Option.map)) := by
    have inLine : cursor.kind.endsLine = false := by
      rw [doc]
      rfl
    have same := (abreast.pairs inLine).doc doc
    apply Beside.take
    apply (even_endOfLine context _ _ (abreast.next_of_docComment doc)).bind
    rintro _ _ after twinAfter ⟨_, abreast⟩
    exact .pure ⟨congrArg some same, abreast⟩
  apply Beside.get
  apply Beside.ite (abreast.kind_iff rfl)
  · exact documented context abreast
  · intro _
    apply (even_endOfLine context cursor twin abreast).bind
    rintro _ _ cursor twin ⟨_, abreast⟩
    apply Beside.get
    apply Beside.ite (abreast.kind_iff rfl)
    · exact documented _ abreast
    · exact fun _ => .pure ⟨rfl, abreast⟩

end Reader

/-- Two runs that are abreast answer the same and stay abreast, unless
something is reported. -/
def Recovery.Accordant {α : Type} (reader : Recovery α) (wording : Wording) :
    Prop :=
  ∀ cursor twin, wording.Abreast cursor twin →
    reader.Accords reader cursor twin (wording.Keeps Eq)

namespace Recovery

variable {cursor twin : Cursor}

theorem accordant_finishLine (context : String) :
    (Reader.finishLine context).Accordant wording := by
  intro cursor twin abreast
  have ends := Reader.even_endOfLine context cursor twin abreast
  refine Accords.run_after ends ?_ ?_
  · exact fun diagnostic _ => tells_reportAndSkipLine diagnostic
  · rintro _ _ after twinAfter ⟨_, abreast⟩
    exact .pure ⟨rfl, abreast⟩

theorem accordant_condition (context : String) :
    (Reader.condition context).Accordant wording := by
  intro cursor twin abreast
  have reads := Reader.grounded_expression.even cursor twin abreast
  refine Accords.run_after reads ?_ ?_
  · exact fun diagnostic _ => tells_synchronizeAfter diagnostic none
  · rintro value _ cursor twin ⟨rfl, abreast⟩
    have ends := Reader.even_endOfLine context cursor twin abreast
    refine Accords.run_after ends ?_ ?_
    · exact fun diagnostic _ => tells_synchronizeAfter diagnostic (some value)
    · rintro _ _ after twinAfter ⟨_, abreast⟩
      exact .pure ⟨rfl, abreast⟩

end Recovery

/-! ## Statements of one line -/

namespace Reader

theorem even_returnedValue : returnedValue.Even wording := by
  intro cursor twin abreast
  have same := abreast.endsLine
  unfold Kind.endsLine at same
  apply Beside.get
  dsimp only
  rw [same]
  apply Beside.ite Iff.rfl
  · exact fun _ => .pure ⟨rfl, abreast⟩
  · intro _
    apply (grounded_expression.even cursor twin abreast).bind
    rintro value _ after twinAfter ⟨rfl, abreast⟩
    exact .pure ⟨rfl, abreast⟩

theorem beside_lineEnd
    {α : Type} (context : String) (value : α) {cursor twin : Cursor}
    (abreast : wording.Abreast cursor twin) :
    Beside (do
        endOfLine context
        return value)
      (do
        endOfLine context
        return value)
      cursor twin (wording.Keeps Eq) := by
  apply (even_endOfLine context cursor twin abreast).bind
  rintro _ _ after twinAfter ⟨_, abreast⟩
  exact .pure ⟨rfl, abreast⟩

theorem even_returnStatement : returnStatement.Even wording := by
  intro cursor twin abreast
  apply (even_expect _ _ rfl cursor twin abreast).bind
  rintro keyword _ cursor twin ⟨rfl, abreast⟩
  apply (even_returnedValue cursor twin abreast).bind
  rintro value _ cursor twin ⟨rfl, abreast⟩
  apply Beside.get
  rw [abreast.spanFrom]
  exact beside_lineEnd _ _ abreast

theorem even_initialExpression : initialExpression.Even wording := by
  intro cursor twin abreast
  apply Beside.get
  apply Beside.ite (abreast.kind_iff rfl)
  · intro assign
    have here := isFixed_of_kind assign rfl
    apply Beside.take_fixed abreast here
    apply (grounded_expression.even _ _ (abreast.next here)).bind
    rintro value _ after twinAfter ⟨rfl, abreast⟩
    exact .pure ⟨rfl, abreast⟩
  · exact fun _ => .pure ⟨rfl, abreast⟩

theorem even_declareStatement : declareStatement.Even wording := by
  intro cursor twin abreast
  apply (even_typeName cursor twin abreast).bind
  rintro type _ cursor twin ⟨rfl, abreast⟩
  apply (even_identifier _ cursor twin abreast).bind
  rintro name _ cursor twin ⟨rfl, abreast⟩
  apply (even_initialExpression cursor twin abreast).bind
  rintro initial _ cursor twin ⟨rfl, abreast⟩
  apply Beside.get
  rw [abreast.spanFrom]
  exact beside_lineEnd _ _ abreast

theorem assignmentOperator?_of_abreast
    {cursor twin : Cursor} (abreast : wording.Abreast cursor twin) :
    twin.kind.assignmentOperator? = cursor.kind.assignmentOperator? := by
  rcases abreast.kinds with same | ⟨here, there⟩ | ⟨here, there⟩
  · rw [same]
  all_goals
    rw [here, there]
    rfl

/-- An assignment or an expression by itself is the same in both texts. -/
theorem even_assignmentOr (start : Position) (target : Expression) :
    (assignmentOr start target).Even wording := by
  intro cursor twin abreast
  apply Beside.get
  rw [assignmentOperator?_of_abreast abreast]
  split
  · rename_i operator found
    unfold assignment
    split
    · have here : cursor.kind.isFixed = true := by
        cases kind : cursor.kind with
        | keyword | symbol => rfl
        | _ => simp [kind, Kind.assignmentOperator?] at found
      apply Beside.take_fixed abreast here
      apply (grounded_expression.even _ _ (abreast.next here)).bind
      rintro value _ cursor twin ⟨rfl, abreast⟩
      apply Beside.get
      rw [assignmentOperator?_of_abreast abreast, abreast.spanFrom]
      split
      · exact .throw _ _
      · exact .pure ⟨rfl, abreast⟩
    · exact .throw _ _
  · exact .pure ⟨rfl, abreast⟩

theorem even_expressionStatement : expressionStatement.Even wording := by
  intro cursor twin abreast
  apply Beside.get
  apply (grounded_expression cursor twin abreast).bind
  rintro value _ middle twinMiddle ⟨fixed, rfl, abreastThen⟩
  rw [abreast.position fixed]
  apply (even_assignmentOr _ _ _ _ abreastThen).bind
  rintro statement _ after twinAfter ⟨rfl, abreast⟩
  exact beside_lineEnd _ _ abreast

end Reader

/-! ## Blocks -/

namespace Recovery

open Reader

variable {cursor twin : Cursor} {α β : Type}

theorem Accords.take_fixed {following twinFollowing : Token → Recovery β}
    {post : β → β → Cursor → Cursor → Prop}
    (abreast : wording.Abreast cursor twin)
    (fixed : cursor.kind.isFixed = true)
    (rest : (following cursor.current).Accords
      (twinFollowing cursor.current) cursor.next twin.next post) :
    Accords (advance >>= following) (advance >>= twinFollowing)
      cursor twin post := by
  refine Accords.take ?_
  rw [abreast.current fixed]
  exact rest

theorem accordant_loop {step : α → Recovery (Step α)}
    (proceeds : ∀ value cursor, (step value).Proceeds cursor)
    (steps : ∀ value {cursor twin}, wording.Abreast cursor twin →
      (step value).Accords (step value) cursor twin
        (Step.Both (wording.Keeps Eq) (wording.Keeps Eq)))
    (value : α) :
    Accordant (get >>= fun cursor => loop step cursor.budget value)
      wording := by
  intro cursor twin abreast
  refine Accords.loop (wording.Keeps Eq) proceeds proceeds ?_ ⟨rfl, abreast⟩
  rintro value _ cursor twin ⟨rfl, abreast⟩
  exact steps value abreast

theorem even_reportElseIfAfterElse (arms : Reader.Arms) (keyword : Token) :
    (reportElseIfAfterElse arms keyword).Even wording := by
  intro cursor twin abreast
  unfold reportElseIfAfterElse
  split
  · exact ⟨rfl, abreast.report _ _⟩
  · exact ⟨rfl, abreast⟩

theorem accordant_endOfLoop (opener : Token) :
    (endOfLoop opener).Accordant wording := by
  intro cursor twin abreast
  refine Accords.get ?_
  refine Accords.ite (abreast.kind_iff rfl) ?_ ?_
  · intro word
    have here := isFixed_of_kind word rfl
    refine Accords.take_fixed abreast here ?_
    exact accordant_finishLine _ _ _ (abreast.next here)
  · exact fun _ => (tells_reportUnterminated _ _).accords

section Body

variable {body : Block → Recovery (List Statement)}
  (accordant : ∀ block, (body block).Accordant wording)
  (travels : ∀ block cursor, (body block).Travels cursor)

include accordant travels

/-- An arm of a conditional is the same in both texts. -/
theorem accords_nextArm (opener : Token) (arms : Reader.Arms)
    (abreast : wording.Abreast cursor twin) :
    (nextArm body opener arms).Accords
      (nextArm body opener arms) cursor twin
        (Step.Both (wording.Keeps Eq) (wording.Keeps Eq)) := by
  have unfinished (cursor : Cursor) :
      Tells (do
        reportUnterminated .conditional opener
        return Step.done arms) cursor :=
    (tells_reportUnterminated _ _).bind fun _ _ => .pure _
  refine Accords.get ?_
  rcases abreast.kinds with same | ⟨here, there⟩ | ⟨here, there⟩
  · rw [same]
    split
    · rename_i word
      have here := isFixed_of_kind word rfl
      refine Accords.take_fixed abreast here ?_
      refine Accords.after
        (even_reportElseIfAfterElse _ _ _ _ (abreast.next here)) ?_
      rintro _ _ middle twinMiddle ⟨_, abreast⟩
      refine Accords.bind (accordant_condition _ _ _ abreast) ?_ ?_
      · exact fun found after =>
          (travels _ after).grows.bind fun _ _ => .get (.pure _)
      rintro found _ middle twinMiddle ⟨rfl, abreast⟩
      refine Accords.bind (accordant _ _ _ abreast) ?_ ?_
      · exact fun inside after => .get (.pure _)
      rintro inside _ after twinAfter ⟨rfl, abreast⟩
      refine Accords.get ?_
      rw [abreast.spanFrom]
      exact .pure ⟨rfl, abreast⟩
    · rename_i word
      have here := isFixed_of_kind word rfl
      have placed (token : Token) (inside : List Statement) (cursor : Cursor) :
          Grows (do
            if arms.otherwise.isSome then
              complain token.span.start .repeatedElse
              return Step.again arms
            else
              return Step.again { arms with otherwise := some inside })
            cursor := by
        split
        · exact (travels_complain rfl _).grows.bind fun _ _ => .pure _
        · exact .pure _
      refine Accords.take_fixed abreast here ?_
      refine Accords.bind
        (accordant_finishLine _ _ _ (abreast.next here)) ?_ ?_
      · exact fun _ after => (travels _ after).grows.bind (placed _)
      rintro _ _ middle twinMiddle ⟨_, abreast⟩
      refine Accords.bind (accordant _ _ _ abreast) (placed _) ?_
      rintro inside _ after twinAfter ⟨rfl, abreast⟩
      split
      · exact ((tells_complain _ _).bind fun _ _ => .pure _).accords
      · exact .pure ⟨rfl, abreast⟩
    · rename_i word
      have here := isFixed_of_kind word rfl
      refine Accords.take_fixed abreast here ?_
      refine Accords.bind
        (accordant_finishLine _ _ _ (abreast.next here)) ?_ ?_
      · exact fun _ _ => .pure _
      rintro _ _ after twinAfter ⟨_, abreast⟩
      exact .pure ⟨rfl, abreast⟩
    · exact (unfinished cursor).accords
  all_goals
    rw [here, there]
    exact (unfinished cursor).accords

/-- A conditional is the same in both texts. -/
theorem accords_conditionalStatement (abreast : wording.Abreast cursor twin)
    (found : cursor.kind = .keyword .ifThen) :
    (conditionalStatement body).Accords
      (conditionalStatement body) cursor twin (wording.Keeps Eq) := by
  have here := isFixed_of_kind found rfl
  have finished (keyword : Token) (arms : Reader.Arms) (cursor : Cursor) :
      Grows (do
        if arms.complete then
          let span := (← get).spanFrom keyword.span.start
          return some (Statement.conditional arms.branches arms.otherwise span)
        else
          return none) cursor := by
    split
    · exact .get (.pure _)
    · exact .pure _
  have arms (keyword : Token) := proceeds_nextArm travels keyword
  refine Accords.take_fixed abreast here ?_
  refine Accords.bind (accordant_condition _ _ _ (abreast.next here)) ?_ ?_
  · intro found after
    refine (travels _ after).grows.bind fun _ _ => .get (.get ?_)
    exact (travels_loop (arms _) _ _ _).grows.bind (finished _)
  rintro condition _ middle twinMiddle ⟨rfl, abreast⟩
  refine Accords.bind (accordant _ _ _ abreast) ?_ ?_
  · intro inside after
    refine .get (.get ?_)
    exact (travels_loop (arms _) _ _ _).grows.bind (finished _)
  rintro inside _ middle twinMiddle ⟨rfl, abreast⟩
  refine Accords.get ?_
  rw [abreast.spanFrom]
  have more (keyword : Token) := accordant_loop (arms keyword)
    fun found => accords_nextArm accordant travels keyword found
  refine Accords.bind_loop (more _ _ _ _ abreast) (finished _) ?_
  rintro arms _ after twinAfter ⟨rfl, abreast⟩
  split
  · apply Accords.get
    rw [abreast.spanFrom]
    exact .pure ⟨rfl, abreast⟩
  · exact .pure ⟨rfl, abreast⟩

/-- A loop is the same in both texts. -/
theorem accords_loopStatement (abreast : wording.Abreast cursor twin)
    (found : cursor.kind = .keyword .whileLoop) :
    (loopStatement body).Accords (loopStatement body) cursor
      twin (wording.Keeps Eq) := by
  have here := isFixed_of_kind found rfl
  refine Accords.take_fixed abreast here ?_
  refine Accords.bind (accordant_condition _ _ _ (abreast.next here)) ?_ ?_
  · intro found after
    refine (travels _ after).grows.bind fun inside after => ?_
    refine (travels_endOfLoop _ after).grows.bind fun _ after => ?_
    split
    · exact .get (.pure _)
    · exact .pure _
  rintro condition _ middle twinMiddle ⟨rfl, abreast⟩
  refine Accords.bind (accordant _ _ _ abreast) ?_ ?_
  · intro inside after
    refine (travels_endOfLoop _ after).grows.bind fun _ after => ?_
    split
    · exact .get (.pure _)
    · exact .pure _
  rintro inside _ middle twinMiddle ⟨rfl, abreast⟩
  refine Accords.bind (accordant_endOfLoop _ _ _ abreast) ?_ ?_
  · intro _ after
    split
    · exact .get (.pure _)
    · exact .pure _
  rintro _ _ after twinAfter ⟨_, abreast⟩
  split
  · refine Accords.get ?_
    rw [abreast.spanFrom]
    exact .pure ⟨rfl, abreast⟩
  · exact .pure ⟨rfl, abreast⟩

/-- A statement is the same in both texts. -/
theorem accords_statement (faces : wording.Faces cursor twin) :
    (statement body).Accords (statement body) cursor twin
      (wording.Keeps Eq) := by
  have abreast := faces.abreast
  have one {reader : Reader Statement} (even : reader.Even wording) :
      (some <$> reader).Beside (some <$> reader) cursor twin
        (wording.Keeps Eq) :=
    .map ((even cursor twin abreast).mono fun _ _ _ _ keeps =>
      ⟨congrArg some keeps.1, keeps.2⟩)
  refine Reader.Accords.get ?_
  rw [faces.kind, abreast.atVariableStart]
  split
  · rename_i word
    exact .lift (accords_conditionalStatement accordant travels abreast word)
  · rename_i word
    exact .lift (accords_loopStatement accordant travels abreast word)
  · exact (one even_returnStatement).accords
  · split
    · exact (one even_declareStatement).accords
    · exact (one even_expressionStatement).accords

/-- A line of a body is read alike in both texts. -/
theorem accords_bodyLine (block : Block) (statements : List Statement)
    (abreast : wording.Abreast cursor twin) :
    (bodyLine body block statements).Accords
      (bodyLine body block statements) cursor twin
        (Step.Both (wording.Keeps Eq) (wording.Keeps Eq)) := by
  refine Accords.after (beside_skipNewlines abreast) ?_
  intro _ _ cursor twin faces
  have abreast := faces.abreast
  refine Accords.get ?_
  dsimp only
  rw [faces.kind, abreast.atMemberStart, abreast.isClosedBy]
  refine Accords.ite Iff.rfl ?_ ?_
  · exact fun _ => .pure ⟨rfl, abreast⟩
  intro _
  refine Accords.ite Iff.rfl ?_ ?_
  · intro terminator
    refine Accords.ite Iff.rfl ?_ ?_
    · exact fun _ => .pure ⟨rfl, abreast⟩
    · intro _
      refine Accords.take ?_
      exact ((tells_complain _ _).bind fun _ _ => .pure _).accords
  intro _
  refine Accords.ite Iff.rfl ?_ ?_
  · intro doc
    exact Accords.take (.pure ⟨rfl, abreast.next_of_docComment doc⟩)
  intro _
  refine Accords.run_bind (accords_statement accordant travels faces)
    ?_ ?_ ?_
  · intro found after
    cases found <;> exact .pure _
  · exact fun diagnostic _ => tells_synchronizeAfter diagnostic _
  · rintro (_ | found) _ after twinAfter ⟨rfl, abreast⟩
    · exact .pure ⟨rfl, abreast⟩
    · exact .pure ⟨rfl, abreast⟩

end Body

theorem accordant_bodyWithin (bound : List Token) (block : Block) :
    (bodyWithin bound block).Accordant wording := by
  induction bound generalizing block with
  | nil => exact fun cursor twin abreast => .pure ⟨rfl, abreast⟩
  | cons _ bound ih =>
    intro cursor twin abreast
    have travels := travels_bodyWithin bound
    have lines := accordant_loop (proceeds_bodyLine travels block)
      (fun found => accords_bodyLine ih travels block found)
      [] _ _ (abreast.enter block)
    refine Accords.inBlock (lines.mono ?_)
    exact fun _ _ _ _ keeps => ⟨keeps.1, keeps.2.leave⟩

/-- A body is read the same, unless something is reported. -/
theorem accordant_body (block : Block) :
    (Reader.body block).Accordant wording := by
  intro cursor twin abreast
  -- one bound that is enough for both runs
  have enough (cursor : Cursor) (bound : List Token)
      (inside : cursor.budget.length ≤ bound.length) :
      (Reader.body block).run cursor = (bodyWithin bound block).run cursor := by
    rw [run_body_eq]
    exact agreeWithin_bodyWithin (Nat.le_refl _) inside block cursor
      (Nat.le_refl _)
  exact (accordant_bodyWithin (cursor.budget ++ twin.budget) block cursor twin
    abreast).congr (enough _ _ (by simp)) (enough _ _ (by simp))

end Recovery

end PapyrusScript
