import PapyrusScript.Proofs.Matching.Expression

/-!
# Matching recovery and statements

Discarding a token is where a place decides something: an invalid token is
reported unless the last lexical report was at its place.  Two runs decide the
same if in each row no two invalid tokens share a place.  If not, the runs may
differ in what they report, but still not in where they go.

Over tokens that stand for each other, bodies with the same statements up to
places are read.  A body is read by a reader whose number of levels depends on
the tokens that are left, so the readers below take one body reader for each of
the two runs.
-/

namespace PapyrusScript

variable {pairing : Pairing}

/-- A token is discarded with a report in both runs or in neither. -/
theorem Pairing.Resembles.discard
    {cursor twin : Cursor} (alike : pairing.Resembles cursor twin) :
    pairing.Resembles cursor.discard twin.discard := by
  by_cases distinct : pairing.Distinct
  · have same : (twin.kind.isInvalid &&
          twin.lastLexical ≠ some twin.position) =
        (cursor.kind.isInvalid &&
          cursor.lastLexical ≠ some cursor.position) := by
      rw [alike.kind]
      by_cases invalid : cursor.kind.isInvalid = true
      · have place := alike.lexical distinct _ _ alike.current invalid
        rw [invalid, Bool.true_and, Bool.true_and, decide_eq_decide]
        exact not_congr place.symm
      · simp [invalid]
    unfold Cursor.discard
    rw [same]
    split
    · exact alike.next.report (tells_unexpected alike.current "")
    · exact alike.next
  · have places := alike.next
    exact
      { budget := by
          rw [Cursor.budget_discard, Cursor.budget_discard]
          exact places.budget
        lastEnd := by
          intro still
          rw [Cursor.lastEnd_discard, Cursor.lastEnd_discard]
          exact places.lastEnd still
        openBlocks := by
          rw [Cursor.openBlocks_discard, Cursor.openBlocks_discard,
            alike.openBlocks]
        lexical := fun given => absurd given distinct
        reported := fun given => absurd given distinct }

/-! ## Ends of lines -/

namespace Reader

theorem matches_endOfLine (context : String) :
    (endOfLine context).Matches pairing (endOfLine context)
      fun _ _ => True := by
  apply Matches.get
  intro cursor twin alike
  rw [alike.kind]
  split
  · apply Matches.take
    exact fun _ _ _ => .pure trivial
  · exact .pure trivial
  · exact matches_reject _

/-- A declaration ends with the same comment in both rows. -/
theorem matches_endOfDeclaration (context : String) :
    (endOfDeclaration context).Matches pairing (endOfDeclaration context)
      fun doc twin => twin = doc := by
  have comment {cursor twin : Cursor} (alike : pairing.Resembles cursor twin)
      (documented : cursor.kind = .docComment) :
      some twin.current.text = some cursor.current.text :=
    congrArg some (pairing.text alike.current
      (show cursor.kind.isKeyword = false by rw [documented]; rfl))
  apply Matches.look
  intro cursor twin alike
  rw [alike.kind]
  split
  · rename_i documented
    refine .take alike ((matches_endOfLine _).bind fun _ _ _ => .pure ?_)
    exact comment alike documented
  · refine Matches.bind (matches_endOfLine _) (fun _ _ _ => .look ?_) _ _ alike
    intro cursor twin alike
    rw [alike.kind]
    split
    · rename_i documented
      refine .take alike ((matches_endOfLine _).bind fun _ _ _ => .pure ?_)
      exact comment alike documented
    · exact Matches.pure rfl _ _ alike

end Reader

/-! ## Discarding -/

namespace Recovery

open Reader

theorem matches_discard : discard.Matches pairing discard pairing.pairs := by
  intro cursor twin alike
  have here := (ends_discard fun token after =>
    token = cursor.current ∧ after = cursor.discard).2 ⟨rfl, rfl⟩
  have there := (ends_discard fun token after =>
    token = twin.current ∧ after = twin.discard).2 ⟨rfl, rfl⟩
  rw [MatchesAt, here.1, here.2, there.1, there.2]
  exact ⟨alike.current, alike.discard⟩

theorem matches_skipNewlines :
    skipNewlines.Matches pairing skipNewlines fun _ _ => True := by
  apply Matches.get
  intro cursor twin alike
  refine .loop ?_ alike.length trivial
  intro _ _ _
  apply Matches.get
  intro cursor twin alike
  apply Matches.ite (by rw [alike.kind])
  · intro _
    apply Matches.take
    exact fun _ _ _ => .pure trivial
  · exact fun _ => .pure trivial

/-- Discarding a line ends at tokens that stand for each other. -/
theorem matches_skipLine :
    skipLine.Matches pairing skipLine fun _ _ => True := by
  apply Matches.get
  intro cursor twin alike
  refine .loop ?_ alike.length trivial
  intro _ _ _
  apply Matches.get
  intro cursor twin alike
  apply Matches.ite (by rw [alike.kind])
  · exact fun _ => .pure trivial
  · intro _
    apply matches_discard.bind
    intro token twin pair
    rw [pairing.kind pair]
    split <;> exact .pure trivial

theorem matches_reportAndSkipLine
    {diagnostic twin : Diagnostic} (tells : pairing.Tells diagnostic twin) :
    (reportAndSkipLine diagnostic).Matches pairing (reportAndSkipLine twin)
      fun _ _ => True :=
  .report tells matches_skipLine

theorem matches_finishLine (context : String) :
    (finishLine context).Matches pairing (finishLine context)
      fun _ _ => True := by
  apply Matches.run_bind (matches_endOfLine context)
  · exact fun _ _ _ => .pure trivial
  · exact fun _ _ tells => matches_reportAndSkipLine tells

/-- Discarding a statement ends at tokens that stand for each other. -/
theorem matches_synchronize :
    synchronize.Matches pairing synchronize fun _ _ => True := by
  apply Matches.get
  intro cursor twin alike
  refine .loop ?_ alike.length trivial
  intro _ _ _
  apply Matches.get
  intro cursor twin alike
  rw [alike.kind]
  split
  · apply Matches.take
    exact fun _ _ _ => .pure trivial
  · exact .pure trivial
  · split
    · exact .pure trivial
    · apply matches_discard.bind
      exact fun _ _ _ => .pure trivial

/-- The next member starts at tokens that stand for each other. -/
theorem matches_recoverToMember :
    recoverToMember.Matches pairing recoverToMember fun _ _ => True := by
  apply matches_skipLine.bind
  intro _ _ _
  apply Matches.get
  intro cursor twin alike
  refine .loop ?_ alike.length trivial
  intro _ _ _
  apply matches_skipNewlines.bind
  intro _ _ _
  apply Matches.get
  intro cursor twin alike
  rw [alike.kind, alike.atDeclaration]
  apply Matches.ite Iff.rfl
  · exact fun _ => .pure trivial
  · intro _
    apply matches_skipLine.bind
    exact fun _ _ _ => .pure trivial

theorem isNestedMember_of_resembles
    {cursor twin : Cursor} (alike : pairing.Resembles cursor twin)
    (block : Block) :
    isNestedMember block twin = isNestedMember block cursor := by
  unfold isNestedMember
  rw [alike.atFunctionStart, alike.kind]

/-- A body that is skipped ends at tokens that stand for each other. -/
theorem matches_skipBody (block : Block) :
    (skipBody block).Matches pairing (skipBody block) fun _ _ => True := by
  apply Matches.get
  intro cursor twin alike
  refine .loop ?_ alike.length trivial
  intro _ _ _
  apply matches_skipNewlines.bind
  intro _ _ _
  apply Matches.get
  intro cursor twin alike
  rw [alike.kind, alike.atMemberStart, alike.isClosedBy,
    isNestedMember_of_resembles alike]
  apply Matches.ite Iff.rfl
  · intro _
    apply matches_skipLine.bind
    exact fun _ _ _ => .pure trivial
  · intro _
    apply Matches.ite Iff.rfl
    · exact fun _ => .pure trivial
    · intro _
      apply matches_skipLine.bind
      exact fun _ _ _ => .pure trivial

/-- A member that is skipped ends at tokens that stand for each other. -/
theorem matches_skipMember (block? : Option Block) :
    (skipMember block?).Matches pairing (skipMember block?)
      fun _ _ => True := by
  unfold skipMember
  split
  · apply Matches.get
    intro cursor twin alike
    apply Matches.ite (by rw [alike.openBlocks])
    · exact fun _ => matches_recoverToMember
    · exact fun _ => matches_skipLine
  · apply matches_skipLine.bind
    intro _ _ _
    apply matches_skipNewlines.bind
    intro _ _ _
    apply Matches.get
    intro cursor twin alike
    apply Matches.ite (by rw [alike.atFunctionStart])
    · exact fun _ => .pure trivial
    · exact fun _ => matches_skipBody _

/-- A missing end of a block is reported alike, except for the line where the
block was opened. -/
theorem matches_reportUnterminated (block : Block) {opener twin : Token}
    (still : pairing.Still → twin.span = opener.span) :
    (reportUnterminated block opener).Matches pairing
      (reportUnterminated block twin) fun _ _ => True := by
  apply Matches.get
  intro cursor twinCursor alike
  rw [alike.kind]
  exact matches_report (Pairing.tells_unterminated block _ still)

/-- An error is reported, the rest of a statement discarded, and what has
been found before is left. -/
theorem matches_synchronizeAfter
    {α : Type} {same : α → α → Prop} {value twin : α}
    {diagnostic other : Diagnostic} (tells : pairing.Tells diagnostic other)
    (holds : same value twin) :
    Matches
      (do
        report diagnostic
        synchronize
        return value) pairing
      (do
        report other
        synchronize
        return twin) same := by
  apply Matches.report tells
  apply matches_synchronize.bind
  exact fun _ _ _ => .pure holds

/-- An error is reported, the rest of the line discarded, and what has been
found before is left. -/
theorem matches_skipLineAfter {α : Type} {same : α → α → Prop} {value twin : α}
    {diagnostic other : Diagnostic} (tells : pairing.Tells diagnostic other)
    (holds : same value twin) :
    Matches
      (do
        reportAndSkipLine diagnostic
        return value) pairing
      (do
        reportAndSkipLine other
        return twin) same := by
  apply (matches_reportAndSkipLine tells).bind
  exact fun _ _ _ => .pure holds

end Recovery

/-! ## Bare statements -/

namespace Statement

theorem bareBody_eq_map (found : List Statement) :
    bareBody found = found.map bare := by
  induction found with
  | nil => rfl
  | cons statement rest ih =>
    rw [bareBody, List.map_cons, ih]

theorem bareBranches_eq_map (found : List (Branch Statement)) :
    bareBranches found = found.map bareBranch := by
  induction found with
  | nil => rfl
  | cons branch rest ih =>
    rw [bareBranches, List.map_cons, ih]

theorem bareOtherwise_eq_map (found : Option (List Statement)) :
    bareOtherwise found = found.map bareBody := by
  cases found <;> rfl

end Statement

/-- What has been read of two conditionals is the same up to places. -/
structure Reader.Arms.Same (arms twin : Arms) : Prop where
  branches : SameBy (List.map Statement.bareBranch) arms.branches twin.branches
  otherwise :
    SameBy (Option.map Statement.bareBody) arms.otherwise twin.otherwise
  complete : twin.complete = arms.complete

theorem Reader.Arms.Same.conditional
    {arms twin : Reader.Arms} (same : arms.Same twin) (span twinSpan : Span) :
    SameBy Statement.bare
      (.conditional arms.branches arms.otherwise span)
      (.conditional twin.branches twin.otherwise twinSpan) := by
  have branches := same.branches
  have otherwise := same.otherwise
  rw [SameBy, ← Statement.bareBranches_eq_map,
    ← Statement.bareBranches_eq_map] at branches
  rw [SameBy, ← Statement.bareOtherwise_eq_map,
    ← Statement.bareOtherwise_eq_map] at otherwise
  exact congrArg₂ (Statement.conditional · · .nowhere) branches otherwise

theorem Reader.Arms.Same.isSome
    {arms twin : Reader.Arms} (same : arms.Same twin) :
    twin.otherwise.isSome = arms.otherwise.isSome := by
  simpa using congrArg Option.isSome same.otherwise

/-- One arm more is the same up to places, if its parts are. -/
theorem Reader.Arms.Same.add
    {arms twin : Reader.Arms} (same : arms.Same twin)
    {found twinFound : Option Expression}
    (sameFound : SameBy (Option.map Expression.bare) found twinFound)
    {inside twinInside : List Statement}
    (sameInside : SameBy Statement.bareBody inside twinInside)
    (span twinSpan : Span) :
    (arms.add found inside span).Same
      (twin.add twinFound twinInside twinSpan) := by
  have last := same.isSome
  cases found with
  | none =>
    obtain rfl : twinFound = none := by simpa [SameBy] using sameFound
    exact ⟨same.branches, same.otherwise, rfl⟩
  | some condition =>
    cases twinFound with
    | none => cases sameFound
    | some twinCondition =>
      have sameCondition : twinCondition.bare = condition.bare :=
        Option.some.inj sameFound
      by_cases closed : arms.otherwise.isSome = true
      · have twinClosed := last.trans closed
        simp only [Arms.add, if_pos closed, if_pos twinClosed]
        exact same
      · have twinOpen : ¬ twin.otherwise.isSome = true := by rwa [last]
        simp only [Arms.add, if_neg closed, if_neg twinOpen]
        refine ⟨same.branches.concat ?_, same.otherwise, same.complete⟩
        exact congrArg₂ (Branch.mk · · .nowhere) sameCondition sameInside

namespace Reader

/-! ## Statements in one line -/

theorem matches_returnedValue :
    returnedValue.Matches pairing returnedValue
      (pairing.Twins (Option.map Expression.bare)) := by
  apply Matches.get
  intro cursor twin alike
  dsimp only
  rw [alike.kind]
  apply Matches.ite Iff.rfl
  · exact fun _ => .pure (.refl _ _)
  · intro _
    apply matches_expression.bind
    exact fun value twin same => .pure same.some

theorem matches_returnStatement :
    returnStatement.Matches pairing returnStatement
      (pairing.Twins Statement.bare) := by
  apply (matches_expect _ _).bind
  intro keyword twinKeyword opens
  apply matches_returnedValue.bind
  intro value twinValue same
  apply Matches.get
  intro cursor twin alike
  apply (matches_endOfLine _).bind
  intro _ _ _
  apply Matches.pure
  refine ⟨congrArg (Statement.result · .nowhere) same.known, fun still => ?_⟩
  rw [same.equal still, pairing.span still opens, alike.spanFrom still]

theorem matches_initialExpression :
    initialExpression.Matches pairing initialExpression
      (pairing.Twins (Option.map Expression.bare)) := by
  apply Matches.get
  intro cursor twin alike
  apply Matches.ite (by rw [alike.kind])
  · intro _
    apply Matches.take
    intro _ _ _
    apply matches_expression.bind
    exact fun value twin same => .pure same.some
  · exact fun _ => .pure (.refl _ _)

/-- A local declaration is the same up to places. -/
theorem matches_declareStatement :
    declareStatement.Matches pairing declareStatement
      (pairing.Twins Statement.bare) := by
  apply matches_typeName.bind
  intro type twinType sameType
  apply (matches_identifier _).bind
  intro name twinName sameName
  apply matches_initialExpression.bind
  intro initial twinInitial sameInitial
  apply Matches.get
  intro cursor twin alike
  apply (matches_endOfLine _).bind
  intro _ _ _
  apply Matches.pure
  refine ⟨?_, fun still => ?_⟩
  · rw [SameBy, Statement.bare, Statement.bare, sameType.known,
      sameName.known, sameInitial.known]
  · rw [sameType.equal still, sameName.equal still, sameInitial.equal still,
      alike.spanFrom still]

/-- An assignment is the same up to places, if its target is. -/
theorem matches_assignment
    {target twin : Expression} (same : pairing.Twins Expression.bare target twin)
    {start twinStart : Position} (starts : pairing.Still → twinStart = start)
    (operator : AssignmentOperator) :
    (assignment start target operator).Matches pairing
      (assignment twinStart twin operator) (pairing.Twins Statement.bare) := by
  unfold assignment
  rw [Expression.isAssignable_of_sameBy same.known]
  apply Matches.ite Iff.rfl
  · intro _
    apply Matches.take
    intro _ _ _
    apply matches_expression.bind
    intro value twinValue sameValue
    apply Matches.get
    intro cursor twinCursor alike
    rw [alike.kind]
    apply Matches.ite Iff.rfl
    · exact fun _ => matches_throw_of_syntactic rfl alike.position
    · intro _
      apply Matches.pure
      refine ⟨congrArg₂ (Statement.assign · operator · .nowhere) same.known
        sameValue.known, fun still => ?_⟩
      rw [same.equal still, sameValue.equal still, starts still,
        alike.spanFrom still]
  · intro _
    exact matches_throw_of_syntactic rfl fun still => by rw [same.equal still]

/-- An assignment or an expression by itself is the same up to places. -/
theorem matches_expressionStatement :
    expressionStatement.Matches pairing expressionStatement
      (pairing.Twins Statement.bare) := by
  apply Matches.get
  intro cursor twin here
  apply matches_expression.bind
  intro value twinValue same
  have assigned : (assignmentOr cursor.position value).Matches pairing
      (assignmentOr twin.position twinValue) (pairing.Twins Statement.bare) := by
    apply Matches.get
    intro after twinAfter alike
    rw [alike.kind]
    split
    · exact matches_assignment same here.position _
    · apply Matches.pure
      refine ⟨congrArg (Statement.expression · .nowhere) same.known,
        fun still => ?_⟩
      rw [same.equal still]
  apply assigned.bind
  intro statement twinStatement sameStatement
  apply (matches_endOfLine _).bind
  exact fun _ _ _ => .pure sameStatement

end Reader

namespace Recovery

open Reader

theorem matches_condition (context : String) :
    (condition context).Matches pairing (condition context)
      (pairing.Twins (Option.map Expression.bare)) := by
  apply Matches.run_bind matches_expression
  · intro value twin same
    apply Matches.run_bind (matches_endOfLine _)
    · exact fun _ _ _ => .pure same.some
    · exact fun _ _ tells => matches_synchronizeAfter tells same.some
  · exact fun _ _ tells => matches_synchronizeAfter tells (.refl _ _)

/-! ## Conditionals and loops -/

/-- A relation of what has been read of two conditionals that further arms
keep. -/
structure ArmsGrow (pairing : Pairing) (same : Arms → Arms → Prop) : Prop where
  isSome : ∀ {arms twin}, same arms twin →
    twin.otherwise.isSome = arms.otherwise.isSome
  add : ∀ {arms twin}, same arms twin → ∀ {found twinFound},
    pairing.Twins (Option.map Expression.bare) found twinFound →
      ∀ {inside twinInside},
        pairing.Twins Statement.bareBody inside twinInside →
          ∀ {span twinSpan}, (pairing.Still → twinSpan = span) →
            same (arms.add found inside span)
              (twin.add twinFound twinInside twinSpan)
  otherwise : ∀ {arms twin}, same arms twin →
    arms.otherwise.isSome = false → ∀ {inside twinInside},
      pairing.Twins Statement.bareBody inside twinInside →
        same { arms with otherwise := some inside }
          { twin with otherwise := some twinInside }

theorem armsGrow_same : ArmsGrow pairing (pairing.Same Arms.Same) where
  isSome same := same.known.isSome
  add same _ _ sameFound _ _ sameInside _ _ spans :=
    ⟨same.known.add sameFound.known sameInside.known _ _, fun still => by
      rw [same.equal still, sameFound.equal still, sameInside.equal still,
        spans still]⟩
  otherwise same _ _ _ sameInside :=
    ⟨⟨same.known.branches, sameInside.known.some, same.known.complete⟩,
      fun still => by rw [same.equal still, sameInside.equal still]⟩

theorem matches_endOfLoop {opener twinOpener : Token}
    (opens : pairing.Still → twinOpener.span = opener.span) :
    (endOfLoop opener).Matches pairing (endOfLoop twinOpener)
      fun _ _ => True := by
  apply Matches.get
  intro cursor twin alike
  apply Matches.ite (by rw [alike.kind])
  · intro _
    apply Matches.take
    exact fun _ _ _ => matches_finishLine _
  · exact fun _ => matches_reportUnterminated _ opens

section Bodies

variable {body twinBody : Block → Recovery (List Statement)}
  (both : ∀ block, (body block).Matches pairing (twinBody block)
    (pairing.Twins Statement.bareBody))
include both

/-- An arm of a conditional keeps what is known of both runs. -/
theorem matches_nextArm
    {related : Arms → Arms → Prop} (grow : ArmsGrow pairing related)
    {opener twinOpener : Token}
    (opens : pairing.Still → twinOpener.span = opener.span)
    {arms twin : Arms} (same : related arms twin) :
    (nextArm body opener arms).Matches pairing
      (nextArm twinBody twinOpener twin) (Step.Decides related) := by
  have last := grow.isSome same
  apply Matches.get
  intro cursor twinCursor alike
  rw [alike.kind]
  split
  · apply Matches.take
    intro token twinToken pair
    have reported : (reportElseIfAfterElse arms token).Matches pairing
        (reportElseIfAfterElse twin twinToken) fun _ _ => True := by
      unfold reportElseIfAfterElse
      rw [last]
      apply Matches.ite Iff.rfl
      · exact fun _ => matches_complain rfl fun still => by rw [pairing.span still pair]
      · exact fun _ => .pure trivial
    apply reported.bind
    intro _ _ _
    apply (matches_condition _).bind
    intro found twinFound sameFound
    apply (both _).bind
    intro inside twinInside sameInside
    apply Matches.get
    intro after twinAfter later
    apply Matches.pure
    refine grow.add same sameFound sameInside fun still => ?_
    rw [pairing.span still pair, later.spanFrom still]
  · apply Matches.take
    intro token twinToken pair
    apply (matches_finishLine _).bind
    intro _ _ _
    apply (both _).bind
    intro inside twinInside sameInside
    rw [last]
    apply Matches.ite Iff.rfl
    · intro _
      apply (matches_complain rfl fun still => by rw [pairing.span still pair]).bind
      exact fun _ _ _ => .pure same
    · intro unclosed
      exact .pure (grow.otherwise same (by simpa using unclosed) sameInside)
  · apply Matches.take
    intro _ _ _
    apply (matches_finishLine _).bind
    exact fun _ _ _ => .pure same
  · apply (matches_reportUnterminated _ opens).bind
    exact fun _ _ _ => .pure same

/-- A conditional is the same up to places. -/
theorem matches_conditionalStatement :
    (conditionalStatement body).Matches pairing
      (conditionalStatement twinBody)
      (pairing.Twins (Option.map Statement.bare)) := by
  apply Matches.take
  intro keyword twinKeyword pair
  have opens (still : pairing.Still) : twinKeyword.span = keyword.span :=
    pairing.span still pair
  apply (matches_condition _).bind
  intro found twinFound sameFound
  apply (both _).bind
  intro inside twinInside sameInside
  apply Matches.get
  intro here twinHere soFar
  apply Matches.get
  intro cursor twin alike
  have blank : pairing.Same Arms.Same (Arms.mk [] none true)
      (Arms.mk [] none true) :=
    ⟨⟨rfl, rfl, rfl⟩, fun _ => rfl⟩
  have first := armsGrow_same.add blank sameFound sameInside
    (show pairing.Still → twinHere.spanFrom twinKeyword.span.start =
        here.spanFrom keyword.span.start from fun still => by
      rw [opens still, soFar.spanFrom still])
  apply (Matches.loop (fun _ _ => matches_nextArm both armsGrow_same opens)
    alike.length first).bind
  intro arms twinArms same
  apply Matches.ite (by rw [same.known.complete])
  · intro _
    apply Matches.get
    intro after twinAfter later
    apply Matches.pure
    apply Pairing.Twins.some
    refine ⟨same.known.conditional _ _, fun still => ?_⟩
    rw [same.equal still, opens still, later.spanFrom still]
  · exact fun _ => .pure (.refl _ _)

/-- A loop is the same up to places. -/
theorem matches_loopStatement :
    (loopStatement body).Matches pairing (loopStatement twinBody)
      (pairing.Twins (Option.map Statement.bare)) := by
  apply Matches.take
  intro keyword twinKeyword pair
  apply (matches_condition _).bind
  intro found twinFound sameFound
  apply (both _).bind
  intro inside twinInside sameInside
  apply (matches_endOfLoop fun still => pairing.span still pair).bind
  intro _ _ _
  cases sameFound.option with
  | none => exact .pure (.refl _ _)
  | some sameCondition =>
    apply Matches.get
    intro after twinAfter later
    apply Matches.pure
    apply Pairing.Twins.some
    refine ⟨congrArg₂ (Statement.loop · · .nowhere) sameCondition.known
      sameInside.known, fun still => ?_⟩
    rw [sameCondition.equal still, sameInside.equal still, pairing.span still pair,
      later.spanFrom still]

theorem matches_statement :
    (statement body).Matches pairing (statement twinBody)
      (pairing.Twins (Option.map Statement.bare)) := by
  apply Reader.Matches.get
  intro cursor twin alike
  rw [alike.kind, alike.atVariableStart]
  split
  · exact .lift (matches_conditionalStatement both)
  · exact .lift (matches_loopStatement both)
  · exact .map (matches_returnStatement.mono fun _ _ same => same.some)
  · split
    · exact .map (matches_declareStatement.mono fun _ _ same => same.some)
    · exact .map (matches_expressionStatement.mono fun _ _ same => same.some)

/-- A line of a body keeps what is known of both runs. -/
theorem matches_bodyLine {related : List Statement → List Statement → Prop}
    (grow : ∀ {found twin statement other}, related found twin →
      pairing.Twins Statement.bare statement other →
        related (found ++ [statement]) (twin ++ [other]))
    (block : Block) {found twin : List Statement}
    (same : related found twin) :
    (bodyLine body block found).Matches pairing
      (bodyLine twinBody block twin) (Step.Decides related) := by
  apply matches_skipNewlines.bind
  intro _ _ _
  apply Matches.get
  intro cursor twinCursor alike
  dsimp only
  rw [alike.kind, alike.atMemberStart, alike.isClosedBy]
  apply Matches.ite Iff.rfl
  · exact fun _ => .pure same
  · intro _
    apply Matches.ite Iff.rfl
    · intro _
      apply Matches.ite Iff.rfl
      · exact fun _ => .pure same
      · intro _
        apply Matches.take
        intro _ _ pair
        apply (matches_complain rfl fun still => by rw [pairing.span still pair]).bind
        exact fun _ _ _ => .pure same
    · intro _
      apply Matches.ite Iff.rfl
      · intro _
        apply Matches.take
        exact fun _ _ _ => .pure same
      · intro _
        apply Matches.run_bind (matches_statement both)
        · intro next twinNext sameNext
          cases sameNext.option with
          | none => exact .pure same
          | some sameStatement => exact .pure (grow same sameStatement)
        · exact fun _ _ tells => matches_synchronizeAfter tells same

end Bodies

/-- Bodies with the same bound are the same up to places. -/
theorem matches_bodyWithin {budget twinBudget : List Token}
    (length : twinBudget.length = budget.length) (block : Block) :
    (bodyWithin budget block).Matches pairing (bodyWithin twinBudget block)
      (pairing.Twins Statement.bareBody) := by
  induction budget generalizing twinBudget block with
  | nil =>
    obtain rfl := List.eq_nil_of_length_eq_zero length
    exact .pure (.refl _ _)
  | cons _ budget ih =>
    cases twinBudget with
    | nil => cases length
    | cons _ twinBudget =>
      rw [List.length_cons, List.length_cons, Nat.succ.injEq] at length
      apply Matches.inBlock
      apply Matches.get
      intro cursor twin alike
      have line (found twinFound : List Statement)
          (same : pairing.Twins (List.map Statement.bare) found twinFound) :=
        matches_bodyLine (ih length) Pairing.Twins.concat block same
      apply (Matches.loop line alike.length (.refl _ _)).mono
      intro found twinFound same
      refine ⟨?_, same.equal⟩
      rw [SameBy, Statement.bareBody_eq_map, Statement.bareBody_eq_map]
      exact same.known

theorem matches_body (block : Block) :
    (body block).Matches pairing (body block)
      (pairing.Twins Statement.bareBody) := by
  apply Matches.get
  intro cursor twin alike
  exact matches_bodyWithin alike.length block

end Recovery

end PapyrusScript
