import PapyrusScript.Proofs.Alongside.Declaration

/-!
# Members and the header of a script along a row

Recovery passes whole lines and looks at what the next one starts with, so it
may use up the row and stop there without a trace.  But nothing is recovered
from unless it has been reported, and then the report shows.

Between two declarations of a script nothing is open.  So the end of a row is
no mark there by itself: it is one only if the text goes on.

A header that is broken is reported, and from then on it does not matter what
else the two runs have in common.  So a run that reports nothing reads its
header as any other run along the row does.
-/

namespace PapyrusScript

variable {fork : Fork} {cursor twin : Cursor}

namespace Recovery

open Reader

/-! ## Skipping lines and bodies -/

theorem keeps_of_proceeds {α : Type} {step : Recovery (Step α)}
    (proceeds : step.Proceeds cursor) (left : fork.Left cursor) :
    step.Ends cursor (Step.Settles (fun _ => fork.Left) fun _ => fork.Left) := by
  apply (proceeds.travels.grows.left left).mono
  intro decision after left
  cases decision <;> exact left

theorem agreesUnless_discardToMember
    (value : Unit) (along : fork.Along cursor twin) :
    (discardToMember value).AgreesUnless
      (Step.Settles (fun _ => fork.Left) fun _ => fork.Left) cursor twin
      (Step.Parts (fun _ => fork.Along) fun _ => fork.Along) := by
  apply agreesUnless_afterNewlines along
  · intro cursor twin amid
    apply AgreesUnless.look (by simp only [amid.kind, amid.atDeclaration])
    right
    split
    · exact .pure amid.along
    · exact (agrees_skipLine amid).bind fun _ _ _ along => .pure along
  · exact fun cursor left =>
      keeps_of_proceeds (proceeds_discardToMember value cursor) left

theorem agreesUnless_recoverToMember (amid : fork.Amid cursor twin) :
    recoverToMember.AgreesUnless (fun _ => fork.Left) cursor twin
      fun _ => fork.Along := by
  apply (agrees_skipLine amid).bindUnless
  intro _ cursor twin along
  exact .loop (fun _ => fork.Along) fork.Left proceeds_discardToMember
    (fun value _ _ along => agreesUnless_discardToMember value along)
    (fun value cursor left =>
      keeps_of_proceeds (proceeds_discardToMember value cursor) left) along

theorem isNestedMember_of_amid (amid : fork.Amid cursor twin) (block : Block) :
    isNestedMember block twin = isNestedMember block cursor := by
  unfold isNestedMember
  rw [amid.kind, amid.atFunctionStart]

/-- Discarding a line of a body may use up the row. -/
theorem agreesUnless_discardInBody
    (block : Block) (value : Unit) (along : fork.Along cursor twin) :
    (discardInBody block value).AgreesUnless
      (Step.Settles (fun _ => fork.Left) fun _ => fork.Left) cursor twin
      (Step.Parts (fun _ => fork.Along) fun _ => fork.Along) := by
  apply agreesUnless_afterNewlines along
  · intro cursor twin amid
    apply AgreesUnless.look (by
      simp only [amid.kind, amid.atMemberStart, amid.along.isClosedBy,
        isNestedMember_of_amid amid])
    right
    split
    · exact (agrees_skipLine amid).bind fun _ _ _ along => .pure along
    · split
      · exact .pure amid.along
      · exact (agrees_skipLine amid).bind fun _ _ _ along => .pure along
  · exact fun cursor left =>
      keeps_of_proceeds (proceeds_discardInBody block value cursor) left

theorem agreesUnless_skipBody (block : Block) (along : fork.Along cursor twin) :
    (skipBody block).AgreesUnless (fun _ => fork.Left) cursor twin
      fun _ => fork.Along :=
  .loop (fun _ => fork.Along) fork.Left (proceeds_discardInBody block)
    (fun value _ _ along => agreesUnless_discardInBody block value along)
    (fun value cursor left =>
      keeps_of_proceeds (proceeds_discardInBody block value cursor) left)
    along

/-- Discarding a member may use up the row without a trace. -/
theorem agreesUnless_skipMember
    (block? : Option Block) (amid : fork.Amid cursor twin) :
    (skipMember block?).AgreesUnless (fun _ => fork.Left) cursor twin
      fun _ => fork.Along := by
  cases block? with
  | none =>
    apply AgreesUnless.look (by simp only [amid.along.openBlocks])
    split
    · exact agreesUnless_recoverToMember amid
    · exact .inr (agrees_skipLine amid)
  | some block =>
    apply (agrees_skipLine amid).bindUnless
    intro _ cursor twin along
    apply agreesUnless_afterNewlines along
    · intro cursor twin amid
      apply AgreesUnless.look (by simp only [amid.atFunctionStart])
      split
      · exact .inr (.pure amid.along)
      · exact agreesUnless_skipBody block amid.along
    · exact fun cursor left =>
        (travels_afterBrokenLine block cursor).grows.left left

/-- What is done after a report leaves the row with a mark. -/
theorem agreesUnless_afterReport
    {α : Type} {lost : α → Cursor → Prop} {post : α → Cursor → Cursor → Prop}
    {diagnostic : Diagnostic} {reader : Recovery Unit} {value : α}
    (fails : fork.Fails diagnostic cursor twin)
    (agrees : ∀ cursor twin, fork.Amid cursor twin →
      reader.AgreesUnless (fun _ => fork.Left) cursor twin
        fun _ => fork.Along)
    (grows : ∀ cursor, reader.Grows cursor)
    (onLost : ∀ after, fork.Marked after → lost value after)
    (onBoth : ∀ after twinAfter, fork.Along after twinAfter →
      post value after twinAfter) :
    AgreesUnless (do
      report diagnostic
      reader
      return value) lost cursor twin post := by
  have amid := fails.2.report fails.1
  have told : fork.Told (cursor.report diagnostic) :=
    fails.2.along.told (Nat.lt_succ_self _)
  have both := (agrees _ _ amid).and_ends (grows _)
  have reported : (report diagnostic).Agrees cursor twin
      fun _ after twinAfter => after = cursor.report diagnostic ∧
        twinAfter = twin.report diagnostic :=
    .report ⟨rfl, rfl⟩
  apply reported.bindUnless
  rintro _ _ _ ⟨rfl, rfl⟩
  apply both.bind
  · exact fun _ _ _ reached => .inr (.pure (onBoth _ _ reached.1))
  · intro _ after reached
    have more := Nat.lt_of_lt_of_le told reached.2.reported
    exact onLost after (reached.1.marked more)

theorem stirs_afterReport
    {α : Type} (diagnostic : Diagnostic) {reader : Recovery Unit} (value : α)
    (grows : ∀ cursor, reader.Grows cursor) :
    Stirs (do
      report diagnostic
      reader
      return value) cursor := by
  have told : (report diagnostic).Stirs cursor :=
    Cursor.stirs_report cursor diagnostic
  exact told.bind fun _ after => (grows after).bind fun _ _ => .pure _

end Recovery

/-! ## Members that may stand anywhere -/

namespace Reader

theorem agreesUnless_typedMember
    (plain : fork.Plain) (amid : fork.Amid cursor twin) :
    typedMember.AgreesUnless fork fork.Marked cursor twin
      fun _ => fork.Along := by
  apply (steady_typeName cursor twin amid).bindUnless
  intro type cursor twin inside
  have amid := inside.2
  apply AgreesUnless.look (by simp only [amid.kind])
  split
  · exact .map ((agreesUnless_function plain (some type) amid).mono
      (fun _ marked => marked) fun _ _ _ reached => reached.2)
  · exact .map (agreesUnless_propertyAfter plain type amid)
  · exact .map (.inr (agrees_variableAfter type amid))
  · exact .inr (.reject amid)

theorem agreesUnless_plainMember
    (plain : fork.Plain) (amid : fork.Amid cursor twin) :
    plainMember.AgreesUnless fork fork.Marked cursor twin
      fun _ => fork.Along := by
  apply AgreesUnless.look (by simp only [amid.kind])
  split
  · exact .map ((agreesUnless_function plain none amid).mono
      (fun _ marked => marked) fun _ _ _ reached => reached.2)
  · exact agreesUnless_typedMember plain amid

end Reader

/-! ## States -/

namespace Recovery

open Reader

variable {keyword : Token}

theorem explains_declaration
    {state : String} (starts : cursor.atDeclaration = true) :
    cursor.current.Explains (.declarationInState state cursor.kind) := by
  rintro kind ⟨⟩
  refine ⟨rfl, ?_⟩
  cases found : cursor.kind with
  | invalid error =>
    simp [Cursor.atDeclaration, Cursor.atMemberStart, Cursor.atVariableStart,
      Cursor.atTypeStart, found, Kind.isTypeKeyword] at starts
  | _ => rfl

/-- A declaration in a state is reported, so leaving the row shows. -/
theorem agreesUnless_hoistedMember
    (plain : fork.Plain) (state : String) (found : Reader.StateBody)
    (amid : fork.Amid cursor twin) (starts : cursor.atDeclaration = true) :
    (hoistedMember state found).AgreesUnless (fun _ => fork.Marked)
      cursor twin fun _ => fork.Along := by
  apply AgreesUnless.look (by
    simp only [amid.kind, amid.position, amid.memberBlock?])
  have told : (complain cursor.position
      (.declarationInState state cursor.kind)).Agrees cursor twin
      fun _ => fork.Amid :=
    .report (amid.report (amid.points rfl
      (explains_declaration starts)))
  apply told.bindUnless
  intro _ after twin amid
  apply AgreesUnless.run_bind (agreesUnless_plainMember plain amid)
  · exact fun _ _ _ along => .inr (.pure along)
  · exact fun _ _ _ fails => agreesUnless_afterReport fails
      (fun _ _ amid => agreesUnless_skipMember _ amid)
      (fun _ => (travels_skipMember _ _).grows)
      (fun _ marked => marked) fun _ _ along => along
  · intro answer after marked
    cases answer with
    | ok member => exact marked
    | error diagnostic =>
      have skipped : Grows _ after :=
        (stirs_afterReport diagnostic found fun after =>
          (travels_skipMember cursor.memberBlock? after).grows).mono
          fun _ _ stirs => stirs.toGrows
      exact skipped.marked marked

theorem stirs_unfinishedState
    (keyword : Token) (found : Reader.StateBody) (cursor : Cursor) :
    (unfinishedState keyword found).Stirs cursor :=
  (stirs_reportUnterminated _ _).bind fun _ _ => .pure _

theorem agrees_unfinishedState
    (opens : fork.Knows (.keyword .state) keyword) (found : Reader.StateBody)
    (amid : fork.Amid cursor twin) :
    (unfinishedState keyword found).Agrees cursor twin
      (Step.Parts (fun _ => fork.Along) fun _ => fork.Along) := by
  apply (agrees_reportUnterminated _ opens amid).bind
  exact fun _ _ _ along => .pure along

/-- Every step in a state passes a token or reports an error. -/
theorem stirs_nextInState
    (keyword : Token) (state : String) (found : Reader.StateBody)
    (cursor : Cursor) :
    (nextInState keyword state found).Stirs cursor := by
  apply (travels_skipNewlines cursor).grows.bind_stirs
  intro _ cursor
  apply Stirs.get
  split
  · rename_i word
    apply (advances_of_kind word rfl).stirs.bind
    intro _ after
    exact (travels_finishLine _ after).grows.bind fun _ _ => .pure _
  · rename_i doc
    exact (advances_of_kind doc rfl).stirs.bind fun _ _ => .pure _
  · apply stirs_run_bind (advances_event cursor)
    · exact fun _ _ => .pure _
    · exact fun diagnostic after => stirs_skipLineAfter diagnostic _
  · exact stirs_unfinishedState keyword found cursor
  · exact stirs_unfinishedState keyword found cursor
  · exact stirs_unfinishedState keyword found cursor
  · exact stirs_unfinishedState keyword found cursor
  · split
    · exact stirs_unfinishedState keyword found cursor
    · split
      · rename_i inside _ _ _ _ _
        have hoisted := (advances_hoistedMember state found inside).stirs
        exact hoisted.bind fun _ _ => .pure _
      · exact .unexpected fun _ => stirs_skipLineAfter _ _

theorem keeps_nextInState
    (keyword : Token) (state : String) (found : Reader.StateBody)
    (cursor : Cursor) (left : fork.Left cursor) :
    (nextInState keyword state found).Ends cursor
      (Step.Settles (fun _ => fork.Left) fun _ => fork.Marked) := by
  apply ((stirs_nextInState keyword state found cursor).marked left).mono
  intro decision after marked
  cases decision with
  | again => exact marked.toLeft
  | done => exact marked

/-- A line of a state is read the same, or the first run has left the row. -/
theorem agreesUnless_nextInState
    (plain : fork.Plain) (opens : fork.Knows (.keyword .state) keyword)
    (state : String) (found : Reader.StateBody)
    (along : fork.Along cursor twin) :
    (nextInState keyword state found).AgreesUnless
      (Step.Settles (fun _ => fork.Left) fun _ => fork.Marked) cursor twin
      (Step.Parts (fun _ => fork.Along) fun _ => fork.Along) := by
  apply agreesUnless_afterNewlines along ?_
    (keeps_nextInState keyword state found)
  intro cursor twin amid
  have marked := amid.both (.keyword .auto) (.keyword .state) rfl
  rw [amid.kind] at marked
  apply AgreesUnless.look (by
    simp only [amid.kind, marked, amid.atDeclaration])
  split
  · rename_i word
    right
    apply Agrees.take amid
    apply (agrees_finishLine (amid.next (by rw [word]; rfl)) _).bind
    exact fun _ _ _ along => .pure along
  · rename_i doc
    right
    exact .take amid (.pure (amid.next (by rw [doc]; rfl)).along)
  · apply AgreesUnless.run_bind (agreesUnless_event plain amid)
    · exact fun _ _ _ along => .inr (.pure along)
    · exact fun _ _ _ fails => .inr (agrees_skipLineAfter fails _)
    · intro answer after marked
      cases answer with
      | ok next => exact marked.toLeft
      | error diagnostic =>
        have skipped : Grows _ after :=
          (stirs_skipLineAfter diagnostic
            (Step.again found)).mono fun _ _ stirs => stirs.toGrows
        exact skipped.left marked.toLeft
  · exact .inr (agrees_unfinishedState opens found amid)
  · exact .inr (agrees_unfinishedState opens found amid)
  · exact .inr (agrees_unfinishedState opens found amid)
  · exact .inr (agrees_unfinishedState opens found amid)
  · split
    · exact .inr (agrees_unfinishedState opens found amid)
    · split
      · rename_i starts
        apply (agreesUnless_hoistedMember plain state found amid starts).bind
        · exact fun _ _ _ along => .inr (.pure along)
        · exact fun _ _ marked => marked.toLeft
      · right
        apply Agrees.bind (.unexpected amid (amid.fails _))
        exact fun _ _ _ fails => agrees_skipLineAfter fails _

/-- A state that goes on behind the row passes its end or is reported. -/
theorem agreesUnless_stateBody
    (plain : fork.Plain) (opens : fork.Knows (.keyword .state) keyword)
    (state : String) (along : fork.Along cursor twin) :
    (stateBody keyword state).AgreesUnless
      (fun _ => fork.Marked) cursor twin fun _ => fork.Along := by
  apply AgreesUnless.inBlock
  apply AgreesUnless.mono
    (AgreesUnless.loop (fun _ => fork.Along) fork.Left
      (proceeds_nextInState keyword state)
      (fun found _ _ along =>
        agreesUnless_nextInState plain opens state found along)
      (keeps_nextInState keyword state) (along.enter .state))
  · exact fun _ _ marked =>
      ⟨⟨marked.budget, marked.reported⟩, marked.happened⟩
  · exact fun _ _ _ along => along.leave

theorem agrees_autoMark (amid : fork.Amid cursor twin) :
    autoMark.Agrees cursor twin fun _ => fork.Amid := by
  apply Agrees.look (by simp only [amid.kind])
  split
  · rename_i word
    exact .take amid (.pure (amid.next (by rw [word]; rfl)))
  · exact .pure amid

end Recovery

namespace Reader

/-- A state is read the same, unless the first run leaves the row. -/
theorem agreesUnless_stateMembers
    (plain : fork.Plain) (amid : fork.Amid cursor twin) :
    stateMembers.AgreesUnless fork fork.Marked cursor twin
      fun _ => fork.Along := by
  apply AgreesUnless.look (by simp only [amid.position])
  apply (Agrees.lift (Recovery.agrees_autoMark amid)).bindUnless
  intro auto after twin amid
  apply (steady_expect _ _ rfl after twin amid).bindUnless
  intro keyword after twin inside
  obtain ⟨opens, amid⟩ := inside
  apply (steady_identifier _ after twin amid).bindUnless
  intro name after twin inside
  apply (agrees_endOfLine inside.2 _).bindUnless
  intro _ after twin along
  apply (AgreesUnless.lift (Recovery.agreesUnless_stateBody plain opens
    name.name along)).bind
  · intro found after twin along
    exact .look (by simp only [along.spanFrom]) (.inr (.pure along))
  · exact fun _ marked => marked
  · exact fun _ _ marked => marked

/-- Members are read the same, unless the first run leaves the row. -/
theorem agreesUnless_members
    (plain : fork.Plain) (amid : fork.Amid cursor twin) :
    members.AgreesUnless fork fork.Marked cursor twin
      fun _ => fork.Along := by
  apply AgreesUnless.look (by simp only [amid.kind])
  split
  · apply (agreesUnless_event plain amid).bind
    · exact fun _ _ _ along => .inr (.pure along)
    · exact fun _ marked => marked
    · exact fun _ _ marked => marked
  · exact agreesUnless_stateMembers plain amid
  · exact agreesUnless_stateMembers plain amid
  · apply (agreesUnless_plainMember plain amid).bind
    · exact fun _ _ _ along => .inr (.pure along)
    · exact fun _ marked => marked
    · exact fun _ _ marked => marked

end Reader

/-! ## Scripts -/

namespace Reader

theorem agrees_importLine (amid : fork.Amid cursor twin) :
    importLine.Agrees fork cursor twin fun _ => fork.Along := by
  apply (steady_expect _ _ rfl cursor twin amid).bind
  intro keyword cursor twin inside
  apply (steady_identifier _ cursor twin inside.2).bind
  intro name cursor twin inside
  apply Agrees.look (by simp only [inside.2.spanFrom])
  apply (agrees_endOfLine inside.2 _).bind
  exact fun _ _ _ along => .pure along

end Reader

namespace Recovery

open Reader

theorem agreesUnless_recoverAfter
    {α : Type} {lost : α → Cursor → Prop} {post : α → Cursor → Cursor → Prop}
    {diagnostic : Diagnostic} {value : α}
    (fails : fork.Fails diagnostic cursor twin)
    (onLost : ∀ after, fork.Marked after → lost value after)
    (onBoth : ∀ after twinAfter, fork.Along after twinAfter →
      post value after twinAfter) :
    AgreesUnless (reportAndRecover diagnostic >>= fun _ => pure value)
      lost cursor twin post := by
  unfold reportAndRecover
  rw [bind_assoc]
  exact agreesUnless_afterReport fails
    (fun _ _ amid => agreesUnless_recoverToMember amid)
    (fun cursor => (travels_recoverToMember cursor).grows) onLost onBoth

theorem stirs_recoverAfter {α : Type} (diagnostic : Diagnostic) (value : α) :
    Stirs (reportAndRecover diagnostic >>= fun _ => pure value)
      cursor := by
  unfold reportAndRecover
  rw [bind_assoc]
  exact stirs_afterReport diagnostic value
    fun cursor => (travels_recoverToMember cursor).grows

/-! ## The next declaration -/

/-- A step that goes on has passed a token or reported an error. -/
theorem Stirs.settles {α : Type} {start : Cursor} {step : Recovery (Step α)}
    {done : α → Cursor → Prop} (grows : start.Grows cursor)
    (stirs : step.Stirs cursor)
    (goesOn : step.Ends cursor fun decision _ => decision.isAgain = true) :
    step.Ends cursor
      (Step.Settles (fun _ after => start.Stirs after) done) := by
  refine (Ends.and stirs goesOn).mono fun decision after reached => ?_
  cases decision with
  | again => exact grows.trans_stirs reached.1
  | done => exact absurd reached.2 nofun

/-- A declaration passes a token or is reported, and otherwise the text has
ended. -/
theorem settles_nextDeclaration (found : Reader.ScriptBody) (cursor : Cursor) :
    (nextDeclaration found).Ends cursor
      (Step.Settles (fun _ after => cursor.Stirs after) fun final after =>
        final = found ∧ after.kind = .endOfText ∧
          after = (skipNewlines.run cursor).2) := by
  have breaks : skipNewlines.Ends cursor fun _ after =>
      after = (skipNewlines.run cursor).2 :=
    rfl
  unfold nextDeclaration
  apply (breaks.and (travels_skipNewlines cursor).grows).bind
  intro _ after reached
  obtain ⟨place, grows⟩ := reached
  rw [ends_bind, ends_get]
  split
  · rename_i atEnd
    exact ⟨rfl, atEnd, place⟩
  · rename_i doc
    exact ((advances_of_kind doc rfl).stirs.bind fun _ _ => .pure _).settles
      grows rfl
  · exact (stirs_recoverAfter _ _).settles grows
      (ends_bind_of_forall fun _ _ => rfl)
  · apply Stirs.settles grows
    · apply stirs_run_bind (advances_importLine after)
      · exact fun _ _ => .pure _
      · exact fun _ _ => stirs_recoverAfter _ _
    · apply ends_bind_of_forall
      intro answer last
      cases answer with
      | ok next => rfl
      | error diagnostic => exact ends_bind_of_forall fun _ _ => rfl
  · split
    · apply Stirs.settles grows
      · apply stirs_run_bind (advances_members after)
        · exact fun _ _ => .pure _
        · exact fun diagnostic _ => stirs_afterReport diagnostic _
            fun last => (travels_skipMember _ last).grows
      · apply ends_bind_of_forall
        intro answer last
        cases answer with
        | ok next => rfl
        | error diagnostic =>
          exact ends_bind_of_forall fun _ _ =>
            ends_bind_of_forall fun _ _ => rfl
    · apply (Stirs.unexpected fun _ => stirs_recoverAfter _ _).settles grows
      exact ends_bind_of_forall fun _ _ => ends_bind_of_forall fun _ _ => rfl

/-- A declaration stays along the row or leaves it with a mark.  Where the
text ends in the row, both runs end. -/
theorem agreesUnless_nextDeclaration
    (plain : fork.Plain) (found : Reader.ScriptBody)
    (along : fork.Along cursor twin) :
    (nextDeclaration found).AgreesUnless
      (Step.Settles (fun _ => fork.Marked) fun final after =>
        final = found ∧ fork.Left after) cursor twin
      (Step.Parts (fun _ => fork.Along) fun final cursor twin =>
        final = found ∧ cursor.kind = .endOfText ∧ fork.Amid cursor twin) := by
  apply agreesUnless_afterNewlines along
  · intro cursor twin amid
    apply AgreesUnless.look (by
      simp only [amid.kind, amid.position, amid.atDeclaration,
        amid.memberBlock?])
    split
    · rename_i atEnd
      exact .inr (.pure ⟨rfl, atEnd, amid⟩)
    · rename_i doc
      right
      exact .take amid (.pure (amid.next (by rw [doc]; rfl)).along)
    · rename_i word
      have explains : cursor.current.Explains .duplicateHeader := by
        rintro kind ⟨⟩
        exact ⟨word.symm, rfl⟩
      exact agreesUnless_recoverAfter
        ⟨amid.points (congrArg some word.symm) explains, amid⟩
        (fun _ marked => marked) fun _ _ along => along
    · apply AgreesUnless.run_bind (.inr (agrees_importLine amid))
      · exact fun _ _ _ along => .inr (.pure along)
      · exact fun _ _ _ fails => agreesUnless_recoverAfter fails
          (fun _ marked => marked) fun _ _ along => along
      · exact fun _ _ (never : False) => never.elim
    · split
      · apply AgreesUnless.run_bind (agreesUnless_members plain amid)
        · exact fun _ _ _ along => .inr (.pure along)
        · exact fun _ _ _ fails => agreesUnless_afterReport fails
            (fun _ _ amid => agreesUnless_skipMember _ amid)
            (fun _ => (travels_skipMember _ _).grows)
            (fun _ marked => marked) fun _ _ along => along
        · intro answer after marked
          cases answer with
          | ok next => exact marked
          | error diagnostic =>
            have told : (report diagnostic).Grows after :=
              Cursor.grows_report after diagnostic
            have skipped : (report diagnostic >>= fun _ =>
                skipMember cursor.memberBlock?).Grows after :=
              told.bind fun _ last => (travels_skipMember _ last).grows
            exact skipped.marked marked
      · apply Agrees.bindUnless (.unexpected amid (amid.fails _))
        exact fun _ _ _ fails => agreesUnless_recoverAfter fails
          (fun _ marked => marked) fun _ _ along => along
  · intro cursor left
    apply (settles_nextDeclaration found cursor).mono
    intro decision after reached
    cases decision with
    | again => exact left.stirs reached
    | done =>
      obtain ⟨same, _, place⟩ := reached
      have grows : cursor.Grows (skipNewlines.run cursor).2 :=
        (travels_skipNewlines cursor).grows
      exact ⟨same, left.grows (place ▸ grows)⟩

end Recovery

/-! ## Headers -/

namespace Reader

theorem steady_scriptName : scriptName.Steady fork fun _ => True := by
  intro cursor twin amid
  apply (steady_expect _ _ rfl cursor twin amid).bind
  intro keyword cursor twin inside
  apply (steady_identifier _ cursor twin inside.2).mono
  exact fun _ _ _ inside => ⟨trivial, inside.2⟩

theorem steady_parentName : parentName.Steady fork fun _ => True := by
  intro cursor twin amid
  apply Agrees.look (by simp only [amid.kind])
  split
  · rename_i word
    apply Agrees.take amid
    apply (steady_identifier _ _ _ (amid.next (by rw [word]; rfl))).bind
    exact fun _ _ _ inside => .pure ⟨trivial, inside.2⟩
  · exact .pure ⟨trivial, amid⟩

end Reader

namespace Recovery

open Reader

theorem agrees_headerFlags
    (header : Reader.Header) (amid : fork.Amid cursor twin) :
    (headerFlags header).Agrees cursor twin
      (Step.Parts (fun _ => fork.Amid) fun _ => fork.Amid) := by
  apply Agrees.look (by simp only [amid.kind])
  split
  · rename_i word
    exact .take amid (.pure (amid.next (by rw [word]; rfl)))
  · rename_i word
    exact .take amid (.pure (amid.next (by rw [word]; rfl)))
  · rename_i word
    exact .take amid (.pure (amid.next (by rw [word]; rfl)))
  · exact .pure amid

theorem tells_recoverAfter {α : Type} (diagnostic : Diagnostic) (value : α) :
    Tells (reportAndRecover diagnostic >>= fun _ => pure value)
      cursor := by
  have told : (reportAndRecover diagnostic).Tells cursor :=
    .report fun cursor => (travels_recoverToMember cursor).grows
  exact told.bind fun _ _ => .pure _

theorem grows_recoverAfter
    {α : Type} (diagnostic : Diagnostic) (value : α) (cursor : Cursor) :
    Grows (reportAndRecover diagnostic >>= fun _ => pure value)
      cursor :=
  (stirs_recoverAfter diagnostic value).mono fun _ _ stirs => stirs.toGrows

/-- A header line is read the same, or something has been reported. -/
theorem agreesUnless_headerLine (plain : fork.Plain) (blank : Reader.Header)
    (amid : fork.Amid cursor twin) :
    (headerLine blank).AgreesUnless (fun _ => fork.Marked) cursor twin
      fun _ => fork.Along := by
  have recovered {cursor twin : Cursor} {diagnostic : Diagnostic}
      (header : Reader.Header) (fails : fork.Fails diagnostic cursor twin) :
      AgreesUnless
        (reportAndRecover diagnostic >>= fun _ => pure header)
        (fun _ => fork.Marked) cursor twin fun _ => fork.Along :=
    agreesUnless_recoverAfter fails (fun _ marked => marked)
      fun _ _ along => along
  apply AgreesUnless.run_bind (.inr (steady_scriptName cursor twin amid))
  · intro name cursor twin inside
    apply AgreesUnless.run_bind
      (.inr (steady_parentName cursor twin inside.2))
    · intro parent cursor twin inside
      apply AgreesUnless.loop_bind (.inr (.loop (fun _ => fork.Amid)
        proceeds_headerFlags (fun header _ _ amid =>
          agrees_headerFlags header amid) inside.2))
      · intro header cursor twin amid
        rcases agreesOrFails_endOfDeclaration plain amid
            "script header" with failed | agrees
        · left
          rw [ends_bind, ends_run]
          apply (failed.and (travels_endOfDeclaration _ cursor)).mono
          · exact fun _ _ never => never.1.elim
          · rintro diagnostic after ⟨⟨_, fewer⟩, reaches, _⟩
            apply (marked_of_fewer amid reaches fewer
              (tells_recoverAfter diagnostic header)
              (grows_recoverAfter diagnostic header after)).mono
            exact fun _ _ lost => lost.1.marked lost.2
        · apply AgreesUnless.run_bind (.inr agrees)
          · exact fun _ _ _ along => .inr (.pure along)
          · exact fun _ _ _ fails => recovered header fails
          · exact fun _ _ (never : False) => never.elim
      · exact fun _ _ (never : False) => never.elim
    · exact fun _ _ _ fails => recovered _ fails
    · exact fun _ _ (never : False) => never.elim
  · exact fun _ _ _ fails => recovered _ fails
  · exact fun _ _ (never : False) => never.elim

theorem tells_missingHeader (cursor : Cursor) : missingHeader.Tells cursor := by
  apply Tells.get
  apply Tells.unexpected
  intro diagnostic
  apply Tells.report
  intro after
  split
  · exact (travels_recoverToMember after).grows
  · exact .pure _

theorem stirs_missingHeader (cursor : Cursor) : missingHeader.Stirs cursor := by
  apply Stirs.get
  apply Stirs.unexpected
  intro diagnostic
  have told : (report diagnostic).Stirs cursor :=
    Cursor.stirs_report cursor diagnostic
  apply told.bind
  intro _ after
  split
  · exact (travels_recoverToMember after).grows
  · exact .pure _

/-- A header line is passed, or its absence is reported. -/
theorem stirs_header (cursor : Cursor) : Reader.header.Stirs cursor := by
  apply Stirs.get
  dsimp only
  split
  · apply stirs_run_bind (advances_scriptName cursor)
    · intro name after
      apply Travels.grows
      refine (travels_parentName after).run_bind
        (fun parent after => .get ?_) fun diagnostic after blames =>
          (travels_reportAndRecover blames).bind fun _ _ => .pure _
      refine (travels_loop proceeds_headerFlags _ _ _).bind
        fun header after => ?_
      exact (travels_endOfDeclaration _ after).run_bind
        (fun _ _ => .pure _) fun diagnostic after blames =>
          (travels_reportAndRecover blames).bind fun _ _ => .pure _
    · exact fun diagnostic after => stirs_recoverAfter diagnostic _
  · exact (stirs_missingHeader cursor).bind fun _ _ => .pure _

/-- A missing header is reported, whatever is discarded for it. -/
theorem agreesUnless_missingHeader (amid : fork.Amid cursor twin) :
    missingHeader.AgreesUnless (fun _ => fork.Marked) cursor twin
      fun _ => fork.Along := by
  apply AgreesUnless.look (by simp only [amid.atDeclaration])
  have reported {cursor twin : Cursor} {diagnostic : Diagnostic}
      (fails : fork.Fails diagnostic cursor twin) :
      (report diagnostic).Agrees cursor twin fun _ after twinAfter =>
        fork.Told after ∧ fork.Amid after twinAfter :=
    .report ⟨fails.2.along.told (Nat.lt_succ_self _), fails.2.report fails.1⟩
  apply Agrees.bindUnless (.unexpected amid (amid.fails _))
  intro diagnostic after twinAfter fails
  apply (reported fails).bindUnless
  rintro _ after twinAfter ⟨told, amid⟩
  split
  · have both := (agreesUnless_recoverToMember amid).and_ends
      (travels_recoverToMember after).grows
    apply both.mono
    · rintro _ last ⟨left, grows⟩
      exact left.marked (Nat.lt_of_lt_of_le told grows.reported)
    · exact fun _ _ _ reached => reached.1
  · exact .inr (.pure amid.along)

theorem agreesUnless_header
    (plain : fork.Plain) (amid : fork.Amid cursor twin) :
    Reader.header.AgreesUnless (fun _ => fork.Marked) cursor twin
      fun _ => fork.Along := by
  apply AgreesUnless.look (by simp only [amid.kind, amid.position])
  dsimp only
  split
  · exact agreesUnless_headerLine plain _ amid
  · apply (agreesUnless_missingHeader amid).bind
    · exact fun _ _ _ along => .inr (.pure along)
    · exact fun _ _ marked => marked

end Recovery

end PapyrusScript
