import PapyrusScript.Proofs.Transcript.Callable

/-!
# Scripts cover their functions and events

Nothing that is read without a report is lost: every declaration of a script
is a member of it, in the order of the text, and every event of a state is
one of that state.
-/

namespace PapyrusScript

open Cursor

variable {cursor : Cursor}

def Member.RowOf (members : List Member) (row : List Token) : Prop :=
  ∃ callables, List.Forall₂ Member.Holds members callables ∧
    Placed callables.flatten row

namespace Member.RowOf

variable {members more : List Member} {row rest gap : List Token}

theorem nil (aside : Aside row) : RowOf [] row := ⟨[], .nil, .between aside⟩

theorem single {member : Member} {callables : List Callable}
    (holds : member.Holds callables) (placed : Placed callables row) :
    RowOf [member] row := by
  refine ⟨[callables], .cons holds .nil, ?_⟩
  rwa [List.flatten_singleton]

theorem append (first : RowOf members row) (second : RowOf more rest) :
    RowOf (members ++ more) (row ++ rest) := by
  obtain ⟨callables, holds, placed⟩ := first
  obtain ⟨others, holdsToo, placedToo⟩ := second
  refine ⟨callables ++ others, List.rel_append holds holdsToo, ?_⟩
  rw [List.flatten_append]
  exact placed.append placedToo

theorem before (holds : RowOf members row) (aside : Aside gap) :
    RowOf members (row ++ gap) := by
  have whole := holds.append (nil aside)
  rwa [List.append_nil] at whole

theorem after (holds : RowOf members row) (aside : Aside gap) :
    RowOf members (gap ++ row) :=
  (nil aside).append holds

end Member.RowOf

namespace Reader

/-! ## Plain members -/

/-- No function starts in the line of a variable. -/
theorem covers_variableAfter (type : TypeName) :
    (variableAfter type).Covers cursor fun _ row => Aside row := by
  unfold variableAfter
  apply (covers_identifier _).bind
  intro name after
  apply spelled_initialConstant.bind
  intro initial after
  apply (Covers.lift Recovery.flagged_variableFlags).bind
  intro conditional after
  apply Covers.get
  apply (covers_endOfLine _).bind
  intro _ last
  apply Covers.pure
  rintro line breaks flags flagged value starts _ ⟨token, rfl, named, _⟩
  have initial : Aside value :=
    ⟨starts.ofValue.inLine.apart, starts.enclosed.paired⟩
  have behind : Aside flags := ⟨flagged.inLine.apart, flagged.enclosed.paired⟩
  rw [List.append_nil]
  exact (Aside.of_kind named rfl rfl).append <| initial.append <|
    behind.append (.of_newlines breaks)

/-- The functions of a member are placed in its tokens. -/
theorem covers_typedMember :
    typedMember.Covers cursor fun member row => Member.RowOf [member] row := by
  unfold typedMember
  apply covers_typeName.bind
  intro type after
  apply Covers.get
  split
  · apply Covers.map
    apply (covers_function (some type)).mono
    exact fun found _ placed _ spelled =>
      (Member.RowOf.single (.function found) placed).after spelled.aside
  · apply Covers.map
    apply (covers_propertyAfter type).mono
    rintro found _ ⟨callables, holds, placed⟩ _ spelled
    exact (Member.RowOf.single holds placed).after spelled.aside
  · apply Covers.map
    apply (covers_variableAfter type).mono
    exact fun found _ aside _ spelled =>
      (Member.RowOf.single (.variable found) (.between aside)).after
        spelled.aside
  · exact covers_reject _

theorem covers_plainMember :
    plainMember.Covers cursor fun member row => Member.RowOf [member] row := by
  unfold plainMember
  apply Covers.get
  split
  · apply Covers.map
    exact (covers_function none).mono
      fun found _ placed => .single (.function found) placed
  · exact covers_typedMember

end Reader

/-! ## States -/

/-- The events of a state are placed in the tokens, and nothing has been
declared in it that does not belong there. -/
structure Reader.StateBody.Row
    (found : Reader.StateBody) (row : List Token) : Prop where
  hoisted : found.hoisted = []
  placed : Placed (found.events.map Event.callable) row

theorem Reader.StateBody.Row.before
    {found : Reader.StateBody} {row gap : List Token} (holds : found.Row row)
    (aside : Aside gap) : found.Row (row ++ gap) :=
  ⟨holds.hoisted, holds.placed.before aside⟩

namespace Recovery

open Reader

/-- A declaration that does not belong into a state is reported first. -/
theorem tells_hoistedMember (state : String) (found : Reader.StateBody) :
    (hoistedMember state found).Tells cursor := by
  unfold hoistedMember Tells
  rw [ends_bind, ends_get]
  show Tells _ cursor
  apply (tells_complain _ _).bind
  intro _ after
  apply (advances_plainMember after).travels.run.grows.bind
  intro answer last
  cases answer with
  | ok member => exact .pure _
  | error diagnostic =>
    have told : (Reader.report diagnostic).Grows last :=
      Cursor.grows_report last diagnostic
    apply told.bind
    intro _ last
    exact (travels_skipMember _ last).grows.bind fun _ _ => .pure _

theorem tells_unfinishedState (keyword : Token) (found : Reader.StateBody) :
    (unfinishedState keyword found).Tells cursor :=
  (tells_reportUnterminated _ _).bind fun _ _ => .pure _

/-- The events of a state are placed in the tokens passed so far. -/
theorem covers_nextInState
    (keyword : Token) (state : String) (found : Reader.StateBody) :
    (nextInState keyword state found).Covers cursor fun decision row =>
      ∀ before, found.Row before →
        Step.Adds Reader.StateBody.Row Reader.StateBody.Row decision
          (before ++ row) := by
  unfold nextInState
  apply covers_skipNewlines.bind
  intro _ after
  apply Covers.get
  split
  · rename_i word
    apply Covers.advance (by simp [word])
    apply (covers_finishLine _).bind
    intro _ last
    apply Covers.pure
    intro line breaks before newlines row holds
    rw [List.append_nil]
    apply holds.before
    exact (Aside.of_newlines newlines).append <|
      (Aside.of_kind word rfl rfl).append (.of_newlines breaks)
  · rename_i doc
    apply Covers.advance (by simp [doc])
    apply Covers.pure
    intro before newlines row holds
    apply holds.before
    exact (Aside.of_newlines newlines).append (.of_kind doc rfl rfl)
  · apply Covers.run_bind covers_event
    · intro next last
      apply Covers.pure
      intro row placed before newlines whole holds
      refine ⟨holds.hoisted, ?_⟩
      rw [List.append_nil, List.map_append]
      exact holds.placed.append (placed.after (.of_newlines newlines))
    · exact fun _ _ => (tells_reportAndSkipLine _).bind fun _ _ => .pure _
  · exact (tells_unfinishedState _ _).covers
  · exact (tells_unfinishedState _ _).covers
  · exact (tells_unfinishedState _ _).covers
  · exact (tells_unfinishedState _ _).covers
  · split
    · exact (tells_unfinishedState _ _).covers
    · split
      · apply Tells.covers
        exact (tells_hoistedMember _ _).bind fun _ _ => .pure _
      · apply Covers.unexpected
        intro diagnostic
        apply Tells.covers
        exact (tells_reportAndSkipLine _).bind fun _ _ => .pure _

theorem covers_stateBody (keyword : Token) (state : String) :
    (stateBody keyword state).Covers cursor Reader.StateBody.Row := by
  unfold stateBody
  apply Covers.inBlock
  apply Covers.get
  apply (Covers.loop (proceeds_nextInState keyword state)
    (fun found _ => covers_nextInState keyword state found) _).mono
  exact fun _ _ holds => holds [] ⟨rfl, .between .nil⟩

theorem covers_autoMark : autoMark.Covers cursor fun _ row => Aside row := by
  unfold autoMark
  apply Covers.get
  split
  · rename_i word
    apply Covers.advance (by simp [word])
    exact .pure (.of_kind word rfl rfl)
  · exact .pure .nil

end Recovery

namespace Reader

/-- The events of a state are placed in its tokens. -/
theorem covers_stateMembers : stateMembers.Covers cursor Member.RowOf := by
  unfold stateMembers
  apply Covers.get
  apply (Covers.lift Recovery.covers_autoMark).bind
  intro auto after
  apply (covers_expect _ _ (by nofun)).bind
  intro keyword after
  apply (covers_identifier _).bind
  intro name after
  apply (covers_endOfLine _).bind
  intro _ after
  apply (Covers.lift (Recovery.covers_stateBody keyword name.name)).bind
  intro found last
  apply Covers.get
  apply Covers.pure
  rintro row holds line breaks _ ⟨token, rfl, named, _⟩ _ ⟨rfl, opens⟩ mark
    aside
  rw [holds.hoisted, List.append_nil]
  have front := aside.append <| (Aside.of_kind opens rfl rfl).append <|
    (Aside.of_kind named rfl rfl).append (.of_newlines breaks)
  have whole := holds.placed.after front
  simp only [List.append_assoc] at whole
  exact .single (.state _) whole

/-- The functions and events of members are placed in their tokens. -/
theorem covers_members : members.Covers cursor Member.RowOf := by
  unfold members
  apply Covers.get
  split
  · apply covers_event.bind
    intro found after
    apply Covers.pure
    intro row placed
    rw [List.append_nil]
    exact .single (.event found) placed
  · exact covers_stateMembers
  · exact covers_stateMembers
  · apply covers_plainMember.bind
    intro found after
    apply Covers.pure
    intro row holds
    rwa [List.append_nil]

/-- No function starts in the line of an import. -/
theorem covers_importLine :
    importLine.Covers cursor fun _ row => Aside row := by
  unfold importLine
  apply (covers_expect _ _ (by nofun)).bind
  intro keyword after
  apply (covers_identifier _).bind
  intro name after
  apply Covers.get
  apply (covers_endOfLine _).bind
  intro _ last
  apply Covers.pure
  rintro line breaks _ ⟨token, rfl, named, _⟩ _ ⟨rfl, opens⟩
  rw [List.append_nil]
  exact (Aside.of_kind opens rfl rfl).append <|
    (Aside.of_kind named rfl rfl).append (.of_newlines breaks)

end Reader

namespace Recovery

open Reader

/-! ## Declarations -/

/-- A declaration of a script is placed behind those in front. -/
theorem covers_nextDeclaration (found : Reader.ScriptBody) :
    (nextDeclaration found).Covers cursor fun decision row =>
      ∀ before, Member.RowOf found.members before →
        Step.Adds (fun found row => Member.RowOf found.members row)
          (fun found row => Member.RowOf found.members row) decision
          (before ++ row) := by
  unfold nextDeclaration
  apply covers_skipNewlines.bind
  intro _ after
  apply Covers.get
  split
  · apply Covers.pure
    intro before newlines row holds
    rw [List.append_nil]
    exact holds.before (.of_newlines newlines)
  · rename_i doc
    apply Covers.advance (by simp [doc])
    apply Covers.pure
    intro before newlines row holds
    apply holds.before
    exact (Aside.of_newlines newlines).append (.of_kind doc rfl rfl)
  · exact (tells_recoverAfter _ _).covers
  · apply Covers.run_bind covers_importLine
    · intro next last
      apply Covers.pure
      intro row aside before newlines whole holds
      apply holds.before
      rw [List.append_nil]
      exact (Aside.of_newlines newlines).append aside
    · exact fun _ _ => tells_recoverAfter _ _
  · split
    · apply Covers.run_bind covers_members
      · intro next last
        apply Covers.pure
        intro row more before newlines whole holds
        rw [List.append_nil]
        exact holds.append (more.after (.of_newlines newlines))
      · exact fun diagnostic _ => .report fun cursor =>
          (travels_skipMember _ cursor).grows.bind fun _ _ => .pure _
    · apply Covers.unexpected
      exact fun _ => (tells_recoverAfter _ _).covers

/-! ## Headers of scripts -/

/-- A flag of a script stays in its line. -/
theorem covers_headerFlags (header : Reader.Header) :
    (headerFlags header).Covers cursor fun decision row =>
      ∀ before, Aside before →
        Step.Adds (fun _ row => Aside row) (fun _ row => Aside row) decision
          (before ++ row) := by
  unfold headerFlags
  apply Covers.get
  split
  · rename_i word
    apply Covers.advance (by simp [word])
    exact .pure fun before earlier => earlier.append (.of_kind word rfl rfl)
  · rename_i word
    apply Covers.advance (by simp [word])
    exact .pure fun before earlier => earlier.append (.of_kind word rfl rfl)
  · rename_i word
    apply Covers.advance (by simp [word])
    exact .pure fun before earlier => earlier.append (.of_kind word rfl rfl)
  · exact .pure fun before earlier => earlier.append .nil

/-- No function starts in the header line of a script. -/
theorem covers_headerLine (blank : Reader.Header) :
    (headerLine blank).Covers cursor fun _ row => Aside row := by
  have named {cursor : Cursor} :
      scriptName.Covers cursor fun _ row => Aside row := by
    unfold scriptName
    apply (covers_expect _ _ (by nofun)).bind
    intro keyword after
    apply (covers_identifier _).mono
    rintro _ _ ⟨token, rfl, named, _⟩ _ ⟨rfl, opens⟩
    exact (Aside.of_kind opens rfl rfl).append (.of_kind named rfl rfl)
  have extended {cursor : Cursor} :
      parentName.Covers cursor fun _ row => Aside row := by
    unfold parentName
    apply Reader.Covers.get
    split
    · rename_i word
      apply Reader.Covers.advance (by simp [word])
      apply (covers_identifier _).bind
      intro name after
      apply Reader.Covers.pure
      rintro _ ⟨token, rfl, named, _⟩
      rw [List.append_nil]
      exact (Aside.of_kind word rfl rfl).append (.of_kind named rfl rfl)
    · exact .pure .nil
  unfold headerLine
  apply Covers.run_bind named
  · intro name after
    apply Covers.run_bind extended
    · intro parent after
      apply Covers.get
      apply (Covers.loop proceeds_headerFlags
        (fun header _ => covers_headerFlags header) _).bind
      intro header after
      apply Covers.run_bind (covers_endOfDeclaration _)
      · intro doc last
        apply Covers.pure
        intro ending ends flags holds parent extended name named
        rw [List.append_nil]
        exact named.append <| extended.append <|
          (holds [] .nil).append (.of_gap ends)
      · exact fun _ _ => tells_recoverAfter _ _
    · exact fun _ _ => tells_recoverAfter _ _
  · exact fun _ _ => tells_recoverAfter _ _

theorem covers_header : Reader.header.Covers cursor fun _ row => Aside row := by
  unfold Reader.header
  apply Covers.get
  dsimp only
  split
  · exact covers_headerLine _
  · apply Tells.covers
    apply Tells.bind (tells_missingHeader cursor)
    exact fun _ _ => .pure _

/-- The functions and events of a script are placed in its tokens. -/
theorem covers_script :
    script.Covers cursor fun tree row =>
      Member.RowOf tree.members row := by
  unfold script
  apply covers_skipNewlines.bind
  intro _ after
  apply Covers.get
  apply covers_header.bind
  intro top after
  apply Covers.get
  apply (Covers.loop proceeds_nextDeclaration
    (fun found _ => covers_nextDeclaration found) _).bind
  intro found last
  apply Covers.get
  apply Covers.pure
  intro row holds header aside before newlines
  rw [List.append_nil]
  have body := holds [] (.nil .nil)
  exact (body.after aside).after (.of_newlines newlines)

/-- What reading a script covers holds of the tokens in front of its end, if it
is accepted. -/
theorem Covers.holds_of_accepted
    {tokens : List Token} {fact : Script → List Token → Prop}
    (covers : script.Covers (start tokens) fact)
    (accepted : (Parsed.ofTokens tokens).diagnostics = []) :
    fact (Parsed.ofTokens tokens).script
      (tokens.takeWhile fun token => token.kind ≠ .endOfText) := by
  have path := path_script tokens
  unfold Covers Ends at covers
  rw [Parsed.ofTokens_eq] at accepted ⊢
  generalize script.run (start tokens) = outcome at *
  obtain ⟨tree, last⟩ := outcome
  have silent : last.reported = [] := List.reverse_eq_nil_iff.1 accepted
  have quiet : last.reported.length ≤ (start tokens).reported.length := by
    rw [silent]
    exact Nat.zero_le _
  obtain ⟨rendering, _, holds, same⟩ := covers.budget.holds quiet
  have row_eq := List.append_cancel_right (same.symm.trans path.budget_eq.1)
  rw [takeWhile_append_missingEnd] at row_eq
  exact row_eq ▸ holds

end Recovery

end PapyrusScript
