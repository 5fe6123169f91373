import PapyrusScript.Proofs.Declared
import PapyrusScript.Proofs.Detour.Declaration

/-!
# Scripts around a broken line

A state, a member or a script in which two texts differ crosses the line.  So
of two scripts the second one is the first with one body exchanged, and what
is reported of it is what is reported of the broken line.
-/

namespace PapyrusScript

open Cursor

variable {detour : Detour} {cursor twin : Cursor}

theorem OneOf.concat {α : Type} {edit : α → α → Prop} {list edited : List α}
    (one : OneOf edit list edited) (back : List α) :
    OneOf edit (list ++ back) (edited ++ back) :=
  one.surround [] back

/-- Scripts with one header and the same declarations are the same. -/
theorem Reader.ScriptBody.Same.over
    {found other : Reader.ScriptBody} (same : found.Same other)
    (top : Reader.Header) (span spanTwin : Span) :
    SameBy Script.bare (top.over found span) (top.over other spanTwin) := by
  have imports := same.imports
  have members := same.members
  unfold SameBy at *
  simp only [Script.bare, Reader.Header.over, imports, members]

namespace Detour

open Recovery

/-- What has been read of a state, without what the second text lacks. -/
def StateLacking (detour : Detour) (found twin : Reader.StateBody) : Prop :=
  ∃ events, OneOf (Event.Edited detour.change) found.events events ∧
    ({ found with events } : Reader.StateBody).Same twin

def MemberLacking (detour : Detour) : Member → Member → Prop :=
  EditedUpTo (Member.Edited detour.change) Member.bare

def MembersLacking (detour : Detour) : List Member → List Member → Prop :=
  EditedUpTo (OneOf (Member.Edited detour.change)) (List.map Member.bare)

/-- What has been read of a script, without what the second text lacks. -/
def ScriptLacking (detour : Detour) (found twin : Reader.ScriptBody) : Prop :=
  ∃ members, OneOf (Member.Edited detour.change) found.members members ∧
    ({ found with members } : Reader.ScriptBody).Same twin

theorem statesGrow (detour : Detour) {pairing : Pairing} :
    StatesGrow pairing detour.StateLacking where
  event := by
    rintro found twin ⟨events, one, same⟩ event other sameEvent
    exact ⟨_, one.concat [event],
      { same with events := same.events.concat sameEvent.known }⟩
  hoist := by
    rintro found twin ⟨events, one, same⟩ member other sameMember
    exact ⟨_, one,
      { same with hoisted := same.hoisted.concat sameMember.known }⟩

theorem scriptsGrow (detour : Detour) {pairing : Pairing} :
    ScriptsGrow pairing detour.ScriptLacking where
  imports := by
    rintro found twin ⟨members, one, same⟩ next other sameNext
    exact ⟨_, one,
      { same with imports := same.imports.concat sameNext.known }⟩
  members := by
    rintro found twin ⟨members, one, same⟩ next other sameNext
    exact ⟨_, one.concat next,
      { same with members := same.members.append sameNext.known }⟩

/-! ## States -/

/-- What is no part of a state is reported, whatever becomes of it. -/
theorem tells_otherInState
    (keyword : Token) (state : String) (found : Reader.StateBody)
    (unclosed declares : Bool) :
    Tells (
      if unclosed then
        Reader.unfinishedState keyword found
      else if declares then do
        return .again (← Reader.hoistedMember state found)
      else do
        Reader.reportAndSkipLine
          (← Reader.unexpected "an 'Event' declaration or 'EndState'")
        return .again found) cursor := by
  split
  · exact tells_unfinishedState _ _
  split
  · exact (tells_hoistedMember _ _).bind fun _ _ => .pure _
  · apply Tells.unexpected
    intro diagnostic
    exact (tells_reportAndSkipLine _).bind fun _ _ => .pure _

section Passable

variable (passable : detour.Passable)

include passable

/-- Where the second text differs no event of a state starts. -/
theorem tells_nextInState
    (keyword : Token) (state : String) (found : Reader.StateBody)
    (here : cursor.budget = detour.first :: detour.more) :
    (Reader.nextInState keyword state found).Tells cursor := by
  have kind := kind_of_budget here
  have starts := passable.starts
  rw [← kind] at starts
  simp only [List.mem_cons, List.not_mem_nil, or_false, not_or] at starts
  obtain ⟨noBreak, _, noDoc, noEnd, _⟩ := starts
  have member := passable.undeclared cursor here
  unfold Reader.nextInState Tells Ends
  rw [run_skipNewlines_bind_of_ne _ noBreak, run_get_bind]
  dsimp only
  split
  · rename_i word
    exact absurd word noEnd
  · rename_i doc
    exact absurd doc noDoc
  · rename_i word
    simp [atMemberStart, word] at member
  · exact tells_unfinishedState _ _
  · exact tells_unfinishedState _ _
  · exact tells_unfinishedState _ _
  · exact tells_unfinishedState _ _
  · exact tells_otherInState keyword state found _ _

/-- A line of a state crosses the change in an event, or is reported. -/
theorem crosses_nextInState
    (keyword : Token) (state : String) (found : Reader.StateBody)
    (amid : detour.fork.Amid cursor twin) (other : cursor.kind ≠ .newline) :
    (Reader.nextInState keyword state found).Crosses detour.failure cursor twin
      (Step.Parts (fun _ => detour.fork.Along) fun _ => detour.fork.Along)
      (Step.Decides detour.StateLacking) := by
  have otherToo : twin.kind ≠ .newline := by rwa [amid.kind]
  have marked := amid.both (.keyword .auto) (.keyword .state) rfl
  rw [amid.kind] at marked
  refine Crosses.congr ?_ (run_skipNewlines_bind_of_ne _ other)
    (run_skipNewlines_bind_of_ne _ otherToo)
  apply Crosses.look (by simp only [amid.kind, marked, amid.atDeclaration])
  split
  · rename_i word
    apply Crosses.take amid
    apply (agrees_finishLine (amid.next (by rw [word]; rfl)) _).bindCrosses
    exact fun _ _ _ along => .pure along
  · rename_i doc
    exact .take amid (.pure (amid.next (by rw [doc]; rfl)).along)
  · apply Crosses.run_bind (crosses_event passable amid)
    · intro answer after
      cases answer with
      | ok next => exact .pure _
      | error diagnostic =>
        exact (grows_reportAndSkipLine _).bind fun _ _ => .pure _
    · exact fun _ _ _ _ along => .pure along
    · rintro next twinNext ⟨edited, changed, same⟩ news
      apply Matches.pure
      refine ⟨found.events ++ [edited],
        ⟨found.events, next, edited, [], rfl, rfl, changed⟩, ?_, rfl⟩
      have front : SameBy (List.map Event.bare) found.events found.events := rfl
      exact front.concat same
    · exact fun _ _ => (tells_reportAndSkipLine _).bind fun _ _ => .pure _
  · exact (tells_unfinishedState _ _).crosses
  · exact (tells_unfinishedState _ _).crosses
  · exact (tells_unfinishedState _ _).crosses
  · exact (tells_unfinishedState _ _).crosses
  · exact (tells_otherInState keyword state found _ _).crosses

/-- Of the events of a state one may lack something in its body. -/
theorem crosses_stateBody
    (keyword : Token) (state : String) (along : detour.fork.Along cursor twin) :
    (Reader.stateBody keyword state).Crosses detour.failure cursor twin
      (fun _ => detour.fork.Along) detour.StateLacking := by
  have proceeds := proceeds_nextInState keyword state
  have lines := crosses_lines passable proceeds
    (fun _ cursor => run_skipNewlines_bind _ cursor) (kept_nothing _)
    (fun found _ _ _ amid other =>
      crosses_nextInState passable keyword state found amid other)
    (fun found _ _ _ _ faces =>
      (tells_outside passable proceeds
        (fun found _ => run_nextInState_of_docComment keyword state found)
        (fun found _ => tells_nextInState passable keyword state found) found
        faces).crosses)
    (fun _ _ lacking _ => matches_nextInState False.elim detour.statesGrow state
      lacking) ⟨[], []⟩ trivial (along.enter .state)
  apply Crosses.inBlock
  apply lines.mono
  · exact fun _ _ _ _ along => along.leave
  · exact fun _ _ holds => holds

/-! ## Members -/

/-- A member behind a type crosses the line in its body. -/
theorem crosses_typedMember (amid : detour.fork.Amid cursor twin) :
    Reader.typedMember.Crosses detour.failure cursor twin
      (fun _ => detour.fork.Along) detour.MemberLacking := by
  apply (Reader.steady_typeName cursor twin amid).bindCrosses
  intro type cursor twin inside
  have amid := inside.2
  apply Reader.Crosses.look (by simp only [amid.kind])
  split
  · apply Reader.Crosses.map
    apply (crosses_function passable (some type) amid).mono
    · exact fun _ _ _ _ known => known.2
    · rintro tree twinTree ⟨edited, changed, same⟩
      exact ⟨.function edited, .function changed, congrArg Member.function same⟩
  · apply Reader.Crosses.map
    apply (crosses_propertyAfter passable type amid).mono
    · exact fun _ _ _ _ along => along
    · rintro tree twinTree ⟨source, changed, same⟩
      exact ⟨.property { tree with source }, .property changed,
        congrArg Member.property same⟩
  · exact .map (Reader.agrees_variableAfter type amid).crosses
  · exact (Reader.Agrees.reject amid).crosses

theorem crosses_plainMember (amid : detour.fork.Amid cursor twin) :
    Reader.plainMember.Crosses detour.failure cursor twin
      (fun _ => detour.fork.Along) detour.MemberLacking := by
  apply Reader.Crosses.look (by simp only [amid.kind])
  split
  · apply Reader.Crosses.map
    apply (crosses_function passable none amid).mono
    · exact fun _ _ _ _ known => known.2
    · rintro tree twinTree ⟨edited, changed, same⟩
      exact ⟨.function edited, .function changed, congrArg Member.function same⟩
  · exact crosses_typedMember passable amid

/-- A state crosses the line in one of its events. -/
theorem crosses_stateMembers (amid : detour.fork.Amid cursor twin) :
    Reader.stateMembers.Crosses detour.failure cursor twin
      (fun _ => detour.fork.Along) detour.MembersLacking := by
  apply Reader.Crosses.look (by simp only [amid.position])
  have marked : Reader.Agrees (liftM Reader.autoMark) detour.fork cursor twin
      fun _ => detour.fork.Amid :=
    .lift (agrees_autoMark amid)
  apply marked.bindCrosses
  intro auto after twin amid
  apply (Reader.steady_expect _ _ rfl after twin amid).bindCrosses
  intro keyword after twin inside
  apply (Reader.steady_identifier _ after twin inside.2).bindCrosses
  intro name after twin inside
  apply (Reader.agrees_endOfLine inside.2 _).bindCrosses
  intro _ after twin along
  apply (Reader.Crosses.lift (crosses_stateBody passable keyword name.name
    along)).bind
  · exact fun _ _ => .pure _
  · intro found after twin _ along
    exact .look (by simp only [along.spanFrom]) (.pure along)
  · rintro found twinFound ⟨events, one, same⟩ news
    apply Reader.Matches.get
    intro _ _ _
    apply Reader.Matches.pure
    refine ⟨_, ⟨found.hoisted, _, _, [], rfl, rfl, .state one⟩, ?_⟩
    apply SameBy.concat same.hoisted
    have events := same.events
    unfold SameBy at *
    simp only [Member.bare, ScriptState.bare, events]

/-- Members cross the line in the body of one of them. -/
theorem crosses_members (amid : detour.fork.Amid cursor twin) :
    Reader.members.Crosses detour.failure cursor twin
      (fun _ => detour.fork.Along) detour.MembersLacking := by
  have single {member other : Member}
      (lacking : detour.MemberLacking member other) :
      detour.MembersLacking [member] [other] := by
    obtain ⟨edited, changed, same⟩ := lacking
    exact ⟨[edited], ⟨[], member, edited, [], rfl, rfl, changed⟩,
      congrArg (fun tree => [tree]) same⟩
  apply Reader.Crosses.look (by simp only [amid.kind])
  split
  · apply (crosses_event passable amid).bind
    · exact fun _ _ => .pure _
    · exact fun _ _ _ _ along => .pure along
    · rintro tree other ⟨edited, changed, same⟩ news
      exact .pure (single ⟨.event edited, .event changed,
        congrArg Member.event same⟩)
  · exact crosses_stateMembers passable amid
  · exact crosses_stateMembers passable amid
  · apply (crosses_plainMember passable amid).bind
    · exact fun _ _ => .pure _
    · exact fun _ _ _ _ along => .pure along
    · exact fun _ _ lacking _ => .pure (single lacking)

/-! ## Scripts -/

/-- A declaration of a script crosses the line in its body. -/
theorem crosses_nextDeclaration
    (found : Reader.ScriptBody) (amid : detour.fork.Amid cursor twin)
    (other : cursor.kind ≠ .newline) :
    (Reader.nextDeclaration found).Crosses detour.failure cursor twin
      (Step.Parts (fun _ => detour.fork.Along) fun _ _ _ => False)
      (Step.Decides detour.ScriptLacking) := by
  have otherToo : twin.kind ≠ .newline := by rwa [amid.kind]
  refine Crosses.congr ?_ (run_skipNewlines_bind_of_ne _ other)
    (run_skipNewlines_bind_of_ne _ otherToo)
  apply Crosses.look (by
    simp only [amid.kind, amid.position, amid.atDeclaration, amid.memberBlock?])
  split
  · rename_i atEnd
    exact absurd atEnd amid.known
  · rename_i doc
    exact .take amid (.pure (amid.next (by rw [doc]; rfl)).along)
  · exact (tells_recoverAfter _ _).crosses
  · apply Agrees.run_bindCrosses (Reader.agrees_importLine amid)
    · exact fun _ _ _ along => .pure along
    · exact fun _ _ => tells_recoverAfter _ _
  · split
    · have told (diagnostic : Diagnostic) (after : Cursor) : Tells (do
          Reader.report diagnostic
          Reader.skipMember cursor.memberBlock?
          return Step.again found) after := by
        apply Tells.report
        intro after
        exact (travels_skipMember _ after).grows.bind fun _ _ => .pure _
      apply Crosses.run_bind (crosses_members passable amid)
      · intro answer after
        cases answer with
        | ok next => exact .pure _
        | error diagnostic =>
          have reported : (Reader.report diagnostic).Grows after :=
            Cursor.grows_report after diagnostic
          apply reported.bind
          intro _ after
          exact (travels_skipMember _ after).grows.bind fun _ _ => .pure _
      · exact fun _ _ _ _ along => .pure along
      · rintro next twinNext ⟨edited, one, same⟩ news
        apply Matches.pure
        have whole := one.surround found.members []
        rw [List.append_nil, List.append_nil] at whole
        have front : SameBy (List.map Member.bare) found.members found.members :=
          rfl
        exact ⟨_, whole, rfl, front.append same⟩
      · exact told
    · apply Tells.crosses
      apply Tells.unexpected
      exact fun _ => tells_recoverAfter _ _

/-- Between its declarations the first text does not come to the place where
the texts differ, so they are crossed. -/
theorem crosses_declarations {tokens : List Token} {found : Reader.ScriptBody}
    (inside : ∀ found cursor, DeclaredUpTo tokens found cursor →
      cursor.budget ≠ detour.rest)
    (upTo : DeclaredUpTo tokens found cursor)
    (along : detour.fork.Along cursor twin) :
    Crosses
      (get >>= fun cursor => loop Reader.nextDeclaration cursor.budget found)
      detour.failure cursor twin (fun _ _ _ => False)
      detour.ScriptLacking := by
  refine crosses_lines passable proceeds_nextDeclaration
    (fun _ cursor => run_skipNewlines_bind _ cursor) ⟨?_, ?_⟩
    (fun found _ _ _ amid other =>
      crosses_nextDeclaration passable found amid other)
    (fun found cursor twin _ upTo faces => ?_)
    (fun _ _ lacking _ => matches_nextDeclaration detour.scriptsGrow lacking)
    found upTo along
  · exact fun _ _ upTo => upTo.behind_newlines
  · intro found cursor upTo following again
    exact upTo.next (Prod.ext again rfl)
  · exact absurd faces.here (inside found cursor upTo)

/-- The header line of a script is the same in both texts. -/
theorem crosses_headerLine
    (blank : Reader.Header) (amid : detour.fork.Amid cursor twin) :
    (Reader.headerLine blank).Crosses detour.failure cursor twin
      (fun _ => detour.fork.Along) fun _ _ => False := by
  apply Agrees.run_bindCrosses (Reader.steady_scriptName cursor twin amid)
  · intro name cursor twin inside
    apply Agrees.run_bindCrosses
      (Reader.steady_parentName cursor twin inside.2)
    · intro parent cursor twin inside
      apply Agrees.loop_bindCrosses (Agrees.loop (fun _ => detour.fork.Amid)
        proceeds_headerFlags
        (fun header _ _ amid => agrees_headerFlags header amid) inside.2)
      intro header cursor twin amid
      rcases Reader.agreesOrFails_endOfDeclaration passable.plain amid
          "script header" with failed | agrees
      · apply Tells.crosses
        unfold Tells
        rw [ends_bind, ends_run]
        apply (failed.and (Reader.travels_endOfDeclaration _ cursor)).mono
        · exact fun _ _ never => never.1.elim
        · rintro diagnostic after ⟨-, reaches, -⟩
          have told : Tells (Reader.reportAndRecover diagnostic >>= fun _ =>
              pure header) after :=
            tells_recoverAfter diagnostic header
          apply told.mono
          exact fun _ _ more => Nat.lt_of_le_of_lt reaches.grows.reported more
      · apply Agrees.run_bindCrosses agrees
        · exact fun _ _ _ along => .pure along
        · exact fun _ _ => tells_recoverAfter _ _
    · exact fun _ _ => tells_recoverAfter _ _
  · exact fun _ _ => tells_recoverAfter _ _

/-- A header is read in both texts, and where they differ there is none. -/
theorem crosses_scriptTop (along : detour.fork.Along cursor twin) :
    scriptTop.Crosses detour.failure cursor twin (fun _ => detour.fork.Along)
      fun _ _ => False := by
  apply (agrees_skipNewlines passable along).bindCrosses
  rintro _ cursor twin (faces | ⟨amid, -⟩)
  · have missing : cursor.kind ≠ .keyword .scriptname := by
      rcases passable.cases_budget faces with doc | here
      · rw [doc]
        nofun
      · have member := passable.undeclared cursor here
        intro heads
        simp [atMemberStart, heads] at member
    apply Tells.crosses
    apply Tells.get
    rw [if_neg missing]
    exact (tells_missingHeader cursor).bind fun _ _ => .pure _
  · apply Crosses.look (by simp only [amid.kind, amid.position])
    dsimp only
    split
    · exact crosses_headerLine passable _ amid
    · apply Tells.crosses
      exact (tells_missingHeader cursor).bind fun _ _ => .pure _

/-- Of two texts with the place in a body, the script of the second is that of
the first without what is missing there, and the first error is that of the
broken line. -/
theorem exists_edited {tokens others : List Token}
    (along : detour.fork.Along (start tokens) (start others))
    (inside : ∀ found cursor, DeclaredUpTo tokens found cursor →
      cursor.budget ≠ detour.rest)
    (silent : (Parsed.ofTokens tokens).diagnostics = []) :
    ∃ edited, (Parsed.ofTokens tokens).script.Edited detour.change edited ∧
      SameBy Script.bare edited (Parsed.ofTokens others).script ∧
        FirstReport detour.failure
          (Reader.script.run (start others)).2.reported := by
  have quiet := DeclaredUpTo.top.reported_of_silent silent
  rcases crosses_scriptTop passable along quiet with
    ⟨sameTop, along⟩ | ⟨never, -⟩
  · -- what is declared, from behind the header
    have crosses := crosses_declarations passable inside .top along
    have finished := terminates_of_proceeds proceeds_nextDeclaration ⟨[], []⟩
    obtain ⟨span, whole⟩ := exists_over_of_finishes
      (finished (scriptTop.run (start tokens)).2)
    obtain ⟨spanTwin, wholeTwin⟩ := exists_over_of_finishes
      (finished (scriptTop.run (start others)).2)
    rw [Parsed.ofTokens_eq, List.reverse_eq_nil_iff, whole] at silent
    rcases crosses silent with ⟨-, never⟩ | ⟨lacking, joined⟩
    · exact never.elim
    obtain ⟨members, one, same⟩ := lacking
    rw [Parsed.ofTokens_eq, Parsed.ofTokens_eq, whole, wholeTwin]
    refine ⟨_, ⟨members, one, rfl⟩, ?_, joined.reported⟩
    rw [sameTop]
    exact same.over _ span spanTwin
  · exact never.elim

end Passable

end Detour

end PapyrusScript
