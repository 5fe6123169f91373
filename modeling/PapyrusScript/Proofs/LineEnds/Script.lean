import PapyrusScript.Proofs.Detour.Script
import PapyrusScript.Proofs.LineEnds.Declaration
import PapyrusScript.Proofs.Spans.Script

/-!
# Scripts do not depend on how lines end

Members, states, imports and headers start at tokens that are the same in
both texts.  So if a text is read without a report, then so is every text
with the same lines, and the two trees are the same up to their comments.
-/

namespace PapyrusScript

open Cursor

variable {wording : Wording}

/-- What has been read of a state, with other comments. -/
def Reader.StateBody.reworded
    (change : String → String) (found : Reader.StateBody) :
    Reader.StateBody :=
  ⟨found.events.map (Event.reworded change),
    found.hoisted.map (Member.reworded change)⟩

/-- What has been read of a script, with other comments. -/
def Reader.ScriptBody.reworded
    (change : String → String) (found : Reader.ScriptBody) :
    Reader.ScriptBody :=
  { found with members := found.members.map (Member.reworded change) }

/-- The header of a script whose comment is changed. -/
def Reader.Header.reworded
    (change : String → String) (header : Reader.Header) : Reader.Header :=
  { header with doc := header.doc.map change }

theorem Wording.Alike.append {α β : Type} {reworded : (String → String) → α → β}
    {front back frontToo backToo : List α}
    (same : wording.Alike (fun change => List.map (reworded change)) front
      frontToo)
    (more : wording.Alike (fun change => List.map (reworded change)) back
      backToo) :
    wording.Alike (fun change => List.map (reworded change)) (front ++ back)
      (frontToo ++ backToo) := by
  unfold Alike at *
  simp only [List.map_append]
  exact congr (congrArg _ same) more

theorem Wording.Alike.singleton
    {α β : Type} {reworded : (String → String) → α → β} {value other : α}
    (same : wording.Alike reworded value other) :
    wording.Alike (fun change => List.map (reworded change)) [value] [other] :=
  congrArg (fun tree => [tree]) same

theorem Reader.StateBody.alike_iff {found other : Reader.StateBody} :
    wording.Alike reworded found other ↔
      wording.Alike (fun change => List.map (Event.reworded change))
          found.events other.events ∧
        wording.Alike (fun change => List.map (Member.reworded change))
          found.hoisted other.hoisted :=
  Iff.of_eq (Reader.StateBody.mk.injEq _ _ _ _)

theorem Reader.ScriptBody.alike_iff {found other : Reader.ScriptBody} :
    wording.Alike reworded found other ↔
      other.imports = found.imports ∧
        wording.Alike (fun change => List.map (Member.reworded change))
          found.members other.members :=
  Iff.of_eq (Reader.ScriptBody.mk.injEq _ _ _ _)

/-! ## Members -/

namespace Reader

variable {cursor twin : Cursor}

/-- A member behind its type differs by its comments at most. -/
theorem accords_typedMember (abreast : wording.Abreast cursor twin) :
    typedMember.Accords typedMember cursor twin
      (wording.Keeps (wording.Alike Member.reworded)) := by
  refine Accords.after (even_typeName _ _ abreast) ?_
  rintro type _ cursor twin ⟨rfl, abreast⟩
  refine Accords.get ?_
  rcases abreast.kinds with same | ⟨here, there⟩ | ⟨here, there⟩
  · rw [same]
    split
    · refine Accords.map ((accords_function (some type) abreast).mono ?_)
      exact fun _ _ _ _ keeps => ⟨congrArg Member.function keeps.1, keeps.2⟩
    · refine Accords.map ((accords_propertyAfter type abreast).mono ?_)
      exact fun _ _ _ _ keeps => ⟨congrArg Member.property keeps.1, keeps.2⟩
    · refine Accords.map
        ((even_variableAfter type _ _ abreast).accords.mono ?_)
      rintro found _ _ _ ⟨rfl, abreast⟩
      exact ⟨rfl, abreast⟩
    · exact (Beside.reject _ _).accords
  all_goals
    rw [here, there]
    exact (Beside.reject _ _).accords

theorem accords_plainMember (abreast : wording.Abreast cursor twin) :
    plainMember.Accords plainMember cursor twin
      (wording.Keeps (wording.Alike Member.reworded)) := by
  refine Accords.get ?_
  refine Accords.ite (abreast.kind_iff rfl) ?_ ?_
  · intro _
    refine Accords.map ((accords_function none abreast).mono ?_)
    exact fun _ _ _ _ keeps => ⟨congrArg Member.function keeps.1, keeps.2⟩
  · exact fun _ => accords_typedMember abreast

end Reader

/-! ## States -/

namespace Recovery

variable {cursor twin : Cursor}

/-- A line of a state is read alike in both texts. -/
theorem accords_nextInState
    (keyword : Token) (state : String) {found other : Reader.StateBody}
    (same : wording.Alike Reader.StateBody.reworded found other)
    (abreast : wording.Abreast cursor twin) :
    (Reader.nextInState keyword state found).Accords
      (Reader.nextInState keyword state other) cursor twin
        (Step.Both (wording.Keeps (wording.Alike Reader.StateBody.reworded))
          (wording.Keeps (wording.Alike Reader.StateBody.reworded))) := by
  refine Accords.after (beside_skipNewlines abreast) ?_
  intro _ _ cursor twin faces
  have abreast := faces.abreast
  refine Accords.get ?_
  rw [faces.kind]
  split
  · rename_i word
    have here := isFixed_of_kind word rfl
    refine Accords.take_fixed abreast here ?_
    refine Accords.bind (accordant_finishLine _ _ _ (abreast.next here))
      (fun _ _ => .pure _) ?_
    rintro _ _ after twinAfter ⟨_, abreast⟩
    exact .pure ⟨same, abreast⟩
  · rename_i doc
    exact Accords.take (.pure ⟨same, abreast.next_of_docComment doc⟩)
  · refine Accords.run_bind (Reader.accords_event abreast) ?_ ?_ ?_
    · exact fun _ _ => .pure _
    · exact fun diagnostic _ =>
        (tells_reportAndSkipLine diagnostic).bind fun _ _ => .pure _
    · rintro next nextToo after twinAfter ⟨alike, abreast⟩
      obtain ⟨events, hoisted⟩ := Reader.StateBody.alike_iff.1 same
      exact .pure ⟨Reader.StateBody.alike_iff.2
        ⟨events.append alike.singleton, hoisted⟩, abreast⟩
  · exact (tells_unfinishedState keyword found).accords
  · exact (tells_unfinishedState keyword found).accords
  · exact (tells_unfinishedState keyword found).accords
  · exact (tells_unfinishedState keyword found).accords
  · exact (Detour.tells_otherInState keyword state found _ _).accords

theorem accords_stateBody (keyword : Token) (state : String)
    (abreast : wording.Abreast cursor twin) :
    (Reader.stateBody keyword state).Accords (Reader.stateBody keyword state)
      cursor twin (wording.Keeps (wording.Alike Reader.StateBody.reworded)) :=
  by
  have proceeds := proceeds_nextInState keyword state
  refine Accords.inBlock ?_
  refine Accords.mono (Accords.loop
    (wording.Keeps (wording.Alike Reader.StateBody.reworded)) proceeds proceeds
    (fun found other cursor twin keeps =>
      accords_nextInState keyword state keeps.1 keeps.2)
    ⟨rfl, abreast.enter .state⟩) ?_
  exact fun _ _ _ _ keeps => ⟨keeps.1, keeps.2.leave⟩

theorem even_autoMark : Reader.autoMark.Even wording := by
  intro cursor twin abreast
  apply Beside.get
  apply Beside.ite (abreast.kind_iff rfl)
  · intro word
    have here := isFixed_of_kind word rfl
    exact .take_fixed abreast here (.pure ⟨rfl, abreast.next here⟩)
  · exact fun _ => .pure ⟨rfl, abreast⟩

end Recovery

namespace Reader

variable {cursor twin : Cursor}

/-- A state differs by its comments at most. -/
theorem accords_stateMembers (abreast : wording.Abreast cursor twin)
    (fixed : cursor.kind.isFixed = true) :
    stateMembers.Accords stateMembers cursor twin (wording.Keeps
      (wording.Alike fun change => List.map (Member.reworded change))) := by
  refine Accords.get ?_
  rw [abreast.position fixed]
  refine Accords.after (Recovery.even_autoMark.lift _ _ abreast) ?_
  rintro auto _ middle twinMiddle ⟨rfl, abreast⟩
  refine Accords.after (even_expect _ _ rfl _ _ abreast) ?_
  rintro keyword _ middle twinMiddle ⟨rfl, abreast⟩
  refine Accords.after (even_identifier _ _ _ abreast) ?_
  rintro name _ middle twinMiddle ⟨rfl, abreast⟩
  refine Accords.after (even_endOfLine _ _ _ abreast) ?_
  rintro _ _ middle twinMiddle ⟨_, abreast⟩
  have body := Recovery.accords_stateBody keyword name.name abreast
  refine Accords.bind (Accords.lift body)
    (fun _ _ => Recovery.Grows.get (.pure _)) ?_
  rintro found other after twinAfter ⟨same, abreast⟩
  obtain ⟨events, hoisted⟩ := StateBody.alike_iff.1 same
  refine Accords.get ?_
  rw [abreast.spanFrom]
  refine .pure ⟨hoisted.append (Wording.Alike.singleton ?_), abreast⟩
  unfold Wording.Alike at *
  simp [Member.reworded, ScriptState.reworded, events]

/-- Members differ by their comments at most. -/
theorem accords_members (faces : wording.Faces cursor twin) :
    members.Accords members cursor twin (wording.Keeps
      (wording.Alike fun change => List.map (Member.reworded change))) := by
  have abreast := faces.abreast
  refine Accords.get ?_
  rw [faces.kind]
  split
  · refine Accords.bind (accords_event abreast) (fun _ _ => .pure _) ?_
    rintro found other after twinAfter ⟨same, abreast⟩
    exact .pure ⟨Wording.Alike.singleton (congrArg Member.event same), abreast⟩
  · rename_i word
    exact accords_stateMembers abreast (isFixed_of_kind word rfl)
  · rename_i word
    exact accords_stateMembers abreast (isFixed_of_kind word rfl)
  · refine Accords.bind (accords_plainMember abreast) (fun _ _ => .pure _) ?_
    rintro found other after twinAfter ⟨same, abreast⟩
    exact .pure ⟨same.singleton, abreast⟩

/-! ## Imports and headers -/

theorem even_importLine : importLine.Even wording := by
  intro cursor twin abreast
  apply (even_expect _ _ rfl cursor twin abreast).bind
  rintro keyword _ cursor twin ⟨rfl, abreast⟩
  apply (even_identifier _ cursor twin abreast).bind
  rintro name _ cursor twin ⟨rfl, abreast⟩
  apply Beside.get
  rw [abreast.spanFrom]
  exact beside_lineEnd _ _ abreast

theorem even_scriptName : scriptName.Even wording := by
  intro cursor twin abreast
  apply (even_expect _ _ rfl cursor twin abreast).bind
  rintro _ _ cursor twin ⟨_, abreast⟩
  exact even_identifier _ cursor twin abreast

theorem even_parentName : parentName.Even wording := by
  intro cursor twin abreast
  apply Beside.get
  apply Beside.ite (abreast.kind_iff rfl)
  · intro word
    have here := isFixed_of_kind word rfl
    apply Beside.take_fixed abreast here
    apply (even_identifier _ _ _ (abreast.next here)).bind
    rintro name _ after twinAfter ⟨rfl, abreast⟩
    exact .pure ⟨rfl, abreast⟩
  · exact fun _ => .pure ⟨rfl, abreast⟩

end Reader

namespace Recovery

open Reader

variable {cursor twin : Cursor}

/-- A declaration differs by its comments at most. -/
theorem accords_nextDeclaration {found other : Reader.ScriptBody}
    (same : wording.Alike Reader.ScriptBody.reworded found other)
    (abreast : wording.Abreast cursor twin) :
    (nextDeclaration found).Accords (nextDeclaration other)
      cursor twin
        (Step.Both (wording.Keeps (wording.Alike Reader.ScriptBody.reworded))
          (wording.Keeps (wording.Alike Reader.ScriptBody.reworded))) := by
  have told (diagnostic : Diagnostic) (block? : Option Block)
      (cursor : Cursor) :
      Tells (do
        Reader.report diagnostic
        skipMember block?
        return Step.again found) cursor :=
    .report fun after =>
      (travels_skipMember block? after).grows.bind fun _ _ => .pure _
  obtain ⟨imports, members⟩ := Reader.ScriptBody.alike_iff.1 same
  refine Accords.after (beside_skipNewlines abreast) ?_
  intro _ _ cursor twin faces
  have abreast := faces.abreast
  refine Accords.get ?_
  rw [faces.kind, abreast.atDeclaration]
  split
  · exact .pure ⟨same, abreast⟩
  · rename_i doc
    exact Accords.take (.pure ⟨same, abreast.next_of_docComment doc⟩)
  · exact (tells_recoverAfter _ _).accords
  · have reads := even_importLine _ _ abreast
    refine Accords.run_after reads ?_ ?_
    · exact fun diagnostic _ => tells_recoverAfter diagnostic _
    · rintro next _ after twinAfter ⟨rfl, abreast⟩
      rw [imports]
      exact .pure ⟨Reader.ScriptBody.alike_iff.2 ⟨rfl, members⟩, abreast⟩
  · refine Accords.ite Iff.rfl ?_ ?_
    · intro _
      refine Accords.run_bind (accords_members faces) ?_ ?_ ?_
      · exact fun _ _ => .pure _
      · exact fun diagnostic _ => told diagnostic _ _
      · rintro next nextToo after twinAfter ⟨alike, abreast⟩
        exact .pure ⟨Reader.ScriptBody.alike_iff.2
          ⟨imports, members.append alike⟩, abreast⟩
    · exact fun _ => Tells.accords
        (.unexpected fun diagnostic => tells_recoverAfter diagnostic _)

/-- A flag of a script is the same in both texts. -/
theorem beside_headerFlags
    (header : Reader.Header) (abreast : wording.Abreast cursor twin) :
    (headerFlags header).Beside (headerFlags header) cursor twin
      (Step.Both (wording.Keeps Eq) (wording.Keeps Eq)) := by
  apply Beside.get
  rcases abreast.kinds with same | ⟨here, there⟩ | ⟨here, there⟩
  · rw [same]
    split
    · rename_i word
      have here := isFixed_of_kind word rfl
      exact .take_fixed abreast here (.pure ⟨rfl, abreast.next here⟩)
    · rename_i word
      have here := isFixed_of_kind word rfl
      exact .take_fixed abreast here (.pure ⟨rfl, abreast.next here⟩)
    · rename_i word
      have here := isFixed_of_kind word rfl
      exact .take_fixed abreast here (.pure ⟨rfl, abreast.next here⟩)
    · exact .pure ⟨rfl, abreast⟩
  all_goals
    rw [here, there]
    exact .pure ⟨rfl, abreast⟩

/-- The header line of a script differs by its comment at most. -/
theorem accords_headerLine
    (blank : Reader.Header) (abreast : wording.Abreast cursor twin) :
    (headerLine blank).Accords (headerLine blank) cursor twin
      (wording.Keeps (wording.Alike Reader.Header.reworded)) := by
  have names := even_scriptName cursor twin abreast
  refine Accords.run_after names ?_ ?_
  · exact fun diagnostic _ => tells_recoverAfter diagnostic _
  rintro name _ cursor twin ⟨rfl, abreast⟩
  have parents := even_parentName cursor twin abreast
  refine Accords.run_after parents ?_ ?_
  · exact fun diagnostic _ => tells_recoverAfter diagnostic _
  rintro parent _ cursor twin ⟨rfl, abreast⟩
  have flags := even_loop proceeds_headerFlags
    (fun header => beside_headerFlags header) { blank with name, parent } _ _
      abreast
  refine Accords.bind_loop flags.accords ?_ ?_
  · intro header after
    have ends := travels_endOfDeclaration "script header" after
    apply Grows.run_bind ends
    rintro (diagnostic | doc) after
    · exact grows_recoverAfter diagnostic _ after
    · exact .pure _
  rintro header _ cursor twin ⟨rfl, abreast⟩
  have ends := beside_endOfDeclaration "script header" abreast
  refine Accords.run_after ends ?_ ?_
  · exact fun diagnostic _ => tells_recoverAfter diagnostic _
  · rintro doc docToo after twinAfter ⟨same, abreast⟩
    refine .pure ⟨?_, abreast⟩
    unfold Wording.Alike Reader.Header.reworded at *
    simp [same]

/-! ## Whole scripts -/

/-- A script that does not start with its header is reported. -/
theorem tells_header (other : cursor.kind ≠ .keyword .scriptname) :
    Reader.header.Tells cursor := by
  apply Tells.get
  dsimp only
  rw [if_neg other]
  exact (tells_missingHeader cursor).bind fun _ _ => .pure _

theorem accords_header (abreast : wording.Abreast cursor twin)
    (starts : cursor.kind = .keyword .scriptname) :
    Reader.header.Accords Reader.header cursor twin
      (wording.Keeps (wording.Alike Reader.Header.reworded)) := by
  refine Accords.get ?_
  dsimp only
  rw [abreast.position (isFixed_of_kind starts rfl)]
  refine Accords.ite (abreast.kind_iff rfl) ?_ fun other => absurd starts other
  exact fun _ => accords_headerLine _ abreast

/-- Behind its header a script only grows. -/
theorem grows_script
    (start : Position) (top : Reader.Header) (cursor : Cursor) :
    Grows (do
      let found ← loop nextDeclaration (← get).budget ⟨[], []⟩
      return {
        name := top.name
        parent := top.parent
        hidden := top.hidden
        conditional := top.conditional
        native := top.native
        doc := top.doc
        imports := found.imports
        members := found.members
        span := (← get).spanFrom start : Script }) cursor := by
  refine Travels.grows (.get ?_)
  refine (travels_loop proceeds_nextDeclaration _ _ _).bind fun _ _ => ?_
  exact .get (.pure _)

/-- A script differs by its comments at most. -/
theorem accords_script (abreast : wording.Abreast cursor twin) :
    Reader.script.Accords Reader.script cursor twin
      (wording.Keeps (wording.Alike Script.reworded)) := by
  refine Accords.after (beside_skipNewlines abreast) ?_
  intro _ _ cursor twin faces
  have abreast := faces.abreast
  refine Accords.get ?_
  dsimp only
  by_cases starts : cursor.kind = .keyword .scriptname
  · rw [abreast.position (isFixed_of_kind starts rfl)]
    refine Accords.bind (accords_header abreast starts) (grows_script _) ?_
    rintro top other middle twinMiddle ⟨same, abreast⟩
    have nothing : wording.Alike Reader.ScriptBody.reworded ⟨[], []⟩ ⟨[], []⟩ :=
      rfl
    have lines := Accords.loop
      (wording.Keeps (wording.Alike Reader.ScriptBody.reworded))
      proceeds_nextDeclaration proceeds_nextDeclaration
      (fun found other cursor twin keeps =>
        accords_nextDeclaration keeps.1 keeps.2)
      ⟨nothing, abreast⟩
    refine Accords.bind_loop lines (fun _ _ => .get (.pure _)) ?_
    rintro found foundToo after twinAfter ⟨alike, abreast⟩
    refine Accords.get ?_
    rw [abreast.spanFrom]
    obtain ⟨imports, members⟩ := Reader.ScriptBody.alike_iff.1 alike
    obtain ⟨name, parent, hidden, conditional, native, doc⟩ :=
      Reader.Header.mk.inj same
    refine .pure ⟨?_, abreast⟩
    unfold Wording.Alike Script.reworded at *
    simp only [name, parent, hidden, conditional, native, doc, imports, members]
  · exact ((tells_header starts).bind (grows_script _)).accords

/-- Nothing is read before the header without a report. -/
theorem tells_script {cursor : Cursor} (noBreak : cursor.kind ≠ .newline)
    (other : cursor.kind ≠ .keyword .scriptname) :
    Reader.script.Tells cursor := by
  unfold Tells Ends Reader.script
  rw [run_skipNewlines_bind_of_ne _ noBreak]
  exact (tells_header other).bind (grows_script _)

/-- What is read without a report in one run is in the other. -/
theorem alike_of_abreast (abreast : wording.Abreast cursor twin)
    (quiet : (Reader.script.run cursor).2.reported = []) :
    (Reader.script.run twin).2.reported = [] ∧
      wording.Alike Script.reworded (Reader.script.run cursor).1
        (Reader.script.run twin).1 := by
  obtain ⟨same, after⟩ := accords_script abreast quiet
  exact ⟨after.reported.2 quiet, same⟩

end Recovery

/-! ## Whole texts -/

/-- Both runs start abreast if the text starts with its header. -/
theorem Wording.Rows.abreast {tokens twins : List Token}
    (rows : wording.Rows (start tokens).budget (start twins).budget)
    (starts : (start tokens).kind = .keyword .scriptname) :
    wording.Abreast (start tokens) (start twins) := by
  have fixed := isFixed_of_kind starts rfl
  have inLine := Kind.endsLine_of_isFixed fixed
  have same := (Rows.head rows inLine).same fixed
  refine ⟨rows, ?_, ?_, ?_⟩
  · rw [lastEnd_start_eq, lastEnd_start_eq, same]
  · rw [openBlocks_start, openBlocks_start]
  · rw [reported_start, reported_start]

namespace Parsed

/-- Tokens with the lines of some that are read without a report are read
without a report too. -/
theorem alike_ofTokens_of_rows {tokens twins : List Token}
    (rows : wording.Rows (start tokens).budget (start twins).budget)
    (noBreak : (start tokens).kind ≠ .newline)
    (silent : (ofTokens tokens).diagnostics = []) :
    (ofTokens twins).diagnostics = [] ∧
      wording.Alike Script.reworded (ofTokens tokens).script
        (ofTokens twins).script := by
  rw [ofTokens_eq] at silent
  rw [ofTokens_eq, ofTokens_eq]
  have quiet := List.reverse_eq_nil_iff.1 silent
  have starts : (start tokens).kind = .keyword .scriptname := by
    by_contra missing
    exact (Recovery.tells_script noBreak missing).reported_ne_nil quiet
  have both := Recovery.alike_of_abreast (rows.abreast starts) quiet
  exact ⟨List.reverse_eq_nil_iff.2 both.1, both.2⟩

variable {source other : String}

/-- A text with the lines of one that is read without a report is read without
a report too. -/
theorem alike_of_rows (rows : wording.Rows (tokens source) (tokens other))
    (silent : (ofText source).diagnostics = []) :
    (ofText other).diagnostics = [] ∧
      wording.Alike Script.reworded (ofText source).script
        (ofText other).script := by
  rw [← budget_start_tokens source, ← budget_start_tokens other] at rows
  exact alike_ofTokens_of_rows rows (kind_start_ne_newline source) silent

/-- Texts with the same lines are read without a report together. -/
theorem diagnostics_eq_nil_iff_of_rows
    (rows : wording.Rows (tokens source) (tokens other)) :
    (ofText source).diagnostics = [] ↔ (ofText other).diagnostics = [] :=
  ⟨fun silent => (alike_of_rows rows silent).1,
    fun silent => (alike_of_rows rows.swap silent).1⟩

end Parsed

end PapyrusScript
