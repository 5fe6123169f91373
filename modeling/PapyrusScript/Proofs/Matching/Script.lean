import PapyrusScript.Proofs.Composition
import PapyrusScript.Proofs.Matching.Declaration

/-!
# Matching scripts

What a state hoists, what is read after an error, and where the reading of a
script goes on is decided by kinds of tokens alone.

So two rows of tokens that stand for each other are parsed to the same script
up to places, and the reports tell the same.
-/

namespace PapyrusScript

variable {pairing : Pairing}

namespace Reader

/-- What has been read of two states is the same up to places. -/
structure StateBody.Same (found twin : StateBody) : Prop where
  events : SameBy (List.map Event.bare) found.events twin.events
  hoisted : SameBy (List.map Member.bare) found.hoisted twin.hoisted

/-- What has been read of two scripts is the same up to places. -/
structure ScriptBody.Same (found twin : ScriptBody) : Prop where
  imports : SameBy (List.map Import.bare) found.imports twin.imports
  members : SameBy (List.map Member.bare) found.members twin.members

/-- The headers of two scripts are the same up to places. -/
structure Header.Same (pairing : Pairing) (header twin : Header) : Prop where
  name : pairing.Twins Identifier.bare header.name twin.name
  parent : pairing.Twins (Option.map Identifier.bare) header.parent twin.parent
  hidden : twin.hidden = header.hidden
  conditional : twin.conditional = header.conditional
  native : twin.native = header.native
  doc : twin.doc = header.doc

/-! ## Members -/

/-- A member behind its type is the same up to places. -/
theorem matches_typedMember :
    typedMember.Matches pairing typedMember (pairing.Twins Member.bare) := by
  apply matches_typeName.bind
  intro type twinType sameType
  apply Matches.get
  intro cursor twin alike
  rw [alike.kind]
  split
  · apply Matches.map
    exact (matches_function sameType.some).mono
      fun _ _ same => same.wrap Member.function fun _ => rfl
  · apply Matches.map
    exact (matches_propertyAfter sameType).mono
      fun _ _ same => same.wrap Member.property fun _ => rfl
  · apply Matches.map
    exact (matches_variableAfter sameType).mono
      fun _ _ same => same.wrap Member.variable fun _ => rfl
  · exact matches_reject _

theorem matches_plainMember :
    plainMember.Matches pairing plainMember (pairing.Twins Member.bare) := by
  apply Matches.get
  intro cursor twin alike
  apply Matches.ite (by rw [alike.kind])
  · intro _
    apply Matches.map
    exact (matches_function (.refl _ _)).mono
      fun _ _ same => same.wrap Member.function fun _ => rfl
  · exact fun _ => matches_typedMember

end Reader

/-! ## States -/

namespace Recovery

open Reader

/-- A relation of what has been read of two states that further events and
members keep. -/
structure StatesGrow
    (pairing : Pairing) (same : StateBody → StateBody → Prop) : Prop where
  event : ∀ {found twin}, same found twin → ∀ {event other},
    pairing.Twins Event.bare event other →
      same { found with events := found.events ++ [event] }
        { twin with events := twin.events ++ [other] }
  hoist : ∀ {found twin}, same found twin → ∀ {member other},
    pairing.Twins Member.bare member other →
      same { found with hoisted := found.hoisted ++ [member] }
        { twin with hoisted := twin.hoisted ++ [other] }

theorem statesGrow_same :
    StatesGrow pairing (pairing.Same StateBody.Same) where
  event same _ _ event :=
    ⟨{ same.known with events := same.known.events.concat event.known },
      fun still => by rw [same.equal still, event.equal still]⟩
  hoist same _ _ member :=
    ⟨{ same.known with hoisted := same.known.hoisted.concat member.known },
      fun still => by rw [same.equal still, member.equal still]⟩

section States

variable {related : StateBody → StateBody → Prop}
variable {found twin : StateBody}

theorem matches_hoistedMember
    (grow : StatesGrow pairing related) (state : String) (same : related found twin) :
    (hoistedMember state found).Matches pairing (hoistedMember state twin)
      related := by
  apply Matches.get
  intro cursor twinCursor alike
  rw [alike.kind, alike.memberBlock?]
  apply Matches.report (Pairing.tells_of_syntactic rfl alike.position)
  apply Matches.run_bind matches_plainMember
  · exact fun _ _ member => .pure (grow.hoist same member)
  · intro _ _ tells
    apply Matches.report tells
    apply (matches_skipMember _).bind
    exact fun _ _ _ => .pure same

section Opened

variable {keyword twinKeyword : Token}
  (opens : pairing.Still → twinKeyword.span = keyword.span)
include opens

theorem matches_unfinishedState (same : related found twin) :
    (unfinishedState keyword found).Matches pairing
      (unfinishedState twinKeyword twin) (Step.Decides related) := by
  apply (matches_reportUnterminated _ opens).bind
  exact fun _ _ _ => .pure same

/-- A line of a state keeps what is known of both runs. -/
theorem matches_nextInState
    (grow : StatesGrow pairing related) (state : String)
    (same : related found twin) :
    (nextInState keyword state found).Matches pairing
      (nextInState twinKeyword state twin) (Step.Decides related) := by
  apply matches_skipNewlines.bind
  intro _ _ _
  apply Matches.get
  intro cursor twinCursor alike
  rw [alike.kind, alike.kindAt, alike.atDeclaration]
  split
  · apply Matches.take
    intro _ _ _
    apply (matches_finishLine _).bind
    exact fun _ _ _ => .pure same
  · apply Matches.take
    exact fun _ _ _ => .pure same
  · apply Matches.run_bind matches_event
    · exact fun _ _ event => .pure (grow.event same event)
    · exact fun _ _ tells => matches_skipLineAfter tells same
  · exact matches_unfinishedState opens same
  · exact matches_unfinishedState opens same
  · exact matches_unfinishedState opens same
  · exact matches_unfinishedState opens same
  · apply Matches.ite Iff.rfl
    · exact fun _ => matches_unfinishedState opens same
    intro _
    apply Matches.ite Iff.rfl
    · intro _
      apply (matches_hoistedMember grow state same).bind
      exact fun _ _ hoisted => .pure hoisted
    · intro _
      apply (matches_unexpected _).bind
      exact fun _ _ tells => matches_skipLineAfter tells same

end Opened

end States

theorem matches_stateBody {keyword twinKeyword : Token}
    (opens : pairing.Still → twinKeyword.span = keyword.span)
    (state : String) :
    (stateBody keyword state).Matches pairing (stateBody twinKeyword state)
      (pairing.Same StateBody.Same) := by
  apply Matches.inBlock
  apply Matches.get
  intro cursor twin alike
  exact .loop (fun _ _ => matches_nextInState opens statesGrow_same state)
    alike.length ⟨⟨rfl, rfl⟩, fun _ => rfl⟩

theorem matches_autoMark :
    autoMark.Matches pairing autoMark fun auto twin => twin = auto := by
  apply Matches.get
  intro cursor twin alike
  apply Matches.ite (by rw [alike.kind])
  · intro _
    apply Matches.take
    exact fun _ _ _ => .pure rfl
  · exact fun _ => .pure rfl

end Recovery

namespace Reader

/-- A state and what it hoists are the same up to places. -/
theorem matches_stateMembers :
    stateMembers.Matches pairing stateMembers
      (pairing.Twins (List.map Member.bare)) := by
  apply Matches.get
  intro first twinFirst here
  apply (Matches.lift Recovery.matches_autoMark).bind
  rintro _ auto rfl
  apply (matches_expect _ _).bind
  intro keyword twinKeyword pair
  apply (matches_identifier _).bind
  intro name twinName sameName
  apply (matches_endOfLine _).bind
  intro _ _ _
  rw [Identifier.sameBy_iff.1 sameName.known]
  apply (Matches.lift (Recovery.matches_stateBody
    (fun still => pairing.span still pair) _)).bind
  intro found twin same
  apply Matches.get
  intro cursor twinCursor alike
  apply Matches.pure
  refine ⟨same.known.hoisted.concat ?_, fun still => ?_⟩
  · have name := sameName.known
    have events := same.known.events
    unfold SameBy at *
    simp only [Member.bare, ScriptState.bare, name, events]
  · rw [same.equal still, sameName.equal still, here.position still,
      alike.spanFrom still]

theorem matches_members :
    members.Matches pairing members (pairing.Twins (List.map Member.bare)) := by
  apply Matches.get
  intro cursor twin alike
  rw [alike.kind]
  split
  · apply matches_event.bind
    exact fun _ _ same =>
      .pure (same.wrap Member.event fun _ => rfl).singleton
  · exact matches_stateMembers
  · exact matches_stateMembers
  · apply matches_plainMember.bind
    exact fun _ _ same => .pure same.singleton

theorem matches_importLine :
    importLine.Matches pairing importLine (pairing.Twins Import.bare) := by
  apply (matches_expect _ _).bind
  intro keyword twinKeyword pair
  apply (matches_identifier _).bind
  intro name twinName sameName
  apply Matches.get
  intro cursor twin alike
  apply (matches_endOfLine _).bind
  intro _ _ _
  apply Matches.pure
  refine ⟨congrArg (Import.mk · .nowhere) sameName.known, fun still => ?_⟩
  rw [sameName.equal still, pairing.span still pair, alike.spanFrom still]

theorem matches_parentName :
    parentName.Matches pairing parentName
      (pairing.Twins (Option.map Identifier.bare)) := by
  apply Matches.get
  intro cursor twin alike
  apply Matches.ite (by rw [alike.kind])
  · intro _
    apply Matches.take
    intro _ _ _
    apply (matches_identifier _).bind
    exact fun _ _ same => .pure same.some
  · exact fun _ => .pure (.refl _ _)

theorem matches_scriptName :
    scriptName.Matches pairing scriptName (pairing.Twins Identifier.bare) := by
  apply (matches_expect _ _).bind
  exact fun _ _ _ => matches_identifier _

end Reader

/-! ## Scripts -/

namespace Recovery

open Reader

/-- An error is reported, the reading goes on at the next declaration, and
what has been found before is left. -/
theorem matches_recoverAfter {α : Type} {same : α → α → Prop} {value twin : α}
    {diagnostic other : Diagnostic} (tells : pairing.Tells diagnostic other)
    (holds : same value twin) :
    Matches
      (do
        reportAndRecover diagnostic
        return value) pairing
      (do
        reportAndRecover other
        return twin) same := by
  have recovered := Matches.report tells matches_recoverToMember
  exact recovered.bind fun _ _ _ => .pure holds

/-- A relation of what has been read of two scripts that further imports and
members keep. -/
structure ScriptsGrow
    (pairing : Pairing) (same : ScriptBody → ScriptBody → Prop) : Prop where
  imports : ∀ {found twin}, same found twin → ∀ {next other},
    pairing.Twins Import.bare next other →
      same { found with imports := found.imports ++ [next] }
        { twin with imports := twin.imports ++ [other] }
  members : ∀ {found twin}, same found twin → ∀ {next other},
    pairing.Twins (List.map Member.bare) next other →
      same { found with members := found.members ++ next }
        { twin with members := twin.members ++ other }

theorem scriptsGrow_same :
    ScriptsGrow pairing (pairing.Same ScriptBody.Same) where
  imports same _ _ next :=
    ⟨{ same.known with imports := same.known.imports.concat next.known },
      fun still => by rw [same.equal still, next.equal still]⟩
  members same _ _ next :=
    ⟨{ same.known with members := same.known.members.append next.known },
      fun still => by rw [same.equal still, next.equal still]⟩

/-- A declaration of a script keeps what is known of both runs. -/
theorem matches_nextDeclaration
    {related : ScriptBody → ScriptBody → Prop}
    (grow : ScriptsGrow pairing related)
    {found twin : ScriptBody} (same : related found twin) :
    (nextDeclaration found).Matches pairing (nextDeclaration twin)
      (Step.Decides related) := by
  apply matches_skipNewlines.bind
  intro _ _ _
  apply Matches.get
  intro cursor twinCursor alike
  rw [alike.kind, alike.atDeclaration, alike.memberBlock?]
  split
  · exact .pure same
  · apply Matches.take
    exact fun _ _ _ => .pure same
  · exact matches_recoverAfter
      (Pairing.tells_of_syntactic rfl alike.position) same
  · apply Matches.run_bind matches_importLine
    · exact fun _ _ next => .pure (grow.imports same next)
    · exact fun _ _ tells => matches_recoverAfter tells same
  · apply Matches.ite Iff.rfl
    · intro _
      apply Matches.run_bind matches_members
      · exact fun _ _ next => .pure (grow.members same next)
      · intro _ _ tells
        apply Matches.report tells
        apply (matches_skipMember _).bind
        exact fun _ _ _ => .pure same
    · intro _
      apply (matches_unexpected _).bind
      exact fun _ _ tells => matches_recoverAfter tells same

/-- A flag of a script changes both headers alike. -/
theorem matches_headerFlags
    {header twin : Header} (same : Header.Same pairing header twin) :
    (headerFlags header).Matches pairing (headerFlags twin)
      (Step.Decides (Header.Same pairing)) := by
  apply Matches.get
  intro cursor twinCursor alike
  rw [alike.kind]
  split
  · apply Matches.take
    exact fun _ _ _ => .pure { same with hidden := rfl }
  · apply Matches.take
    exact fun _ _ _ => .pure { same with conditional := rfl }
  · apply Matches.take
    exact fun _ _ _ => .pure { same with native := rfl }
  · exact .pure same

/-- The header line of a script is the same up to places. -/
theorem matches_headerLine
    {blank twin : Header} (same : Header.Same pairing blank twin) :
    (headerLine blank).Matches pairing (headerLine twin)
      (Header.Same pairing) := by
  apply Matches.run_bind matches_scriptName
  · intro name twinName sameName
    have named : Header.Same pairing { blank with name }
        { twin with name := twinName } :=
      { same with name := sameName }
    apply Matches.run_bind matches_parentName
    · intro parent twinParent sameParent
      apply Matches.get
      intro cursor twinCursor alike
      have started : Header.Same pairing { blank with name, parent }
          { twin with name := twinName, parent := twinParent } :=
        { named with parent := sameParent }
      apply (Matches.loop (fun _ _ => matches_headerFlags) alike.length
        started).bind
      intro header twinHeader sameHeader
      apply Matches.run_bind (matches_endOfDeclaration _)
      · exact fun _ _ doc => .pure { sameHeader with doc := doc }
      · exact fun _ _ tells => matches_recoverAfter tells sameHeader
    · exact fun _ _ tells => matches_recoverAfter tells named
  · exact fun _ _ tells => matches_recoverAfter tells same

theorem matches_missingHeader :
    missingHeader.Matches pairing missingHeader fun _ _ => True := by
  apply Matches.get
  intro cursor twin alike
  apply (matches_unexpected _).bind
  intro diagnostic other tells
  apply Matches.report tells
  apply Matches.ite (by rw [alike.atDeclaration])
  · exact fun _ => matches_recoverToMember
  · exact fun _ => .pure trivial

theorem matches_header :
    header.Matches pairing header (Header.Same pairing) := by
  apply Matches.get
  intro cursor twin alike
  have blank : Header.Same pairing (blankHeader cursor.position)
      (blankHeader twin.position) :=
    ⟨⟨rfl, fun still => by rw [blankHeader, alike.position still]; rfl⟩,
      .refl _ _, rfl, rfl, rfl, rfl⟩
  apply Matches.ite (by rw [alike.kind])
  · exact fun _ => matches_headerLine blank
  · intro _
    apply matches_missingHeader.bind
    exact fun _ _ _ => .pure blank

/-- A script is the same up to places. -/
theorem matches_script :
    script.Matches pairing script (pairing.Twins Script.bare) := by
  apply matches_skipNewlines.bind
  intro _ _ _
  apply Matches.get
  intro first twinFirst here
  apply matches_header.bind
  intro top twinTop sameTop
  apply Matches.get
  intro cursor twin alike
  have blank : pairing.Same ScriptBody.Same ⟨[], []⟩ ⟨[], []⟩ :=
    ⟨⟨rfl, rfl⟩, fun _ => rfl⟩
  apply (Matches.loop (fun _ _ => matches_nextDeclaration scriptsGrow_same)
    alike.length blank).bind
  intro found twinFound same
  apply Matches.get
  intro last twinLast later
  apply Matches.pure
  refine ⟨?_, fun still => ?_⟩
  · have name := sameTop.name.known
    have parent := sameTop.parent.known
    have imports := same.known.imports
    have members := same.known.members
    unfold SameBy at *
    simp only [Script.bare, name, parent, sameTop.hidden, sameTop.conditional,
      sameTop.native, sameTop.doc, imports, members]
  · simp only [sameTop.name.equal still, sameTop.parent.equal still,
      sameTop.hidden, sameTop.conditional, sameTop.native, sameTop.doc,
      same.equal still, here.position still, later.spanFrom still]

end Recovery

/-! ## Parsing -/

namespace Pairing

open Cursor

variable {β : Type} {tokens twins : List Token} {view : Token → β}

/-- Rows that look the same are given an end of the text in the same cases, if
that end looks the same too. -/
theorem view_append_missingEnd (same : twins.map view = tokens.map view)
    (kind : ∀ {token twin : Token}, view twin = view token →
      twin.kind = token.kind)
    (ends : ∀ {token twin : Token}, view twin = view token →
      view (.endOfText twin.span.stop) = view (.endOfText token.span.stop)) :
    (twins ++ missingEnd twins).map view =
      (tokens ++ missingEnd tokens).map view := by
  have last : twins.getLast?.map view = tokens.getLast?.map view := by
    rw [← List.getLast?_map, ← List.getLast?_map, same]
  rw [List.map_append, List.map_append, same]
  unfold missingEnd
  cases found : tokens.getLast? with
  | none =>
    have missing : twins.getLast? = none := by simpa [found] using last
    rw [missing]
  | some token =>
    obtain ⟨twin, given, alike⟩ : ∃ twin, twins.getLast? = some twin ∧
        view twin = view token := by
      simpa [found] using last
    rw [given]
    dsimp only
    rw [kind alike]
    split
    · rfl
    · rw [List.map_singleton, List.map_singleton, ends alike]

/-- In front of rows that stand for each other the first cursors resemble each
other. -/
theorem resembles_start
    (rows : List.Forall₂ pairing.pairs (tokens ++ missingEnd tokens)
      (twins ++ missingEnd twins))
    (nothing : pairing.told = []) (nothingTwin : pairing.toldTwin = []) :
    pairing.Resembles (start tokens) (start twins) where
  budget := by rwa [budget_start, budget_start]
  lastEnd still := by
    rw [← budget_start, ← budget_start, Cursor.budget, Cursor.budget,
      List.forall₂_cons] at rows
    rw [lastEnd_start_eq, lastEnd_start_eq, pairing.span still rows.1]
  openBlocks := by
    rw [openBlocks_start, openBlocks_start]
  lexical := by
    intro _ token other _ _
    rw [lastLexical_start, lastLexical_start]
    simp only [reduceCtorEq]
  reported := by
    intro _
    rw [reported_start, reported_start]
    exact ⟨[], [], nothing.symm, nothingTwin.symm, .nil⟩

/-- Rows of tokens that stand for each other are parsed to scripts that are
the same up to places.  If invalid tokens are told apart by their places, the
reports have in common what diagnostics that tell the same have. -/
theorem twins_ofTokens
    (rows : List.Forall₂ pairing.pairs (tokens ++ missingEnd tokens)
      (twins ++ missingEnd twins))
    (nothing : pairing.told = []) (nothingTwin : pairing.toldTwin = []) :
    pairing.Twins Script.bare (Parsed.ofTokens tokens).script
        (Parsed.ofTokens twins).script ∧
      (pairing.Distinct → ∀ {look : Diagnostic → β},
        (∀ {diagnostic other}, pairing.Tells diagnostic other →
          look other = look diagnostic) →
        (Parsed.ofTokens twins).diagnostics.map look =
          (Parsed.ofTokens tokens).diagnostics.map look) := by
  obtain ⟨scripts, ends⟩ := Recovery.matches_script _ _
    (resembles_start rows nothing nothingTwin)
  rw [Parsed.ofTokens_eq, Parsed.ofTokens_eq]
  refine ⟨scripts, fun distinct _ shared => ?_⟩
  have reported := ends.reported distinct
  simp only [List.map_reverse, reported.map_eq shared nothing nothingTwin]

end Pairing

end PapyrusScript
