import PapyrusScript.Proofs.LineEnds.Statement

/-!
# Declarations do not depend on how lines end

The parts of a declaration that stand in its line are read the same, or both
runs meet an error.  A documentation comment may stand at the end of the line
or alone on the next one, so a header line may end in two places; the
comments of the two texts are compared as the wording says.
-/

namespace PapyrusScript

open Cursor

/-! ## Trees with other comments -/

/-- A function whose documentation comment is changed. -/
def Function.reworded
    (change : String → String) (function : Function) : Function :=
  { function with doc := function.doc.map change }

/-- An event whose documentation comment is changed. -/
def Event.reworded (change : String → String) (event : Event) : Event :=
  { event with doc := event.doc.map change }

/-- The source of a property whose functions have other comments. -/
def PropertySource.reworded (change : String → String) :
    PropertySource → PropertySource
  | .full getter setter =>
    .full (getter.map (Function.reworded change))
      (setter.map (Function.reworded change))
  | source => source

/-- A property whose documentation comments are changed. -/
def Property.reworded
    (change : String → String) (property : Property) : Property :=
  { property with
    source := property.source.reworded change
    doc := property.doc.map change }

/-- A state whose documentation comments are changed. -/
def ScriptState.reworded
    (change : String → String) (state : ScriptState) : ScriptState :=
  { state with events := state.events.map (Event.reworded change) }

/-- A member whose documentation comments are changed. -/
def Member.reworded (change : String → String) : Member → Member
  | .variable declaration => .variable declaration
  | .property declaration => .property (declaration.reworded change)
  | .function declaration => .function (declaration.reworded change)
  | .event declaration => .event (declaration.reworded change)
  | .state declaration => .state (declaration.reworded change)

/-- A script whose documentation comments are changed. -/
def Script.reworded (change : String → String) (script : Script) : Script :=
  { script with
    doc := script.doc.map change
    members := script.members.map (Member.reworded change) }

/-! A change that changes no text changes no tree. -/

@[simp]
theorem Function.reworded_id : Function.reworded id = id := by
  funext function
  simp [reworded]

@[simp]
theorem Event.reworded_id : Event.reworded id = id := by
  funext event
  simp [reworded]

@[simp]
theorem PropertySource.reworded_id : PropertySource.reworded id = id := by
  funext source
  cases source <;> simp [reworded]

@[simp]
theorem Property.reworded_id : Property.reworded id = id := by
  funext property
  simp [reworded]

@[simp]
theorem ScriptState.reworded_id : ScriptState.reworded id = id := by
  funext state
  simp [reworded]

@[simp]
theorem Member.reworded_id : Member.reworded id = id := by
  funext member
  cases member <;> simp [reworded]

@[simp]
theorem Script.reworded_id (script : Script) : script.reworded id = script := by
  simp [reworded]

/-- The header of a function or event whose comment is changed. -/
def Reader.CallableHeader.reworded
    (change : String → String) (header : Reader.CallableHeader) :
    Reader.CallableHeader :=
  { header with doc := header.doc.map change }

variable {wording : Wording}

/-- The header line of a property whose comment is changed. -/
def Reader.PropertyLine.reworded
    (change : String → String) (line : Reader.PropertyLine) :
    Reader.PropertyLine :=
  { line with doc := line.doc.map change }

/-- The functions of a property with other comments. -/
def Reader.Accessors.reworded
    (change : String → String) (accessors : Reader.Accessors) :
    Reader.Accessors :=
  ⟨accessors.getter.map (Function.reworded change),
    accessors.setter.map (Function.reworded change)⟩

theorem Reader.CallableHeader.of_alike {header other : Reader.CallableHeader}
    (same : wording.Alike reworded header other) :
    other.parameters = header.parameters ∧ other.flags = header.flags ∧
      other.doc.map wording.there = header.doc.map wording.here :=
  Reader.CallableHeader.mk.inj same

theorem Reader.PropertyLine.of_alike {line other : Reader.PropertyLine}
    (same : wording.Alike reworded line other) :
    other.header = line.header ∧
      other.doc.map wording.there = line.doc.map wording.here ∧
        other.stop = line.stop ∧ other.intact = line.intact :=
  Reader.PropertyLine.mk.inj same

/-- Both runs have met an error, or they answer the same and stay abreast. -/
def Wording.KeepsOrFails
    {α : Type} (wording : Wording) (value other : α × Option Diagnostic)
    (after twinAfter : Cursor) : Prop :=
  value.2.isSome = true ∧ other.2.isSome = true ∨
    value.2 = none ∧ wording.Keeps Eq value other after twinAfter

/-! ## Parameters -/

namespace Reader

/-- A parameter is read the same in both texts. -/
theorem even_parameter : parameter.Even wording := by
  intro cursor twin abreast
  apply Beside.get
  rw [abreast.atTypeStart]
  apply Beside.ite Iff.rfl
  · intro _
    apply (even_typeName cursor twin abreast).bind
    rintro type _ cursor twin ⟨rfl, abreast⟩
    apply (even_identifier _ cursor twin abreast).bind
    rintro name _ cursor twin ⟨rfl, abreast⟩
    apply (even_initialConstant cursor twin abreast).bind
    rintro default _ cursor twin ⟨rfl, abreast⟩
    apply Beside.get
    rw [abreast.spanFrom]
    exact .pure ⟨rfl, abreast⟩
  · exact fun _ => .reject _ _

end Reader

namespace Recovery

open Reader

variable {cursor twin : Cursor}

/-- One parameter more is the same in both, or both lists are broken. -/
theorem beside_nextParameter (found : List Parameter × Option Diagnostic)
    (abreast : wording.Abreast cursor twin) :
    (nextParameter found).Beside (nextParameter found) cursor
      twin (Step.Both (wording.Keeps Eq) wording.KeepsOrFails) := by
  apply Beside.run_bind (even_parameter cursor twin abreast)
  · rintro next _ cursor twin ⟨rfl, abreast⟩
    apply Beside.get
    rcases abreast.kinds with same | ⟨here, there⟩ | ⟨here, there⟩
    · rw [same]
      split
      · rename_i comma
        have here := isFixed_of_kind comma rfl
        exact .take_fixed abreast here (.pure ⟨rfl, abreast.next here⟩)
      · rename_i closing
        have here := isFixed_of_kind closing rfl
        exact .take_fixed abreast here
          (.pure (.inr ⟨rfl, rfl, abreast.next here⟩))
      · exact .inl ⟨rfl, rfl⟩
    all_goals
      rw [here, there]
      exact .inl ⟨rfl, rfl⟩
  · exact fun _ _ _ _ => .inl ⟨rfl, rfl⟩

/-- A list of parameters is the same in both, or broken in both. -/
theorem beside_parameters (abreast : wording.Abreast cursor twin) :
    parameters.Beside parameters cursor twin
      wording.KeepsOrFails := by
  have opens := even_expect (.symbol .openParen)
    "to open the parameter list" rfl cursor twin abreast
  apply Beside.run_bind opens
  · rintro _ _ cursor twin ⟨_, abreast⟩
    apply Beside.get
    apply Beside.ite (abreast.kind_iff rfl)
    · intro closing
      have here := isFixed_of_kind closing rfl
      exact .take_fixed abreast here
        (.pure (.inr ⟨rfl, rfl, abreast.next here⟩))
    · intro _
      have proceeds (found : List Parameter × Option Diagnostic)
          (cursor : Cursor) : (nextParameter found).Proceeds cursor :=
        (proceedsTo_nextParameter found cursor).proceeds
      refine Beside.loop (wording.Keeps Eq) proceeds proceeds ?_
        ⟨rfl, abreast⟩
      rintro found _ cursor twin ⟨rfl, abreast⟩
      exact beside_nextParameter found abreast
  · exact fun _ _ _ _ => .inl ⟨rfl, rfl⟩

/-! ## Headers and bodies -/

/-- The flags of a function or event are the same in both texts. -/
theorem even_callableFlags (block : Block) :
    (callableFlags block).Even wording := by
  refine even_loop (proceeds_nextCallableFlag block) ?_ _
  intro flags cursor twin abreast
  apply Beside.get
  rcases abreast.kinds with same | ⟨here, there⟩ | ⟨here, there⟩
  · rw [same]
    split
    · rename_i word
      have here := isFixed_of_kind word rfl
      exact .take_fixed abreast here (.pure ⟨rfl, abreast.next here⟩)
    · rename_i word
      have here := isFixed_of_kind word rfl
      apply Beside.ite Iff.rfl
      · exact fun _ =>
          .take_fixed abreast here (.pure ⟨rfl, abreast.next here⟩)
      · exact fun _ => .pure ⟨rfl, abreast⟩
    · exact .pure ⟨rfl, abreast⟩
  all_goals
    rw [here, there]
    exact .pure ⟨rfl, abreast⟩

/-- The headers of a function or event differ by their comments at most. -/
theorem accords_callableHeader
    (block : Block) (context : String) (abreast : wording.Abreast cursor twin) :
    (callableHeader block context).Accords
      (callableHeader block context) cursor twin
        (wording.Keeps (wording.Alike Reader.CallableHeader.reworded)) := by
  have told (diagnostic : Diagnostic) (header : Reader.CallableHeader)
      (cursor : Cursor) :
      Tells (do
        reportAndSkipLine diagnostic
        return header) cursor :=
    (tells_reportAndSkipLine diagnostic).bind fun _ _ => .pure _
  refine Accords.after (beside_parameters abreast) ?_
  rintro ⟨found, failure⟩ ⟨other, failureToo⟩ middle twinMiddle
    (⟨fails, _⟩ | ⟨passes, same, abreast⟩)
  · obtain ⟨diagnostic, rfl⟩ := Option.isSome_iff_exists.1 fails
    exact (told _ _ _).accords
  · cases same
    cases passes
    refine Accords.after (even_callableFlags block _ _ abreast) ?_
    rintro flags _ cursor twin ⟨rfl, abreast⟩
    have ends := beside_endOfDeclaration context abreast
    refine Accords.run_after ends ?_ ?_
    · exact fun diagnostic _ => told diagnostic _ _
    · rintro doc docToo after twinAfter ⟨same, abreast⟩
      exact .pure ⟨congrArg (Reader.CallableHeader.mk found flags) same,
        abreast⟩

theorem closedBy_of_abreast
    (block : Block) (abreast : wording.Abreast cursor twin) :
    block.closedBy twin.kind = block.closedBy cursor.kind := by
  rcases abreast.kinds with same | ⟨here, there⟩ | ⟨here, there⟩
  · rw [same]
  all_goals
    rw [here, there]
    cases block <;> rfl

/-- The body of a function or event is the same in both texts. -/
theorem accordant_openBody (block : Block) (opener : Token) :
    (openBody block opener).Accordant wording := by
  intro cursor twin abreast
  refine Accords.bind (accordant_body block _ _ abreast) ?_ ?_
  · intro inside after
    refine .get ?_
    split
    · refine grows_advance.bind fun _ after => ?_
      exact (travels_finishLine _ after).grows.bind fun _ _ => .pure _
    · exact (travels_reportUnterminated _ _).grows.bind fun _ _ => .pure _
  rintro inside _ cursor twin ⟨rfl, abreast⟩
  refine Accords.get ?_
  rw [closedBy_of_abreast block abreast]
  refine Accords.ite Iff.rfl ?_ ?_
  · intro closes
    have here : cursor.kind.isFixed = true := by
      cases kind : cursor.kind with
      | keyword | symbol => rfl
      | _ => simp [kind, Block.closedBy] at closes
    refine Accords.take_fixed abreast here ?_
    refine Accords.bind (accordant_finishLine _ _ _ (abreast.next here))
      (fun _ _ => .pure _) ?_
    rintro _ _ after twinAfter ⟨_, abreast⟩
    exact .pure ⟨rfl, abreast⟩
  · intro _
    exact ((tells_reportUnterminated _ _).bind fun _ _ => .pure _).accords

theorem accordant_callableBody
    (block : Block) (opener : Token) (flags : Reader.CallableFlags) :
    (callableBody block opener flags).Accordant wording := by
  intro cursor twin abreast
  unfold callableBody
  split
  · exact .pure ⟨rfl, abreast⟩
  · exact accordant_openBody block opener cursor twin abreast

end Recovery

/-! ## Functions, events and variables -/

namespace Reader

variable {cursor twin : Cursor}

/-- A function differs by its comment at most. -/
theorem accords_function
    (returnType : Option TypeName) (abreast : wording.Abreast cursor twin) :
    (function returnType).Accords (function returnType) cursor twin
      (wording.Keeps (wording.Alike Function.reworded)) := by
  refine Accords.after (even_expect _ _ rfl _ _ abreast) ?_
  rintro keyword _ cursor twin ⟨rfl, abreast⟩
  refine Accords.after (even_identifier _ _ _ abreast) ?_
  rintro name _ cursor twin ⟨rfl, abreast⟩
  have header := Recovery.accords_callableHeader .function
    "function declaration" abreast
  refine Accords.bind (Accords.lift header) ?_ ?_
  · intro header after
    have body := Recovery.travels_callableBody .function keyword header.flags
    exact ((body after).lift.bind fun _ _ => .get (.pure _)).run.grows
  rintro header other cursor twin ⟨same, abreast⟩
  obtain ⟨parameters, flags, doc⟩ := CallableHeader.of_alike same
  rw [parameters, flags]
  have body := Recovery.accordant_callableBody .function keyword header.flags
    _ _ abreast
  refine Accords.bind (Accords.lift body)
    (fun _ _ => Recovery.Grows.get (.pure _)) ?_
  rintro inside _ after twinAfter ⟨rfl, abreast⟩
  refine Accords.get ?_
  rw [abreast.spanFrom]
  exact .pure ⟨by simp [Wording.Alike, Function.reworded, doc], abreast⟩

/-- An event differs by its comment at most. -/
theorem accords_event (abreast : wording.Abreast cursor twin) :
    event.Accords event cursor twin
      (wording.Keeps (wording.Alike Event.reworded)) := by
  refine Accords.after (even_expect _ _ rfl _ _ abreast) ?_
  rintro keyword _ cursor twin ⟨rfl, abreast⟩
  refine Accords.after (even_identifier _ _ _ abreast) ?_
  rintro name _ cursor twin ⟨rfl, abreast⟩
  have header := Recovery.accords_callableHeader .event "event declaration"
    abreast
  refine Accords.bind (Accords.lift header) ?_ ?_
  · intro header after
    have body := Recovery.travels_callableBody .event keyword header.flags
    exact ((body after).lift.bind fun _ _ => .get (.pure _)).run.grows
  rintro header other cursor twin ⟨same, abreast⟩
  obtain ⟨parameters, flags, doc⟩ := CallableHeader.of_alike same
  rw [parameters, flags]
  have body := Recovery.accordant_callableBody .event keyword header.flags
    _ _ abreast
  refine Accords.bind (Accords.lift body)
    (fun _ _ => Recovery.Grows.get (.pure _)) ?_
  rintro inside _ after twinAfter ⟨rfl, abreast⟩
  refine Accords.get ?_
  rw [abreast.spanFrom]
  exact .pure ⟨by simp [Wording.Alike, Event.reworded, doc], abreast⟩

theorem even_variableFlags : variableFlags.Even wording := by
  refine Recovery.even_loop proceeds_nextVariableFlag ?_ false
  intro seen cursor twin abreast
  apply Recovery.Beside.get
  apply Recovery.Beside.ite (abreast.kind_iff rfl)
  · intro word
    have here := isFixed_of_kind word rfl
    exact .take_fixed abreast here (.pure ⟨rfl, abreast.next here⟩)
  · exact fun _ => .pure ⟨rfl, abreast⟩

theorem even_variableAfter (type : TypeName) :
    (variableAfter type).Even wording := by
  intro cursor twin abreast
  apply (even_identifier _ cursor twin abreast).bind
  rintro name _ cursor twin ⟨rfl, abreast⟩
  apply (even_initialConstant cursor twin abreast).bind
  rintro initial _ cursor twin ⟨rfl, abreast⟩
  apply (even_variableFlags.lift cursor twin abreast).bind
  rintro conditional _ cursor twin ⟨rfl, abreast⟩
  apply Beside.get
  rw [abreast.spanFrom]
  exact beside_lineEnd _ _ abreast

end Reader

/-! ## The header line of a property -/

namespace Recovery

open Reader

variable {cursor twin : Cursor}

theorem beside_automaticFlag
    (header : Reader.PropertyHeader) (abreast : wording.Abreast cursor twin)
    (fixed : cursor.kind.isFixed = true) :
    (automaticFlag header).Beside (automaticFlag header) cursor
      twin (Step.Both (wording.Keeps Eq) wording.KeepsOrFails) := by
  unfold automaticFlag
  split
  · exact .inl ⟨rfl, rfl⟩
  · exact .take_fixed abreast fixed (.pure ⟨rfl, abreast.next fixed⟩)

/-- A flag of a property is the same in both texts, or refused in both. -/
theorem beside_propertyFlag (found : Reader.PropertyHeader × Option Diagnostic)
    (abreast : wording.Abreast cursor twin) :
    (propertyFlag found).Beside (propertyFlag found) cursor twin
      (Step.Both (wording.Keeps Eq) wording.KeepsOrFails) := by
  apply Beside.get
  rcases abreast.kinds with same | ⟨here, there⟩ | ⟨here, there⟩
  · rw [same]
    split
    · rename_i word
      exact beside_automaticFlag _ abreast (isFixed_of_kind word rfl)
    · rename_i word
      exact beside_automaticFlag _ abreast (isFixed_of_kind word rfl)
    · rename_i word
      have here := isFixed_of_kind word rfl
      exact .take_fixed abreast here (.pure ⟨rfl, abreast.next here⟩)
    · rename_i word
      have here := isFixed_of_kind word rfl
      exact .take_fixed abreast here (.pure ⟨rfl, abreast.next here⟩)
    · exact .pure (.inr ⟨rfl, rfl, abreast⟩)
  all_goals
    rw [here, there]
    exact .pure (.inr ⟨rfl, rfl, abreast⟩)

theorem beside_propertyHeader (abreast : wording.Abreast cursor twin) :
    propertyHeader.Beside propertyHeader cursor twin
      wording.KeepsOrFails := by
  apply Beside.run_bind (even_initialConstant cursor twin abreast)
  · rintro initial _ cursor twin ⟨rfl, abreast⟩
    have proceeds (found : Reader.PropertyHeader × Option Diagnostic)
        (cursor : Cursor) : (propertyFlag found).Proceeds cursor :=
      (proceedsTo_propertyFlag found cursor).proceeds
    refine Beside.loop (wording.Keeps Eq) proceeds proceeds ?_ ⟨rfl, abreast⟩
    rintro found _ cursor twin ⟨rfl, abreast⟩
    exact beside_propertyFlag found abreast
  · exact fun _ _ _ _ => .inl ⟨rfl, rfl⟩

/-- A header line that is read without a report is intact. -/
theorem accords_propertyLine (abreast : wording.Abreast cursor twin) :
    propertyLine.Accords propertyLine cursor twin
      fun line other after twinAfter =>
        line.intact = true ∧
          wording.Keeps (wording.Alike Reader.PropertyLine.reworded) line other
            after twinAfter := by
  have told (diagnostic : Diagnostic) (line : Reader.PropertyLine)
      (cursor : Cursor) :
      Tells (do
        reportAndSkipLine diagnostic
        return line) cursor :=
    (tells_reportAndSkipLine diagnostic).bind fun _ _ => .pure _
  refine Accords.after (beside_propertyHeader abreast) ?_
  rintro ⟨found, failure⟩ ⟨other, failureToo⟩ middle twinMiddle
    (⟨fails, _⟩ | ⟨passes, same, abreast⟩)
  · obtain ⟨diagnostic, rfl⟩ := Option.isSome_iff_exists.1 fails
    exact Tells.accords (.get (told _ _ _))
  · cases same
    cases passes
    refine Accords.get ?_
    rw [abreast.lastEnd]
    have ends := beside_endOfDeclaration "property declaration" abreast
    refine Accords.run_after ends ?_ ?_
    · exact fun diagnostic _ => .get (told _ _ _)
    · rintro doc docToo after twinAfter ⟨same, abreast⟩
      refine .pure ⟨rfl, ?_, abreast⟩
      exact congrArg
        (fun doc => Reader.PropertyLine.mk found doc middle.lastEnd true) same

/-! ## The functions of a property -/

theorem accords_accessor (abreast : wording.Abreast cursor twin) :
    accessor.Accords accessor cursor twin
      (wording.Keeps (wording.Alike Function.reworded)) := by
  refine Reader.Accords.get ?_
  refine Reader.Accords.ite (abreast.kind_iff rfl) ?_ ?_
  · exact fun _ => accords_function none abreast
  · intro _
    refine Reader.Accords.after (even_typeName _ _ abreast) ?_
    rintro type _ cursor twin ⟨rfl, abreast⟩
    exact accords_function (some type) abreast

theorem beside_complainIf
    (applies : Bool) (found other : Function) (cause causeToo : Cause)
    (abreast : wording.Abreast cursor twin) :
    (complainIf applies found cause).Beside
      (complainIf applies other causeToo) cursor twin
        fun _ _ => wording.Abreast := by
  unfold complainIf
  split
  · exact abreast.report _ _
  · exact abreast

end Recovery

theorem Reader.Accessors.alike_iff {accessors other : Reader.Accessors} :
    wording.Alike reworded accessors other ↔
      wording.Alike (fun change => Option.map (Function.reworded change))
          accessors.getter other.getter ∧
        wording.Alike (fun change => Option.map (Function.reworded change))
          accessors.setter other.setter :=
  Iff.of_eq (Reader.Accessors.mk.injEq _ _ _ _)

theorem PropertySource.alike_full
    {getter setter getterToo setterToo : Option Function} :
    wording.Alike reworded (.full getter setter) (.full getterToo setterToo) ↔
      wording.Alike (fun change => Option.map (Function.reworded change))
          getter getterToo ∧
        wording.Alike (fun change => Option.map (Function.reworded change))
          setter setterToo :=
  Iff.of_eq (PropertySource.full.injEq _ _ _ _)

namespace Recovery

open Reader

variable {cursor twin : Cursor}

theorem isSome_of_alike {slot other : Option Function}
    (same : wording.Alike (fun change => Option.map (Function.reworded change))
      slot other) : other.isSome = slot.isSome := by
  have sizes := congrArg Option.isSome same
  simpa using sizes

theorem alike_or {slot slotToo : Option Function} {found other : Function}
    (same : wording.Alike (fun change => Option.map (Function.reworded change))
      slot slotToo)
    (alike : wording.Alike Function.reworded found other) :
    wording.Alike (fun change => Option.map (Function.reworded change))
      (slot.or (some found)) (slotToo.or (some other)) := by
  unfold Wording.Alike at *
  cases slot <;> cases slotToo <;> simp_all

/-- Functions with other comments go into the same slots. -/
theorem beside_placeAccessor
    (property : String) {accessors accessorsToo : Reader.Accessors}
    {found other : Function}
    (same : wording.Alike Reader.Accessors.reworded accessors accessorsToo)
    (alike : wording.Alike Function.reworded found other)
    (abreast : wording.Abreast cursor twin) :
    (placeAccessor property accessors found).Beside
      (placeAccessor property accessorsToo other) cursor twin
        (wording.Keeps (wording.Alike Reader.Accessors.reworded)) := by
  have names : (other.reworded wording.there).name =
      (found.reworded wording.here).name := congrArg Function.name alike
  have parameters : (other.reworded wording.there).parameters =
      (found.reworded wording.here).parameters :=
    congrArg Function.parameters alike
  obtain ⟨getters, setters⟩ := Reader.Accessors.alike_iff.1 same
  change other.name = found.name at names
  change other.parameters = found.parameters at parameters
  unfold placeAccessor
  dsimp only
  rw [names, parameters, isSome_of_alike getters, isSome_of_alike setters]
  split
  · apply Beside.bind (beside_complainIf _ found other _ _ abreast)
    intro _ _ middle twinMiddle abreast
    apply Beside.bind (beside_complainIf _ found other _ _ abreast)
    intro _ _ after twinAfter abreast
    refine .pure ⟨?_, abreast⟩
    exact Reader.Accessors.alike_iff.2 ⟨alike_or getters alike, setters⟩
  · split
    · apply Beside.bind (beside_complainIf _ found other _ _ abreast)
      intro _ _ middle twinMiddle abreast
      apply Beside.bind (beside_complainIf _ found other _ _ abreast)
      intro _ _ after twinAfter abreast
      refine .pure ⟨?_, abreast⟩
      exact Reader.Accessors.alike_iff.2 ⟨getters, alike_or setters alike⟩
    · apply Beside.bind (beside_complainIf _ found other _ _ abreast)
      exact fun _ _ after twinAfter abreast => .pure ⟨same, abreast⟩

/-- A function of a property is read in both texts or in neither. -/
theorem accords_nextAccessor (keyword : Token) (property : String)
    {accessors other : Reader.Accessors}
    (same : wording.Alike Reader.Accessors.reworded accessors other)
    (abreast : wording.Abreast cursor twin) :
    (nextAccessor keyword property accessors).Accords
      (nextAccessor keyword property other) cursor twin
        (Step.Both (wording.Keeps (wording.Alike Reader.Accessors.reworded))
          (wording.Keeps (wording.Alike Reader.Accessors.reworded))) := by
  refine Accords.after (beside_skipNewlines abreast) ?_
  intro _ _ cursor twin faces
  have abreast := faces.abreast
  refine Accords.get ?_
  rw [faces.kind, abreast.atFunctionStart, abreast.atMemberStart]
  refine Accords.ite Iff.rfl ?_ ?_
  · intro word
    have here := isFixed_of_kind word rfl
    refine Accords.take_fixed abreast here ?_
    refine Accords.bind (accordant_finishLine _ _ _ (abreast.next here))
      (fun _ _ => .pure _) ?_
    rintro _ _ after twinAfter ⟨_, abreast⟩
    exact .pure ⟨same, abreast⟩
  intro _
  refine Accords.ite Iff.rfl ?_ ?_
  · exact fun doc =>
      Accords.take (.pure ⟨same, abreast.next_of_docComment doc⟩)
  intro _
  refine Accords.ite Iff.rfl ?_ ?_
  · intro _
    refine Accords.run_bind (accords_accessor abreast) ?_ ?_ ?_
    · exact fun found after =>
        (travels_placeAccessor _ _ _ after).grows.bind fun _ _ => .pure _
    · exact fun diagnostic _ =>
        (tells_reportAndSkipLine diagnostic).bind fun _ _ => .pure _
    · rintro found foundToo middle twinMiddle ⟨alike, abreast⟩
      refine Accords.after
        (beside_placeAccessor property same alike abreast) ?_
      rintro placed placedToo after twinAfter ⟨same, abreast⟩
      exact .pure ⟨same, abreast⟩
  intro _
  refine Accords.ite Iff.rfl ?_ ?_
  · exact fun _ =>
      ((tells_reportUnterminated _ _).bind fun _ _ => .pure _).accords
  · intro _
    exact Tells.accords (.unexpected fun diagnostic =>
      (tells_reportAndSkipLine diagnostic).bind fun _ _ => .pure _)

theorem accords_accessorList (keyword : Token) (property : String)
    (abreast : wording.Abreast cursor twin) :
    (accessorList keyword property).Accords
      (accessorList keyword property) cursor twin
        (wording.Keeps (wording.Alike Reader.Accessors.reworded)) := by
  have proceeds := proceeds_nextAccessor keyword property
  refine Accords.inBlock ?_
  refine Accords.mono (Accords.loop
    (wording.Keeps (wording.Alike Reader.Accessors.reworded)) proceeds proceeds
    (fun accessors other cursor twin keeps =>
      accords_nextAccessor keyword property keeps.1 keeps.2)
    ⟨rfl, abreast.enter .property⟩) ?_
  exact fun _ _ _ _ keeps => ⟨keeps.1, keeps.2.leave⟩

theorem beside_reportNoAccessor (keyword : Token) (property : String)
    {accessors other : Reader.Accessors}
    (same : wording.Alike Reader.Accessors.reworded accessors other)
    (abreast : wording.Abreast cursor twin) :
    (reportNoAccessor keyword property accessors).Beside
      (reportNoAccessor keyword property other) cursor twin
        fun _ _ => wording.Abreast := by
  obtain ⟨getters, setters⟩ := Reader.Accessors.alike_iff.1 same
  unfold reportNoAccessor
  rw [← Option.not_isSome, ← Option.not_isSome, ← Option.not_isSome,
    ← Option.not_isSome, isSome_of_alike getters, isSome_of_alike setters]
  split
  · exact abreast.report _ _
  · exact abreast

theorem even_reportInitialValue (property : String) (initial : Option Literal) :
    (reportInitialValue property initial).Even wording := by
  intro cursor twin abreast
  unfold reportInitialValue
  split
  · exact ⟨rfl, abreast.report _ _⟩
  · exact ⟨rfl, abreast⟩

theorem accords_propertyBlock (keyword : Token) (property : String)
    (abreast : wording.Abreast cursor twin) :
    (propertyBlock keyword property).Accords
      (propertyBlock keyword property) cursor twin
        (wording.Keeps (wording.Alike Reader.Accessors.reworded)) := by
  refine Accords.bind (accords_accessorList keyword property abreast) ?_ ?_
  · exact fun accessors after =>
      (travels_reportNoAccessor _ _ _ after).grows.bind fun _ _ => .pure _
  rintro accessors other middle twinMiddle ⟨same, abreast⟩
  refine Accords.after (beside_reportNoAccessor keyword property same abreast)
    ?_
  exact fun _ _ after twinAfter abreast => .pure ⟨same, abreast⟩

/-! ## Whole properties -/

/-- The source of an automatic property is the same in both texts. -/
theorem beside_automaticSource
    (property : String) (keyword : Token) {line other : Reader.PropertyLine}
    (same : wording.Alike Reader.PropertyLine.reworded line other)
    (abreast : wording.Abreast cursor twin) :
    (automaticSource property keyword line).Beside
      (automaticSource property keyword other) cursor twin
        (wording.Keeps (wording.Alike PropertySource.reworded)) := by
  obtain ⟨header, _, _, intact⟩ := Reader.PropertyLine.of_alike same
  unfold automaticSource reportMissingValue
  rw [header, intact]
  split
  · split
    · exact .pure ⟨rfl, abreast⟩
    · split
      · exact ⟨rfl, abreast.report _ _⟩
      · exact ⟨rfl, abreast⟩
  · exact .pure ⟨rfl, abreast⟩

/-- The functions of a property differ by their comments at most. -/
theorem accords_fullSource
    (property : String) (keyword : Token) {line other : Reader.PropertyLine}
    (same : wording.Alike Reader.PropertyLine.reworded line other)
    (abreast : wording.Abreast cursor twin) :
    (fullSource property keyword line).Accords
      (fullSource property keyword other) cursor twin
        (wording.Keeps (wording.Alike PropertySource.reworded)) := by
  obtain ⟨header, _⟩ := Reader.PropertyLine.of_alike same
  unfold fullSource
  rw [header]
  refine Accords.after (even_reportInitialValue property _ _ _ abreast) ?_
  rintro _ _ middle twinMiddle ⟨_, abreast⟩
  refine Accords.bind (accords_propertyBlock keyword property abreast)
    (fun _ _ => .pure _) ?_
  rintro accessors accessorsToo after twinAfter ⟨same, abreast⟩
  exact .pure ⟨PropertySource.alike_full.2
    (Reader.Accessors.alike_iff.1 same), abreast⟩

end Recovery

namespace Reader

variable {cursor twin : Cursor}

/-- A property differs by its comments at most. -/
theorem accords_propertyAfter
    (type : TypeName) (abreast : wording.Abreast cursor twin) :
    (propertyAfter type).Accords (propertyAfter type) cursor twin
      (wording.Keeps (wording.Alike Property.reworded)) := by
  refine Accords.after (even_expect _ _ rfl _ _ abreast) ?_
  rintro keyword _ cursor twin ⟨rfl, abreast⟩
  refine Accords.after (even_identifier _ _ _ abreast) ?_
  rintro name _ cursor twin ⟨rfl, abreast⟩
  refine Accords.bind (Accords.lift (Recovery.accords_propertyLine abreast))
    ?_ ?_
  · intro line after
    have alone := (Recovery.travels_standsAlone line after).lift
    have rest := alone.bind fun alone after =>
      travels_propertySource type name keyword line alone after
    exact (Travels.run rest).grows
  rintro line other cursor twin ⟨intact, same, abreast⟩
  obtain ⟨header, doc, stop, intactToo⟩ := PropertyLine.of_alike same
  have goesOn (line : PropertyLine) (intact : line.intact = true) :
      standsAlone line = pure false := by
    unfold standsAlone
    rw [intact]
    rfl
  rw [goesOn line intact, goesOn other (intactToo.trans intact), header, stop]
  have stays : (pure false : Recovery Bool).Beside (pure false) cursor twin
      fun alone aloneToo after twinAfter =>
        alone = false ∧ aloneToo = false ∧ wording.Abreast after twinAfter :=
    .pure ⟨rfl, rfl, abreast⟩
  refine Accords.after (Beside.lift stays) ?_
  rintro _ _ cursor twin ⟨rfl, rfl, abreast⟩
  refine Accords.ite Iff.rfl nofun fun _ => ?_
  split
  · rename_i automatic _
    refine Accords.after (Beside.lift (Recovery.beside_automaticSource
      name.name automatic same abreast)) ?_
    rintro source sourceToo after twinAfter ⟨alike, abreast⟩
    refine .pure ⟨?_, abreast⟩
    unfold Wording.Alike Property.reworded at *
    simp [alike, doc]
  · refine Accords.bind (Accords.lift (Recovery.accords_fullSource name.name
      keyword same abreast)) (fun _ _ => Recovery.Grows.get (.pure _)) ?_
    rintro source sourceToo after twinAfter ⟨alike, abreast⟩
    refine Accords.get ?_
    rw [abreast.lastEnd]
    refine .pure ⟨?_, abreast⟩
    unfold Wording.Alike Property.reworded at *
    simp [alike, doc]

end Reader

end PapyrusScript
