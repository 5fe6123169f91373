import PapyrusScript.Proofs.Proper.Statement

/-!
# Parsing builds a proper script

Whatever becomes of a header, its parameters are those in front of the error,
and only a header that says so makes a function native.  A property keeps the
first function of each name, and nothing under another name.

Whatever a text says, the tree that is parsed from it is proper, and if
nothing is reported, it is a proper tree of an accepted script.
-/

namespace PapyrusScript

namespace Reader

open Recovery

variable {accepted : Prop}

/-! ## Parameters -/

theorem builds_parameter :
    parameter.Builds accepted fun parameter =>
      Literal.AreFinite parameter.default := by
  apply Builds.get
  intro cursor
  split
  · apply Builds.skip fun cursor => (advances_typeName cursor).travels
    intro type
    apply Builds.skip fun cursor => (advances_identifier _ cursor).travels
    intro name
    apply builds_initialConstant.bind
    intro default
    exact .get fun _ => .pure id
  · exact builds_reject _

/-- One parameter more is proper. -/
theorem builds_nextParameter (found : List Parameter × Option Diagnostic) :
    Recovery.Builds accepted (nextParameter found) fun decision =>
      Parameter.AreProper found.1 → Parameter.AreProper decision.value.1 := by
  apply Recovery.Builds.run_bind builds_parameter
  · intro next
    have added (finite : Literal.AreFinite next.default)
        (before : Parameter.AreProper found.1) :
        Parameter.AreProper (found.1 ++ [next]) :=
      List.forall_mem_append.2 ⟨before, List.forall_mem_singleton.2 finite⟩
    apply Recovery.Builds.get
    intro cursor
    split
    · exact .take fun _ => .pure added
    · exact .take fun _ => .pure added
    · exact .unexpected fun _ => .pure added
  · exact fun _ => .pure id

/-- The parameters of a header are proper, broken or not. -/
theorem builds_parameters :
    Recovery.Builds accepted parameters fun found =>
      Parameter.AreProper found.1 := by
  have opened : openParameters.Builds accepted fun _ => True :=
    builds_of_travels fun cursor => (advances_expect _ _ cursor rfl).travels
  have nothing : Parameter.AreProper [] := List.forall_mem_nil _
  apply Recovery.Builds.run_bind opened
  · intro token
    apply Recovery.Builds.get
    intro cursor
    split
    · exact .take fun _ => .pure fun _ => nothing
    · apply (Recovery.Builds.loop builds_nextParameter _ _).mono
      exact fun _ preserved _ => preserved nothing
  · exact fun _ => .pure nothing

/-! ## Functions and events -/

theorem builds_callableHeader (block : Block) (context : String) :
    Recovery.Builds accepted (callableHeader block context) fun header =>
      Parameter.AreProper header.parameters := by
  apply builds_parameters.bind
  rintro ⟨found, _ | diagnostic⟩
  · apply Recovery.Builds.skip (travels_callableFlags block)
    intro flags
    apply Recovery.Builds.run_bind
      (builds_of_travels (travels_endOfDeclaration _))
    · exact fun _ => .pure fun _ => id
    · exact fun diagnostic => builds_skipLineAfter diagnostic id
  · exact builds_skipLineAfter diagnostic id

/-- The body of a function or event is proper. -/
theorem builds_openBody (block : Block) (opener : Token) :
    Recovery.Builds accepted (openBody block opener)
      (Statement.ProperBody accepted) := by
  apply (builds_body block).bind
  intro inside
  apply Recovery.Builds.get
  intro cursor
  split
  · apply Recovery.Builds.take
    intro _
    apply Recovery.Builds.skip (travels_finishLine _)
    exact fun _ => .pure id
  · apply Recovery.Builds.skip
      fun _ => travels_reportUnterminated block opener
    exact fun _ => .pure id

theorem builds_callableBody
    (block : Block) (opener : Token) (flags : CallableFlags) :
    Recovery.Builds accepted (callableBody block opener flags) fun inside =>
      (flags.native = true → inside = []) ∧
        Statement.ProperBody accepted inside := by
  unfold callableBody
  by_cases native : flags.native = true
  · rw [if_pos native]
    exact .pure ⟨fun _ => rfl, trivial⟩
  · rw [if_neg native]
    apply (builds_openBody block opener).mono
    exact fun _ proper => ⟨fun isNative => absurd isNative native, proper⟩

theorem builds_function (returnType : Option TypeName) :
    (function returnType).Builds accepted (Function.Proper accepted) := by
  apply Builds.skip fun cursor => (advances_expect _ _ cursor rfl).travels
  intro keyword
  apply Builds.skip fun cursor => (advances_identifier _ cursor).travels
  intro name
  apply (Builds.lift (builds_callableHeader _ _)).bind
  intro header
  apply (Builds.lift (builds_callableBody _ _ _)).bind
  intro inside
  apply Builds.get
  intro cursor
  exact .pure fun ⟨native, body⟩ parameters => ⟨parameters, native, body⟩

theorem builds_event : event.Builds accepted (Event.Proper accepted) := by
  apply Builds.skip fun cursor => (advances_expect _ _ cursor rfl).travels
  intro keyword
  apply Builds.skip fun cursor => (advances_identifier _ cursor).travels
  intro name
  apply (Builds.lift (builds_callableHeader _ _)).bind
  intro header
  apply (Builds.lift (builds_callableBody _ _ _)).bind
  intro inside
  apply Builds.get
  intro cursor
  exact .pure fun ⟨native, body⟩ parameters => ⟨parameters, native, body⟩

/-! ## Variables -/

theorem builds_variableAfter (type : TypeName) :
    (variableAfter type).Builds accepted Variable.Proper := by
  apply Builds.skip fun cursor => (advances_identifier _ cursor).travels
  intro name
  apply builds_initialConstant.bind
  intro initial
  apply Builds.skip fun cursor => (travels_variableFlags cursor).lift
  intro conditional
  apply Builds.get
  intro cursor
  apply Builds.skip (travels_endOfLine _)
  exact fun _ => .pure id

/-! ## Headers of properties -/

theorem builds_automaticFlag (header : PropertyHeader) :
    Recovery.Builds accepted (automaticFlag header) fun decision =>
      Literal.AreFinite header.initial →
        Literal.AreFinite decision.value.1.initial := by
  unfold automaticFlag
  split
  · exact .unexpected fun _ => .pure id
  · exact .take fun _ => .pure id

theorem builds_propertyFlag (found : PropertyHeader × Option Diagnostic) :
    Recovery.Builds accepted (propertyFlag found) fun decision =>
      Literal.AreFinite found.1.initial →
        Literal.AreFinite decision.value.1.initial := by
  apply Recovery.Builds.get
  intro cursor
  split
  · exact builds_automaticFlag found.1
  · exact builds_automaticFlag found.1
  · exact .take fun _ => .pure id
  · exact .take fun _ => .pure id
  · exact .pure id

theorem builds_propertyHeader :
    Recovery.Builds accepted propertyHeader fun found =>
      Literal.AreFinite found.1.initial := by
  apply Recovery.Builds.run_bind builds_initialConstant
  · exact fun _ => .get fun _ => .loop builds_propertyFlag _ _
  · exact fun _ => .pure nofun

/-- The initial value in a header line is finite. -/
theorem builds_propertyLine :
    Recovery.Builds accepted propertyLine fun line =>
      Literal.AreFinite line.header.initial := by
  apply builds_propertyHeader.bind
  rintro ⟨header, failure⟩
  apply Recovery.Builds.get
  intro cursor
  cases failure with
  | some diagnostic => exact builds_skipLineAfter diagnostic id
  | none =>
    apply Recovery.Builds.run_bind
      (builds_of_travels (travels_endOfDeclaration _))
    · exact fun _ => .pure fun _ => id
    · intro diagnostic
      apply Recovery.Builds.get
      exact fun _ => builds_skipLineAfter diagnostic id

/-! ## Functions of properties -/

variable (accepted) in
/-- The functions of a property that have been found fit their slots. -/
structure Accessors.Proper (accessors : Accessors) : Prop where
  getter : ∀ tree ∈ accessors.getter, tree.ProperGetter accepted
  setter : ∀ tree ∈ accessors.setter, tree.ProperSetter accepted

theorem builds_accessor :
    accessor.Builds accepted (Function.Proper accepted) := by
  apply Builds.get
  intro cursor
  split
  · exact builds_function none
  · apply Builds.skip fun cursor => (advances_typeName cursor).travels
    exact fun type => builds_function (some type)

theorem builds_complainIf (applies : Bool) (found : Function) (cause : Cause) :
    Recovery.Builds accepted (complainIf applies found cause) fun _ =>
      accepted → applies = false := by
  unfold complainIf
  cases applies with
  | true =>
    apply (builds_complain _ _).mono
    exact fun _ rejected isAccepted => absurd isAccepted rejected
  | false => exact .pure fun _ => rfl

/-- A function of a property goes into a slot that it fits. -/
theorem builds_placeAccessor
    (property : String) (accessors : Accessors) (found : Function) :
    Recovery.Builds accepted (placeAccessor property accessors found)
      fun placed =>
        found.Proper accepted → accessors.Proper accepted →
          placed.Proper accepted := by
  unfold placeAccessor
  dsimp only
  split
  · rename_i named
    apply (builds_complainIf _ found _).bind
    intro _
    apply (builds_complainIf _ found _).bind
    intro _
    apply Recovery.Builds.pure
    intro _ unparameterized proper before
    have getter : found.ProperGetter accepted :=
      { proper with
        named
        takesNothing := by simpa using unparameterized }
    exact ⟨forall_mem_or before.getter getter, before.setter⟩
  · split
    · rename_i named
      apply (builds_complainIf _ found _).bind
      intro _
      apply (builds_complainIf _ found _).bind
      intro _
      apply Recovery.Builds.pure
      intro _ single proper before
      have setter : found.ProperSetter accepted :=
        { proper with
          named
          takesOne := by simpa using single }
      exact ⟨before.getter, forall_mem_or before.setter setter⟩
    · apply (builds_complainIf _ found _).bind
      exact fun _ => .pure fun _ _ before => before

/-- A function of a property leaves the slots proper. -/
theorem builds_nextAccessor
    (keyword : Token) (property : String) (accessors : Accessors) :
    Recovery.Builds accepted (nextAccessor keyword property accessors)
      fun decision =>
        accessors.Proper accepted → decision.value.Proper accepted := by
  apply Recovery.Builds.skip travels_skipNewlines
  intro _
  apply Recovery.Builds.get
  intro cursor
  split
  · apply Recovery.Builds.take
    intro _
    apply Recovery.Builds.skip (travels_finishLine _)
    exact fun _ => .pure id
  split
  · exact .take fun _ => .pure id
  split
  · apply Recovery.Builds.run_bind builds_accessor
    · intro found
      apply (builds_placeAccessor property accessors found).bind
      exact fun placed => .pure fun kept proper => kept proper
    · exact fun diagnostic => builds_skipLineAfter diagnostic id
  split
  · apply Recovery.Builds.skip
      fun _ => travels_reportUnterminated .property keyword
    exact fun _ => .pure id
  · apply Recovery.Builds.unexpected
    exact fun diagnostic => builds_skipLineAfter diagnostic id

theorem builds_accessorList (keyword : Token) (property : String) :
    Recovery.Builds accepted (accessorList keyword property)
      (Accessors.Proper accepted) := by
  apply Recovery.Builds.inBlock
  apply Recovery.Builds.get
  intro cursor
  have nothing : (Accessors.mk none none).Proper accepted := by
    constructor
    · intro tree member
      cases member
    · intro tree member
      cases member
  exact .loop_of (builds_nextAccessor keyword property) _ nothing

/-- In an accepted script a property with functions has at least one. -/
theorem builds_reportNoAccessor
    (keyword : Token) (property : String) (accessors : Accessors) :
    Recovery.Builds accepted (reportNoAccessor keyword property accessors)
      fun _ => accepted →
        accessors.getter.isSome = true ∨ accessors.setter.isSome = true := by
  obtain ⟨getter, setter⟩ := accessors
  unfold reportNoAccessor
  cases getter with
  | some _ => exact .pure fun _ => .inl rfl
  | none =>
    cases setter with
    | some _ => exact .pure fun _ => .inr rfl
    | none =>
      apply (builds_complain _ _).mono
      exact fun _ rejected isAccepted => absurd isAccepted rejected

theorem builds_propertyBlock (keyword : Token) (property : String) :
    Recovery.Builds accepted (propertyBlock keyword property) fun found =>
      (PropertySource.full found.getter found.setter).Proper accepted := by
  apply (builds_accessorList keyword property).bind
  intro accessors
  apply (builds_reportNoAccessor keyword property accessors).bind
  intro _
  exact .pure fun present proper => ⟨proper.getter, proper.setter, present⟩

/-! ## Properties -/

theorem builds_automaticSource
    (property : String) (keyword : Token) (line : PropertyLine) :
    Recovery.Builds accepted (automaticSource property keyword line)
      fun source =>
        Literal.AreFinite line.header.initial → source.Proper accepted := by
  unfold automaticSource
  split
  · cases initial : line.header.initial with
    | some literal => exact .pure fun finite => finite literal rfl
    | none =>
      apply Recovery.Builds.skip
        (travels_reportMissingValue property keyword line)
      exact fun _ => .pure id
  · exact .pure id

theorem builds_fullSource
    (property : String) (keyword : Token) (line : PropertyLine) :
    Recovery.Builds accepted (fullSource property keyword line)
      (PropertySource.Proper accepted) := by
  apply Recovery.Builds.skip
    (travels_reportInitialValue property line.header.initial)
  intro _
  apply (builds_propertyBlock keyword property).bind
  exact fun _ => .pure id

/-- A property is proper, wherever its value comes from. -/
theorem builds_propertyAfter (type : TypeName) :
    (propertyAfter type).Builds accepted fun tree =>
      tree.source.Proper accepted := by
  apply Builds.skip fun cursor => (advances_expect _ _ cursor rfl).travels
  intro keyword
  apply Builds.skip fun cursor => (advances_identifier _ cursor).travels
  intro name
  apply (Builds.lift builds_propertyLine).bind
  intro line
  apply Builds.skip fun cursor =>
    (travels_standsAlone line cursor).lift
  intro alone
  split
  · exact .pure id
  · split
    · apply (Builds.lift (builds_automaticSource name.name _ line)).bind
      exact fun _ => .pure id
    · apply (Builds.lift (builds_fullSource name.name keyword line)).bind
      exact fun _ => .get fun _ => .pure fun proper _ => proper

end Reader

variable {accepted : Prop}

namespace Reader

open Recovery

/-! ## Members -/

theorem builds_typedMember :
    typedMember.Builds accepted (Member.Proper accepted) := by
  apply Builds.skip fun cursor => (advances_typeName cursor).travels
  intro type
  apply Builds.get
  intro cursor
  split
  · exact .map (builds_function (some type))
  · exact .map (builds_propertyAfter type)
  · exact .map (builds_variableAfter type)
  · exact builds_reject _

theorem builds_plainMember :
    plainMember.Builds accepted (Member.Proper accepted) := by
  apply Builds.get
  intro cursor
  split
  · exact .map (builds_function none)
  · exact builds_typedMember

/-! ## States -/

variable (accepted) in
/-- What has been read of a state is proper, and so is what it hoists. -/
structure StateBody.Proper (found : StateBody) : Prop where
  events : ∀ event ∈ found.events, event.Proper accepted
  hoisted : ∀ member ∈ found.hoisted, member.Proper accepted

/-- What a state hoists is proper. -/
theorem builds_hoistedMember (state : String) (found : StateBody) :
    Recovery.Builds accepted (hoistedMember state found) fun after =>
      found.Proper accepted → after.Proper accepted := by
  apply Recovery.Builds.get
  intro cursor
  apply Recovery.Builds.report
  apply Recovery.Builds.run_bind builds_plainMember
  · intro member
    apply Recovery.Builds.pure
    intro proper before
    have hoisted : ∀ other ∈ found.hoisted ++ [member], other.Proper accepted :=
      List.forall_mem_append.2
        ⟨before.hoisted, List.forall_mem_singleton.2 proper⟩
    exact ⟨before.events, hoisted⟩
  · intro diagnostic
    apply Recovery.Builds.report
    apply Recovery.Builds.skip
      (travels_skipMember cursor.memberBlock?)
    exact fun _ => .pure id

theorem builds_unfinishedState (keyword : Token) (found : StateBody) :
    Recovery.Builds accepted (unfinishedState keyword found) fun decision =>
      found.Proper accepted → decision.value.Proper accepted := by
  apply Recovery.Builds.skip
    fun _ => travels_reportUnterminated .state keyword
  exact fun _ => .pure id

/-- A line of a state leaves what has been read of it proper. -/
theorem builds_nextInState
    (keyword : Token) (state : String) (found : StateBody) :
    Recovery.Builds accepted (nextInState keyword state found) fun decision =>
      found.Proper accepted → decision.value.Proper accepted := by
  apply Recovery.Builds.skip travels_skipNewlines
  intro _
  apply Recovery.Builds.get
  intro cursor
  split
  · apply Recovery.Builds.take
    intro _
    apply Recovery.Builds.skip (travels_finishLine _)
    exact fun _ => .pure id
  · exact .take fun _ => .pure id
  · apply Recovery.Builds.run_bind builds_event
    · intro event
      apply Recovery.Builds.pure
      intro proper before
      have events : ∀ other ∈ found.events ++ [event], other.Proper accepted :=
        List.forall_mem_append.2
          ⟨before.events, List.forall_mem_singleton.2 proper⟩
      exact ⟨events, before.hoisted⟩
    · exact fun diagnostic => builds_skipLineAfter diagnostic id
  · exact builds_unfinishedState keyword found
  · exact builds_unfinishedState keyword found
  · exact builds_unfinishedState keyword found
  · exact builds_unfinishedState keyword found
  · split
    · exact builds_unfinishedState keyword found
    · split
      · apply (builds_hoistedMember state found).bind
        exact fun _ => .pure id
      · apply Recovery.Builds.unexpected
        exact fun diagnostic => builds_skipLineAfter diagnostic id

theorem builds_stateBody (keyword : Token) (state : String) :
    Recovery.Builds accepted (stateBody keyword state)
      (StateBody.Proper accepted) := by
  apply Recovery.Builds.inBlock
  apply Recovery.Builds.get
  intro cursor
  have nothing : (StateBody.mk [] []).Proper accepted :=
    ⟨List.forall_mem_nil _, List.forall_mem_nil _⟩
  exact .loop_of (builds_nextInState keyword state) _ nothing

/-- A state is proper, and so is what it hoists. -/
theorem builds_stateMembers :
    stateMembers.Builds accepted fun members =>
      ∀ member ∈ members, member.Proper accepted := by
  apply Builds.get
  intro cursor
  apply Builds.skip fun cursor => (travels_autoMark cursor).lift
  intro auto
  apply Builds.skip fun cursor => (advances_expect _ _ cursor rfl).travels
  intro keyword
  apply Builds.skip fun cursor => (advances_identifier _ cursor).travels
  intro name
  apply Builds.skip (travels_endOfLine _)
  intro _
  apply (Builds.lift (builds_stateBody keyword name.name)).bind
  intro found
  apply Builds.get
  intro cursor
  apply Builds.pure
  intro proper
  exact List.forall_mem_append.2
    ⟨proper.hoisted, List.forall_mem_singleton.2 proper.events⟩

/-! ## Scripts -/

theorem builds_members :
    members.Builds accepted fun members =>
      ∀ member ∈ members, member.Proper accepted := by
  apply Builds.get
  intro cursor
  split
  · apply builds_event.bind
    exact fun _ => .pure fun proper => List.forall_mem_singleton.2 proper
  · exact builds_stateMembers
  · exact builds_stateMembers
  · apply builds_plainMember.bind
    exact fun _ => .pure List.forall_mem_singleton.2

theorem builds_recoverAfter {α : Type} {good : α → Prop} {value : α}
    (diagnostic : Diagnostic) (holds : good value) :
    Recovery.Builds accepted
      (do
        reportAndRecover diagnostic
        return value) good :=
  .report diagnostic (.skip travels_recoverToMember fun _ =>
    .pure holds)

/-- A declaration of a script leaves its members proper. -/
theorem builds_nextDeclaration (found : ScriptBody) :
    Recovery.Builds accepted (nextDeclaration found) fun decision =>
      (∀ member ∈ found.members, member.Proper accepted) →
        ∀ member ∈ decision.value.members, member.Proper accepted := by
  apply Recovery.Builds.skip travels_skipNewlines
  intro _
  apply Recovery.Builds.get
  intro cursor
  split
  · exact .pure id
  · exact .take fun _ => .pure id
  · exact builds_recoverAfter _ id
  · apply Recovery.Builds.run_bind
      (builds_of_travels fun cursor => (advances_importLine cursor).travels)
    · exact fun _ => .pure fun _ => id
    · exact fun diagnostic => builds_recoverAfter diagnostic id
  · split
    · apply Recovery.Builds.run_bind builds_members
      · intro next
        apply Recovery.Builds.pure
        exact fun proper before => List.forall_mem_append.2 ⟨before, proper⟩
      · intro diagnostic
        apply Recovery.Builds.report
        apply Recovery.Builds.skip
          (travels_skipMember cursor.memberBlock?)
        exact fun _ => .pure id
    · apply Recovery.Builds.unexpected
      exact fun diagnostic => builds_recoverAfter diagnostic id

/-- A script is proper. -/
theorem builds_script :
    Recovery.Builds accepted script (Script.Proper accepted) := by
  apply Recovery.Builds.skip travels_skipNewlines
  intro _
  apply Recovery.Builds.get
  intro cursor
  apply Recovery.Builds.skip travels_header
  intro top
  apply Recovery.Builds.get
  intro cursor
  apply (Recovery.Builds.loop builds_nextDeclaration _ _).bind
  intro found
  apply Recovery.Builds.get
  intro cursor
  exact .pure fun preserved => preserved (List.forall_mem_nil _)

end Reader

/-! ## Texts -/

theorem Cursor.seesFloats_start (source : String) :
    (start (tokens source)).SeesFloats := by
  intro token member float
  rw [budget_start] at member
  rcases List.mem_append.1 member with lexed | missing
  · exact startsWithDigit_of_mem_tokens lexed float
  · rw [kind_of_mem_missingEnd missing] at float
    cases float

/-- Every text is parsed to a proper script, which is fit to be accepted if
nothing is reported. -/
theorem script_ofText_proper (source : String) :
    (Parsed.ofText source).script.Proper
      ((Parsed.ofText source).diagnostics = []) := by
  have builds (accepted : Prop) :
      Reader.script.Ends (Cursor.start (tokens source)) _ :=
    @Reader.builds_script accepted (Cursor.start (tokens source))
  unfold Recovery.Ends at builds
  rw [Parsed.ofText, Parsed.ofTokens_eq]
  generalize Reader.script.run (Cursor.start (tokens source)) = outcome at *
  obtain ⟨tree, last⟩ := outcome
  apply (builds _).holds (Cursor.seesFloats_start source)
  exact List.reverse_eq_nil_iff.1

end PapyrusScript
