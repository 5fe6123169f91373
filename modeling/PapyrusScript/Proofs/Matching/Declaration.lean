import PapyrusScript.Proofs.Layout.Property
import PapyrusScript.Proofs.Matching.Statement

/-!
# Matching functions, events and properties

A broken list of parameters and a broken header of a property come with their
error, so what has been read of the two runs is compared together with the
reports.

Of the token that makes a property automatic only the kind and the place count,
and of the functions of a property only their names and the numbers of their
parameters, which bare functions keep.
-/

namespace PapyrusScript

variable {α : Type} {pairing : Pairing}

/-- Two results that may come with an error: the results are related, and the
errors tell the same. -/
inductive Pairing.Alike (pairing : Pairing) (same : α → α → Prop) :
    α × Option Diagnostic → α × Option Diagnostic → Prop
  | clean {value twin : α} (related : same value twin) :
      pairing.Alike same (value, none) (twin, none)
  | broken {value twin : α} (related : same value twin)
      {diagnostic other : Diagnostic}
      (tells : pairing.Tells diagnostic other) :
      pairing.Alike same (value, some diagnostic) (twin, some other)

theorem Pairing.Alike.value
    {same : α → α → Prop} {found twin : α × Option Diagnostic}
    (alike : pairing.Alike same found twin) : same found.1 twin.1 := by
  cases alike <;> assumption

/-! ## Parameters -/

namespace Reader

/-- A parameter is the same up to places. -/
theorem matches_parameter :
    parameter.Matches pairing parameter (pairing.Twins Parameter.bare) := by
  apply Matches.get
  intro cursor twin alike
  apply Matches.ite (by rw [alike.atTypeStart])
  · intro _
    apply matches_typeName.bind
    intro type twinType sameType
    apply (matches_identifier _).bind
    intro name twinName sameName
    apply matches_initialConstant.bind
    intro default twinDefault sameDefault
    apply Matches.get
    intro cursor twin alike
    apply Matches.pure
    refine ⟨?_, fun still => ?_⟩
    · rw [SameBy, Parameter.bare, Parameter.bare, sameType.known,
        sameName.known, sameDefault.known]
    · rw [sameType.equal still, sameName.equal still, sameDefault.equal still,
        alike.spanFrom still]
  · exact fun _ => matches_reject _

/-- The headers of two functions or events are the same up to places. -/
structure CallableHeader.Same
    (pairing : Pairing) (header twin : CallableHeader) : Prop where
  parameters :
    pairing.Twins (List.map Parameter.bare) header.parameters twin.parameters
  flags : twin.flags = header.flags
  doc : twin.doc = header.doc

end Reader

namespace Recovery

open Reader

/-- One parameter more is the same up to places, or both lists break. -/
theorem matches_nextParameter {found twin : List Parameter × Option Diagnostic}
    (alike : pairing.Alike (pairing.Twins (List.map Parameter.bare)) found twin) :
    (nextParameter found).Matches pairing (nextParameter twin)
      (Step.Decides
        (pairing.Alike (pairing.Twins (List.map Parameter.bare)))) := by
  apply Matches.run_bind matches_parameter
  · intro next twinNext same
    have longer := alike.value.concat same
    apply Matches.get
    intro cursor twinCursor alike
    rw [alike.kind]
    split
    · apply Matches.take
      exact fun _ _ _ => .pure (.clean longer)
    · apply Matches.take
      exact fun _ _ _ => .pure (.clean longer)
    · apply (matches_unexpected _).bind
      exact fun _ _ tells => .pure (.broken longer tells)
  · exact fun _ _ tells => .pure (.broken alike.value tells)

/-- Parameters are the same up to places, and so is the error behind them. -/
theorem matches_parameters :
    parameters.Matches pairing parameters
      (pairing.Alike (pairing.Twins (List.map Parameter.bare))) := by
  have blank : pairing.Twins (List.map Parameter.bare) [] [] := .refl _ _
  apply Matches.run_bind (matches_expect _ _)
  · intro _ _ _
    apply Matches.get
    intro cursor twin alike
    apply Matches.ite (by rw [alike.kind])
    · intro _
      apply Matches.take
      exact fun _ _ _ => .pure (.clean blank)
    · exact fun _ =>
        .loop (fun _ _ => matches_nextParameter) alike.length (.clean blank)
  · exact fun _ _ tells => .pure (.broken blank tells)

/-! ## Headers and bodies -/

/-- Flags say the same in both rows, as they are told by their kinds. -/
theorem matches_nextCallableFlag (block : Block) (flags : CallableFlags) :
    (nextCallableFlag block flags).Matches pairing
      (nextCallableFlag block flags) (Step.Decides fun seen twin =>
        twin = seen) := by
  apply Matches.get
  intro cursor twin alike
  rw [alike.kind]
  split
  · apply Matches.take
    exact fun _ _ _ => .pure rfl
  · apply Matches.ite Iff.rfl
    · intro _
      apply Matches.take
      exact fun _ _ _ => .pure rfl
    · exact fun _ => .pure rfl
  · exact .pure rfl

theorem matches_callableFlags (block : Block) :
    (callableFlags block).Matches pairing (callableFlags block)
      fun flags twin => twin = flags := by
  apply Matches.get
  intro cursor twin alike
  refine .loop ?_ alike.length rfl
  rintro _ flags rfl
  exact matches_nextCallableFlag block flags

theorem matches_callableHeader (block : Block) (context : String) :
    (callableHeader block context).Matches pairing
      (callableHeader block context) (CallableHeader.Same pairing) := by
  apply matches_parameters.bind
  intro found twin alike
  cases alike with
  | broken same tells => exact matches_skipLineAfter tells ⟨same, rfl, rfl⟩
  | clean same =>
    apply (matches_callableFlags block).bind
    rintro flags _ rfl
    apply Matches.run_bind (matches_endOfDeclaration context)
    · exact fun _ _ doc => .pure ⟨same, rfl, doc⟩
    · exact fun _ _ tells => matches_skipLineAfter tells ⟨same, rfl, rfl⟩

/-- The body of a function or event is the same up to places. -/
theorem matches_openBody (block : Block) {opener twinOpener : Token}
    (opens : pairing.Still → twinOpener.span = opener.span) :
    (openBody block opener).Matches pairing (openBody block twinOpener)
      (pairing.Twins Statement.bareBody) := by
  apply (matches_body block).bind
  intro inside twinInside same
  apply Matches.get
  intro cursor twin alike
  apply Matches.ite (by rw [alike.kind])
  · intro _
    apply Matches.take
    intro _ _ _
    apply (matches_finishLine _).bind
    exact fun _ _ _ => .pure same
  · intro _
    apply (matches_reportUnterminated _ opens).bind
    exact fun _ _ _ => .pure same

theorem matches_callableBody (block : Block) {opener twinOpener : Token}
    (opens : pairing.Still → twinOpener.span = opener.span)
    (flags : CallableFlags) :
    (callableBody block opener flags).Matches pairing
      (callableBody block twinOpener flags)
      (pairing.Twins Statement.bareBody) := by
  apply Matches.ite Iff.rfl
  · exact fun _ => .pure (.refl _ _)
  · exact fun _ => matches_openBody _ opens

end Recovery

/-! ## Functions, events and variables -/

namespace Reader

/-- A function is the same up to places, if its type is. -/
theorem matches_function {returnType twinType : Option TypeName}
    (sameType : pairing.Twins (Option.map TypeName.bare) returnType twinType) :
    (function returnType).Matches pairing (function twinType)
      (pairing.Twins Function.bare) := by
  apply (matches_expect _ _).bind
  intro keyword twinKeyword pair
  apply (matches_identifier _).bind
  intro name twinName sameName
  apply (Matches.lift (Recovery.matches_callableHeader _ _)).bind
  intro header twinHeader sameHeader
  rw [sameHeader.flags]
  have opens (still : pairing.Still) := pairing.span still pair
  apply (Matches.lift (Recovery.matches_callableBody _ opens _)).bind
  intro inside twinInside sameInside
  apply Matches.get
  intro cursor twin alike
  have sameParameters := sameHeader.parameters
  apply Matches.pure
  refine ⟨?_, fun still => ?_⟩
  · have type := sameType.known
    have name := sameName.known
    have parameters := sameParameters.known
    have body := sameInside.known
    unfold SameBy at *
    simp only [Function.bare, type, name, parameters, body, sameHeader.doc]
  · simp only [sameType.equal still, sameName.equal still, opens still,
      sameParameters.equal still, sameInside.equal still, sameHeader.doc,
      alike.spanFrom still]

/-- An event is the same up to places. -/
theorem matches_event :
    event.Matches pairing event (pairing.Twins Event.bare) := by
  apply (matches_expect _ _).bind
  intro keyword twinKeyword pair
  apply (matches_identifier _).bind
  intro name twinName sameName
  apply (Matches.lift (Recovery.matches_callableHeader _ _)).bind
  intro header twinHeader sameHeader
  rw [sameHeader.flags]
  have opens (still : pairing.Still) := pairing.span still pair
  apply (Matches.lift (Recovery.matches_callableBody _ opens _)).bind
  intro inside twinInside sameInside
  apply Matches.get
  intro cursor twin alike
  have sameParameters := sameHeader.parameters
  apply Matches.pure
  refine ⟨?_, fun still => ?_⟩
  · have name := sameName.known
    have parameters := sameParameters.known
    have body := sameInside.known
    unfold SameBy at *
    simp only [Event.bare, name, parameters, body, sameHeader.doc]
  · simp only [sameName.equal still, opens still, sameParameters.equal still,
      sameInside.equal still, sameHeader.doc, alike.spanFrom still]

theorem matches_variableFlags :
    Recovery.Matches variableFlags pairing variableFlags
      fun seen twin => twin = seen := by
  apply Recovery.Matches.get
  intro cursor twin alike
  refine .loop ?_ alike.length rfl
  rintro seen _ rfl
  apply Recovery.Matches.get
  intro cursor twin alike
  apply Recovery.Matches.ite (by rw [alike.kind])
  · intro _
    apply Recovery.Matches.take
    exact fun _ _ _ => .pure rfl
  · exact fun _ => .pure rfl

/-- A variable is the same up to places, if its type is. -/
theorem matches_variableAfter
    {type twinType : TypeName}
    (sameType : pairing.Twins TypeName.bare type twinType) :
    (variableAfter type).Matches pairing (variableAfter twinType)
      (pairing.Twins Variable.bare) := by
  apply (matches_identifier _).bind
  intro name twinName sameName
  apply matches_initialConstant.bind
  intro initial twinInitial sameInitial
  apply (Matches.lift matches_variableFlags).bind
  rintro conditional _ rfl
  apply Matches.get
  intro cursor twin alike
  apply (matches_endOfLine _).bind
  intro _ _ _
  apply Matches.pure
  refine ⟨?_, fun still => ?_⟩
  · rw [SameBy, Variable.bare, Variable.bare, sameType.known, sameName.known,
      sameInitial.known]
  · rw [sameType.equal still, sameName.equal still, sameInitial.equal still,
      alike.spanFrom still]

end Reader

/-! ## Properties -/

namespace Reader

/-- The headers of two properties are the same up to places. -/
structure PropertyHeader.Same
    (pairing : Pairing) (header twin : PropertyHeader) : Prop where
  initial : pairing.Twins (Option.map Literal.bare) header.initial twin.initial
  automatic : Option.Rel pairing.pairs header.automatic twin.automatic
  hidden : twin.hidden = header.hidden
  conditional : twin.conditional = header.conditional

theorem PropertyHeader.Same.isSome {header twin : PropertyHeader}
    (same : PropertyHeader.Same pairing header twin) :
    twin.automatic.isSome = header.automatic.isSome := by
  rcases exists_of_optionRel same.automatic with
    ⟨here, there⟩ | ⟨_, _, here, there, _⟩ <;> rw [here, there]
  rfl

theorem PropertyHeader.same_blank :
    PropertyHeader.Same pairing ⟨none, none, false, false⟩
      ⟨none, none, false, false⟩ :=
  ⟨.refl _ _, .none, rfl, rfl⟩

/-- The header lines of two properties are the same up to places. -/
structure PropertyLine.Same
    (pairing : Pairing) (line twin : PropertyLine) : Prop where
  header : PropertyHeader.Same pairing line.header twin.header
  doc : twin.doc = line.doc
  stop : pairing.Still → twin.stop = line.stop
  intact : twin.intact = line.intact

/-- The functions of two properties are the same up to places. -/
structure Accessors.Same (accessors twin : Accessors) : Prop where
  getter : SameBy (Option.map Function.bare) accessors.getter twin.getter
  setter : SameBy (Option.map Function.bare) accessors.setter twin.setter

end Reader

namespace Recovery

open Reader

/-! ## Header lines -/

theorem matches_automaticFlag
    {header twin : PropertyHeader} (same : PropertyHeader.Same pairing header twin) :
    (automaticFlag header).Matches pairing (automaticFlag twin)
      (Step.Decides (pairing.Alike (PropertyHeader.Same pairing))) := by
  apply Matches.ite (by rw [same.isSome])
  · intro _
    apply (matches_unexpected _).bind
    exact fun _ _ tells => .pure (.broken same tells)
  · intro _
    apply Matches.take
    intro token twinToken pair
    apply Matches.pure
    exact .clean { same with automatic := .some pair }

/-- A flag of a property changes both headers alike. -/
theorem matches_propertyFlag {found twin : PropertyHeader × Option Diagnostic}
    (alike : pairing.Alike (PropertyHeader.Same pairing) found twin) :
    (propertyFlag found).Matches pairing (propertyFlag twin)
      (Step.Decides (pairing.Alike (PropertyHeader.Same pairing))) := by
  have same := alike.value
  apply Matches.get
  intro cursor twinCursor alike
  rw [alike.kind]
  split
  · exact matches_automaticFlag same
  · exact matches_automaticFlag same
  · apply Matches.take
    exact fun _ _ _ => .pure (.clean { same with hidden := rfl })
  · apply Matches.take
    exact fun _ _ _ => .pure (.clean { same with conditional := rfl })
  · exact .pure (.clean same)

theorem matches_propertyHeader :
    propertyHeader.Matches pairing propertyHeader
      (pairing.Alike (PropertyHeader.Same pairing)) := by
  apply Matches.run_bind matches_initialConstant
  · intro initial twinInitial same
    apply Matches.get
    intro cursor twin alike
    exact .loop (fun _ _ => matches_propertyFlag) alike.length
      (.clean { PropertyHeader.same_blank with initial := same })
  · exact fun _ _ tells => .pure (.broken PropertyHeader.same_blank tells)

/-- The header line of a property is the same up to places. -/
theorem matches_propertyLine :
    propertyLine.Matches pairing propertyLine (PropertyLine.Same pairing) := by
  apply matches_propertyHeader.bind
  intro found twin alike
  cases alike with
  | broken same tells =>
    apply Matches.get
    intro _ _ here
    exact matches_skipLineAfter tells ⟨same, rfl, here.lastEnd, rfl⟩
  | clean same =>
    apply Matches.get
    intro _ _ here
    apply Matches.run_bind (matches_endOfDeclaration _)
    · exact fun _ _ doc => .pure ⟨same, doc, here.lastEnd, rfl⟩
    · intro _ _ tells
      apply Matches.get
      intro _ _ after
      exact matches_skipLineAfter tells ⟨same, rfl, after.lastEnd, rfl⟩

/-! ## Functions of a property -/

theorem matches_complainIf
    {cause : Cause} (syntactic : cause.isLexical = false) (applies : Bool)
    {found twin : Function}
    (named : pairing.Twins Identifier.bare found.name twin.name) :
    (complainIf applies found cause).Matches pairing
      (complainIf applies twin cause) fun _ _ => True := by
  apply Matches.ite Iff.rfl
  · intro _
    exact matches_complain syntactic fun still => by rw [named.equal still]
  · exact fun _ => .pure trivial

end Recovery

namespace Reader

theorem matches_accessor :
    accessor.Matches pairing accessor (pairing.Twins Function.bare) := by
  apply Matches.get
  intro cursor twin alike
  apply Matches.ite (by rw [alike.kind])
  · exact fun _ => matches_function (.refl _ _)
  · intro _
    apply matches_typeName.bind
    exact fun _ _ same => matches_function same.some

end Reader

namespace Recovery

open Reader

theorem sameBy_or {slot twinSlot : Option Function} {found twin : Function}
    (same : SameBy (Option.map Function.bare) slot twinSlot)
    (sameFound : SameBy Function.bare found twin) :
    SameBy (Option.map Function.bare) (slot.or (some found))
      (twinSlot.or (some twin)) := by
  cases slot with
  | none =>
    obtain rfl : twinSlot = none := by simpa [SameBy] using same
    exact sameFound.some
  | some first =>
    cases twinSlot with
    | none => cases same
    | some twinFirst => exact same

/-- What becomes of two functions of the same name and number of parameters
depends on which slot they belong into. -/
theorem matches_placeAccessor
    {related : Accessors → Accessors → Prop} (property : String)
    {accessors twin : Accessors} {found twinFound : Function}
    (sameName : pairing.Twins Identifier.bare found.name twinFound.name)
    (arity : twinFound.parameters.length = found.parameters.length)
    (getter : twin.getter.isSome = accessors.getter.isSome)
    (setter : twin.setter.isSome = accessors.setter.isSome)
    (onGetter : found.name.isNamed "Get" = true →
      related { accessors with getter := accessors.getter.or (some found) }
        { twin with getter := twin.getter.or (some twinFound) })
    (onSetter : found.name.isNamed "Set" = true →
      related { accessors with setter := accessors.setter.or (some found) }
        { twin with setter := twin.setter.or (some twinFound) })
    (onNeither : found.name.isNamed "Get" = false →
      found.name.isNamed "Set" = false → related accessors twin) :
    (placeAccessor property accessors found).Matches pairing
      (placeAccessor property twin twinFound) related := by
  have name := Identifier.sameBy_iff.1 sameName.known
  have named (word : String) :
      twinFound.name.isNamed word = found.name.isNamed word := by
    unfold Identifier.isNamed
    rw [name]
  have empty : twinFound.parameters.isEmpty = found.parameters.isEmpty := by
    rw [Bool.eq_iff_iff, List.isEmpty_iff_length_eq_zero,
      List.isEmpty_iff_length_eq_zero, arity]
  unfold placeAccessor
  rw [named, named, arity, empty, name, getter, setter]
  apply Matches.ite Iff.rfl
  · intro get
    apply (matches_complainIf rfl _ sameName).bind
    intro _ _ _
    apply (matches_complainIf rfl _ sameName).bind
    exact fun _ _ _ => .pure (onGetter get)
  · intro notGet
    apply Matches.ite Iff.rfl
    · intro set
      apply (matches_complainIf rfl _ sameName).bind
      intro _ _ _
      apply (matches_complainIf rfl _ sameName).bind
      exact fun _ _ _ => .pure (onSetter set)
    · intro notSet
      apply (matches_complainIf rfl _ sameName).bind
      exact fun _ _ _ => .pure (onNeither (by simpa using notGet)
        (by simpa using notSet))

/-- A relation of the functions of two properties that further functions
keep. -/
structure AccessorsGrow
    (pairing : Pairing) (same : Accessors → Accessors → Prop) : Prop where
  getterIsSome : ∀ {accessors twin}, same accessors twin →
    twin.getter.isSome = accessors.getter.isSome
  setterIsSome : ∀ {accessors twin}, same accessors twin →
    twin.setter.isSome = accessors.setter.isSome
  getter : ∀ {accessors twin}, same accessors twin → ∀ {found other},
    pairing.Twins Function.bare found other →
      same { accessors with getter := accessors.getter.or (some found) }
        { twin with getter := twin.getter.or (some other) }
  setter : ∀ {accessors twin}, same accessors twin → ∀ {found other},
    pairing.Twins Function.bare found other →
      same { accessors with setter := accessors.setter.or (some found) }
        { twin with setter := twin.setter.or (some other) }

end Recovery

section Accessors

variable {accessors twin : Reader.Accessors} (same : accessors.Same twin)
include same

theorem Reader.Accessors.Same.getterIsSome :
    twin.getter.isSome = accessors.getter.isSome := by
  simpa using congrArg Option.isSome same.getter

theorem Reader.Accessors.Same.setterIsSome :
    twin.setter.isSome = accessors.setter.isSome := by
  simpa using congrArg Option.isSome same.setter

variable {found other : Function} (known : SameBy Function.bare found other)
include known

theorem Reader.Accessors.Same.withGetter :
    Reader.Accessors.Same
      { accessors with getter := accessors.getter.or (some found) }
      { twin with getter := twin.getter.or (some other) } :=
  { same with getter := Recovery.sameBy_or same.getter known }

theorem Reader.Accessors.Same.withSetter :
    Reader.Accessors.Same
      { accessors with setter := accessors.setter.or (some found) }
      { twin with setter := twin.setter.or (some other) } :=
  { same with setter := Recovery.sameBy_or same.setter known }

end Accessors

namespace Recovery

open Reader

theorem accessorsGrow_same :
    AccessorsGrow pairing (pairing.Same Accessors.Same) where
  getterIsSome same := same.known.getterIsSome
  setterIsSome same := same.known.setterIsSome
  getter same _ _ found := ⟨same.known.withGetter found.known, fun still => by
    rw [same.equal still, found.equal still]⟩
  setter same _ _ found := ⟨same.known.withSetter found.known, fun still => by
    rw [same.equal still, found.equal still]⟩

section Accessors

variable {related : Accessors → Accessors → Prop}
  (grow : AccessorsGrow pairing related)

include grow

/-- A function of a property keeps what is known of both runs. -/
theorem matches_nextAccessor {keyword twinKeyword : Token}
    (opens : pairing.Still → twinKeyword.span = keyword.span)
    (property : String)
    {accessors twin : Accessors} (same : related accessors twin) :
    (nextAccessor keyword property accessors).Matches pairing
      (nextAccessor twinKeyword property twin) (Step.Decides related) := by
  apply matches_skipNewlines.bind
  intro _ _ _
  apply Matches.get
  intro cursor twinCursor alike
  rw [alike.kind, alike.atFunctionStart, alike.atMemberStart]
  apply Matches.ite Iff.rfl
  · intro _
    apply Matches.take
    intro _ _ _
    apply (matches_finishLine _).bind
    exact fun _ _ _ => .pure same
  intro _
  apply Matches.ite Iff.rfl
  · intro _
    apply Matches.take
    exact fun _ _ _ => .pure same
  intro _
  apply Matches.ite Iff.rfl
  · intro _
    apply Matches.run_bind matches_accessor
    · intro found twinFound sameFound
      have placed : (placeAccessor property accessors found).Matches pairing
          (placeAccessor property twin twinFound) related :=
        matches_placeAccessor property (sameFound.part Function.name
            fun _ => rfl)
          (length_parameters_of_bare_eq sameFound.known) (grow.getterIsSome same)
          (grow.setterIsSome same) (fun _ => grow.getter same sameFound)
          (fun _ => grow.setter same sameFound) fun _ _ => same
      apply placed.bind
      exact fun _ _ placed => .pure placed
    · exact fun _ _ tells => matches_skipLineAfter tells same
  intro _
  apply Matches.ite Iff.rfl
  · intro _
    apply (matches_reportUnterminated _ opens).bind
    exact fun _ _ _ => .pure same
  · intro _
    apply (matches_unexpected _).bind
    exact fun _ _ tells => matches_skipLineAfter tells same

theorem matches_reportNoAccessor {keyword twinKeyword : Token}
    (opens : pairing.Still → twinKeyword.span = keyword.span)
    (property : String) {accessors twin : Accessors} (same : related accessors twin) :
    (reportNoAccessor keyword property accessors).Matches pairing
      (reportNoAccessor twinKeyword property twin) fun _ _ => True := by
  unfold reportNoAccessor
  rw [← Option.not_isSome, ← Option.not_isSome, ← Option.not_isSome,
    ← Option.not_isSome, grow.getterIsSome same, grow.setterIsSome same]
  apply Matches.ite Iff.rfl
  · exact fun _ => matches_complain rfl fun still => by rw [opens still]
  · exact fun _ => .pure trivial

end Accessors

section Block

variable {keyword twinKeyword : Token}
  (opens : pairing.Still → twinKeyword.span = keyword.span)
include opens

theorem matches_accessorList (property : String) :
    (accessorList keyword property).Matches pairing
      (accessorList twinKeyword property) (pairing.Same Accessors.Same) := by
  apply Matches.inBlock
  apply Matches.get
  intro cursor twin alike
  exact .loop (fun _ _ => matches_nextAccessor accessorsGrow_same opens _)
    alike.length ⟨⟨rfl, rfl⟩, fun _ => rfl⟩

theorem matches_propertyBlock (property : String) :
    (propertyBlock keyword property).Matches pairing
      (propertyBlock twinKeyword property) (pairing.Same Accessors.Same) := by
  apply (matches_accessorList opens property).bind
  intro accessors twin same
  apply (matches_reportNoAccessor accessorsGrow_same opens property same).bind
  exact fun _ _ _ => .pure same

end Block

/-! ## Where the values of a property come from -/

section Sources

variable {line twin : PropertyLine} (same : PropertyLine.Same pairing line twin)
include same

theorem matches_standsAlone :
    (standsAlone line).Matches pairing (standsAlone twin)
      fun alone other => other = alone := by
  apply Matches.ite (by rw [same.intact, same.header.isSome])
  · exact fun _ => .pure rfl
  · intro _
    apply matches_skipNewlines.bind
    intro _ _ _
    apply Matches.get
    intro cursor twinCursor alike
    exact .pure (by rw [alike.atFunctionStart])

/-- A value that is missing is missing in both rows. -/
theorem matches_automaticSource (property : String) {keyword twinKeyword : Token}
    (pair : pairing.pairs keyword twinKeyword) :
    (automaticSource property keyword line).Matches pairing
      (automaticSource property twinKeyword twin)
      (pairing.Twins PropertySource.bare) := by
  have initial := same.header.initial
  apply Matches.ite (by rw [pairing.kind pair])
  · intro _
    rcases exists_of_optionRel initial.option with
      ⟨here, there⟩ | ⟨_, _, here, there, value⟩
    · rw [here, there]
      have reported : (reportMissingValue property keyword line).Matches
          pairing (reportMissingValue property twinKeyword twin)
          fun _ _ => True := by
        apply Matches.ite (by rw [same.intact])
        · exact fun _ => matches_complain rfl fun still => by
            rw [pairing.span still pair]
        · exact fun _ => .pure trivial
      apply reported.bind
      exact fun _ _ _ => .pure (.refl _ _)
    · rw [here, there]
      exact .pure (value.wrap PropertySource.readOnly fun _ => rfl)
  · exact fun _ => .pure ⟨congrArg PropertySource.auto initial.known,
      fun still => congrArg PropertySource.auto (initial.equal still)⟩

/-- The functions of a property are the same up to places. -/
theorem matches_fullSource (property : String) {keyword twinKeyword : Token}
    (opens : pairing.Still → twinKeyword.span = keyword.span) :
    (fullSource property keyword line).Matches pairing
      (fullSource property twinKeyword twin)
      (pairing.Twins PropertySource.bare) := by
  have reported :
      (reportInitialValue property line.header.initial).Matches pairing
        (reportInitialValue property twin.header.initial)
        fun _ _ => True := by
    rcases exists_of_optionRel same.header.initial.option with
      ⟨here, there⟩ | ⟨_, _, here, there, value⟩ <;> rw [here, there]
    · exact .pure trivial
    · exact matches_complain rfl fun still => by rw [value.equal still]
  apply reported.bind
  intro _ _ _
  apply (matches_propertyBlock opens property).bind
  intro accessors twinAccessors placed
  apply Matches.pure
  refine ⟨congrArg₂ PropertySource.full placed.known.getter
    placed.known.setter, fun still => ?_⟩
  rw [placed.equal still]

end Sources

end Recovery

namespace Reader

/-- A property is the same up to places, if its type is. -/
theorem matches_propertyAfter
    {type twinType : TypeName}
    (sameType : pairing.Twins TypeName.bare type twinType) :
    (propertyAfter type).Matches pairing (propertyAfter twinType)
      (pairing.Twins Property.bare) := by
  apply (matches_expect _ _).bind
  intro keyword twinKeyword pair
  apply (matches_identifier _).bind
  intro name twinName sameName
  apply (Matches.lift Recovery.matches_propertyLine).bind
  intro line twinLine same
  have property : twinName.name = name.name :=
    Identifier.sameBy_iff.1 sameName.known
  have header := same.header
  -- what is built of the parts is the same, whatever its source
  have built {source twinSource : PropertySource} {stop twinStop : Position}
      (sameSource : pairing.Twins PropertySource.bare source twinSource)
      (stops : pairing.Still → twinStop = stop) :
      pairing.Twins Property.bare
        ⟨type, name, source, line.header.hidden, line.header.conditional,
          line.doc, ⟨type.span.start, stop⟩⟩
        ⟨twinType, twinName, twinSource, twinLine.header.hidden,
          twinLine.header.conditional, twinLine.doc,
          ⟨twinType.span.start, twinStop⟩⟩ := by
    refine ⟨?_, fun still => ?_⟩
    · have type := sameType.known
      have name := sameName.known
      have source := sameSource.known
      unfold SameBy at *
      simp only [Property.bare, type, name, source, header.hidden,
        header.conditional, same.doc]
    · rw [sameType.equal still, sameName.equal still, sameSource.equal still,
        header.hidden, header.conditional, same.doc, stops still]
  apply (Matches.lift (Recovery.matches_standsAlone same)).bind
  rintro _ alone rfl
  apply Matches.ite Iff.rfl
  · intro _
    refine .pure (built ⟨congrArg PropertySource.auto header.initial.known,
      fun still => ?_⟩ same.stop)
    rw [header.initial.equal still]
  intro _
  rw [property]
  rcases exists_of_optionRel header.automatic with
    ⟨here, there⟩ | ⟨_, _, here, there, makes⟩ <;> rw [here, there]
  · apply (Matches.lift (Recovery.matches_fullSource same _ fun still =>
      pairing.span still pair)).bind
    intro source twinSource sameSource
    apply Matches.get
    exact fun _ _ alike => .pure (built sameSource alike.lastEnd)
  · apply (Matches.lift
      (Recovery.matches_automaticSource same _ makes)).bind
    exact fun _ _ sameSource => .pure (built sameSource same.stop)

end Reader

end PapyrusScript
