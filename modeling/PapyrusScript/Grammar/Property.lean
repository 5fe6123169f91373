import PapyrusScript.Grammar.Declaration

/-!
# Reading properties

The header of a property decides its form:

* with `Auto` or `AutoReadOnly` it is the whole property;
* without, a block of functions follows, up to `EndProperty`.

The block may hold one function named `Get` and one named `Set`; the first of
each name counts.  When the header is broken and names neither keyword, there
is only a block if a function follows it.
-/

namespace PapyrusScript.Reader

/-- What the header of a property says after its name. -/
structure PropertyHeader where
  initial : Option Literal
  automatic : Option Token
  hidden : Bool
  conditional : Bool
  deriving Repr, Inhabited

/-- How the header line of a property ended. -/
structure PropertyLine where
  header : PropertyHeader
  doc : Option String
  stop : Position
  intact : Bool
  deriving Repr, Inhabited

/-- Read a keyword that makes a property automatic, or remember the error of
a second one. -/
def automaticFlag (header : PropertyHeader) :
    Recovery (Step (PropertyHeader × Option Diagnostic)) := do
  if header.automatic.isSome then
    let diagnostic ← unexpected "at most one of 'Auto' or 'AutoReadOnly'"
    return .done (header, some diagnostic)
  else
    let token ← advance
    return .again ({ header with automatic := some token }, none)

/-- Read one more flag of a property, if there is one. -/
def propertyFlag (found : PropertyHeader × Option Diagnostic) :
    Recovery (Step (PropertyHeader × Option Diagnostic)) := do
  let header := found.1
  match (← get).kind with
  | .keyword .auto => automaticFlag header
  | .keyword .autoReadOnly => automaticFlag header
  | .keyword .hidden =>
      let _ ← advance
      return .again ({ header with hidden := true }, none)
  | .keyword .conditional =>
      let _ ← advance
      return .again ({ header with conditional := true }, none)
  | _ => return .done (header, none)

/-- Read an initial value and flags: what stands in front of the first error,
and that error. -/
def propertyHeader : Recovery (PropertyHeader × Option Diagnostic) := do
  match ← initialConstant.run with
  | .error diagnostic =>
      return (⟨none, none, false, false⟩, some diagnostic)
  | .ok initial =>
      loop propertyFlag (← get).budget (⟨initial, none, false, false⟩, none)

/-- Read the rest of a property's header line.  An error is reported and
costs the rest of the line, and the property ends in front of it. -/
def propertyLine : Recovery PropertyLine := do
  let (header, failure) ← propertyHeader
  let stop := (← get).lastEnd
  match failure with
  | some diagnostic =>
      reportAndSkipLine diagnostic
      return ⟨header, none, stop, false⟩
  | none =>
      match ← (endOfDeclaration "property declaration").run with
      | .ok doc => return ⟨header, doc, stop, true⟩
      | .error diagnostic =>
          let stop := (← get).lastEnd
          reportAndSkipLine diagnostic
          return ⟨header, none, stop, false⟩

/-- The two functions of a property. -/
structure Accessors where
  getter : Option Function
  setter : Option Function
  deriving Repr, Inhabited

/-- Read one function of a property. -/
def accessor : Reader Function := do
  if (← get).kind = .keyword .function then
    function none
  else
    let type ← typeName
    function (some type)

/-- Report an error at the name of a function if it applies. -/
def complainIf
    (applies : Bool) (found : Function) (cause : Cause) : Recovery Unit := do
  if applies then
    complain found.name.span.start cause

/-- Place a function into its slot.  A wrong name, a wrong number of
parameters and a slot that is taken are reported; only the first function of
a name is kept. -/
def placeAccessor
    (property : String) (accessors : Accessors) (found : Function) :
    Recovery Accessors := do
  let taken := Cause.duplicateAccessor property found.name.name
  if found.name.isNamed "Get" then
    complainIf (!found.parameters.isEmpty) found .getterWithParameters
    complainIf accessors.getter.isSome found taken
    return { accessors with getter := accessors.getter.or (some found) }
  else if found.name.isNamed "Set" then
    complainIf (found.parameters.length ≠ 1) found .setterArity
    complainIf accessors.setter.isSome found taken
    return { accessors with setter := accessors.setter.or (some found) }
  else
    complainIf true found (.accessorName found.name.name)
    return accessors

/-- Read one function of a property's block, or the end of the block. -/
def nextAccessor (keyword : Token) (property : String) (accessors : Accessors) :
    Recovery (Step Accessors) := do
  skipNewlines
  let cursor ← get
  if cursor.kind = .keyword .endProperty then
    let _ ← advance
    finishLine "'EndProperty'"
    return .done accessors
  else if cursor.kind = .docComment then
    let _ ← advance
    return .again accessors
  else if cursor.atFunctionStart then
    match ← accessor.run with
    | .ok found =>
        return .again (← placeAccessor property accessors found)
    | .error diagnostic =>
        reportAndSkipLine diagnostic
        return .again accessors
  else if cursor.kind = .endOfText || cursor.atMemberStart then
    reportUnterminated .property keyword
    return .done accessors
  else
    reportAndSkipLine
      (← unexpected "a 'Get' or 'Set' function or 'EndProperty'")
    return .again accessors

/-- Read the functions of a property up to the end of its block. -/
def accessorList (keyword : Token) (property : String) : Recovery Accessors :=
  inBlock .property do
    loop (nextAccessor keyword property) (← get).budget ⟨none, none⟩

/-- Report a property without any function of the right name. -/
def reportNoAccessor
    (keyword : Token) (property : String) (accessors : Accessors) :
    Recovery Unit := do
  if accessors.getter.isNone && accessors.setter.isNone then
    complain keyword.span.start (.noAccessor property)

/-- Read the block of a property. -/
def propertyBlock
    (keyword : Token) (property : String) : Recovery Accessors := do
  let accessors ← accessorList keyword property
  reportNoAccessor keyword property accessors
  return accessors

/-- Whether a header line is the whole property. -/
def standsAlone (line : PropertyLine) : Recovery Bool := do
  if line.intact || line.header.automatic.isSome then
    return false
  else
    skipNewlines
    return !(← get).atFunctionStart

/-- Report a constant property without a value, unless its header is broken
anyway. -/
def reportMissingValue
    (property : String) (keyword : Token) (line : PropertyLine) :
    Recovery Unit := do
  if line.intact then
    complain keyword.span.start (.readOnlyWithoutValue property)

/-- The source of the values of an automatic property. -/
def automaticSource
    (property : String) (keyword : Token) (line : PropertyLine) :
    Recovery PropertySource := do
  if keyword.kind = .keyword .autoReadOnly then
    match line.header.initial with
    | some initial => return .readOnly initial
    | none =>
        reportMissingValue property keyword line
        return .auto none
  else
    return .auto line.header.initial

/-- Report an initial value of a property with functions of its own. -/
def reportInitialValue
    (property : String) (initial : Option Literal) : Recovery Unit := do
  match initial with
  | some value => complain value.span.start (.fullPropertyWithValue property)
  | none => return

/-- The source of the values of a property with functions of its own. -/
def fullSource (property : String) (keyword : Token) (line : PropertyLine) :
    Recovery PropertySource := do
  reportInitialValue property line.header.initial
  let accessors ← propertyBlock keyword property
  return .full accessors.getter accessors.setter

/-- Read a property after its type. -/
def propertyAfter (type : TypeName) : Reader Property := do
  let keyword ← expect (.keyword .property) ""
  let name ← identifier "property name"
  let line ← propertyLine
  let build (source : PropertySource) (stop : Position) : Property :=
    { type
      name
      source
      hidden := line.header.hidden
      conditional := line.header.conditional
      doc := line.doc
      span := ⟨type.span.start, stop⟩ }
  if ← standsAlone line then
    return build (.auto line.header.initial) line.stop
  else
    match line.header.automatic with
    | some automatic =>
        let source ← automaticSource name.name automatic line
        return build source line.stop
    | none =>
        let source ← fullSource name.name keyword line
        return build source (← get).lastEnd

end PapyrusScript.Reader
