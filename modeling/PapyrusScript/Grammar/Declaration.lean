import PapyrusScript.Grammar.Statement
import PapyrusScript.Tree.Script

/-!
# Reading declarations

Functions and events have a header line and, unless they are native, a body.
A broken header keeps the parameters and flags in front of the error, the
rest of its line is discarded, and the body is still read.
-/

namespace PapyrusScript.Reader

/-- Read one parameter. -/
def parameter : Reader Parameter := do
  if (← get).atTypeStart then
    let type ← typeName
    let name ← identifier "parameter name in the parameter list"
    let default ← initialConstant
    return ⟨type, name, default, (← get).spanFrom type.span.start⟩
  else
    reject "a parameter type or ')' in the parameter list"

/-- Read one parameter and the sign after it, and remember the error of a
broken list. -/
def nextParameter (found : List Parameter × Option Diagnostic) :
    Recovery (Step (List Parameter × Option Diagnostic)) := do
  match ← parameter.run with
  | .error diagnostic => return .done (found.1, some diagnostic)
  | .ok next =>
      let parameters := found.1 ++ [next]
      match (← get).kind with
      | .symbol .comma =>
          let _ ← advance
          return .again (parameters, none)
      | .symbol .closeParen =>
          let _ ← advance
          return .done (parameters, none)
      | _ =>
          let diagnostic ← unexpected "',' or ')' in the parameter list"
          return .done (parameters, some diagnostic)

/-- Read the parenthesis in front of a parameter list. -/
def openParameters : Reader Token :=
  expect (.symbol .openParen) "to open the parameter list"

/-- Read a parameter list: the parameters in front of the first error, and
that error. -/
def parameters : Recovery (List Parameter × Option Diagnostic) := do
  match ← openParameters.run with
  | .error diagnostic => return ([], some diagnostic)
  | .ok _ =>
      let cursor ← get
      if cursor.kind = .symbol .closeParen then
        let _ ← advance
        return ([], none)
      else
        loop nextParameter cursor.budget ([], none)

/-- The flags of a function or event. -/
structure CallableFlags where
  native : Bool
  global : Bool
  deriving DecidableEq, Repr, Inhabited

/-- Read one more flag, if there is one.  An event cannot be global. -/
def nextCallableFlag (block : Block) (flags : CallableFlags) :
    Recovery (Step CallableFlags) := do
  match (← get).kind with
  | .keyword .native =>
      let _ ← advance
      return .again { flags with native := true }
  | .keyword .global =>
      if block = .function then
        let _ ← advance
        return .again { flags with global := true }
      else
        return .done flags
  | _ => return .done flags

/-- Read flags in any order and number. -/
def callableFlags (block : Block) : Recovery CallableFlags := do
  loop (nextCallableFlag block) (← get).budget ⟨false, false⟩

/-- What the header of a function or event says after its name. -/
structure CallableHeader where
  parameters : List Parameter
  flags : CallableFlags
  doc : Option String
  deriving Repr, Inhabited

/-- Read the rest of a header.  An error is reported and costs the rest of
the line. -/
def callableHeader
    (block : Block) (context : String) : Recovery CallableHeader := do
  match ← parameters with
  | (found, some diagnostic) =>
      reportAndSkipLine diagnostic
      return ⟨found, ⟨false, false⟩, none⟩
  | (found, none) =>
      let flags ← callableFlags block
      match ← (endOfDeclaration context).run with
      | .ok doc => return ⟨found, flags, doc⟩
      | .error diagnostic =>
          reportAndSkipLine diagnostic
          return ⟨found, flags, none⟩

/-- Read the body of a function or event and its terminator.  A missing
terminator is reported at the opening keyword. -/
def openBody (block : Block) (opener : Token) : Recovery (List Statement) := do
  let inside ← body block
  if block.closedBy (← get).kind then
    let _ ← advance
    finishLine "block terminator"
  else
    reportUnterminated block opener
  return inside

/-- Read the body of a function or event; a native one has none. -/
def callableBody (block : Block) (opener : Token) (flags : CallableFlags) :
    Recovery (List Statement) := do
  if flags.native then
    return []
  else
    openBody block opener

/-- Read a function from its keyword on, after its return type. -/
def function (returnType : Option TypeName) : Reader Function := do
  let keyword ← expect (.keyword .function) ""
  let start :=
    match returnType with
    | some type => type.span.start
    | none => keyword.span.start
  let name ← identifier "function name"
  let header ← callableHeader .function "function declaration"
  let inside ← callableBody .function keyword header.flags
  return {
    returnType
    name
    parameters := header.parameters
    body := inside
    native := header.flags.native
    global := header.flags.global
    doc := header.doc
    span := (← get).spanFrom start }

/-- Read an event. -/
def event : Reader Event := do
  let keyword ← expect (.keyword .event) ""
  let name ← identifier "event name"
  let header ← callableHeader .event "event declaration"
  let inside ← callableBody .event keyword header.flags
  return {
    name
    parameters := header.parameters
    body := inside
    native := header.flags.native
    doc := header.doc
    span := (← get).spanFrom keyword.span.start }

/-- Read one more flag of a variable, if there is one. -/
def nextVariableFlag (seen : Bool) : Recovery (Step Bool) := do
  if (← get).kind = .keyword .conditional then
    let _ ← advance
    return .again true
  else
    return .done seen

/-- Read the flags of a variable, and say whether there is one. -/
def variableFlags : Recovery Bool := do
  loop nextVariableFlag (← get).budget false

/-- Read a variable of the script after its type. -/
def variableAfter (type : TypeName) : Reader Variable := do
  let name ← identifier "variable name"
  let initial ← initialConstant
  let conditional ← variableFlags
  let span := (← get).spanFrom type.span.start
  endOfLine "variable declaration"
  return ⟨type, name, initial, conditional, span⟩

end PapyrusScript.Reader
