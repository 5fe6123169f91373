import PapyrusScript.Grammar.Property

/-!
# Reading scripts

A script is a header line, imports and members.  Every line that fits nowhere
is reported, and reading goes on at the next line that starts a declaration.
Reading always produces a script.

A state may only declare events.  Any other declaration inside it is reported
and then counts as declared in front of the state.
-/

namespace PapyrusScript.Reader

/-- Read a member that starts with a type. -/
def typedMember : Reader Member := do
  let type ← typeName
  match (← get).kind with
  | .keyword .function => .function <$> function (some type)
  | .keyword .property => .property <$> propertyAfter type
  | .identifier => .variable <$> variableAfter type
  | _ => reject "'Function', 'Property' or a variable name after the type"

/-- Read a member that may be declared anywhere: all but events and states. -/
def plainMember : Reader Member := do
  if (← get).kind = .keyword .function then
    .function <$> function none
  else
    typedMember

/-- What has been read of a state: its events, and the members that were
declared inside it but count as declared in front of it. -/
structure StateBody where
  events : List Event
  hoisted : List Member
  deriving Repr, Inhabited

/-- Read a declaration in a state that is no event. -/
def hoistedMember (state : String) (found : StateBody) :
    Recovery StateBody := do
  let cursor ← get
  complain cursor.position (.declarationInState state cursor.kind)
  match ← plainMember.run with
  | .ok member =>
      return { found with hoisted := found.hoisted ++ [member] }
  | .error diagnostic =>
      report diagnostic
      skipMember cursor.memberBlock?
      return found

/-- Report a state that is still open where it can no longer be closed. -/
def unfinishedState
    (keyword : Token) (found : StateBody) : Recovery (Step StateBody) := do
  reportUnterminated .state keyword
  return .done found

/-- Read one declaration of a state, or the end of the state. -/
def nextInState (keyword : Token) (state : String) (found : StateBody) :
    Recovery (Step StateBody) := do
  skipNewlines
  let cursor ← get
  match cursor.kind with
  | .keyword .endState =>
      let _ ← advance
      finishLine "'EndState'"
      return .done found
  | .docComment =>
      let _ ← advance
      return .again found
  | .keyword .event =>
      match ← event.run with
      | .ok next => return .again { found with events := found.events ++ [next] }
      | .error diagnostic =>
          reportAndSkipLine diagnostic
          return .again found
  | .endOfText => unfinishedState keyword found
  | .keyword .state => unfinishedState keyword found
  | .keyword .scriptname => unfinishedState keyword found
  | .keyword .importScript => unfinishedState keyword found
  | _ =>
      if cursor.kind = .keyword .auto && cursor.kindAt 1 = .keyword .state then
        unfinishedState keyword found
      else if cursor.atDeclaration then
        return .again (← hoistedMember state found)
      else
        reportAndSkipLine
          (← unexpected "an 'Event' declaration or 'EndState'")
        return .again found

/-- Read the declarations of a state up to its end. -/
def stateBody (keyword : Token) (state : String) : Recovery StateBody :=
  inBlock .state do
    loop (nextInState keyword state) (← get).budget ⟨[], []⟩

/-- Whether the keyword stands here that marks the first state. -/
def autoMark : Recovery Bool := do
  if (← get).kind = .keyword .auto then
    let _ ← advance
    return true
  else
    return false

/-- Read a state: the members that it hoists, and the state after them. -/
def stateMembers : Reader (List Member) := do
  let start := (← get).position
  let auto ← autoMark
  let keyword ← expect (.keyword .state) ""
  let name ← identifier "state name"
  endOfLine "state declaration"
  let found ← stateBody keyword name.name
  let state : ScriptState :=
    { name, auto, events := found.events, span := (← get).spanFrom start }
  return found.hoisted ++ [.state state]

/-- Read a member of the script.  A state may yield several. -/
def members : Reader (List Member) := do
  match (← get).kind with
  | .keyword .event => return [.event (← event)]
  | .keyword .state => stateMembers
  | .keyword .auto => stateMembers
  | _ => return [← plainMember]

/-- Read an import line. -/
def importLine : Reader Import := do
  let keyword ← expect (.keyword .importScript) ""
  let name ← identifier "script name after 'Import'"
  let span := (← get).spanFrom keyword.span.start
  endOfLine "import"
  return ⟨name, span⟩

/-- Report an error and go on at the next declaration. -/
def reportAndRecover (diagnostic : Diagnostic) : Recovery Unit := do
  report diagnostic
  recoverToMember

/-- The imports and members of a script. -/
structure ScriptBody where
  imports : List Import
  members : List Member
  deriving Repr, Inhabited

/-- Read one declaration of the script, or stop at the end of the text. -/
def nextDeclaration (found : ScriptBody) : Recovery (Step ScriptBody) := do
  skipNewlines
  let cursor ← get
  match cursor.kind with
  | .endOfText => return .done found
  | .docComment =>
      let _ ← advance
      return .again found
  | .keyword .scriptname =>
      reportAndRecover ⟨cursor.position, .duplicateHeader⟩
      return .again found
  | .keyword .importScript =>
      match ← importLine.run with
      | .ok next =>
          return .again { found with imports := found.imports ++ [next] }
      | .error diagnostic =>
          reportAndRecover diagnostic
          return .again found
  | _ =>
      if cursor.atDeclaration then
        match ← members.run with
        | .ok next =>
            return .again { found with members := found.members ++ next }
        | .error diagnostic =>
            report diagnostic
            skipMember cursor.memberBlock?
            return .again found
      else
        reportAndRecover (← unexpected "a script member declaration")
        return .again found

/-- What the header line of a script says. -/
structure Header where
  name : Identifier
  parent : Option Identifier
  hidden : Bool
  conditional : Bool
  native : Bool
  doc : Option String
  deriving Repr, Inhabited

/-- Read the flags of a script in any order and number. -/
def headerFlags (header : Header) : Recovery (Step Header) := do
  match (← get).kind with
  | .keyword .hidden =>
      let _ ← advance
      return .again { header with hidden := true }
  | .keyword .conditional =>
      let _ ← advance
      return .again { header with conditional := true }
  | .keyword .native =>
      let _ ← advance
      return .again { header with native := true }
  | _ => return .done header

/-- Read the name of the parent script if one is announced. -/
def parentName : Reader (Option Identifier) := do
  if (← get).kind = .keyword .extendsParent then
    let _ ← advance
    return some (← identifier "parent script name after 'Extends'")
  else
    return none

/-- Read the name of a script after its keyword. -/
def scriptName : Reader Identifier := do
  let _ ← expect (.keyword .scriptname) ""
  identifier "script name"

/-- Read a header line.  What stands in front of an error is kept, the error
is reported, and reading goes on at the next declaration. -/
def headerLine (blank : Header) : Recovery Header := do
  match ← scriptName.run with
  | .error diagnostic =>
      reportAndRecover diagnostic
      return blank
  | .ok name =>
      let header := { blank with name }
      match ← parentName.run with
      | .error diagnostic =>
          reportAndRecover diagnostic
          return header
      | .ok parent =>
          let cursor ← get
          let header ← loop headerFlags cursor.budget { header with parent }
          match ← (endOfDeclaration "script header").run with
          | .error diagnostic =>
              reportAndRecover diagnostic
              return header
          | .ok doc => return { header with doc }

/-- What is known of a script without a header that starts at a place. -/
def blankHeader (start : Position) : Header :=
  { name := ⟨"", .point start⟩
    parent := none
    hidden := false
    conditional := false
    native := false
    doc := none }

/-- Report that a script has no header line, and go on at the first
declaration. -/
def missingHeader : Recovery Unit := do
  let cursor ← get
  report (← unexpected "'Scriptname' header")
  if !cursor.atDeclaration then
    recoverToMember

/-- Read the header of a script, or report that there is none. -/
def header : Recovery Header := do
  let cursor ← get
  let blank := blankHeader cursor.position
  if cursor.kind = .keyword .scriptname then
    headerLine blank
  else
    missingHeader
    return blank

/-- Read a whole script. -/
def script : Recovery Script := do
  skipNewlines
  let start := (← get).position
  let top ← header
  let found ← loop nextDeclaration (← get).budget ⟨[], []⟩
  return {
    name := top.name
    parent := top.parent
    hidden := top.hidden
    conditional := top.conditional
    native := top.native
    doc := top.doc
    imports := found.imports
    members := found.members
    span := (← get).spanFrom start }

end PapyrusScript.Reader
