import PapyrusScript.Tree.Statement

/-!
# Scripts

A file holds one script: a header, imports, and members.  The members keep
the order in which they are declared.
-/

namespace PapyrusScript

/-- A variable of the script.  Its initial value is a literal. -/
structure Variable where
  type : TypeName
  name : Identifier
  initial : Option Literal
  conditional : Bool
  span : Span
  deriving Repr, Inhabited

/-- A parameter of a function or event. -/
structure Parameter where
  type : TypeName
  name : Identifier
  default : Option Literal
  span : Span
  deriving Repr, Inhabited

/-- A function, with a body unless it is native. -/
structure Function where
  returnType : Option TypeName
  name : Identifier
  parameters : List Parameter
  body : List Statement
  native : Bool
  global : Bool
  doc : Option String
  span : Span
  deriving Repr, Inhabited

/-- An event, with a body unless it is native. -/
structure Event where
  name : Identifier
  parameters : List Parameter
  body : List Statement
  native : Bool
  doc : Option String
  span : Span
  deriving Repr, Inhabited

/-- Where the value of a property comes from. -/
inductive PropertySource where
  /-- A hidden variable, possibly with an initial value. -/
  | auto (initial : Option Literal)
  /-- A constant. -/
  | readOnly (initial : Literal)
  /-- The property's own functions. -/
  | full (getter setter : Option Function)
  deriving Repr, Inhabited

/-- A property of the script. -/
structure Property where
  type : TypeName
  name : Identifier
  source : PropertySource
  hidden : Bool
  conditional : Bool
  doc : Option String
  span : Span
  deriving Repr, Inhabited

/-- A state, which overrides events while the script is in it. -/
structure ScriptState where
  name : Identifier
  auto : Bool
  events : List Event
  span : Span
  deriving Repr, Inhabited

/-- A declaration at the level of the script. -/
inductive Member where
  | variable (declaration : Variable)
  | property (declaration : Property)
  | function (declaration : Function)
  | event (declaration : Event)
  | state (declaration : ScriptState)
  deriving Repr, Inhabited

namespace Member

/-- The stretch of source of a member. -/
def span : Member → Span
  | .variable declaration => declaration.span
  | .property declaration => declaration.span
  | .function declaration => declaration.span
  | .event declaration => declaration.span
  | .state declaration => declaration.span

/-- The name of a member. -/
def name : Member → Identifier
  | .variable declaration => declaration.name
  | .property declaration => declaration.name
  | .function declaration => declaration.name
  | .event declaration => declaration.name
  | .state declaration => declaration.name

/-- The function that a member declares. -/
def function? : Member → Option Function
  | .function declaration => some declaration
  | _ => none

end Member

/-- Another script whose functions may be called by their bare names. -/
structure Import where
  name : Identifier
  span : Span
  deriving Repr, Inhabited

/-- A script. -/
structure Script where
  name : Identifier
  parent : Option Identifier
  hidden : Bool
  conditional : Bool
  native : Bool
  doc : Option String
  imports : List Import
  members : List Member
  span : Span
  deriving Repr, Inhabited

namespace Script

/-- The functions of a script, without those of properties. -/
def functions (script : Script) : List Function :=
  script.members.filterMap Member.function?

/-- The first function with a name. -/
def function? (script : Script) (name : String) : Option Function :=
  script.functions.find? fun function => function.name.isNamed name

end Script

end PapyrusScript
