import PapyrusScript.Proofs.Layout.Line

/-!
# Well-formed scripts and their layouts

A bare script is one without the places of its parts.  A script is well-formed
if what it declares can be written down at all: native functions and events
have no body, and a property with functions of its own has at least one, each
of the right name and number of parameters.

The header of a declaration is one line: what it declares, its flags in any
order, and its documentation comment, which may also stand alone on the next
line.  Every terminator has a line of its own.
-/

namespace PapyrusScript

/-- A variable without the places of its parts. -/
def Variable.bare (tree : Variable) : Variable where
  type := tree.type.bare
  name := tree.name.bare
  initial := tree.initial.map Literal.bare
  conditional := tree.conditional
  span := .nowhere

/-- A parameter without the places of its parts. -/
def Parameter.bare (tree : Parameter) : Parameter where
  type := tree.type.bare
  name := tree.name.bare
  default := tree.default.map Literal.bare
  span := .nowhere

/-- A function without the places of its parts. -/
def Function.bare (tree : Function) : Function where
  returnType := tree.returnType.map TypeName.bare
  name := tree.name.bare
  parameters := tree.parameters.map Parameter.bare
  body := Statement.bareBody tree.body
  native := tree.native
  global := tree.global
  doc := tree.doc
  span := .nowhere

/-- An event without the places of its parts. -/
def Event.bare (tree : Event) : Event where
  name := tree.name.bare
  parameters := tree.parameters.map Parameter.bare
  body := Statement.bareBody tree.body
  native := tree.native
  doc := tree.doc
  span := .nowhere

/-- The source of a property without the places of its parts. -/
def PropertySource.bare : PropertySource → PropertySource
  | .auto initial => .auto (initial.map Literal.bare)
  | .readOnly initial => .readOnly initial.bare
  | .full getter setter =>
    .full (getter.map Function.bare) (setter.map Function.bare)

/-- A property without the places of its parts. -/
def Property.bare (tree : Property) : Property where
  type := tree.type.bare
  name := tree.name.bare
  source := tree.source.bare
  hidden := tree.hidden
  conditional := tree.conditional
  doc := tree.doc
  span := .nowhere

/-- A state without the places of its parts. -/
def ScriptState.bare (tree : ScriptState) : ScriptState where
  name := tree.name.bare
  auto := tree.auto
  events := tree.events.map Event.bare
  span := .nowhere

/-- A member without the places of its parts. -/
def Member.bare : Member → Member
  | .variable tree => .variable tree.bare
  | .property tree => .property tree.bare
  | .function tree => .function tree.bare
  | .event tree => .event tree.bare
  | .state tree => .state tree.bare

/-- An import without its places. -/
def Import.bare (tree : Import) : Import where
  name := tree.name.bare
  span := .nowhere

/-- A script without the places of its parts. -/
def Script.bare (tree : Script) : Script where
  name := tree.name.bare
  parent := tree.parent.map Identifier.bare
  hidden := tree.hidden
  conditional := tree.conditional
  native := tree.native
  doc := tree.doc
  imports := tree.imports.map Import.bare
  members := tree.members.map Member.bare
  span := .nowhere

/-! ## Well-formed scripts -/

/-- A native function has no body, and any other a well-formed one. -/
structure Function.WellFormed (tree : Function) : Prop where
  native : tree.native = true → tree.body = []
  body : Statement.WellFormedBody tree.body

/-- A native event has no body, and any other a well-formed one. -/
structure Event.WellFormed (tree : Event) : Prop where
  native : tree.native = true → tree.body = []
  body : Statement.WellFormedBody tree.body

/-- A function that yields the value of a property. -/
structure Function.IsGetter (tree : Function) : Prop where
  wellFormed : tree.WellFormed
  named : tree.name.isNamed "Get" = true
  parameters : tree.parameters = []

/-- A function that takes the new value of a property. -/
structure Function.IsSetter (tree : Function) : Prop where
  wellFormed : tree.WellFormed
  named : tree.name.isNamed "Set" = true
  parameters : tree.parameters.length = 1

/-- A property with functions of its own has a getter or a setter. -/
def PropertySource.WellFormed : PropertySource → Prop
  | .full getter setter =>
    (getter.isSome = true ∨ setter.isSome = true) ∧
      (∀ tree ∈ getter, tree.IsGetter) ∧ ∀ tree ∈ setter, tree.IsSetter
  | _ => True

/-- Everything that a member declares is well-formed. -/
def Member.WellFormed : Member → Prop
  | .variable _ => True
  | .property tree => tree.source.WellFormed
  | .function tree => tree.WellFormed
  | .event tree => tree.WellFormed
  | .state tree => ∀ event ∈ tree.events, event.WellFormed

/-- Every member of a script is well-formed. -/
def Script.WellFormed (tree : Script) : Prop :=
  ∀ member ∈ tree.members, member.WellFormed

/-! ## Layouts of declarations -/

/-! ## Parts of a line -/

/-- The tokens of a literal in the place of an initial value.  A number may
have a minus in front. -/
inductive Literal.Spelled : Literal → List Token → Prop
  | plain {token : Token} {value : Value} {span : Span}
      (spells : token.Spells value) : Spelled ⟨value, span⟩ [token]
  | negativeInt {minus token : Token} {number : Int32} {span : Span}
      (sign : minus.kind = .symbol .minus) (kind : token.kind = .intLiteral)
      (reads : Number.integer? true token.text.toList = some number) :
      Spelled ⟨.int number, span⟩ [minus, token]
  | negativeFloat {minus token : Token} {number : Single} {span : Span}
      (sign : minus.kind = .symbol .minus) (kind : token.kind = .floatLiteral)
      (reads : Single.ofText? token.text.toList = some number)
      (bounded : number.isInfinite = false) :
      Spelled ⟨.float number.negate, span⟩ [minus, token]

/-- The tokens of an initial value, if there is one. -/
inductive Literal.InitialSpelled : Option Literal → List Token → Prop
  | absent : InitialSpelled none []
  | present {sign : Token} {literal : Literal} {row : List Token}
      (assigns : sign.kind = .symbol .assign)
      (spelled : literal.Spelled row) :
      InitialSpelled (some literal) (sign :: row)

/-- The end of a header line, with a documentation comment in front or on the
next line. -/
inductive DocumentedEnd : Option String → List Token → Prop
  | absent {line : Token} (ends : line.kind = .newline) :
      DocumentedEnd none [line]
  | inline {doc line : Token} (kind : doc.kind = .docComment)
      (ends : line.kind = .newline) : DocumentedEnd (some doc.text) [doc, line]
  | below {line doc last : Token} (ends : line.kind = .newline)
      (kind : doc.kind = .docComment) (endsToo : last.kind = .newline) :
      DocumentedEnd (some doc.text) [line, doc, last]

/-- A list of things, each laid out behind the one before it. -/
inductive LaidOutInTurn {α : Type} (laid : α → List Token → Prop) :
    List α → List Token → Prop
  | nil : LaidOutInTurn laid [] []
  | cons {first : α} {more : List α} {row behind : List Token}
      (head : laid first row) (tail : LaidOutInTurn laid more behind) :
      LaidOutInTurn laid (first :: more) (row ++ behind)

/-! ## Functions and events -/

/-- A type, a name and an optional initial value. -/
inductive Parameter.LaidOut : Parameter → List Token → Prop
  | intro {type : TypeName} {default : Option Literal} {nameSpan span : Span}
      {row behind : List Token} {token : Token} (spelled : type.Spelled row)
      (named : token.kind = .identifier)
      (starts : Literal.InitialSpelled default behind) :
      LaidOut ⟨type, ⟨token.text, nameSpan⟩, default, span⟩
        (row ++ token :: behind)

/-- Some parameters up to the parenthesis that closes them. -/
inductive Parameter.Listed : List Parameter → List Token → Prop
  | last {parameter : Parameter} {row : List Token} {closing : Token}
      (laid : parameter.LaidOut row)
      (closes : closing.kind = .symbol .closeParen) :
      Listed [parameter] (row ++ [closing])
  | next {parameter : Parameter} {more : List Parameter}
      {row behind : List Token} {comma : Token} (laid : parameter.LaidOut row)
      (kind : comma.kind = .symbol .comma) (rest : Listed more behind) :
      Listed (parameter :: more) (row ++ comma :: behind)

/-- Parameters in parentheses. -/
inductive Parameter.Parenthesized : List Parameter → List Token → Prop
  | none {opening closing : Token} (opens : opening.kind = .symbol .openParen)
      (closes : closing.kind = .symbol .closeParen) :
      Parenthesized [] [opening, closing]
  | some {opening : Token} {list : List Parameter} {row : List Token}
      (opens : opening.kind = .symbol .openParen) (listed : Listed list row) :
      Parenthesized list (opening :: row)

/-- The flags of a function or an event, which is never global. -/
inductive CallableFlagged (block : Block) : Bool → Bool → List Token → Prop
  | nil : CallableFlagged block false false []
  | native {word : Token} {native global : Bool} {row : List Token}
      (kind : word.kind = .keyword .native)
      (rest : CallableFlagged block native global row) :
      CallableFlagged block true global (word :: row)
  | global {word : Token} {native global : Bool} {row : List Token}
      (isFunction : block = .function) (kind : word.kind = .keyword .global)
      (rest : CallableFlagged block native global row) :
      CallableFlagged block native true (word :: row)

/-- What follows the header of a function or event: nothing if it is native,
and otherwise its body and its terminator. -/
inductive CallableBody (block : Block) (list : List Statement) :
    Bool → List Token → Prop
  | native : CallableBody block list true []
  | intro {row : List Token} {closer line : Token}
      (laid : Statement.LaidOut (.body list) row)
      (closes : closer.kind = .keyword block.terminator)
      (ends : line.kind = .newline) :
      CallableBody block list false (row ++ [closer, line])

/-- The return type of a function, if it has one. -/
inductive TypeName.Returned : Option TypeName → List Token → Prop
  | nothing : Returned none []
  | value {type : TypeName} {row : List Token} (spelled : type.Spelled row) :
      Returned (some type) row

/-- A function, with its body. -/
inductive Function.LaidOut : Function → List Token → Prop
  | intro {returnType : Option TypeName} {parameters : List Parameter}
      {body : List Statement} {native global : Bool} {doc : Option String}
      {nameSpan span : Span} {word token : Token}
      {type row flags docs inside : List Token}
      (returns : TypeName.Returned returnType type)
      (kind : word.kind = .keyword .function)
      (named : token.kind = .identifier)
      (listed : Parameter.Parenthesized parameters row)
      (flagged : CallableFlagged .function native global flags)
      (documented : DocumentedEnd doc docs)
      (laid : CallableBody .function body native inside) :
      LaidOut
        { returnType, name := ⟨token.text, nameSpan⟩, parameters, body, native,
          global, doc, span }
        (type ++ word :: token :: (row ++ (flags ++ docs) ++ inside))

/-- An event, with its body. -/
inductive Event.LaidOut : Event → List Token → Prop
  | intro {parameters : List Parameter} {body : List Statement}
      {native : Bool} {doc : Option String} {nameSpan span : Span}
      {word token : Token} {row flags docs inside : List Token}
      (kind : word.kind = .keyword .event) (named : token.kind = .identifier)
      (listed : Parameter.Parenthesized parameters row)
      (flagged : CallableFlagged .event native false flags)
      (documented : DocumentedEnd doc docs)
      (laid : CallableBody .event body native inside) :
      LaidOut
        { name := ⟨token.text, nameSpan⟩, parameters, body, native, doc, span }
        (word :: token :: (row ++ (flags ++ docs) ++ inside))

/-! ## Variables and properties -/

/-- The flags of a variable, which only say whether there is one. -/
inductive VariableFlagged : Bool → List Token → Prop
  | nil : VariableFlagged false []
  | conditional {word : Token} {flag : Bool} {row : List Token}
      (kind : word.kind = .keyword .conditional)
      (rest : VariableFlagged flag row) : VariableFlagged true (word :: row)

/-- A variable of the script. -/
inductive Variable.LaidOut : Variable → List Token → Prop
  | intro {type : TypeName} {initial : Option Literal} {conditional : Bool}
      {nameSpan span : Span} {token line : Token}
      {row behind flags : List Token} (spelled : type.Spelled row)
      (named : token.kind = .identifier)
      (starts : Literal.InitialSpelled initial behind)
      (flagged : VariableFlagged conditional flags)
      (ends : line.kind = .newline) :
      LaidOut ⟨type, ⟨token.text, nameSpan⟩, initial, conditional, span⟩
        (row ++ token :: (behind ++ (flags ++ [line])))

/-- The flags of a property, at most one of which makes it automatic. -/
inductive PropertyFlagged :
    Option Keyword → Bool → Bool → List Token → Prop
  | nil : PropertyFlagged none false false []
  | hidden {automatic : Option Keyword} {word : Token}
      {hidden conditional : Bool} {row : List Token}
      (kind : word.kind = .keyword .hidden)
      (rest : PropertyFlagged automatic hidden conditional row) :
      PropertyFlagged automatic true conditional (word :: row)
  | conditional {automatic : Option Keyword} {word : Token}
      {hidden conditional : Bool} {row : List Token}
      (kind : word.kind = .keyword .conditional)
      (rest : PropertyFlagged automatic hidden conditional row) :
      PropertyFlagged automatic hidden true (word :: row)
  | auto {word : Token} {hidden conditional : Bool} {row : List Token}
      (kind : word.kind = .keyword .auto)
      (rest : PropertyFlagged none hidden conditional row) :
      PropertyFlagged (some .auto) hidden conditional (word :: row)
  | autoReadOnly {word : Token} {hidden conditional : Bool}
      {row : List Token} (kind : word.kind = .keyword .autoReadOnly)
      (rest : PropertyFlagged none hidden conditional row) :
      PropertyFlagged (some .autoReadOnly) hidden conditional (word :: row)

/-- A function of a property, if there is one. -/
inductive Function.LaidOutIfAny : Option Function → List Token → Prop
  | absent : LaidOutIfAny none []
  | present {tree : Function} {row : List Token} (laid : tree.LaidOut row) :
      LaidOutIfAny (some tree) row

/-- How the source of a property shows in its header, and what follows. -/
inductive PropertySource.LaidOut :
    PropertySource → Option Literal → Option Keyword → List Token → Prop
  | auto {initial : Option Literal} :
      LaidOut (.auto initial) initial (some .auto) []
  | readOnly {initial : Literal} :
      LaidOut (.readOnly initial) (some initial) (some .autoReadOnly) []
  | full {getter setter : Option Function} {first second : List Token}
      {closer line : Token} (gets : Function.LaidOutIfAny getter first)
      (sets : Function.LaidOutIfAny setter second)
      (closes : closer.kind = .keyword .endProperty)
      (ends : line.kind = .newline) :
      LaidOut (.full getter setter) none none
        (first ++ (second ++ [closer, line]))

/-- A property, with its functions. -/
inductive Property.LaidOut : Property → List Token → Prop
  | intro {type : TypeName} {source : PropertySource}
      {hidden conditional : Bool} {doc : Option String} {nameSpan span : Span}
      {initial : Option Literal} {automatic : Option Keyword}
      {word token : Token} {row behind flags docs block : List Token}
      (spelled : type.Spelled row) (kind : word.kind = .keyword .property)
      (named : token.kind = .identifier)
      (starts : Literal.InitialSpelled initial behind)
      (flagged : PropertyFlagged automatic hidden conditional flags)
      (documented : DocumentedEnd doc docs)
      (laid : source.LaidOut initial automatic block) :
      LaidOut
        ⟨type, ⟨token.text, nameSpan⟩, source, hidden, conditional, doc, span⟩
        (row ++ word :: token :: (behind ++ flags ++ docs ++ block))

/-! ## States, members and scripts -/

/-- The keyword that marks the first state, if it is one. -/
inductive AutoMarked : Bool → List Token → Prop
  | plain : AutoMarked false []
  | auto {word : Token} (kind : word.kind = .keyword .auto) :
      AutoMarked true [word]

/-- A state, with its events. -/
inductive ScriptState.LaidOut : ScriptState → List Token → Prop
  | intro {auto : Bool} {events : List Event} {nameSpan span : Span}
      {word token line closer last : Token} {mark row : List Token}
      (marked : AutoMarked auto mark) (kind : word.kind = .keyword .state)
      (named : token.kind = .identifier) (ends : line.kind = .newline)
      (laid : LaidOutInTurn Event.LaidOut events row)
      (closes : closer.kind = .keyword .endState)
      (endsToo : last.kind = .newline) :
      LaidOut ⟨⟨token.text, nameSpan⟩, auto, events, span⟩
        (mark ++ word :: token :: line :: (row ++ [closer, last]))

/-- A member of the script. -/
inductive Member.LaidOut : Member → List Token → Prop
  | declared {tree : Variable} {row : List Token} (laid : tree.LaidOut row) :
      LaidOut (.variable tree) row
  | property {tree : Property} {row : List Token} (laid : tree.LaidOut row) :
      LaidOut (.property tree) row
  | function {tree : Function} {row : List Token} (laid : tree.LaidOut row) :
      LaidOut (.function tree) row
  | event {tree : Event} {row : List Token} (laid : tree.LaidOut row) :
      LaidOut (.event tree) row
  | state {tree : ScriptState} {row : List Token} (laid : tree.LaidOut row) :
      LaidOut (.state tree) row

/-- An import line. -/
inductive Import.LaidOut : Import → List Token → Prop
  | intro {word token line : Token} {nameSpan span : Span}
      (kind : word.kind = .keyword .importScript)
      (named : token.kind = .identifier) (ends : line.kind = .newline) :
      LaidOut ⟨⟨token.text, nameSpan⟩, span⟩ [word, token, line]

/-- The name of the parent script, if there is one. -/
inductive Identifier.ExtendedBy : Option Identifier → List Token → Prop
  | nothing : ExtendedBy none []
  | parent {word token : Token} {span : Span}
      (kind : word.kind = .keyword .extendsParent)
      (named : token.kind = .identifier) :
      ExtendedBy (some ⟨token.text, span⟩) [word, token]

/-- The flags of a script. -/
inductive ScriptFlagged : Bool → Bool → Bool → List Token → Prop
  | nil : ScriptFlagged false false false []
  | hidden {word : Token} {hidden conditional native : Bool}
      {row : List Token} (kind : word.kind = .keyword .hidden)
      (rest : ScriptFlagged hidden conditional native row) :
      ScriptFlagged true conditional native (word :: row)
  | conditional {word : Token} {hidden conditional native : Bool}
      {row : List Token} (kind : word.kind = .keyword .conditional)
      (rest : ScriptFlagged hidden conditional native row) :
      ScriptFlagged hidden true native (word :: row)
  | native {word : Token} {hidden conditional native : Bool}
      {row : List Token} (kind : word.kind = .keyword .native)
      (rest : ScriptFlagged hidden conditional native row) :
      ScriptFlagged hidden conditional true (word :: row)

/-- A script: its header line, its imports and its members. -/
inductive Script.LaidOut : Script → List Token → Prop
  | intro {parent : Option Identifier} {hidden conditional native : Bool}
      {doc : Option String} {imports : List Import} {members : List Member}
      {nameSpan span : Span} {word token : Token}
      {extending flags docs first second : List Token}
      (kind : word.kind = .keyword .scriptname)
      (named : token.kind = .identifier)
      (extended : Identifier.ExtendedBy parent extending)
      (flagged : ScriptFlagged hidden conditional native flags)
      (documented : DocumentedEnd doc docs)
      (imported : LaidOutInTurn Import.LaidOut imports first)
      (laid : LaidOutInTurn Member.LaidOut members second) :
      LaidOut
        ⟨⟨token.text, nameSpan⟩, parent, hidden, conditional, native, doc,
          imports, members, span⟩
        (word :: token :: (extending ++ (flags ++ docs)) ++ (first ++ second))

/-- The end of the text, which need not have a token. -/
inductive TextEnd : List Token → Prop
  | missing : TextEnd []
  | token {last : Token} (kind : last.kind = .endOfText) : TextEnd [last]

end PapyrusScript
