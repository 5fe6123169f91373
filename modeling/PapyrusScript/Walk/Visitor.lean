import PapyrusScript.Tree.Script

/-!
# Walking a script

A walk goes through a tree depth first, in source order, and shows every node
to a visitor:

* `enter` is called in front of a node's children, and its answer decides
  whether they are walked, skipped, or the whole walk is abandoned;
* `exit` is called after the children, also when they were skipped.

A type has no children and no `exit`.  After a stop nothing is called any
more.
-/

namespace PapyrusScript

/-- What a visitor wants after entering a node. -/
inductive Answer where
  | proceed
  | skipChildren
  | stop
  deriving DecidableEq, Repr, Inhabited

/-- A node of a tree, as a visitor sees it. -/
inductive Node where
  | script (node : Script)
  | importLine (node : Import)
  | variable (node : Variable)
  | property (node : Property)
  | function (node : Function)
  | event (node : Event)
  | state (node : ScriptState)
  | parameter (node : Parameter)
  | statement (node : Statement)
  | branch (node : Branch Statement)
  | expression (node : Expression)
  | argument (node : Argument Expression)
  | literal (node : Literal)
  | type (node : TypeName)
  deriving Repr, Inhabited

/-- The stretch of source of a node. -/
def Node.span : Node → Span
  | .script node => node.span
  | .importLine node => node.span
  | .variable node => node.span
  | .property node => node.span
  | .function node => node.span
  | .event node => node.span
  | .state node => node.span
  | .parameter node => node.span
  | .statement node => node.span
  | .branch node => node.span
  | .expression node => node.span
  | .argument node => node.span
  | .literal node => node.span
  | .type node => node.span

/-- What is done at each node, with a state of type `σ`. -/
structure Visitor (σ : Type) where
  enter : Node → StateM σ Answer
  exit : Node → StateM σ Unit

/-- The reason why a walk ends early. -/
inductive Stopped where
  | stopped
  deriving DecidableEq, Repr, Inhabited

/-- A part of a walk, which a visitor may abandon. -/
abbrev Walk (σ : Type) := ExceptT Stopped (StateM σ)

namespace Visitor

variable {σ : Type} (visitor : Visitor σ)

/-- Visit a node and, if the visitor wants to, its children. -/
def visit (node : Node) (children : Walk σ Unit) : Walk σ Unit := do
  match ← visitor.enter node with
  | .stop => throw .stopped
  | .proceed => children
  | .skipChildren => pure ()
  visitor.exit node

/-- Visit a type. -/
def walkType (type : TypeName) : Walk σ Unit := do
  match ← visitor.enter (.type type) with
  | .stop => throw .stopped
  | _ => return

/-- Visit a literal. -/
def walkLiteral (node : Literal) : Walk σ Unit :=
  visitor.visit (.literal node) (pure ())

/-- Walk a part that may be missing. -/
def walkOptional {α : Type} (walk : α → Walk σ Unit) :
    Option α → Walk σ Unit
  | none => pure ()
  | some part => walk part

/-- Walk several parts in order. -/
def walkAll {α : Type} (walk : α → Walk σ Unit) : List α → Walk σ Unit
  | [] => pure ()
  | part :: rest => do
      walk part
      walkAll walk rest

mutual

/-- Walk an expression.  A literal is visited as such. -/
def walkExpression : Expression → Walk σ Unit
  | .literal node => visitor.walkLiteral node
  | .name node => visitor.visit (.expression (.name node)) (pure ())
  | .unary operator operand span =>
      visitor.visit (.expression (.unary operator operand span)) do
        walkExpression operand
  | .binary operator left right span =>
      visitor.visit (.expression (.binary operator left right span)) do
        walkExpression left
        walkExpression right
  | .call callee arguments span =>
      visitor.visit (.expression (.call callee arguments span)) do
        walkExpression callee
        walkArguments arguments
  | .member object field span =>
      visitor.visit (.expression (.member object field span)) do
        walkExpression object
  | .index array subscript span =>
      visitor.visit (.expression (.index array subscript span)) do
        walkExpression array
        walkExpression subscript
  | .cast operand target span =>
      visitor.visit (.expression (.cast operand target span)) do
        walkExpression operand
        visitor.walkType target
  | .create type size span =>
      visitor.visit (.expression (.create type size span)) do
        visitor.walkType type
        walkSize size
  | .arrayLength array span =>
      visitor.visit (.expression (.arrayLength array span)) do
        walkExpression array

/-- Walk the size of a new array, if there is one. -/
def walkSize : Option Expression → Walk σ Unit
  | none => pure ()
  | some size => walkExpression size

/-- Walk an argument. -/
def walkArgument : Argument Expression → Walk σ Unit
  | ⟨name, value, span⟩ =>
      visitor.visit (.argument ⟨name, value, span⟩) do
        walkExpression value

/-- Walk the arguments of a call. -/
def walkArguments : List (Argument Expression) → Walk σ Unit
  | [] => pure ()
  | argument :: rest => do
      walkArgument argument
      walkArguments rest

end

mutual

/-- Walk a statement. -/
def walkStatement : Statement → Walk σ Unit
  | .expression value span =>
      visitor.visit (.statement (.expression value span)) do
        visitor.walkExpression value
  | .assign target operator value span =>
      visitor.visit (.statement (.assign target operator value span)) do
        visitor.walkExpression target
        visitor.walkExpression value
  | .conditional branches otherwise span =>
      visitor.visit (.statement (.conditional branches otherwise span)) do
        walkBranches branches
        walkOtherwise otherwise
  | .loop condition body span =>
      visitor.visit (.statement (.loop condition body span)) do
        visitor.walkExpression condition
        walkBody body
  | .result value span =>
      visitor.visit (.statement (.result value span)) do
        walkOptional visitor.walkExpression value
  | .declare type name initial span =>
      visitor.visit (.statement (.declare type name initial span)) do
        visitor.walkType type
        walkOptional visitor.walkExpression initial

/-- Walk the statements of a body. -/
def walkBody : List Statement → Walk σ Unit
  | [] => pure ()
  | statement :: rest => do
      walkStatement statement
      walkBody rest

/-- Walk an arm of a conditional. -/
def walkBranch : Branch Statement → Walk σ Unit
  | ⟨condition, body, span⟩ =>
      visitor.visit (.branch ⟨condition, body, span⟩) do
        visitor.walkExpression condition
        walkBody body

/-- Walk the arms of a conditional. -/
def walkBranches : List (Branch Statement) → Walk σ Unit
  | [] => pure ()
  | branch :: rest => do
      walkBranch branch
      walkBranches rest

/-- Walk the last resort of a conditional, if it has one. -/
def walkOtherwise : Option (List Statement) → Walk σ Unit
  | none => pure ()
  | some body => walkBody body

end

/-- Walk a parameter. -/
def walkParameter (node : Parameter) : Walk σ Unit :=
  visitor.visit (.parameter node) do
    visitor.walkType node.type
    walkOptional visitor.walkLiteral node.default

/-- Walk a function. -/
def walkFunction (node : Function) : Walk σ Unit :=
  visitor.visit (.function node) do
    walkOptional visitor.walkType node.returnType
    walkAll visitor.walkParameter node.parameters
    visitor.walkBody node.body

/-- Walk an event. -/
def walkEvent (node : Event) : Walk σ Unit :=
  visitor.visit (.event node) do
    walkAll visitor.walkParameter node.parameters
    visitor.walkBody node.body

/-- Walk a variable. -/
def walkVariable (node : Variable) : Walk σ Unit :=
  visitor.visit (.variable node) do
    visitor.walkType node.type
    walkOptional visitor.walkLiteral node.initial

/-- Walk a property. -/
def walkProperty (node : Property) : Walk σ Unit :=
  visitor.visit (.property node) do
    visitor.walkType node.type
    match node.source with
    | .auto initial => walkOptional visitor.walkLiteral initial
    | .readOnly initial => visitor.walkLiteral initial
    | .full getter setter =>
        walkOptional visitor.walkFunction getter
        walkOptional visitor.walkFunction setter

/-- Walk a member. -/
def walkMember : Member → Walk σ Unit
  | .variable node => visitor.walkVariable node
  | .property node => visitor.walkProperty node
  | .function node => visitor.walkFunction node
  | .event node => visitor.walkEvent node
  | .state node =>
      visitor.visit (.state node) (walkAll visitor.walkEvent node.events)

/-- Walk an import. -/
def walkImport (node : Import) : Walk σ Unit :=
  visitor.visit (.importLine node) (pure ())

/-- Walk a script: its imports, then its members. -/
def walkScript (node : Script) : Walk σ Unit :=
  visitor.visit (.script node) do
    walkAll visitor.walkImport node.imports
    walkAll visitor.walkMember node.members

end Visitor

end PapyrusScript
