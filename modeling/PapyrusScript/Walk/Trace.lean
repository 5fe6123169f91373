import PapyrusScript.Walk.Visitor

/-!
# Traces of walks

A trace records what a walk shows to its visitor, one line for each call.  The
visitor's answers follow a list of rules: a rule names a sort of node, and it
may name one of them by number, counting from one.  The first rule that fits
gives the answer.
-/

namespace PapyrusScript

/-- The sorts of nodes that a visitor can tell apart. -/
inductive Hook where
  | script
  | importLine
  | variable
  | property
  | function
  | event
  | state
  | parameter
  | expressionStatement
  | assign
  | conditional
  | branch
  | loop
  | result
  | declare
  | literal
  | name
  | unary
  | binary
  | call
  | argument
  | member
  | index
  | cast
  | create
  | arrayLength
  | type
  deriving DecidableEq, Repr, Inhabited

/-- A plain name for a sort of node. -/
def Hook.label : Hook → String
  | .script => "script"
  | .importLine => "import"
  | .variable => "variable"
  | .property => "property"
  | .function => "function"
  | .event => "event"
  | .state => "state"
  | .parameter => "parameter"
  | .expressionStatement => "expr_stmt"
  | .assign => "assign"
  | .conditional => "if"
  | .branch => "branch"
  | .loop => "while"
  | .result => "return"
  | .declare => "declare"
  | .literal => "literal"
  | .name => "identifier"
  | .unary => "unary"
  | .binary => "binary"
  | .call => "call"
  | .argument => "argument"
  | .member => "member_access"
  | .index => "index"
  | .cast => "cast"
  | .create => "new"
  | .arrayLength => "array_length"
  | .type => "type"

/-- The sort of an expression. -/
def Expression.hook : Expression → Hook
  | .literal _ => .literal
  | .name _ => .name
  | .unary _ _ _ => .unary
  | .binary _ _ _ _ => .binary
  | .call _ _ _ => .call
  | .member _ _ _ => .member
  | .index _ _ _ => .index
  | .cast _ _ _ => .cast
  | .create _ _ _ => .create
  | .arrayLength _ _ => .arrayLength

/-- The sort of a statement. -/
def Statement.hook : Statement → Hook
  | .expression _ _ => .expressionStatement
  | .assign _ _ _ _ => .assign
  | .conditional _ _ _ => .conditional
  | .loop _ _ _ => .loop
  | .result _ _ => .result
  | .declare _ _ _ _ => .declare

/-- The sort of a node. -/
def Node.hook : Node → Hook
  | .script _ => .script
  | .importLine _ => .importLine
  | .variable _ => .variable
  | .property _ => .property
  | .function _ => .function
  | .event _ => .event
  | .state _ => .state
  | .parameter _ => .parameter
  | .statement node => node.hook
  | .branch _ => .branch
  | .expression node => node.hook
  | .argument _ => .argument
  | .literal _ => .literal
  | .type _ => .type

namespace Trace

/-- An answer for the nodes of a sort, or for one of them. -/
structure Rule where
  hook : String
  number : Option Nat
  answer : Answer
  deriving Repr, Inhabited

/-- Whether a rule is for the node of a sort with a number. -/
def Rule.fits (rule : Rule) (hook : String) (number : Nat) : Bool :=
  rule.hook == hook && (rule.number.isNone || rule.number = some number)

/-- The lines so far, the newest first, and the sorts of the nodes entered so
far. -/
structure Log where
  lines : List String
  entered : List Hook
  deriving Repr, Inhabited

/-- The stretch of a node as text. -/
def stretch (span : Span) : String := span.start.text ++ "-" ++ span.stop.text

/-- The line for entering a node.  A type is named in it. -/
def enterLine (node : Node) : String :=
  match node with
  | .type type => "type " ++ type.text ++ " " ++ stretch type.span
  | _ => "enter " ++ node.hook.label ++ " " ++ stretch node.span

/-- The line for leaving a node. -/
def exitLine (node : Node) : String :=
  "exit " ++ node.hook.label ++ " " ++ stretch node.span

/-- The visitor that records every call and answers by rules. -/
def visitor (rules : List Rule) : Visitor Log where
  enter node := do
    let log ← get
    let number := log.entered.count node.hook + 1
    set (Log.mk (enterLine node :: log.lines) (node.hook :: log.entered))
    match rules.find? fun rule => rule.fits node.hook.label number with
    | some rule => return rule.answer
    | none => return .proceed
  exit node :=
    modify fun log => { log with lines := exitLine node :: log.lines }

/-- The lines of a walk, and whether it was stopped. -/
def ofScript (rules : List Rule) (script : Script) : List String × Bool :=
  let walk := (visitor rules).walkScript script
  let (outcome, log) := walk.run.run ⟨[], []⟩
  (log.lines.reverse, outcome matches .error _)

end Trace

end PapyrusScript
