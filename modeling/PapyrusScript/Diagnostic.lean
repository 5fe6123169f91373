import PapyrusScript.Token.Basic
import PapyrusScript.Token.Spelling

/-!
# Diagnostics

A diagnostic is an error in a script: a place and a cause.  The wording of
all messages is the one function `Cause.message`, and whether the error is
lexical and which kind of token was met follow from the cause.
-/

namespace PapyrusScript

/-- What a terminator can close. -/
inductive Block where
  | conditional
  | loop
  | function
  | event
  | property
  | state
  deriving DecidableEq, Repr, Inhabited

namespace Block

/-- The keyword that opens a block. -/
def opener : Block → Keyword
  | .conditional => .ifThen
  | .loop => .whileLoop
  | .function => .function
  | .event => .event
  | .property => .property
  | .state => .state

/-- The keyword that ends a block for good. -/
def terminator : Block → Keyword
  | .conditional => .endIf
  | .loop => .endWhile
  | .function => .endFunction
  | .event => .endEvent
  | .property => .endProperty
  | .state => .endState

/-- The keywords that end a block or start its next arm. -/
def closers : Block → List Keyword
  | .conditional => [.elseIf, .otherwise, .endIf]
  | block => [block.terminator]

/-- Whether a kind of token is one of a block's closers. -/
def closedBy (block : Block) : Kind → Bool
  | .keyword word => block.closers.contains word
  | _ => false

/-- The phrase for a block in a message. -/
def describe : Block → String
  | .conditional => "If block"
  | .loop => "While block"
  | .function => "function body"
  | .event => "event body"
  | .property => "property"
  | .state => "state"

end Block

/-- Why a script is wrong. -/
inductive Cause where
  /-- A token that is not one. -/
  | lexical (error : LexicalError) (lexeme : String)
  /-- A token of the wrong kind. -/
  | unexpected (expected : String) (found : Kind) (text : String)
  /-- A block that is still open where it can no longer be closed. -/
  | unterminated (block : Block) (line : Nat) (found : Kind)
  /-- A terminator of no open block. -/
  | strayTerminator (word : Kind)
  | duplicateHeader
  | declarationInState (state : String) (found : Kind)
  | invalidAssignmentTarget
  | chainedAssignment (found : Kind)
  | notCallable
  | nestedTooDeep (limit : Nat)
  | arrayTooLarge (count : Int32) (limit : Int32)
  | integerOutOfRange (text : String)
  | malformedFloat (text : String)
  | floatOutOfRange (text : String)
  | readOnlyWithoutValue (property : String)
  | fullPropertyWithValue (property : String)
  | getterWithParameters
  | setterArity
  | accessorName (function : String)
  | duplicateAccessor (property : String) (function : String)
  | noAccessor (property : String)
  | elseIfAfterElse
  | repeatedElse
  deriving DecidableEq, Repr, Inhabited

/-- The phrase for a token that was met instead of the expected one. -/
def describeFound (kind : Kind) (text : String) : String :=
  match kind with
  | .identifier => "identifier '" ++ text ++ "'"
  | .intLiteral | .floatLiteral => "number '" ++ text ++ "'"
  | .stringLiteral => "string \"" ++ text ++ "\""
  | _ => kind.describe

namespace Cause

/-- The text of the report. -/
def message : Cause → String
  | .lexical error lexeme => error.describe lexeme
  | .unexpected expected found text =>
      "expected " ++ expected ++ " but found " ++ describeFound found text
  | .unterminated block line found =>
      "unterminated " ++ block.describe ++ ": expected " ++
        (Kind.keyword block.terminator).describe ++ " to close " ++
        (Kind.keyword block.opener).describe ++ " on line " ++
        toString line ++ " but found " ++ found.describe
  | .strayTerminator word =>
      "unexpected " ++ word.describe ++ " with no matching block"
  | .duplicateHeader =>
      "duplicate 'Scriptname' header; a file declares exactly one script"
  | .declarationInState state _ =>
      "only events may be declared inside state '" ++ state ++
        "'; this declaration is treated as outside the state"
  | .invalidAssignmentTarget =>
      "invalid assignment target; expected a variable, property or array element"
  | .chainedAssignment _ =>
      "chained assignment is not allowed; assignment is a statement, not an expression"
  | .notCallable => "only a function name can be called"
  | .nestedTooDeep limit =>
      "expression is nested more than " ++ toString limit ++ " levels deep"
  | .arrayTooLarge count limit =>
      "array size " ++ toString count.toInt ++ " exceeds the maximum of " ++
        toString limit.toInt
  | .integerOutOfRange text =>
      "integer literal '" ++ text ++ "' is out of range"
  | .malformedFloat text => "malformed float literal '" ++ text ++ "'"
  | .floatOutOfRange text =>
      "float literal '" ++ text ++ "' is out of range"
  | .readOnlyWithoutValue property =>
      "AutoReadOnly property '" ++ property ++ "' requires an initial value"
  | .fullPropertyWithValue property =>
      "full property '" ++ property ++ "' cannot have an initial value"
  | .getterWithParameters => "property 'Get' function cannot take parameters"
  | .setterArity => "property 'Set' function must take exactly one parameter"
  | .accessorName function =>
      "property function '" ++ function ++ "' must be named \"Get\" or \"Set\""
  | .duplicateAccessor property function =>
      "property '" ++ property ++ "' already defines a '" ++ function ++
        "' function"
  | .noAccessor property =>
      "full property '" ++ property ++ "' must define a Get or Set function"
  | .elseIfAfterElse => "'ElseIf' cannot follow 'Else'"
  | .repeatedElse => "'If' statement has more than one 'Else'"

/-- Whether the error lies in the characters of a token. -/
def isLexical : Cause → Bool
  | .lexical _ _ => true
  | _ => false

/-- The kind of token that was met, for errors that meet one. -/
def found? : Cause → Option Kind
  | .lexical error _ => some (.invalid error)
  | .unexpected _ found _ => some found
  | .unterminated _ _ found => some found
  | .strayTerminator word => some word
  | .duplicateHeader => some (.keyword .scriptname)
  | .declarationInState _ found => some found
  | .chainedAssignment found => some found
  | _ => none

end Cause

/-- An error at a place in a script. -/
structure Diagnostic where
  position : Position
  cause : Cause
  deriving DecidableEq, Repr, Inhabited

namespace Diagnostic

/-- The error of meeting a token where something else was expected.  An
invalid token is an error of its own, whatever was expected. -/
def unexpected (found : Token) (expected : String) : Diagnostic :=
  match found.kind with
  | .invalid error => ⟨found.span.start, .lexical error found.text⟩
  | kind => ⟨found.span.start, .unexpected expected kind found.text⟩

/-- The text of the report. -/
def message (diagnostic : Diagnostic) : String := diagnostic.cause.message

/-- One line for a reader: place, severity and message. -/
def text (diagnostic : Diagnostic) : String :=
  diagnostic.position.text ++ ": error: " ++ diagnostic.message

end Diagnostic

end PapyrusScript
