import PapyrusScript.Document.Basic
import PapyrusScript.Number.Shortest
import PapyrusScript.Parsed

/-!
# Scripts as documents

A tree becomes a document node by node: a node is a record of its parts, and
a choice between several forms is a record with one field, the name of the
form, or only that name if nothing belongs to it.  How a float is written is
left to the caller.
-/

namespace PapyrusScript.Document

/-- A place. -/
def ofPosition (position : Position) : Document :=
  .record [("line", natural position.line), ("column", natural position.column)]

/-- A stretch of source. -/
def ofSpan (span : Span) : Document :=
  .record [("start", ofPosition span.start), ("end", ofPosition span.stop)]

/-- A kind of token. -/
def ofKind : Kind → Document
  | .invalid error => variant "Invalid" (.text error.label)
  | kind => .text kind.label

/-- An error. -/
def ofDiagnostic (diagnostic : Diagnostic) : Document :=
  .record [
    ("severity", .text "Error"),
    ("kind", .text
      (if diagnostic.cause.isLexical then "Lexical" else "Syntax")),
    ("line", natural diagnostic.position.line),
    ("column", natural diagnostic.position.column),
    ("message", .text diagnostic.message),
    ("found", optional ofKind diagnostic.cause.found?)]

/-- A float by its shortest decimal text; no text stands for one that is not
finite. -/
def shortestFloat (value : Single) : Document :=
  if value.isFinite then .decimal value.text else .null

/-- A name. -/
def ofIdentifier (identifier : Identifier) : Document :=
  .record [("name", .text identifier.name), ("span", ofSpan identifier.span)]

/-- A data type. -/
def ofDataType : DataType → Document
  | .object name => variant "Object" (.text name)
  | type => .text type.text

/-- A type. -/
def ofTypeName (type : TypeName) : Document :=
  .record [("data_type", ofDataType type.dataType),
    ("is_array", .bool type.isArray), ("span", ofSpan type.span)]

section

variable (float : Single → Document)

/-- The value of a literal. -/
def ofValue : Value → Document
  | .bool value => variant "Bool" (.bool value)
  | .int value => variant "Int" (.integer value.toInt)
  | .float value => variant "Float" (float value)
  | .string value => variant "String" (.text value)
  | .none => .text "None"
  | .selfReference => .text "SelfRef"
  | .parentReference => .text "Parent"

/-- A literal. -/
def ofLiteral (node : Literal) : Document :=
  .record [("value", ofValue float node.value), ("span", ofSpan node.span)]

mutual

/-- An expression. -/
def ofExpression : Expression → Document
  | .literal node => variant "Literal" (ofLiteral float node)
  | .name node => variant "Identifier" (ofIdentifier node)
  | .unary operator operand span =>
      variant "Unary" (.record [("op", .text operator.label),
        ("operand", ofExpression operand), ("span", ofSpan span)])
  | .binary operator left right span =>
      variant "Binary" (.record [("op", .text operator.label),
        ("left", ofExpression left), ("right", ofExpression right),
        ("span", ofSpan span)])
  | .call callee arguments span =>
      variant "Call" (.record [("callee", ofExpression callee),
        ("args", .list (ofArguments arguments)), ("span", ofSpan span)])
  | .member object field span =>
      variant "MemberAccess" (.record [("object", ofExpression object),
        ("member", ofIdentifier field), ("span", ofSpan span)])
  | .index array subscript span =>
      variant "Index" (.record [("array", ofExpression array),
        ("subscript", ofExpression subscript), ("span", ofSpan span)])
  | .cast operand target span =>
      variant "Cast" (.record [("expr", ofExpression operand),
        ("target", ofTypeName target), ("span", ofSpan span)])
  | .create type size span =>
      variant "New" (.record [("ty", ofTypeName type),
        ("size", ofSize size), ("span", ofSpan span)])
  | .arrayLength array span =>
      variant "ArrayLength" (.record [("array", ofExpression array),
        ("span", ofSpan span)])

/-- The size of a new array, if it is one. -/
def ofSize : Option Expression → Document
  | none => .null
  | some size => ofExpression size

/-- An argument of a call. -/
def ofArgument : Argument Expression → Document
  | ⟨name, value, span⟩ =>
      .record [("name", optional ofIdentifier name),
        ("value", ofExpression value), ("span", ofSpan span)]

/-- The arguments of a call. -/
def ofArguments : List (Argument Expression) → List Document
  | [] => []
  | argument :: rest => ofArgument argument :: ofArguments rest

end

mutual

/-- A statement. -/
def ofStatement : Statement → Document
  | .expression value span =>
      variant "Expression" (.record [("expr", ofExpression float value),
        ("span", ofSpan span)])
  | .assign target operator value span =>
      variant "Assign" (.record [("target", ofExpression float target),
        ("op", .text operator.label), ("value", ofExpression float value),
        ("span", ofSpan span)])
  | .conditional branches otherwise span =>
      variant "If" (.record [("branches", .list (ofBranches branches)),
        ("else_body", ofOtherwise otherwise), ("span", ofSpan span)])
  | .loop condition body span =>
      variant "While" (.record [("condition", ofExpression float condition),
        ("body", .list (ofStatements body)), ("span", ofSpan span)])
  | .result value span =>
      variant "Return" (.record [
        ("value", optional (ofExpression float) value),
        ("span", ofSpan span)])
  | .declare type name initial span =>
      variant "Declare" (.record [("ty", ofTypeName type),
        ("name", ofIdentifier name),
        ("initializer", optional (ofExpression float) initial),
        ("span", ofSpan span)])

/-- The statements of a body. -/
def ofStatements : List Statement → List Document
  | [] => []
  | statement :: rest => ofStatement statement :: ofStatements rest

/-- An arm of a conditional. -/
def ofBranch : Branch Statement → Document
  | ⟨condition, body, span⟩ =>
      .record [("condition", ofExpression float condition),
        ("body", .list (ofStatements body)), ("span", ofSpan span)]

/-- The arms of a conditional. -/
def ofBranches : List (Branch Statement) → List Document
  | [] => []
  | branch :: rest => ofBranch branch :: ofBranches rest

/-- The last resort of a conditional, if it has one. -/
def ofOtherwise : Option (List Statement) → Document
  | none => .null
  | some body => .list (ofStatements body)

end

/-- A variable. -/
def ofVariable (node : Variable) : Document :=
  .record [("ty", ofTypeName node.type), ("name", ofIdentifier node.name),
    ("initializer", optional (ofLiteral float) node.initial),
    ("conditional", .bool node.conditional), ("span", ofSpan node.span)]

/-- A parameter. -/
def ofParameter (node : Parameter) : Document :=
  .record [("ty", ofTypeName node.type), ("name", ofIdentifier node.name),
    ("default", optional (ofLiteral float) node.default),
    ("span", ofSpan node.span)]

/-- A function. -/
def ofFunction (node : Function) : Document :=
  .record [("return_type", optional ofTypeName node.returnType),
    ("name", ofIdentifier node.name),
    ("params", .list (node.parameters.map (ofParameter float))),
    ("body", .list (ofStatements float node.body)),
    ("flags", .record [("native", .bool node.native),
      ("global", .bool node.global)]),
    ("doc", optional .text node.doc), ("span", ofSpan node.span)]

/-- An event. -/
def ofEvent (node : Event) : Document :=
  .record [("name", ofIdentifier node.name),
    ("params", .list (node.parameters.map (ofParameter float))),
    ("body", .list (ofStatements float node.body)),
    ("native", .bool node.native), ("doc", optional .text node.doc),
    ("span", ofSpan node.span)]

/-- Where the value of a property comes from. -/
def ofPropertySource : PropertySource → Document
  | .auto initial =>
      variant "Auto" (.record [
        ("initializer", optional (ofLiteral float) initial)])
  | .readOnly initial =>
      variant "AutoReadOnly" (.record [
        ("initializer", ofLiteral float initial)])
  | .full getter setter =>
      variant "Full" (.record [
        ("getter", optional (ofFunction float) getter),
        ("setter", optional (ofFunction float) setter)])

/-- A property. -/
def ofProperty (node : Property) : Document :=
  .record [("ty", ofTypeName node.type), ("name", ofIdentifier node.name),
    ("kind", ofPropertySource float node.source),
    ("hidden", .bool node.hidden), ("conditional", .bool node.conditional),
    ("doc", optional .text node.doc), ("span", ofSpan node.span)]

/-- A state. -/
def ofState (node : ScriptState) : Document :=
  .record [("name", ofIdentifier node.name), ("auto", .bool node.auto),
    ("events", .list (node.events.map (ofEvent float))),
    ("span", ofSpan node.span)]

/-- A member. -/
def ofMember : Member → Document
  | .variable node => variant "Variable" (ofVariable float node)
  | .property node => variant "Property" (ofProperty float node)
  | .function node => variant "Function" (ofFunction float node)
  | .event node => variant "Event" (ofEvent float node)
  | .state node => variant "State" (ofState float node)

/-- An import. -/
def ofImport (node : Import) : Document :=
  .record [("name", ofIdentifier node.name), ("span", ofSpan node.span)]

/-- A script. -/
def ofScript (node : Script) : Document :=
  .record [("name", ofIdentifier node.name),
    ("parent", optional ofIdentifier node.parent),
    ("flags", .record [("hidden", .bool node.hidden),
      ("conditional", .bool node.conditional),
      ("native", .bool node.native)]),
    ("doc", optional .text node.doc),
    ("imports", .list (node.imports.map ofImport)),
    ("members", .list (node.members.map (ofMember float))),
    ("span", ofSpan node.span)]

/-- A script and the errors found in it. -/
def ofParsed (parsed : Parsed) : Document :=
  .record [("script", ofScript float parsed.script),
    ("diagnostics", .list (parsed.diagnostics.map ofDiagnostic))]

end

end PapyrusScript.Document
