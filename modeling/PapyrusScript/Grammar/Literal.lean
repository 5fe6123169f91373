import PapyrusScript.Grammar.Reader

/-!
# Types and literals

These are the parts of a script that declarations, statements and expressions
share.  A number is checked when it is read: an integer must fit its range,
and a float must be finite.
-/

namespace PapyrusScript.Reader

/-- The data type that a token names. -/
def dataType? (token : Token) : Option DataType :=
  match token.kind with
  | .keyword .boolType => some .bool
  | .keyword .intType => some .int
  | .keyword .floatType => some .float
  | .keyword .stringType => some .string
  | .identifier => some (.object token.text)
  | _ => none

/-- Read a type without an array suffix. -/
def elementType : Reader TypeName := do
  match dataType? (← get).current with
  | some dataType =>
      let token ← advance
      return ⟨dataType, false, token.span⟩
  | none => reject "a type name"

/-- Read a type with an optional array suffix. -/
def typeName : Reader TypeName := do
  let element ← elementType
  let cursor ← get
  if cursor.kind = .symbol .openBracket &&
      cursor.kindAt 1 = .symbol .closeBracket then
    let _ ← advance
    let close ← advance
    return ⟨element.dataType, true, element.span.through close.span⟩
  else
    return element

/-- The value of an integer token, with or without a minus in front. -/
def integerValue (negative : Bool) (token : Token) : Except Diagnostic Value :=
  match Number.integer? negative token.text.toList with
  | some value => .ok (.int value)
  | none =>
      let sign := if negative then "-" else ""
      .error ⟨token.span.start, .integerOutOfRange (sign ++ token.text)⟩

/-- The value of a float token, with or without a minus in front. -/
def floatValue (negative : Bool) (token : Token) : Except Diagnostic Value :=
  match Single.ofText? token.text.toList with
  | some value =>
      if value.isInfinite then
        .error ⟨token.span.start, .floatOutOfRange token.text⟩
      else
        .ok (.float (if negative then value.negate else value))
  | none => .error ⟨token.span.start, .malformedFloat token.text⟩

/-- The value of a token that is a literal by itself. -/
def literalValue (token : Token) : Except Diagnostic Value :=
  match token.kind with
  | .intLiteral => integerValue false token
  | .floatLiteral => floatValue false token
  | .stringLiteral => .ok (.string token.text)
  | .keyword .trueLiteral => .ok (.bool true)
  | .keyword .falseLiteral => .ok (.bool false)
  | .keyword .noneLiteral => .ok .none
  | .keyword .selfReference => .ok .selfReference
  | .keyword .parentReference => .ok .parentReference
  | _ => .error (Diagnostic.unexpected token "a literal value")

/-- The value of a token after a minus. -/
def negativeValue (token : Token) : Except Diagnostic Value :=
  match token.kind with
  | .intLiteral => integerValue true token
  | .floatLiteral => floatValue true token
  | _ => .error (Diagnostic.unexpected token "a number after '-'")

/-- Read a literal without a sign. -/
def literal : Reader Literal := do
  match literalValue (← get).current with
  | .error diagnostic => throw diagnostic
  | .ok value =>
      let token ← advance
      return ⟨value, token.span⟩

/-- Read a literal in the place of an initial value.  A number may have a
minus in front, which becomes part of its value. -/
def constant : Reader Literal := do
  if (← get).kind = .symbol .minus then
    let minus ← advance
    match negativeValue (← get).current with
    | .error diagnostic => throw diagnostic
    | .ok value =>
        let token ← advance
        return ⟨value, minus.span.through token.span⟩
  else
    literal

/-- Read an initial value if an equals sign announces one. -/
def initialConstant : Reader (Option Literal) := do
  if (← get).kind = .symbol .assign then
    let _ ← advance
    return some (← constant)
  else
    return none

end PapyrusScript.Reader
