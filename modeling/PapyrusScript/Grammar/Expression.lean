import PapyrusScript.Grammar.Literal

/-!
# Reading expressions

An expression is read by precedence climbing: an operand, then operators that
bind at least as tightly as the current level, each with a right side read
one level tighter.  An operand is prefix operators around casts around a
chain of parts, such as `a.b[0].F(x)`.

Expressions nest in parentheses, subscripts, arguments, array sizes and
behind prefix operators, up to `nestingLimit` levels.  The readers below take
the readers for the next deeper level as parameters, and `unaryAt` ties the
knot by recursion on the number of levels that are left.
-/

namespace PapyrusScript

/-- The deepest nesting of expressions. -/
def nestingLimit : Nat := 64

/-- The largest number of elements that a new array may ask for. -/
def arrayLimit : Int32 := 128

namespace Reader

/-- Refuse an expression that is nested too deep. -/
def tooDeep {α : Type} : Reader α := do
  throw ⟨(← get).position, .nestedTooDeep nestingLimit⟩

/-- Read the name of a named argument and the equals sign after it. -/
def argumentName : Recovery (Option Identifier) := do
  let cursor ← get
  if cursor.kind = .identifier && cursor.kindAt 1 = .symbol .assign then
    let token ← advance
    let _ ← advance
    return some ⟨token.text, token.span⟩
  else
    return none

/-- Read one argument. -/
def argument (inner : Reader Expression) : Reader (Argument Expression) := do
  let start := (← get).position
  let name ← argumentName
  let value ← inner
  return ⟨name, value, (← get).spanFrom start⟩

/-- Read one more argument and the comma after it, if there is one. -/
def nextArgument
    (inner : Reader Expression) (found : List (Argument Expression)) :
    Reader (Step (List (Argument Expression))) := do
  let next ← argument inner
  if (← get).kind = .symbol .comma then
    let _ ← advance
    return .again (found ++ [next])
  else
    return .done (found ++ [next])

/-- Read what stands between the parentheses of a call. -/
def argumentList (inner : Reader Expression) :
    Reader (List (Argument Expression)) := do
  let cursor ← get
  if cursor.kind = .symbol .closeParen then
    return []
  else
    loop (nextArgument inner) cursor.budget []

/-- Read the arguments of a call and the parenthesis that closes them. -/
def arguments (inner : Reader Expression) :
    Reader (List (Argument Expression) × Token) := do
  let _ ← expect (.symbol .openParen) "to open the argument list"
  let found ← argumentList inner
  let close ← expect (.symbol .closeParen) "to close the argument list"
  return (found, close)

/-- Report a size that is a literal above the limit. -/
def checkArraySize (size : Expression) : Recovery Unit := do
  match size with
  | .literal ⟨.int count, span⟩ =>
      if arrayLimit < count then
        complain span.start (.arrayTooLarge count arrayLimit)
  | _ => return

/-- Read what follows `New`: a type, and in brackets the size of an array. -/
def newObject (inner : Reader Expression) : Reader Expression := do
  let keyword ← expect (.keyword .newObject) ""
  let type ← elementType
  if (← get).kind = .symbol .openBracket then
    let _ ← advance
    let size ← inner
    checkArraySize size
    let close ← expect (.symbol .closeBracket) "to close the array size"
    return .create ⟨type.dataType, true, type.span.through close.span⟩
      (some size) (keyword.span.through close.span)
  else
    return .create type none (keyword.span.through type.span)

/-- Whether a token of this kind is an operand by itself. -/
def isLiteralKind : Kind → Bool
  | .intLiteral | .floatLiteral | .stringLiteral => true
  | .keyword .trueLiteral | .keyword .falseLiteral => true
  | .keyword .noneLiteral => true
  | .keyword .selfReference | .keyword .parentReference => true
  | _ => false

/-- Read the first part of a chain. -/
def primary (inner : Reader Expression) : Reader Expression := do
  let kind := (← get).kind
  if isLiteralKind kind then
    return .literal (← literal)
  else
    match kind with
    | .identifier =>
        let token ← advance
        return .name ⟨token.text, token.span⟩
    | .symbol .openParen =>
        let _ ← advance
        let value ← inner
        let _ ←
          expect (.symbol .closeParen) "to close the parenthesized expression"
        return value
    | .keyword .newObject => newObject inner
    | _ => reject "an expression"

/-- Read one more part of a chain, if there is one. -/
def chainPart (inner : Reader Expression) (whole : Expression) :
    Reader (Step Expression) := do
  match (← get).kind with
  | .symbol .dot =>
      let _ ← advance
      if (← get).kind = .keyword .length then
        let token ← advance
        return .again (.arrayLength whole (whole.span.through token.span))
      else
        let field ← identifier "member name after '.'"
        return .again (.member whole field (whole.span.through field.span))
  | .symbol .openBracket =>
      let _ ← advance
      let subscript ← inner
      let close ← expect (.symbol .closeBracket) "to close the array index"
      return .again
        (.index whole subscript (whole.span.through close.span))
  | .symbol .openParen =>
      if whole.isCallable then
        let (found, close) ← arguments inner
        return .again (.call whole found (whole.span.through close.span))
      else
        throw ⟨(← get).position, .notCallable⟩
  | _ => return .done whole

/-- Read a chain of parts. -/
def chain (inner : Reader Expression) : Reader Expression := do
  let first ← primary inner
  loop (chainPart inner) (← get).budget first

/-- Read one more cast, if there is one. -/
def nextCast (operand : Expression) : Reader (Step Expression) := do
  if (← get).kind = .keyword .castAs then
    let _ ← advance
    let target ← typeName
    return .again (.cast operand target (operand.span.through target.span))
  else
    return .done operand

/-- Read a chain and the casts after it. -/
def casts (inner : Reader Expression) : Reader Expression := do
  let operand ← chain inner
  loop nextCast (← get).budget operand

/-- Whether a token of this kind goes on with a cast or a chain. -/
def continuesOperand : Kind → Bool
  | .keyword .castAs => true
  | .symbol .dot | .symbol .openBracket | .symbol .openParen => true
  | _ => false

/-- Whether a minus here is the sign of an integer literal.  It is not when
the literal is part of a cast or a chain. -/
def atSignedInteger (cursor : Cursor) : Bool :=
  cursor.kind = .symbol .minus && cursor.kindAt 1 = .intLiteral &&
    !continuesOperand (cursor.kindAt 2)

/-- Read an operand, given the readers one level deeper for the operand of a
prefix operator and for a whole expression. -/
def operand (deeper inner : Reader Expression) : Reader Expression := do
  let cursor ← get
  if atSignedInteger cursor then
    return .literal (← constant)
  else
    match cursor.kind.unaryOperator? with
    | some operator =>
        let token ← advance
        let value ← deeper
        return .unary operator value (token.span.through value.span)
    | none => casts inner

/-- Read the operators after a left side that bind at least as tightly as
`level`, each with its right side. -/
def operations (unary : Reader Expression) :
    List Token → Precedence → Expression → Reader Expression
  | [], _, left => pure left
  | _ :: budget, level, left => do
      match (← get).kind.binaryOperator? with
      | some operator =>
          if operator.precedence.rank < level.rank then
            return left
          else
            let _ ← advance
            let first ← unary
            let right ←
              operations unary budget operator.precedence.next first
            operations unary budget level
              (.binary operator left right (left.span.through right.span))
      | none => return left

/-- Read operands joined by operators that bind at least as tightly as
`level`. -/
def binary (unary : Reader Expression) (level : Precedence) :
    Reader Expression := do
  let first ← unary
  operations unary (← get).budget level first

/-- Read an operand with `levels` levels of nesting left below it. -/
def unaryAt : Nat → Reader Expression
  | 0 => operand tooDeep tooDeep
  | levels + 1 =>
      operand (unaryAt levels) (binary (unaryAt levels) .logicalOr)

/-- Read an expression with `levels` levels of nesting left. -/
def expressionAt : Nat → Reader Expression
  | 0 => tooDeep
  | levels + 1 => binary (unaryAt levels) .logicalOr

/-- Read an expression that is nested in no other. -/
def expression : Reader Expression := expressionAt nestingLimit

end Reader

end PapyrusScript
