import PapyrusScript.Grammar.Expression
import PapyrusScript.Grammar.Recovery
import PapyrusScript.Tree.Statement

/-!
# Reading statements

A body is read line by line up to a closer of its block, a member of the
script, or a terminator of a block around it.  A broken statement is reported
and the rest of its line discarded.  A conditional or loop whose condition is
broken leaves no statement, but its block is still read to its own end.

The readers of single statements take the reader of nested bodies as a
parameter, and `bodyWithin` ties the knot.  Every nested body comes after the
keyword that opens it, so there are fewer levels than tokens.
-/

namespace PapyrusScript.Reader

/-- Read the value of a return statement, unless its line ends here. -/
def returnedValue : Reader (Option Expression) := do
  let kind := (← get).kind
  if kind = .newline || kind = .endOfText then
    return none
  else
    return some (← expression)

/-- Read a return statement. -/
def returnStatement : Reader Statement := do
  let keyword ← expect (.keyword .returnValue) ""
  let value ← returnedValue
  let span := (← get).spanFrom keyword.span.start
  endOfLine "return statement"
  return .result value span

/-- Read the initial value of a local variable if an equals sign announces
one. -/
def initialExpression : Reader (Option Expression) := do
  if (← get).kind = .symbol .assign then
    let _ ← advance
    return some (← expression)
  else
    return none

/-- Read the declaration of a local variable. -/
def declareStatement : Reader Statement := do
  let type ← typeName
  let name ← identifier "variable name"
  let initial ← initialExpression
  let span := (← get).spanFrom type.span.start
  endOfLine "variable declaration"
  return .declare type name initial span

/-- Read the value of an assignment whose target has been read. -/
def assignment (start : Position) (target : Expression)
    (operator : AssignmentOperator) : Reader Statement := do
  if target.isAssignable then
    let _ ← advance
    let value ← expression
    let cursor ← get
    if cursor.kind.assignmentOperator?.isSome then
      throw ⟨cursor.position, .chainedAssignment cursor.kind⟩
    else
      return .assign target operator value (cursor.spanFrom start)
  else
    throw ⟨target.span.start, .invalidAssignmentTarget⟩

/-- Read an assignment whose target has been read, or take the target as an
expression by itself. -/
def assignmentOr
    (start : Position) (target : Expression) : Reader Statement := do
  match (← get).kind.assignmentOperator? with
  | some operator => assignment start target operator
  | none => return .expression target target.span

/-- Read an expression by itself, or an assignment to one. -/
def expressionStatement : Reader Statement := do
  let start := (← get).position
  let value ← expression
  let statement ← assignmentOr start value
  endOfLine "statement"
  return statement

/-- Read a condition and the end of its line. -/
def condition (context : String) : Recovery (Option Expression) := do
  match ← expression.run with
  | .ok value =>
      match ← (endOfLine context).run with
      | .ok _ => return some value
      | .error diagnostic =>
          report diagnostic
          synchronize
          return some value
  | .error diagnostic =>
      report diagnostic
      synchronize
      return none

/-- What has been read of a conditional.  It is incomplete once a condition
is broken. -/
structure Arms where
  branches : List (Branch Statement)
  otherwise : Option (List Statement)
  complete : Bool
  deriving Repr, Inhabited

/-- Add an arm with a condition.  One after the last resort is left out, and
one without its condition makes the conditional incomplete. -/
def Arms.add
    (arms : Arms) (condition : Option Expression) (body : List Statement)
    (span : Span) : Arms :=
  match condition with
  | none => { arms with complete := false }
  | some condition =>
      if arms.otherwise.isSome then arms
      else
        { arms with branches := arms.branches ++ [⟨condition, body, span⟩] }

/-- Report an arm with a condition after the last resort, at its keyword. -/
def reportElseIfAfterElse (arms : Arms) (keyword : Token) : Recovery Unit := do
  if arms.otherwise.isSome then
    complain keyword.span.start .elseIfAfterElse

/-- Read one arm of a conditional, or its end. -/
def nextArm (body : Block → Recovery (List Statement)) (opener : Token)
    (arms : Arms) : Recovery (Step Arms) := do
  match (← get).kind with
  | .keyword .elseIf =>
      let token ← advance
      reportElseIfAfterElse arms token
      let found ← condition "'ElseIf' condition"
      let inside ← body .conditional
      let span := (← get).spanFrom token.span.start
      return .again (arms.add found inside span)
  | .keyword .otherwise =>
      let token ← advance
      finishLine "'Else'"
      let inside ← body .conditional
      if arms.otherwise.isSome then
        complain token.span.start .repeatedElse
        return .again arms
      else
        return .again { arms with otherwise := some inside }
  | .keyword .endIf =>
      let _ ← advance
      finishLine "'EndIf'"
      return .done arms
  | _ =>
      reportUnterminated .conditional opener
      return .done arms

/-- Read a conditional. -/
def conditionalStatement (body : Block → Recovery (List Statement)) :
    Recovery (Option Statement) := do
  let keyword ← advance
  let found ← condition "'If' condition"
  let inside ← body .conditional
  let span := (← get).spanFrom keyword.span.start
  let first := (Arms.mk [] none true).add found inside span
  let arms ← loop (nextArm body keyword) (← get).budget first
  if arms.complete then
    let span := (← get).spanFrom keyword.span.start
    return some (.conditional arms.branches arms.otherwise span)
  else
    return none

/-- Read the end of a loop, or report that it is missing. -/
def endOfLoop (opener : Token) : Recovery Unit := do
  if (← get).kind = .keyword .endWhile then
    let _ ← advance
    finishLine "'EndWhile'"
  else
    reportUnterminated .loop opener

/-- Read a loop. -/
def loopStatement (body : Block → Recovery (List Statement)) :
    Recovery (Option Statement) := do
  let keyword ← advance
  let found ← condition "'While' condition"
  let inside ← body .loop
  endOfLoop keyword
  match found with
  | some condition =>
      let span := (← get).spanFrom keyword.span.start
      return some (.loop condition inside span)
  | none => return none

/-- Read a statement.  A block that is broken has been reported already and
leaves none. -/
def statement (body : Block → Recovery (List Statement)) :
    Reader (Option Statement) := do
  let cursor ← get
  match cursor.kind with
  | .keyword .ifThen => conditionalStatement body
  | .keyword .whileLoop => loopStatement body
  | .keyword .returnValue => some <$> returnStatement
  | _ =>
      if cursor.atVariableStart then
        some <$> declareStatement
      else
        some <$> expressionStatement

/-- Read one line of a body, or stop in front of what ends it. -/
def bodyLine (body : Block → Recovery (List Statement)) (block : Block)
    (statements : List Statement) :
    Recovery (Step (List Statement)) := do
  skipNewlines
  let cursor ← get
  let kind := cursor.kind
  if kind = .endOfText || block.closedBy kind || cursor.atMemberStart then
    return .done statements
  else if kind.isBlockTerminator then
    if cursor.isClosedBy kind then
      return .done statements
    else
      let token ← advance
      complain token.span.start (.strayTerminator kind)
      return .again statements
  else if kind = .docComment then
    let _ ← advance
    return .again statements
  else
    match ← (statement body).run with
    | .ok (some found) => return .again (statements ++ [found])
    | .ok none => return .again statements
    | .error diagnostic =>
        report diagnostic
        synchronize
        return .again statements

/-- Read a body, at most as many levels deep as `budget` has tokens. -/
def bodyWithin : List Token → Block → Recovery (List Statement)
  | [], _ => pure []
  | _ :: budget, block =>
      inBlock block do
        loop (bodyLine (bodyWithin budget) block) (← get).budget []

/-- Read the body of a block up to what closes it, which is not taken. -/
def body (block : Block) : Recovery (List Statement) := do
  bodyWithin (← get).budget block

end PapyrusScript.Reader
