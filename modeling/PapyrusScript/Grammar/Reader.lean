import PapyrusScript.Grammar.Cursor
import PapyrusScript.Tree.Expression

/-!
# Readers

A reader moves the cursor and answers with a value.  There are two sorts:

* a `Recovery` always answers, after reporting whatever is wrong;
* a `Reader` may fail with a diagnostic instead, which is not reported yet.
  The cursor stays where the reader gave up.

`Reader.run` turns the second sort into the first, and `loop` repeats a step
at most once for each token that is left.
-/

namespace PapyrusScript

/-- A reader that always answers. -/
abbrev Recovery := StateM Cursor

/-- A reader that may fail. -/
abbrev Reader := ExceptT Diagnostic Recovery

/-- What a step of a loop decides. -/
inductive Step (α : Type) where
  | again (value : α)
  | done (value : α)
  deriving Repr, Inhabited

/-- Repeat a step until it is done, at most once for each token of `budget`. -/
def loop {m : Type → Type} [Monad m] {α : Type} (step : α → m (Step α)) :
    List Token → α → m α
  | [], value => pure value
  | _ :: budget, value => do
      match ← step value with
      | .again following => loop step budget following
      | .done final => pure final

namespace Reader

/-- Take the current token. -/
def advance : Recovery Token := do
  let cursor ← get
  set cursor.next
  return cursor.current

/-- Report an error. -/
def report (diagnostic : Diagnostic) : Recovery Unit :=
  modify fun cursor => cursor.report diagnostic

/-- Report an error at a place. -/
def complain (position : Position) (cause : Cause) : Recovery Unit :=
  report ⟨position, cause⟩

/-- The error of meeting the current token where something else is due. -/
def unexpected (expected : String) : Recovery Diagnostic := do
  return Diagnostic.unexpected (← get).current expected

/-- Fail at the current token. -/
def reject {α : Type} (expected : String) : Reader α := do
  throw (← unexpected expected)

/-- Take the current token if it is of a kind, for the given purpose. -/
def expect (kind : Kind) (purpose : String) : Reader Token := do
  if (← get).kind = kind then
    advance
  else if purpose.isEmpty then
    reject kind.describe
  else
    reject (kind.describe ++ " " ++ purpose)

/-- Take a name, where the message calls it `what`. -/
def identifier (what : String) : Reader Identifier := do
  if (← get).kind = .identifier then
    let token ← advance
    return ⟨token.text, token.span⟩
  else
    reject ("a " ++ what)

/-- Take a token while recovering.  An invalid token is reported, unless it is
the one whose report led here. -/
def discard : Recovery Token := do
  let token ← advance
  if token.kind.isInvalid && (← get).lastLexical ≠ some token.span.start then
    report (Diagnostic.unexpected token "")
  return token

/-- Read something inside a block, whose closers count as open meanwhile. -/
def inBlock {α : Type} (block : Block) (body : Recovery α) : Recovery α := do
  modify fun cursor => cursor.enter block
  let value ← body
  modify Cursor.leave
  return value

/-- Report a block that is still open at the current token, at the keyword
that opened it. -/
def reportUnterminated (block : Block) (opener : Token) : Recovery Unit := do
  complain opener.span.start
    (.unterminated block opener.span.start.line (← get).kind)

end Reader

end PapyrusScript
