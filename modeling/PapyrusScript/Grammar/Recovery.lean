import PapyrusScript.Grammar.Reader

/-!
# Ends of lines and recovery

Declarations and statements end with their line.  When one is broken, the
rest of it is discarded, by the unit that suits the place:

* `skipLine` discards the rest of the line;
* `synchronize` does so too, but stops in front of a block terminator;
* `recoverToMember` discards lines up to one that starts a declaration;
* `skipMember` discards a member whose first line is broken, with its body.

Invalid tokens in the discarded text are still reported.
-/

namespace PapyrusScript.Reader

/-- Pass one line break, if the cursor is on one. -/
def passNewline (_ : Unit) : Recovery (Step Unit) := do
  if (← get).kind = .newline then
    let _ ← advance
    return .again ()
  else
    return .done ()

/-- Pass the line breaks at the cursor. -/
def skipNewlines : Recovery Unit := do
  loop passNewline (← get).budget ()

/-- Pass the end of a line, which the end of the text is too. -/
def endOfLine (context : String) : Reader Unit := do
  match (← get).kind with
  | .newline =>
      let _ ← advance
  | .endOfText => return
  | _ => reject ("end of line after " ++ context)

/-- Pass the end of a declaration's line.  A documentation comment may stand
at the end of the line, or else alone on the next one. -/
def endOfDeclaration (context : String) : Reader (Option String) := do
  if (← get).kind = .docComment then
    let doc ← advance
    endOfLine context
    return some doc.text
  else
    endOfLine context
    if (← get).kind = .docComment then
      let doc ← advance
      endOfLine "documentation comment"
      return some doc.text
    else
      return none

/-- Discard one token, which is the last of the line if it breaks it. -/
def discardInLine (_ : Unit) : Recovery (Step Unit) := do
  if (← get).kind = .endOfText then
    return .done ()
  else
    let token ← discard
    return if token.kind = .newline then .done () else .again ()

/-- Discard the rest of the line. -/
def skipLine : Recovery Unit := do
  loop discardInLine (← get).budget ()

/-- Report an error and discard the rest of the line. -/
def reportAndSkipLine (diagnostic : Diagnostic) : Recovery Unit := do
  report diagnostic
  skipLine

/-- Pass the end of a line, or report and discard what stands before it. -/
def finishLine (context : String) : Recovery Unit := do
  match ← (endOfLine context).run with
  | .ok _ => return
  | .error diagnostic => reportAndSkipLine diagnostic

/-- Discard one token of a broken statement, or stop where it ends. -/
def discardInStatement (_ : Unit) : Recovery (Step Unit) := do
  match (← get).kind with
  | .newline =>
      let _ ← advance
      return .done ()
  | .endOfText => return .done ()
  | kind =>
      if kind.isBlockTerminator then
        return .done ()
      else
        let _ ← discard
        return .again ()

/-- Discard the rest of a broken statement: through the line break, or up to
a block terminator. -/
def synchronize : Recovery Unit := do
  loop discardInStatement (← get).budget ()

/-- Discard one line, unless it starts a declaration. -/
def discardToMember (_ : Unit) : Recovery (Step Unit) := do
  skipNewlines
  let cursor ← get
  if cursor.kind = .endOfText || cursor.atDeclaration then
    return .done ()
  else
    skipLine
    return .again ()

/-- Discard this line and the lines after it that start no declaration. -/
def recoverToMember : Recovery Unit := do
  skipLine
  loop discardToMember (← get).budget ()

/-- Whether a line that starts a member belongs to the body of a block that
is being skipped. -/
def isNestedMember (block : Block) (cursor : Cursor) : Bool :=
  match block with
  | .property => cursor.atFunctionStart
  | .state => cursor.kind = .keyword .event
  | _ => false

/-- Discard one line of a body, or stop where the body ends. -/
def discardInBody (block : Block) (_ : Unit) : Recovery (Step Unit) := do
  skipNewlines
  let cursor ← get
  if cursor.kind = .keyword block.terminator then
    skipLine
    return .done ()
  else if cursor.kind = .endOfText ||
      (cursor.atMemberStart && !isNestedMember block cursor) ||
      cursor.isClosedBy cursor.kind then
    return .done ()
  else
    skipLine
    return .again ()

/-- Discard the lines of a body through its terminator.  The end of the text,
the next member and the terminator of a block around it stop early. -/
def skipBody (block : Block) : Recovery Unit := do
  loop (discardInBody block) (← get).budget ()

/-- Discard a member whose first line is broken.  `block?` says what would
close it.  A property only has a body if a function follows its line. -/
def skipMember (block? : Option Block) : Recovery Unit := do
  match block? with
  | none =>
      if (← get).openBlocks.isEmpty then recoverToMember else skipLine
  | some block =>
      skipLine
      skipNewlines
      if block = .property && !(← get).atFunctionStart then
        return
      else
        skipBody block

end PapyrusScript.Reader
