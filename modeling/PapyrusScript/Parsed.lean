import PapyrusScript.Grammar.Script
import PapyrusScript.Token.Stream

/-!
# Parsed scripts

Parsing turns a script's text into a tree and the list of every error found,
in the order of their discovery.  It never stops at the first error.
-/

namespace PapyrusScript

/-- A script and the errors found in it. -/
structure Parsed where
  script : Script
  diagnostics : List Diagnostic
  deriving Repr, Inhabited

namespace Parsed

/-- Whether no error was found. -/
def isSuccess (parsed : Parsed) : Bool := parsed.diagnostics.isEmpty

/-- Parse a list of tokens. -/
def ofTokens (tokens : List Token) : Parsed :=
  let (script, cursor) := Reader.script.run (Cursor.start tokens)
  ⟨script, cursor.reported.reverse⟩

/-- Parse the text of a script. -/
def ofText (source : String) : Parsed := ofTokens (tokens source)

end Parsed

end PapyrusScript
