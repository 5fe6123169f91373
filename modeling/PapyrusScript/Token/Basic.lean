import PapyrusScript.Source.Position
import PapyrusScript.Token.Kind

/-!
# Tokens

A token is a kind, a text and the stretch of source it was read from.  For a
string literal the text is what the literal stands for, and for a
documentation comment it is the trimmed text between the braces; otherwise it
is the source text.
-/

namespace PapyrusScript

/-- One token of a script. -/
structure Token where
  kind : Kind
  text : String
  span : Span
  deriving DecidableEq, Repr, Inhabited

namespace Token

/-- The end of the text, seen from a place. -/
def endOfText (position : Position) : Token :=
  ⟨.endOfText, "", Span.point position⟩

end Token

end PapyrusScript
