import PapyrusScript.Token.Basic
import PapyrusScript.Token.Filler
import PapyrusScript.Token.Lexeme
import PapyrusScript.Token.Role

/-!
# The tokens of a script

A script is read as filler and lexemes in turn.  The lexemes are its tokens,
and a line feed in the filler between two of them can be one more, a line
break:

* it is one when no bracket is open, or when the token after it is structural,
  which shows that the open brackets were never closed;
* of several line feeds the first counts, and none counts before the first
  token.

A line break closes all brackets.  The stream ends with one token for the end
of the text.
-/

namespace PapyrusScript

/-- What is known of the tokens so far: whether there is one, and how many
brackets are open since the last line break. -/
structure Layout where
  started : Bool
  depth : Nat
  deriving DecidableEq, Repr, Inhabited

namespace Layout

/-- Before the first token. -/
def initial : Layout := ⟨false, 0⟩

/-- After one more token.  A bracket that closes none is ignored. -/
def after (layout : Layout) : Kind → Layout
  | .symbol .openParen => ⟨true, layout.depth + 1⟩
  | .symbol .openBracket => ⟨true, layout.depth + 1⟩
  | .symbol .closeParen => ⟨true, layout.depth - 1⟩
  | .symbol .closeBracket => ⟨true, layout.depth - 1⟩
  | .newline => ⟨true, 0⟩
  | _ => ⟨true, layout.depth⟩

end Layout

/-- The filler in front of the first line feed, if there is a line feed. -/
def beforeLineFeed? (pieces : List Filler) : Option (List Filler) :=
  if pieces.contains .lineFeed then
    some (pieces.takeWhile fun piece => piece ≠ .lineFeed)
  else
    none

/-- The line break that the filler from `start` up to a token of the given
kind amounts to. -/
def lineBreak? (layout : Layout) (start : Position) (pieces : List Filler)
    (next : Kind) : Option Token :=
  if layout.started && (layout.depth = 0 || next.isStructural) then
    (beforeLineFeed? pieces).map fun before =>
      let position := start.advance (Filler.allText before)
      ⟨.newline, "\n", Span.covering position ['\n']⟩
  else
    none

/-- The tokens of a text that begins at `start`, at most `count` lexemes. -/
def tokensUpTo : Nat → Layout → Position → List Char → List Token
  | 0, _, _, _ => []
  | count + 1, layout, start, source =>
      let (pieces, visible) := Filler.readAll source
      let lexeme := Lexeme.read visible
      let position := start.advance (Filler.allText pieces)
      let token : Token :=
        ⟨lexeme.kind, String.ofList lexeme.value,
          Span.covering position lexeme.text⟩
      let lineBreak := lineBreak? layout start pieces token.kind
      let layout :=
        match lineBreak with
        | some found => layout.after found.kind
        | none => layout
      let following :=
        if token.kind = .endOfText then
          []
        else
          tokensUpTo count (layout.after token.kind) token.span.stop
            lexeme.rest
      lineBreak.toList ++ token :: following

/-- The tokens of a script.  Every lexeme but the last has a character. -/
def tokens (source : String) : List Token :=
  tokensUpTo (source.length + 1) .initial .origin source.toList

end PapyrusScript
