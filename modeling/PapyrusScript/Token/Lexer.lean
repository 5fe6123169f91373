import PapyrusScript.Token.Stream

/-!
# Tokens one at a time

A lexer hands out the tokens of a text one after the other.  Whether a line
feed between brackets is a line break shows only at the token behind it.  That
token is then kept back until the line break has been handed out.  Behind the
end of the text there is nothing more.
-/

namespace PapyrusScript

/-- What a lexer knows between two tokens: the layout so far, the text that
is left and where it begins, a token that has been read but not handed out,
and whether the end of the text has been handed out. -/
structure Lexer where
  layout : Layout
  place : Position
  rest : List Char
  queued : Option Token
  finished : Bool
  deriving DecidableEq, Repr, Inhabited

namespace Lexer

/-- In front of a text. -/
def ofText (source : String) : Lexer :=
  ⟨.initial, .origin, source.toList, none, false⟩

/-- Hand out a token. -/
def emit (lexer : Lexer) (token : Token) : Option Token × Lexer :=
  (some token,
    { lexer with
      layout := lexer.layout.after token.kind
      finished := token.kind = .endOfText })

/-- Hand out the next token, if there is one. -/
def next (lexer : Lexer) : Option Token × Lexer :=
  if lexer.finished then
    (none, lexer)
  else
    match lexer.queued with
    | some token => { lexer with queued := none }.emit token
    | none =>
        let (pieces, visible) := Filler.readAll lexer.rest
        let lexeme := Lexeme.read visible
        let position := lexer.place.advance (Filler.allText pieces)
        let token : Token :=
          ⟨lexeme.kind, String.ofList lexeme.value,
            Span.covering position lexeme.text⟩
        let ahead :=
          { lexer with place := token.span.stop, rest := lexeme.rest }
        match lineBreak? lexer.layout lexer.place pieces token.kind with
        | some line => { ahead with queued := some token }.emit line
        | none => ahead.emit token

/-- What a lexer hands out when it has been asked so many times before. -/
def answer (lexer : Lexer) : Nat → Option Token
  | 0 => lexer.next.1
  | count + 1 => lexer.next.2.answer count

end Lexer

end PapyrusScript
