import PapyrusScript.Diagnostic
import PapyrusScript.Token.Role

/-!
# The cursor

Reading a script moves a cursor over its tokens.  The cursor stands on one
token and never moves past the end of the text, so there is always a current
token.  It remembers

* where the last token that is not a line break ended;
* which blocks are open, the innermost first;
* where the last lexical error was, so that no token is reported twice;
* the errors reported so far, the newest first.

The questions that decide what a line is are asked of the cursor alone:
they look at the kinds of the next few tokens.
-/

namespace PapyrusScript

/-- Whether some token of a list is an end of the text. -/
def HasEnd (tokens : List Token) : Prop :=
  ∃ token ∈ tokens, token.kind = .endOfText

theorem HasEnd.tail
    {token : Token} {tokens : List Token} (ended : HasEnd (token :: tokens))
    (inside : token.kind ≠ .endOfText) : HasEnd tokens := by
  obtain ⟨last, member, isEnd⟩ := ended
  rcases List.mem_cons.1 member with rfl | later
  · exact absurd isEnd inside
  · exact ⟨last, later, isEnd⟩

/-- A place in a list of tokens, and what is known there.  An end of the text
is never behind the cursor. -/
structure Cursor where
  current : Token
  ahead : List Token
  lastEnd : Position
  openBlocks : List Block
  lastLexical : Option Position
  reported : List Diagnostic
  ended : HasEnd (current :: ahead)

namespace Cursor

/-- The end of a list of tokens that does not end itself: a token for the end
of the text, where the last token stops. -/
def missingEnd (tokens : List Token) : List Token :=
  match tokens.getLast? with
  | none => [Token.endOfText .origin]
  | some last =>
      if last.kind = .endOfText then [] else [Token.endOfText last.span.stop]

theorem hasEnd_missingEnd (tokens : List Token) :
    HasEnd (tokens ++ missingEnd tokens) := by
  unfold missingEnd
  split
  · exact ⟨Token.endOfText .origin, by simp, rfl⟩
  · rename_i last found
    split
    · rename_i isEnd
      have member := List.mem_of_getLast? found
      exact ⟨last, List.mem_append_left _ member, isEnd⟩
    · exact ⟨Token.endOfText last.span.stop, by simp, rfl⟩

/-- The cursor on the first of some tokens, with no block open. -/
def start (tokens : List Token) : Cursor :=
  match whole : tokens ++ missingEnd tokens with
  | [] =>
      { current := Token.endOfText .origin
        ahead := []
        lastEnd := .origin
        openBlocks := []
        lastLexical := none
        reported := []
        ended := ⟨_, List.mem_singleton_self _, rfl⟩ }
  | first :: rest =>
      { current := first
        ahead := rest
        lastEnd := first.span.start
        openBlocks := []
        lastLexical := none
        reported := []
        ended := whole ▸ hasEnd_missingEnd tokens }

instance : Inhabited Cursor := ⟨start []⟩

/-- The kind of the token at a distance; past the last token it is the end. -/
def kindAt (cursor : Cursor) : Nat → Kind
  | 0 => cursor.current.kind
  | distance + 1 =>
      match cursor.ahead[distance]? with
      | some token => token.kind
      | none => .endOfText

/-- The kind of the current token. -/
def kind (cursor : Cursor) : Kind := cursor.current.kind

/-- Where the current token starts. -/
def position (cursor : Cursor) : Position := cursor.current.span.start

/-- The tokens that are left, the current one included.  No loop over them
runs more often than there are tokens. -/
def budget (cursor : Cursor) : List Token := cursor.current :: cursor.ahead

/-- The cursor after the current token.  At the end of the text it stays. -/
def next (cursor : Cursor) : Cursor :=
  let lastEnd :=
    if cursor.kind = .newline then
      cursor.lastEnd
    else
      cursor.current.span.stop
  if inside : cursor.current.kind ≠ .endOfText then
    match more : cursor.ahead with
    | [] => { cursor with lastEnd }
    | following :: rest =>
        { cursor with
          current := following
          ahead := rest
          lastEnd
          ended := more ▸ cursor.ended.tail inside }
  else
    { cursor with lastEnd }

/-- The stretch of source from a place to the end of the last token. -/
def spanFrom (cursor : Cursor) (start : Position) : Span :=
  ⟨start, cursor.lastEnd⟩

/-- The cursor after a report. -/
def report (cursor : Cursor) (diagnostic : Diagnostic) : Cursor :=
  { cursor with
    lastLexical :=
      if diagnostic.cause.isLexical then
        some diagnostic.position
      else
        cursor.lastLexical
    reported := diagnostic :: cursor.reported }

/-- The cursor inside one more block. -/
def enter (cursor : Cursor) (block : Block) : Cursor :=
  { cursor with openBlocks := block :: cursor.openBlocks }

/-- The cursor outside the innermost block. -/
def leave (cursor : Cursor) : Cursor :=
  { cursor with openBlocks := cursor.openBlocks.tail }

/-- Whether some open block is closed by a kind of token. -/
def isClosedBy (cursor : Cursor) (kind : Kind) : Bool :=
  cursor.openBlocks.any fun block => block.closedBy kind

/-- Whether a type starts here. -/
def atTypeStart (cursor : Cursor) : Bool :=
  cursor.kind.isTypeKeyword || cursor.kind = .identifier

/-- The number of tokens of the type that starts here. -/
def typeLength (cursor : Cursor) : Nat :=
  if cursor.kindAt 1 = .symbol .openBracket &&
      cursor.kindAt 2 = .symbol .closeBracket then
    3
  else
    1

/-- The kind of the token after the type that starts here. -/
def kindAfterType (cursor : Cursor) : Kind := cursor.kindAt cursor.typeLength

/-- Whether a function starts here, with or without a return type. -/
def atFunctionStart (cursor : Cursor) : Bool :=
  cursor.kind = .keyword .function ||
    (cursor.atTypeStart && cursor.kindAfterType = .keyword .function)

/-- Whether the line declares a variable: a type and a name. -/
def atVariableStart (cursor : Cursor) : Bool :=
  cursor.atTypeStart && cursor.kindAfterType = .identifier

/-- Whether the line opens a function, event, state, property, import or
header.  A variable is left out, because inside a body the same tokens
declare a local one. -/
def atMemberStart (cursor : Cursor) : Bool :=
  match cursor.kind with
  | .keyword .function => true
  | .keyword .event => true
  | .keyword .state => true
  | .keyword .importScript => true
  | .keyword .scriptname => true
  | .keyword .auto => cursor.kindAt 1 = .keyword .state
  | _ =>
      cursor.atTypeStart &&
        (cursor.kindAfterType = .keyword .function ||
          cursor.kindAfterType = .keyword .property)

/-- Whether the line starts any declaration of the script. -/
def atDeclaration (cursor : Cursor) : Bool :=
  cursor.atMemberStart || cursor.atVariableStart

/-- What the member that starts here is closed by, if it has a body. -/
def memberBlock? (cursor : Cursor) : Option Block :=
  match cursor.kind with
  | .keyword .event => some .event
  | .keyword .state => some .state
  | .keyword .auto => some .state
  | _ =>
      if cursor.atFunctionStart then some .function
      else if cursor.atMemberStart then some .property
      else none

end Cursor

end PapyrusScript
