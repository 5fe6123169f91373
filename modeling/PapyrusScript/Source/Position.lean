/-!
# Positions and spans

Places in a source text are counted the way an editor shows them:

* lines and columns start at one;
* a column is one character, whatever its width or its encoding;
* a line feed ends its line and belongs to it.

`Position.advance` carries a position over a piece of text, so the place of
any character is determined by the text before it.
-/

namespace PapyrusScript

/-- A place in a source text. -/
structure Position where
  line : Nat
  column : Nat
  deriving DecidableEq, Repr, Inhabited

namespace Position

/-- The place of the first character of a text. -/
def origin : Position := ⟨1, 1⟩

/-- The place after one more character. -/
def step (position : Position) (letter : Char) : Position :=
  if letter = '\n' then
    ⟨position.line + 1, 1⟩
  else
    ⟨position.line, position.column + 1⟩

/-- The place after a piece of text. -/
def advance (position : Position) (text : List Char) : Position :=
  text.foldl step position

@[simp]
theorem advance_nil (position : Position) : position.advance [] = position :=
  rfl

@[simp]
theorem advance_cons (position : Position) (letter : Char) (text : List Char) :
    position.advance (letter :: text) = (position.step letter).advance text :=
  rfl

theorem advance_append (position : Position) (first second : List Char) :
    position.advance (first ++ second) =
      (position.advance first).advance second := by
  simp [advance, List.foldl_append]

/-- Reading order: by line, and within a line by column. -/
def Before (first second : Position) : Prop :=
  first.line < second.line ∨
    (first.line = second.line ∧ first.column < second.column)

instance (first second : Position) : Decidable (Before first second) :=
  inferInstanceAs (Decidable (_ ∨ _))

instance : LT Position := ⟨Before⟩

instance : LE Position := ⟨fun first second => ¬ Before second first⟩

instance (first second : Position) : Decidable (first < second) :=
  inferInstanceAs (Decidable (Before first second))

instance (first second : Position) : Decidable (first ≤ second) :=
  inferInstanceAs (Decidable (¬ Before second first))

instance : Ord Position where
  compare first second :=
    (compare first.line second.line).then
      (compare first.column second.column)

/-- The usual written form, `line:column`. -/
def text (position : Position) : String :=
  toString position.line ++ ":" ++ toString position.column

end Position

/-- The stretch of source from the start of one token to the end of another. -/
structure Span where
  start : Position
  stop : Position
  deriving DecidableEq, Repr, Inhabited

namespace Span

/-- The empty stretch at a place. -/
def point (position : Position) : Span := ⟨position, position⟩

/-- From the start of one stretch to the end of another. -/
def through (first last : Span) : Span := ⟨first.start, last.stop⟩

/-- The stretch that a piece of text covers when it begins at `start`. -/
def covering (start : Position) (text : List Char) : Span :=
  ⟨start, start.advance text⟩

end Span

end PapyrusScript
