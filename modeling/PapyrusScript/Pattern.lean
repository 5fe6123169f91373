import PapyrusScript.Text.CaseFolding

/-!
# Patterns

A pattern is a small regular expression that is searched for in a text:

* a character stands for itself, also after a backslash if it is punctuation;
* a point stands for any character but a line feed;
* brackets hold characters and ranges, one of which must occur, or after a
  caret must not;
* a caret and a dollar sign hold at the start and at the end of the text;
* a star repeats what stands before it any number of times;
* a bar separates alternatives;
* `(?i)` in front of everything makes case meaningless.

Anything else is refused.
-/

namespace PapyrusScript

/-- What one character of the text may be, or a place in the text. -/
inductive Atom where
  | letter (letter : Char)
  | any
  | oneOf (negated : Bool) (ranges : List (Char × Char))
  | start
  | stop
  deriving DecidableEq, Repr, Inhabited

/-- An atom, once or any number of times. -/
structure Piece where
  atom : Atom
  repeated : Bool
  deriving DecidableEq, Repr, Inhabited

/-- A regular expression. -/
structure Pattern where
  ignoresCase : Bool
  alternatives : List (List Piece)
  deriving DecidableEq, Repr, Inhabited

namespace Pattern

/-! ## Reading -/

/-- Whether a backslash may take the meaning off a character. -/
def isPunctuation (letter : Char) : Bool :=
  0x20 < letter.toNat && letter.toNat < 0x7F && !Text.isLetter letter &&
    !Text.isDigit letter

/-- Read a character inside brackets. -/
def bracketLetter? : List Char → Option (Char × List Char)
  | '\\' :: letter :: rest =>
      if isPunctuation letter then some (letter, rest) else none
  | '[' :: _ => none
  | '\\' :: [] => none
  | letter :: rest => some (letter, rest)
  | [] => none

/-- Read the inside of brackets, at most one range for each character of
`budget`.  A closing bracket right at the start stands for itself. -/
def ranges? (first : Bool) :
    List Char → List Char → Option (List (Char × Char) × List Char)
  | [], _ => none
  | _ :: budget, source =>
      match source with
      | ']' :: rest =>
          if first then
            (ranges? false budget rest).map fun (found, after) =>
              ((']', ']') :: found, after)
          else
            some ([], rest)
      | _ => do
          let (low, rest) ← bracketLetter? source
          match rest with
          | '-' :: ']' :: _ =>
              let (found, after) ← ranges? false budget rest
              return ((low, low) :: found, after)
          | '-' :: upTo =>
              let (high, after) ← bracketLetter? upTo
              if high < low then
                none
              else
                let (found, after) ← ranges? false budget after
                return ((low, high) :: found, after)
          | _ =>
              let (found, after) ← ranges? false budget rest
              return ((low, low) :: found, after)

/-- Read one atom. -/
def atom? : List Char → Option (Atom × List Char)
  | [] => none
  | '.' :: rest => some (.any, rest)
  | '^' :: rest => some (.start, rest)
  | '$' :: rest => some (.stop, rest)
  | '[' :: '^' :: rest =>
      (ranges? true rest rest).map fun (found, after) =>
        (.oneOf true found, after)
  | '[' :: rest =>
      (ranges? true rest rest).map fun (found, after) =>
        (.oneOf false found, after)
  | '\\' :: letter :: rest =>
      if isPunctuation letter then some (.letter letter, rest) else none
  | letter :: rest =>
      if "\\*+?()\x7b".toList.contains letter then none
      else some (.letter letter, rest)

/-- Pass the stars at the start of a text, and say whether there are any. -/
def stars (source : List Char) : Bool × List Char :=
  (source.head? = some '*', source.dropWhile fun letter => letter = '*')

/-- Read alternatives, at most one atom for each character of `budget`.
`done` holds the pieces of the current alternative. -/
def alternatives? :
    List Char → List Piece → List Char → Option (List (List Piece))
  | _, done, [] => some [done]
  | [], _, _ => none
  | _ :: budget, done, '|' :: rest =>
      (alternatives? budget [] rest).map (done :: ·)
  | _ :: budget, done, source => do
      let (atom, rest) ← atom? source
      let (repeated, after) := stars rest
      alternatives? budget (done ++ [⟨atom, repeated⟩]) after

/-- Read a pattern. -/
def read? (source : List Char) : Option Pattern :=
  match source with
  | '(' :: '?' :: 'i' :: ')' :: rest =>
      (alternatives? rest [] rest).map (Pattern.mk true)
  | _ => (alternatives? source [] source).map (Pattern.mk false)

/-- The pattern that a text spells. -/
def ofText? (source : String) : Option Pattern := read? source.toList

/-! ## Searching -/

/-- Whether a character lies in a range, possibly but for its case. -/
def inRange (ignoresCase : Bool) (letter : Char) (range : Char × Char) : Bool :=
  let variants := if ignoresCase then Text.caseVariants letter else [letter]
  variants.any fun variant => range.1 ≤ variant && variant ≤ range.2

/-- Whether a character is one that an atom stands for. -/
def accepts (ignoresCase : Bool) (atom : Atom) (letter : Char) : Bool :=
  match atom with
  | .letter wanted =>
      if ignoresCase then
        Text.simpleFolding letter = Text.simpleFolding wanted
      else
        letter = wanted
  | .any => letter ≠ '\n'
  | .oneOf negated ranges =>
      negated != ranges.any (inRange ignoresCase letter)
  | .start => false
  | .stop => false

/-- A text and what is left of it after each of the accepted characters at
its start.  The first component says whether the text is whole. -/
def restsAfter (ignoresCase : Bool) (atom : Atom) :
    Bool → List Char → List (Bool × List Char)
  | whole, [] => [(whole, [])]
  | whole, letter :: rest =>
      if accepts ignoresCase atom letter then
        (whole, letter :: rest) :: restsAfter ignoresCase atom false rest
      else
        [(whole, letter :: rest)]

/-- Whether the pieces match at the start of a text. -/
def piecesMatch (ignoresCase : Bool) :
    List Piece → Bool → List Char → Bool
  | [], _, _ => true
  | ⟨atom, true⟩ :: rest, whole, text =>
      (restsAfter ignoresCase atom whole text).any fun (whole, text) =>
        piecesMatch ignoresCase rest whole text
  | ⟨.start, false⟩ :: rest, whole, text =>
      whole && piecesMatch ignoresCase rest whole text
  | ⟨.stop, false⟩ :: rest, whole, text =>
      text.isEmpty && piecesMatch ignoresCase rest whole text
  | ⟨atom, false⟩ :: rest, _, text =>
      match text with
      | letter :: after =>
          accepts ignoresCase atom letter &&
            piecesMatch ignoresCase rest false after
      | [] => false

/-- Whether the pattern matches at the start of a text. -/
def matchesHere (pattern : Pattern) (whole : Bool) (text : List Char) : Bool :=
  pattern.alternatives.any fun pieces =>
    piecesMatch pattern.ignoresCase pieces whole text

/-- Whether the pattern matches at the start of a text or later in it. -/
def searchFrom (pattern : Pattern) (whole : Bool) : List Char → Bool
  | [] => pattern.matchesHere whole []
  | letter :: rest =>
      pattern.matchesHere whole (letter :: rest) ||
        pattern.searchFrom false rest

/-- Whether the pattern occurs in a text. -/
def occursIn (pattern : Pattern) (text : String) : Bool :=
  pattern.searchFrom true text.toList

/-- A pattern as a test of texts. -/
instance : Coe Pattern (String → Bool) := ⟨occursIn⟩

/-- The test of texts that a text spells. -/
def test? (source : String) : Option (String → Bool) :=
  (ofText? source).map occursIn

end Pattern

end PapyrusScript
