import PapyrusScript.Text.Blank

/-!
# Filler between tokens

Between two tokens a script may hold text that is no part of either:

* blank characters, among them the line feeds that may end a line;
* comments, from `;` to the end of the line, or between `;/` and `/;`;
* line continuations, a backslash followed by blanks, an optional line
  comment and a line feed or the end of the text.

`Filler.readAll` takes as many of these pieces as the text starts with.  A
block comment without its end and a backslash that continues no line are no
filler, so reading stops in front of them.
-/

namespace PapyrusScript

/-- One piece of text that belongs to no token. -/
inductive Filler where
  | blank (letter : Char)
  | lineFeed
  | lineComment (text : List Char)
  | blockComment (text : List Char)
  | continuation (text : List Char)
  deriving DecidableEq, Repr, Inhabited

namespace Filler

variable {source rest : List Char} {piece : Filler}

/-- The source text of a piece. -/
def text : Filler → List Char
  | .blank letter => [letter]
  | .lineFeed => ['\n']
  | .lineComment text => text
  | .blockComment text => text
  | .continuation text => text

/-- The source text of several pieces. -/
def allText (pieces : List Filler) : List Char := pieces.flatMap text

/-- Whether a character is not a line feed. -/
def isInLine (letter : Char) : Bool := letter ≠ '\n'

/-- Split a text after the first `/;`, if there is one. -/
def splitAfterClose : List Char → Option (List Char × List Char)
  | '/' :: ';' :: rest => some (['/', ';'], rest)
  | letter :: rest =>
      (splitAfterClose rest).map fun parts => (letter :: parts.1, parts.2)
  | [] => none

/-- Whether a character may follow the backslash of a continuation. -/
def isTrailingBlank (letter : Char) : Bool :=
  letter = ' ' || letter = '\t' || letter = '\r'

/-- The line comment that starts a text, if one does: a semicolon that does
not open a block comment, and the rest of its line. -/
def trailingComment : List Char → List Char
  | ';' :: '/' :: _ => []
  | ';' :: rest => ';' :: rest.takeWhile isInLine
  | _ => []

/-- Read the line continuation whose backslash has been passed: what it
covers, and the text after it. -/
def continuation? (rest : List Char) : Option (List Char × List Char) :=
  let blanks := rest.takeWhile isTrailingBlank
  let comment := trailingComment (rest.drop blanks.length)
  let passed := blanks ++ comment
  match rest.drop passed.length with
  | [] => some (passed, [])
  | '\n' :: below => some (passed ++ ['\n'], below)
  | _ => none

/-- Read one piece of filler and the text after it. -/
def read? : List Char → Option (Filler × List Char)
  | [] => none
  | '\n' :: rest => some (.lineFeed, rest)
  | ';' :: '/' :: rest =>
      (splitAfterClose rest).map fun parts =>
        (.blockComment (';' :: '/' :: parts.1), parts.2)
  | ';' :: rest =>
      some (.lineComment (';' :: rest.takeWhile isInLine),
        rest.dropWhile isInLine)
  | '\\' :: rest =>
      (continuation? rest).map fun parts =>
        (.continuation ('\\' :: parts.1), parts.2)
  | letter :: rest =>
      if Text.isBlank letter then some (.blank letter, rest) else none

/-- Read pieces of filler, at most one for each character of `budget`. -/
def readWithin : List Char → List Char → List Filler × List Char
  | [], source => ([], source)
  | _ :: budget, source =>
      match read? source with
      | none => ([], source)
      | some (piece, rest) =>
          let (pieces, after) := readWithin budget rest
          (piece :: pieces, after)

/-- Read every piece of filler at the start of a text.  Each piece has at
least one character, so the text is budget enough for itself. -/
def readAll (source : List Char) : List Filler × List Char :=
  readWithin source source

/-! ## Nothing is lost -/

theorem splitAfterClose_append
    {source : List Char} {parts : List Char × List Char}
    (closed : splitAfterClose source = some parts) :
    parts.1 ++ parts.2 = source := by
  fun_induction splitAfterClose source generalizing parts with
  | case1 rest =>
      cases closed
      rfl
  | case2 letter rest _ ih =>
      obtain ⟨found, inner, rfl⟩ := Option.map_eq_some_iff.1 closed
      simpa using ih inner
  | case3 => simp at closed

theorem trailingComment_prefix (source : List Char) :
    trailingComment source <+: source := by
  fun_cases trailingComment source with
  | case1 rest => exact List.nil_prefix
  | case2 rest =>
      simpa using List.takeWhile_prefix isInLine
  | case3 => exact List.nil_prefix

/-- The parts of a continuation make up the text. -/
theorem continuation?_append {rest : List Char} {parts : List Char × List Char}
    (continued : continuation? rest = some parts) :
    parts.1 ++ parts.2 = rest := by
  have blanks := List.prefix_iff_eq_append.1 <|
    List.takeWhile_prefix (l := rest) isTrailingBlank
  have comment := List.prefix_iff_eq_append.1 <|
    trailingComment_prefix
      (rest.drop (rest.takeWhile isTrailingBlank).length)
  have passed :
      rest.takeWhile isTrailingBlank ++
          trailingComment
            (rest.drop (rest.takeWhile isTrailingBlank).length) ++
        rest.drop
          (rest.takeWhile isTrailingBlank ++
            trailingComment
              (rest.drop (rest.takeWhile isTrailingBlank).length)).length =
        rest := by
    rw [List.length_append, ← List.drop_drop, List.append_assoc, comment,
      blanks]
  unfold continuation? at continued
  simp only at continued
  split at continued
  · rename_i ended
    cases continued
    rw [ended] at passed
    simpa using passed
  · rename_i below ended
    cases continued
    rw [ended] at passed
    simpa using passed
  · cases continued

/-- A piece and what is left of a text make up the text. -/
theorem read?_append (found : read? source = some (piece, rest)) :
    piece.text ++ rest = source := by
  unfold read? at found
  split at found
  · cases found
  · cases found
    rfl
  · obtain ⟨parts, closed, equality⟩ := Option.map_eq_some_iff.1 found
    cases equality
    simpa [text] using splitAfterClose_append closed
  · cases found
    simp [text]
  · obtain ⟨parts, continued, equality⟩ := Option.map_eq_some_iff.1 found
    cases equality
    simpa [text] using continuation?_append continued
  · split at found
    · cases found
      rfl
    · cases found

/-- No piece of filler is empty. -/
theorem text_ne_nil_of_read? (found : read? source = some (piece, rest)) :
    piece.text ≠ [] := by
  unfold read? at found
  split at found
  · cases found
  · cases found
    exact List.cons_ne_nil _ _
  · obtain ⟨parts, _, equality⟩ := Option.map_eq_some_iff.1 found
    cases equality
    exact List.cons_ne_nil _ _
  · cases found
    exact List.cons_ne_nil _ _
  · obtain ⟨parts, _, equality⟩ := Option.map_eq_some_iff.1 found
    cases equality
    exact List.cons_ne_nil _ _
  · split at found
    · cases found
      exact List.cons_ne_nil _ _
    · cases found

theorem length_rest_lt_of_read? (found : read? source = some (piece, rest)) :
    rest.length < source.length := by
  have shorter := List.length_pos_iff.2 (text_ne_nil_of_read? found)
  rw [← read?_append found, List.length_append]
  omega

theorem readWithin_append (budget source : List Char) :
    allText (readWithin budget source).1 ++ (readWithin budget source).2 =
      source := by
  fun_induction readWithin budget source with
  | case1 source => rfl
  | case2 _ budget source nothing => rfl
  | case3 _ budget source piece rest found pieces after inner
      ih =>
      rw [inner] at ih
      simp only [allText, List.flatMap_cons, List.append_assoc] at *
      rw [ih, read?_append found]

/-- Filler and what follows it make up the text. -/
theorem readAll_append (source : List Char) :
    allText (readAll source).1 ++ (readAll source).2 = source :=
  readWithin_append source source

/-- Where filler has been read no more of it follows. -/
theorem read?_readWithin
    (budget source : List Char) (enough : source.length ≤ budget.length) :
    read? (readWithin budget source).2 = none := by
  fun_induction readWithin budget source with
  | case1 source =>
      obtain rfl := List.length_eq_zero_iff.1 (Nat.le_zero.1 enough)
      rfl
  | case2 _ budget source nothing => exact nothing
  | case3 _ budget source piece rest found pieces after inner
      ih =>
      rw [inner] at ih
      have shorter := length_rest_lt_of_read? found
      apply ih
      simp only [List.length_cons] at enough
      omega

/-- What follows the filler does not start with filler. -/
theorem read?_readAll (source : List Char) : read? (readAll source).2 = none :=
  read?_readWithin source source (Nat.le_refl _)

end Filler

end PapyrusScript
