import PapyrusScript.Proofs.Insertion.Lexeme

/-!
# Cutting a text without regard to case

Where filler and lexemes end does not depend on the case of letters: every
character class that is asked for holds of a letter in both cases or in none.
So a text in lower case is cut at the same places as the text itself, and a
word in lower case is the same keyword, or none.
-/

namespace PapyrusScript

namespace Text

/-! ## Characters -/

/-- What is the same for the capital letters and their lower-case forms is the
same for every character and its lower-case form. -/
theorem apply_foldCase {α : Type} (fact : Char → α)
    (same : ∀ code ∈ List.range' 65 26,
      fact (Char.ofNat (code + 32)) = fact (Char.ofNat code))
    (letter : Char) : fact (foldCase letter) = fact letter := by
  unfold foldCase
  split
  · rename_i capital
    simp only [Bool.and_eq_true, decide_eq_true_eq, Char.le_def,
      UInt32.le_iff_toNat_le] at capital
    have both := same letter.toNat <|
      List.mem_range'_1.2 ⟨capital.1, Nat.lt_succ_of_le capital.2⟩
    rwa [Char.ofNat_toNat] at both
  · rfl

theorem foldCase_foldCase (letter : Char) :
    foldCase (foldCase letter) = foldCase letter :=
  apply_foldCase foldCase (by decide) letter

def Caseless (test : Char → Bool) : Prop :=
  ∀ letter, test (foldCase letter) = test letter

theorem caseless_isLetter : Caseless isLetter := apply_foldCase _ (by decide)

theorem caseless_isDigit : Caseless isDigit := apply_foldCase _ (by decide)

theorem caseless_isHexDigit : Caseless isHexDigit :=
  apply_foldCase _ (by decide)

theorem caseless_isNameStart : Caseless isNameStart :=
  apply_foldCase _ (by decide)

theorem caseless_isNamePart : Caseless isNamePart :=
  apply_foldCase _ (by decide)

theorem caseless_isBlank : Caseless isBlank := apply_foldCase _ (by decide)

theorem foldCase_of_not_isLetter
    {letter : Char} (other : isLetter letter = false) :
    foldCase letter = letter := by
  unfold foldCase
  split
  · rename_i capital
    simp [isLetter, capital] at other
  · rfl

/-- Only one character has a lower-case form that is no letter. -/
theorem foldCase_eq_iff
    {mark : Char} (other : isLetter mark = false) (letter : Char) :
    foldCase letter = mark ↔ letter = mark := by
  constructor
  · rintro rfl
    rw [caseless_isLetter] at other
    exact (foldCase_of_not_isLetter other).symm
  · rintro rfl
    exact foldCase_of_not_isLetter other

theorem foldCase_ne {mark letter : Char} (other : isLetter mark = false)
    (apart : letter ≠ mark) : foldCase letter ≠ mark := by
  rwa [Ne, foldCase_eq_iff other]

/-! ## Stretches of a text -/

section

variable {test : Char → Bool} (caseless : Caseless test) (text : List Char)
include caseless

theorem takeWhile_map_foldCase :
    (text.map foldCase).takeWhile test =
      (text.takeWhile test).map foldCase := by
  rw [List.takeWhile_map, show test ∘ foldCase = test from funext caseless]

theorem dropWhile_map_foldCase :
    (text.map foldCase).dropWhile test =
      (text.dropWhile test).map foldCase := by
  rw [List.dropWhile_map, show test ∘ foldCase = test from funext caseless]

theorem filter_map_foldCase :
    (text.map foldCase).filter test = (text.filter test).map foldCase := by
  rw [List.filter_map, show test ∘ foldCase = test from funext caseless]

end

end Text

open Text

/-! ## Lexemes -/

namespace Lexeme

theorem keyword?_map_foldCase (text : List Char) :
    keyword? (String.ofList (text.map foldCase)) =
      keyword? (String.ofList text) := by
  have twice : foldCase ∘ foldCase = foldCase := funext foldCase_foldCase
  simp only [keyword?, sameLetters, String.toList_ofList, List.map_map, twice]

theorem word_map_foldCase (source : List Char) :
    (word (source.map foldCase)).text = (word source).text.map foldCase ∧
      (word (source.map foldCase)).kind = (word source).kind := by
  have part := takeWhile_map_foldCase caseless_isNamePart source
  simp only [word, part, keyword?_map_foldCase, and_self]

theorem exponentSign_map_foldCase (source : List Char) :
    exponentSign (source.map foldCase) =
      (exponentSign source).map foldCase := by
  rw [exponentSign, exponentSign, ← List.map_take]
  exact filter_map_foldCase (apply_foldCase _ (by decide)) _

theorem exponentDigits_map_foldCase (source : List Char) :
    exponentDigits (source.map foldCase) =
      (exponentDigits source).map foldCase := by
  rw [exponentDigits, exponentDigits, exponentSign_map_foldCase,
    List.length_map, ← List.map_drop]
  exact takeWhile_map_foldCase caseless_isDigit _

/-- An exponent ends at the same place in lower case. -/
theorem exponent_map_foldCase (source : List Char) :
    exponent (source.map foldCase) = (exponent source).map foldCase := by
  cases source with
  | nil => rfl
  | cons mark source =>
    have marks : (foldCase mark = 'e' ∨ foldCase mark = 'E') ↔
        (mark = 'e' ∨ mark = 'E') :=
      decide_eq_decide.1 <|
        apply_foldCase (fun letter => decide (letter = 'e' ∨ letter = 'E'))
          (by decide) mark
    by_cases known : mark = 'e' ∨ mark = 'E'
    · rw [List.map_cons, exponent_cons known, exponent_cons (marks.2 known),
        exponentSign_map_foldCase, exponentDigits_map_foldCase]
      simp only [List.map_eq_nil_iff, apply_ite (List.map foldCase)]
      simp
    · simp [exponent, known, marks]

theorem fraction_map_foldCase (source : List Char) :
    fraction (source.map foldCase) = (fraction source).map foldCase := by
  cases source with
  | nil => rfl
  | cons first source =>
    have point : foldCase first = '.' ↔ first = '.' := foldCase_eq_iff rfl first
    by_cases known : first = '.'
    · subst known
      have digits := takeWhile_map_foldCase caseless_isDigit source
      simp only [List.map_cons, point.2 rfl, fraction, digits]
    · simp [fraction, known, point]

theorem decimal_map_foldCase (source : List Char) :
    numeral.decimal (source.map foldCase) =
      ((numeral.decimal source).1,
        (numeral.decimal source).2.map foldCase) := by
  have whole := takeWhile_map_foldCase caseless_isDigit source
  have point (letter : Char) : foldCase letter = '.' ↔ letter = '.' :=
    foldCase_eq_iff rfl letter
  have lone (part : List Char) : part.map foldCase = ['.'] ↔ part = ['.'] := by
    simp [List.map_eq_singleton_iff, point]
  simp only [numeral.decimal, whole, List.length_map, ← List.map_drop,
    fraction_map_foldCase, exponent_map_foldCase, lone, List.isEmpty_map,
    List.map_append]

/-- A numeral ends at the same place in lower case. -/
theorem numeral_map_foldCase (source : List Char) :
    numeral (source.map foldCase) =
      ((numeral source).1, (numeral source).2.map foldCase) := by
  have decimal := decimal_map_foldCase source
  cases source with
  | nil => exact decimal
  | cons first source =>
    by_cases zero : first = '0'
    · subst zero
      cases source with
      | nil => exact decimal
      | cons mark source =>
        have marks : (foldCase mark = 'x' ∨ foldCase mark = 'X') ↔
            (mark = 'x' ∨ mark = 'X') :=
          decide_eq_decide.1 <|
            apply_foldCase
              (fun letter => decide (letter = 'x' ∨ letter = 'X'))
              (by decide) mark
        have digits := takeWhile_map_foldCase caseless_isHexDigit source
        have same : foldCase '0' = '0' := rfl
        by_cases hex : mark = 'x' ∨ mark = 'X'
        · simp [numeral, same, hex, marks, digits]
        · simpa [numeral, same, hex, marks] using decimal
    · simpa [numeral, zero, foldCase_ne rfl zero] using decimal

theorem number_map_foldCase (source : List Char) :
    (number (source.map foldCase)).text = (number source).text.map foldCase ∧
      (number (source.map foldCase)).kind = (number source).kind := by
  have tail := takeWhile_map_foldCase caseless_isNamePart
  simp only [number, numeral_map_foldCase, List.length_map, ← List.map_drop,
    tail, List.map_append, List.isEmpty_map, and_self]

/-- A symbol has no letters, so no letter is mistaken for a part of it. -/
theorem isPrefixOf_map_foldCase
    {sign : List Char} (plain : ∀ mark ∈ sign, isLetter mark = false)
    (source : List Char) :
    sign.isPrefixOf (source.map foldCase) = sign.isPrefixOf source := by
  induction sign generalizing source with
  | nil => simp
  | cons mark sign ih =>
    rw [List.forall_mem_cons] at plain
    cases source with
    | nil => rfl
    | cons letter source =>
      have first : (mark == foldCase letter) = (mark == letter) := by
        rw [Bool.eq_iff_iff, beq_iff_eq, beq_iff_eq, eq_comm,
          foldCase_eq_iff plain.1, eq_comm]
      rw [List.map_cons, List.isPrefixOf, List.isPrefixOf, first, ih plain.2]

theorem symbol?_map_foldCase (source : List Char) :
    symbol? (source.map foldCase) = symbol? source := by
  have plain (sign : Symbol) :
      ∀ mark ∈ sign.spelling.toList, isLetter mark = false := by
    have noLetter : sign.spelling.toList.all (fun mark => !isLetter mark) := by
      cases sign <;> decide
    simpa using noLetter
  unfold symbol?
  congr 1
  exact funext fun sign => isPrefixOf_map_foldCase (plain sign) source

theorem sign_map_foldCase (source : List Char) :
    (sign (source.map foldCase)).text = (sign source).text.map foldCase ∧
      (sign (source.map foldCase)).kind = (sign source).kind := by
  unfold sign
  rw [symbol?_map_foldCase]
  cases symbol? source with
  | none => exact ⟨List.map_take.symm, rfl⟩
  | some found =>
    refine ⟨?_, rfl⟩
    cases found <;> rfl

theorem docComment_map_foldCase (inside : List Char) :
    (docComment (inside.map foldCase)).text =
        (docComment inside).text.map foldCase ∧
      (docComment (inside.map foldCase)).kind = (docComment inside).kind := by
  have caseless : Caseless isInDoc := apply_foldCase _ (by decide)
  have body := takeWhile_map_foldCase caseless inside
  have left := dropWhile_map_foldCase caseless inside
  unfold docComment
  rw [body, left]
  cases inside.dropWhile isInDoc with
  | nil => exact ⟨rfl, rfl⟩
  | cons close rest => simp [show foldCase '\x7b' = '\x7b' from rfl]

theorem quoted_escape
    {letter : Char} (inLine : letter ≠ '\n') (after : List Char) :
    (quoted ('\\' :: letter :: after)).raw =
        '\\' :: letter :: (quoted after).raw ∧
      (quoted ('\\' :: letter :: after)).closed = (quoted after).closed := by
  rw [quoted]
  · cases escape? letter <;> exact ⟨rfl, rfl⟩
  · exact inLine

theorem quoted_letter
    {letter : Char} (feed : letter ≠ '\n') (quote : letter ≠ '"')
    (backslash : letter ≠ '\\') (rest : List Char) :
    (quoted (letter :: rest)).raw = letter :: (quoted rest).raw ∧
      (quoted (letter :: rest)).closed = (quoted rest).closed := by
  rw [quoted]
  · exact ⟨rfl, rfl⟩
  · exact feed
  · exact quote
  · exact backslash

/-- A letter behind a backslash may lose its meaning in lower case, but the
string ends at the same place. -/
theorem quoted_map_foldCase (inside : List Char) :
    (quoted (inside.map foldCase)).raw = (quoted inside).raw.map foldCase ∧
      (quoted (inside.map foldCase)).closed = (quoted inside).closed := by
  have escaped {letter : Char} {after : List Char}
      (inLine : letter ≠ '\n')
      (further :
        (quoted (after.map foldCase)).raw = (quoted after).raw.map foldCase ∧
          (quoted (after.map foldCase)).closed = (quoted after).closed) :
      (quoted (('\\' :: letter :: after).map foldCase)).raw =
          ('\\' :: letter :: (quoted after).raw).map foldCase ∧
        (quoted (('\\' :: letter :: after).map foldCase)).closed =
          (quoted after).closed := by
    obtain ⟨raw, closed⟩ := quoted_escape (foldCase_ne rfl inLine)
      (after.map foldCase)
    rw [further.1] at raw
    exact ⟨raw, closed.trans further.2⟩
  fun_induction quoted inside with
  | case1 => exact ⟨rfl, rfl⟩
  | case2 rest => exact ⟨rfl, rfl⟩
  | case3 rest => exact ⟨rfl, rfl⟩
  | case4 => exact ⟨rfl, rfl⟩
  | case5 below => exact ⟨rfl, rfl⟩
  | case6 letter after other inner meant known ih =>
    exact escaped other ih
  | case7 letter after other inner unknown ih =>
    exact escaped other ih
  | case8 letter rest feed quote backslash inner ih =>
    obtain ⟨raw, closed⟩ := quoted_letter (foldCase_ne rfl feed)
      (foldCase_ne rfl quote) (foldCase_ne rfl backslash)
      (rest.map foldCase)
    rw [ih.1] at raw
    exact ⟨raw, closed.trans ih.2⟩

theorem string_map_foldCase (inside : List Char) :
    (string (inside.map foldCase)).text =
      (string inside).text.map foldCase := by
  obtain ⟨raw, closed⟩ := quoted_map_foldCase inside
  have quote : foldCase '"' = '"' := rfl
  unfold string
  dsimp only
  rw [closed]
  cases (quoted inside).closed with
  | false => simp [raw, quote]
  | true =>
    cases (quoted inside).sound <;>
      cases (quoted (inside.map foldCase)).sound <;> simp [raw, quote]

/-- In lower case a text starts with a lexeme of the same length, and of the
same kind unless it is a string. -/
theorem read_map_foldCase (source : List Char) :
    (read (source.map foldCase)).text = (read source).text.map foldCase ∧
      (source.head? ≠ some '"' →
        (read (source.map foldCase)).kind = (read source).kind) := by
  cases source with
  | nil => exact ⟨rfl, fun _ => rfl⟩
  | cons first source =>
    by_cases quote : first = '"'
    · subst quote
      exact ⟨string_map_foldCase source, fun other => absurd rfl other⟩
    by_cases brace : first = '\x7b'
    · subst brace
      obtain ⟨text, kind⟩ := docComment_map_foldCase source
      exact ⟨text, fun _ => kind⟩
    by_cases comment : first = ';'
    · subst comment
      exact ⟨rfl, fun _ => rfl⟩
    have plain : first ∉ [';', '\x7b', '"'] := by simp [quote, brace, comment]
    have folded : foldCase first ∉ [';', '\x7b', '"'] := by
      simp [foldCase_ne rfl quote, foldCase_ne rfl brace,
        foldCase_ne rfl comment]
    rw [read_cons_of_plain plain, List.map_cons, read_cons_of_plain folded,
      caseless_isDigit, caseless_isNameStart, ← List.map_cons]
    split
    · obtain ⟨text, kind⟩ := number_map_foldCase (first :: source)
      exact ⟨text, fun _ => kind⟩
    split
    · obtain ⟨text, kind⟩ := word_map_foldCase (first :: source)
      exact ⟨text, fun _ => kind⟩
    · obtain ⟨text, kind⟩ := sign_map_foldCase (first :: source)
      exact ⟨text, fun _ => kind⟩

end Lexeme

/-! ## Filler -/

namespace Filler

def lower : Filler → Filler
  | .blank letter => .blank (foldCase letter)
  | .lineFeed => .lineFeed
  | .lineComment text => .lineComment (text.map foldCase)
  | .blockComment text => .blockComment (text.map foldCase)
  | .continuation text => .continuation (text.map foldCase)

theorem text_lower (piece : Filler) :
    piece.lower.text = piece.text.map foldCase := by
  cases piece <;> rfl

theorem allText_map_lower (pieces : List Filler) :
    allText (pieces.map lower) = (allText pieces).map foldCase := by
  induction pieces with
  | nil => rfl
  | cons piece pieces ih =>
    rw [List.map_cons, allText_cons, allText_cons, ih,
      text_lower, List.map_append]

theorem splitAfterClose_map_foldCase (source : List Char) :
    splitAfterClose (source.map foldCase) =
      (splitAfterClose source).map fun parts =>
        (parts.1.map foldCase, parts.2.map foldCase) := by
  fun_induction splitAfterClose source with
  | case1 rest => rfl
  | case2 letter rest other ih =>
    rw [List.map_cons, splitAfterClose, ih]
    · simp [Function.comp_def]
    · intro below slash semicolon
      obtain ⟨mark, after, rfl, folded, _⟩ := List.map_eq_cons_iff.1 semicolon
      rw [foldCase_eq_iff rfl] at slash folded
      exact other after slash (by rw [folded])
  | case3 => rfl

theorem caseless_isInLine : Caseless isInLine := apply_foldCase _ (by decide)

theorem caseless_isTrailingBlank : Caseless isTrailingBlank :=
  apply_foldCase _ (by decide)

/-- A comment at the end of a line ends at the same place in lower case. -/
theorem trailingComment_map_foldCase (source : List Char) :
    trailingComment (source.map foldCase) =
      (trailingComment source).map foldCase := by
  cases source with
  | nil => rfl
  | cons first source =>
    by_cases comment : first = ';'
    · subst comment
      cases source with
      | nil => rfl
      | cons next source =>
        have line := takeWhile_map_foldCase caseless_isInLine
          (next :: source)
        by_cases slash : next = '/'
        · subst slash
          rfl
        · have folded := foldCase_ne rfl slash
          have same : foldCase ';' = ';' := rfl
          rw [List.map_cons] at line
          simp [trailingComment, slash, folded, same, line]
    · simp [trailingComment, comment, foldCase_ne rfl comment]

/-- A line continuation ends at the same place in lower case. -/
theorem continuation?_map_foldCase (rest : List Char) :
    continuation? (rest.map foldCase) =
      (continuation? rest).map fun parts =>
        (parts.1.map foldCase, parts.2.map foldCase) := by
  have blanks := takeWhile_map_foldCase caseless_isTrailingBlank rest
  unfold continuation?
  simp only [blanks, List.length_map, ← List.map_drop,
    trailingComment_map_foldCase, ← List.map_append]
  generalize rest.takeWhile isTrailingBlank ++ trailingComment
    (rest.drop (rest.takeWhile isTrailingBlank).length) = passed
  cases rest.drop passed.length with
  | nil => rfl
  | cons next below =>
    by_cases feed : next = '\n'
    · subst feed
      simp [show foldCase '\n' = '\n' from rfl]
    · simp [feed, foldCase_ne rfl feed]

theorem read?_semicolon
    {source : List Char} (line : ∀ body, source ≠ '/' :: body) :
    read? (';' :: source) =
      some (.lineComment (';' :: source.takeWhile isInLine),
        source.dropWhile isInLine) := by
  rw [read?]
  exact line

theorem read?_other {first : Char} (feed : first ≠ '\n') (slash : first ≠ '\\')
    (comment : first ≠ ';') (source : List Char) :
    read? (first :: source) =
      if isBlank first then some (.blank first, source) else none := by
  simp [read?, comment]

/-- Filler ends at the same place in lower case. -/
theorem read?_map_foldCase (source : List Char) :
    read? (source.map foldCase) =
      (read? source).map fun found =>
        (found.1.lower, found.2.map foldCase) := by
  cases source with
  | nil => rfl
  | cons first source =>
    by_cases feed : first = '\n'
    · subst feed
      rfl
    by_cases slash : first = '\\'
    · subst slash
      have continued := continuation?_map_foldCase source
      simp [read?, show foldCase '\\' = '\\' from rfl, continued, lower,
        Function.comp_def]
    by_cases comment : first = ';'
    · subst comment
      by_cases block : ∃ body, source = '/' :: body
      · obtain ⟨body, rfl⟩ := block
        have closed := splitAfterClose_map_foldCase body
        simp [read?, show foldCase ';' = ';' from rfl,
          show foldCase '/' = '/' from rfl, closed, lower, Function.comp_def]
      · have line (body : List Char) : source ≠ '/' :: body :=
          fun shape => block ⟨body, shape⟩
        have folded (body : List Char) : source.map foldCase ≠ '/' :: body := by
          intro shape
          obtain ⟨mark, after, rfl, same, _⟩ := List.map_eq_cons_iff.1 shape
          rw [foldCase_eq_iff rfl] at same
          exact line after (by rw [same])
        rw [List.map_cons, show foldCase ';' = ';' from rfl,
          read?_semicolon line, read?_semicolon folded,
          takeWhile_map_foldCase caseless_isInLine,
          dropWhile_map_foldCase caseless_isInLine]
        rfl
    · rw [List.map_cons, read?_other feed slash comment,
        read?_other (foldCase_ne rfl feed) (foldCase_ne rfl slash)
          (foldCase_ne rfl comment),
        caseless_isBlank]
      split <;> rfl

theorem readWithin_map_foldCase (budget source : List Char) :
    readWithin (budget.map foldCase) (source.map foldCase) =
      ((readWithin budget source).1.map lower,
        (readWithin budget source).2.map foldCase) := by
  fun_induction readWithin budget source with
  | case1 source => rfl
  | case2 _ budget source nothing =>
    simp [readWithin, read?_map_foldCase, nothing]
  | case3 _ budget source piece rest found pieces after inner
      ih =>
    rw [inner] at ih
    simp [readWithin, read?_map_foldCase, found, ih]

/-- In lower case a text starts with filler of the same kinds and lengths. -/
theorem readAll_map_foldCase (source : List Char) :
    readAll (source.map foldCase) =
      ((readAll source).1.map lower, (readAll source).2.map foldCase) :=
  readWithin_map_foldCase source source

theorem eq_of_text {piece other : Filler} (folded : other.lower = piece.lower)
    (same : other.text = piece.text) : other = piece := by
  cases piece <;> cases other <;> simp_all [lower, text]

/-- Filler that is the same in lower case and has the same text is the same. -/
theorem eq_of_lower {pieces others : List Filler}
    (folded : others.map lower = pieces.map lower)
    (same : allText others = allText pieces) : others = pieces := by
  induction pieces generalizing others with
  | nil => exact List.map_eq_nil_iff.1 folded
  | cons piece pieces ih =>
    cases others with
    | nil => cases folded
    | cons other others =>
      rw [List.map_cons, List.map_cons, List.cons.injEq] at folded
      rw [allText_cons, allText_cons] at same
      have length : other.text.length = piece.text.length := by
        have both := congrArg (fun found => found.text.length) folded.1
        simpa [text_lower] using both
      obtain ⟨text, rest⟩ := List.append_inj same length
      rw [ih folded.2 rest, eq_of_text folded.1 text]

end Filler

end PapyrusScript
