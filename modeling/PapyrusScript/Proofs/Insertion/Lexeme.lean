import PapyrusScript.Proofs.Stretches
import PapyrusScript.Proofs.Stretches.Filler

/-!
# Lexemes and filler in a text that breaks off

A lexeme is read from the front of a text.  As long as that front holds the
whole lexeme and begins what follows it in the same way, the lexeme is the
same: nothing behind the front has been looked at that could have changed it.
So filler can be put anywhere behind a lexeme.

Blanks, block comments and line continuations with a line feed can be put
behind other filler without any of it being read differently.  The one thing
that looks ahead through filler is a backslash: it continues its line if and
only if a line feed or a line comment follows behind trailing blanks.  The gap
behind the backslash decides that, so filler of another kind at the end of the
gap changes nothing.
-/

namespace PapyrusScript

namespace Lexeme

variable {source behind : List Char}
variable {inside : List Char}

/-! ## Words, numbers and symbols -/

theorem takeWhile_of_length_le {test : Char → Bool}
    (short : ((source ++ behind).takeWhile test).length ≤ source.length) :
    (source ++ behind).takeWhile test = source.takeWhile test := by
  rw [List.takeWhile_append] at short ⊢
  split at short
  · rename_i all
    have whole : source.takeWhile test = source :=
      (List.takeWhile_prefix test).eq_of_length all
    have nothing : behind.takeWhile test = [] := by
      rw [List.length_append] at short
      exact List.length_eq_zero_iff.1 (by omega)
    rw [if_pos all, nothing, whole, List.append_nil]
  · rename_i some
    rw [if_neg some]

theorem dropWhile_of_length_le {test : Char → Bool}
    (short : ((source ++ behind).takeWhile test).length ≤ source.length) :
    (source ++ behind).dropWhile test = source.dropWhile test ++ behind := by
  have taken := takeWhile_of_length_le short
  have whole := List.takeWhile_append_dropWhile
    (p := test) (l := source ++ behind)
  have front := List.takeWhile_append_dropWhile (p := test) (l := source)
  rw [taken] at whole
  conv at whole => rhs; rw [← front, List.append_assoc]
  exact List.append_cancel_left whole

theorem word_of_length_le
    (short : (word (source ++ behind)).text.length ≤ source.length) :
    word (source ++ behind) = (word source).followedBy behind := by
  have taken := takeWhile_of_length_le short
  have left := dropWhile_of_length_le short
  simp only [word, followedBy, taken, left]

theorem fraction_of_length_le
    (short : (fraction (source ++ behind)).length ≤ source.length) :
    fraction (source ++ behind) = fraction source := by
  cases source with
  | nil =>
    exact List.length_eq_zero_iff.1 (Nat.le_zero.1 short)
  | cons first source =>
    by_cases point : first = '.'
    · subst point
      rw [List.cons_append, fraction, List.length_cons,
        List.length_cons] at short
      rw [List.cons_append, fraction, fraction,
        takeWhile_of_length_le (Nat.le_of_succ_le_succ short)]
    · simp [fraction, point]

theorem exponent_eq_nil_of_length_le
    (short : (exponent source).length ≤ 1) : exponent source = [] := by
  revert short
  fun_cases exponent source with
  | case1 mark rest known sign digits missing => intro _; rfl
  | case2 mark rest known sign digits present =>
    intro short
    have some : 0 < digits.length :=
      List.length_pos_iff.2 fun nothing => present (by simp [nothing])
    simp only [List.cons_append, List.length_cons, List.length_append]
      at short
    omega
  | case3 => intro _; rfl
  | case4 => intro _; rfl

/-- The sign in front of the digits of an exponent whose mark has been
passed. -/
def exponentSign (source : List Char) : List Char :=
  (source.take 1).filter fun first => first = '+' || first = '-'

def exponentDigits (source : List Char) : List Char :=
  (source.drop (exponentSign source).length).takeWhile Text.isDigit

theorem exponent_cons
    {mark : Char} (known : mark = 'e' ∨ mark = 'E') (source : List Char) :
    exponent (mark :: source) =
      if exponentDigits source = [] then []
      else mark :: exponentSign source ++ exponentDigits source := by
  have given : (mark = 'e' || mark = 'E') = true := by simpa using known
  rw [exponent, if_pos given]
  by_cases missing : exponentDigits source = []
  · rw [if_pos missing]
    exact if_pos (List.isEmpty_iff.2 missing)
  · rw [if_neg missing]
    exact if_neg fun empty => missing (List.isEmpty_iff.1 empty)

/-- A sign does not count unless a digit follows it, so neither counts when
there is no room for both. -/
theorem exponent_of_length_le
    (short : (exponent (source ++ behind)).length ≤ source.length) :
    exponent (source ++ behind) = exponent source := by
  cases source with
  | nil => exact List.length_eq_zero_iff.1 (Nat.le_zero.1 short)
  | cons mark source =>
    by_cases known : mark = 'e' ∨ mark = 'E'
    · cases source with
      | nil =>
        have alone : exponent [mark] = [] := by simp [exponent]
        rw [alone, exponent_eq_nil_of_length_le short]
      | cons first source =>
        have sign : exponentSign (first :: source ++ behind) =
            exponentSign (first :: source) := rfl
        have room : (exponentSign (first :: source)).length ≤
            (first :: source).length :=
          Nat.le_trans (List.length_filter_le _ _)
            (List.length_take_le' _ _)
        have digits :
            (exponentDigits (first :: source ++ behind)).length ≤
                ((first :: source).drop
                  (exponentSign (first :: source)).length).length →
              exponentDigits (first :: source ++ behind) =
                exponentDigits (first :: source) := by
          rw [exponentDigits, exponentDigits, sign,
            List.drop_append_of_le_length room]
          exact takeWhile_of_length_le
        rw [List.length_drop] at digits
        rw [List.cons_append, exponent_cons known, sign] at short ⊢
        rw [exponent_cons known]
        by_cases missing : exponentDigits (first :: source ++ behind) = []
        · rw [missing] at digits ⊢
          rw [← digits (Nat.zero_le _)]
        · rw [if_neg missing] at short ⊢
          simp only [List.length_append, List.length_cons] at short room
          rw [digits (by simp only [List.length_cons]; omega)] at missing ⊢
          rw [if_neg missing]
    · simp [exponent, known]

/-- Behind a shorter decimal nothing is looked at. -/
theorem decimal_of_length_le
    (short : (numeral.decimal (source ++ behind)).2.length ≤ source.length) :
    numeral.decimal (source ++ behind) = numeral.decimal source := by
  simp only [numeral.decimal, List.length_append] at short
  have whole := @takeWhile_of_length_le source behind Text.isDigit (by omega)
  rw [whole] at short
  have digits := (List.takeWhile_prefix (l := source) Text.isDigit).length_le
  generalize numbered : source.takeWhile Text.isDigit = number at *
  rw [List.drop_append_of_le_length digits] at short
  have part := @fraction_of_length_le (source.drop number.length) behind
    (by rw [List.length_drop]; omega)
  rw [part] at short
  have both := (fraction_isPrefix (source.drop number.length)).length_le
  rw [List.length_drop] at both
  rw [List.drop_append_of_le_length (by omega)] at short
  have scaled := @exponent_of_length_le
    (source.drop (number.length +
      (fraction (source.drop number.length)).length)) behind
    (by rw [List.length_drop]; omega)
  simp only [numeral.decimal, whole, numbered,
    List.drop_append_of_le_length digits, part]
  rw [List.drop_append_of_le_length (by omega), scaled]

/-- Behind a shorter numeral nothing is looked at. -/
theorem numeral_of_length_le
    (short : (numeral (source ++ behind)).2.length ≤ source.length)
    (some : source ≠ []) :
    numeral (source ++ behind) = numeral source := by
  have decimal := @decimal_of_length_le source behind
  cases source with
  | nil => exact absurd rfl some
  | cons first source =>
    by_cases zero : first = '0'
    · subst zero
      cases source with
      | nil =>
        have unmarked : numeral (['0'] ++ behind) =
            numeral.decimal (['0'] ++ behind) := by
          cases behind with
          | nil => rfl
          | cons mark behind =>
            have other : ¬ (mark = 'x' ∨ mark = 'X') := by
              intro hex
              simp [numeral, hex] at short
            simp [numeral, other]
        rw [unmarked] at short ⊢
        exact decimal short
      | cons mark source =>
        by_cases hex : mark = 'x' ∨ mark = 'X'
        · have room : ((source ++ behind).takeWhile
              Text.isHexDigit).length ≤ source.length := by
            simpa [numeral, hex] using short
          simp [numeral, hex, takeWhile_of_length_le room]
        · simpa [numeral, hex] using
            decimal (by simpa [numeral, hex] using short)
    · simpa [numeral, zero] using decimal (by simpa [numeral, zero] using short)

/-- Behind a shorter number nothing is looked at. -/
theorem number_of_length_le
    (short : (number (source ++ behind)).text.length ≤ source.length)
    (some : source ≠ []) :
    number (source ++ behind) = (number source).followedBy behind := by
  simp only [number, List.length_append] at short
  have digits := numeral_of_length_le
    (Nat.le_trans (Nat.le_add_right _ _) short) some
  have room := (numeral_isPrefix source).length_le
  rw [digits, List.drop_append_of_le_length room] at short
  have left : ((source.drop (numeral source).2.length ++ behind).takeWhile
      Text.isNamePart).length ≤
        (source.drop (numeral source).2.length).length := by
    rw [List.length_drop]
    omega
  simp only [number, followedBy, digits, List.drop_append_of_le_length room,
    takeWhile_of_length_le left, dropWhile_of_length_le left]

/-- The symbols are tried one after the other.  One that is not found with
more text behind is not found without it. -/
theorem symbol?_of_length_le
    {found : Symbol} (isFound : symbol? (source ++ behind) = some found)
    (short : found.spelling.toList.length ≤ source.length) :
    symbol? source = some found := by
  unfold symbol? at isFound ⊢
  rw [List.find?_eq_some_iff_append] at isFound ⊢
  obtain ⟨starts, front, back, all, earlier⟩ := isFound
  refine ⟨?_, front, back, all, fun other member => ?_⟩
  · rw [List.isPrefixOf_iff_prefix] at starts ⊢
    exact List.prefix_of_prefix_length_le starts (List.prefix_append _ _) short
  · have fails := earlier other member
    simp only [Bool.not_eq_true', Bool.eq_false_iff, ne_eq,
      List.isPrefixOf_iff_prefix] at fails ⊢
    exact fun within => fails (within.trans (List.prefix_append _ _))

/-- Behind a shorter sign nothing is looked at. -/
theorem sign_of_length_le
    (short : (sign (source ++ behind)).text.length ≤ source.length)
    (some : source ≠ []) :
    sign (source ++ behind) = (sign source).followedBy behind := by
  cases isFound : symbol? (source ++ behind) with
  | none =>
    have alone : symbol? source = none := by
      unfold symbol? at isFound ⊢
      rw [List.find?_eq_none] at isFound ⊢
      intro other member starts
      refine isFound other member ?_
      rw [List.isPrefixOf_iff_prefix] at starts ⊢
      exact starts.trans (List.prefix_append _ _)
    cases source with
    | nil => exact absurd rfl some
    | cons first source =>
      simp only [sign, isFound, alone, followedBy]
      rfl
  | some found =>
    have room : found.spelling.toList.length ≤ source.length := by
      simpa [sign, isFound] using short
    have alone := symbol?_of_length_le isFound room
    simp only [sign, isFound, alone, followedBy,
      List.drop_append_of_le_length room]

/-- Behind a shorter lexeme nothing is looked at. -/
theorem read_of_length_le {first : Char} (plain : first ∉ [';', '\x7b', '"'])
    (short : (read (first :: source ++ behind)).text.length ≤
      (first :: source).length) :
    read (first :: source ++ behind) =
      (read (first :: source)).followedBy behind := by
  have some := List.cons_ne_nil first source
  rw [List.cons_append, read_cons_of_plain plain, ← List.cons_append]
    at short ⊢
  rw [read_cons_of_plain plain]
  by_cases digit : Text.isDigit first = true
  · rw [if_pos digit] at short ⊢
    rw [if_pos digit, number_of_length_le short some]
  · rw [if_neg digit] at short ⊢
    rw [if_neg digit]
    by_cases start : Text.isNameStart first = true
    · rw [if_pos start] at short ⊢
      rw [if_pos start, word_of_length_le short]
    · rw [if_neg start] at short ⊢
      rw [if_neg start, sign_of_length_le short some]

/-! ## Strings and comments -/

/-- A string that is closed ends there, whatever follows. -/
theorem quoted_of_closed
    (closed : (quoted inside).closed = true) (more : List Char) :
    quoted ((quoted inside).raw ++ '"' :: more) =
      { quoted inside with rest := more } := by
  fun_induction quoted inside with
  | case1 => cases closed
  | case2 rest => cases closed
  | case3 rest => rfl
  | case4 => cases closed
  | case5 below => cases closed
  | case6 letter after other inner meant known ih =>
    have further := ih closed
    simp [quoted, known, further, inner]
  | case7 letter after other inner unknown ih =>
    have further := ih closed
    simp [quoted, unknown, further, inner]
  | case8 letter rest feed quote backslash inner ih =>
    have further := ih closed
    simp [quoted, further, inner]

/-- A string that is left open ends in front of any line feed. -/
theorem quoted_of_open
    (unclosed : (quoted inside).closed = false) (more : List Char) :
    quoted ((quoted inside).raw ++ '\n' :: more) =
      { quoted inside with rest := '\n' :: more } := by
  fun_induction quoted inside with
  | case1 => rfl
  | case2 rest => rfl
  | case3 rest => cases unclosed
  | case4 => rfl
  | case5 below => rfl
  | case6 letter after other inner meant known ih =>
    have further := ih unclosed
    simp [quoted, known, further, inner]
  | case7 letter after other inner unknown ih =>
    have further := ih unclosed
    simp [quoted, unknown, further, inner]
  | case8 letter rest feed quote backslash inner ih =>
    have further := ih unclosed
    simp [quoted, further, inner]

theorem endsLine_of_open (unclosed : (quoted inside).closed = false) :
    Filler.EndsLine (quoted inside).rest := by
  fun_induction quoted inside with
  | case1 => exact .inl rfl
  | case2 rest => exact .inr ⟨rest, rfl⟩
  | case3 rest => cases unclosed
  | case4 => exact .inl rfl
  | case5 below => exact .inr ⟨below, rfl⟩
  | case6 letter after other inner meant known ih =>
    exact ih unclosed
  | case7 letter after other inner unknown ih =>
    exact ih unclosed
  | case8 letter rest feed quote backslash inner ih =>
    exact ih unclosed

theorem docComment_cons
    {body : List Char} (inside : ∀ letter ∈ body, isInDoc letter = true)
    {close : Char} (stops : isInDoc close = false) (more : List Char) :
    docComment (body ++ close :: more) =
      ⟨.docComment, Text.trim body, '\x7b' :: body ++ [close], more⟩ := by
  simp [docComment, List.takeWhile_append_of_pos inside,
    List.dropWhile_append_of_pos inside, stops]

/-! ## All lexemes -/

section

variable {inside ahead following : List Char}

/-- What is put behind the gap of a lexeme does not change the lexeme. -/
theorem read_insert_plain
    {first letter : Char} (plain : first ∉ [';', '\x7b', '"'])
    (left : (read (first :: source)).rest = ahead ++ following)
    (apart : separates letter = true) (more : List Char) :
    read ((read (first :: source)).text ++ (ahead ++ letter :: more)) =
      { read (first :: source) with rest := ahead ++ letter :: more } := by
  have inside : (read (first :: source)).kind ≠ .endOfText :=
    fun ended => List.cons_ne_nil _ _ (eq_nil_of_kind_read ended)
  have parts := read_append (first :: source)
  rw [left, ← List.append_assoc] at parts
  cases shape : (read (first :: source)).text with
  | nil => exact absurd shape (text_ne_nil_of_read inside)
  | cons start others =>
    rw [shape, List.cons_append, List.cons_append, List.cons.injEq] at parts
    obtain ⟨rfl, rfl⟩ := parts
    have room : (read (start :: (others ++ ahead) ++ following)).text.length
        ≤ (start :: (others ++ ahead)).length := by
      rw [List.cons_append, shape, List.length_cons, List.length_cons,
        List.length_append]
      omega
    have front := read_of_length_le plain room
    rw [List.cons_append] at front
    rw [front] at left shape ⊢
    have same : (read (start :: (others ++ ahead))).rest = ahead :=
      List.append_cancel_right left
    rw [List.cons_append, ← List.append_assoc, ← List.cons_append,
      read_followedBy plain apart]
    simp [followedBy, same]

/-- What is put behind the gap of a string does not change the string. -/
theorem string_insert (left : (string inside).rest = ahead ++ following)
    (visible : ¬ Filler.EndsLine following) (more : List Char) :
    read ((string inside).text ++ (ahead ++ more)) =
      { string inside with rest := ahead ++ more } := by
  cases closed : (quoted inside).closed with
  | true =>
    have whole := quoted_of_closed closed (ahead ++ more)
    cases sound : (quoted inside).sound <;>
      simp [string, closed, sound, read, whole]
  | false =>
    have ends := endsLine_of_open closed
    have same : (string inside).rest = (quoted inside).rest := by
      simp [string, closed]
    rw [← same, left] at ends
    cases ahead with
    | nil => exact absurd ends visible
    | cons feed ahead =>
      obtain rfl : feed = '\n' := by
        rcases ends with nothing | ⟨below, starts⟩
        · simp at nothing
        · simpa using (List.cons.inj starts).1.symm
      have whole := quoted_of_open closed (ahead ++ more)
      simp [string, closed, read, whole]

/-- Another text may follow a documentation comment that is closed. -/
theorem docComment_insert
    (further : (docComment inside).rest ≠ []) (more : List Char) :
    read ((docComment inside).text ++ more) =
      { docComment inside with rest := more } := by
  have parts := List.takeWhile_append_dropWhile (p := isInDoc) (l := inside)
  have inDoc : ∀ letter ∈ inside.takeWhile isInDoc, isInDoc letter = true :=
    fun _ member => List.mem_takeWhile_imp member
  cases shape : inside.dropWhile isInDoc with
  | nil => exact absurd (rest_docComment_of_open shape) further
  | cons close rest =>
    have stops : isInDoc close = false := by
      have some : inside.dropWhile isInDoc ≠ [] := by simp [shape]
      simpa [shape] using List.head_dropWhile_not isInDoc some
    rw [shape] at parts
    rw [← parts, docComment_cons inDoc stops]
    have again := docComment_cons inDoc stops more
    simpa [read] using again

end

/-- A lexeme is the same when something is put behind it or anywhere further
back, provided that it starts with a separator there. -/
theorem read_insert {source ahead following : List Char} {letter : Char}
    (left : (read source).rest = ahead ++ following)
    (visible : ¬ Filler.EndsLine following)
    (apart : separates letter = true) (more : List Char) :
    read ((read source).text ++ (ahead ++ letter :: more)) =
      { read source with rest := ahead ++ letter :: more } := by
  have some : following ≠ [] := fun nothing => visible (.inl nothing)
  have further : (read source).rest ≠ [] := by simp [left, some]
  cases source with
  | nil => exact absurd rfl further
  | cons first source =>
    by_cases plain : first ∉ [';', '\x7b', '"']
    · exact read_insert_plain plain left apart more
    · simp only [List.mem_cons, List.not_mem_nil, or_false,
        Decidable.not_not] at plain
      rcases plain with rfl | rfl | rfl
      · exact absurd rfl further
      · exact docComment_insert further _
      · exact string_insert left visible _

end Lexeme

/-! ## Filler that keeps the line -/

namespace Filler

variable {source following other : List Char} {pieces : List Filler}

/-! ## What stands behind whole filler -/

theorem not_endsLine_of_read?
    (visible : read? following = none) (some : following ≠ []) :
    ¬ EndsLine following := by
  rintro (nothing | ⟨below, rfl⟩)
  · exact some nothing
  · cases visible

theorem endsLine_append
    {ahead : List Char} (ends : EndsLine (ahead ++ following))
    (visible : ¬ EndsLine following) (other : List Char) :
    EndsLine (ahead ++ other) := by
  cases ahead with
  | nil => exact absurd ends visible
  | cons letter ahead =>
    rcases ends with nothing | ⟨below, starts⟩
    · simp at nothing
    · obtain rfl := (List.cons.inj starts).1
      exact .inr ⟨ahead ++ other, rfl⟩

/-- Filler that is whole in front of a lexeme is so in front of anything. -/
theorem AreWhole.change
    (whole : AreWhole following pieces) (visible : ¬ EndsLine following)
    (other : List Char) : AreWhole other pieces := by
  induction pieces with
  | nil => trivial
  | cons piece pieces ih =>
    obtain ⟨first, others⟩ := whole
    refine ⟨?_, ih others⟩
    cases piece with
    | blank letter => exact first
    | lineFeed => trivial
    | lineComment text =>
      exact ⟨first.1, endsLine_append first.2 visible other⟩
    | blockComment text => exact first
    | continuation text =>
      obtain ⟨blanks, comment, ending, shape, blank, isComment, ends⟩ := first
      refine ⟨blanks, comment, ending, shape, blank, isComment, .inl ?_⟩
      rcases ends with feed | ⟨_, nothing⟩
      · exact feed
      · exact absurd (.inl (List.append_eq_nil_iff.1 nothing).2) visible

/-- Whole filler in front of what is no filler is all the filler there is. -/
theorem readAll_of_visible
    (whole : AreWhole following pieces) (named : pieces.map asRead = pieces)
    (visible : read? following = none) :
    readAll (allText pieces ++ following) = (pieces, following) := by
  rw [readAll_of_areWhole whole, readAll_of_read?_eq_none visible, named,
    List.append_nil]

/-! ## What a backslash sees -/

/-- Whether behind trailing blanks a line ends or a line comment starts. -/
def endsLine : List Filler → Bool
  | .blank letter :: rest => isTrailingBlank letter && endsLine rest
  | .lineFeed :: _ => true
  | .lineComment _ :: _ => true
  | _ => false

theorem endsLine_append_of_not
    (keeps : endsLine pieces = false) (front : List Filler) :
    endsLine (front ++ pieces) = endsLine front := by
  induction front with
  | nil => exact keeps
  | cons piece front ih =>
    cases piece with
    | blank letter =>
      rw [List.cons_append, endsLine, endsLine, ih]
    | _ => rfl

theorem isBlank_of_isTrailingBlank
    {letter : Char} (blank : isTrailingBlank letter = true) :
    Text.isBlank letter = true := by
  simp only [isTrailingBlank, Bool.or_eq_true, decide_eq_true_eq] at blank
  rcases blank with (rfl | rfl) | rfl <;> decide

theorem not_isTrailingBlank_of_read? {letter : Char} {rest : List Char}
    (visible : read? (letter :: rest) = none) :
    isTrailingBlank letter = false := by
  refine Bool.eq_false_iff.2 fun blank => ?_
  rw [read?_blank (isBlank_of_isTrailingBlank blank)] at visible
  cases visible

/-- A backslash looks through trailing blanks at the next character, and
filler in front of a lexeme tells which character that is. -/
theorem continuation?_blanks_eq_none_iff {blanks : List Char}
    (blank : ∀ letter ∈ blanks, isTrailingBlank letter = true)
    (whole : AreWhole following pieces) (named : pieces.map asRead = pieces)
    (visible : read? following = none) (some : following ≠ []) :
    continuation? (blanks ++ (allText pieces ++ following)) = none ↔
      endsLine pieces = false := by
  induction pieces generalizing blanks with
  | nil =>
    cases following with
    | nil => exact absurd rfl some
    | cons letter rest =>
      have stops := not_isTrailingBlank_of_read? visible
      refine iff_of_true ?_ rfl
      refine (continuation?_eq_none_iff blank stops rest).2 ⟨?_, ?_⟩
      · rintro rfl
        cases visible
      · rintro rfl
        by_contra other
        rw [read?] at visible
        · cases visible
        · rintro more rfl
          exact other ⟨more, rfl⟩
  | cons piece pieces ih =>
    obtain ⟨first, others⟩ := whole
    rw [List.map_cons, List.cons.injEq] at named
    rw [allText_cons, List.append_assoc]
    cases piece with
    | blank letter =>
      by_cases trailing : isTrailingBlank letter = true
      · have further := @ih (blanks ++ [letter])
          (by simpa [or_imp, forall_and, trailing] using blank)
          others named.2
        rw [List.append_assoc] at further
        simpa [endsLine, trailing, text] using further
      · have inLine : letter ≠ '\n' := by
          rintro rfl
          cases named.1
        have other : letter ≠ ';' := by
          rintro rfl
          exact absurd (show Text.isBlank ';' = true from first)
            (by decide)
        have stops := Bool.eq_false_iff.2 trailing
        refine iff_of_true ?_ (by simp [endsLine, stops])
        exact (continuation?_eq_none_iff blank stops _).2
          ⟨inLine, fun same => absurd same other⟩
    | lineFeed =>
      have stops : isTrailingBlank '\n' = false := by decide
      have feed := continuation?_eq_none_iff blank stops
        (allText pieces ++ following)
      simpa [endsLine] using feed
    | lineComment text =>
      obtain ⟨⟨body, rfl, slash, _⟩, ends⟩ := first
      have stops : isTrailingBlank ';' = false := by decide
      have comment := continuation?_eq_none_iff blank stops
        (body ++ (allText pieces ++ following))
      have line : ¬ ['/'] <+: body ++ (allText pieces ++ following) := by
        rintro ⟨more, starts⟩
        exact not_slash_of_endsLine slash ends more starts.symm
      refine iff_of_false (fun nothing => line ?_) (by simp [endsLine])
      exact (comment.1 nothing).2 rfl
    | blockComment text =>
      obtain ⟨body, rfl, _⟩ := first
      have stops : isTrailingBlank ';' = false := by decide
      refine iff_of_true ?_ rfl
      exact (continuation?_eq_none_iff blank stops _).2
        ⟨by decide, fun _ => ⟨_, rfl⟩⟩
    | continuation text =>
      obtain ⟨more, comment, ending, rfl, _⟩ := first
      have stops : isTrailingBlank '\\' = false := by decide
      refine iff_of_true ?_ rfl
      exact (continuation?_eq_none_iff blank stops _).2
        ⟨by decide, fun same => absurd same (by decide)⟩

/-- Whether a backslash continues its line shows in the gap behind it. -/
theorem continuation?_eq_none_iff_endsLine (some : (readAll source).2 ≠ []) :
    continuation? source = none ↔ endsLine (readAll source).1 = false := by
  have gap := @continuation?_blanks_eq_none_iff (readAll source).2
    (readAll source).1 [] (List.forall_mem_nil _) (areWhole_readAll source)
    (map_asRead_readAll source) (read?_readAll source) some
  rwa [List.nil_append, readAll_append] at gap

/-! ## Filler that can be put in front of a lexeme -/

def KeepsLine : Filler → Prop
  | .blank letter => letter = ' ' ∨ letter = '\t'
  | .blockComment text => IsBlockComment text
  | .continuation text =>
    ∃ blanks comment,
      text = ['\\'] ++ blanks ++ comment ++ ['\n'] ∧
        (∀ letter ∈ blanks, isTrailingBlank letter = true) ∧
        (comment = [] ∨ IsLineComment comment)
  | _ => False

namespace KeepsLine

variable {piece : Filler}

theorem isWhole (keeps : piece.KeepsLine) (following : List Char) :
    piece.IsWhole following := by
  cases piece with
  | blank letter =>
    have blank : Text.isBlank letter = true := by
      rcases keeps with rfl | rfl <;> decide
    exact blank
  | lineFeed => trivial
  | lineComment text => exact keeps.elim
  | blockComment text => exact keeps
  | continuation text =>
    obtain ⟨blanks, comment, shape, blank, isComment⟩ := keeps
    exact ⟨blanks, comment, ['\n'], shape, blank, isComment, .inl rfl⟩

theorem asRead_eq (keeps : piece.KeepsLine) : piece.asRead = piece := by
  cases piece with
  | blank letter => rcases keeps with rfl | rfl <;> rfl
  | _ => rfl

theorem ne_lineFeed (keeps : piece.KeepsLine) : piece ≠ .lineFeed := by
  rintro rfl
  exact keeps

/-- Filler that keeps the line starts with a character that no lexeme goes on
with. -/
theorem exists_separator (keeps : piece.KeepsLine) :
    ∃ letter more,
      piece.text = letter :: more ∧ Lexeme.separates letter = true := by
  cases piece with
  | blank letter =>
    exact ⟨letter, [], rfl, by rcases keeps with rfl | rfl <;> decide⟩
  | lineFeed => exact keeps.elim
  | lineComment text => exact keeps.elim
  | blockComment text =>
    obtain ⟨body, rfl, _⟩ := keeps
    exact ⟨';', _, rfl, by decide⟩
  | continuation text =>
    obtain ⟨blanks, comment, rfl, _⟩ := keeps
    exact ⟨'\\', _, rfl, by decide⟩

end KeepsLine

section

variable (keeps : ∀ piece ∈ pieces, piece.KeepsLine)
include keeps

theorem areWhole_of_keepsLine (following : List Char) :
    AreWhole following pieces := by
  induction pieces with
  | nil => trivial
  | cons piece pieces ih =>
    rw [List.forall_mem_cons] at keeps
    exact ⟨keeps.1.isWhole _, ih keeps.2⟩

theorem map_asRead_of_keepsLine : pieces.map asRead = pieces := by
  have same : pieces.map asRead = pieces.map id :=
    List.map_congr_left fun piece member => (keeps piece member).asRead_eq
  rw [same, List.map_id]

theorem endsLine_of_keepsLine : endsLine pieces = false := by
  induction pieces with
  | nil => rfl
  | cons piece pieces ih =>
    rw [List.forall_mem_cons] at keeps
    cases piece with
    | blank letter => simp [endsLine, ih keeps.2]
    | lineFeed => exact keeps.1.elim
    | lineComment text => exact keeps.1.elim
    | _ => rfl

/-- Filler that is read as it stands in front of any lexeme, and that no lexeme
goes on with. -/
structure SetsApart (pieces : List Filler) : Prop where
  whole : ∀ following, AreWhole following pieces
  named : pieces.map asRead = pieces
  separates : ∃ letter more,
    allText pieces = letter :: more ∧ Lexeme.separates letter = true

theorem setsApart_of_keepsLine (some : pieces ≠ []) : SetsApart pieces where
  whole := areWhole_of_keepsLine keeps
  named := map_asRead_of_keepsLine keeps
  separates := by
    cases pieces with
    | nil => exact absurd rfl some
    | cons piece pieces =>
      obtain ⟨letter, more, text, separates⟩ :=
        (keeps piece List.mem_cons_self).exists_separator
      exact ⟨letter, _, by rw [allText_cons, text]; rfl, separates⟩

end

theorem setsApart_lineFeed : SetsApart [.lineFeed] where
  whole _ := ⟨trivial, trivial⟩
  named := rfl
  separates := ⟨'\n', [], rfl, by decide⟩

/-- Put in front of a lexeme, filler that sets it apart is read behind the
filler that is there already. -/
theorem readAll_insert
    (apart : SetsApart pieces) (some : (readAll source).2 ≠ []) :
    readAll (allText (readAll source).1 ++
        (allText pieces ++ (readAll source).2)) =
      ((readAll source).1 ++ pieces, (readAll source).2) := by
  have visible := read?_readAll source
  have gap := (areWhole_readAll source).change
    (not_endsLine_of_read? visible some)
  rw [← List.append_assoc, ← allText_append]
  refine readAll_of_visible ?_ ?_ visible
  · exact (areWhole_append _ _ _).2 ⟨gap _, apart.whole _⟩
  · rw [List.map_append, map_asRead_readAll, apart.named]

/-- Filler in front of a lexeme is the same when the text changes behind the
first character of the lexeme, unless that is a backslash. -/
theorem readAll_change {first : Char} {rest : List Char}
    (visible : (readAll source).2 = first :: rest) (comment : first ≠ ';')
    {others : List Char}
    (backslash : first = '\\' → continuation? rest = none →
      continuation? others = none) :
    readAll (allText (readAll source).1 ++ first :: others) =
      ((readAll source).1, first :: others) := by
  have whole := areWhole_readAll source
  have stops := read?_readAll source
  rw [visible] at whole stops
  have gap := whole.change
    (not_endsLine_of_read? stops (List.cons_ne_nil _ _)) (first :: others)
  refine readAll_of_visible gap (map_asRead_readAll source) ?_
  by_cases slash : first = '\\'
  · subst slash
    rw [read?, Option.map_eq_none_iff] at stops ⊢
    exact backslash rfl stops
  · have feed : first ≠ '\n' := by
      rintro rfl
      cases stops
    simpa [read?, feed, comment, slash] using stops

end Filler

end PapyrusScript
