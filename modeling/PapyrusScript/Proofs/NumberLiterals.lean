import Mathlib.Data.Int.ModEq
import Mathlib.Data.Nat.Digits.Lemmas
import PapyrusScript.Proofs.Lexemes
import PapyrusScript.Proofs.Proper.Builds
import PapyrusScript.Proofs.Relexing

/-!
# The words and values of numeric literals

An integer is a row of digits, or a zero, the hexadecimal mark and a row of
hexadecimal digits.  A float is a row of digits with a point and places behind
it, an exponent, or both.  A digit that starts a token starts one of these
words, or the token is malformed.  No token of a number stops in front of a
character that a name goes on with.

A row of digits denotes a number in its base.  A decimal integer has this
number as its value, or the negative number behind a minus, if it is a word of
thirty-two bits.  A hexadecimal integer has thirty-two bits, and its value is
congruent to the number.  Every other integer is out of range.  A float has a
value unless it is out of range, because each of its words is a decimal.
-/

namespace PapyrusScript

/-- A row of decimal digits, at least one. -/
def IsDecimal (text : List Char) : Prop :=
  text ≠ [] ∧ ∀ letter ∈ text, Text.isDigit letter = true

/-- A zero, the hexadecimal mark and a row of digits, at least one. -/
inductive IsHexadecimal : List Char → Prop where
  | marked {mark : Char} {digits : List Char}
      (known : mark = 'x' ∨ mark = 'X') (present : digits ≠ [])
      (all : ∀ letter ∈ digits, Text.isHexDigit letter = true) :
      IsHexadecimal ('0' :: mark :: digits)

/-- The mark of an exponent, a sign or none, and a row of digits. -/
inductive IsExponent : List Char → Prop where
  | marked {mark : Char} {sign digits : List Char}
      (known : mark = 'e' ∨ mark = 'E') (signed : sign ∈ [[], ['+'], ['-']])
      (isDecimal : IsDecimal digits) :
      IsExponent (mark :: (sign ++ digits))

/-- A row of digits with a fraction, an exponent, or both. -/
inductive IsFloat : List Char → Prop where
  | pointed {whole places scaled : List Char}
      (isWhole : IsDecimal whole) (isPlaces : IsDecimal places)
      (isScaled : scaled = [] ∨ IsExponent scaled) :
      IsFloat (whole ++ ('.' :: places) ++ scaled)
  | scaled {whole scaled : List Char}
      (isWhole : IsDecimal whole) (isScaled : IsExponent scaled) :
      IsFloat (whole ++ scaled)

/-- Whether a name or a number ends in front of a text. -/
def EndsWord (rest : List Char) : Prop :=
  ∀ next ∈ rest.head?, Text.isNamePart next = false

namespace EndsWord

variable {rest : List Char} (ends : EndsWord rest)
include ends

/-- A test that only characters of names pass fails behind a word. -/
theorem fails {test : Char → Bool}
    (isPart : ∀ {letter}, test letter = true → Text.isNamePart letter = true) :
    ∀ next ∈ rest.head?, test next = false := by
  intro next first
  refine Bool.eq_false_iff.2 fun holds => ?_
  have outside := ends next first
  rw [isPart holds] at outside
  cases outside

theorem not_isDigit : ∀ next ∈ rest.head?, Text.isDigit next = false :=
  ends.fails Lexeme.isNamePart_of_isDigit

theorem not_isHexDigit : ∀ next ∈ rest.head?, Text.isHexDigit next = false :=
  ends.fails Lexeme.isNamePart_of_isHexDigit

/-- Behind the end of a word stands neither a digit nor the hexadecimal mark.
-/
theorem head :
    ∀ next ∈ rest.head?,
      Text.isDigit next = false ∧ ¬ (next = 'x' ∨ next = 'X') := by
  intro next first
  refine ⟨ends.not_isDigit next first, ?_⟩
  rintro (rfl | rfl) <;> cases ends _ first

theorem takeWhile_isNamePart : rest.takeWhile Text.isNamePart = [] :=
  @Lexeme.takeWhile_append_of_stops _ [] rest nofun ends

end EndsWord

namespace Lexeme

variable {digit : Char} {source : List Char}

/-! ## Digits -/

theorem ne_of_isDigit {digit other : Char} (isDigit : Text.isDigit digit = true)
    (isOther : Text.isDigit other = false) : digit ≠ other := by
  rintro rfl
  rw [isOther] at isDigit
  cases isDigit

theorem isBlank_of_isDigit (isDigit : Text.isDigit digit = true) :
    Text.isBlank digit = false := by
  simp only [Text.isDigit, Bool.and_eq_true, decide_eq_true_eq, Char.le_def,
    UInt32.le_iff_toNat_le] at isDigit
  have above : 48 ≤ digit.toNat := isDigit.1
  have below : digit.toNat ≤ 57 := isDigit.2
  simp only [Text.isBlank, Text.blankRanges, List.any_cons, List.any_nil,
    Bool.or_false, Bool.or_eq_false_iff, Bool.and_eq_false_iff,
    decide_eq_false_iff_not]
  omega

theorem read?_digit (isDigit : Text.isDigit digit = true) (rest : List Char) :
    Filler.read? (digit :: rest) = none := by
  have feed : digit ≠ '\n' := ne_of_isDigit isDigit rfl
  have comment : digit ≠ ';' := ne_of_isDigit isDigit rfl
  have backslash : digit ≠ '\\' := ne_of_isDigit isDigit rfl
  simp [Filler.read?, comment, isBlank_of_isDigit isDigit]

theorem read_digit (isDigit : Text.isDigit digit = true) (rest : List Char) :
    read (digit :: rest) = number (digit :: rest) := by
  have comment : digit ≠ ';' := ne_of_isDigit isDigit rfl
  have brace : digit ≠ '\x7b' := ne_of_isDigit isDigit rfl
  have quote : digit ≠ '"' := ne_of_isDigit isDigit rfl
  rw [read_cons_of_plain (by simp [comment, brace, quote]), if_pos isDigit]

/-! ## What is read of a number -/

theorem isDecimal_takeWhile (present : source.takeWhile Text.isDigit ≠ []) :
    IsDecimal (source.takeWhile Text.isDigit) :=
  ⟨present, fun _ member => List.mem_takeWhile_imp member⟩

/-- What is read as an exponent is none or a whole one. -/
theorem exponent_cases (source : List Char) :
    exponent source = [] ∨ IsExponent (exponent source) := by
  fun_cases exponent source with
  | case1 mark rest known sign digits missing => exact .inl rfl
  | case2 mark rest known sign digits present =>
    have signed : sign ∈ [[], ['+'], ['-']] := by
      cases rest with
      | nil => simp [sign]
      | cons first rest =>
        by_cases plus : first = '+'
        · simp [sign, plus]
        · by_cases minus : first = '-'
          · simp [sign, minus]
          · simp [sign, plus, minus]
    refine .inr (.marked (by simpa using known) signed ?_)
    exact isDecimal_takeWhile (by simpa [digits] using present)
  | case3 => exact .inl rfl
  | case4 => exact .inl rfl

theorem fraction_cases (source : List Char) :
    fraction source = [] ∨ fraction source = ['.'] ∨
      ∃ places, IsDecimal places ∧ fraction source = '.' :: places := by
  fun_cases fraction source with
  | case1 rest =>
    by_cases missing : rest.takeWhile Text.isDigit = []
    · exact .inr (.inl (by rw [missing]))
    · exact .inr (.inr ⟨_, isDecimal_takeWhile missing, rfl⟩)
  | case2 => exact .inl rfl

/-- A number with a decimal digit in front is of the kind that is read. -/
theorem decimal_sound (present : source.takeWhile Text.isDigit ≠ []) :
    ((numeral.decimal source).1 = .intLiteral →
        IsDecimal (numeral.decimal source).2) ∧
      ((numeral.decimal source).1 = .floatLiteral →
        IsFloat (numeral.decimal source).2) := by
  have isWhole := isDecimal_takeWhile present
  unfold numeral.decimal
  dsimp only
  generalize source.takeWhile Text.isDigit = whole at isWhole ⊢
  rcases fraction_cases (source.drop whole.length) with
    nothing | point | ⟨places, isPlaces, pointed⟩
  · rw [nothing]
    rcases exponent_cases (source.drop (whole.length + ([] : List Char).length))
      with unscaled | isScaled
    · rw [unscaled]
      simpa using isWhole
    · generalize exponent (source.drop _) = scaled at isScaled ⊢
      have marked : scaled ≠ [] := by
        cases isScaled
        exact List.cons_ne_nil _ _
      simpa [marked] using IsFloat.scaled isWhole isScaled
  · rw [point]
    simp
  · rw [pointed]
    have float := IsFloat.pointed isWhole isPlaces (exponent_cases
      (source.drop (whole.length + ('.' :: places).length)))
    have isPoint : '.' :: places ≠ ['.'] := by
      simpa using isPlaces.1
    simpa [isPlaces.1] using float

/-- What is read of a number is of the kind that is read. -/
theorem numeral_sound (isDigit : Text.isDigit digit = true) (rest : List Char) :
    ((numeral (digit :: rest)).1 = .intLiteral →
        IsDecimal (numeral (digit :: rest)).2 ∨
          IsHexadecimal (numeral (digit :: rest)).2) ∧
      ((numeral (digit :: rest)).1 = .floatLiteral →
        IsFloat (numeral (digit :: rest)).2) := by
  have present : (digit :: rest).takeWhile Text.isDigit ≠ [] := by
    simp [isDigit]
  by_cases marked : ∃ mark behind, digit :: rest = '0' :: mark :: behind ∧
      (mark = 'x' ∨ mark = 'X')
  · obtain ⟨mark, behind, shape, known⟩ := marked
    rw [shape]
    by_cases missing : behind.takeWhile Text.isHexDigit = []
    · simp [numeral, known, missing]
    · have hexadecimal : IsHexadecimal
          ('0' :: mark :: behind.takeWhile Text.isHexDigit) :=
        .marked known missing fun _ member => List.mem_takeWhile_imp member
      simp [numeral, known, missing, hexadecimal]
  · have unmarked (mark : Char) (behind : List Char)
        (shape : digit :: rest = '0' :: mark :: behind) :
        ¬ (mark = 'x' ∨ mark = 'X') :=
      fun known => marked ⟨mark, behind, shape, known⟩
    rw [numeral_of_unmarked unmarked]
    obtain ⟨integer, float⟩ := decimal_sound present
    exact ⟨fun kind => .inl (integer kind), float⟩

theorem number_eq_numeral {kind : Kind} (read : (number source).kind = kind)
    (valid : kind ≠ .invalid .malformedNumber) :
    (numeral source).1 = kind ∧ (number source).text = (numeral source).2 := by
  subst read
  by_cases apart : (source.drop (numeral source).2.length).takeWhile
      Text.isNamePart = []
  · simp [number, apart]
  · simp [number, apart] at valid

/-- No number stops in front of a character that a name goes on with. -/
theorem endsWord_rest_number (source : List Char) :
    EndsWord (number source).rest := by
  intro next first
  simp only [number] at first
  generalize source.drop _ = after at first
  have stops := List.head?_dropWhile_not Text.isNamePart after
  rw [first] at stops
  simpa using stops

/-! ## What is read as a number -/

section Complete

variable {whole places scaled digits rest back : List Char}
variable {word : List Char}

/-- A whole exponent is read as such in front of anything but a digit. -/
theorem exponent_append (isScaled : IsExponent scaled)
    (stops : ∀ next ∈ back.head?, Text.isDigit next = false) :
    exponent (scaled ++ back) = scaled := by
  cases isScaled with
  | @marked mark sign digits known signed isDecimal =>
    have whole := takeWhile_append_of_stops isDecimal.2 stops
    have taken : ((sign ++ (digits ++ back)).take 1).filter
        (fun first => first = '+' || first = '-') = sign := by
      simp only [List.mem_cons, List.not_mem_nil, or_false] at signed
      rcases signed with rfl | rfl | rfl
      · cases digits with
        | nil => exact absurd rfl isDecimal.1
        | cons first digits =>
          have digit := isDecimal.2 first List.mem_cons_self
          have plus : first ≠ '+' := ne_of_isDigit digit rfl
          have minus : first ≠ '-' := ne_of_isDigit digit rfl
          simp [plus, minus]
      · rfl
      · rfl
    simp [exponent, known, taken, whole, isDecimal.1]

theorem exponent_eq_nil (ends : EndsWord rest) : exponent rest = [] := by
  cases rest with
  | nil => rfl
  | cons next rest =>
    have outside := ends next rfl
    have lower : next ≠ 'e' := by
      rintro rfl
      cases outside
    have upper : next ≠ 'E' := by
      rintro rfl
      cases outside
    simp [exponent, lower, upper]

theorem fraction_append (isPlaces : IsDecimal places)
    (stops : ∀ next ∈ back.head?, Text.isDigit next = false) :
    fraction (('.' :: places) ++ back) = '.' :: places := by
  rw [List.cons_append, fraction, takeWhile_append_of_stops isPlaces.2 stops]

theorem fraction_eq_nil (inLine : back.head? ≠ some '.') :
    fraction back = [] := by
  cases back with
  | nil => rfl
  | cons next back =>
    have other : next ≠ '.' := by
      rintro rfl
      exact inLine rfl
    simp [fraction, other]

/-- An exponent or a word's end stands behind no digit and is no mark. -/
theorem head_scaled
    (isScaled : scaled = [] ∨ IsExponent scaled) (ends : EndsWord rest) :
    ∀ next ∈ (scaled ++ rest).head?,
      Text.isDigit next = false ∧ ¬ (next = 'x' ∨ next = 'X') := by
  intro next first
  rcases isScaled with rfl | isScaled
  · exact ends.head next first
  · obtain ⟨known, _, _⟩ := isScaled
    obtain rfl : _ = next := Option.some.inj first
    rcases known with rfl | rfl <;> decide

theorem exponent_scaled
    (isScaled : scaled = [] ∨ IsExponent scaled) (ends : EndsWord rest) :
    exponent (scaled ++ rest) = scaled := by
  rcases isScaled with rfl | isScaled
  · exact exponent_eq_nil ends
  · exact exponent_append isScaled ends.not_isDigit

/-- What is read of a row of digits and what stands behind it. -/
theorem numeral_decimal_append (isWhole : IsDecimal whole)
    (stops : ∀ next ∈ back.head?,
      Text.isDigit next = false ∧ ¬ (next = 'x' ∨ next = 'X')) :
    numeral (whole ++ back) =
      (if fraction back = ['.'] then .invalid .malformedNumber
        else if (fraction back).isEmpty &&
          (exponent (back.drop (fraction back).length)).isEmpty then .intLiteral
        else .floatLiteral,
        whole ++ fraction back ++
          exponent (back.drop (fraction back).length)) := by
  have digits := takeWhile_append_of_stops isWhole.2
    fun next first => (stops next first).1
  rw [numeral_of_unmarked]
  · simp only [numeral.decimal, digits, ← List.drop_drop, List.drop_left]
  · intro mark rest shape
    rcases whole with _ | ⟨first, _ | ⟨second, whole⟩⟩
    · exact absurd rfl isWhole.1
    · obtain rfl : back = mark :: rest := (List.cons.inj shape).2
      exact (stops mark rfl).2
    · obtain rfl : second = mark :=
        (List.cons.inj (List.cons.inj shape).2).1
      have digit := isWhole.2 second (by simp)
      rintro (rfl | rfl) <;> cases digit

/-- A number in front of the end of a word is read by itself. -/
theorem number_of_numeral
    {kind : Kind} (read : numeral (word ++ rest) = (kind, word))
    (ends : EndsWord rest) :
    number (word ++ rest) = ⟨kind, word, word, rest⟩ := by
  have nothing := ends.takeWhile_isNamePart
  have whole := List.takeWhile_append_dropWhile (p := Text.isNamePart) (l := rest)
  rw [nothing, List.nil_append] at whole
  simp [number, read, nothing, whole]

theorem number_decimal (isDecimal : IsDecimal digits) (ends : EndsWord rest)
    (pointless : rest.head? ≠ some '.') :
    number (digits ++ rest) = ⟨.intLiteral, digits, digits, rest⟩ := by
  refine number_of_numeral ?_ ends
  rw [numeral_decimal_append isDecimal ends.head, fraction_eq_nil pointless]
  simp [exponent_eq_nil ends]

theorem number_hexadecimal
    (isHexadecimal : IsHexadecimal word) (ends : EndsWord rest) :
    number (word ++ rest) = ⟨.intLiteral, word, word, rest⟩ := by
  refine number_of_numeral ?_ ends
  obtain ⟨known, present, all⟩ := isHexadecimal
  have whole := takeWhile_append_of_stops all ends.not_isHexDigit
  simp [numeral, known, whole, present]

/-- A float is read as such in front of the end of its word. -/
theorem number_float (isFloat : IsFloat word) (ends : EndsWord rest) :
    number (word ++ rest) = ⟨.floatLiteral, word, word, rest⟩ := by
  refine number_of_numeral ?_ ends
  cases isFloat with
  | @pointed whole places scaled isWhole isPlaces isScaled =>
    have behind := head_scaled isScaled ends
    have part := fraction_append isPlaces
      fun next first => (behind next first).1
    have point : ∀ next ∈ (('.' :: places) ++ (scaled ++ rest)).head?,
        Text.isDigit next = false ∧ ¬ (next = 'x' ∨ next = 'X') := by
      intro next first
      obtain rfl : '.' = next := Option.some.inj first
      decide
    rw [List.append_assoc, List.append_assoc,
      numeral_decimal_append isWhole point, part, List.drop_left,
      exponent_scaled isScaled ends]
    simp [isPlaces.1]
  | @scaled whole scaled isWhole isScaled =>
    have behind := head_scaled (.inr isScaled) ends
    have marked : scaled ≠ [] := by
      cases isScaled
      exact List.cons_ne_nil _ _
    have pointless : (scaled ++ rest).head? ≠ some '.' := by
      obtain ⟨known, _, _⟩ := isScaled
      rcases known with rfl | rfl <;> simp
    rw [List.append_assoc, numeral_decimal_append isWhole behind,
      fraction_eq_nil pointless]
    simp [exponent_scaled (.inr isScaled) ends, marked]

/-- A row of digits is no number of its own in front of a point. -/
theorem text_number_ne_of_point (isDecimal : IsDecimal digits) :
    (number (digits ++ '.' :: rest)).text ≠ digits := by
  intro same
  have point : ∀ next ∈ ('.' :: rest).head?,
      Text.isDigit next = false ∧ ¬ (next = 'x' ∨ next = 'X') := by
    intro next first
    obtain rfl : '.' = next := Option.some.inj first
    decide
  have read := numeral_decimal_append isDecimal point
  simp only [number, read, fraction] at same
  have longer := congrArg List.length same
  simp only [List.length_append, List.length_cons] at longer
  omega

end Complete

/-! ## Kinds and words -/

section Kinds

variable {digit : Char} (isDigit : Text.isDigit digit = true)
  (after : List Char)
include isDigit

/-- An integer is one exactly if its word is, and no point follows it. -/
theorem kind_number_eq_intLiteral_iff :
    (number (digit :: after)).kind = .intLiteral ↔
      (IsDecimal (number (digit :: after)).text ∧
          (number (digit :: after)).rest.head? ≠ some '.') ∨
        IsHexadecimal (number (digit :: after)).text := by
  have parts := number_append (digit :: after)
  have ends := endsWord_rest_number (digit :: after)
  constructor
  · intro integer
    obtain ⟨kind, text⟩ := number_eq_numeral integer (by simp)
    rcases (numeral_sound isDigit after).1 kind with
      isDecimal | isHexadecimal
    · rw [← text] at isDecimal
      refine .inl ⟨isDecimal, fun point => ?_⟩
      obtain ⟨rest, shape⟩ := List.head?_eq_some_iff.1 point
      rw [shape] at parts
      apply @text_number_ne_of_point _ rest isDecimal
      rw [parts]
    · exact .inr (text ▸ isHexadecimal)
  · rintro (⟨isDecimal, pointless⟩ | isHexadecimal)
    · rw [← parts, number_decimal isDecimal ends pointless]
    · rw [← parts, number_hexadecimal isHexadecimal ends]

theorem kind_number_eq_floatLiteral_iff :
    (number (digit :: after)).kind = .floatLiteral ↔
      IsFloat (number (digit :: after)).text := by
  constructor
  · intro float
    obtain ⟨kind, text⟩ := number_eq_numeral float (by simp)
    rw [text]
    exact (numeral_sound isDigit after).2 kind
  · intro isFloat
    have parts := number_append (digit :: after)
    have ends := endsWord_rest_number (digit :: after)
    rw [← parts, number_float isFloat ends]

omit isDigit in
theorem kind_number_eq_malformed_iff (source : List Char) :
    (number source).kind = .invalid .malformedNumber ↔
      (number source).kind ≠ .intLiteral ∧
        (number source).kind ≠ .floatLiteral := by
  have kinds := kind_number source
  constructor
  · intro malformed
    simp [malformed]
  · rintro ⟨integer, float⟩
    simpa [integer, float] using kinds

end Kinds

end Lexeme

/-! ## The law of numeric literals -/

/-- The words of numeric literals, each with the kind of its token. -/
inductive IsNumber : Kind → List Char → Prop where
  | decimal {word : List Char} (isDecimal : IsDecimal word) :
      IsNumber .intLiteral word
  | hexadecimal {word : List Char} (isHexadecimal : IsHexadecimal word) :
      IsNumber .intLiteral word
  | float {word : List Char} (isFloat : IsFloat word) :
      IsNumber .floatLiteral word

namespace IsNumber

variable {kind : Kind} {word rest : List Char}

/-- A number starts with a digit. -/
theorem exists_digit (isNumber : IsNumber kind word) :
    ∃ digit others, word = digit :: others ∧ Text.isDigit digit = true := by
  have decimal {front : List Char} (isDecimal : IsDecimal front)
      (back : List Char) : ∃ digit others,
        front ++ back = digit :: others ∧ Text.isDigit digit = true := by
    obtain ⟨present, all⟩ := isDecimal
    cases front with
    | nil => exact absurd rfl present
    | cons digit others =>
      exact ⟨digit, others ++ back, rfl, all digit List.mem_cons_self⟩
  cases isNumber with
  | decimal isDecimal => simpa using decimal isDecimal []
  | hexadecimal isHexadecimal =>
    obtain ⟨_, _, _⟩ := isHexadecimal
    exact ⟨'0', _, rfl, rfl⟩
  | float isFloat =>
    cases isFloat with
    | pointed isWhole isPlaces isScaled =>
      rw [List.append_assoc]
      exact decimal isWhole _
    | scaled isWhole isScaled => exact decimal isWhole _

/-- A number in front of the end of a word is read by itself. -/
theorem read_append (isNumber : IsNumber kind word) (ends : EndsWord rest)
    (pointless : rest.head? ≠ some '.') :
    Filler.read? (word ++ rest) = none ∧
      Lexeme.read (word ++ rest) = ⟨kind, word, word, rest⟩ := by
  obtain ⟨digit, others, shape, isDigit⟩ := isNumber.exists_digit
  have number : Lexeme.number (word ++ rest) = ⟨kind, word, word, rest⟩ := by
    cases isNumber with
    | decimal isDecimal => exact Lexeme.number_decimal isDecimal ends pointless
    | hexadecimal isHexadecimal =>
      exact Lexeme.number_hexadecimal isHexadecimal ends
    | float isFloat => exact Lexeme.number_float isFloat ends
  rw [shape, List.cons_append] at number ⊢
  exact ⟨Lexeme.read?_digit isDigit _,
    (Lexeme.read_digit isDigit _).trans number⟩

end IsNumber

/-- The text of an integer or a float among the tokens of a script is a word
of that kind. -/
theorem isNumber_of_mem_tokens
    {source : String} {token : Token} (member : token ∈ tokens source)
    (numeric : token.kind = .intLiteral ∨ token.kind = .floatLiteral) :
    IsNumber token.kind token.text.toList := by
  have visible : token.kind ≠ .newline := by
    rcases numeric with kind | kind <;> simp [kind]
  obtain ⟨before, text, _, _, rfl⟩ := exists_lexeme_of_mem_tokens member visible
  simp only [Lexeme.tokenBehind, String.toList_ofList] at numeric ⊢
  rcases Lexeme.read_cases text with
    rfl | ⟨digit, rest, rfl, isDigit, number⟩ | other
  · rcases numeric with kind | kind <;> cases kind
  · rw [number] at numeric ⊢
    rcases numeric with integer | float
    · rw [integer]
      rcases (Lexeme.kind_number_eq_intLiteral_iff isDigit rest).1 integer with
        ⟨isDecimal, _⟩ | isHexadecimal
      · exact .decimal isDecimal
      · exact .hexadecimal isHexadecimal
    · rw [float]
      exact .float <|
        (Lexeme.kind_number_eq_floatLiteral_iff isDigit rest).1 float
  · rcases numeric with kind | kind <;> simp [kind] at other

/-- A digit that starts a token starts a number, and the token is an integer
or a float if its text is a word of that kind, and malformed otherwise.  It
stops where a word ends.  A word of a number in front of the end of a word
and no point is a token by itself, wherever it is met. -/
theorem digit_starts_number
    {source : String} {token : Token} {before after : List Char} {digit : Char}
    (member : token ∈ tokens source)
    (cut : source.toList = before ++ digit :: after)
    (isDigit : Text.isDigit digit = true)
    (starts : token.span.start = placeAfter before) :
    (∃ lexeme rest,
        digit :: after = lexeme ++ rest ∧
          token.text = String.ofList lexeme ∧
          token.span.stop = placeAfter (before ++ lexeme) ∧
          EndsWord rest ∧
          (token.kind = .intLiteral ↔
            (IsDecimal lexeme ∧ rest.head? ≠ some '.') ∨ IsHexadecimal lexeme) ∧
          (token.kind = .floatLiteral ↔ IsFloat lexeme) ∧
          (token.kind = .invalid .malformedNumber ↔
            ¬ ((IsDecimal lexeme ∧ rest.head? ≠ some '.') ∨
              IsHexadecimal lexeme) ∧ ¬ IsFloat lexeme)) ∧
      ∀ kind word rest,
        IsNumber kind word → EndsWord rest → rest.head? ≠ some '.' →
          (digit :: after = word ++ rest →
            token = ⟨kind, String.ofList word,
              ⟨placeAfter before, placeAfter (before ++ word)⟩⟩) ∧
          ∀ layout place,
            (Lexer.mk layout place (word ++ rest) none false).next =
              (Lexer.mk layout (place.advance word) rest none false).emit
                ⟨kind, String.ofList word, Span.covering place word⟩ := by
  have inLine : digit ≠ '\n' := Lexeme.ne_of_isDigit isDigit rfl
  obtain rfl := eq_tokenBehind_of_start member cut starts inLine
  have integer := Lexeme.kind_number_eq_intLiteral_iff isDigit after
  have float := Lexeme.kind_number_eq_floatLiteral_iff isDigit after
  constructor
  · refine ⟨(Lexeme.number (digit :: after)).text,
      (Lexeme.number (digit :: after)).rest,
      (Lexeme.number_append _).symm, ?_⟩
    rw [Lexeme.tokenBehind, Lexeme.read_digit isDigit]
    refine ⟨rfl, rfl, Lexeme.endsWord_rest_number _, integer, float, ?_⟩
    rw [← integer, ← float]
    exact Lexeme.kind_number_eq_malformed_iff _
  · intro kind word rest isNumber ends pointless
    obtain ⟨visible, read⟩ := isNumber.read_append ends pointless
    constructor
    · intro shape
      rw [Lexeme.tokenBehind, shape, read]
    · intro layout place
      rw [Lexer.next_of_visible visible, read]

/-- A call with a float that has all parts a float can have. -/
def scaledFloat : String := "Wait(1,\n20.50e-3)"

/-- The float ends in front of the bracket. -/
theorem scaledFloat_starts_number :
    ⟨.floatLiteral, "20.50e-3", ⟨2, 1⟩, ⟨2, 9⟩⟩ ∈ tokens scaledFloat := by
  obtain ⟨token, member, starts⟩ :
      ∃ token ∈ tokens scaledFloat,
        token.span.start = placeAfter "Wait(1,\n".toList := by
    decide +kernel
  have cut : scaledFloat.toList =
      "Wait(1,\n".toList ++ '2' :: "0.50e-3)".toList := by
    decide
  have isWhole : IsDecimal ['2', '0'] := ⟨nofun, List.all_eq_true.1 rfl⟩
  have isPlaces : IsDecimal ['5', '0'] := ⟨nofun, List.all_eq_true.1 rfl⟩
  have isPower : IsDecimal ['3'] := ⟨nofun, List.all_eq_true.1 rfl⟩
  have isExponent : IsExponent ('e' :: (['-'] ++ ['3'])) :=
    .marked (.inl rfl) (by simp) isPower
  have isFloat : IsFloat "20.50e-3".toList :=
    .pointed isWhole isPlaces (.inr isExponent)
  have ends : EndsWord [')'] := by
    intro next first
    obtain rfl : ')' = next := Option.some.inj first
    rfl
  obtain ⟨_, words⟩ := digit_starts_number member cut rfl starts
  obtain ⟨found, _⟩ := words _ _ [')'] (.float isFloat) ends (by decide)
  have place : placeAfter ("Wait(1,\n".toList ++ "20.50e-3".toList) =
      ⟨2, 9⟩ := by
    decide
  have shape := found rfl
  rw [place] at shape
  rwa [shape] at member

/-! ## The values of numeric literals -/

def digitsInOrder : List Char := "0123456789abcdef".toList

/-- The number that a row of digits denotes, with the ones at its end. -/
def denoted (base : Nat) (digits : List Char) : Nat :=
  Nat.ofDigits base
    (digits.reverse.map fun digit => digitsInOrder.idxOf (Text.foldCase digit))

/-- The number of a size, below zero behind a minus. -/
def withSign (negative : Bool) (size : Nat) : Int :=
  if negative then -(size : Int) else size

/-- Whether an integer token has a value exactly if it fits, one that is as
expected, and is out of range otherwise. -/
def Token.ReadsInteger (token : Token) (negative : Bool) (fits : Prop)
    (expected : Int → Prop) : Prop :=
  (fits → ∃ word : Int32,
      Reader.integerValue negative token = .ok (.int word) ∧
        expected word.toInt) ∧
    (¬ fits →
      Reader.integerValue negative token =
        .error ⟨token.span.start,
          .integerOutOfRange ((if negative then "-" else "") ++ token.text)⟩)

namespace Number

variable {digits : List Char} {text : List Char}

/-! ## Rows of digits -/

theorem isHexDigit_of_isDigit
    {digit : Char} (isDigit : Text.isDigit digit = true) :
    Text.isHexDigit digit = true := by
  simp [Text.isHexDigit, isDigit]

/-- The value of a digit is its place among the digits. -/
theorem digitValue_eq_idxOf
    {digit : Char} (isDigit : Text.isHexDigit digit = true) :
    digitValue digit = digitsInOrder.idxOf (Text.foldCase digit) := by
  have small : digit.toNat < 128 := by
    simp only [Text.isHexDigit, Text.isDigit, Bool.or_eq_true, Bool.and_eq_true,
      decide_eq_true_eq, Char.le_def, UInt32.le_iff_toNat_le] at isDigit
    rcases isDigit with (⟨_, below⟩ | ⟨_, below⟩) | ⟨_, below⟩ <;>
      exact Nat.lt_of_le_of_lt below (by decide)
  have all : ∀ code < 128, Text.isHexDigit (Char.ofNat code) = true →
      digitValue (Char.ofNat code) =
        digitsInOrder.idxOf (Text.foldCase (Char.ofNat code)) := by
    decide +kernel
  have value := all digit.toNat small
  rw [Char.ofNat_toNat] at value
  exact value isDigit

/-- The value of a row of digits is the number that it denotes. -/
theorem digitsValue_eq_denoted
    (base : Nat) (all : ∀ digit ∈ digits, Text.isHexDigit digit = true) :
    digitsValue base digits = denoted base digits := by
  induction digits using List.reverseRecOn with
  | nil => rfl
  | append_singleton digits last ih =>
    have front := ih fun digit member =>
      all digit (List.mem_append_left _ member)
    have ones := digitValue_eq_idxOf (all last (by simp))
    rw [digitsValue, List.foldl_append, denoted, List.reverse_append,
      List.reverse_singleton, List.singleton_append, List.map_cons,
      Nat.ofDigits_cons, ← ones]
    change digitsValue base digits * base + digitValue last =
      digitValue last + base * denoted base digits
    rw [front, Nat.add_comm, Nat.mul_comm]

theorem natural?_of_isDecimal (isDecimal : IsDecimal text) :
    natural? 10 Text.isDigit text = some (denoted 10 text) := by
  have all : text.all Text.isDigit = true := List.all_eq_true.2 isDecimal.2
  have value := digitsValue_eq_denoted 10 fun digit member =>
    isHexDigit_of_isDigit (isDecimal.2 digit member)
  simp [natural?, isDecimal.1, all, value]

theorem startsWithDigit_of_isDecimal
    (isDecimal : IsDecimal text) (rest : List Char) :
    StartsWithDigit (text ++ rest) := by
  obtain ⟨present, all⟩ := isDecimal
  cases text with
  | nil => exact absurd rfl present
  | cons digit others => exact ⟨digit, rfl, all digit List.mem_cons_self⟩

/-- A row of digits behind a sign or none has the number that it denotes,
below zero behind a minus. -/
theorem signed?_of_isDecimal
    {sign digits : List Char} (signed : sign ∈ [[], ['+'], ['-']])
    (isDecimal : IsDecimal digits) :
    signed? (sign ++ digits) =
      some (withSign (sign = ['-']) (denoted 10 digits)) := by
  have split : splitSign (sign ++ digits) =
      (decide (sign = ['-']), digits) := by
    simp only [List.mem_cons, List.not_mem_nil, or_false] at signed
    rcases signed with rfl | rfl | rfl
    · have starts := startsWithDigit_of_isDecimal isDecimal []
      rw [List.append_nil] at starts
      exact Single.splitSign_eq starts
    · rfl
    · rfl
  simp only [signed?, split, natural?_of_isDecimal isDecimal]
  rfl

/-! ## Integers -/

theorem word?_eq (value : Int) :
    word? value =
      if -2 ^ 31 ≤ value ∧ value < 2 ^ 31 then some (Int32.ofInt value)
      else none := by
  have low : Int32.minValue.toInt = -2 ^ 31 := rfl
  have high : Int32.maxValue.toInt = 2 ^ 31 - 1 := rfl
  simp only [word?, low, high, Int.le_sub_one_iff]

theorem integer?_of_isDecimal (isDecimal : IsDecimal text) (negative : Bool) :
    integer? negative text = word? (withSign negative (denoted 10 text)) := by
  have unmarked : hexDigits? text = none := by
    unfold hexDigits?
    split
    · exact absurd (isDecimal.2 'x' (by simp)) (by decide)
    · exact absurd (isDecimal.2 'X' (by simp)) (by decide)
    · rfl
  have plain := signed?_of_isDecimal (List.mem_cons_self) isDecimal
  have minus := @signed?_of_isDecimal ['-'] text (by decide) isDecimal
  rw [integer?, unmarked]
  cases negative with
  | false => exact congrArg (Option.bind · word?) plain
  | true => exact congrArg (Option.bind · word?) minus

/-- Hexadecimal digits have a value exactly if they fit a word. -/
theorem bits?_of_digits (present : digits ≠ [])
    (all : ∀ digit ∈ digits, Text.isHexDigit digit = true) :
    bits? digits =
      if denoted 16 digits < 2 ^ 32 then
        some (Int32.ofNat (denoted 16 digits))
      else none := by
  have holds : digits.all Text.isHexDigit = true := List.all_eq_true.2 all
  have pattern : natural? 16 Text.isHexDigit digits =
      some (denoted 16 digits) := by
    simp [natural?, present, holds, digitsValue_eq_denoted 16 all]
  cases digits with
  | nil => exact absurd rfl present
  | cons first others =>
    have plain : first ≠ '+' := by
      rintro rfl
      exact absurd (all '+' List.mem_cons_self) (by decide)
    simp [bits?, plain, pattern]

theorem integer?_of_marked
    {mark : Char} (known : mark = 'x' ∨ mark = 'X') (present : digits ≠ [])
    (all : ∀ digit ∈ digits, Text.isHexDigit digit = true) (negative : Bool) :
    integer? negative ('0' :: mark :: digits) =
      if denoted 16 digits < 2 ^ 32 then
        some (if negative then -Int32.ofNat (denoted 16 digits)
          else Int32.ofNat (denoted 16 digits))
      else none := by
  have marked : hexDigits? ('0' :: mark :: digits) = some digits := by
    rcases known with rfl | rfl <;> rfl
  simp only [integer?, marked, bits?_of_digits present all]
  by_cases fits : denoted 16 digits < 2 ^ 32
  · simp only [if_pos fits, Option.map_some]
  · simp only [if_neg fits, Option.map_none]

theorem withSign_mem_range_iff (negative : Bool) (size : Nat) :
    (-2 ^ 31 ≤ withSign negative size ∧ withSign negative size < 2 ^ 31) ↔
      size ≤ if negative then 2 ^ 31 else 2 ^ 31 - 1 := by
  cases negative with
  | false =>
    simp only [withSign, Bool.false_eq_true, if_false]
    omega
  | true =>
    simp only [withSign, if_true]
    omega

theorem toInt_ofNat_modEq (size : Nat) :
    (Int32.ofNat size).toInt ≡ size [ZMOD 2 ^ 32] := by
  rw [Int32.toInt_ofNat']
  exact Int.bmod_emod

theorem toInt_neg_modEq {word : Int32} {value : Int}
    (same : word.toInt ≡ value [ZMOD 2 ^ 32]) :
    (-word).toInt ≡ -value [ZMOD 2 ^ 32] := by
  rw [Int32.toInt_neg]
  exact Int.ModEq.trans Int.bmod_emod same.neg

end Number

/-! ## Floats -/

namespace Single

variable {text : List Char}

theorem isSome_exponent?
    {scaled : List Char} (isScaled : scaled = [] ∨ IsExponent scaled) :
    (exponent? scaled).isSome = true := by
  rcases isScaled with rfl | isExponent
  · rfl
  · cases isExponent with
    | marked known signed isDecimal =>
      rw [exponent?, if_pos (by simpa using known),
        Number.signed?_of_isDecimal signed isDecimal]
      rfl

theorem not_isDigit_head
    {scaled : List Char} (isScaled : scaled = [] ∨ IsExponent scaled) :
    ∀ next ∈ scaled.head?, Text.isDigit next = false := by
  intro next first
  have ends : EndsWord [] := nofun
  have head := Lexeme.head_scaled isScaled ends
  rw [List.append_nil] at head
  exact (head next first).1

/-- Every float is a decimal. -/
theorem isSome_decimal? (isFloat : IsFloat text) :
    (decimal? text).isSome = true := by
  cases isFloat with
  | @pointed whole places scaled isWhole isPlaces isScaled =>
    have behind := not_isDigit_head isScaled
    have point : ∀ next ∈ (('.' :: places) ++ scaled).head?,
        Text.isDigit next = false := by
      intro next first
      obtain rfl : '.' = next := Option.some.inj first
      rfl
    rw [List.append_assoc, decimal?,
      Lexeme.takeWhile_append_of_stops isWhole.2 point,
      Lexeme.dropWhile_append_of_stops isWhole.2 point]
    simp [isWhole.1, isSome_exponent? isScaled,
      Lexeme.takeWhile_append_of_stops isPlaces.2 behind,
      Lexeme.dropWhile_append_of_stops isPlaces.2 behind]
  | @scaled whole scaled isWhole isScaled =>
    have behind := not_isDigit_head (.inr isScaled)
    have pointless (rest : List Char) : scaled ≠ '.' :: rest := by
      rintro rfl
      cases isScaled with
      | marked known _ _ => rcases known with mark | mark <;> cases mark
    rw [decimal?, Lexeme.takeWhile_append_of_stops isWhole.2 behind,
      Lexeme.dropWhile_append_of_stops isWhole.2 behind]
    split
    rename_i part exponent parts
    split at parts
    · exact absurd rfl (pointless _)
    · cases parts
      simp [isWhole.1, isSome_exponent? (.inr isScaled)]

theorem startsWithDigit_of_isFloat (isFloat : IsFloat text) :
    StartsWithDigit text := by
  cases isFloat with
  | pointed isWhole isPlaces isScaled =>
    rw [List.append_assoc]
    exact Number.startsWithDigit_of_isDecimal isWhole _
  | scaled isWhole isScaled =>
    exact Number.startsWithDigit_of_isDecimal isWhole _

theorem isSome_ofText? (isFloat : IsFloat text) :
    (ofText? text).isSome = true := by
  have starts := startsWithDigit_of_isFloat isFloat
  simp [ofText?, splitSign_eq starts, special?_eq_none starts,
    isSome_decimal? isFloat]

end Single

/-! ## Tokens -/

namespace Token

/-- A decimal integer has the number that it denotes as its value. -/
theorem readsInteger_of_isDecimal
    {token : Token} (isDecimal : IsDecimal token.text.toList)
    (negative : Bool) :
    token.ReadsInteger negative
      (denoted 10 token.text.toList ≤ if negative then 2 ^ 31 else 2 ^ 31 - 1)
      (· = withSign negative (denoted 10 token.text.toList)) := by
  have value := Number.integer?_of_isDecimal isDecimal negative
  rw [Number.word?_eq] at value
  rw [← Number.withSign_mem_range_iff]
  constructor
  · intro range
    rw [if_pos range] at value
    refine ⟨Int32.ofInt (withSign negative (denoted 10 token.text.toList)),
      ?_, Int32.toInt_ofInt_of_le range.1 range.2⟩
    rw [Reader.integerValue, value]
  · intro range
    rw [if_neg range] at value
    rw [Reader.integerValue, value]

/-- A hexadecimal integer has the word of the number that it denotes. -/
theorem readsInteger_of_marked
    {token : Token} {mark : Char} {digits : List Char}
    (shape : token.text.toList = '0' :: mark :: digits)
    (known : mark = 'x' ∨ mark = 'X') (present : digits ≠ [])
    (all : ∀ digit ∈ digits, Text.isHexDigit digit = true) (negative : Bool) :
    token.ReadsInteger negative (denoted 16 digits < 2 ^ 32)
      (· ≡ withSign negative (denoted 16 digits) [ZMOD 2 ^ 32]) := by
  have value := Number.integer?_of_marked known present all negative
  rw [← shape] at value
  have same := Number.toInt_ofNat_modEq (denoted 16 digits)
  constructor
  · intro fits
    rw [if_pos fits] at value
    refine ⟨_, by rw [Reader.integerValue, value], ?_⟩
    cases negative with
    | false => exact same
    | true => exact Number.toInt_neg_modEq same
  · intro exceeds
    rw [if_neg exceeds] at value
    rw [Reader.integerValue, value]

theorem floatValue_of_isFloat
    {token : Token} (isFloat : IsFloat token.text.toList) (negative : Bool) :
    (∃ value, Reader.floatValue negative token = .ok (.float value)) ∨
      Reader.floatValue negative token =
        .error ⟨token.span.start, .floatOutOfRange token.text⟩ := by
  obtain ⟨value, read⟩ :=
    Option.isSome_iff_exists.1 (Single.isSome_ofText? isFloat)
  rw [Reader.floatValue, read]
  by_cases infinite : value.isInfinite = true
  · exact .inr (if_pos infinite)
  · exact .inl ⟨_, if_neg infinite⟩

end Token

/-- An integer token of a script is decimal or hexadecimal.  A decimal one has
the number that it denotes as its value, with a sign if there is a minus in
front, exactly if it is in the signed range of a word.  A hexadecimal one has
the word that is congruent to this number, exactly if there are bits enough.
Every other integer is out of range, and no float is malformed. -/
theorem numeric_token_has_value
    {source : String} {token : Token} (member : token ∈ tokens source)
    (negative : Bool) :
    (token.kind = .intLiteral →
        (IsDecimal token.text.toList ∧
            token.ReadsInteger negative
              (denoted 10 token.text.toList ≤
                if negative then 2 ^ 31 else 2 ^ 31 - 1)
              (· = withSign negative (denoted 10 token.text.toList))) ∨
          ∃ mark digits,
            token.text.toList = '0' :: mark :: digits ∧
              IsHexadecimal token.text.toList ∧
              token.ReadsInteger negative (denoted 16 digits < 2 ^ 32)
                (· ≡ withSign negative (denoted 16 digits) [ZMOD 2 ^ 32])) ∧
      (token.kind = .floatLiteral →
        (∃ value, Reader.floatValue negative token = .ok (.float value)) ∨
          Reader.floatValue negative token =
            .error ⟨token.span.start, .floatOutOfRange token.text⟩) := by
  constructor
  · intro integer
    have isNumber := isNumber_of_mem_tokens member (.inl integer)
    rw [integer] at isNumber
    cases isNumber with
    | decimal isDecimal =>
      exact .inl ⟨isDecimal, Token.readsInteger_of_isDecimal isDecimal negative⟩
    | hexadecimal isHexadecimal =>
      generalize shape : token.text.toList = text at isHexadecimal ⊢
      obtain ⟨known, present, all⟩ := isHexadecimal
      exact .inr ⟨_, _, rfl, .marked known present all,
        Token.readsInteger_of_marked shape known present all negative⟩
  · intro float
    have isNumber := isNumber_of_mem_tokens member (.inr float)
    rw [float] at isNumber
    cases isNumber with
    | float isFloat => exact Token.floatValue_of_isFloat isFloat negative

/-- A hexadecimal integer behind a minus whose word is the least of all. -/
def lowestWord : String := "x = -0x0080000000"

/-- The word of the least integer is its own negative. -/
theorem lowestWord_has_value :
    ∃ token ∈ tokens lowestWord, token.kind = .intLiteral ∧
      ∃ word : Int32, Reader.integerValue true token = .ok (.int word) ∧
        word.toInt ≡ -2 ^ 31 [ZMOD 2 ^ 32] := by
  obtain ⟨token, member, integer, text⟩ :
      ∃ token ∈ tokens lowestWord,
        token.kind = .intLiteral ∧ token.text = "0x0080000000" := by
    decide +kernel
  refine ⟨token, member, integer, ?_⟩
  rcases (numeric_token_has_value member true).1 integer with
    ⟨isDecimal, _⟩ | ⟨mark, digits, shape, _, reads⟩
  · rw [text] at isDecimal
    exact absurd (isDecimal.2 'x' (by decide)) (by decide)
  · rw [text] at shape
    obtain ⟨rfl, rfl⟩ : 'x' = mark ∧ "0080000000".toList = digits := by
      simpa using shape
    have size : denoted 16 "0080000000".toList = 2 ^ 31 := by decide
    rw [size] at reads
    exact reads.1 (by decide)

end PapyrusScript
