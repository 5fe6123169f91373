import PapyrusScript.Proofs.NumberLiterals
import PapyrusScript.Proofs.Proper
import PapyrusScript.Proofs.ScriptRoundTrip
import PapyrusScript.Proofs.SettingsText

/-!
# Every proper script can be written

Every type and every finite value has tokens, every proper expression has a
rendering, and every proper script has a layout.  In the rendering nearly
everything stands in parentheses, so there must be few enough levels for it to
be read: a script is shallow if that holds of all its expressions.

So the proper and shallow scripts are scripts that are read without a report,
up to the places of their parts.
-/

namespace PapyrusScript

/-! ## Numbers -/

theorem isDecimal_toDigits (value : Nat) : IsDecimal (Nat.toDigits 10 value) :=
  ⟨Nat.toDigits_ne_nil, fun _ => Document.isDigit_of_mem_toDigits⟩

theorem denoted_toDigits (value : Nat) :
    denoted 10 (Nat.toDigits 10 value) = value := by
  have read := Document.natural?_digits value
  rw [Number.natural?_of_isDecimal (isDecimal_toDigits value)] at read
  exact Option.some.inj read

/-- The size of any number is an integer with or without a minus in front. -/
theorem integer?_toDigits (number : Int32) :
    Number.integer? (decide (number.toInt < 0))
      (Nat.toDigits 10 number.toInt.natAbs) = some number := by
  have size : withSign (decide (number.toInt < 0)) number.toInt.natAbs =
      number.toInt := by
    unfold withSign
    split
    · rename_i negative
      have below : number.toInt < 0 := of_decide_eq_true negative
      omega
    · rename_i negative
      have above : ¬ number.toInt < 0 := fun below =>
        negative (decide_eq_true below)
      omega
  have range : -2 ^ 31 ≤ number.toInt ∧ number.toInt < 2 ^ 31 :=
    ⟨Int32.le_toInt number, Int32.toInt_lt number⟩
  rw [Number.integer?_of_isDecimal (isDecimal_toDigits _), denoted_toDigits,
    size, Number.word?_eq, if_pos range, Int32.ofInt_toInt]

namespace Single

variable {number : Single}

/-- The value of a finite number in units of the smallest one. -/
def units (number : Single) : Nat := number.significand * 2 ^ number.scale

theorem roundQuotient_mul (quotient : Nat) {denominator : Nat}
    (positive : 0 < denominator) :
    roundQuotient (quotient * denominator) denominator = quotient := by
  simp [roundQuotient, Nat.mul_div_cancel _ positive, positive]

/-- The bits of a magnitude are its exponent and its significand. -/
theorem scale_mul_add_significand (number : Single) :
    number.scale * exponentBit + number.significand = number.magnitudeBits := by
  have split := Nat.div_add_mod number.magnitudeBits exponentBit
  have positive : 0 < exponentBit := Nat.two_pow_pos 23
  unfold scale significand
  generalize number.magnitudeBits = bits at split ⊢
  by_cases small : bits < exponentBit
  · rw [if_pos small, Nat.div_eq_of_lt small, Nat.zero_sub, Nat.zero_mul,
      Nat.zero_add]
  · have whole : 1 ≤ bits / exponentBit :=
      (Nat.one_le_div_iff positive).2 (Nat.le_of_not_lt small)
    rw [if_neg small, Nat.sub_mul, Nat.one_mul]
    have least := Nat.mul_le_mul_right exponentBit whole
    rw [Nat.one_mul] at least
    rw [Nat.mul_comm] at split
    omega

/-- The significand of a number has twenty-four bits, or the number is one of
the smallest ones. -/
theorem log2_units (number : Single) :
    number.units.log2 - 23 = number.scale := by
  have positive : 0 < exponentBit := Nat.two_pow_pos 23
  unfold units scale significand
  generalize number.magnitudeBits = bits
  by_cases small : bits < exponentBit
  · rw [if_pos small, Nat.div_eq_of_lt small, Nat.zero_sub, Nat.pow_zero,
      Nat.mul_one]
    by_cases zero : bits = 0
    · rw [zero, Nat.log2_zero]
    · have below : bits.log2 < 23 := (Nat.log2_lt zero).2 small
      omega
  · rw [if_neg small]
    have above : 2 ^ 23 ≤ bits % exponentBit + exponentBit :=
      Nat.le_add_left _ _
    have below : bits % exponentBit + exponentBit < 2 ^ 24 := by
      have part := Nat.mod_lt bits positive
      have twice : exponentBit + exponentBit = 2 ^ 24 := rfl
      omega
    generalize bits % exponentBit + exponentBit = significand at above below
    generalize bits / exponentBit - 1 = scale
    have some : significand * 2 ^ scale ≠ 0 :=
      Nat.mul_ne_zero (by omega) (Nat.two_pow_pos scale).ne'
    have exact : (significand * 2 ^ scale).log2 = 23 + scale := by
      apply (Nat.log2_eq_iff some).2
      constructor
      · rw [Nat.pow_add]
        exact Nat.mul_le_mul_right _ above
      · rw [Nat.add_right_comm, Nat.pow_add]
        exact Nat.mul_lt_mul_of_pos_right below (Nat.two_pow_pos scale)
    rw [exact, Nat.add_sub_cancel_left]

/-- A finite number is the nearest to its own value. -/
theorem nearestMagnitude_units (finite : number.isFinite = true) :
    nearestMagnitude (number.units * 5 ^ 149) (10 ^ 149) =
      number.magnitudeBits := by
  have bounded : number.magnitudeBits < infinityBits := of_decide_eq_true finite
  have tens : 5 ^ 149 * unitsInOne = 10 ^ 149 := by
    unfold unitsInOne
    rw [Nat.pow_eq, ← Nat.mul_pow]
  have positive : 0 < 10 ^ 149 := Nat.pow_pos (by decide)
  have size : number.units * 5 ^ 149 * unitsInOne =
      number.units * 10 ^ 149 := by
    rw [Nat.mul_assoc, tens]
  have places : scaleOf (number.units * 10 ^ 149) (10 ^ 149) =
      number.scale := by
    rw [scaleOf, Nat.mul_div_cancel _ positive, log2_units]
  have rounded : roundQuotient (number.units * 10 ^ 149)
      (10 ^ 149 * Nat.pow 2 number.scale) = number.significand := by
    have regroup : number.units * 10 ^ 149 =
        number.significand * (10 ^ 149 * Nat.pow 2 number.scale) := by
      unfold units
      rw [Nat.pow_eq, Nat.mul_assoc, Nat.mul_comm (2 ^ number.scale)]
    rw [regroup]
    exact roundQuotient_mul _ (Nat.mul_pos positive (Nat.two_pow_pos _))
  unfold nearestMagnitude
  dsimp only
  rw [size, places, rounded, scale_mul_add_significand]
  exact Nat.min_eq_left (Nat.le_of_lt bounded)

/-- A finite number has fewer units than an infinite one. -/
theorem units_lt (finite : number.isFinite = true) :
    number.units < 2 ^ 24 * 2 ^ 254 := by
  have bounded : number.magnitudeBits < infinityBits := of_decide_eq_true finite
  have top : number.scale ≤ 254 := by
    unfold scale
    have quotient : number.magnitudeBits / exponentBit < 255 :=
      (Nat.div_lt_iff_lt_mul (Nat.two_pow_pos 23)).2 bounded
    omega
  have below : number.significand < 2 ^ 24 := by
    have part := Nat.mod_lt number.magnitudeBits (Nat.two_pow_pos 23)
    have twice : exponentBit + exponentBit = 2 ^ 24 := rfl
    unfold significand
    change number.magnitudeBits % exponentBit < exponentBit at part
    split <;> omega
  calc number.units
      < 2 ^ 24 * 2 ^ number.scale :=
        Nat.mul_lt_mul_of_pos_right below (Nat.two_pow_pos _)
    _ ≤ 2 ^ 24 * 2 ^ 254 :=
        Nat.mul_le_mul_left _ (Nat.pow_le_pow_right (by decide) top)

/-- The first digit of the exact value of a finite number is where the format
has numbers. -/
theorem magnitudeOfDecimal_units (finite : number.isFinite = true) :
    magnitudeOfDecimal (number.units * 5 ^ 149) (-149) =
      number.magnitudeBits := by
  have nearest := nearestMagnitude_units finite
  unfold magnitudeOfDecimal
  dsimp only
  by_cases zero : number.units = 0
  · rw [zero, Nat.zero_mul] at nearest ⊢
    have none : nearestMagnitude 0 (10 ^ 149) = 0 := by decide +kernel
    rw [← nearest, none, decide_eq_true rfl, Bool.true_or, if_pos rfl]
  · have some : number.units * 5 ^ 149 ≠ 0 :=
      Nat.mul_ne_zero zero (Nat.pow_pos (by decide)).ne'
    have low : ¬ (Nat.toDigits 10 (number.units * 5 ^ 149)).length ≤ 100 := by
      rw [Nat.length_toDigits_le_iff (by decide) (by decide), Nat.not_lt]
      calc 10 ^ 100 ≤ 5 ^ 149 := by decide +kernel
        _ ≤ number.units * 5 ^ 149 :=
          Nat.le_mul_of_pos_left _ (Nat.pos_of_ne_zero zero)
    have high : (Nat.toDigits 10 (number.units * 5 ^ 149)).length ≤ 200 := by
      rw [Nat.length_toDigits_le_iff (by decide) (by decide)]
      calc number.units * 5 ^ 149
          < 2 ^ 24 * 2 ^ 254 * 5 ^ 149 :=
            Nat.mul_lt_mul_of_pos_right (units_lt finite)
              (Nat.pow_pos (by decide))
        _ ≤ 10 ^ 200 := by decide +kernel
    generalize (Nat.toDigits 10 (number.units * 5 ^ 149)).length = count
      at low high ⊢
    have inside : ¬ ((count : Int) + -149 < -60) := by omega
    have insideToo : ¬ (60 < (count : Int) + -149) := by omega
    rw [decide_eq_false some, decide_eq_false inside, Bool.or_false,
      if_neg Bool.false_ne_true, if_neg insideToo]
    have shift : Nat.pow 10 (Int.toNat (-149)) = 1 := rfl
    rw [shift, Nat.mul_one]
    exact nearest

/-- A number of digits, times ten to the power of `-149`. -/
def scientific (digits : Nat) : List Char :=
  Nat.toDigits 10 digits ++ "e-149".toList

theorem startsWithDigit_scientific (digits : Nat) :
    StartsWithDigit (scientific digits) :=
  Number.startsWithDigit_of_isDecimal (isDecimal_toDigits digits) _

/-- Digits in scientific writing denote their number of units. -/
theorem decimal?_scientific (digits : Nat) :
    decimal? (scientific digits) = some (digits, -149) := by
  have isDecimal := isDecimal_toDigits digits
  have present : (Nat.toDigits 10 digits).isEmpty = false := by
    rw [List.isEmpty_eq_false_iff]
    exact isDecimal.1
  have stops : ∀ next ∈ "e-149".toList.head?, Text.isDigit next = false := by
    rintro _ ⟨⟩
    rfl
  have value : Number.digitsValue 10 (Nat.toDigits 10 digits) = digits := by
    rw [Number.digitsValue_eq_denoted 10 fun digit member =>
      Number.isHexDigit_of_isDigit (isDecimal.2 digit member)]
    exact denoted_toDigits digits
  have exponent : exponent? "e-149".toList = some (-149) := by decide
  rw [scientific, decimal?, Lexeme.takeWhile_append_of_stops isDecimal.2 stops,
    Lexeme.dropWhile_append_of_stops isDecimal.2 stops]
  change (if (Nat.toDigits 10 digits).isEmpty && true then none
    else (exponent? "e-149".toList).map fun exponent =>
      (Number.digitsValue 10 (Nat.toDigits 10 digits ++ []), exponent - 0)) = _
  rw [present, exponent, List.append_nil, value]
  rfl

theorem ofText?_of_decimal?
    {text : List Char} {digits : Nat} {exponent : Int}
    (starts : StartsWithDigit text)
    (value : decimal? text = some (digits, exponent)) :
    ofText? text =
      some (ofMagnitude false (magnitudeOfDecimal digits exponent)) := by
  simp only [ofText?, splitSign_eq starts, special?_eq_none starts, value,
    Option.map_some]

theorem ofMagnitude_magnitudeBits (unsigned : number.isNegative = false) :
    ofMagnitude false number.magnitudeBits = number := by
  have small : number.bits.toNat < signBit :=
    Nat.lt_of_not_le (of_decide_eq_false unsigned)
  rw [magnitudeBits, Nat.mod_eq_of_lt small, ofMagnitude,
    if_neg Bool.false_ne_true, UInt32.ofNat_toNat]

/-- Every finite number without a sign is read from some text. -/
theorem exists_ofText? (finite : number.isFinite = true)
    (unsigned : number.isNegative = false) :
    ∃ text, ofText? text = some number := by
  have nearest := magnitudeOfDecimal_units finite
  generalize number.units * 5 ^ 149 = digits at nearest
  have starts := startsWithDigit_scientific digits
  have read := ofText?_of_decimal? starts (decimal?_scientific digits)
  rw [nearest, ofMagnitude_magnitudeBits unsigned] at read
  exact ⟨scientific digits, read⟩
end Single

/-! ## Types and literals -/

theorem DataType.exists_token (dataType : DataType) :
    ∃ token, Reader.dataType? token = some dataType := by
  refine ⟨⟨dataType.kind, dataType.text, .nowhere⟩, ?_⟩
  rw [Reader.dataType?_eq_some_iff]
  refine ⟨rfl, ?_⟩
  rintro name rfl
  rfl

/-- Every type has tokens. -/
theorem TypeName.exists_spelled (type : TypeName) :
    ∃ row, type.Spelled row := by
  obtain ⟨dataType, isArray, span⟩ := type
  obtain ⟨token, names⟩ := dataType.exists_token
  cases isArray with
  | false => exact ⟨_, .plain names⟩
  | true =>
    exact ⟨_, .array names (Token.kind_sign .openBracket)
      (Token.kind_sign .closeBracket)⟩

/-- An integer is read from the digits of its size, with a minus in front if it
is below zero. -/
theorem exists_integerToken (number : Int32) :
    ∃ token : Token, token.kind = .intLiteral ∧
      Number.integer? (decide (number.toInt < 0)) token.text.toList =
        some number := by
  refine ⟨⟨.intLiteral, String.ofList (Nat.toDigits 10 number.toInt.natAbs),
    .nowhere⟩, rfl, ?_⟩
  rw [String.toList_ofList]
  exact integer?_toDigits number

/-- A finite number without a sign is read from a token. -/
theorem Single.exists_token {number : Single} (finite : number.isFinite = true)
    (unsigned : number.isNegative = false) :
    ∃ token : Token, token.kind = .floatLiteral ∧
      Single.ofText? token.text.toList = some number ∧
        number.isInfinite = false := by
  obtain ⟨text, read⟩ := exists_ofText? finite unsigned
  have below : number.magnitudeBits < infinityBits := of_decide_eq_true finite
  refine ⟨⟨.floatLiteral, String.ofList text, .nowhere⟩, rfl, ?_,
    decide_eq_false below.ne⟩
  rw [String.toList_ofList]
  exact read

/-- Every value but a number below zero or an infinite one has a token. -/
theorem Value.exists_token {value : Value} (finite : value.IsFinite)
    (unsigned : value.IsUnsigned)
    (above : ∀ number, value = .int number → ¬ number.toInt < 0) :
    ∃ token : Token, token.Spells value := by
  cases value with
  | bool value =>
    exact ⟨.word (if value then .trueLiteral else .falseLiteral),
      .bool value (Token.kind_word _)⟩
  | int number =>
    obtain ⟨token, kind, read⟩ := exists_integerToken number
    rw [decide_eq_false (above number rfl)] at read
    exact ⟨token, .int kind read⟩
  | float number =>
    obtain ⟨token, kind, read, bounded⟩ := Single.exists_token finite unsigned
    exact ⟨token, .float kind read bounded⟩
  | string text => exact ⟨⟨.stringLiteral, text, .nowhere⟩, .string rfl⟩
  | none => exact ⟨.word .noneLiteral, .none rfl⟩
  | selfReference => exact ⟨.word .selfReference, .selfReference rfl⟩
  | parentReference => exact ⟨.word .parentReference, .parentReference rfl⟩

namespace Single

variable {number : Single}

theorem negate_negate (number : Single) : number.negate.negate = number := by
  obtain ⟨bits⟩ := number
  rw [negate, negate, UInt32.xor_assoc, UInt32.xor_self, UInt32.xor_zero]

theorem isFinite_negate (number : Single) :
    number.negate.isFinite = number.isFinite := by
  rw [isFinite, isFinite, magnitudeBits_negate]

/-- A number or the number with the other sign has none. -/
theorem isNegative_negate (negative : number.isNegative = true) :
    number.negate.isNegative = false := by
  have above : 2 ^ 31 ≤ number.bits.toNat := of_decide_eq_true negative
  have below : number.bits.toNat < 2 ^ 32 := number.bits.toNat_lt
  have top : number.bits.toNat / 2 ^ 31 = 1 := by omega
  have mask : UInt32.toNat 0x80000000 / 2 ^ 31 = 1 := by decide
  have cleared : (number.bits ^^^ 0x80000000).toNat / 2 ^ 31 = 0 := by
    rw [UInt32.toNat_xor, Nat.xor_div_two_pow, top, mask, Nat.xor_self]
  apply decide_eq_false
  change ¬ 2 ^ 31 ≤ (number.bits ^^^ 0x80000000).toNat
  omega

end Single

/-- Every finite literal has tokens in the place of an initial value. -/
theorem Literal.exists_spelled {literal : Literal}
    (finite : literal.value.IsFinite) : ∃ row, literal.Spelled row := by
  obtain ⟨value, span⟩ := literal
  by_cases below : ∃ number, value = .int number ∧ number.toInt < 0
  · obtain ⟨number, rfl, below⟩ := below
    obtain ⟨token, kind, read⟩ := exists_integerToken number
    rw [decide_eq_true below] at read
    exact ⟨_, .negativeInt (Token.kind_sign .minus) kind read⟩
  by_cases unsigned : value.IsUnsigned
  · have above (number : Int32) (same : value = .int number) :
        ¬ number.toInt < 0 :=
      fun negative => below ⟨number, same, negative⟩
    obtain ⟨token, spells⟩ := Value.exists_token finite unsigned above
    exact ⟨_, .plain spells⟩
  · cases value with
    | float number =>
      have negative : number.isNegative = true :=
        Bool.eq_true_of_not_eq_false unsigned
      obtain ⟨token, kind, read, bounded⟩ := Single.exists_token
        ((Single.isFinite_negate number).trans finite)
        (Single.isNegative_negate negative)
      have spelled : Literal.Spelled ⟨.float number.negate.negate, span⟩ _ :=
        .negativeFloat (Token.kind_sign .minus) kind read bounded
      rw [Single.negate_negate] at spelled
      exact ⟨_, spelled⟩
    | _ => exact absurd trivial unsigned

theorem Literal.exists_initialSpelled {initial : Option Literal}
    (finite : Literal.AreFinite initial) :
    ∃ row, Literal.InitialSpelled initial row := by
  cases initial with
  | none => exact ⟨_, .absent⟩
  | some literal =>
    obtain ⟨row, spelled⟩ := Literal.exists_spelled (finite literal rfl)
    exact ⟨_, .present (Token.kind_sign .assign) spelled⟩


/-! ## Expressions -/

theorem Rendering.level_flat_le (level : Nat) (row : List Token) :
    (Rendering.flat level row).level ≤ level := by
  induction row with
  | nil => exact Nat.zero_le _
  | cons token row ih =>
    exact Nat.max_le.2 ⟨Nat.le_refl level, ih⟩

/-- What stands in brackets is as deep as what is inside. -/
theorem Rendering.level_bracketed {inside : Rendering} {level : Nat}
    (opening closing : Token) :
    Rendering.level ((opening, level) :: (inside ++ [(closing, level)])) =
      max level inside.level := by
  have last : Rendering.level [(closing, level)] = level := Nat.max_zero level
  rw [level_cons, level_append, last]
  omega

theorem Identifier.exists_spelledAs (called : Option Identifier) :
    ∃ row, Identifier.SpelledAs called row := by
  cases called with
  | none => exact ⟨_, .unnamed⟩
  | some node =>
    exact ⟨_, .named (Token.kind_named node.name) (Token.kind_sign .assign)⟩

namespace Expression

mutual

/-- The levels inside an expression where everything but names, members,
calls, subscripts and arrays stands in parentheses. -/
def height : Expression → Nat
  | .literal _ => 1
  | .name _ => 0
  | .unary _ operand _ => height operand + 2
  | .binary _ left right _ => max (height left) (height right) + 1
  | .call callee arguments _ =>
    max (height callee) (heightOfArguments arguments)
  | .member object _ _ => height object
  | .index array subscript _ => max (height array) (height subscript + 1)
  | .cast operand _ _ => height operand + 1
  | .create _ size _ => heightOfSize size + 1
  | .arrayLength array _ => height array

def heightOfSize : Option Expression → Nat
  | none => 0
  | some size => height size

def heightOfArgument : Argument Expression → Nat
  | ⟨_, value, _⟩ => height value + 1

def heightOfArguments : List (Argument Expression) → Nat
  | [] => 0
  | argument :: rest =>
    max (heightOfArgument argument) (heightOfArguments rest)

end

/-- A rendering of an expression that may stand anywhere, also behind a minus
and in front of a bracket. -/
structure Stands (tree : Expression) (level height : Nat)
    (rendering : Rendering) : Prop where
  renders : Renders level (.expression .primary tree) rendering
  shallow : rendering.level ≤ level + height
  apart : rendering.isCreation = false
  unfolded : rendering.isInteger = false

variable {tree : Expression} {level height : Nat} {inside : Rendering}

/-- A rendering of three tokens is neither the creation of an object nor an
integer. -/
theorem Stands.of_long {rendering : Rendering}
    (renders : Renders level (.expression .primary tree) rendering)
    (shallow : rendering.level ≤ level + height)
    (long : 3 ≤ rendering.length) : tree.Stands level height rendering := by
  refine ⟨renders, shallow, ?_, ?_⟩
  · unfold Rendering.isCreation
    split
    · exact absurd long (by simp)
    · rfl
  · unfold Rendering.isInteger
    split
    · exact absurd long (by simp)
    · rfl

/-- What stands in parentheses may stand anywhere. -/
theorem exists_stands_of_parentheses {strength : Precedence}
    (renders : Renders (level + 1) (.expression strength tree) inside)
    (shallow : inside.level ≤ level + 1 + height) :
    ∃ rendering, tree.Stands level (height + 1) rendering := by
  have whole := Renders.parenthesized (Token.kind_sign .openParen)
    (Token.kind_sign .closeParen) (renders.weaken (Nat.zero_le _))
  refine ⟨_, .of_long whole ?_ ?_⟩
  · rw [Rendering.level_bracketed]
    omega
  · have some := List.length_pos_of_ne_nil renders.ne_nil
    simp only [List.length_cons, List.length_append]
    omega

theorem Stands.at_strength {rendering : Rendering}
    (stands : tree.Stands level height rendering) (strength : Precedence) :
    Renders level (.expression strength tree) rendering :=
  stands.renders.weaken (by cases strength <;> decide)

/-- An operand that stands, with some more tokens behind it. -/
theorem Stands.extend {object : Expression} {rendering behind : Rendering}
    {inner : Nat} (stands : object.Stands level inner rendering)
    (renders : Renders level (.expression .primary tree) (rendering ++ behind))
    (several : 2 ≤ behind.length) (higher : inner ≤ height)
    (shallow : behind.level ≤ level + height) :
    tree.Stands level height (rendering ++ behind) := by
  apply Stands.of_long renders
  · have first := stands.shallow
    rw [Rendering.level_append]
    omega
  · have some := List.length_pos_of_ne_nil stands.renders.ne_nil
    rw [List.length_append]
    omega

/-- A finite literal has a token that may stand anywhere. -/
theorem exists_stands_literal {node : Literal}
    (finite : node.value.IsFinite) (unsigned : node.value.IsUnsigned)
    (level : Nat) :
    ∃ rendering, (Expression.literal node).Stands level 1 rendering := by
  obtain ⟨value, span⟩ := node
  by_cases below : ∃ number, value = .int number ∧ number.toInt < 0
  · obtain ⟨number, rfl, below⟩ := below
    obtain ⟨token, kind, read⟩ := exists_integerToken number
    rw [decide_eq_true below] at read
    have renders : Renders (level + 1)
        (.expression .unary (.literal ⟨.int number, span⟩)) _ :=
      .signed (Token.kind_sign .minus) kind read
    exact exists_stands_of_parentheses renders (by simp [Rendering.level])
  · have above (number : Int32) (same : value = .int number) :
        ¬ number.toInt < 0 :=
      fun negative => below ⟨number, same, negative⟩
    obtain ⟨token, spells⟩ := Value.exists_token finite unsigned above
    have renders : Renders (level + 1)
        (.expression .primary (.literal ⟨value, span⟩)) _ := .literal spells
    exact exists_stands_of_parentheses renders (by simp [Rendering.level])

mutual

/-- Every proper expression has a rendering that may stand anywhere. -/
theorem exists_stands :
    ∀ tree : Expression, tree.Proper True → ∀ level,
      ∃ rendering, tree.Stands level tree.height rendering
  | .literal node, proper, level =>
    exists_stands_literal proper.1 proper.2 level
  | .name node, _, level => by
    have renders : Renders level (.expression .primary (.name node))
        [(.named node.name, level)] := .name (Token.kind_named node.name)
    exact ⟨_, renders, by simp [Rendering.level, height], rfl, rfl⟩
  | .unary operator operand span, proper, level => by
    obtain ⟨behind, stands⟩ := exists_stands operand proper (level + 2)
    have renders : Renders (level + 1)
        (.expression .unary (.unary operator operand span)) _ :=
      .unary (Token.kind_sign operator.symbol) (stands.at_strength .unary)
        fun _ => stands.unfolded
    -- an operator stands anywhere once it is in parentheses, one level deeper
    apply exists_stands_of_parentheses renders
    have shallow := stands.shallow
    rw [Rendering.level_cons]
    omega
  | .binary operator left right span, proper, level => by
    obtain ⟨before, first⟩ := exists_stands left proper.1 (level + 1)
    obtain ⟨behind, second⟩ := exists_stands right proper.2 (level + 1)
    have renders : Renders (level + 1)
        (.expression _ (.binary operator left right span)) _ :=
      .binary (Token.kind_sign operator.symbol) (first.at_strength _)
        (second.at_strength _)
    apply exists_stands_of_parentheses renders
    have shallow := first.shallow
    have shallowToo := second.shallow
    rw [Rendering.level_append, Rendering.level_cons]
    omega
  -- a trailing part goes on where its front already stands
  | .call callee arguments span, proper, level => by
    obtain ⟨before, first⟩ := exists_stands callee proper.2.1 level
    obtain ⟨inside, second, shallow⟩ :=
      exists_renders_arguments arguments proper.2.2 level
    have renders : Renders level
        (.expression .primary (.call callee arguments span)) _ :=
      .call (Token.kind_sign .openParen) (Token.kind_sign .closeParen)
        first.renders second
    refine ⟨_, first.extend renders ?_ (Nat.le_max_left _ _) ?_⟩
    · simp
    · rw [Rendering.level_bracketed, height]
      omega
  | .member object field span, proper, level => by
    obtain ⟨before, first⟩ := exists_stands object proper level
    have renders : Renders level
        (.expression .primary (.member object field span)) _ :=
      .member (Token.kind_sign .dot) (Token.kind_named field.name)
        first.renders
    refine ⟨_, first.extend renders ?_ (Nat.le_refl _) ?_⟩
    · simp
    · simp [Rendering.level]
  | .index array subscript span, proper, level => by
    obtain ⟨before, first⟩ := exists_stands array proper.1 level
    obtain ⟨inside, second⟩ := exists_stands subscript proper.2 (level + 1)
    have renders : Renders level
        (.expression .primary (.index array subscript span)) _ :=
      .index (Token.kind_sign .openBracket) (Token.kind_sign .closeBracket)
        first.renders first.apart (second.at_strength .logicalOr)
    have shallow := second.shallow
    refine ⟨_, first.extend renders ?_ (Nat.le_max_left _ _) ?_⟩
    · simp
    · rw [Rendering.level_bracketed, height]
      omega
  | .cast operand target span, proper, level => by
    obtain ⟨before, first⟩ := exists_stands operand proper (level + 1)
    obtain ⟨row, spelled⟩ := target.exists_spelled
    have renders : Renders (level + 1)
        (.expression .cast (.cast operand target span)) _ :=
      .cast (Token.kind_word .castAs) (first.at_strength .cast) spelled
    apply exists_stands_of_parentheses renders
    have shallow := first.shallow
    have flat := Rendering.level_flat_le (level + 1) row
    rw [Rendering.level_append, Rendering.level_cons]
    omega
  | .create type none span, proper, level => by
    obtain ⟨dataType, isArray, place⟩ := type
    obtain rfl : isArray = false := proper.1.symm
    obtain ⟨token, names⟩ := dataType.exists_token
    have renders : Renders (level + 1)
        (.expression .primary (.create ⟨dataType, false, place⟩ none span)) _ :=
      .createObject (Token.kind_word .newObject) names
    exact exists_stands_of_parentheses renders (by simp [Rendering.level])
  | .create type (some size) span, proper, level => by
    obtain ⟨dataType, isArray, place⟩ := type
    obtain rfl : isArray = true := proper.1.symm
    obtain ⟨token, names⟩ := dataType.exists_token
    obtain ⟨inside, stands⟩ := exists_stands size proper.2.1 (level + 1)
    have renders : Renders level
        (.expression .primary
          (.create ⟨dataType, true, place⟩ (some size) span)) _ :=
      .createArray (Token.kind_word .newObject) names
        (Token.kind_sign .openBracket) (Token.kind_sign .closeBracket)
        (stands.at_strength .logicalOr)
    refine ⟨_, .of_long renders ?_ ?_⟩
    · have shallow := stands.shallow
      rw [Rendering.level_cons, Rendering.level_cons, Rendering.level_bracketed,
        height, heightOfSize]
      omega
    · simp
  | .arrayLength array span, proper, level => by
    obtain ⟨before, first⟩ := exists_stands array proper level
    have renders : Renders level
        (.expression .primary (.arrayLength array span)) _ :=
      .arrayLength (Token.kind_sign .dot) (Token.kind_word .length)
        first.renders
    refine ⟨_, first.extend renders ?_ (Nat.le_refl _) ?_⟩
    · simp
    · simp [Rendering.level]

/-- Proper arguments have a rendering, by induction on them. -/
theorem exists_renders_arguments :
    ∀ arguments : List (Argument Expression),
      ProperArguments True arguments → ∀ level,
        ∃ rendering, Renders level (.arguments arguments) rendering ∧
          rendering.level ≤ level + heightOfArguments arguments
  | [], _, level => ⟨[], .noArguments, Nat.zero_le _⟩
  | [⟨called, value, span⟩], proper, level => by
    obtain ⟨inside, stands⟩ := exists_stands value proper.1 (level + 1)
    obtain ⟨row, named⟩ := Identifier.exists_spelledAs called
    have renders : Renders level (.arguments [⟨called, value, span⟩]) _ :=
      .lastArgument named (stands.at_strength .logicalOr)
    refine ⟨_, renders, ?_⟩
    have shallow := stands.shallow
    have flat := Rendering.level_flat_le level row
    simp only [Rendering.level_append, heightOfArguments, heightOfArgument]
    omega
  | ⟨called, value, span⟩ :: following :: more, proper, level => by
    obtain ⟨inside, stands⟩ := exists_stands value proper.1 (level + 1)
    obtain ⟨row, named⟩ := Identifier.exists_spelledAs called
    obtain ⟨behind, rest, shallowRest⟩ :=
      exists_renders_arguments (following :: more) proper.2 level
    have renders : Renders level
        (.arguments (⟨called, value, span⟩ :: following :: more)) _ :=
      .nextArgument (Token.kind_sign .comma) named
        (stands.at_strength .logicalOr) rest
    refine ⟨_, renders, ?_⟩
    have shallow := stands.shallow
    have flat := Rendering.level_flat_le level row
    rw [heightOfArguments, heightOfArgument]
    simp only [Rendering.level_append, Rendering.level_cons]
    omega

end

end Expression

/-! ## Expressions that are read back -/

namespace Expression

mutual

/-- A proper expression is well-shaped, by induction on it. -/
theorem wellShaped_of_proper :
    ∀ tree : Expression, tree.Proper True → tree.WellShaped
  | .literal _, _ => .literal
  | .name _, _ => .name
  | .unary _ operand _, proper => .unary (wellShaped_of_proper operand proper)
  | .binary _ left right _, proper =>
    .binary (wellShaped_of_proper left proper.1)
      (wellShaped_of_proper right proper.2)
  | .call callee arguments _, proper =>
    .call proper.1 (wellShaped_of_proper callee proper.2.1)
      (wellShaped_of_properArguments arguments proper.2.2)
  | .member object _ _, proper => .member (wellShaped_of_proper object proper)
  | .index array subscript _, proper =>
    .index (wellShaped_of_proper array proper.1)
      (wellShaped_of_proper subscript proper.2)
  | .cast operand _ _, proper => .cast (wellShaped_of_proper operand proper)
  | .create _ none _, proper => .createObject proper.1.symm
  | .create _ (some size) _, proper => by
    refine .createArray proper.1.symm (wellShaped_of_proper size proper.2.1) ?_
    rintro count place rfl
    exact Int32.not_lt.1 (of_decide_eq_false (proper.2.2 trivial))
  | .arrayLength array _, proper =>
    .arrayLength (wellShaped_of_proper array proper)

theorem wellShaped_of_properArguments :
    ∀ arguments : List (Argument Expression), ProperArguments True arguments →
      ∀ argument ∈ arguments, WellShaped argument.value
  | [], _ => List.forall_mem_nil _
  | ⟨_, value, _⟩ :: rest, proper =>
    List.forall_mem_cons.2 ⟨wellShaped_of_proper value proper.1,
      wellShaped_of_properArguments rest proper.2⟩

end

/-- A proper expression with few enough levels is read from some row. -/
theorem exists_readFrom {tree : Expression} (proper : tree.Proper True)
    (shallow : tree.height < nestingLimit) : ∃ row, tree.ReadFrom row := by
  obtain ⟨rendering, stands⟩ := exists_stands tree proper 1
  have fits : rendering.level ≤ nestingLimit := by
    have levels := stands.shallow
    omega
  exact ⟨_, readFrom_of_renders (wellShaped_of_proper tree proper)
    (stands.at_strength .logicalOr) fits⟩

end Expression

/-! ## Statements -/

theorem AssignmentOperator.assignmentOperator?_symbol
    (operator : AssignmentOperator) :
    (Kind.symbol operator.symbol).assignmentOperator? = some operator := by
  cases operator <;> rfl

namespace Statement

mutual

/-- Every expression in the statement has few enough levels. -/
def Shallow : Statement → Prop
  | .expression value _ => value.height < nestingLimit
  | .assign target _ value _ =>
    target.height < nestingLimit ∧ value.height < nestingLimit
  | .conditional branches otherwise _ =>
    ShallowBranches branches ∧ ShallowOtherwise otherwise
  | .loop condition body _ =>
    condition.height < nestingLimit ∧ ShallowBody body
  | .result value _ =>
    ∀ expression ∈ value, expression.height < nestingLimit
  | .declare _ _ initial _ =>
    ∀ expression ∈ initial, expression.height < nestingLimit

def ShallowBody : List Statement → Prop
  | [] => True
  | statement :: rest => Shallow statement ∧ ShallowBody rest

def ShallowBranch : Branch Statement → Prop
  | ⟨condition, body, _⟩ => condition.height < nestingLimit ∧ ShallowBody body

def ShallowBranches : List (Branch Statement) → Prop
  | [] => True
  | branch :: rest => ShallowBranch branch ∧ ShallowBranches rest

def ShallowOtherwise : Option (List Statement) → Prop
  | none => True
  | some body => ShallowBody body

end

mutual

theorem wellFormed_of_proper :
    ∀ tree : Statement, tree.Proper True → tree.WellFormed
  | .expression _ _, _ => trivial
  | .assign _ _ _ _, proper => proper.1
  | .conditional branches otherwise _, proper =>
    ⟨proper.1, wellFormed_of_properBranches branches proper.2.1,
      wellFormed_of_properOtherwise otherwise proper.2.2⟩
  | .loop _ body _, proper => wellFormed_of_properBody body proper.2
  | .result _ _, _ => trivial
  | .declare _ _ _ _, _ => trivial

theorem wellFormed_of_properBody :
    ∀ body : List Statement, ProperBody True body → WellFormedBody body
  | [], _ => trivial
  | statement :: rest, proper =>
    ⟨wellFormed_of_proper statement proper.1,
      wellFormed_of_properBody rest proper.2⟩

theorem wellFormed_of_properBranches :
    ∀ branches : List (Branch Statement), ProperBranches True branches →
      WellFormedBranches branches
  | [], _ => trivial
  | ⟨_, body, _⟩ :: rest, proper =>
    ⟨wellFormed_of_properBody body proper.1.2,
      wellFormed_of_properBranches rest proper.2⟩

theorem wellFormed_of_properOtherwise :
    ∀ otherwise : Option (List Statement), ProperOtherwise True otherwise →
      WellFormedOtherwise otherwise
  | none, _ => trivial
  | some body, proper => wellFormed_of_properBody body proper

end

theorem exists_initialFrom {initial : Option Expression}
    (proper : ∀ value ∈ initial, value.Within True nestingLimit)
    (shallow : ∀ value ∈ initial, value.height < nestingLimit) :
    ∃ row, Expression.InitialFrom initial row := by
  cases initial with
  | none => exact ⟨_, .absent⟩
  | some value =>
    obtain ⟨row, reads⟩ := Expression.exists_readFrom (proper value rfl).proper
      (shallow value rfl)
    exact ⟨_, .present (Token.kind_sign .assign) reads⟩

mutual

/-- Every proper statement with few enough levels has a layout. -/
theorem exists_laidOut :
    ∀ tree : Statement, tree.Proper True → tree.Shallow →
      ∃ row, LaidOut (.single tree) row
  | .expression value _, proper, shallow => by
    obtain ⟨row, reads⟩ := Expression.exists_readFrom proper.proper shallow
    exact ⟨_, .expression reads Token.kind_line⟩
  | .assign target operator value _, proper, shallow => by
    obtain ⟨before, first⟩ :=
      Expression.exists_readFrom proper.2.1.proper shallow.1
    obtain ⟨behind, second⟩ :=
      Expression.exists_readFrom proper.2.2.proper shallow.2
    have assigns : (Token.sign operator.symbol).kind.assignmentOperator? =
        some operator :=
      operator.assignmentOperator?_symbol
    exact ⟨_, .assign first assigns second Token.kind_line⟩
  | .conditional [] _ _, proper, _ => absurd rfl proper.1
  | .conditional (⟨condition, body, _⟩ :: more) otherwise _, proper,
      shallow => by
    obtain ⟨⟨within, properBody⟩, properMore⟩ := proper.2.1
    obtain ⟨⟨⟨few, shallowBody⟩, shallowMore⟩, shallowLast⟩ := shallow
    obtain ⟨row, reads⟩ := Expression.exists_readFrom within.proper few
    obtain ⟨inside, laid⟩ := exists_laidOut_body body properBody shallowBody
    obtain ⟨behind, rest⟩ := exists_laidOut_arms more otherwise
      (exists_laidOut_otherwise otherwise proper.2.2 shallowLast) properMore
      shallowMore
    exact ⟨_, .conditional (Token.kind_word .ifThen) reads Token.kind_line laid
      rest⟩
  | .loop condition body _, proper, shallow => by
    obtain ⟨row, reads⟩ :=
      Expression.exists_readFrom proper.1.proper shallow.1
    obtain ⟨inside, laid⟩ := exists_laidOut_body body proper.2 shallow.2
    exact ⟨_, .loop (Token.kind_word .whileLoop) reads Token.kind_line laid
      (Token.kind_word .endWhile) Token.kind_line⟩
  | .result none _, _, _ =>
    ⟨_, .result (Token.kind_word .returnValue) Token.kind_line⟩
  | .result (some value) _, proper, shallow => by
    obtain ⟨row, reads⟩ := Expression.exists_readFrom (proper value rfl).proper
      (shallow value rfl)
    exact ⟨_, .resultOf (Token.kind_word .returnValue) reads Token.kind_line⟩
  | .declare type name initial _, proper, shallow => by
    obtain ⟨row, spelled⟩ := type.exists_spelled
    obtain ⟨behind, starts⟩ := exists_initialFrom proper shallow
    exact ⟨_, .declare spelled (Token.kind_named name.name) starts
      Token.kind_line⟩

theorem exists_laidOut_body :
    ∀ body : List Statement, ProperBody True body → ShallowBody body →
      ∃ row, LaidOut (.body body) row
  | [], _, _ => ⟨_, .nil⟩
  | statement :: rest, proper, shallow => by
    obtain ⟨row, laid⟩ := exists_laidOut statement proper.1 shallow.1
    obtain ⟨behind, others⟩ := exists_laidOut_body rest proper.2 shallow.2
    exact ⟨_, .cons laid others⟩

theorem exists_laidOut_otherwise :
    ∀ otherwise : Option (List Statement), ProperOtherwise True otherwise →
      ShallowOtherwise otherwise → ∃ row, LaidOut (.arms [] otherwise) row
  | none, _, _ => ⟨_, .endIf (Token.kind_word .endIf) Token.kind_line⟩
  | some body, proper, shallow => by
    obtain ⟨inside, laid⟩ := exists_laidOut_body body proper shallow
    exact ⟨_, .otherwise (Token.kind_word .otherwise) Token.kind_line laid
      (Token.kind_word .endIf) Token.kind_line⟩

theorem exists_laidOut_arms :
    ∀ (branches : List (Branch Statement)) (otherwise : Option (List Statement)),
      (∃ row, LaidOut (.arms [] otherwise) row) →
        ProperBranches True branches → ShallowBranches branches →
          ∃ row, LaidOut (.arms branches otherwise) row
  | [], _, last, _, _ => last
  | ⟨condition, body, _⟩ :: more, otherwise, last, proper, shallow => by
    obtain ⟨row, reads⟩ :=
      Expression.exists_readFrom proper.1.1.proper shallow.1.1
    obtain ⟨inside, laid⟩ := exists_laidOut_body body proper.1.2 shallow.1.2
    obtain ⟨behind, rest⟩ := exists_laidOut_arms more otherwise last proper.2
      shallow.2
    exact ⟨_, .elseIf (Token.kind_word .elseIf) reads Token.kind_line laid rest⟩

end

end Statement

/-! ## Functions and events -/

theorem exists_documentedEnd (doc : Option String) :
    ∃ row, DocumentedEnd doc row := by
  cases doc with
  | none => exact ⟨_, .absent Token.kind_line⟩
  | some text =>
    exact ⟨_, .inline (Token.kind_comment text) Token.kind_line⟩

namespace Parameter

theorem exists_laidOut {tree : Parameter}
    (finite : Literal.AreFinite tree.default) : ∃ row, tree.LaidOut row := by
  obtain ⟨row, spelled⟩ := tree.type.exists_spelled
  obtain ⟨behind, starts⟩ := Literal.exists_initialSpelled finite
  exact ⟨_, .intro spelled (Token.kind_named tree.name.name) starts⟩

/-- Proper parameters can be written in parentheses. -/
theorem exists_parenthesized {list : List Parameter}
    (proper : Parameter.AreProper list) : ∃ row, Parenthesized list row := by
  have opens := Token.kind_sign .openParen
  have closes := Token.kind_sign .closeParen
  cases list with
  | nil => exact ⟨_, .none opens closes⟩
  | cons first more =>
    suffices listed : ∃ row, Listed (first :: more) row by
      obtain ⟨row, listed⟩ := listed
      exact ⟨_, .some opens listed⟩
    induction more generalizing first with
    | nil =>
      obtain ⟨row, laid⟩ := exists_laidOut (proper first List.mem_cons_self)
      exact ⟨_, .last laid closes⟩
    | cons second more ih =>
      obtain ⟨finite, others⟩ := List.forall_mem_cons.1 proper
      obtain ⟨row, laid⟩ := exists_laidOut finite
      obtain ⟨behind, rest⟩ := ih second others
      exact ⟨_, .next laid (Token.kind_sign .comma) rest⟩

end Parameter

theorem exists_callableFlagged {block : Block} {native global : Bool}
    (allowed : global = true → block = .function) :
    ∃ row, CallableFlagged block native global row := by
  have either : ∃ row, CallableFlagged block false global row := by
    cases global with
    | false => exact ⟨_, .nil⟩
    | true => exact ⟨_, .global (allowed rfl) (Token.kind_word .global) .nil⟩
  obtain ⟨row, flagged⟩ := either
  cases native with
  | false => exact ⟨row, flagged⟩
  | true => exact ⟨_, .native (Token.kind_word .native) flagged⟩

theorem exists_callableBody (block : Block) {list : List Statement}
    {native : Bool} (empty : native = true → list = [])
    (proper : Statement.ProperBody True list)
    (shallow : Statement.ShallowBody list) :
    ∃ row, CallableBody block list native row := by
  cases native with
  | true => exact ⟨_, .native⟩
  | false =>
    obtain ⟨row, laid⟩ := Statement.exists_laidOut_body list proper shallow
    exact ⟨_, .intro laid (Token.kind_word block.terminator) Token.kind_line⟩

/-- A proper and shallow function can be laid out. -/
theorem Function.exists_laidOut {tree : Function} (proper : tree.Proper True)
    (shallow : Statement.ShallowBody tree.body) : ∃ row, tree.LaidOut row := by
  have returns : ∃ row, TypeName.Returned tree.returnType row := by
    cases tree.returnType with
    | none => exact ⟨_, .nothing⟩
    | some type =>
      obtain ⟨row, spelled⟩ := type.exists_spelled
      exact ⟨row, .value spelled⟩
  obtain ⟨type, returns⟩ := returns
  obtain ⟨row, listed⟩ := Parameter.exists_parenthesized proper.parameters
  obtain ⟨flags, flagged⟩ : ∃ row,
      CallableFlagged .function tree.native tree.global row :=
    exists_callableFlagged fun _ => rfl
  obtain ⟨docs, documented⟩ := exists_documentedEnd tree.doc
  obtain ⟨inside, laid⟩ :=
    exists_callableBody .function proper.native proper.body shallow
  exact ⟨_, .intro returns (Token.kind_word .function)
    (Token.kind_named tree.name.name) listed flagged documented laid⟩

theorem Event.exists_laidOut {tree : Event} (proper : tree.Proper True)
    (shallow : Statement.ShallowBody tree.body) : ∃ row, tree.LaidOut row := by
  obtain ⟨row, listed⟩ := Parameter.exists_parenthesized proper.parameters
  obtain ⟨flags, flagged⟩ : ∃ row,
      CallableFlagged .event tree.native false row :=
    exists_callableFlagged nofun
  obtain ⟨docs, documented⟩ := exists_documentedEnd tree.doc
  obtain ⟨inside, laid⟩ :=
    exists_callableBody .event proper.native proper.body shallow
  exact ⟨_, .intro (Token.kind_word .event) (Token.kind_named tree.name.name)
    listed flagged documented laid⟩

/-! ## Variables and properties -/

theorem Variable.exists_laidOut {tree : Variable} (proper : tree.Proper) :
    ∃ row, tree.LaidOut row := by
  obtain ⟨row, spelled⟩ := tree.type.exists_spelled
  obtain ⟨behind, starts⟩ := Literal.exists_initialSpelled proper
  have flagged : ∃ flags, VariableFlagged tree.conditional flags := by
    cases tree.conditional with
    | false => exact ⟨_, .nil⟩
    | true => exact ⟨_, .conditional (Token.kind_word .conditional) .nil⟩
  obtain ⟨flags, flagged⟩ := flagged
  exact ⟨_, .intro spelled (Token.kind_named tree.name.name) starts flagged
    Token.kind_line⟩

/-- With any flags a property may also be hidden and conditional. -/
theorem exists_propertyFlagged {automatic : Option Keyword} {row : List Token}
    (flagged : PropertyFlagged automatic false false row)
    (hidden conditional : Bool) :
    ∃ row, PropertyFlagged automatic hidden conditional row := by
  have either : ∃ row, PropertyFlagged automatic hidden false row := by
    cases hidden with
    | false => exact ⟨row, flagged⟩
    | true => exact ⟨_, .hidden (Token.kind_word .hidden) flagged⟩
  obtain ⟨row, flagged⟩ := either
  cases conditional with
  | false => exact ⟨row, flagged⟩
  | true => exact ⟨_, .conditional (Token.kind_word .conditional) flagged⟩

/-- The functions of a property have few enough levels. -/
def PropertySource.Shallow : PropertySource → Prop
  | .full getter setter =>
    (∀ tree ∈ getter, Statement.ShallowBody tree.body) ∧
      ∀ tree ∈ setter, Statement.ShallowBody tree.body
  | _ => True

theorem exists_laidOutIfAny {slot : Option Function}
    (proper : ∀ tree ∈ slot, tree.Proper True)
    (shallow : ∀ tree ∈ slot, Statement.ShallowBody tree.body) :
    ∃ row, Function.LaidOutIfAny slot row := by
  cases slot with
  | none => exact ⟨_, .absent⟩
  | some tree =>
    obtain ⟨row, laid⟩ :=
      Function.exists_laidOut (proper tree rfl) (shallow tree rfl)
    exact ⟨row, .present laid⟩

/-- What the header of a property says of its source, and what follows it. -/
theorem PropertySource.exists_laidOut {source : PropertySource}
    (proper : source.Proper True) (shallow : source.Shallow) :
    ∃ initial automatic flags block, Literal.AreFinite initial ∧
      PropertyFlagged automatic false false flags ∧
        source.LaidOut initial automatic block := by
  cases source with
  | auto initial =>
    exact ⟨_, _, _, _, proper, .auto (Token.kind_word .auto) .nil, .auto⟩
  | readOnly initial =>
    have finite : Literal.AreFinite (some initial) := by
      rintro _ ⟨⟩
      exact proper
    exact ⟨_, _, _, _, finite,
      .autoReadOnly (Token.kind_word .autoReadOnly) .nil, .readOnly⟩
  | full getter setter =>
    obtain ⟨first, gets⟩ := exists_laidOutIfAny
      (fun tree isGetter => (proper.1 tree isGetter).toProper) shallow.1
    obtain ⟨second, sets⟩ := exists_laidOutIfAny
      (fun tree isSetter => (proper.2.1 tree isSetter).toProper) shallow.2
    exact ⟨none, none, _, _, nofun, .nil,
      .full gets sets (Token.kind_word .endProperty) Token.kind_line⟩

theorem Property.exists_laidOut {tree : Property}
    (proper : tree.source.Proper True) (shallow : tree.source.Shallow) :
    ∃ row, tree.LaidOut row := by
  obtain ⟨row, spelled⟩ := tree.type.exists_spelled
  obtain ⟨initial, automatic, _, block, finite, plain, laid⟩ :=
    PropertySource.exists_laidOut proper shallow
  obtain ⟨behind, starts⟩ := Literal.exists_initialSpelled finite
  obtain ⟨flags, flagged⟩ :=
    exists_propertyFlagged plain tree.hidden tree.conditional
  obtain ⟨docs, documented⟩ := exists_documentedEnd tree.doc
  exact ⟨_, .intro spelled (Token.kind_word .property)
    (Token.kind_named tree.name.name) starts flagged documented laid⟩

/-! ## Scripts -/

/-- The bodies of a member have few enough levels. -/
def Member.Shallow : Member → Prop
  | .variable _ => True
  | .property tree => tree.source.Shallow
  | .function tree => Statement.ShallowBody tree.body
  | .event tree => Statement.ShallowBody tree.body
  | .state tree => ∀ event ∈ tree.events, Statement.ShallowBody event.body

/-- Every expression in a script has few enough levels to be read with all its
parts in parentheses. -/
def Script.Shallow (tree : Script) : Prop :=
  ∀ member ∈ tree.members, member.Shallow

theorem exists_laidOutInTurn {α : Type} {laid : α → List Token → Prop}
    {list : List α} (each : ∀ tree ∈ list, ∃ row, laid tree row) :
    ∃ row, LaidOutInTurn laid list row := by
  induction list with
  | nil => exact ⟨_, .nil⟩
  | cons first more ih =>
    obtain ⟨⟨row, head⟩, others⟩ := List.forall_mem_cons.1 each
    obtain ⟨behind, tail⟩ := ih others
    exact ⟨_, .cons head tail⟩

theorem ScriptState.exists_laidOut {tree : ScriptState}
    (proper : ∀ event ∈ tree.events, event.Proper True)
    (shallow : ∀ event ∈ tree.events, Statement.ShallowBody event.body) :
    ∃ row, tree.LaidOut row := by
  have marked : ∃ mark, AutoMarked tree.auto mark := by
    cases tree.auto with
    | false => exact ⟨_, .plain⟩
    | true => exact ⟨_, .auto (Token.kind_word .auto)⟩
  obtain ⟨mark, marked⟩ := marked
  obtain ⟨row, laid⟩ := exists_laidOutInTurn fun event isEvent =>
    Event.exists_laidOut (proper event isEvent) (shallow event isEvent)
  exact ⟨_, .intro marked (Token.kind_word .state)
    (Token.kind_named tree.name.name) Token.kind_line laid
    (Token.kind_word .endState) Token.kind_line⟩

theorem Member.exists_laidOut : ∀ {tree : Member}, tree.Proper True →
    tree.Shallow → ∃ row, tree.LaidOut row
  | .variable _, proper, _ =>
    (Variable.exists_laidOut proper).imp fun _ => .declared
  | .property _, proper, shallow =>
    (Property.exists_laidOut proper shallow).imp fun _ => .property
  | .function _, proper, shallow =>
    (Function.exists_laidOut proper shallow).imp fun _ => .function
  | .event _, proper, shallow =>
    (Event.exists_laidOut proper shallow).imp fun _ => .event
  | .state _, proper, shallow =>
    (ScriptState.exists_laidOut proper shallow).imp fun _ => .state

theorem Function.Proper.wellFormed {tree : Function}
    (proper : tree.Proper True) : tree.WellFormed :=
  ⟨proper.native, Statement.wellFormed_of_properBody _ proper.body⟩

theorem Event.Proper.wellFormed {tree : Event}
    (proper : tree.Proper True) : tree.WellFormed :=
  ⟨proper.native, Statement.wellFormed_of_properBody _ proper.body⟩

theorem PropertySource.wellFormed_of_proper :
    ∀ source : PropertySource, source.Proper True → source.WellFormed
  | .auto _, _ => trivial
  | .readOnly _, _ => trivial
  | .full getter setter, ⟨gets, sets, several⟩ => by
    refine ⟨several trivial, fun tree isGetter => ?_, fun tree isSetter => ?_⟩
    · have known := gets tree isGetter
      exact ⟨known.toProper.wellFormed, known.named,
        known.takesNothing trivial⟩
    · have known := sets tree isSetter
      exact ⟨known.toProper.wellFormed, known.named,
        known.takesOne trivial⟩

theorem Member.wellFormed_of_proper :
    ∀ member : Member, member.Proper True → member.WellFormed
  | .variable _, _ => trivial
  | .property tree, proper => tree.source.wellFormed_of_proper proper
  | .function _, proper => Function.Proper.wellFormed proper
  | .event _, proper => Event.Proper.wellFormed proper
  | .state _, proper => fun event isEvent =>
    (proper event isEvent).wellFormed

/-- The flags of a script can be written in one order. -/
theorem exists_scriptFlagged (hidden conditional native : Bool) :
    ∃ row, ScriptFlagged hidden conditional native row := by
  have first : ∃ row, ScriptFlagged hidden false false row := by
    cases hidden with
    | false => exact ⟨_, .nil⟩
    | true => exact ⟨_, .hidden (Token.kind_word .hidden) .nil⟩
  obtain ⟨row, first⟩ := first
  have second : ∃ row, ScriptFlagged hidden conditional false row := by
    cases conditional with
    | false => exact ⟨row, first⟩
    | true => exact ⟨_, .conditional (Token.kind_word .conditional) first⟩
  obtain ⟨row, second⟩ := second
  cases native with
  | false => exact ⟨row, second⟩
  | true => exact ⟨_, .native (Token.kind_word .native) second⟩

namespace Script

variable {tree : Script}

/-- Every proper script with few enough levels has a layout. -/
theorem exists_laidOut (proper : tree.Proper True) (shallow : tree.Shallow) :
    ∃ row, tree.LaidOut row := by
  have extended : ∃ row, Identifier.ExtendedBy tree.parent row := by
    cases tree.parent with
    | none => exact ⟨_, .nothing⟩
    | some name =>
      exact ⟨_, .parent (Token.kind_word .extendsParent)
        (Token.kind_named name.name)⟩
  obtain ⟨extending, extended⟩ := extended
  obtain ⟨flags, flagged⟩ :=
    exists_scriptFlagged tree.hidden tree.conditional tree.native
  obtain ⟨docs, documented⟩ := exists_documentedEnd tree.doc
  obtain ⟨first, imported⟩ : ∃ row,
      LaidOutInTurn Import.LaidOut tree.imports row :=
    exists_laidOutInTurn fun line _ =>
      ⟨_, .intro (Token.kind_word .importScript)
        (Token.kind_named line.name.name) Token.kind_line⟩
  obtain ⟨second, laid⟩ := exists_laidOutInTurn fun member isMember =>
    Member.exists_laidOut (proper member isMember) (shallow member isMember)
  exact ⟨_, .intro (Token.kind_word .scriptname)
    (Token.kind_named tree.name.name) extended flagged documented imported laid⟩

theorem wellFormed_of_proper (proper : tree.Proper True) : tree.WellFormed :=
  fun member isMember => member.wellFormed_of_proper (proper member isMember)

/-- Every proper script with few enough levels is read, up to the places of its
parts, from some tokens without a report. -/
theorem exists_tokens (proper : tree.Proper True) (shallow : tree.Shallow) :
    ∃ row, (Parsed.ofTokens row).diagnostics = [] ∧
      (Parsed.ofTokens row).script.bare = tree.bare := by
  obtain ⟨row, laid⟩ := exists_laidOut proper shallow
  exact ⟨row ++ [], script_reads_layout laid (wellFormed_of_proper proper)
    .missing⟩

end Script

end PapyrusScript
