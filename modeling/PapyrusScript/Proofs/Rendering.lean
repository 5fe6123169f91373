import PapyrusScript.Grammar.Expression

/-!
# Bare expressions and their renderings

A bare tree says what a script means to say but not where it says it: every
stretch of source is replaced by the same one.  Two trees are the same up to
their places if they are the same when bare.

A rendering of an expression is a row of tokens, each with its level: the
number of expressions that it stands in.  The whole expression counts, as do
those in parentheses, subscripts, arguments and array sizes, and the operand
of a prefix operator.

`Renders` says which rows of tokens render an expression at a level and at a
strength of binding.  An expression may always stand in parentheses; it must
when it binds less strongly than its place asks for.  Two more places need
parentheses: a bare `New T` in front of a subscript, which would be its size,
and a bare integer behind a minus, which would be its sign.
-/

namespace PapyrusScript

open Reader

variable {strength : Precedence} {rendering : Rendering} {tree : Expression}

/-! ## Bare trees -/

/-- The stretch of source of everything in a bare tree. -/
def Span.nowhere : Span := .point .origin

/-- A name without its place. -/
def Identifier.bare (node : Identifier) : Identifier :=
  { node with span := .nowhere }

/-- A literal without its place. -/
def Literal.bare (node : Literal) : Literal := { node with span := .nowhere }

/-- A type without its place. -/
def TypeName.bare (type : TypeName) : TypeName := { type with span := .nowhere }

namespace Expression

mutual

/-- An expression without the places of its parts. -/
def bare : Expression → Expression
  | .literal node => .literal node.bare
  | .name node => .name node.bare
  | .unary operator operand _ => .unary operator (bare operand) .nowhere
  | .binary operator left right _ =>
    .binary operator (bare left) (bare right) .nowhere
  | .call callee arguments _ =>
    .call (bare callee) (bareArguments arguments) .nowhere
  | .member object field _ => .member (bare object) field.bare .nowhere
  | .index array subscript _ => .index (bare array) (bare subscript) .nowhere
  | .cast operand target _ => .cast (bare operand) target.bare .nowhere
  | .create type size _ => .create type.bare (bareSize size) .nowhere
  | .arrayLength array _ => .arrayLength (bare array) .nowhere

def bareSize : Option Expression → Option Expression
  | none => none
  | some size => some (bare size)

def bareArgument : Argument Expression → Argument Expression
  | ⟨called, value, _⟩ => ⟨called.map Identifier.bare, bare value, .nowhere⟩

def bareArguments : List (Argument Expression) → List (Argument Expression)
  | [] => []
  | argument :: rest => bareArgument argument :: bareArguments rest

end

@[simp]
theorem isCallable_bare (tree : Expression) :
    tree.bare.isCallable = tree.isCallable := by
  cases tree <;> rfl

@[simp]
theorem isAssignable_bare (tree : Expression) :
    tree.bare.isAssignable = tree.isAssignable := by
  cases tree <;> rfl

theorem eq_literal_of_bare_eq {tree : Expression} {node : Literal}
    (same : tree.bare = .literal node.bare) :
    ∃ span, tree = .literal ⟨node.value, span⟩ := by
  cases tree with
  | literal found =>
    obtain ⟨value, span⟩ := found
    simp only [bare, Literal.bare, Expression.literal.injEq,
      Literal.mk.injEq] at same
    exact ⟨span, by rw [same.1]⟩
  | _ => simp [bare] at same

end Expression

/-! ## Renderings -/

/-- A row of tokens, each with the number of expressions that it stands in. -/
abbrev Rendering := List (Token × Nat)

namespace Rendering

/-- The tokens of a rendering. -/
def tokens (rendering : Rendering) : List Token := rendering.map Prod.fst

/-- The largest level of a token. -/
def level (rendering : Rendering) : Nat :=
  rendering.foldr (fun entry rest => max entry.2 rest) 0

def flat (level : Nat) (tokens : List Token) : Rendering :=
  tokens.map fun token => (token, level)

@[simp]
theorem tokens_nil : tokens [] = [] := rfl

@[simp]
theorem tokens_cons (token : Token) (level : Nat) (rest : Rendering) :
    tokens ((token, level) :: rest) = token :: rest.tokens :=
  rfl

@[simp]
theorem tokens_append (first second : Rendering) :
    tokens (first ++ second) = first.tokens ++ second.tokens :=
  List.map_append

@[simp]
theorem tokens_flat (level : Nat) (row : List Token) :
    (flat level row).tokens = row := by
  unfold tokens flat
  rw [List.map_map]
  exact List.map_id row

end Rendering

/-- How strongly a token of the kind would bind what stands in front of it,
if it can continue an expression. -/
def Kind.continuation? : Kind → Option Precedence
  | .symbol .dot => some .primary
  | .symbol .openBracket => some .primary
  | .symbol .openParen => some .primary
  | .keyword .castAs => some .cast
  | kind => kind.binaryOperator?.map BinaryOperator.precedence

/-- The value that a token is the literal of. -/
inductive Token.Spells (token : Token) : Value → Prop
  | bool (value : Bool)
      (kind : token.kind =
        .keyword (if value then .trueLiteral else .falseLiteral)) :
      Spells token (.bool value)
  | int {number : Int32} (kind : token.kind = .intLiteral)
      (reads : Number.integer? false token.text.toList = some number) :
      Spells token (.int number)
  | float {number : Single} (kind : token.kind = .floatLiteral)
      (reads : Single.ofText? token.text.toList = some number)
      (bounded : number.isInfinite = false) : Spells token (.float number)
  | string (kind : token.kind = .stringLiteral) :
      Spells token (.string token.text)
  | none (kind : token.kind = .keyword .noneLiteral) : Spells token .none
  | selfReference (kind : token.kind = .keyword .selfReference) :
      Spells token .selfReference
  | parentReference (kind : token.kind = .keyword .parentReference) :
      Spells token .parentReference

/-- The kind of the token that names a data type. -/
def DataType.kind : DataType → Kind
  | .bool => .keyword .boolType
  | .int => .keyword .intType
  | .float => .keyword .floatType
  | .string => .keyword .stringType
  | .object _ => .identifier

/-- A built-in type is named by its keyword, and a script by any name, which
is then its own. -/
theorem Reader.dataType?_eq_some_iff {token : Token} {dataType : DataType} :
    dataType? token = some dataType ↔
      token.kind = dataType.kind ∧
        ∀ name, dataType = .object name → token.text = name := by
  unfold dataType?
  constructor
  · intro names
    split at names
    all_goals cases names
    all_goals exact ⟨‹_›, by simp⟩
  · rintro ⟨kind, text⟩
    rw [kind]
    cases dataType with
    | object name => exact congrArg (some ∘ DataType.object) (text name rfl)
    | _ => rfl

/-- The tokens of a type. -/
inductive TypeName.Spelled : TypeName → List Token → Prop
  | plain {token : Token} {dataType : DataType} {span : Span}
      (names : dataType? token = some dataType) :
      Spelled ⟨dataType, false, span⟩ [token]
  | array {token opening closing : Token} {dataType : DataType} {span : Span}
      (names : dataType? token = some dataType)
      (opens : opening.kind = .symbol .openBracket)
      (closes : closing.kind = .symbol .closeBracket) :
      Spelled ⟨dataType, true, span⟩ [token, opening, closing]

/-- The tokens in front of the value of an argument. -/
inductive Identifier.SpelledAs : Option Identifier → List Token → Prop
  | unnamed : SpelledAs none []
  | named {token sign : Token} {span : Span}
      (kind : token.kind = .identifier)
      (assigns : sign.kind = .symbol .assign) :
      SpelledAs (some ⟨token.text, span⟩) [token, sign]

/-- The shape of the expressions that can be read at all.  Only names and
members are called, and a new array has a size, which is small if it is a
literal.  Literals are of any value; but one that no token spells, such as
infinity, has no rendering. -/
inductive Expression.WellShaped : Expression → Prop
  | literal {node : Literal} : WellShaped (.literal node)
  | name {node : Identifier} : WellShaped (.name node)
  | unary {operator : UnaryOperator} {operand : Expression} {span : Span}
      (shaped : WellShaped operand) : WellShaped (.unary operator operand span)
  | binary {operator : BinaryOperator} {left right : Expression} {span : Span}
      (first : WellShaped left) (second : WellShaped right) :
      WellShaped (.binary operator left right span)
  | call {callee : Expression} {arguments : List (Argument Expression)}
      {span : Span} (callable : callee.isCallable = true)
      (first : WellShaped callee)
      (second : ∀ argument ∈ arguments, WellShaped argument.value) :
      WellShaped (.call callee arguments span)
  | member {object : Expression} {field : Identifier} {span : Span}
      (shaped : WellShaped object) : WellShaped (.member object field span)
  | index {array subscript : Expression} {span : Span}
      (first : WellShaped array) (second : WellShaped subscript) :
      WellShaped (.index array subscript span)
  | cast {operand : Expression} {target : TypeName} {span : Span}
      (shaped : WellShaped operand) : WellShaped (.cast operand target span)
  | createObject {type : TypeName} {span : Span}
      (single : type.isArray = false) : WellShaped (.create type none span)
  | createArray {type : TypeName} {size : Expression} {span : Span}
      (several : type.isArray = true) (shaped : WellShaped size)
      (small : ∀ count place, size = .literal ⟨.int count, place⟩ →
        count ≤ arrayLimit) :
      WellShaped (.create type (some size) span)
  | arrayLength {array : Expression} {span : Span}
      (shaped : WellShaped array) : WellShaped (.arrayLength array span)

/-- What a rendering is of: an expression in a place that asks for a strength
of binding, or the arguments of a call. -/
inductive Part where
  | expression (strength : Precedence) (tree : Expression)
  | arguments (list : List (Argument Expression))

/-- The rendering is the bare creation of an object, which must not stand in
front of a bracket. -/
def Rendering.isCreation : Rendering → Bool
  | [(keyword, _), _] => keyword.kind = .keyword .newObject
  | _ => false

/-- The rendering is one integer, which must not stand behind a minus. -/
def Rendering.isInteger : Rendering → Bool
  | [(token, _)] => token.kind = .intLiteral
  | _ => false

/-- A rendering of a part of an expression at a level. -/
inductive Renders : Nat → Part → Rendering → Prop
  | literal {level : Nat} {token : Token} {value : Value} {span : Span}
      (spells : token.Spells value) :
      Renders level (.expression .primary (.literal ⟨value, span⟩))
        [(token, level)]
  | signed {level : Nat} {minus token : Token} {number : Int32} {span : Span}
      (sign : minus.kind = .symbol .minus) (kind : token.kind = .intLiteral)
      (reads : Number.integer? true token.text.toList = some number) :
      Renders level (.expression .unary (.literal ⟨.int number, span⟩))
        [(minus, level), (token, level)]
  | name {level : Nat} {token : Token} {span : Span}
      (kind : token.kind = .identifier) :
      Renders level (.expression .primary (.name ⟨token.text, span⟩))
        [(token, level)]
  | parenthesized {level : Nat} {opening closing : Token}
      {tree : Expression} {inside : Rendering}
      (opens : opening.kind = .symbol .openParen)
      (closes : closing.kind = .symbol .closeParen)
      (renders : Renders (level + 1) (.expression .logicalOr tree) inside) :
      Renders level (.expression .primary tree)
        ((opening, level) :: (inside ++ [(closing, level)]))
  | weaken {level : Nat} {strength weaker : Precedence}
      {tree : Expression} {rendering : Rendering}
      (renders : Renders level (.expression strength tree) rendering)
      (allowed : weaker.rank ≤ strength.rank) :
      Renders level (.expression weaker tree) rendering
  | unary {level : Nat} {operator : UnaryOperator} {sign : Token}
      {operand : Expression} {span : Span} {behind : Rendering}
      (kind : sign.kind = .symbol operator.symbol)
      (renders : Renders (level + 1) (.expression .unary operand) behind)
      (unfolded : operator = .negate → behind.isInteger = false) :
      Renders level (.expression .unary (.unary operator operand span))
        ((sign, level) :: behind)
  | binary {level : Nat} {operator : BinaryOperator} {sign : Token}
      {left right : Expression} {span : Span} {before behind : Rendering}
      (kind : sign.kind = .symbol operator.symbol)
      (first : Renders level (.expression operator.precedence left) before)
      (second :
        Renders level (.expression operator.precedence.next right) behind) :
      Renders level
        (.expression operator.precedence (.binary operator left right span))
        (before ++ (sign, level) :: behind)
  | cast {level : Nat} {word : Token} {operand : Expression}
      {target : TypeName} {span : Span} {before : Rendering}
      {type : List Token} (kind : word.kind = .keyword .castAs)
      (renders : Renders level (.expression .cast operand) before)
      (spelled : target.Spelled type) :
      Renders level (.expression .cast (.cast operand target span))
        (before ++ (word, level) :: Rendering.flat level type)
  | member {level : Nat} {dot token : Token} {object : Expression}
      {fieldSpan span : Span} {before : Rendering}
      (kind : dot.kind = .symbol .dot) (named : token.kind = .identifier)
      (renders : Renders level (.expression .primary object) before) :
      Renders level
        (.expression .primary (.member object ⟨token.text, fieldSpan⟩ span))
        (before ++ [(dot, level), (token, level)])
  | arrayLength {level : Nat} {dot word : Token} {array : Expression}
      {span : Span} {before : Rendering} (kind : dot.kind = .symbol .dot)
      (length : word.kind = .keyword .length)
      (renders : Renders level (.expression .primary array) before) :
      Renders level (.expression .primary (.arrayLength array span))
        (before ++ [(dot, level), (word, level)])
  | index {level : Nat} {opening closing : Token}
      {array subscript : Expression} {span : Span} {before inside : Rendering}
      (opens : opening.kind = .symbol .openBracket)
      (closes : closing.kind = .symbol .closeBracket)
      (first : Renders level (.expression .primary array) before)
      (apart : before.isCreation = false)
      (second : Renders (level + 1) (.expression .logicalOr subscript) inside) :
      Renders level (.expression .primary (.index array subscript span))
        (before ++ (opening, level) :: (inside ++ [(closing, level)]))
  | call {level : Nat} {opening closing : Token} {callee : Expression}
      {arguments : List (Argument Expression)} {span : Span}
      {before inside : Rendering} (opens : opening.kind = .symbol .openParen)
      (closes : closing.kind = .symbol .closeParen)
      (first : Renders level (.expression .primary callee) before)
      (second : Renders level (.arguments arguments) inside) :
      Renders level (.expression .primary (.call callee arguments span))
        (before ++ (opening, level) :: (inside ++ [(closing, level)]))
  | createObject {level : Nat} {keyword token : Token} {dataType : DataType}
      {typeSpan span : Span} (kind : keyword.kind = .keyword .newObject)
      (names : dataType? token = some dataType) :
      Renders level
        (.expression .primary
          (.create ⟨dataType, false, typeSpan⟩ none span))
        [(keyword, level), (token, level)]
  | createArray {level : Nat} {keyword token opening closing : Token}
      {dataType : DataType} {size : Expression} {typeSpan span : Span}
      {inside : Rendering} (kind : keyword.kind = .keyword .newObject)
      (names : dataType? token = some dataType)
      (opens : opening.kind = .symbol .openBracket)
      (closes : closing.kind = .symbol .closeBracket)
      (renders : Renders (level + 1) (.expression .logicalOr size) inside) :
      Renders level
        (.expression .primary
          (.create ⟨dataType, true, typeSpan⟩ (some size) span))
        ((keyword, level) :: (token, level) :: (opening, level) ::
          (inside ++ [(closing, level)]))
  | noArguments {level : Nat} : Renders level (.arguments []) []
  | lastArgument {level : Nat} {argument : Argument Expression}
      {before : List Token} {inside : Rendering}
      (named : Identifier.SpelledAs argument.name before)
      (renders :
        Renders (level + 1) (.expression .logicalOr argument.value) inside) :
      Renders level (.arguments [argument])
        (Rendering.flat level before ++ inside)
  | nextArgument {level : Nat} {comma : Token}
      {argument following : Argument Expression}
      {more : List (Argument Expression)} {before : List Token}
      {inside behind : Rendering} (kind : comma.kind = .symbol .comma)
      (named : Identifier.SpelledAs argument.name before)
      (renders :
        Renders (level + 1) (.expression .logicalOr argument.value) inside)
      (rest : Renders level (.arguments (following :: more)) behind) :
      Renders level (.arguments (argument :: following :: more))
        (Rendering.flat level before ++ (inside ++ (comma, level) :: behind))

/-! ## The first two tokens -/

def Kind.startsExpression (kind : Kind) : Bool :=
  isLiteralKind kind || kind.unaryOperator?.isSome ||
    kind = .identifier || kind = .symbol .openParen ||
    kind = .keyword .newObject

theorem Token.Spells.isLiteralKind
    {token : Token} {value : Value} (spells : token.Spells value) :
    Reader.isLiteralKind token.kind = true := by
  cases spells with
  | bool value kind => cases value <;> rw [kind] <;> rfl
  | _ => simp [Reader.isLiteralKind, *]

theorem Kind.startsExpression_of_isLiteralKind
    {kind : Kind} (isLiteral : isLiteralKind kind = true) :
    kind.startsExpression = true ∧ kind.unaryOperator? = none := by
  refine ⟨by simp [startsExpression, isLiteral], ?_⟩
  unfold isLiteralKind at isLiteral
  split at isLiteral <;> first | rfl | cases isLiteral

theorem UnaryOperator.unaryOperator?_symbol (operator : UnaryOperator) :
    (Kind.symbol operator.symbol).unaryOperator? = some operator := by
  cases operator <;> rfl

theorem BinaryOperator.binaryOperator?_symbol (operator : BinaryOperator) :
    (Kind.symbol operator.symbol).binaryOperator? = some operator := by
  cases operator <;> rfl

theorem BinaryOperator.continuation?_symbol (operator : BinaryOperator) :
    (Kind.symbol operator.symbol).continuation? = some operator.precedence := by
  cases operator <;> rfl

/-- No binary operator binds as strongly as a prefix operator. -/
theorem BinaryOperator.rank_precedence_lt (operator : BinaryOperator) :
    operator.precedence.rank < Precedence.unary.rank := by
  cases operator <;> decide

/-- How an expression's rendering starts: with a token on the level of the
expression, which is no prefix operator if the expression binds strongly. -/
structure Rendering.Starts
    (level : Nat) (strength : Precedence) (token : Token × Nat) : Prop where
  level : token.2 = level
  kind : token.1.kind.startsExpression = true
  plain : Precedence.unary.rank < strength.rank →
    token.1.kind.unaryOperator? = none

/-- A rendering is not empty and starts with a token that may start one. -/
theorem Renders.starts {level : Nat}
    (renders : Renders level (.expression strength tree) rendering) :
    ∃ first rest, rendering = first :: rest ∧
      Rendering.Starts level strength first := by
  generalize whole : Part.expression strength tree = part at renders
  induction renders generalizing strength tree with
  | literal spells =>
    have start := Kind.startsExpression_of_isLiteralKind spells.isLiteralKind
    exact ⟨_, _, rfl, rfl, start.1, fun _ => start.2⟩
  | signed sign _ _ =>
    cases whole
    refine ⟨_, _, rfl, rfl, ?_, fun strong => absurd strong (by decide)⟩
    rw [sign]
    rfl
  | name kind =>
    refine ⟨_, _, rfl, rfl, ?_, fun _ => ?_⟩ <;> rw [kind] <;> rfl
  | parenthesized opens _ _ _ =>
    refine ⟨_, _, rfl, rfl, ?_, fun _ => ?_⟩ <;> rw [opens] <;> rfl
  | weaken _ allowed ih =>
    cases whole
    obtain ⟨first, rest, shape, start⟩ := ih rfl
    exact ⟨first, rest, shape, start.level, start.kind,
      fun strong => start.plain (Nat.lt_of_lt_of_le strong allowed)⟩
  | @unary _ operator _ _ _ _ kind _ _ _ =>
    cases whole
    refine ⟨_, _, rfl, rfl, ?_, fun strong => absurd strong (by decide)⟩
    rw [kind]
    cases operator <;> rfl
  | @binary _ operator _ _ _ _ _ _ _ _ _ ih _ =>
    cases whole
    obtain ⟨first, rest, shape, start⟩ := ih rfl
    rw [shape]
    exact ⟨first, _, rfl, start.level, start.kind,
      fun strong => absurd strong
        (Nat.lt_asymm operator.rank_precedence_lt)⟩
  | cast _ _ _ ih
  | member _ _ _ ih
  | arrayLength _ _ _ ih
  | index _ _ _ _ _ ih _
  | call _ _ _ _ ih _ =>
    cases whole
    obtain ⟨first, rest, shape, start⟩ := ih rfl
    rw [shape]
    exact ⟨first, _, rfl, start⟩
  | createObject kind _ =>
    refine ⟨_, _, rfl, rfl, ?_, fun _ => ?_⟩ <;> rw [kind] <;> rfl
  | createArray kind _ _ _ _ _ =>
    refine ⟨_, _, rfl, rfl, ?_, fun _ => ?_⟩ <;> rw [kind] <;> rfl
  | noArguments => cases whole
  | lastArgument _ _ _ => cases whole
  | nextArgument _ _ _ _ _ _ => cases whole

theorem Renders.ne_nil {level : Nat}
    (renders : Renders level (.expression strength tree) rendering) :
    rendering ≠ [] := by
  obtain ⟨first, rest, rfl, _⟩ := renders.starts
  exact List.cons_ne_nil _ _

/-- A name or an integer at the start of a rendering is followed by a token
that binds it at least as strongly as the place asks for. -/
def Rendering.Continues
    (strength : Precedence) (rendering : Rendering) : Prop :=
  ∀ first second rest, rendering = first :: second :: rest →
    first.1.kind = .identifier ∨ first.1.kind = .intLiteral →
      ∃ bond, second.1.kind.continuation? = some bond ∧
        strength.rank ≤ bond.rank

/-- What continues a rendering binds it as strongly as its place asks for. -/
theorem Rendering.Continues.append
    {strength bond : Precedence} {before behind : Rendering}
    {sign : Token × Nat} (continues : before.Continues strength)
    (nonempty : before ≠ []) (found : sign.1.kind.continuation? = some bond)
    (strong : strength.rank ≤ bond.rank) :
    Continues strength (before ++ sign :: behind) := by
  intro first second rest shape single
  cases before with
  | nil => exact absurd rfl nonempty
  | cons start tail =>
    cases tail with
    | nil =>
      cases shape
      exact ⟨bond, found, strong⟩
    | cons next tail =>
      cases shape
      exact continues _ _ _ rfl single

theorem Rendering.Continues.of_kind {first : Token × Nat} {rest : Rendering}
    (name : first.1.kind ≠ .identifier) (integer : first.1.kind ≠ .intLiteral) :
    Continues strength (first :: rest) := by
  intro start second more shape single
  cases shape
  rcases single with isName | isInteger
  · exact absurd isName name
  · exact absurd isInteger integer

/-- In a rendering a first name is followed by what binds it. -/
theorem Renders.continues {level : Nat}
    (renders : Renders level (.expression strength tree) rendering) :
    rendering.Continues strength := by
  generalize whole : Part.expression strength tree = part at renders
  induction renders generalizing strength tree with
  | literal _ | name _ =>
    intro first second rest shape
    simp at shape
  | signed sign _ _ => exact .of_kind (by simp [sign]) (by simp [sign])
  | parenthesized opens _ _ _ =>
    exact .of_kind (by simp [opens]) (by simp [opens])
  | weaken _ allowed ih =>
    cases whole
    intro first second rest shape single
    obtain ⟨bond, found, strong⟩ := ih rfl first second rest shape single
    exact ⟨bond, found, Nat.le_trans allowed strong⟩
  | unary kind _ _ _ => exact .of_kind (by simp [kind]) (by simp [kind])
  | @binary _ operator _ _ _ _ _ _ kind renders _ ih _ =>
    cases whole
    refine (ih rfl).append renders.ne_nil ?_ (Nat.le_refl _)
    rw [kind]
    exact operator.continuation?_symbol
  | cast kind renders _ ih
  | member kind _ renders ih
  | arrayLength kind _ renders ih =>
    cases whole
    refine (ih rfl).append renders.ne_nil ?_ (Nat.le_refl _)
    rw [kind]
    rfl
  | index opens _ renders _ _ ih _
  | call opens _ renders _ ih _ =>
    cases whole
    refine (ih rfl).append renders.ne_nil ?_ (Nat.le_refl _)
    rw [opens]
    rfl
  | createObject kind _ | createArray kind _ _ _ _ _ =>
    exact .of_kind (by simp [kind]) (by simp [kind])
  | noArguments => cases whole
  | lastArgument _ _ _ => cases whole
  | nextArgument _ _ _ _ _ _ => cases whole

/-- Arguments do not start with the parenthesis that closes them. -/
theorem Renders.arguments_start {level : Nat} {named : Argument Expression}
    {more : List (Argument Expression)} {inside : Rendering}
    (renders : Renders level (.arguments (named :: more)) inside) :
    ∃ first rest, inside = first :: rest ∧
      first.1.kind ≠ .symbol .closeParen := by
  have starts {named : Argument Expression} {before : List Token}
      {value : Rendering} (behind : Rendering)
      (spelled : Identifier.SpelledAs named.name before)
      (renders :
        Renders (level + 1) (.expression .logicalOr named.value) value) :
      ∃ first rest, Rendering.flat level before ++ (value ++ behind) =
          first :: rest ∧ first.1.kind ≠ .symbol .closeParen := by
    obtain ⟨name, argument, span⟩ := named
    cases spelled with
    | unnamed =>
      obtain ⟨first, rest, rfl, start⟩ := renders.starts
      refine ⟨first, _, rfl, fun closes => ?_⟩
      have starting := start.kind
      rw [closes] at starting
      cases starting
    | named kind assigns =>
      exact ⟨_, _, rfl, by simp [kind]⟩
  cases renders with
  | lastArgument spelled renders => simpa using starts [] spelled renders
  | nextArgument kind spelled renders rest => exact starts _ spelled renders

end PapyrusScript
