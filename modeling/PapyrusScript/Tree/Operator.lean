import PapyrusScript.Token.Kind

/-!
# Operators and binding strength

A symbol can stand for up to three operators: a binary one, a prefix one, and
an assignment.  Binary operators bind by precedence, from `logicalOr`, the
weakest, to `multiplicative`; prefix operators, casts and the parts of a
primary expression bind tighter than all of them.  Every binary operator
groups to the left.
-/

namespace PapyrusScript

/-- The operators between two operands. -/
inductive BinaryOperator where
  | or
  | and
  | equal
  | notEqual
  | less
  | lessEqual
  | greater
  | greaterEqual
  | add
  | subtract
  | multiply
  | divide
  | modulo
  deriving DecidableEq, Repr, Inhabited

/-- The operators before an operand. -/
inductive UnaryOperator where
  | negate
  | not
  deriving DecidableEq, Repr, Inhabited

/-- The ways to assign: plainly, or through an arithmetic operator. -/
inductive AssignmentOperator where
  | assign
  | add
  | subtract
  | multiply
  | divide
  | modulo
  deriving DecidableEq, Repr, Inhabited

/-- How strongly an expression form binds, weakest first. -/
inductive Precedence where
  | logicalOr
  | logicalAnd
  | equality
  | relational
  | additive
  | multiplicative
  | unary
  | cast
  | primary
  deriving DecidableEq, Repr, Inhabited

namespace Precedence

/-- The number of weaker levels. -/
def rank : Precedence → Nat
  | .logicalOr => 0
  | .logicalAnd => 1
  | .equality => 2
  | .relational => 3
  | .additive => 4
  | .multiplicative => 5
  | .unary => 6
  | .cast => 7
  | .primary => 8

/-- The next tighter level; the tightest is its own successor. -/
def next : Precedence → Precedence
  | .logicalOr => .logicalAnd
  | .logicalAnd => .equality
  | .equality => .relational
  | .relational => .additive
  | .additive => .multiplicative
  | .multiplicative => .unary
  | .unary => .cast
  | .cast => .primary
  | .primary => .primary

/-- A level and every tighter one, from weak to tight. -/
def andTighter : Precedence → List Precedence
  | .logicalOr =>
      [.logicalOr, .logicalAnd, .equality, .relational, .additive,
        .multiplicative, .unary, .cast, .primary]
  | .logicalAnd =>
      [.logicalAnd, .equality, .relational, .additive, .multiplicative,
        .unary, .cast, .primary]
  | .equality =>
      [.equality, .relational, .additive, .multiplicative, .unary, .cast,
        .primary]
  | .relational =>
      [.relational, .additive, .multiplicative, .unary, .cast, .primary]
  | .additive => [.additive, .multiplicative, .unary, .cast, .primary]
  | .multiplicative => [.multiplicative, .unary, .cast, .primary]
  | .unary => [.unary, .cast, .primary]
  | .cast => [.cast, .primary]
  | .primary => [.primary]

theorem rank_next (level : Precedence) (weaker : level ≠ .primary) :
    level.next.rank = level.rank + 1 := by
  cases level <;> first | rfl | exact absurd rfl weaker

/-- A plain name for a level. -/
def label : Precedence → String
  | .logicalOr => "LogicalOr"
  | .logicalAnd => "LogicalAnd"
  | .equality => "Equality"
  | .relational => "Relational"
  | .additive => "Additive"
  | .multiplicative => "Multiplicative"
  | .unary => "Unary"
  | .cast => "Cast"
  | .primary => "Primary"

end Precedence

namespace BinaryOperator

/-- The level at which an operator binds. -/
def precedence : BinaryOperator → Precedence
  | .or => .logicalOr
  | .and => .logicalAnd
  | .equal | .notEqual => .equality
  | .less | .lessEqual | .greater | .greaterEqual => .relational
  | .add | .subtract => .additive
  | .multiply | .divide | .modulo => .multiplicative

/-- The symbol of an operator. -/
def symbol : BinaryOperator → Symbol
  | .or => .orOr
  | .and => .andAnd
  | .equal => .equalEqual
  | .notEqual => .notEqual
  | .less => .less
  | .lessEqual => .lessEqual
  | .greater => .greater
  | .greaterEqual => .greaterEqual
  | .add => .plus
  | .subtract => .minus
  | .multiply => .star
  | .divide => .slash
  | .modulo => .percent

/-- A plain name for an operator. -/
def label : BinaryOperator → String
  | .or => "Or"
  | .and => "And"
  | .equal => "Equal"
  | .notEqual => "NotEqual"
  | .less => "Less"
  | .lessEqual => "LessEqual"
  | .greater => "Greater"
  | .greaterEqual => "GreaterEqual"
  | .add => "Add"
  | .subtract => "Subtract"
  | .multiply => "Multiply"
  | .divide => "Divide"
  | .modulo => "Modulo"

end BinaryOperator

namespace UnaryOperator

/-- The symbol of an operator. -/
def symbol : UnaryOperator → Symbol
  | .negate => .minus
  | .not => .bang

/-- A plain name for an operator. -/
def label : UnaryOperator → String
  | .negate => "Negate"
  | .not => "Not"

end UnaryOperator

namespace AssignmentOperator

/-- The symbol of an assignment. -/
def symbol : AssignmentOperator → Symbol
  | .assign => .assign
  | .add => .plusAssign
  | .subtract => .minusAssign
  | .multiply => .starAssign
  | .divide => .slashAssign
  | .modulo => .percentAssign

/-- A plain name for an assignment. -/
def label : AssignmentOperator → String
  | .assign => "Assign"
  | .add => "Add"
  | .subtract => "Subtract"
  | .multiply => "Multiply"
  | .divide => "Divide"
  | .modulo => "Modulo"

end AssignmentOperator

namespace Kind

/-- The binary operator that a kind of token stands for. -/
def binaryOperator? : Kind → Option BinaryOperator
  | .symbol .orOr => some .or
  | .symbol .andAnd => some .and
  | .symbol .equalEqual => some .equal
  | .symbol .notEqual => some .notEqual
  | .symbol .less => some .less
  | .symbol .lessEqual => some .lessEqual
  | .symbol .greater => some .greater
  | .symbol .greaterEqual => some .greaterEqual
  | .symbol .plus => some .add
  | .symbol .minus => some .subtract
  | .symbol .star => some .multiply
  | .symbol .slash => some .divide
  | .symbol .percent => some .modulo
  | _ => none

/-- The prefix operator that a kind of token stands for. -/
def unaryOperator? : Kind → Option UnaryOperator
  | .symbol .minus => some .negate
  | .symbol .bang => some .not
  | _ => none

/-- The assignment that a kind of token stands for. -/
def assignmentOperator? : Kind → Option AssignmentOperator
  | .symbol .assign => some .assign
  | .symbol .plusAssign => some .add
  | .symbol .minusAssign => some .subtract
  | .symbol .starAssign => some .multiply
  | .symbol .slashAssign => some .divide
  | .symbol .percentAssign => some .modulo
  | _ => none

end Kind

end PapyrusScript
