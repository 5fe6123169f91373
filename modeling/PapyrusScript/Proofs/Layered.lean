import PapyrusScript.Proofs.RoundTrip.Operators
import PapyrusScript.Proofs.Soundness

/-!
# One reader for each level of operators

The textbook way to read binary operators has a reader for every level: it
reads a part one level tighter, then operators of its own level, each with
another such part, and groups them to the left.  Precedence climbing does the
same with one loop that is told how weakly an operator may bind.

The two ways do the same at every cursor: they read the same tree or fail
with the same diagnostic, stop at the same token, and report the same.
-/

namespace PapyrusScript.Layered

open Reader

/-- Read one more operator of a level and the part behind it, if there is
one. -/
def nextOperation
    (tighter : Reader Expression) (operators : List BinaryOperator)
    (left : Expression) : Reader (Step Expression) := do
  let cursor ← get
  match operators.find? fun operator =>
      cursor.kind = .symbol operator.symbol with
  | some operator =>
    let _ ← advance
    let right ← tighter
    return .again
      (.binary operator left right (left.span.through right.span))
  | none => return .done left

def layer (tighter : Reader Expression) (operators : List BinaryOperator) :
    Reader Expression := do
  let first ← tighter
  loop (nextOperation tighter operators) (← get).budget first

def multiplication (unary : Reader Expression) : Reader Expression :=
  layer unary [.multiply, .divide, .modulo]

def addition (unary : Reader Expression) : Reader Expression :=
  layer (multiplication unary) [.add, .subtract]

def relation (unary : Reader Expression) : Reader Expression :=
  layer (addition unary) [.less, .lessEqual, .greater, .greaterEqual]

/-- Read relations joined by the operators that compare for equality. -/
def equality (unary : Reader Expression) : Reader Expression :=
  layer (relation unary) [.equal, .notEqual]

def conjunction (unary : Reader Expression) : Reader Expression :=
  layer (equality unary) [.and]

def disjunction (unary : Reader Expression) : Reader Expression :=
  layer (conjunction unary) [.or]

def unaryAt : Nat → Reader Expression
  | 0 => operand tooDeep tooDeep
  | levels + 1 =>
    operand (unaryAt levels) (disjunction (unaryAt levels))

/-- Read an expression with `levels` levels of nesting left. -/
def expressionAt : Nat → Reader Expression
  | 0 => tooDeep
  | levels + 1 => disjunction (unaryAt levels)

/-! ## Where the readers stop -/

section Levels

open Cursor

variable {unary : Reader Expression}
  (advances : ∀ cursor, unary.Advances cursor)
  {operators : List BinaryOperator} {level : Precedence} {cursor : Cursor}
  {accepted : Expression → Cursor → Prop}
  {refused : Diagnostic → Cursor → Prop}

theorem rank_injective : Function.Injective Precedence.rank := by
  intro first second same
  cases first <;> cases second <;> first | rfl | cases same

/-- An operator of the level is found by its symbol. -/
theorem nextOperation_of_mem {operator : BinaryOperator}
    (found : cursor.kind.binaryOperator? = some operator)
    (known : operator ∈ operators) :
    operators.find? (fun other => cursor.kind = .symbol other.symbol) =
      some operator := by
  have kind := kind_of_binaryOperator? found
  cases search :
      operators.find? fun other => cursor.kind = .symbol other.symbol with
  | none =>
    have unmatched := List.find?_eq_none.1 search operator known
    simp [kind] at unmatched
  | some other =>
    have matched := List.find?_some search
    simp only [decide_eq_true_eq] at matched
    have same := other.binaryOperator?_symbol
    rw [← matched, found] at same
    exact same.symm

theorem nextOperation_of_not_mem
    (other : ∀ operator, cursor.kind.binaryOperator? = some operator →
      operator ∉ operators) :
    operators.find? (fun operator => cursor.kind = .symbol operator.symbol) =
      none := by
  rw [List.find?_eq_none]
  intro operator known matched
  simp only [decide_eq_true_eq] at matched
  refine other operator ?_ known
  rw [matched]
  exact operator.binaryOperator?_symbol

theorem proceeds_nextOperation
    {tighter : Reader Expression} (operators : List BinaryOperator)
    (advances : ∀ cursor, tighter.Advances cursor) (left : Expression)
    (cursor : Cursor) :
    (nextOperation tighter operators left).Proceeds cursor := by
  refine .get ?_
  split
  · rename_i operator found
    have matched := List.find?_some found
    simp only [decide_eq_true_eq] at matched
    refine .again ((Recovery.advances_of_kind matched rfl).lift.bind
      fun _ after => ?_)
    exact (advances after).travels.bind fun _ _ => .pure _
  · exact .done _

include advances

/-- Operators at a level leave none behind that would bind as tightly. -/
theorem closed_operations
    (size : Nat) (enough : cursor.budget.length ≤ size) (left : Expression) :
    Ends (operations unary cursor.budget level left) cursor
      (fun _ after => Closed level after) fun _ _ => True := by
  induction size generalizing left cursor with
  | zero => simp [Cursor.budget] at enough
  | succ size ih =>
    by_cases closed : Closed level cursor
    · rw [ends_operations_of_weaker closed]
      exact closed
    · obtain ⟨operator, found, tight⟩ := exists_of_not_closed closed
      have inside : cursor.kind ≠ .endOfText := by
        simp [kind_of_binaryOperator? found]
      have fewer := precedes_next inside
      rw [ends_operations advances found tight]
      refine (advances cursor.next).mono (fun first middle reached => ?_)
        fun _ _ _ => trivial
      have travels := travels_operations advances middle.budget
        operator.precedence.next first middle
      refine travels.mono (fun right after onwards => ?_)
        fun _ _ _ => trivial
      have passed := reached.2
      have shorter := onwards.length_le
      unfold Precedes at fewer passed
      exact ih (by omega) _

theorem ends_operations_closed (left : Expression) :
    Ends (operations unary cursor.budget level left) cursor
      (fun _ after => cursor.Reaches after ∧ Closed level after)
      fun _ _ => True :=
  ((travels_operations advances _ level left cursor).and
    (closed_operations advances _ (Nat.le_refl _) left)).mono
    (fun _ _ holds => holds) fun _ _ _ => trivial

/-- Reading on at a level is reading on one level tighter, and then the
operators of the level itself with parts one level tighter. -/
theorem operations_layered
    (exact : ∀ operator, operator ∈ operators ↔ operator.precedence = level)
    (weaker : level ≠ .primary) (size : Nat)
    (enough : cursor.budget.length ≤ size) (left : Expression) :
    Ends (operations unary cursor.budget level left) cursor accepted
        refused ↔
      Ends (operations unary cursor.budget level.next left) cursor
        (fun value after =>
          Ends
            (loop (nextOperation (binary unary level.next) operators)
              after.budget value)
            after accepted refused)
        refused := by
  have nextRank := level.rank_next weaker
  have proceeds := proceeds_nextOperation operators
    (advances_binary advances level.next)
  induction size generalizing left cursor with
  | zero => simp [Cursor.budget] at enough
  | succ size ih =>
    -- without an operator of this level or a tighter one, neither side reads on
    by_cases closed : Closed level cursor
    · have tighter : Closed level.next cursor := by
        intro operator found
        have bound := closed operator found
        omega
      have other : ∀ operator,
          cursor.kind.binaryOperator? = some operator →
            operator ∉ operators := by
        intro operator found known
        have bound := closed operator found
        rw [(exact operator).1 known] at bound
        omega
      rw [ends_operations_of_weaker closed,
        ends_operations_of_weaker tighter, ends_loop proceeds]
      unfold nextOperation
      rw [ends_bind, ends_get, nextOperation_of_not_mem other]
      rfl
    · obtain ⟨operator, found, tight⟩ := exists_of_not_closed closed
      have inside : cursor.kind ≠ .endOfText := by
        simp [kind_of_binaryOperator? found]
      have fewer := precedes_next inside
      rw [ends_operations advances found tight]
      have rest {first : Expression} {middle : Cursor}
          (operand : cursor.next.Reaches middle ∧ cursor.next.Precedes middle) :
          Ends
            (operations unary middle.budget operator.precedence.next first)
            middle
            (fun _ after => after.budget.length ≤ size ∧
              Closed operator.precedence.next after)
            fun _ _ => True := by
        have passed := operand.2
        unfold Precedes at fewer passed
        refine (ends_operations_closed advances first).mono ?_
          fun _ _ _ => trivial
        intro right after reached
        have shorter := reached.1.length_le
        exact ⟨by omega, reached.2⟩
      -- an operator of this very level ends the tighter run and starts a
      -- round of the loop; both sides read a tighter one, and the rest is
      -- shorter
      by_cases own : operator.precedence = level
      · have stops : Closed level.next cursor := by
          intro other known
          rw [found] at known
          cases known
          rw [own]
          omega
        have taken := nextOperation_of_mem found ((exact operator).2 own)
        rw [ends_operations_of_weaker stops, ends_loop proceeds]
        unfold nextOperation
        rw [ends_bind, ends_get, taken]
        simp only
        rw [ends_bind, ends_lift, Recovery.ends_advance, ends_bind, ends_binary]
        subst own
        refine ends_congr_of_ends (advances cursor.next) ?_
        intro first middle operand
        refine ends_congr_of_ends (rest operand) ?_
        intro right after reached
        obtain ⟨shorter, closed⟩ := reached
        refine (ih shorter _).trans ?_
        rw [ends_operations_of_weaker closed]
        rfl
      · have tighter : level.next.rank ≤ operator.precedence.rank := by
          have differ : level.rank ≠ operator.precedence.rank :=
            fun same => own (rank_injective same).symm
          omega
        rw [ends_operations advances found tighter]
        refine ends_congr_of_ends (advances cursor.next) ?_
        intro first middle operand
        refine ends_congr_of_ends (rest operand) ?_
        intro right after reached
        exact ih reached.1 _

/-- A reader for one level of operators does what precedence climbing does
from that level on. -/
theorem layer_eq_binary (level : Precedence) (operators : List BinaryOperator)
    (exact : ∀ operator, operator ∈ operators ↔ operator.precedence = level)
    (weaker : level ≠ .primary) :
    layer (binary unary level.next) operators = binary unary level := by
  refine eq_of_ends fun cursor accepted refused ends => ?_
  unfold layer
  rw [ends_binary] at ends
  rw [ends_bind, ends_binary]
  refine ends.mono (fun first middle holds => ?_) fun _ _ holds => holds
  exact (operations_layered advances exact weaker _ (Nat.le_refl _) first).1
    holds

omit advances in
/-- No operator binds as tightly as an operand, so there are none to read. -/
theorem binary_unary : binary unary .unary = unary := by
  refine eq_of_ends fun cursor accepted refused ends => ?_
  rw [ends_binary]
  refine ends.mono (fun first middle holds => ?_) fun _ _ holds => holds
  rw [ends_operations_of_weaker fun operator _ => operator.rank_precedence_lt]
  exact holds

/-- The readers of all levels, one inside the other, are precedence climbing
from the weakest level on. -/
theorem disjunction_eq : disjunction unary = binary unary .logicalOr := by
  have products : multiplication unary = binary unary .multiplicative := by
    rw [← layer_eq_binary advances .multiplicative
      [.multiply, .divide, .modulo]
      (by intro operator; cases operator <;> decide) (by decide),
      Precedence.next, binary_unary]
    rfl
  have sums : addition unary = binary unary .additive := by
    rw [addition, products]
    exact layer_eq_binary advances .additive _
      (by intro operator; cases operator <;> decide) (by decide)
  have relations : relation unary = binary unary .relational := by
    rw [relation, sums]
    exact layer_eq_binary advances .relational _
      (by intro operator; cases operator <;> decide) (by decide)
  have equalities : equality unary = binary unary .equality := by
    rw [equality, relations]
    exact layer_eq_binary advances .equality _
      (by intro operator; cases operator <;> decide) (by decide)
  have conjunctions : conjunction unary = binary unary .logicalAnd := by
    rw [conjunction, equalities]
    exact layer_eq_binary advances .logicalAnd _
      (by intro operator; cases operator <;> decide) (by decide)
  rw [disjunction, conjunctions]
  exact layer_eq_binary advances .logicalOr _
    (by intro operator; cases operator <;> decide) (by decide)

end Levels

/-! ## All levels of nesting -/

theorem unaryAt_eq (levels : Nat) : unaryAt levels = Reader.unaryAt levels := by
  induction levels with
  | zero => rfl
  | succ levels ih =>
    rw [unaryAt, ih, disjunction_eq (advances_unaryAt levels)]
    rfl

/-- With any number of levels of nesting left and at any cursor, precedence
climbing and the readers of the levels have the same outcome: the answer, be
it a tree or a diagnostic, and the cursor, with all that has been reported. -/
theorem climbing_eq_layered (levels : Nat) (cursor : Cursor) :
    (Reader.expressionAt levels).run.run cursor =
      (Layered.expressionAt levels).run.run cursor := by
  cases levels with
  | zero => rfl
  | succ levels =>
    rw [expressionAt, unaryAt_eq, disjunction_eq (advances_unaryAt levels)]
    rfl

end PapyrusScript.Layered
