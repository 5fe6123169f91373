import PapyrusScript.Tree.Expression

/-!
# Statements

A statement is one line of a body, or a block that holds further bodies.
Assignment is a statement and never part of an expression.
-/

namespace PapyrusScript

/-- One arm of a conditional: a condition and what it guards. -/
structure Branch (α : Type) where
  condition : Expression
  body : List α
  span : Span
  deriving Repr, Inhabited

/-- A statement. -/
inductive Statement where
  | expression (value : Expression) (span : Span)
  | assign
      (target : Expression) (operator : AssignmentOperator)
      (value : Expression) (span : Span)
  | conditional
      (branches : List (Branch Statement))
      (otherwise : Option (List Statement)) (span : Span)
  | loop (condition : Expression) (body : List Statement) (span : Span)
  | result (value : Option Expression) (span : Span)
  | declare
      (type : TypeName) (name : Identifier) (initial : Option Expression)
      (span : Span)
  deriving Repr, Inhabited

/-- The stretch of source of a statement. -/
def Statement.span : Statement → Span
  | .expression _ span => span
  | .assign _ _ _ span => span
  | .conditional _ _ span => span
  | .loop _ _ span => span
  | .result _ span => span
  | .declare _ _ _ span => span

end PapyrusScript
