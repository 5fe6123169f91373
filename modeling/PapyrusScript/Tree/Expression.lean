import PapyrusScript.Number.Single
import PapyrusScript.Tree.Operator
import PapyrusScript.Tree.Type

/-!
# Names, literals and expressions

Every node of the tree owns its children and records the stretch of source
from its first token to its last.  Parentheses leave no node.
-/

namespace PapyrusScript

/-- A name in a script. -/
structure Identifier where
  name : String
  span : Span
  deriving DecidableEq, Repr, Inhabited

/-- Whether a name is the given one; case carries no meaning. -/
def Identifier.isNamed (identifier : Identifier) (name : String) : Bool :=
  Text.sameLetters identifier.name name

/-- Only a text with the same letters names the same, in either case. -/
theorem Identifier.isNamed_iff (identifier : Identifier) (name : String) :
    identifier.isNamed name = true ↔
      identifier.name.toList.length = name.toList.length ∧
        ∀ pair ∈ identifier.name.toList.zip name.toList,
          pair.1 = pair.2 ∨ Text.AreCases pair.1 pair.2 ∨
            Text.AreCases pair.2 pair.1 :=
  Text.sameLetters_iff _ _

example : Identifier.isNamed ⟨"gEt", .point .origin⟩ "Get" = true := by decide

/-- The value of a literal. -/
inductive Value where
  | bool (value : Bool)
  | int (value : Int32)
  | float (value : Single)
  | string (value : String)
  | none
  | selfReference
  | parentReference
  deriving DecidableEq, Repr, Inhabited

/-- A value as a script writes it. -/
structure Literal where
  value : Value
  span : Span
  deriving DecidableEq, Repr, Inhabited

/-- An argument of a call, which may be named. -/
structure Argument (α : Type) where
  name : Option Identifier
  value : α
  span : Span
  deriving DecidableEq, Repr, Inhabited

/-- An expression. -/
inductive Expression where
  | literal (node : Literal)
  | name (node : Identifier)
  | unary (operator : UnaryOperator) (operand : Expression) (span : Span)
  | binary
      (operator : BinaryOperator) (left right : Expression) (span : Span)
  | call
      (callee : Expression) (arguments : List (Argument Expression))
      (span : Span)
  | member (object : Expression) (field : Identifier) (span : Span)
  | index (array subscript : Expression) (span : Span)
  | cast (operand : Expression) (target : TypeName) (span : Span)
  /-- An object of a script type, or with a size an array. -/
  | create (type : TypeName) (size : Option Expression) (span : Span)
  | arrayLength (array : Expression) (span : Span)
  deriving Repr, Inhabited

namespace Expression

/-- The stretch of source of an expression. -/
def span : Expression → Span
  | .literal node => node.span
  | .name node => node.span
  | .unary _ _ span => span
  | .binary _ _ _ span => span
  | .call _ _ span => span
  | .member _ _ span => span
  | .index _ _ span => span
  | .cast _ _ span => span
  | .create _ _ span => span
  | .arrayLength _ span => span

/-- Whether an expression names a place that can be assigned to. -/
def isAssignable : Expression → Bool
  | .name _ => true
  | .member _ _ _ => true
  | .index _ _ _ => true
  | _ => false

/-- What can be assigned to is a name, a member or an element of an array. -/
theorem isAssignable_iff (tree : Expression) :
    tree.isAssignable = true ↔
      (∃ node, tree = .name node) ∨
        (∃ object field span, tree = .member object field span) ∨
          ∃ array subscript span, tree = .index array subscript span := by
  cases tree <;> simp [isAssignable]

/-- Whether an expression names something that can be called. -/
def isCallable : Expression → Bool
  | .name _ => true
  | .member _ _ _ => true
  | _ => false

/-- What can be called is a name or a member. -/
theorem isCallable_iff (tree : Expression) :
    tree.isCallable = true ↔
      (∃ node, tree = .name node) ∨
        ∃ object field span, tree = .member object field span := by
  cases tree <;> simp [isCallable]

end Expression

end PapyrusScript
