import PapyrusScript.Grammar.Expression
import PapyrusScript.Tree.Script

/-!
# Proper trees

A tree is proper if its nodes fit together: something is assigned only to what
can be assigned to, only what can be called is called, a conditional has an
arm, an array is created with a size and an object without one, no expression
is nested too deep, and so on.  More is asked of an accepted script: its
properties and the sizes of its arrays are within the rules of the language.

`accepted` says whether a tree is part of such a script.  What is asked of a
tree in an accepted script is also asked of it elsewhere.
-/

namespace PapyrusScript

variable (accepted : Prop)

/-! ## Literals -/

def Value.IsFinite : Value → Prop
  | .float value => value.isFinite = true
  | _ => True

def Value.IsUnsigned : Value → Prop
  | .float value => value.isNegative = false
  | _ => True

def Literal.AreFinite (initial : Option Literal) : Prop :=
  ∀ literal ∈ initial, literal.value.IsFinite

/-! ## Expressions -/

namespace Expression

/-- Whether an expression is an integer literal above the limit for arrays. -/
def exceedsArrayLimit : Expression → Bool
  | .literal ⟨.int count, _⟩ => arrayLimit < count
  | _ => false

mutual

/-- An expression whose nodes fit together. -/
def Proper : Expression → Prop
  | .literal node => node.value.IsFinite ∧ node.value.IsUnsigned
  | .name _ => True
  | .unary _ operand _ => Proper operand
  | .binary _ left right _ => Proper left ∧ Proper right
  | .call callee arguments _ =>
    callee.isCallable = true ∧ Proper callee ∧ ProperArguments arguments
  | .member object _ _ => Proper object
  | .index array subscript _ => Proper array ∧ Proper subscript
  | .cast operand _ _ => Proper operand
  | .create type size _ => size.isSome = type.isArray ∧ ProperSize size
  | .arrayLength array _ => Proper array

/-- The size of an array, whose elements can be counted in an accepted
script. -/
def ProperSize : Option Expression → Prop
  | none => True
  | some size => Proper size ∧ (accepted → size.exceedsArrayLimit = false)

def ProperArgument : Argument Expression → Prop
  | ⟨_, value, _⟩ => Proper value

def ProperArguments : List (Argument Expression) → Prop
  | [] => True
  | argument :: rest => ProperArgument argument ∧ ProperArguments rest

end

mutual

/-- The levels of an expression: one for itself, and one more inside prefix
operators, subscripts, arguments and array sizes. -/
def nesting : Expression → Nat
  | .literal _ => 1
  | .name _ => 1
  | .unary _ operand _ => nesting operand + 1
  | .binary _ left right _ => max (nesting left) (nesting right)
  | .call callee arguments _ =>
    max (nesting callee) (nestingOfArguments arguments)
  | .member object _ _ => nesting object
  | .index array subscript _ => max (nesting array) (nesting subscript + 1)
  | .cast operand _ _ => nesting operand
  | .create _ size _ => nestingOfSize size + 1
  | .arrayLength array _ => nesting array

def nestingOfSize : Option Expression → Nat
  | none => 0
  | some size => nesting size

def nestingOfArgument : Argument Expression → Nat
  | ⟨_, value, _⟩ => nesting value

def nestingOfArguments : List (Argument Expression) → Nat
  | [] => 0
  | argument :: rest =>
    max (nestingOfArgument argument + 1) (nestingOfArguments rest)

end

/-- A proper expression with at most so many levels. -/
structure Within (levels : Nat) (tree : Expression) : Prop where
  proper : tree.Proper accepted
  nesting : tree.nesting ≤ levels

/-- The same of all arguments of a call, each of which stands one level
down. -/
structure AreWithin
    (levels : Nat) (arguments : List (Argument Expression)) : Prop where
  proper : ProperArguments accepted arguments
  nesting : nestingOfArguments arguments ≤ levels + 1

variable {accepted} {levels : Nat} {tree : Expression}

/-- What has some levels at most has one level more at most. -/
theorem Within.deeper (within : tree.Within accepted levels) :
    tree.Within accepted (levels + 1) :=
  ⟨within.proper, Nat.le_succ_of_le within.nesting⟩

theorem AreWithin.nil (accepted : Prop) (levels : Nat) :
    AreWithin accepted levels [] :=
  ⟨trivial, Nat.zero_le _⟩

/-- One argument more is within the levels if its value is. -/
theorem AreWithin.concat
    {argument : Argument Expression} {arguments : List (Argument Expression)}
    (last : argument.value.Within accepted levels)
    (front : AreWithin accepted levels arguments) :
    AreWithin accepted levels (arguments ++ [argument]) := by
  obtain ⟨name, value, span⟩ := argument
  induction arguments with
  | nil =>
    refine ⟨⟨last.proper, trivial⟩, ?_⟩
    exact Nat.max_le.2 ⟨Nat.succ_le_succ last.nesting, Nat.zero_le _⟩
  | cons first arguments ih =>
    obtain ⟨⟨proper, others⟩, nesting⟩ := front
    obtain ⟨shallow, shallowOthers⟩ := Nat.max_le.1 nesting
    obtain ⟨properAll, nestingAll⟩ := ih ⟨others, shallowOthers⟩
    exact ⟨⟨proper, properAll⟩, Nat.max_le.2 ⟨shallow, nestingAll⟩⟩

end Expression

/-! ## Statements -/

namespace Statement

mutual

/-- A statement whose parts fit together. -/
def Proper : Statement → Prop
  | .expression value _ => value.Within accepted nestingLimit
  | .assign target _ value _ =>
    target.isAssignable = true ∧ target.Within accepted nestingLimit ∧
      value.Within accepted nestingLimit
  | .conditional branches otherwise _ =>
    branches ≠ [] ∧ ProperBranches branches ∧ ProperOtherwise otherwise
  | .loop condition body _ =>
    condition.Within accepted nestingLimit ∧ ProperBody body
  | .result value _ =>
    ∀ expression ∈ value, expression.Within accepted nestingLimit
  | .declare _ _ initial _ =>
    ∀ expression ∈ initial, expression.Within accepted nestingLimit

def ProperBody : List Statement → Prop
  | [] => True
  | statement :: rest => Proper statement ∧ ProperBody rest

def ProperBranch : Branch Statement → Prop
  | ⟨condition, body, _⟩ =>
    condition.Within accepted nestingLimit ∧ ProperBody body

def ProperBranches : List (Branch Statement) → Prop
  | [] => True
  | branch :: rest => ProperBranch branch ∧ ProperBranches rest

def ProperOtherwise : Option (List Statement) → Prop
  | none => True
  | some body => ProperBody body

end

theorem properBody_append (first second : List Statement) :
    ProperBody accepted (first ++ second) ↔
      ProperBody accepted first ∧ ProperBody accepted second := by
  induction first with
  | nil => simp [ProperBody]
  | cons statement first ih =>
    simp only [List.cons_append, ProperBody, ih, and_assoc]

theorem properBranches_append (first second : List (Branch Statement)) :
    ProperBranches accepted (first ++ second) ↔
      ProperBranches accepted first ∧ ProperBranches accepted second := by
  induction first with
  | nil => simp [ProperBranches]
  | cons branch first ih =>
    simp only [List.cons_append, ProperBranches, ih, and_assoc]

end Statement

/-! ## Declarations -/

/-- The initial value of a variable is finite. -/
def Variable.Proper (tree : Variable) : Prop := Literal.AreFinite tree.initial

def Parameter.AreProper (parameters : List Parameter) : Prop :=
  ∀ parameter ∈ parameters, Literal.AreFinite parameter.default

/-- A native function has no body, and the statements of any other fit. -/
structure Function.Proper (tree : Function) : Prop where
  parameters : Parameter.AreProper tree.parameters
  native : tree.native = true → tree.body = []
  body : Statement.ProperBody accepted tree.body

/-- A native event has no body, and the statements of any other fit. -/
structure Event.Proper (tree : Event) : Prop where
  parameters : Parameter.AreProper tree.parameters
  native : tree.native = true → tree.body = []
  body : Statement.ProperBody accepted tree.body

/-- A function that yields the value of a property.  In an accepted script it
has no parameters. -/
structure Function.ProperGetter (tree : Function) : Prop extends
    tree.Proper accepted where
  named : tree.name.isNamed "Get" = true
  takesNothing : accepted → tree.parameters = []

/-- A function that takes the new value of a property.  In an accepted script
it has one parameter. -/
structure Function.ProperSetter (tree : Function) : Prop extends
    tree.Proper accepted where
  named : tree.name.isNamed "Set" = true
  takesOne : accepted → tree.parameters.length = 1

/-- The functions of a property fit, and in an accepted script there is one.
The initial value of any other property is finite. -/
def PropertySource.Proper : PropertySource → Prop
  | .auto initial => Literal.AreFinite initial
  | .readOnly initial => initial.value.IsFinite
  | .full getter setter =>
    (∀ tree ∈ getter, tree.ProperGetter accepted) ∧
      (∀ tree ∈ setter, tree.ProperSetter accepted) ∧
        (accepted → getter.isSome = true ∨ setter.isSome = true)

/-- Everything that a member declares fits. -/
def Member.Proper : Member → Prop
  | .variable tree => tree.Proper
  | .property tree => tree.source.Proper accepted
  | .function tree => tree.Proper accepted
  | .event tree => tree.Proper accepted
  | .state tree => ∀ event ∈ tree.events, event.Proper accepted

/-- Every member of a script fits. -/
def Script.Proper (tree : Script) : Prop :=
  ∀ member ∈ tree.members, member.Proper accepted

end PapyrusScript
