import PapyrusScript.Walk.Visitor

/-!
# The nodes of a script as a forest

A forest is a row of trees.  The forest of a part of a script holds every
node of it exactly where the tree has it: below a node stand its parts, in
the order of the fields, and beside it the parts that follow.  A type stands
in a forest with nothing below it.

Walking a part of a script is walking its forest, so that what a walk does
is said once for forests and not once for every sort of node.
-/

namespace PapyrusScript

@[reducible]
def Node.isType : Node → Bool
  | .type _ => true
  | _ => false

/-- Trees side by side: none, or a first one and those beside it. -/
inductive Forest where
  | empty
  | type (shown : TypeName) (beside : Forest)
  | node
      (shown : Node) (proper : shown.isType = false)
      (below beside : Forest)
  deriving Inhabited

namespace Forest

def append : Forest → Forest → Forest
  | .empty, others => others
  | .type shown beside, others => .type shown (beside.append others)
  | .node shown proper below beside, others =>
    .node shown proper below (beside.append others)

instance : Append Forest := ⟨append⟩

@[simp]
theorem empty_append (others : Forest) : .empty ++ others = others := rfl

@[simp]
theorem type_append (shown : TypeName) (beside others : Forest) :
    .type shown beside ++ others = .type shown (beside ++ others) := rfl

@[simp]
theorem node_append (shown : Node) (proper : shown.isType = false)
    (below beside others : Forest) :
    .node shown proper below beside ++ others =
      .node shown proper below (beside ++ others) := rfl

/-- A node with the trees below it, and nothing beside it. -/
def tree (shown : Node) (below : Forest)
    (proper : shown.isType = false := by rfl) : Forest :=
  .node shown proper below .empty

def ofOption {α : Type} (forest : α → Forest) : Option α → Forest
  | none => .empty
  | some part => forest part

/-- The trees of several parts in order. -/
def ofList {α : Type} (forest : α → Forest) : List α → Forest
  | [] => .empty
  | part :: rest => forest part ++ ofList forest rest

end Forest

/-- A type as a forest. -/
def TypeName.forest (type : TypeName) : Forest := .type type .empty

/-- A literal as a forest. -/
def Literal.forest (node : Literal) : Forest := .tree (.literal node) .empty

mutual

/-- An expression as a forest.  A literal stands in it as such. -/
def Expression.forest : Expression → Forest
  | .literal node => node.forest
  | .name node => .tree (.expression (.name node)) .empty
  | .unary operator operand span =>
    .tree (.expression (.unary operator operand span)) operand.forest
  | .binary operator left right span =>
    .tree (.expression (.binary operator left right span))
      (left.forest ++ right.forest)
  | .call callee arguments span =>
    .tree (.expression (.call callee arguments span))
      (callee.forest ++ Expression.argumentsForest arguments)
  | .member object field span =>
    .tree (.expression (.member object field span)) object.forest
  | .index array subscript span =>
    .tree (.expression (.index array subscript span))
      (array.forest ++ subscript.forest)
  | .cast operand target span =>
    .tree (.expression (.cast operand target span))
      (operand.forest ++ target.forest)
  | .create type size span =>
    .tree (.expression (.create type size span))
      (type.forest ++ Expression.sizeForest size)
  | .arrayLength array span =>
    .tree (.expression (.arrayLength array span)) array.forest

def Expression.sizeForest : Option Expression → Forest
  | none => .empty
  | some size => size.forest

/-- An argument as a forest. -/
def Argument.forest : Argument Expression → Forest
  | ⟨name, value, span⟩ =>
    .tree (.argument ⟨name, value, span⟩) value.forest

def Expression.argumentsForest : List (Argument Expression) → Forest
  | [] => .empty
  | argument :: rest =>
    argument.forest ++ Expression.argumentsForest rest

end

mutual

/-- A statement as a forest. -/
def Statement.forest : Statement → Forest
  | .expression value span =>
    .tree (.statement (.expression value span)) value.forest
  | .assign target operator value span =>
    .tree (.statement (.assign target operator value span))
      (target.forest ++ value.forest)
  | .conditional branches otherwise span =>
    .tree (.statement (.conditional branches otherwise span))
      (Statement.branchesForest branches ++ Statement.otherwiseForest otherwise)
  | .loop condition body span =>
    .tree (.statement (.loop condition body span))
      (condition.forest ++ Statement.bodyForest body)
  | .result value span =>
    .tree (.statement (.result value span))
      (.ofOption Expression.forest value)
  | .declare type name initial span =>
    .tree (.statement (.declare type name initial span))
      (type.forest ++ .ofOption Expression.forest initial)

def Statement.bodyForest : List Statement → Forest
  | [] => .empty
  | statement :: rest => statement.forest ++ Statement.bodyForest rest

/-- An arm of a conditional as a forest. -/
def Branch.forest : Branch Statement → Forest
  | ⟨condition, body, span⟩ =>
    .tree (.branch ⟨condition, body, span⟩)
      (condition.forest ++ Statement.bodyForest body)

def Statement.branchesForest : List (Branch Statement) → Forest
  | [] => .empty
  | branch :: rest =>
    branch.forest ++ Statement.branchesForest rest

def Statement.otherwiseForest : Option (List Statement) → Forest
  | none => .empty
  | some body => Statement.bodyForest body

end

/-- A parameter as a forest. -/
def Parameter.forest (node : Parameter) : Forest :=
  .tree (.parameter node)
    (node.type.forest ++ .ofOption Literal.forest node.default)

/-- A function as a forest. -/
def Function.forest (node : Function) : Forest :=
  .tree (.function node)
    (.ofOption TypeName.forest node.returnType ++
      (.ofList Parameter.forest node.parameters ++
        Statement.bodyForest node.body))

/-- An event as a forest. -/
def Event.forest (node : Event) : Forest :=
  .tree (.event node)
    (.ofList Parameter.forest node.parameters ++ Statement.bodyForest node.body)

/-- A variable as a forest. -/
def Variable.forest (node : Variable) : Forest :=
  .tree (.variable node)
    (node.type.forest ++ .ofOption Literal.forest node.initial)

/-- Where the value of a property comes from, as a forest. -/
def PropertySource.forest : PropertySource → Forest
  | .auto initial => .ofOption Literal.forest initial
  | .readOnly initial => initial.forest
  | .full getter setter =>
    .ofOption Function.forest getter ++ .ofOption Function.forest setter

/-- A property as a forest. -/
def Property.forest (node : Property) : Forest :=
  .tree (.property node) (node.type.forest ++ node.source.forest)

/-- A state as a forest. -/
def ScriptState.forest (node : ScriptState) : Forest :=
  .tree (.state node) (.ofList Event.forest node.events)

/-- A member as a forest. -/
def Member.forest : Member → Forest
  | .variable node => node.forest
  | .property node => node.forest
  | .function node => node.forest
  | .event node => node.forest
  | .state node => node.forest

/-- An import as a forest. -/
def Import.forest (node : Import) : Forest := .tree (.importLine node) .empty

/-- A script as a forest: its imports, then its members. -/
def Script.forest (node : Script) : Forest :=
  .tree (.script node)
    (.ofList Import.forest node.imports ++ .ofList Member.forest node.members)

namespace Visitor

variable {σ : Type} (visitor : Visitor σ)

def walkForest : Forest → Walk σ Unit
  | .empty => pure ()
  | .type shown beside => do
      visitor.walkType shown
      walkForest beside
  | .node shown _ below beside => do
      visitor.visit shown (walkForest below)
      walkForest beside

theorem walkForest_append (front others : Forest) :
    visitor.walkForest (front ++ others) =
      (do
        visitor.walkForest front
        visitor.walkForest others) := by
  induction front with
  | empty =>
    simp [walkForest]
  | type shown beside ih =>
    simp [walkForest, ih]
  | node shown proper below beside _ ih =>
    simp [walkForest, ih]

theorem walkForest_tree
    (shown : Node) (below : Forest) (proper : shown.isType = false) :
    visitor.walkForest (.tree shown below proper) =
      visitor.visit shown (visitor.walkForest below) := by
  simp [Forest.tree, walkForest]

theorem walkType_eq (type : TypeName) :
    visitor.walkType type = visitor.walkForest type.forest := by
  simp [TypeName.forest, walkForest]

theorem walkLiteral_eq (node : Literal) :
    visitor.walkLiteral node = visitor.walkForest node.forest := by
  simp [walkLiteral, Literal.forest, walkForest_tree, walkForest]

theorem walkOptional_eq
    {α : Type} {walk : α → Walk σ Unit} {forest : α → Forest}
    (same : ∀ part, walk part = visitor.walkForest (forest part))
    (part : Option α) :
    walkOptional walk part = visitor.walkForest (.ofOption forest part) := by
  cases part with
  | none => rfl
  | some part => exact same part

theorem walkAll_eq {α : Type} {walk : α → Walk σ Unit} {forest : α → Forest}
    (same : ∀ part, walk part = visitor.walkForest (forest part))
    (parts : List α) :
    walkAll walk parts = visitor.walkForest (.ofList forest parts) := by
  induction parts with
  | nil => rfl
  | cons part rest ih =>
    simp only [walkAll, Forest.ofList, walkForest_append, same, ih]

mutual

/-- Walking an expression is walking its forest, by induction on it. -/
theorem walkExpression_eq (expression : Expression) :
    visitor.walkExpression expression =
      visitor.walkForest expression.forest := by
  cases expression with
  | literal node =>
    rw [walkExpression, Expression.forest, walkLiteral_eq]
  | name node =>
    rw [walkExpression, Expression.forest, walkForest_tree, walkForest]
  | unary operator operand span =>
    rw [walkExpression, Expression.forest, walkForest_tree,
      walkExpression_eq operand]
  | binary operator left right span =>
    rw [walkExpression, Expression.forest, walkForest_tree,
      walkForest_append, walkExpression_eq left, walkExpression_eq right]
  | call callee arguments span =>
    rw [walkExpression, Expression.forest, walkForest_tree, walkForest_append,
      walkExpression_eq callee, walkArguments_eq arguments]
  | member object field span =>
    rw [walkExpression, Expression.forest, walkForest_tree,
      walkExpression_eq object]
  | index array subscript span =>
    rw [walkExpression, Expression.forest, walkForest_tree, walkForest_append,
      walkExpression_eq array, walkExpression_eq subscript]
  | cast operand target span =>
    rw [walkExpression, Expression.forest, walkForest_tree,
      walkForest_append, walkExpression_eq operand, walkType_eq]
  | create type size span =>
    rw [walkExpression, Expression.forest, walkForest_tree,
      walkForest_append, walkType_eq, walkSize_eq size]
  | arrayLength array span =>
    rw [walkExpression, Expression.forest, walkForest_tree,
      walkExpression_eq array]

theorem walkSize_eq (size : Option Expression) :
    visitor.walkSize size =
      visitor.walkForest (Expression.sizeForest size) := by
  cases size with
  | none =>
    rw [walkSize, Expression.sizeForest, walkForest]
  | some size =>
    rw [walkSize, Expression.sizeForest, walkExpression_eq size]

theorem walkArgument_eq (argument : Argument Expression) :
    visitor.walkArgument argument = visitor.walkForest (argument.forest) := by
  obtain ⟨name, value, span⟩ := argument
  rw [walkArgument, Argument.forest, walkForest_tree, walkExpression_eq value]

theorem walkArguments_eq (arguments : List (Argument Expression)) :
    visitor.walkArguments arguments =
      visitor.walkForest (Expression.argumentsForest arguments) := by
  cases arguments with
  | nil =>
    rw [walkArguments, Expression.argumentsForest, walkForest]
  | cons argument rest =>
    rw [walkArguments, Expression.argumentsForest, walkForest_append,
      walkArgument_eq argument, walkArguments_eq rest]

end

mutual

/-- Walking a statement is walking its forest, by induction on it. -/
theorem walkStatement_eq (statement : Statement) :
    visitor.walkStatement statement = visitor.walkForest statement.forest := by
  cases statement with
  | expression value span =>
    rw [walkStatement, Statement.forest, walkForest_tree, walkExpression_eq]
  | assign target operator value span =>
    rw [walkStatement, Statement.forest, walkForest_tree,
      walkForest_append, walkExpression_eq, walkExpression_eq]
  | conditional branches otherwise span =>
    rw [walkStatement, Statement.forest, walkForest_tree, walkForest_append,
      walkBranches_eq branches, walkOtherwise_eq otherwise]
  | loop condition body span =>
    rw [walkStatement, Statement.forest, walkForest_tree,
      walkForest_append, walkExpression_eq, walkBody_eq body]
  | result value span =>
    rw [walkStatement, Statement.forest, walkForest_tree,
      walkOptional_eq visitor visitor.walkExpression_eq]
  | declare type name initial span =>
    rw [walkStatement, Statement.forest, walkForest_tree, walkForest_append,
      walkType_eq, walkOptional_eq visitor visitor.walkExpression_eq]

theorem walkBody_eq (body : List Statement) :
    visitor.walkBody body = visitor.walkForest (Statement.bodyForest body) := by
  cases body with
  | nil =>
    rw [walkBody, Statement.bodyForest, walkForest]
  | cons statement rest =>
    rw [walkBody, Statement.bodyForest, walkForest_append,
      walkStatement_eq statement, walkBody_eq rest]

theorem walkBranch_eq (branch : Branch Statement) :
    visitor.walkBranch branch = visitor.walkForest (branch.forest) := by
  obtain ⟨condition, body, span⟩ := branch
  rw [walkBranch, Branch.forest, walkForest_tree,
    walkForest_append, walkExpression_eq, walkBody_eq body]

theorem walkBranches_eq (branches : List (Branch Statement)) :
    visitor.walkBranches branches =
      visitor.walkForest (Statement.branchesForest branches) := by
  cases branches with
  | nil =>
    rw [walkBranches, Statement.branchesForest, walkForest]
  | cons branch rest =>
    rw [walkBranches, Statement.branchesForest, walkForest_append,
      walkBranch_eq branch, walkBranches_eq rest]

theorem walkOtherwise_eq (otherwise : Option (List Statement)) :
    visitor.walkOtherwise otherwise =
      visitor.walkForest (Statement.otherwiseForest otherwise) := by
  cases otherwise with
  | none =>
    rw [walkOtherwise, Statement.otherwiseForest, walkForest]
  | some body =>
    rw [walkOtherwise, Statement.otherwiseForest, walkBody_eq body]

end

theorem walkParameter_eq (node : Parameter) :
    visitor.walkParameter node = visitor.walkForest node.forest := by
  rw [walkParameter, Parameter.forest, walkForest_tree, walkForest_append,
    walkType_eq, walkOptional_eq visitor visitor.walkLiteral_eq]

theorem walkFunction_eq (node : Function) :
    visitor.walkFunction node = visitor.walkForest node.forest := by
  rw [walkFunction, Function.forest, walkForest_tree, walkForest_append,
    walkForest_append, walkOptional_eq visitor visitor.walkType_eq,
    walkAll_eq visitor visitor.walkParameter_eq, walkBody_eq]

theorem walkEvent_eq (node : Event) :
    visitor.walkEvent node = visitor.walkForest node.forest := by
  rw [walkEvent, Event.forest, walkForest_tree, walkForest_append,
    walkAll_eq visitor visitor.walkParameter_eq, walkBody_eq]

theorem walkVariable_eq (node : Variable) :
    visitor.walkVariable node = visitor.walkForest node.forest := by
  rw [walkVariable, Variable.forest, walkForest_tree, walkForest_append,
    walkType_eq, walkOptional_eq visitor visitor.walkLiteral_eq]

theorem walkProperty_eq (node : Property) :
    visitor.walkProperty node = visitor.walkForest node.forest := by
  rw [walkProperty, Property.forest, walkForest_tree, walkForest_append,
    walkType_eq]
  cases node.source with
  | auto initial =>
    simp only [PropertySource.forest,
      walkOptional_eq visitor visitor.walkLiteral_eq]
  | readOnly initial =>
    simp only [PropertySource.forest, walkLiteral_eq]
  | full getter setter =>
    simp only [PropertySource.forest, walkForest_append,
      walkOptional_eq visitor visitor.walkFunction_eq]

theorem walkMember_eq (member : Member) :
    visitor.walkMember member = visitor.walkForest member.forest := by
  rcases member with node | node | node | node | node
  · exact walkVariable_eq visitor node
  · exact walkProperty_eq visitor node
  · exact walkFunction_eq visitor node
  · exact walkEvent_eq visitor node
  · rw [walkMember, Member.forest, ScriptState.forest, walkForest_tree,
      walkAll_eq visitor visitor.walkEvent_eq]

theorem walkImport_eq (node : Import) :
    visitor.walkImport node = visitor.walkForest node.forest := by
  rw [walkImport, Import.forest, walkForest_tree, walkForest]

theorem walkScript_eq (node : Script) :
    visitor.walkScript node = visitor.walkForest node.forest := by
  rw [walkScript, Script.forest, walkForest_tree, walkForest_append,
    walkAll_eq visitor visitor.walkImport_eq,
    walkAll_eq visitor visitor.walkMember_eq]

end Visitor

end PapyrusScript
