import Mathlib.Algebra.GroupWithZero.Nat
import Mathlib.Data.String.Basic
import PapyrusScript.Parsed
import PapyrusScript.Proofs.Walk.Gains
import PapyrusScript.Walk.Trace

/-!
# A summary counts what a script consists of

The parts of a script are listed by recursion on its tree, without a walk:

* the expressions in an expression and the statements in a statement, at any
  depth, each in front of those inside it;
* the bodies of a script, those of property functions and of events of
  states included, and the literals that are initial values or defaults;
* how many conditionals and loops are nested in one another.

A summary gives the lengths of these lists, and for each name that is called
the number of calls by that name.
-/

namespace PapyrusScript

/-! ## The parts of a script -/

mutual

/-- An expression and all those inside it. -/
def Expression.inside : Expression → List Expression
  | .literal node => [.literal node]
  | .name node => [.name node]
  | .unary operator operand span =>
    .unary operator operand span :: operand.inside
  | .binary operator left right span =>
    .binary operator left right span :: (left.inside ++ right.inside)
  | .call callee arguments span =>
    .call callee arguments span ::
      (callee.inside ++ Expression.insideArguments arguments)
  | .member object field span =>
    .member object field span :: object.inside
  | .index array subscript span =>
    .index array subscript span :: (array.inside ++ subscript.inside)
  | .cast operand target span =>
    .cast operand target span :: operand.inside
  | .create type size span =>
    .create type size span :: Expression.insideSize size
  | .arrayLength array span =>
    .arrayLength array span :: array.inside

def Expression.insideSize : Option Expression → List Expression
  | none => []
  | some size => size.inside

/-- The expressions inside an argument. -/
def Argument.inside : Argument Expression → List Expression
  | ⟨_, value, _⟩ => value.inside

def Expression.insideArguments :
    List (Argument Expression) → List Expression
  | [] => []
  | argument :: rest =>
    argument.inside ++ Expression.insideArguments rest

end

def Expression.insideOptional (value : Option Expression) : List Expression :=
  value.elim [] Expression.inside

mutual

/-- A statement and all those inside it. -/
def Statement.inside : Statement → List Statement
  | .expression value span => [.expression value span]
  | .assign target operator value span =>
    [.assign target operator value span]
  | .conditional branches otherwise span =>
    .conditional branches otherwise span ::
      (Statement.insideBranches branches ++ Statement.insideOtherwise otherwise)
  | .loop condition body span =>
    .loop condition body span :: Statement.insideBody body
  | .result value span => [.result value span]
  | .declare type name initial span => [.declare type name initial span]

def Statement.insideBody : List Statement → List Statement
  | [] => []
  | statement :: rest => statement.inside ++ Statement.insideBody rest

/-- The statements inside an arm of a conditional. -/
def Branch.inside : Branch Statement → List Statement
  | ⟨_, body, _⟩ => Statement.insideBody body

def Statement.insideBranches : List (Branch Statement) → List Statement
  | [] => []
  | branch :: rest => branch.inside ++ Statement.insideBranches rest

def Statement.insideOtherwise : Option (List Statement) → List Statement
  | none => []
  | some body => Statement.insideBody body

end

mutual

def Statement.expressions : Statement → List Expression
  | .expression value _ => value.inside
  | .assign target _ value _ => target.inside ++ value.inside
  | .conditional branches otherwise _ =>
    Statement.expressionsOfBranches branches ++
      Statement.expressionsOfOtherwise otherwise
  | .loop condition body _ =>
    condition.inside ++ Statement.expressionsOfBody body
  | .result value _ => Expression.insideOptional value
  | .declare _ _ initial _ => Expression.insideOptional initial

def Statement.expressionsOfBody : List Statement → List Expression
  | [] => []
  | statement :: rest =>
    statement.expressions ++ Statement.expressionsOfBody rest

def Branch.expressions : Branch Statement → List Expression
  | ⟨condition, body, _⟩ =>
    condition.inside ++ Statement.expressionsOfBody body

def Statement.expressionsOfBranches :
    List (Branch Statement) → List Expression
  | [] => []
  | branch :: rest =>
    branch.expressions ++ Statement.expressionsOfBranches rest

def Statement.expressionsOfOtherwise :
    Option (List Statement) → List Expression
  | none => []
  | some body => Statement.expressionsOfBody body

end

mutual

def Statement.nesting : Statement → Nat
  | .expression _ _ => 0
  | .assign _ _ _ _ => 0
  | .conditional branches otherwise _ =>
    max (Statement.nestingOfBranches branches)
      (Statement.nestingOfOtherwise otherwise) + 1
  | .loop _ body _ => Statement.nestingOfBody body + 1
  | .result _ _ => 0
  | .declare _ _ _ _ => 0

def Statement.nestingOfBody : List Statement → Nat
  | [] => 0
  | statement :: rest =>
    max statement.nesting (Statement.nestingOfBody rest)

def Branch.nesting : Branch Statement → Nat
  | ⟨_, body, _⟩ => Statement.nestingOfBody body

def Statement.nestingOfBranches : List (Branch Statement) → Nat
  | [] => 0
  | branch :: rest =>
    max branch.nesting (Statement.nestingOfBranches rest)

def Statement.nestingOfOtherwise : Option (List Statement) → Nat
  | none => 0
  | some body => Statement.nestingOfBody body

end

namespace Member

def accessors : Member → List Function
  | .property ⟨_, _, .full getter setter, _, _, _, _⟩ =>
    getter.toList ++ setter.toList
  | _ => []

/-- The events that a member declares, itself or in a state. -/
def events : Member → List Event
  | .event node => [node]
  | .state node => node.events
  | _ => []

def allFunctions (member : Member) : List Function :=
  member.function?.toList ++ member.accessors

def bodies (member : Member) : List (List Statement) :=
  member.allFunctions.map Function.body ++ member.events.map Event.body

def parameters (member : Member) : List Parameter :=
  member.allFunctions.flatMap Function.parameters ++
    member.events.flatMap Event.parameters

def initials : Member → List Literal
  | .variable node => node.initial.toList
  | .property ⟨_, _, .auto initial, _, _, _, _⟩ => initial.toList
  | .property ⟨_, _, .readOnly initial, _, _, _, _⟩ => [initial]
  | _ => []

def hook : Member → Hook
  | .variable _ => .variable
  | .property _ => .property
  | .function _ => .function
  | .event _ => .event
  | .state _ => .state

end Member

namespace Script

variable (script : Script)

def countMembers (hook : Hook) : Nat :=
  script.members.countP fun member => member.hook = hook

def bodies : List (List Statement) := script.members.flatMap Member.bodies

def statements : List Statement := script.bodies.flatMap Statement.insideBody

def countStatements (hook : Hook) : Nat :=
  script.statements.countP fun statement => statement.hook = hook

def expressions : List Expression :=
  script.bodies.flatMap Statement.expressionsOfBody

def literals : List Literal :=
  script.members.flatMap fun member =>
    member.initials ++ member.parameters.filterMap Parameter.default

def targets : List String := script.expressions.filterMap Expression.target?

def nesting : Nat := (script.bodies.map Statement.nestingOfBody).foldr max 0

end Script

namespace Summary

/-- A summary counts what a script consists of. -/
structure Counts (summary : Summary) (script : Script) : Prop where
  name : summary.name = script.name.name
  imports : summary.imports = script.imports.length
  scriptVariables : summary.scriptVariables = script.countMembers .variable
  properties : summary.properties = script.countMembers .property
  functions :
    summary.functions = script.functions.length +
      (script.members.flatMap Member.accessors).length
  events : summary.events = (script.members.flatMap Member.events).length
  states : summary.states = script.countMembers .state
  statements :
    summary.statements =
      { expression := script.countStatements .expressionStatement
        assign := script.countStatements .assign
        conditional := script.countStatements .conditional
        loop := script.countStatements .loop
        result := script.countStatements .result
        declare := script.countStatements .declare }
  expressions :
    summary.expressions = script.expressions.length + script.literals.length
  maxDepth : summary.maxDepth = script.nesting
  ordered : (summary.calls.map Prod.fst).Pairwise (· < ·)
  calls : ∀ name count, (name, count) ∈ summary.calls ↔
    script.targets.count name = count ∧ 0 < count
  total :
    (summary.calls.map Prod.snd).sum =
      script.expressions.countP fun node => node.hook = .call

end Summary

namespace Summary

variable {calls : List (String × Nat)}

/-! ## Gains of the parts -/

namespace Gain

def ofCode (statements : List Statement) (expressions : List Expression)
    (nesting : Nat) : Gain where
  statements := statements
  expressions := expressions.length
  targets := expressions.filterMap Expression.target?
  nesting := nesting

@[simp]
theorem ofCode_append (statements others : List Statement)
    (expressions more : List Expression) (nesting depth : Nat) :
    ofCode statements expressions nesting ++ ofCode others more depth =
      ofCode (statements ++ others) (expressions ++ more)
        (max nesting depth) := by
  simp [append_def, append, ofCode]

theorem ofNode_expression (node : Expression) :
    ofNode (.expression node) = ofCode [] [node] 0 := by
  cases node <;> rfl

theorem ofNode_statement (node : Statement) :
    ofNode (.statement node) = ofCode [node] [] 0 :=
  rfl

theorem below_of_not_deepens
    {node : Node} (flat : node.deepens = false) (gained : Gain) :
    gained.below node = gained := by
  simp [below, flat]

theorem ofCode_below {node : Node} (deepens : node.deepens = true)
    (statements : List Statement) (expressions : List Expression)
    (nesting : Nat) :
    (ofCode statements expressions nesting).below node =
      ofCode statements expressions (nesting + 1) := by
  simp [below, deepens, ofCode]

@[simp]
theorem ofForest_type (type : TypeName) : ofForest type.forest = {} := rfl

theorem ofForest_expression_tree (node : Expression) (below : Forest) :
    ofForest (.tree (.expression node) below) =
      ofCode [] [node] 0 ++ ofForest below := by
  rw [ofForest_tree, ofNode_expression, below_of_not_deepens rfl]

theorem ofForest_literal (node : Literal) :
    ofForest node.forest = ofCode [] [.literal node] 0 :=
  ofForest_tree _ _ rfl

mutual

/-- An expression gains the expressions inside it. -/
theorem ofForest_expression (expression : Expression) :
    ofForest expression.forest = ofCode [] expression.inside 0 := by
  cases expression with
  | literal node =>
    rw [Expression.forest, ofForest_literal, Expression.inside]
  | name node =>
    rw [Expression.forest, ofForest_expression_tree, Expression.inside]
    rfl
  | unary operator operand span =>
    rw [Expression.forest, ofForest_expression_tree, Expression.inside,
      ofForest_expression operand, ofCode_append]
    rfl
  | binary operator left right span =>
    rw [Expression.forest, ofForest_expression_tree, Expression.inside,
      ofForest_append, ofForest_expression left,
      ofForest_expression right, ofCode_append, ofCode_append]
    rfl
  | call callee arguments span =>
    rw [Expression.forest, ofForest_expression_tree, Expression.inside,
      ofForest_append, ofForest_expression callee,
      ofForest_arguments arguments, ofCode_append, ofCode_append]
    rfl
  | member object field span =>
    rw [Expression.forest, ofForest_expression_tree, Expression.inside,
      ofForest_expression object, ofCode_append]
    rfl
  | index array subscript span =>
    rw [Expression.forest, ofForest_expression_tree, Expression.inside,
      ofForest_append, ofForest_expression array,
      ofForest_expression subscript, ofCode_append, ofCode_append]
    rfl
  | cast operand target span =>
    rw [Expression.forest, ofForest_expression_tree, Expression.inside,
      ofForest_append, ofForest_expression operand, ofForest_type,
      append_empty, ofCode_append]
    rfl
  | create type size span =>
    rw [Expression.forest, ofForest_expression_tree, Expression.inside,
      ofForest_append, ofForest_type, empty_append, ofForest_size size,
      ofCode_append]
    rfl
  | arrayLength array span =>
    rw [Expression.forest, ofForest_expression_tree, Expression.inside,
      ofForest_expression array, ofCode_append]
    rfl

theorem ofForest_size (size : Option Expression) :
    ofForest (Expression.sizeForest size) =
      ofCode [] (Expression.insideSize size) 0 := by
  cases size with
  | none => rw [Expression.sizeForest, Expression.insideSize]; rfl
  | some size =>
    rw [Expression.sizeForest, Expression.insideSize, ofForest_expression size]

theorem ofForest_argument (argument : Argument Expression) :
    ofForest argument.forest = ofCode [] argument.inside 0 := by
  obtain ⟨name, value, span⟩ := argument
  rw [Argument.forest, Argument.inside, ofForest_tree,
    below_of_not_deepens rfl, ofForest_expression value]
  exact empty_append _

theorem ofForest_arguments (arguments : List (Argument Expression)) :
    ofForest (Expression.argumentsForest arguments) =
      ofCode [] (Expression.insideArguments arguments) 0 := by
  cases arguments with
  | nil =>
    rw [Expression.argumentsForest, Expression.insideArguments]
    rfl
  | cons argument rest =>
    rw [Expression.argumentsForest, Expression.insideArguments, ofForest_append,
      ofForest_argument argument, ofForest_arguments rest, ofCode_append]
    rfl

end

theorem ofForest_optional (value : Option Expression) :
    ofForest (.ofOption Expression.forest value) =
      ofCode [] (Expression.insideOptional value) 0 := by
  cases value with
  | none => rfl
  | some value => exact ofForest_expression value

/-- A node of a statement gains one statement, and one level if it deepens. -/
theorem ofForest_statement_tree
    {node : Statement} {below : Forest} {statements : List Statement}
    {expressions : List Expression} {nesting : Nat}
    (inner : ofForest below = ofCode statements expressions nesting) :
    ofForest (.tree (.statement node) below) =
      ofCode (node :: statements) expressions
        (if (Node.statement node).deepens then nesting + 1
          else nesting) := by
  rw [ofForest_tree, inner, ofNode_statement]
  split
  · rename_i deepens
    rw [ofCode_below deepens, ofCode_append, Nat.zero_max]
    rfl
  · rename_i flat
    rw [below_of_not_deepens (by simpa using flat), ofCode_append, Nat.zero_max]
    rfl

mutual

/-- A statement gains the statements inside it. -/
theorem ofForest_statement (statement : Statement) :
    ofForest statement.forest =
      ofCode statement.inside statement.expressions statement.nesting := by
  cases statement with
  | expression value span =>
    rw [Statement.forest, Statement.inside, Statement.expressions,
      Statement.nesting, ofForest_statement_tree (ofForest_expression value)]
    rfl
  | assign target operator value span =>
    rw [Statement.forest, Statement.inside, Statement.expressions,
      Statement.nesting, ofForest_statement_tree]
    · rfl
    · rw [ofForest_append, ofForest_expression, ofForest_expression,
        ofCode_append]
      rfl
  | conditional branches otherwise span =>
    rw [Statement.forest, Statement.inside, Statement.expressions,
      Statement.nesting, ofForest_statement_tree]
    · rfl
    · rw [ofForest_append, ofForest_branches branches,
        ofForest_otherwise otherwise, ofCode_append]
  | loop condition body span =>
    rw [Statement.forest, Statement.inside, Statement.expressions,
      Statement.nesting, ofForest_statement_tree]
    · rfl
    · rw [ofForest_append, ofForest_expression, ofForest_body body,
        ofCode_append, Nat.zero_max]
      rfl
  | result value span =>
    rw [Statement.forest, Statement.inside, Statement.expressions,
      Statement.nesting, ofForest_statement_tree (ofForest_optional value)]
    rfl
  | declare type name initial span =>
    rw [Statement.forest, Statement.inside, Statement.expressions,
      Statement.nesting, ofForest_statement_tree]
    · rfl
    · rw [ofForest_append, ofForest_type, empty_append, ofForest_optional]

theorem ofForest_body (body : List Statement) :
    ofForest (Statement.bodyForest body) =
      ofCode (Statement.insideBody body) (Statement.expressionsOfBody body)
        (Statement.nestingOfBody body) := by
  cases body with
  | nil =>
    rw [Statement.bodyForest, Statement.insideBody,
      Statement.expressionsOfBody, Statement.nestingOfBody]
    rfl
  | cons statement rest =>
    rw [Statement.bodyForest, Statement.insideBody, Statement.expressionsOfBody,
      Statement.nestingOfBody, ofForest_append, ofForest_statement statement,
      ofForest_body rest, ofCode_append]

theorem ofForest_branch (branch : Branch Statement) :
    ofForest branch.forest =
      ofCode branch.inside branch.expressions branch.nesting := by
  obtain ⟨condition, body, span⟩ := branch
  rw [Branch.forest, Branch.inside, Branch.expressions, Branch.nesting,
    ofForest_tree, below_of_not_deepens rfl, ofForest_append,
    ofForest_expression, ofForest_body body, ofCode_append, Nat.zero_max]
  exact empty_append _

/-- The arms of a conditional gain what their bodies do. -/
theorem ofForest_branches (branches : List (Branch Statement)) :
    ofForest (Statement.branchesForest branches) =
      ofCode (Statement.insideBranches branches)
        (Statement.expressionsOfBranches branches)
        (Statement.nestingOfBranches branches) := by
  cases branches with
  | nil =>
    rw [Statement.branchesForest, Statement.insideBranches,
      Statement.expressionsOfBranches, Statement.nestingOfBranches]
    rfl
  | cons branch rest =>
    rw [Statement.branchesForest, Statement.insideBranches,
      Statement.expressionsOfBranches, Statement.nestingOfBranches,
      ofForest_append, ofForest_branch branch, ofForest_branches rest,
      ofCode_append]

theorem ofForest_otherwise (otherwise : Option (List Statement)) :
    ofForest (Statement.otherwiseForest otherwise) =
      ofCode (Statement.insideOtherwise otherwise)
        (Statement.expressionsOfOtherwise otherwise)
        (Statement.nestingOfOtherwise otherwise) := by
  cases otherwise with
  | none =>
    rw [Statement.otherwiseForest, Statement.insideOtherwise,
      Statement.expressionsOfOtherwise, Statement.nestingOfOtherwise]
    rfl
  | some body =>
    rw [Statement.otherwiseForest, Statement.insideOtherwise,
      Statement.expressionsOfOtherwise, Statement.nestingOfOtherwise,
      ofForest_body body]

end

/-! ## Gains of declarations -/

/-- What declarations add: the numbers of variables, properties, functions,
events and states, and the literals and bodies in them. -/
def ofDeclarations (owned properties functions events states : Nat)
    (literals : List Literal) (bodies : List (List Statement)) : Gain where
  scriptVariables := owned
  properties := properties
  functions := functions
  events := events
  states := states
  statements := bodies.flatMap Statement.insideBody
  expressions :=
    (bodies.flatMap Statement.expressionsOfBody).length + literals.length
  targets :=
    (bodies.flatMap Statement.expressionsOfBody).filterMap
      Expression.target?
  nesting := (bodies.map Statement.nestingOfBody).foldr max 0

theorem foldr_max_append (front back : List Nat) :
    (front ++ back).foldr max 0 =
      max (front.foldr max 0) (back.foldr max 0) := by
  induction front with
  | nil => simp
  | cons depth rest ih =>
    simp [ih, Nat.max_assoc]

/-- What declarations add is added part by part. -/
@[simp]
theorem ofDeclarations_append (owned properties functions events states : Nat)
    (literals : List Literal) (bodies : List (List Statement))
    (moreOwned moreProperties moreFunctions moreEvents moreStates : Nat)
    (moreLiterals : List Literal) (moreBodies : List (List Statement)) :
    ofDeclarations owned properties functions events states literals
        bodies ++
      ofDeclarations moreOwned moreProperties moreFunctions moreEvents
        moreStates moreLiterals moreBodies =
      ofDeclarations (owned + moreOwned)
        (properties + moreProperties) (functions + moreFunctions)
        (events + moreEvents) (states + moreStates)
        (literals ++ moreLiterals) (bodies ++ moreBodies) := by
  simp only [append_def, append, ofDeclarations, List.flatMap_append,
    List.length_append, List.filterMap_append, List.map_append,
    foldr_max_append, Gain.mk.injEq, and_true, true_and, Nat.zero_add]
  omega

theorem ofForest_body_eq (body : List Statement) :
    ofForest (Statement.bodyForest body) =
      ofDeclarations 0 0 0 0 0 [] [body] := by
  rw [ofForest_body]
  simp [ofCode, ofDeclarations]

theorem ofForest_optional_literal (initial : Option Literal) :
    ofForest (.ofOption Literal.forest initial) =
      ofDeclarations 0 0 0 0 0 initial.toList [] := by
  cases initial with
  | none => rfl
  | some node => rfl

theorem ofForest_parameter (node : Parameter) :
    ofForest node.forest = ofDeclarations 0 0 0 0 0 node.default.toList [] := by
  rw [Parameter.forest, ofForest_tree, below_of_not_deepens rfl,
    ofForest_append, ofForest_type, empty_append, ofForest_optional_literal]
  exact empty_append _

theorem ofForest_parameters (parameters : List Parameter) :
    ofForest (.ofList Parameter.forest parameters) =
      ofDeclarations 0 0 0 0 0 (parameters.filterMap Parameter.default)
        [] := by
  induction parameters with
  | nil => rfl
  | cons node rest ih =>
    rw [Forest.ofList, ofForest_append, ofForest_parameter,
      ih, ofDeclarations_append]
    cases shown : node.default with
    | none => simp [shown]
    | some value => simp [shown]

theorem ofForest_function (node : Function) :
    ofForest node.forest =
      ofDeclarations 0 0 1 0 0
        (node.parameters.filterMap Parameter.default) [node.body] := by
  have untyped : ofForest (.ofOption TypeName.forest node.returnType) = {} := by
    cases node.returnType with
    | none => rfl
    | some type => rfl
  have counted : ofNode (.function node) = ofDeclarations 0 0 1 0 0 [] [] := rfl
  rw [Function.forest, ofForest_tree, below_of_not_deepens rfl,
    ofForest_append, ofForest_append, untyped, empty_append,
    ofForest_parameters, ofForest_body_eq, counted]
  simp

theorem ofForest_optional_function (node : Option Function) :
    ofForest (.ofOption Function.forest node) =
      ofDeclarations 0 0 node.toList.length 0 0
        ((node.toList.flatMap Function.parameters).filterMap
          Parameter.default)
        (node.toList.map Function.body) := by
  cases node with
  | none => rfl
  | some node => simpa [Forest.ofOption] using ofForest_function node

theorem ofForest_event (node : Event) :
    ofForest node.forest =
      ofDeclarations 0 0 0 1 0
        (node.parameters.filterMap Parameter.default) [node.body] := by
  have counted : ofNode (.event node) = ofDeclarations 0 0 0 1 0 [] [] := rfl
  rw [Event.forest, ofForest_tree, below_of_not_deepens rfl,
    ofForest_append, ofForest_parameters, ofForest_body_eq, counted]
  simp

theorem ofForest_events (events : List Event) :
    ofForest (.ofList Event.forest events) =
      ofDeclarations 0 0 0 events.length 0
        ((events.flatMap Event.parameters).filterMap Parameter.default)
        (events.map Event.body) := by
  induction events with
  | nil => rfl
  | cons node rest ih =>
    rw [Forest.ofList, ofForest_append, ofForest_event,
      ih, ofDeclarations_append]
    simp [Nat.add_comm]

/-- A property gains its literals and what its functions do. -/
theorem ofForest_source (node : Property) :
    ofForest node.source.forest =
      ofDeclarations 0 0 (Member.property node).accessors.length 0 0
        ((Member.property node).initials ++
          ((Member.property node).accessors.flatMap
            Function.parameters).filterMap Parameter.default)
        ((Member.property node).accessors.map Function.body) := by
  obtain ⟨type, name, source, hidden, conditional, doc, span⟩ := node
  cases source with
  | auto initial =>
    rw [PropertySource.forest, ofForest_optional_literal]
    simp [Member.accessors, Member.initials]
  | readOnly initial =>
    rw [PropertySource.forest, ofForest_literal]
    rfl
  | full getter setter =>
    rw [PropertySource.forest, ofForest_append, ofForest_optional_function,
      ofForest_optional_function, ofDeclarations_append]
    simp [Member.accessors, Member.initials]

def ofMember (member : Member) : Gain :=
  ofDeclarations
    (if member.hook = .variable then 1 else 0)
    (if member.hook = .property then 1 else 0)
    member.allFunctions.length member.events.length
    (if member.hook = .state then 1 else 0)
    (member.initials ++ member.parameters.filterMap Parameter.default)
    member.bodies

/-- A member gains what it declares. -/
theorem ofForest_member (member : Member) :
    ofForest member.forest = ofMember member := by
  rcases member with node | node | node | node | node
  · have counted : ofNode (.variable node) = ofDeclarations 1 0 0 0 0 [] [] :=
      rfl
    rw [Member.forest, Variable.forest, ofForest_tree, below_of_not_deepens rfl,
      ofForest_append, ofForest_type, empty_append, ofForest_optional_literal,
      counted, ofDeclarations_append]
    simp [ofMember, Member.hook, Member.allFunctions, Member.function?,
      Member.accessors, Member.events, Member.initials,
      Member.parameters, Member.bodies]
  · have counted : ofNode (.property node) = ofDeclarations 0 1 0 0 0 [] [] :=
      rfl
    rw [Member.forest, Property.forest, ofForest_tree,
      below_of_not_deepens rfl, ofForest_append, ofForest_type,
      empty_append, ofForest_source, counted, ofDeclarations_append]
    simp [ofMember, Member.hook, Member.allFunctions, Member.function?,
      Member.events, Member.parameters, Member.bodies]
  · rw [Member.forest, ofForest_function]
    simp [ofMember, Member.hook, Member.allFunctions, Member.function?,
      Member.accessors, Member.events, Member.initials,
      Member.parameters, Member.bodies]
  · rw [Member.forest, ofForest_event]
    simp [ofMember, Member.hook, Member.allFunctions, Member.function?,
      Member.accessors, Member.events, Member.initials,
      Member.parameters, Member.bodies]
  · have counted : ofNode (.state node) = ofDeclarations 0 0 0 0 1 [] [] :=
      rfl
    rw [Member.forest, ScriptState.forest, ofForest_tree,
      below_of_not_deepens rfl, ofForest_events, counted, ofDeclarations_append]
    simp [ofMember, Member.hook, Member.allFunctions, Member.function?,
      Member.accessors, Member.events, Member.initials,
      Member.parameters, Member.bodies]

/-- Members gain what each of them does. -/
theorem ofForest_members (members : List Member) :
    ofForest (.ofList Member.forest members) =
      ofDeclarations
        (members.countP fun member => member.hook = .variable)
        (members.countP fun member => member.hook = .property)
        (members.flatMap Member.allFunctions).length
        (members.flatMap Member.events).length
        (members.countP fun member => member.hook = .state)
        (members.flatMap fun member =>
          member.initials ++ member.parameters.filterMap Parameter.default)
        (members.flatMap Member.bodies) := by
  induction members with
  | nil => rfl
  | cons member rest ih =>
    rw [Forest.ofList, ofForest_append, ofForest_member,
      ih, ofMember, ofDeclarations_append]
    simp only [List.countP_cons, List.flatMap_cons, List.length_append,
      decide_eq_true_eq, Nat.add_comm]

theorem ofForest_imports (imports : List Import) :
    ofForest (.ofList Import.forest imports) =
      { imports := imports.length } := by
  induction imports with
  | nil => rfl
  | cons line rest ih =>
    rw [Forest.ofList, ofForest_append, ih,
      Import.forest, ofForest_tree, below_of_not_deepens rfl]
    simp [append_def, append, ofNode, ofForest, Nat.add_comm]

theorem length_allFunctions (script : Script) :
    (script.members.flatMap Member.allFunctions).length =
      script.functions.length +
        (script.members.flatMap Member.accessors).length := by
  rw [Script.functions]
  induction script.members with
  | nil => rfl
  | cons member rest ih =>
    rw [List.flatMap_cons, List.flatMap_cons, List.length_append, ih,
      List.length_append, List.filterMap_cons, Member.allFunctions]
    cases member.function? with
    | none => simp; omega
    | some node => simp; omega

/-- A script gains what all of its declarations do. -/
theorem ofForest_script (script : Script) :
    ofForest script.forest =
      { imports := script.imports.length
        scriptVariables := script.countMembers .variable
        properties := script.countMembers .property
        functions := script.functions.length +
          (script.members.flatMap Member.accessors).length
        events := (script.members.flatMap Member.events).length
        states := script.countMembers .state
        statements := script.statements
        expressions := script.expressions.length + script.literals.length
        targets := script.targets
        nesting := script.nesting } := by
  rw [Script.forest, ofForest_tree, below_of_not_deepens rfl, ofForest_append,
    ofForest_imports, ofForest_members, length_allFunctions]
  simp only [append_def, append, ofNode, ofDeclarations, Nat.zero_add,
    Nat.add_zero, List.nil_append, Nat.zero_max]
  rfl

end Gain

/-! ## Counts of statements and calls -/

/-- A list of statements is counted sort by sort. -/
theorem foldl_add (counts : StatementCounts) (statements : List Statement) :
    statements.foldl StatementCounts.add counts =
      { expression := counts.expression +
          statements.countP fun node => node.hook = .expressionStatement
        assign := counts.assign +
          statements.countP fun node => node.hook = .assign
        conditional := counts.conditional +
          statements.countP fun node => node.hook = .conditional
        loop := counts.loop + statements.countP fun node => node.hook = .loop
        result := counts.result +
          statements.countP fun node => node.hook = .result
        declare := counts.declare +
          statements.countP fun node => node.hook = .declare } := by
  induction statements generalizing counts with
  | nil => rfl
  | cons node rest ih =>
    rw [List.foldl_cons, ih]
    cases node <;>
      simp [StatementCounts.add, Statement.hook, Nat.add_assoc, Nat.add_comm 1]

/-- A tally holds its name and those that it held before. -/
theorem mem_names_tally {name other : String} :
    other ∈ (tally name calls).map Prod.fst ↔
      other = name ∨ other ∈ calls.map Prod.fst := by
  induction calls with
  | nil => simp [tally]
  | cons call rest ih =>
    obtain ⟨first, count⟩ := call
    rw [tally]
    split
    · rename_i same
      simp [same]
    · split
      · simp
      · rw [List.map_cons, List.mem_cons, ih,
          List.map_cons, List.mem_cons, or_left_comm]

/-- A tally stays in the order of its names. -/
theorem pairwise_tally
    (name : String) (ordered : (calls.map Prod.fst).Pairwise (· < ·)) :
    ((tally name calls).map Prod.fst).Pairwise (· < ·) := by
  induction calls with
  | nil => simp [tally]
  | cons call rest ih =>
    obtain ⟨first, count⟩ := call
    obtain ⟨below, orderedRest⟩ := List.pairwise_cons.mp ordered
    rw [tally]
    split
    · exact ordered
    · rename_i different
      split
      · rename_i before
        refine List.pairwise_cons.mpr ⟨?_, ordered⟩
        intro other member
        rcases List.mem_cons.mp member with rfl | inRest
        · exact before
        · exact lt_trans before (below other inRest)
      · rename_i notBefore
        have behind : first < name :=
          lt_of_le_of_ne (not_lt.mp notBefore) (Ne.symm different)
        refine List.pairwise_cons.mpr
          ⟨?_, ih orderedRest⟩
        intro other member
        rcases mem_names_tally.mp member with rfl | inRest
        · exact behind
        · exact below other inRest

/-- One more occurrence of a name changes the count of this name only. -/
theorem mem_tally_iff {name other : String} {number : Nat}
    (ordered : (calls.map Prod.fst).Pairwise (· < ·)) :
    (other, number) ∈ tally name calls ↔
      if other = name then
        (∃ count, (name, count) ∈ calls ∧ number = count + 1) ∨
          (name ∉ calls.map Prod.fst ∧ number = 1)
      else (other, number) ∈ calls := by
  induction calls with
  | nil => simp [tally]
  | cons call rest ih =>
    obtain ⟨first, count⟩ := call
    obtain ⟨below, orderedRest⟩ := List.pairwise_cons.mp ordered
    have firstOnce : ∀ {any}, (first, any) ∉ rest := fun member =>
      lt_irrefl first (below first (List.mem_map_of_mem member))
    rw [tally]
    split
    · rename_i same
      subst same
      by_cases here : other = name
      · subst here
        simp [firstOnce]
      · simp [here]
    · rename_i different
      split
      · rename_i before
        have fresh : ∀ {any}, (name, any) ∉ rest := fun member =>
          lt_asymm before (below name (List.mem_map_of_mem member))
        by_cases here : other = name
        · subst here
          simp [different, fresh]
        · simp [here]
      · rw [List.mem_cons, ih orderedRest]
        by_cases here : other = name
        · subst here
          simp [different]
        · simp [here]

/-- A tally counts one call more. -/
theorem sum_tally (name : String) (calls : List (String × Nat)) :
    ((tally name calls).map Prod.snd).sum = (calls.map Prod.snd).sum + 1 := by
  induction calls with
  | nil => rfl
  | cons call rest ih =>
    obtain ⟨first, count⟩ := call
    rw [tally]
    split
    · simp only [List.map_cons, List.sum_cons]
      omega
    · split
      · simp only [List.map_cons, List.sum_cons]
        omega
      · simp only [List.map_cons, List.sum_cons, ih]
        omega

/-- Names in increasing order, each with the number of its occurrences. -/
structure Tallies
    (names : List String) (calls : List (String × Nat)) : Prop where
  ordered : (calls.map Prod.fst).Pairwise (· < ·)
  counts : ∀ name count, (name, count) ∈ calls ↔
    names.count name = count ∧ 0 < count
  total : (calls.map Prod.snd).sum = names.length

namespace Tallies

theorem nil : Tallies [] [] where
  ordered := .nil
  counts name count := by
    rw [List.count_nil]
    constructor
    · intro member
      exact absurd member List.not_mem_nil
    · rintro ⟨rfl, positive⟩
      exact absurd positive (lt_irrefl 0)
  total := rfl

variable {names : List String} {calls : List (String × Nat)}

theorem mem_names_iff (tallies : Tallies names calls) (name : String) :
    name ∈ calls.map Prod.fst ↔ 0 < names.count name := by
  constructor
  · intro member
    obtain ⟨⟨listed, count⟩, found, rfl⟩ := List.mem_map.mp member
    obtain ⟨rfl, positive⟩ := (tallies.counts _ _).mp found
    exact positive
  · intro positive
    exact List.mem_map_of_mem
      ((tallies.counts name _).mpr ⟨rfl, positive⟩)

/-- A name more is tallied behind the others. -/
theorem add (tallies : Tallies names calls) (name : String) :
    Tallies (names ++ [name]) (tally name calls) where
  ordered := pairwise_tally name tallies.ordered
  counts other count := by
    rw [mem_tally_iff tallies.ordered]
    split
    · rename_i same
      subst same
      rw [tallies.mem_names_iff, List.count_append, List.count_singleton_self]
      constructor
      · rintro (⟨before, member, rfl⟩ | ⟨fresh, rfl⟩)
        · obtain ⟨rfl, positive⟩ := (tallies.counts _ _).mp member
          exact ⟨rfl, Nat.succ_pos _⟩
        · omega
      · rintro ⟨rfl, positive⟩
        by_cases fresh : 0 < names.count other
        · exact .inl ⟨_, (tallies.counts _ _).mpr ⟨rfl, fresh⟩, rfl⟩
        · exact .inr ⟨fresh, by omega⟩
    · rename_i different
      have missing : [name].count other = 0 :=
        List.count_eq_zero.mpr (by simpa using different)
      rw [tallies.counts, List.count_append, missing, Nat.add_zero]
  total := by
    rw [sum_tally, tallies.total, List.length_append]
    rfl

theorem foldl (tallies : Tallies names calls) (more : List String) :
    Tallies (names ++ more)
      (more.foldl (fun calls name => tally name calls) calls) := by
  induction more generalizing names calls with
  | nil => simpa using tallies
  | cons name rest ih =>
    simpa using ih (tallies.add name)

end Tallies

/-! ## The summary of a script -/

/-- The number of names that are called is the number of calls. -/
theorem length_targets (script : Script) :
    script.targets.length =
      script.expressions.countP fun node => node.hook = .call := by
  rw [Script.targets]
  induction script.expressions with
  | nil => rfl
  | cons node rest ih =>
    rw [List.countP_cons, ← ih, List.filterMap_cons]
    cases node <;> simp [Expression.target?, Expression.hook]

/-- The beginning of a summary. -/
def Progress.start (script : Script) : Progress := ⟨.empty script.name.name, 0⟩

/-- What a walk of a script gains is what the script consists of. -/
theorem counts_gain_script (script : Script) :
    ((Progress.start script).gain (.ofForest script.forest)).summary.Counts
      script := by
  have tallies := Tallies.nil.foldl script.targets
  rw [List.nil_append] at tallies
  rw [Gain.ofForest_script]
  exact
    { name := rfl
      imports := Nat.zero_add _
      scriptVariables := Nat.zero_add _
      properties := Nat.zero_add _
      functions := Nat.zero_add _
      events := Nat.zero_add _
      states := Nat.zero_add _
      statements := by
        refine (foldl_add _ script.statements).trans ?_
        simp only [Progress.start, empty, Nat.zero_add, Script.countStatements]
      expressions := Nat.zero_add _
      maxDepth := (Nat.zero_max _).trans (Nat.zero_add _)
      ordered := tallies.ordered
      calls := tallies.counts
      total := tallies.total.trans (length_targets script) }

/-- The summary of a script counts what the script consists of.  The walk
that makes it begins and ends at depth zero, and no conditional or loop is
left at depth zero in between. -/
theorem ofScript_counts (script : Script) :
    (ofScript script).Counts script ∧
      ∃ calls,
        (visitor.recording.walkScript script).run.run
            (.start script, []) =
          (.ok (), (Progress.start script).follow calls, calls) ∧
        ((Progress.start script).follow calls).summary = ofScript script ∧
        ((Progress.start script).follow calls).depth = 0 ∧
        ∀ front node back, calls = front ++ .exit node :: back →
          node.deepens = true →
            0 < ((Progress.start script).follow front).depth := by
  have bounded : (Progress.start script).Bounded := Nat.le_refl 0
  have recorded := walkForest_visitor script.forest (.start script) []
  obtain ⟨visits, alone, -⟩ :=
    visitor.walkForest_recording script.forest (.start script) []
  have walked :
      ((visitor.walkForest script.forest).run.run (.start script)).2 =
        (Progress.start script).follow script.forest.calls := by
    rw [recorded] at alone
    exact (congrArg (fun walk => walk.2.1) alone).symm
  have summary : ofScript script =
      ((Progress.start script).follow script.forest.calls).summary := by
    rw [← walked, ← Visitor.walkScript_eq]
    rfl
  refine ⟨?_, script.forest.calls, ?_, summary.symm,
    (Progress.start script).depth_follow_calls _, ?_⟩
  · rw [summary, Progress.follow_calls bounded]
    exact counts_gain_script script
  · rw [Visitor.walkScript_eq]
    exact recorded
  · intro front node back here deepens
    have stays := (Progress.start script).staysAbove_calls script.forest
    rw [here] at stays
    exact stays.depth_pos deepens

/-- A loop holds a conditional and both count, a call of a member goes by two
names, and the initial value, the default and the arguments are counted as
expressions. -/
example :
    ofScript (Parsed.ofText
        ("Scriptname C\nInt n = 0\nFunction F(Int i = 1)\nWhile n < i\n" ++
          "If i == 2\nDebug.Trace(i)\nEndIf\nn += 1\nEndWhile\n" ++
          "EndFunction\n")).script =
      { empty "C" with
        scriptVariables := 1
        functions := 1
        statements := ⟨1, 1, 1, 1, 0, 0⟩
        expressions := 14
        maxDepth := 2
        calls := [("Debug.Trace", 1)] } := by
  decide +kernel

end Summary

end PapyrusScript
