import Mathlib.Order.Defs.PartialOrder
import Mathlib.Tactic.MkIffOfInductiveProp
import PapyrusScript.Proofs.Proper.Builds

/-!
# Nested spans

The spans of a tree nest if every node runs forwards and stands inside the node
above it.  Where a node has a list of nodes of one sort below it, these stand
one behind the other.

Each definition speaks of the nodes below a node.  What is said of the span of
the node itself is said where it stands.  The operands of an expression, which
are no list, are in order if each one ends where the next one starts or before.

The tokens of a text run forwards, one behind the other, and the last token
passed ended in front of the current one.  Such a cursor is `Orderly`, and so
is every cursor that a reader moves on to.

`Places reader cursor post` says that a reader at an orderly cursor moves on to
an orderly one, with an answer of which `post` holds.  What is read between two
cursors stands between the first token that was ahead and the last one that was
passed, which is the stretch `after.spanFrom cursor.position`.
-/

namespace PapyrusScript

section Trees

variable {α : Type}

instance : Preorder Position where
  le_refl := Position.le_refl
  le_trans _ _ _ := Position.le_trans
  lt_iff_le_not_ge first second := by
    constructor
    · exact fun before => ⟨Position.le_of_lt before, fun back => back before⟩
    · exact fun ordered => Decidable.not_not.1 ordered.2

namespace Span

/-- A stretch that runs forwards and stands inside another one. -/
@[mk_iff]
structure NestsIn (inner outer : Span) : Prop where
  start : outer.start ≤ inner.start
  forward : inner.start ≤ inner.stop
  stop : inner.stop ≤ outer.stop

attribute [grind cases] NestsIn
attribute [grind =] nestsIn_iff through

/-- Stretches one behind the other. -/
def InOrder (spans : List Span) : Prop :=
  spans.Pairwise fun first second => first.stop ≤ second.start

/-- Nodes that nest in a stretch, one behind the other, and with them the nodes
below. -/
structure Holds
    (outer : Span) (span : α → Span) (nested : α → Prop) (found : List α) :
    Prop where
  each : ∀ node ∈ found, (span node).NestsIn outer ∧ nested node
  inOrder : InOrder (found.map span)

end Span

/-! ## Expressions -/

namespace Expression

mutual

/-- The nodes below an expression nest. -/
def Nested : Expression → Prop
  | .literal _ => True
  | .name _ => True
  | .unary _ operand span => operand.span.NestsIn span ∧ Nested operand
  | .binary _ left right span =>
    (left.span.NestsIn span ∧ Nested left) ∧
      right.span.NestsIn span ∧ Nested right
  | .call callee arguments span =>
    (callee.span.NestsIn span ∧ Nested callee) ∧
      ArgumentsNestIn span arguments ∧
        Span.InOrder (arguments.map Argument.span)
  | .member object field span =>
    (object.span.NestsIn span ∧ Nested object) ∧ field.span.NestsIn span
  | .index array subscript span =>
    (array.span.NestsIn span ∧ Nested array) ∧
      subscript.span.NestsIn span ∧ Nested subscript
  | .cast operand target span =>
    (operand.span.NestsIn span ∧ Nested operand) ∧ target.span.NestsIn span
  | .create type size span => type.span.NestsIn span ∧ SizeNestsIn span size
  | .arrayLength array span => array.span.NestsIn span ∧ Nested array

def SizeNestsIn (outer : Span) : Option Expression → Prop
  | none => True
  | some size => size.span.NestsIn outer ∧ Nested size

def NestedArgument : Argument Expression → Prop
  | ⟨given, value, span⟩ =>
    (∀ node ∈ given, node.span.NestsIn span) ∧
      value.span.NestsIn span ∧ Nested value

def ArgumentsNestIn (outer : Span) : List (Argument Expression) → Prop
  | [] => True
  | argument :: rest =>
    (argument.span.NestsIn outer ∧ NestedArgument argument) ∧
      ArgumentsNestIn outer rest

end

/-- An expression nests in a stretch, and so do the nodes below it. -/
@[mk_iff]
structure NestsIn (tree : Expression) (outer : Span) : Prop where
  span : tree.span.NestsIn outer
  nested : tree.Nested

attribute [grind cases] NestsIn
attribute [grind =] nestsIn_iff span

mutual

/-- The nodes below an expression stand one behind the other.  The brackets of
a new array belong to its type, so the size starts behind the type, but stands
inside of it. -/
def Ordered : Expression → Prop
  | .literal _ => True
  | .name _ => True
  | .unary _ operand _ => Ordered operand
  | .binary _ left right _ =>
    left.span.stop ≤ right.span.start ∧ Ordered left ∧ Ordered right
  | .call callee arguments _ =>
    Ordered callee ∧ ArgumentsOrdered callee.span.stop arguments
  | .member object _ _ => Ordered object
  | .index array subscript _ =>
    array.span.stop ≤ subscript.span.start ∧ Ordered array ∧ Ordered subscript
  | .cast operand target _ =>
    operand.span.stop ≤ target.span.start ∧ Ordered operand
  | .create type size _ => SizeOrdered type.span.start size
  | .arrayLength array _ => Ordered array

def SizeOrdered (place : Position) : Option Expression → Prop
  | none => True
  | some size => place ≤ size.span.start ∧ Ordered size

def OrderedArgument : Argument Expression → Prop
  | ⟨_, value, _⟩ => Ordered value

def ArgumentsOrdered (place : Position) : List (Argument Expression) → Prop
  | [] => True
  | argument :: rest =>
    (place ≤ argument.span.start ∧ OrderedArgument argument) ∧
      ArgumentsOrdered place rest

end

/-- The nodes below an argument nest, in order. -/
structure ArrangedArgument (argument : Argument Expression) : Prop where
  nested : NestedArgument argument
  ordered : OrderedArgument argument

/-- An expression stands in a stretch, and the nodes below it in order. -/
@[mk_iff]
structure StandsIn (tree : Expression) (outer : Span) : Prop where
  span : tree.span.NestsIn outer
  nested : tree.Nested
  ordered : tree.Ordered

attribute [grind cases] StandsIn
attribute [grind =] standsIn_iff

theorem StandsIn.nestsIn
    {tree : Expression} {outer : Span} (stands : tree.StandsIn outer) :
    tree.NestsIn outer :=
  ⟨stands.span, stands.nested⟩

theorem argumentsOrdered_iff
    {place : Position} {found : List (Argument Expression)} :
    ArgumentsOrdered place found ↔
      ∀ argument ∈ found,
        place ≤ argument.span.start ∧ OrderedArgument argument := by
  induction found with
  | nil => simp [ArgumentsOrdered]
  | cons argument rest ih =>
    rw [ArgumentsOrdered, ih, List.forall_mem_cons]

theorem argumentsNestIn_iff
    {outer : Span} {found : List (Argument Expression)} :
    ArgumentsNestIn outer found ↔
      ∀ argument ∈ found,
        argument.span.NestsIn outer ∧ NestedArgument argument := by
  induction found with
  | nil => simp [ArgumentsNestIn]
  | cons argument rest ih =>
    rw [ArgumentsNestIn, ih, List.forall_mem_cons]

end Expression

/-! ## Statements -/

namespace Statement

mutual

/-- The nodes below a statement nest. -/
def Nested : Statement → Prop
  | .expression value span => value.NestsIn span
  | .assign target _ value span =>
    target.NestsIn span ∧ value.NestsIn span
  | .conditional branches otherwise span =>
    (BranchesNestIn span branches ∧
      Span.InOrder (branches.map Branch.span)) ∧ OtherwiseNestsIn span otherwise
  | .loop condition body span =>
    condition.NestsIn span ∧ BodyNestsIn span body ∧
      Span.InOrder (body.map Statement.span)
  | .result value span => ∀ tree ∈ value, tree.NestsIn span
  | .declare type name initial span =>
    type.span.NestsIn span ∧ name.span.NestsIn span ∧
      ∀ tree ∈ initial, tree.NestsIn span

def BodyNestsIn (outer : Span) : List Statement → Prop
  | [] => True
  | statement :: rest =>
    (statement.span.NestsIn outer ∧ Nested statement) ∧ BodyNestsIn outer rest

def NestedBranch : Branch Statement → Prop
  | ⟨condition, body, span⟩ =>
    condition.NestsIn span ∧ BodyNestsIn span body ∧
      Span.InOrder (body.map Statement.span)

def BranchesNestIn (outer : Span) : List (Branch Statement) → Prop
  | [] => True
  | branch :: rest =>
    (branch.span.NestsIn outer ∧ NestedBranch branch) ∧
      BranchesNestIn outer rest

def OtherwiseNestsIn (outer : Span) : Option (List Statement) → Prop
  | none => True
  | some body =>
    BodyNestsIn outer body ∧ Span.InOrder (body.map Statement.span)

end

/-- A statement nests in a stretch, and so do the nodes below it. -/
@[mk_iff]
structure NestsIn (tree : Statement) (outer : Span) : Prop where
  span : tree.span.NestsIn outer
  nested : tree.Nested

attribute [grind cases] NestsIn
attribute [grind =] nestsIn_iff span

mutual

/-- The nodes below a statement stand one behind the other. -/
def Ordered : Statement → Prop
  | .expression value _ => value.Ordered
  | .assign target _ value _ =>
    target.span.stop ≤ value.span.start ∧ target.Ordered ∧ value.Ordered
  | .conditional branches otherwise span =>
    BranchesOrdered branches ∧ OtherwiseOrdered span.start branches otherwise
  | .loop condition body _ =>
    condition.Ordered ∧ BodyOrdered condition.span.stop body
  | .result value _ => ∀ tree ∈ value, tree.Ordered
  | .declare type _ initial _ =>
    ∀ tree ∈ initial, type.span.stop ≤ tree.span.start ∧ tree.Ordered

/-- Behind a place stand statements whose parts are in order. -/
def BodyOrdered (place : Position) : List Statement → Prop
  | [] => True
  | statement :: rest =>
    (place ≤ statement.span.start ∧ Ordered statement) ∧ BodyOrdered place rest

def OrderedBranch : Branch Statement → Prop
  | ⟨condition, body, _⟩ =>
    condition.Ordered ∧ BodyOrdered condition.span.stop body

def BranchesOrdered : List (Branch Statement) → Prop
  | [] => True
  | branch :: rest => OrderedBranch branch ∧ BranchesOrdered rest

/-- The last resort stands behind the branches, and these behind a place. -/
def OtherwiseOrdered (first : Position) (branches : List (Branch Statement)) :
    Option (List Statement) → Prop
  | none => True
  | some body =>
    ∃ place, (∀ branch ∈ branches, branch.span.stop ≤ place) ∧
      first ≤ place ∧ BodyOrdered place body

end

/-- The nodes below a statement nest, in order. -/
structure Arranged (tree : Statement) : Prop where
  nested : tree.Nested
  ordered : tree.Ordered

/-- The nodes below a branch nest, in order. -/
structure ArrangedBranch (branch : Branch Statement) : Prop where
  nested : NestedBranch branch
  ordered : OrderedBranch branch

/-- A statement stands in a stretch, and the nodes below it in order. -/
@[mk_iff]
structure StandsIn (tree : Statement) (outer : Span) : Prop where
  span : tree.span.NestsIn outer
  arranged : tree.Arranged

attribute [grind cases] StandsIn
attribute [grind =] standsIn_iff

theorem bodyOrdered_iff {place : Position} {found : List Statement} :
    BodyOrdered place found ↔
      ∀ statement ∈ found,
        place ≤ statement.span.start ∧ statement.Ordered := by
  induction found with
  | nil => simp [BodyOrdered]
  | cons statement rest ih =>
    rw [BodyOrdered, ih, List.forall_mem_cons]

theorem branchesOrdered_iff {found : List (Branch Statement)} :
    BranchesOrdered found ↔ ∀ branch ∈ found, OrderedBranch branch := by
  induction found with
  | nil => simp [BranchesOrdered]
  | cons branch rest ih =>
    rw [BranchesOrdered, ih, List.forall_mem_cons]

theorem bodyNestsIn_iff {outer : Span} {found : List Statement} :
    BodyNestsIn outer found ↔
      ∀ statement ∈ found, statement.span.NestsIn outer ∧ statement.Nested := by
  induction found with
  | nil => simp [BodyNestsIn]
  | cons statement rest ih =>
    rw [BodyNestsIn, ih, List.forall_mem_cons]

/-- What holds of statements in a stretch, in the words of a node above
them. -/
theorem bodyNestsIn_of_holds {outer : Span} {found : List Statement}
    (holds : outer.Holds Statement.span Arranged found) :
    BodyNestsIn outer found :=
  bodyNestsIn_iff.2 fun statement member =>
    ⟨(holds.each statement member).1, (holds.each statement member).2.nested⟩

theorem bodyOrdered_of_holds
    {outer : Span} {place : Position} {found : List Statement}
    (holds : outer.Holds Statement.span Arranged found)
    (begins : place ≤ outer.start) : BodyOrdered place found :=
  bodyOrdered_iff.2 fun statement member =>
    ⟨le_trans begins (holds.each statement member).1.start,
      (holds.each statement member).2.ordered⟩

theorem branchesNestIn_iff {outer : Span} {found : List (Branch Statement)} :
    BranchesNestIn outer found ↔
      ∀ branch ∈ found, branch.span.NestsIn outer ∧ NestedBranch branch := by
  induction found with
  | nil => simp [BranchesNestIn]
  | cons branch rest ih =>
    rw [BranchesNestIn, ih, List.forall_mem_cons]

theorem otherwiseNestsIn_iff {outer : Span} {found : Option (List Statement)} :
    OtherwiseNestsIn outer found ↔
      ∀ body ∈ found, outer.Holds Statement.span Nested body := by
  cases found with
  | none => exact iff_of_true trivial nofun
  | some body =>
    rw [OtherwiseNestsIn, bodyNestsIn_iff]
    constructor
    · rintro ⟨each, inOrder⟩ other member
      obtain rfl := Option.mem_some_iff.1 member
      exact ⟨each, inOrder⟩
    · exact fun nests => ⟨(nests body rfl).each, (nests body rfl).inOrder⟩

end Statement

/-! ## Declarations -/

/-- The parts of a variable nest. -/
structure Variable.Nested (tree : Variable) : Prop where
  type : tree.type.span.NestsIn tree.span
  name : tree.name.span.NestsIn tree.span
  initial : ∀ node ∈ tree.initial, node.span.NestsIn tree.span

/-- The parts of a parameter nest. -/
structure Parameter.Nested (tree : Parameter) : Prop where
  type : tree.type.span.NestsIn tree.span
  name : tree.name.span.NestsIn tree.span
  default : ∀ node ∈ tree.default, node.span.NestsIn tree.span

/-- The initial value of a variable stands behind its type. -/
def Variable.Ordered (tree : Variable) : Prop :=
  ∀ node ∈ tree.initial, tree.type.span.stop ≤ node.span.start

/-- The default of a parameter stands behind its type. -/
def Parameter.Ordered (tree : Parameter) : Prop :=
  ∀ node ∈ tree.default, tree.type.span.stop ≤ node.span.start

/-- The parts of a parameter nest, in order. -/
structure Parameter.Arranged (tree : Parameter) : Prop where
  nested : tree.Nested
  ordered : tree.Ordered

/-- Behind a place stand the parameters of a function or event, and behind
them its body. -/
def PartsOrdered (place : Position) (parameters : List Parameter)
    (body : List Statement) : Prop :=
  ∃ behind, (∀ node ∈ parameters, node.Ordered ∧ place ≤ node.span.start ∧
      node.span.stop ≤ behind) ∧
    place ≤ behind ∧ Statement.BodyOrdered behind body

/-- The nodes below a function nest. -/
structure Function.Nested (tree : Function) : Prop where
  returnType : ∀ type ∈ tree.returnType, type.span.NestsIn tree.span
  name : tree.name.span.NestsIn tree.span
  parameters : tree.span.Holds Parameter.span Parameter.Nested tree.parameters
  body : tree.span.Holds Statement.span Statement.Nested tree.body

/-- The nodes below an event nest. -/
structure Event.Nested (tree : Event) : Prop where
  name : tree.name.span.NestsIn tree.span
  parameters : tree.span.Holds Parameter.span Parameter.Nested tree.parameters
  body : tree.span.Holds Statement.span Statement.Nested tree.body

/-- The parts of a function stand behind its type. -/
def Function.Ordered (tree : Function) : Prop :=
  ∃ place, tree.span.start ≤ place ∧
    (∀ type ∈ tree.returnType, type.span.stop ≤ place) ∧
      PartsOrdered place tree.parameters tree.body

def Event.Ordered (tree : Event) : Prop :=
  PartsOrdered tree.span.start tree.parameters tree.body

/-- The nodes below an event nest, in order. -/
structure Event.Arranged (tree : Event) : Prop where
  nested : tree.Nested
  ordered : tree.Ordered

/-- A function stands in a stretch, and the nodes below it in order. -/
@[mk_iff]
structure Function.StandsIn (tree : Function) (outer : Span) : Prop where
  span : tree.span.NestsIn outer
  nested : tree.Nested
  ordered : tree.Ordered

attribute [grind cases] Function.StandsIn
attribute [grind =] Function.standsIn_iff

/-- A function of a property nests in a stretch, and so do the nodes below
it. -/
@[mk_iff]
structure Function.NestsIn (tree : Function) (outer : Span) : Prop where
  span : tree.span.NestsIn outer
  nested : tree.Nested

attribute [grind cases] Function.NestsIn
attribute [grind =] Function.nestsIn_iff

/-- The initial value or the functions of a property nest in a stretch. -/
def PropertySource.NestsIn (outer : Span) : PropertySource → Prop
  | .auto initial => ∀ node ∈ initial, node.span.NestsIn outer
  | .readOnly initial => initial.span.NestsIn outer
  | .full getter setter =>
    (∀ tree ∈ getter, tree.NestsIn outer) ∧ ∀ tree ∈ setter, tree.NestsIn outer

/-- What nests in a stretch nests in a wider one. -/
theorem PropertySource.NestsIn.mono
    {source : PropertySource} {outer wider : Span}
    (nests : source.NestsIn outer) (begins : wider.start ≤ outer.start)
    (ends : outer.stop ≤ wider.stop) : source.NestsIn wider := by
  cases source with
  | auto initial =>
    intro node member
    have inside := nests node member
    grind
  | readOnly initial =>
    have inside : initial.span.NestsIn outer := nests
    show initial.span.NestsIn wider
    grind
  | full getter setter =>
    refine ⟨fun tree member => ?_, fun tree member => ?_⟩
    · have inside := nests.1 tree member
      grind
    · have inside := nests.2 tree member
      grind

/-- The initial value of a property stands behind a place, and so do its
functions.  One of these stands behind the other, or at least starts there. -/
def PropertySource.Ordered (place : Position) : PropertySource → Prop
  | .auto initial => ∀ node ∈ initial, place ≤ node.span.start
  | .readOnly initial => place ≤ initial.span.start
  | .full getter setter =>
    (∀ tree ∈ getter, place ≤ tree.span.start ∧ tree.Ordered) ∧
      (∀ tree ∈ setter, place ≤ tree.span.start ∧ tree.Ordered) ∧
        ∀ first ∈ getter, ∀ second ∈ setter,
          first.span.stop ≤ second.span.start ∨
            second.span.start < first.span.start

/-- The nodes below a property nest. -/
structure Property.Nested (tree : Property) : Prop where
  type : tree.type.span.NestsIn tree.span
  name : tree.name.span.NestsIn tree.span
  source : tree.source.NestsIn tree.span

/-- The nodes below a state nest. -/
structure ScriptState.Nested (tree : ScriptState) : Prop where
  name : tree.name.span.NestsIn tree.span
  events : tree.span.Holds Event.span Event.Nested tree.events

def Property.Ordered (tree : Property) : Prop :=
  ∃ place, tree.type.span.stop ≤ place ∧ tree.source.Ordered place

def ScriptState.Ordered (tree : ScriptState) : Prop :=
  ∀ event ∈ tree.events, event.Ordered

/-- The nodes below a member nest. -/
def Member.Nested : Member → Prop
  | .variable tree => tree.Nested
  | .property tree => tree.Nested
  | .function tree => tree.Nested
  | .event tree => tree.Nested
  | .state tree => tree.Nested

/-- The nodes below a member stand one behind the other. -/
def Member.Ordered : Member → Prop
  | .variable tree => tree.Ordered
  | .property tree => tree.Ordered
  | .function tree => tree.Ordered
  | .event tree => tree.Ordered
  | .state tree => tree.Ordered

/-- A member stands in a stretch, and the nodes below it in order. -/
@[mk_iff]
structure Member.StandsIn (tree : Member) (outer : Span) : Prop where
  span : tree.span.NestsIn outer
  nested : tree.Nested
  ordered : tree.Ordered

attribute [grind cases] Member.StandsIn
attribute [grind =] Member.standsIn_iff

/-- A member nests in a stretch, and so do the nodes below it. -/
@[mk_iff]
structure Member.NestsIn (tree : Member) (outer : Span) : Prop where
  span : tree.span.NestsIn outer
  nested : tree.Nested

attribute [grind cases] Member.NestsIn
attribute [grind =] Member.nestsIn_iff

/-- The name of an import nests. -/
def Import.Nested (tree : Import) : Prop := tree.name.span.NestsIn tree.span

/-- The nodes below a script nest. -/
structure Script.Nested (tree : Script) : Prop where
  name : tree.name.span.NestsIn tree.span
  parent : ∀ node ∈ tree.parent, node.span.NestsIn tree.span
  imports : tree.span.Holds Import.span Import.Nested tree.imports
  members : ∀ member ∈ tree.members, member.NestsIn tree.span

end Trees

/-! ## Where readers place what they read -/

section Readers

variable {α β : Type}

/-- Tokens that run forwards, one behind the other, and start at places of
their own.  An end of the text is a point. -/
structure TokensInOrder (tokens : List Token) : Prop where
  forward : ∀ token ∈ tokens, token.span.start ≤ token.span.stop
  inOrder : tokens.Pairwise fun first second =>
    first.span.stop ≤ second.span.start
  strict : tokens.Pairwise fun first second =>
    first.span.start < second.span.start
  ends : ∀ token ∈ tokens,
    token.kind = .endOfText → token.span.stop ≤ token.span.start

namespace Cursor

/-- The tokens ahead are in order, behind the last one that was passed. -/
structure Orderly (cursor : Cursor) : Prop where
  tokens : TokensInOrder cursor.budget
  lastEnd : cursor.lastEnd ≤ cursor.position

/-- From one orderly cursor to another.  Neither the place nor the end of the
last token goes back, and no report is taken back. -/
structure MovesTo (source target : Cursor) : Prop where
  orderly : source.Orderly
  orderlyTarget : target.Orderly
  position : source.position ≤ target.position
  lastEnd : source.lastEnd ≤ target.lastEnd
  reported : source.reported <:+ target.reported

attribute [grind cases] Orderly MovesTo
attribute [grind =] spanFrom

variable {source middle target : Cursor}

theorem Orderly.movesTo (orderly : source.Orderly) : source.MovesTo source :=
  ⟨orderly, orderly, le_refl _, le_refl _, List.suffix_refl _⟩

theorem MovesTo.trans
    (first : source.MovesTo middle) (second : middle.MovesTo target) :
    source.MovesTo target where
  orderly := first.orderly
  orderlyTarget := second.orderlyTarget
  position := le_trans first.position second.position
  lastEnd := le_trans first.lastEnd second.lastEnd
  reported := first.reported.trans second.reported

theorem Orderly.forward (orderly : source.Orderly) :
    source.position ≤ source.current.span.stop :=
  orderly.tokens.forward _ List.mem_cons_self

/-- Passing a token keeps the tokens ahead in order. -/
theorem Orderly.next (orderly : source.Orderly) :
    source.MovesTo source.next := by
  have forward := orderly.forward
  have reported : source.reported <:+ source.next.reported := by
    simp only [reported_next, List.suffix_rfl]
  by_cases atEnd : source.kind = .endOfText
  · have same := budget_next_of_endOfText atEnd
    have current : source.next.current = source.current :=
      (List.cons.inj same).1
    have place : source.next.position = source.position :=
      congrArg (fun token => token.span.start) current
    have stop : source.next.lastEnd = source.current.span.stop := by
      rw [lastEnd_next, atEnd]
      rfl
    have point := orderly.tokens.ends _ List.mem_cons_self atEnd
    refine ⟨orderly, ⟨same ▸ orderly.tokens, ?_⟩, ?_, ?_, reported⟩
    · rw [stop, place]
      exact point
    · rw [place]
    · rw [stop]
      exact le_trans orderly.lastEnd forward
  · have shape := budget_eq_cons_next atEnd
    have tokens := orderly.tokens
    rw [shape] at tokens
    obtain ⟨behind, inOrder⟩ := List.pairwise_cons.1 tokens.inOrder
    have ahead : source.current.span.stop ≤ source.next.position :=
      behind _ List.mem_cons_self
    have rest : TokensInOrder source.next.budget :=
      ⟨(List.forall_mem_cons.1 tokens.forward).2, inOrder,
        (List.pairwise_cons.1 tokens.strict).2,
        (List.forall_mem_cons.1 tokens.ends).2⟩
    refine ⟨orderly, ⟨rest, ?_⟩, le_trans forward ahead, ?_, reported⟩
    · rw [lastEnd_next]
      split
      · exact le_trans orderly.lastEnd (le_trans forward ahead)
      · exact ahead
    · rw [lastEnd_next]
      split
      · exact le_refl _
      · exact le_trans orderly.lastEnd forward

theorem Orderly.report (orderly : source.Orderly) (diagnostic : Diagnostic) :
    source.MovesTo (source.report diagnostic) :=
  ⟨orderly, ⟨orderly.tokens, orderly.lastEnd⟩, le_refl _, le_refl _,
    List.suffix_cons _ _⟩

theorem Orderly.enter (orderly : source.Orderly) (block : Block) :
    source.MovesTo (source.enter block) :=
  ⟨orderly, ⟨orderly.tokens, orderly.lastEnd⟩, le_refl _, le_refl _,
    List.suffix_refl _⟩

theorem Orderly.leave (orderly : source.Orderly) :
    source.MovesTo source.leave :=
  ⟨orderly, ⟨orderly.tokens, orderly.lastEnd⟩, le_refl _, le_refl _,
    List.suffix_refl _⟩

theorem Orderly.discard (orderly : source.Orderly) :
    source.MovesTo source.discard := by
  unfold Cursor.discard
  split
  · exact orderly.next.trans (orderly.next.orderlyTarget.report _)
  · exact orderly.next

theorem Orderly.move {passed : List Token} (orderly : source.Orderly)
    (move : Move source passed target) : source.MovesTo target := by
  cases move with
  | pass => exact orderly.next
  | discard => exact orderly.discard
  | reject =>
    have reported := orderly.report source.current.lexicalReport
    exact reported.trans reported.orderlyTarget.next
  | report => exact orderly.report _
  | enter => exact orderly.enter _
  | leave => exact orderly.leave

/-- Whatever reader moves the cursor, it keeps it in order. -/
theorem Reaches.movesTo
    (reaches : source.Reaches target) (orderly : source.Orderly) :
    source.MovesTo target := by
  obtain ⟨passed, path⟩ := reaches.path
  clear reaches
  induction path with
  | stay => exact orderly.movesTo
  | step _ move ih =>
    exact ih.trans
      (ih.orderlyTarget.move move)

/-- Where a token has been passed, the cursor has moved to a later place. -/
theorem Orderly.position_lt (orderly : source.Orderly)
    (reaches : source.Reaches target) (precedes : source.Precedes target) :
    source.position < target.position := by
  obtain ⟨passed, path⟩ := reaches.path
  have whole := path.budget_eq.1
  have strict := orderly.tokens.strict
  rw [whole] at strict
  cases passed with
  | nil =>
    unfold Precedes at precedes
    rw [whole] at precedes
    exact absurd precedes (Nat.lt_irrefl _)
  | cons first rest =>
    obtain ⟨same, _⟩ := List.cons.inj whole
    have ahead := (List.pairwise_append.mp strict).2.2 first
      List.mem_cons_self target.current List.mem_cons_self
    rwa [← same] at ahead

end Cursor

attribute [grind =] Step.value

/-! ## Rows between cursors -/

namespace Span.Holds

variable {middle target : Cursor} {start : Position} {span : α → Span}
  {nested : α → Prop} {found : List α}

theorem nil {outer : Span} : outer.Holds span nested [] :=
  ⟨List.forall_mem_nil _, .nil⟩

theorem imp {outer : Span} {weaker : α → Prop}
    (holds : outer.Holds span nested found)
    (implied : ∀ node, nested node → weaker node) :
    outer.Holds span weaker found where
  each node member :=
    ⟨(holds.each node member).1, implied node (holds.each node member).2⟩
  inOrder := holds.inOrder

theorem mono {outer wider : Span} (holds : outer.Holds span nested found)
    (begins : wider.start ≤ outer.start) (ends : outer.stop ≤ wider.stop) :
    wider.Holds span nested found where
  each := by
    intro node member
    obtain ⟨nests, inside⟩ := holds.each node member
    refine ⟨?_, inside⟩
    grind
  inOrder := holds.inOrder

/-- What has been found in front of a cursor stands in front of whatever is
read there. -/
theorem concat
    {node : α} (holds : (middle.spanFrom start).Holds span nested found)
    (moves : middle.MovesTo target) (begins : start ≤ middle.position)
    (nests : (span node).NestsIn (target.spanFrom middle.position))
    (inside : nested node) :
    (target.spanFrom start).Holds span nested (found ++ [node]) := by
  have wider : (target.spanFrom start).Holds span nested found :=
    holds.mono (le_refl _) moves.lastEnd
  constructor
  · intro other member
    rcases List.mem_append.1 member with earlier | last
    · exact wider.each other earlier
    · obtain rfl := List.mem_singleton.1 last
      refine ⟨?_, inside⟩
      grind
  · rw [InOrder, List.map_append, List.pairwise_append]
    refine ⟨holds.inOrder, List.pairwise_singleton _ _, ?_⟩
    intro first member second last
    obtain ⟨other, earlier, rfl⟩ := List.mem_map.1 member
    obtain rfl := List.mem_singleton.1 last
    have before := (holds.each other earlier).1
    grind

end Span.Holds

/-! ## Readers -/

/-- From an orderly cursor the reader moves on, and a fact holds of its answer
and of the cursor behind it. -/
def Recovery.Places
    (reader : Recovery α) (cursor : Cursor) (post : α → Cursor → Prop) :
    Prop :=
  cursor.Orderly →
    reader.Ends cursor fun value after =>
      cursor.MovesTo after ∧ post value after

/-- The same for a reader that may fail, of whose failure nothing is said. -/
def Reader.Places
    (reader : Reader α) (cursor : Cursor) (post : α → Cursor → Prop) :
    Prop :=
  cursor.Orderly →
    reader.Ends cursor
      (fun value after => cursor.MovesTo after ∧ post value after)
      fun _ after => cursor.MovesTo after

namespace Recovery

open Reader

variable {cursor : Cursor} {post known : α → Cursor → Prop}
  {whole : β → Cursor → Prop}
variable {reader : Recovery α} {value : α}

theorem Places.mono (places : reader.Places cursor known)
    (implied : ∀ value after, cursor.MovesTo after → known value after →
      post value after) : reader.Places cursor post :=
  fun orderly => Ends.mono (places orderly) fun value after reached =>
    ⟨reached.1, implied value after reached.1 reached.2⟩

theorem Places.pure (holds : cursor.Orderly → post value cursor) :
    Places (Pure.pure value) cursor post :=
  fun orderly => ⟨orderly.movesTo, holds orderly⟩

theorem Places.bind
    {following : α → Recovery β} (first : reader.Places cursor known)
    (rest : ∀ value middle, cursor.MovesTo middle → known value middle →
      (following value).Places middle whole) :
    Places (reader >>= following) cursor whole := by
  intro orderly
  apply Ends.bind (first orderly)
  intro value middle reached
  apply Ends.mono (rest value middle reached.1 reached.2
    reached.1.orderlyTarget)
  exact fun _ _ further => ⟨reached.1.trans further.1, further.2⟩

theorem Places.get {following : Cursor → Recovery β}
    (places : (following cursor).Places cursor whole) :
    Places (MonadState.get >>= following) cursor whole :=
  places

theorem Travels.places (travels : reader.Travels cursor) :
    reader.Places cursor fun _ _ => True :=
  fun orderly => Ends.mono travels fun _ _ reaches =>
    ⟨reaches.movesTo orderly, trivial⟩

theorem Places.skip
    {following : α → Recovery β} (travels : reader.Travels cursor)
    (rest : ∀ value middle, cursor.MovesTo middle →
      (following value).Places middle whole) :
    Places (reader >>= following) cursor whole :=
  travels.places.bind fun value middle moves _ => rest value middle moves

/-- The token that is taken starts where the cursor stood. -/
theorem places_advance :
    advance.Places cursor fun token after =>
      token.span.start = cursor.position ∧ after = cursor.next :=
  fun orderly => ⟨orderly.next, rfl, rfl⟩

/-- A token that is no line break is the last one that has been passed. -/
theorem places_advance_of_visible (visible : cursor.kind ≠ .newline) :
    advance.Places cursor fun token after =>
      token.span.start = cursor.position ∧
        token.span.NestsIn (after.spanFrom cursor.position) := by
  intro orderly
  refine ⟨orderly.next, rfl, le_refl _, orderly.forward, ?_⟩
  show cursor.current.span.stop ≤ cursor.next.lastEnd
  rw [Cursor.lastEnd_next, if_neg visible]

theorem Places.take {following : Token → Recovery β}
    (rest : ∀ token middle, cursor.MovesTo middle →
      token.span.start = cursor.position →
        (following token).Places middle whole) :
    Places (advance >>= following) cursor whole :=
  places_advance.bind fun token middle moves taken =>
    rest token middle moves taken.1

theorem places_report (diagnostic : Diagnostic) :
    (report diagnostic).Places cursor fun _ after =>
      after.reported ≠ [] :=
  fun orderly => ⟨orderly.report diagnostic, List.cons_ne_nil _ _⟩

theorem Places.report {following : Recovery α} (diagnostic : Diagnostic)
    (rest : ∀ middle, cursor.MovesTo middle → following.Places middle post) :
    Places (Reader.report diagnostic >>= fun _ => following) cursor post :=
  (places_report diagnostic).bind fun _ middle moves _ => rest middle moves

theorem Places.unexpected
    {expected : String} {following : Diagnostic → Recovery β}
    (rest : ∀ diagnostic, (following diagnostic).Places cursor whole) :
    Places (Reader.unexpected expected >>= following) cursor whole :=
  rest _

/-- What follows either answer goes on from where it was given. -/
theorem Places.run_bind
    {reader : Reader α} {following : Except Diagnostic α → Recovery β}
    (first : reader.Places cursor known)
    (onValue : ∀ value middle, cursor.MovesTo middle → known value middle →
      (following (.ok value)).Places middle whole)
    (onError : ∀ diagnostic middle, cursor.MovesTo middle →
      (following (.error diagnostic)).Places middle whole) :
    Places (reader.run >>= following) cursor whole := by
  intro orderly
  rw [ends_bind, ends_run]
  apply Reader.Ends.mono (first orderly)
  · intro value middle reached
    apply Ends.mono (onValue value middle reached.1 reached.2
      reached.1.orderlyTarget)
    exact fun _ _ further => ⟨reached.1.trans further.1, further.2⟩
  · intro diagnostic middle moves
    apply Ends.mono (onError diagnostic middle moves moves.orderlyTarget)
    exact fun _ _ further => ⟨moves.trans further.1, further.2⟩

/-- What the steps of a loop keep is kept up to its end. -/
theorem Places.loop {step : α → Recovery (Step α)} {cursor : Cursor}
    (steps : ∀ value middle, cursor.MovesTo middle → post value middle →
      (step value).Places middle fun decision after =>
        post decision.value after)
    (budget : List Token) (holds : cursor.Orderly → post value cursor) :
    Places (PapyrusScript.loop step budget value) cursor post := by
  have along (budget : List Token) :
      ∀ value middle, cursor.MovesTo middle → post value middle →
        Places (PapyrusScript.loop step budget value) middle post := by
    induction budget with
    | nil => exact fun _ _ _ reached => .pure fun _ => reached
    | cons _ budget ih =>
      intro value middle moves reached
      apply (steps value middle moves reached).bind
      intro decision after further reachedAfter
      cases decision with
      | again following =>
        exact ih following after (moves.trans further)
          reachedAfter
      | done final => exact .pure fun _ => reachedAfter
  intro orderly
  exact along budget value cursor orderly.movesTo (holds orderly) orderly

theorem Places.inBlock {block : Block} {body : Recovery α}
    (places : body.Places (cursor.enter block) fun value after =>
      post value after.leave) :
    Places (Reader.inBlock block body) cursor post := by
  intro orderly
  have entered := orderly.enter block
  rw [ends_inBlock]
  apply Ends.mono (places entered.orderlyTarget)
  intro value after reached
  have moves := entered.trans reached.1
  exact ⟨moves.trans moves.orderlyTarget.leave, reached.2⟩

/-- An error is reported, the rest of a statement discarded, and what has
been found before is left. -/
theorem places_synchronizeAfter (diagnostic : Diagnostic)
    (holds : ∀ after, cursor.MovesTo after → post value after) :
    Places
      (do
        report diagnostic
        synchronize
        return value) cursor post := by
  apply Places.report
  intro middle moves
  apply Places.skip (travels_synchronize middle)
  exact fun _ after further =>
    .pure fun _ => holds after (moves.trans further)

theorem places_reportAndSkipLine (diagnostic : Diagnostic) :
    (reportAndSkipLine diagnostic).Places cursor fun _ _ => True :=
  .report diagnostic fun middle _ => (travels_skipLine middle).places

/-- An error is reported, the rest of the line discarded, and what has been
found before is left. -/
theorem places_skipLineAfter (diagnostic : Diagnostic)
    (holds : ∀ after, cursor.MovesTo after → post value after) :
    Places
      (do
        reportAndSkipLine diagnostic
        return value) cursor post := by
  apply (places_reportAndSkipLine diagnostic).bind
  exact fun _ after moves _ => .pure fun _ => holds after moves

end Recovery

namespace Reader

variable {cursor : Cursor} {post known : α → Cursor → Prop}
  {whole : β → Cursor → Prop}
variable {reader : Reader α}

theorem Places.mono (places : reader.Places cursor known)
    (implied : ∀ value after, cursor.MovesTo after → known value after →
      post value after) : reader.Places cursor post :=
  fun orderly => Ends.mono (places orderly)
    (fun value after reached =>
      ⟨reached.1, implied value after reached.1 reached.2⟩)
    fun _ _ moves => moves

theorem Places.pure {value : α} (holds : cursor.Orderly → post value cursor) :
    Places (Pure.pure value) cursor post :=
  fun orderly => ⟨orderly.movesTo, holds orderly⟩

theorem places_throw (diagnostic : Diagnostic) :
    Places (throw diagnostic : Reader α) cursor post :=
  fun orderly => orderly.movesTo

theorem places_reject (expected : String) :
    Places (reject expected : Reader α) cursor post :=
  fun orderly => orderly.movesTo

theorem Places.bind
    {following : α → Reader β} (first : reader.Places cursor known)
    (rest : ∀ value middle, cursor.MovesTo middle → known value middle →
      (following value).Places middle whole) :
    Places (reader >>= following) cursor whole := by
  intro orderly
  rw [ends_bind]
  apply Ends.mono (first orderly)
  · intro value middle reached
    apply Ends.mono (rest value middle reached.1 reached.2
      reached.1.orderlyTarget)
    · exact fun _ _ further => ⟨reached.1.trans further.1, further.2⟩
    · exact fun _ _ further => reached.1.trans further
  · exact fun _ _ moves => moves

theorem Places.map {change : α → β}
    (places : reader.Places cursor fun value => whole (change value)) :
    Places (change <$> reader) cursor whole := by
  intro orderly
  rw [ends_map]
  exact places orderly

theorem Places.get {following : Cursor → Reader β}
    (places : (following cursor).Places cursor whole) :
    Places (MonadState.get >>= following) cursor whole :=
  places

theorem Places.lift {reader : Recovery α} (places : reader.Places cursor post) :
    Reader.Places (liftM reader) cursor post :=
  places

theorem Travels.places (travels : reader.Travels cursor) :
    reader.Places cursor fun _ _ => True :=
  fun orderly => Ends.mono travels
    (fun _ _ reaches => ⟨reaches.movesTo orderly, trivial⟩)
    fun _ _ stopped => stopped.1.movesTo orderly

theorem Places.skip {following : α → Reader β} (travels : reader.Travels cursor)
    (rest : ∀ value middle, cursor.MovesTo middle →
      (following value).Places middle whole) :
    Places (reader >>= following) cursor whole :=
  travels.places.bind fun value middle moves _ => rest value middle moves

/-- A reader that answers behind a token does so at a later place. -/
theorem Places.passes
    (places : reader.Places cursor post) (advances : reader.Advances cursor) :
    reader.Places cursor fun value after =>
      cursor.position < after.position ∧ post value after :=
  fun orderly => Ends.mono (Ends.and (places orderly) advances)
    (fun _ _ reached => ⟨reached.1.1,
      orderly.position_lt reached.2.1 reached.2.2, reached.1.2⟩)
    fun _ _ reached => reached.1

theorem Places.take {following : Token → Reader β}
    (rest : ∀ token middle, cursor.MovesTo middle →
      token.span.start = cursor.position →
        (following token).Places middle whole) :
    Places (liftM advance >>= following) cursor whole :=
  (Places.lift Recovery.places_advance).bind fun token middle moves taken =>
    rest token middle moves taken.1

/-- A token that is no line break is taken and something else comes after
it. -/
theorem Places.takeVisible
    {following : Token → Reader β} (visible : cursor.kind ≠ .newline)
    (rest : ∀ token middle, cursor.MovesTo middle →
      token.span.start = cursor.position ∧
        token.span.NestsIn (middle.spanFrom cursor.position) →
          (following token).Places middle whole) :
    Places (liftM advance >>= following) cursor whole :=
  (Places.lift (Recovery.places_advance_of_visible visible)).bind rest

/-- What the steps of a loop keep is kept up to its end. -/
theorem Places.loop {step : α → Reader (Step α)}
    (steps : ∀ value middle, cursor.MovesTo middle → post value middle →
      (step value).Places middle fun decision after =>
        post decision.value after)
    (budget : List Token) {value : α}
    (holds : cursor.Orderly → post value cursor) :
    Places (PapyrusScript.loop step budget value) cursor post := by
  have along (budget : List Token) :
      ∀ value middle, cursor.MovesTo middle → post value middle →
        Places (PapyrusScript.loop step budget value) middle post := by
    induction budget with
    | nil => exact fun _ _ _ reached => .pure fun _ => reached
    | cons _ budget ih =>
      intro value middle moves reached
      apply (steps value middle moves reached).bind
      intro decision after further reachedAfter
      cases decision with
      | again following =>
        exact ih following after (moves.trans further)
          reachedAfter
      | done final => exact .pure fun _ => reachedAfter
  intro orderly
  exact along budget value cursor orderly.movesTo (holds orderly) orderly

end Reader

end Readers

end PapyrusScript
