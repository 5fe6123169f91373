import PapyrusScript.Proofs.Spans
import PapyrusScript.Proofs.Walk.Starts

/-!
# Trees in the order of their walk

A walk shows a node in front of what is below it, and the parts of a node in
the order of its fields.  So where the nodes of a tree nest and stand in order,
the walk shows them in the order in which they start.  This is said along the
tree, whatever reader has built it.

A tree may also stand in order and be walked otherwise: the functions of a
property are walked the getter first, but they may be written the other way
round.
-/

namespace PapyrusScript

/-! ## Expressions -/

mutual

/-- The parts of an expression start in order, by induction on it. -/
theorem Expression.ascends {first last : Position} (tree : Expression)
    (inside : tree.span.NestsIn ⟨first, last⟩) (nested : tree.Nested)
    (ordered : tree.Ordered) : tree.forest.Ascends first last := by
  obtain ⟨begins, forward, ends⟩ := inside
  cases tree with
  | literal node => exact Literal.ascends ⟨begins, forward, ends⟩
  | name node => exact .tree .empty begins (le_trans forward ends)
  | unary operator operand span =>
    obtain ⟨within, below⟩ := nested
    refine .tree (operand.ascends ?_ below ordered) begins
      (le_trans forward ends)
    exact ⟨within.start, within.forward, le_trans within.stop ends⟩
  | binary operator left right span =>
    obtain ⟨⟨within, below⟩, withinRight, belowRight⟩ := nested
    obtain ⟨before, orderedLeft, orderedRight⟩ := ordered
    -- the parts on the left end up in front of where the right part starts
    have front : left.forest.Ascends span.start right.span.start :=
      left.ascends ⟨within.start, within.forward, before⟩ below orderedLeft
    have back : right.forest.Ascends right.span.start last :=
      right.ascends ⟨le_refl _, withinRight.forward,
        le_trans withinRight.stop ends⟩ belowRight orderedRight
    refine .tree (front.join back withinRight.start ?_) begins
      (le_trans forward ends)
    exact le_trans withinRight.forward (le_trans withinRight.stop ends)
  | call callee arguments span =>
    obtain ⟨⟨within, below⟩, given, inOrder⟩ := nested
    obtain ⟨orderedCallee, behind⟩ := ordered
    have front : callee.forest.Ascends span.start callee.span.stop :=
      callee.ascends ⟨within.start, within.forward, le_refl _⟩
        below orderedCallee
    have back := Forest.Ascends.ofInOrder inOrder
      (Expression.ascends_arguments arguments given behind)
    rw [← Expression.argumentsForest_eq] at back
    have parts := front.join back (le_trans within.start within.forward)
      within.stop
    exact .tree (parts.mono (le_refl _) ends) begins (le_trans forward ends)
  | member object field span =>
    obtain ⟨⟨within, below⟩, _⟩ := nested
    refine .tree (object.ascends ?_ below ordered) begins
      (le_trans forward ends)
    exact ⟨within.start, within.forward, le_trans within.stop ends⟩
  | index array subscript span =>
    obtain ⟨⟨within, below⟩, withinNext, belowNext⟩ := nested
    obtain ⟨before, orderedArray, orderedSubscript⟩ := ordered
    have front : array.forest.Ascends span.start subscript.span.start :=
      array.ascends ⟨within.start, within.forward, before⟩ below orderedArray
    have back : subscript.forest.Ascends subscript.span.start last :=
      subscript.ascends ⟨le_refl _, withinNext.forward,
        le_trans withinNext.stop ends⟩ belowNext orderedSubscript
    refine .tree (front.join back withinNext.start ?_) begins
      (le_trans forward ends)
    exact le_trans withinNext.forward (le_trans withinNext.stop ends)
  | cast operand target span =>
    obtain ⟨⟨within, below⟩, withinTarget⟩ := nested
    obtain ⟨before, orderedOperand⟩ := ordered
    have front : operand.forest.Ascends span.start target.span.start :=
      operand.ascends ⟨within.start, within.forward, before⟩
        below orderedOperand
    have back : target.forest.Ascends target.span.start last :=
      TypeName.ascends_start (le_refl _)
        (le_trans withinTarget.forward (le_trans withinTarget.stop ends))
    refine .tree (front.join back withinTarget.start ?_) begins
      (le_trans forward ends)
    exact le_trans withinTarget.forward (le_trans withinTarget.stop ends)
  | create type size span =>
    obtain ⟨within, below⟩ := nested
    have front : type.forest.Ascends span.start type.span.start :=
      TypeName.ascends_start within.start (le_refl _)
    have back := Expression.ascends_size size below ordered
    have parts := front.join back within.start
      (le_trans within.forward within.stop)
    exact .tree (parts.mono (le_refl _) ends) begins (le_trans forward ends)
  | arrayLength array span =>
    obtain ⟨within, below⟩ := nested
    refine .tree (array.ascends ?_ below ordered) begins
      (le_trans forward ends)
    exact ⟨within.start, within.forward, le_trans within.stop ends⟩

theorem Expression.ascends_size {place : Position} {outer : Span}
    (size : Option Expression) (nests : Expression.SizeNestsIn outer size)
    (ordered : Expression.SizeOrdered place size) :
    (Expression.sizeForest size).Ascends place outer.stop := by
  cases size with
  | none => exact .empty
  | some tree =>
    obtain ⟨within, below⟩ := nests
    exact tree.ascends ⟨ordered.1, within.forward, within.stop⟩ below ordered.2

theorem Argument.ascends (argument : Argument Expression)
    (nested : Expression.NestedArgument argument)
    (ordered : Expression.OrderedArgument argument) :
    argument.forest.Ascends argument.span.start argument.span.stop := by
  obtain ⟨name, value, span⟩ := argument
  obtain ⟨_, within, below⟩ := nested
  exact .tree (value.ascends within below ordered) (le_refl _)
    (le_trans within.start (le_trans within.forward within.stop))

/-- Arguments behind a place start in order, each within its stretch. -/
theorem Expression.ascends_arguments {place : Position} {outer : Span}
    (found : List (Argument Expression))
    (nests : Expression.ArgumentsNestIn outer found)
    (ordered : Expression.ArgumentsOrdered place found) :
    ∀ argument ∈ found, argument.span.NestsIn ⟨place, outer.stop⟩ ∧
      argument.forest.Ascends argument.span.start argument.span.stop := by
  cases found with
  | nil => exact List.forall_mem_nil _
  | cons argument rest =>
    obtain ⟨⟨within, below⟩, further⟩ := nests
    obtain ⟨⟨behind, orderedHere⟩, orderedRest⟩ := ordered
    exact List.forall_mem_cons.mpr
      ⟨⟨⟨behind, within.forward, within.stop⟩,
        argument.ascends below orderedHere⟩,
        Expression.ascends_arguments rest further orderedRest⟩

end

theorem Expression.NestsIn.ascends
    {tree : Expression} {outer : Span} (nests : tree.NestsIn outer)
    (ordered : tree.Ordered) : tree.forest.Ascends outer.start outer.stop :=
  Expression.ascends tree nests.span nests.nested ordered

/-! ## Statements -/

/-- A row in front of a place and what stands behind it.  What stands behind it
may be empty, and then the place may be anywhere. -/
theorem Forest.Ascends.ofRow
    {α : Type} {forest : α → Forest} {span : α → Span} {parts : List α}
    {others : Forest} {first middle last : Position}
    (inOrder : Span.InOrder (parts.map span))
    (each : ∀ node ∈ parts, (span node).NestsIn ⟨first, last⟩ ∧
      (forest node).Ascends (span node).start (span node).stop)
    (before : ∀ node ∈ parts, (span node).stop ≤ middle)
    (begins : first ≤ middle) (back : others.Ascends middle last) :
    (Forest.ofList forest parts ++ others).Ascends first last := by
  have upTo : (Forest.ofList forest parts).Ascends first middle := by
    apply Forest.Ascends.ofInOrder inOrder
    intro node member
    obtain ⟨nests, ascends⟩ := each node member
    exact ⟨⟨nests.start, nests.forward, before node member⟩, ascends⟩
  exact (Forest.Ascends.ofInOrder inOrder each).append
    (fun start member => (upTo.within start member).2) back begins

mutual

/-- The parts of a statement start in order, by induction on it. -/
theorem Statement.ascends (tree : Statement)
    (forward : tree.span.start ≤ tree.span.stop) (nested : tree.Nested)
    (ordered : tree.Ordered) :
    tree.forest.Ascends tree.span.start tree.span.stop := by
  cases tree with
  | expression value span =>
    exact .tree (nested.ascends ordered) (le_refl _) forward
  | assign target operator value span =>
    obtain ⟨within, withinValue⟩ := nested
    obtain ⟨before, orderedTarget, orderedValue⟩ := ordered
    have front : target.forest.Ascends span.start value.span.start :=
      target.ascends ⟨within.span.start, within.span.forward, before⟩
        within.nested orderedTarget
    have back : value.forest.Ascends value.span.start span.stop :=
      value.ascends ⟨le_refl _, withinValue.span.forward,
        withinValue.span.stop⟩ withinValue.nested orderedValue
    exact .tree (front.join back withinValue.span.start
      (le_trans withinValue.span.forward withinValue.span.stop))
      (le_refl _) forward
  | conditional branches otherwise span =>
    obtain ⟨⟨arms, inOrder⟩, rest⟩ := nested
    obtain ⟨orderedArms, orderedRest⟩ := ordered
    have each := Statement.ascends_branches branches arms orderedArms
    refine .tree ?_ (le_refl _) forward
    rw [Statement.branchesForest_eq]
    cases otherwise with
    | none =>
      rw [Statement.otherwiseForest, Forest.append_empty]
      exact .ofInOrder inOrder each
    | some body =>
      obtain ⟨place, before, begins, orderedBody⟩ := orderedRest
      exact .ofRow inOrder each before begins
        (Statement.ascends_body body rest.1 rest.2 orderedBody)
  | loop condition body span =>
    obtain ⟨within, inside, inOrder⟩ := nested
    obtain ⟨orderedCondition, orderedBody⟩ := ordered
    have front : condition.forest.Ascends span.start condition.span.stop :=
      condition.ascends ⟨within.span.start, within.span.forward, le_refl _⟩
        within.nested orderedCondition
    exact .tree (front.join
      (Statement.ascends_body body inside inOrder orderedBody)
      (le_trans within.span.start within.span.forward) within.span.stop)
      (le_refl _) forward
  | result value span =>
    exact .tree (.ofOption fun node member =>
      (nested node member).ascends (ordered node member)) (le_refl _) forward
  | declare type name initial span =>
    obtain ⟨within, _, inside⟩ := nested
    have front : type.forest.Ascends span.start type.span.stop :=
      TypeName.ascends_start within.start within.forward
    have back : (Forest.ofOption Expression.forest initial).Ascends
        type.span.stop span.stop := by
      refine .ofOption fun node member => ?_
      obtain ⟨before, orderedNode⟩ := ordered node member
      have nests := inside node member
      exact node.ascends ⟨before, nests.span.forward, nests.span.stop⟩
        nests.nested orderedNode
    exact .tree (front.join back (le_trans within.start within.forward)
      within.stop) (le_refl _) forward

/-- The statements of a body behind a place. -/
theorem Statement.ascends_body {outer : Span} {place : Position}
    (body : List Statement) (nests : Statement.BodyNestsIn outer body)
    (inOrder : Span.InOrder (body.map Statement.span))
    (ordered : Statement.BodyOrdered place body) :
    (Statement.bodyForest body).Ascends place outer.stop := by
  cases body with
  | nil => exact .empty
  | cons statement rest =>
    obtain ⟨⟨within, below⟩, further⟩ := nests
    obtain ⟨⟨begins, orderedHere⟩, orderedRest⟩ := ordered
    obtain ⟨behind, inOrderRest⟩ := List.pairwise_cons.mp inOrder
    have front := statement.ascends within.forward below orderedHere
    have back : (Statement.bodyForest rest).Ascends
        statement.span.stop outer.stop := by
      apply Statement.ascends_body rest further inOrderRest
      refine Statement.bodyOrdered_iff.2 fun other member => ⟨?_, ?_⟩
      · exact behind _ (List.mem_map_of_mem member)
      · exact (Statement.bodyOrdered_iff.1 orderedRest other member).2
    exact (front.mono begins (le_refl _)).join back
      (le_trans begins within.forward) within.stop

/-- The condition of an arm starts in front of its body. -/
theorem Branch.ascends (branch : Branch Statement)
    (forward : branch.span.start ≤ branch.span.stop)
    (nested : Statement.NestedBranch branch)
    (ordered : Statement.OrderedBranch branch) :
    branch.forest.Ascends branch.span.start branch.span.stop := by
  obtain ⟨condition, body, span⟩ := branch
  obtain ⟨within, inside, inOrder⟩ := nested
  obtain ⟨orderedCondition, orderedBody⟩ := ordered
  have front : condition.forest.Ascends span.start condition.span.stop :=
    condition.ascends ⟨within.span.start, within.span.forward, le_refl _⟩
      within.nested orderedCondition
  exact .tree (front.join
    (Statement.ascends_body body inside inOrder orderedBody)
    (le_trans within.span.start within.span.forward) within.span.stop)
    (le_refl _) forward

theorem Statement.ascends_branches {outer : Span}
    (branches : List (Branch Statement))
    (nests : Statement.BranchesNestIn outer branches)
    (ordered : Statement.BranchesOrdered branches) :
    ∀ branch ∈ branches, branch.span.NestsIn outer ∧
      branch.forest.Ascends branch.span.start branch.span.stop := by
  cases branches with
  | nil => exact List.forall_mem_nil _
  | cons branch rest =>
    obtain ⟨⟨within, below⟩, further⟩ := nests
    obtain ⟨orderedHere, orderedRest⟩ := ordered
    exact List.forall_mem_cons.mpr
      ⟨⟨within, branch.ascends within.forward below orderedHere⟩,
        Statement.ascends_branches rest further orderedRest⟩

end

/-! ## Declarations -/

/-- A type and a literal behind it. -/
theorem Literal.ascends_behind
    {outer : Span} {type : TypeName} {value : Option Literal}
    (within : type.span.NestsIn outer)
    (inside : ∀ node ∈ value, node.span.NestsIn outer)
    (ordered : ∀ node ∈ value, type.span.stop ≤ node.span.start) :
    (type.forest ++ .ofOption Literal.forest value).Ascends
      outer.start outer.stop := by
  have front : type.forest.Ascends outer.start type.span.stop :=
    TypeName.ascends_start within.start within.forward
  have back : (Forest.ofOption Literal.forest value).Ascends
      type.span.stop outer.stop := by
    refine .ofOption fun node member => ?_
    have nests := inside node member
    have behind : node.span.NestsIn ⟨type.span.stop, outer.stop⟩ :=
      ⟨ordered node member, nests.forward, nests.stop⟩
    exact Literal.ascends behind
  exact front.join back (le_trans within.start within.forward) within.stop

theorem Variable.ascends {tree : Variable}
    (forward : tree.span.start ≤ tree.span.stop) (nested : tree.Nested)
    (ordered : tree.Ordered) :
    tree.forest.Ascends tree.span.start tree.span.stop :=
  .tree (Literal.ascends_behind nested.type nested.initial ordered)
    (le_refl _) forward

theorem Parameter.ascends {tree : Parameter}
    (forward : tree.span.start ≤ tree.span.stop) (nested : tree.Nested)
    (ordered : tree.Ordered) :
    tree.forest.Ascends tree.span.start tree.span.stop :=
  .tree (Literal.ascends_behind nested.type nested.default ordered)
    (le_refl _) forward

/-- The parameters and the body of a function or event, behind a place. -/
theorem PartsOrdered.ascends
    {place : Position} {outer : Span} {parameters : List Parameter}
    {body : List Statement} (ordered : PartsOrdered place parameters body)
    (given : outer.Holds Parameter.span Parameter.Nested parameters)
    (inside : outer.Holds Statement.span Statement.Nested body) :
    (Forest.ofList Parameter.forest parameters ++
      Statement.bodyForest body).Ascends place outer.stop := by
  obtain ⟨behind, each, begins, orderedBody⟩ := ordered
  refine .ofRow given.inOrder (fun node member => ?_)
    (fun node member => (each node member).2.2) begins
    (Statement.ascends_body body (Statement.bodyNestsIn_iff.2 inside.each)
      inside.inOrder orderedBody)
  obtain ⟨nests, below⟩ := given.each node member
  obtain ⟨orderedNode, later, _⟩ := each node member
  exact ⟨⟨later, nests.forward, nests.stop⟩,
    Parameter.ascends nests.forward below orderedNode⟩

/-- The type, the parameters and the body of a function start in order. -/
theorem Function.ascends {tree : Function}
    (forward : tree.span.start ≤ tree.span.stop) (nested : tree.Nested)
    (ordered : tree.Ordered) :
    tree.forest.Ascends tree.span.start tree.span.stop := by
  obtain ⟨place, begins, behind, parts⟩ := ordered
  have front : (Forest.ofOption TypeName.forest tree.returnType).Ascends
      tree.span.start tree.span.stop :=
    .ofOption fun type member => TypeName.ascends (nested.returnType type member)
  refine .tree (front.append ?_ (parts.ascends nested.parameters nested.body)
    begins) (le_refl _) forward
  have upTo : (Forest.ofOption TypeName.forest tree.returnType).Ascends
      tree.span.start place := by
    refine .ofOption fun type member => ?_
    have nests := nested.returnType type member
    exact TypeName.ascends_start nests.start
      (le_trans nests.forward (behind type member))
  exact fun start member => (upTo.within start member).2

theorem Event.ascends {tree : Event}
    (forward : tree.span.start ≤ tree.span.stop) (nested : tree.Nested)
    (ordered : tree.Ordered) :
    tree.forest.Ascends tree.span.start tree.span.stop :=
  .tree (PartsOrdered.ascends ordered nested.parameters nested.body)
    (le_refl _) forward

theorem ScriptState.ascends {tree : ScriptState}
    (forward : tree.span.start ≤ tree.span.stop) (nested : tree.Nested)
    (ordered : tree.Ordered) :
    tree.forest.Ascends tree.span.start tree.span.stop := by
  refine .tree (.ofInOrder nested.events.inOrder fun event member => ?_)
    (le_refl _) forward
  obtain ⟨nests, below⟩ := nested.events.each event member
  exact ⟨nests, Event.ascends nests.forward below (ordered event member)⟩

/-! ## Properties -/

/-- A getter starts in front of the setter of its property. -/
def PropertySource.InFileOrder : PropertySource → Prop
  | .full (some getter) (some setter) =>
    getter.span.start ≤ setter.span.start
  | _ => True

/-- The functions of a property are walked in the order of the file. -/
def Property.InFileOrder (tree : Property) : Prop := tree.source.InFileOrder

/-- The functions of a member that is a property are walked in the order of
the file. -/
def Member.InFileOrder : Member → Prop
  | .property tree => tree.InFileOrder
  | _ => True

theorem Function.NestsIn.ascends {tree : Function} {outer : Span}
    {place : Position} (nests : tree.NestsIn outer)
    (behind : place ≤ tree.span.start) (ordered : tree.Ordered) :
    tree.forest.Ascends place outer.stop :=
  (Function.ascends nests.span.forward nests.nested ordered).mono behind
    nests.span.stop

/-- A getter in front of its setter is walked in front of it. -/
theorem PropertySource.ascends {source : PropertySource} {outer : Span}
    {place : Position} (nests : source.NestsIn outer)
    (ordered : source.Ordered place) (inFileOrder : source.InFileOrder) :
    source.forest.Ascends place outer.stop := by
  match source with
  | .auto initial =>
    refine .ofOption fun node member => ?_
    have inside := nests node member
    have behind : node.span.NestsIn ⟨place, outer.stop⟩ :=
      ⟨ordered node member, inside.forward, inside.stop⟩
    exact Literal.ascends behind
  | .readOnly initial =>
    have inside : initial.span.NestsIn outer := nests
    have behind : initial.span.NestsIn ⟨place, outer.stop⟩ :=
      ⟨ordered, inside.forward, inside.stop⟩
    exact Literal.ascends behind
  | .full none setter =>
    refine .ofOption fun tree member => ?_
    obtain ⟨behind, orderedTree⟩ := ordered.2.1 tree member
    exact (nests.2 tree member).ascends behind orderedTree
  | .full (some getter) none =>
    obtain ⟨behind, orderedTree⟩ := ordered.1 getter rfl
    rw [PropertySource.forest, Forest.ofOption, Forest.ofOption,
      Forest.append_empty]
    exact (nests.1 getter rfl).ascends behind orderedTree
  | .full (some getter) (some setter) =>
    obtain ⟨behind, orderedGetter⟩ := ordered.1 getter rfl
    obtain ⟨_, orderedSetter⟩ := ordered.2.1 setter rfl
    have inFront : getter.span.start ≤ setter.span.start := inFileOrder
    rcases ordered.2.2 getter rfl setter rfl with before | otherwise
    · have within := (nests.1 getter rfl).span
      have withinNext := (nests.2 setter rfl).span
      have front : getter.forest.Ascends place setter.span.start :=
        (Function.ascends within.forward (nests.1 getter rfl).nested
          orderedGetter).mono behind before
      exact front.join
        ((nests.2 setter rfl).ascends (le_refl _) orderedSetter)
        (le_trans behind inFront)
        (le_trans withinNext.forward withinNext.stop)
    · exact absurd otherwise inFront

theorem Property.ascends {tree : Property}
    (forward : tree.span.start ≤ tree.span.stop) (nested : tree.Nested)
    (ordered : tree.Ordered) (inFileOrder : tree.InFileOrder) :
    tree.forest.Ascends tree.span.start tree.span.stop := by
  obtain ⟨place, behind, orderedSource⟩ := ordered
  have within := nested.type
  have front : tree.type.forest.Ascends tree.span.start tree.span.stop :=
    TypeName.ascends within
  have back : tree.source.forest.Ascends place tree.span.stop :=
    PropertySource.ascends nested.source orderedSource inFileOrder
  refine .tree (front.append ?_ back ?_) (le_refl _) forward
  · refine List.forall_mem_singleton.mpr ?_
    exact le_trans within.forward behind
  · exact le_trans within.start (le_trans within.forward behind)

/-! ## Members and imports -/

theorem Member.ascends {tree : Member}
    (forward : tree.span.start ≤ tree.span.stop) (nested : tree.Nested)
    (ordered : tree.Ordered) (inFileOrder : tree.InFileOrder) :
    tree.forest.Ascends tree.span.start tree.span.stop := by
  match tree with
  | .variable _ => exact Variable.ascends forward nested ordered
  | .property _ => exact Property.ascends forward nested ordered inFileOrder
  | .function _ => exact Function.ascends forward nested ordered
  | .event _ => exact Event.ascends forward nested ordered
  | .state _ => exact ScriptState.ascends forward nested ordered

theorem Import.ascends {tree : Import}
    (forward : tree.span.start ≤ tree.span.stop) :
    tree.forest.Ascends tree.span.start tree.span.stop :=
  .tree .empty (le_refl _) forward

/-! ## Scripts -/

section Scripts

variable {script : Script} (nested : script.Nested)
include nested

theorem Script.imports_ascend :
    (Forest.ofList Import.forest script.imports).Ascends
      script.span.start script.span.stop := by
  refine .ofInOrder nested.imports.inOrder fun line isLine => ?_
  have within := (nested.imports.each line isLine).1
  exact ⟨within, Import.ascends within.forward⟩

/-- Members one behind the other start in order, and so does what is below
them if every getter stands in front of its setter. -/
theorem Script.members_ascend
    (inOrder : Span.InOrder (script.members.map Member.span))
    (ordered : ∀ member ∈ script.members, member.Ordered)
    (inFileOrder : ∀ member ∈ script.members, member.InFileOrder) :
    (Forest.ofList Member.forest script.members).Ascends
      script.span.start script.span.stop := by
  refine .ofInOrder inOrder fun member isMember => ?_
  have nests := nested.members member isMember
  exact ⟨nests.span, Member.ascends nests.span.forward nests.nested
    (ordered member isMember) (inFileOrder member isMember)⟩

end Scripts

end PapyrusScript
