import Mathlib.Data.List.Basic
import PapyrusScript.Proofs.Spans
import PapyrusScript.Proofs.Walk.Forest

/-!
# Forests whose nodes start in order

The nodes of a forest, in the order in which they are entered, start in the
order of the text if the trees of the forest stand one behind the other and
every node starts no later than what is below it.
-/

namespace PapyrusScript

variable {first last : Position}

attribute [grind =] Node.span

namespace Forest

variable {α : Type}

def nodes : Forest → List Node
  | .empty => []
  | .type shown beside => .type shown :: beside.nodes
  | .node shown _ below beside => shown :: (below.nodes ++ beside.nodes)

/-- Where the nodes of a forest start. -/
def starts (forest : Forest) : List Position :=
  forest.nodes.map fun node => node.span.start

/-- The nodes of a forest start in order, between two places. -/
@[mk_iff]
structure Ascends (forest : Forest) (first last : Position) : Prop where
  within : ∀ start ∈ forest.starts, first ≤ start ∧ start ≤ last
  inOrder : forest.starts.Pairwise (· ≤ ·)

theorem nodes_append (front others : Forest) :
    (front ++ others).nodes = front.nodes ++ others.nodes := by
  induction front with
  | empty => rfl
  | type shown beside ih =>
    rw [type_append, nodes, nodes, ih, List.cons_append]
  | node shown proper below beside _ ih =>
    rw [node_append, nodes, nodes, ih, List.cons_append, List.append_assoc]

theorem starts_append (front others : Forest) :
    (front ++ others).starts = front.starts ++ others.starts := by
  rw [starts, nodes_append, List.map_append, starts, starts]

theorem starts_tree
    (shown : Node) (below : Forest) (proper : shown.isType = false) :
    (tree shown below proper).starts = shown.span.start :: below.starts := by
  rw [starts, tree, nodes, nodes, List.append_nil, List.map_cons, starts]

theorem append_empty (forest : Forest) : forest ++ .empty = forest := by
  induction forest with
  | empty => rfl
  | type shown beside ih =>
    rw [type_append, ih]
  | node shown proper below beside _ ih =>
    rw [node_append, ih]

theorem mem_starts_ofList
    {forest : α → Forest} {parts : List α} {start : Position} :
    start ∈ (ofList forest parts).starts ↔
      ∃ part ∈ parts, start ∈ (forest part).starts := by
  induction parts with
  | nil => simp [ofList, starts, nodes]
  | cons part rest ih =>
    rw [ofList, starts_append, List.mem_append, ih]
    simp

theorem starts_sublist_ofList
    (forest : α → Forest) {parts : List α} {part : α} (member : part ∈ parts) :
    (forest part).starts.Sublist (ofList forest parts).starts := by
  induction parts with
  | nil => cases member
  | cons first rest ih =>
    rw [ofList, starts_append]
    rcases List.mem_cons.mp member with rfl | member
    · exact List.sublist_append_left _ _
    · exact (ih member).trans
        (List.sublist_append_right _ _)

namespace Ascends

variable {forest others : Forest} {forestOf : α → Forest}
variable {first middle next last : Position}

theorem empty : Forest.empty.Ascends first last := ⟨List.forall_mem_nil _, .nil⟩

theorem mono (ascends : forest.Ascends middle next)
    (begins : first ≤ middle)
    (ends : next ≤ last) :
    forest.Ascends first last where
  within := by
    intro start member
    obtain ⟨lower, upper⟩ := ascends.within start member
    exact ⟨le_trans begins lower, le_trans upper ends⟩
  inOrder := ascends.inOrder

theorem tree {shown : Node} {proper : shown.isType = false}
    (below : forest.Ascends shown.span.start last)
    (begins : first ≤ shown.span.start)
    (ends : shown.span.start ≤ last) :
    (Forest.tree shown forest proper).Ascends first last := by
  constructor
  · rw [starts_tree, List.forall_mem_cons]
    refine ⟨⟨begins, ends⟩, ?_⟩
    intro start member
    obtain ⟨lower, upper⟩ := below.within start member
    exact ⟨le_trans begins lower, upper⟩
  · rw [starts_tree]
    refine List.pairwise_cons.mpr ⟨?_, below.inOrder⟩
    exact fun start member => (below.within start member).1

/-- What is joined to a forest may be empty, and then the place behind the
first part says nothing of the end. -/
theorem append
    (front : forest.Ascends first last)
    (before : ∀ start ∈ forest.starts, start ≤ middle)
    (back : others.Ascends middle last) (begins : first ≤ middle) :
    (forest ++ others).Ascends first last := by
  constructor
  · intro start member
    rw [starts_append] at member
    rcases List.mem_append.mp member with member | member
    · exact front.within start member
    · obtain ⟨lower, upper⟩ := back.within start member
      exact ⟨le_trans begins lower, upper⟩
  · rw [starts_append]
    refine List.pairwise_append.mpr ⟨front.inOrder, back.inOrder, ?_⟩
    intro one isOne other isOther
    exact le_trans (before one isOne) (back.within other isOther).1

theorem join
    (front : forest.Ascends first middle) (back : others.Ascends middle last)
    (begins : first ≤ middle) (ends : middle ≤ last) :
    (forest ++ others).Ascends first last :=
  (front.mono (le_refl _) ends).append
    (fun start member => (front.within start member).2) back begins

/-- Parts one behind the other, each of which ascends, ascend together. -/
theorem ofInOrder {span : α → Span} {parts : List α}
    (inOrder : Span.InOrder (parts.map span))
    (each : ∀ node ∈ parts, (span node).NestsIn ⟨first, last⟩ ∧
      (forestOf node).Ascends (span node).start (span node).stop) :
    (ofList forestOf parts).Ascends first last := by
  induction parts generalizing first with
  | nil => exact .empty
  | cons node rest ih =>
    obtain ⟨behind, further⟩ := List.pairwise_cons.mp inOrder
    obtain ⟨nests, ascends⟩ := each node List.mem_cons_self
    have others : (ofList forestOf rest).Ascends (span node).stop last := by
      apply ih further
      intro other member
      obtain ⟨inside, own⟩ := each other (List.mem_cons_of_mem _ member)
      have before := behind _ (List.mem_map_of_mem member)
      exact ⟨⟨before, inside.forward, inside.stop⟩, own⟩
    have begins := le_trans nests.start nests.forward
    exact (ascends.mono nests.start (le_refl _)).join others begins nests.stop

end Ascends

end Forest

/-! ## Parts without parts -/

theorem TypeName.ascends_start
    {type : TypeName} (begins : first ≤ type.span.start)
    (ends : type.span.start ≤ last) :
    type.forest.Ascends first last :=
  ⟨List.forall_mem_singleton.mpr ⟨begins, ends⟩, List.pairwise_singleton _ _⟩

theorem TypeName.ascends
    {type : TypeName} {outer : Span} (nests : type.span.NestsIn outer) :
    type.forest.Ascends outer.start outer.stop :=
  TypeName.ascends_start nests.start (le_trans nests.forward nests.stop)

theorem Literal.ascends
    {node : Literal} {outer : Span} (nests : node.span.NestsIn outer) :
    node.forest.Ascends outer.start outer.stop := by
  apply Forest.Ascends.tree .empty
  · exact nests.start
  · exact le_trans nests.forward nests.stop

theorem Forest.Ascends.ofOption
    {α : Type} {forest : α → Forest} {part : Option α}
    (each : ∀ node ∈ part, (forest node).Ascends first last) :
    (Forest.ofOption forest part).Ascends first last := by
  cases part with
  | none => exact .empty
  | some node => exact each node rfl

/-! ## The lists of a tree -/

theorem Expression.argumentsForest_eq (arguments : List (Argument Expression)) :
    Expression.argumentsForest arguments =
      .ofList Argument.forest arguments := by
  induction arguments with
  | nil => rfl
  | cons argument rest ih =>
    rw [Expression.argumentsForest, ih, Forest.ofList]

theorem Statement.branchesForest_eq (branches : List (Branch Statement)) :
    Statement.branchesForest branches = .ofList Branch.forest branches := by
  induction branches with
  | nil => rfl
  | cons branch rest ih =>
    rw [Statement.branchesForest, ih, Forest.ofList]

end PapyrusScript
