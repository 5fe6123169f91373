import Mathlib.Data.List.Nodup
import PapyrusScript.Proofs.Walk.Forest

/-!
# The depth-first order of a forest

Every node of a forest has a place, the way to it: `below` leads from a node
to the first node below it, `beside` to the next one beside it.  A traversal
enters each node and leaves it again, except for types, which are only
entered.  These moments stand in one row, depth first:

* no moment occurs twice, and exactly the nodes of the forest are entered;
* whatever happens below a node happens after it is entered and before it is
  left;
* whatever happens beside a node happens after all that happens at the node
  and below it.
-/

namespace PapyrusScript

/-- A step on the way to a node. -/
inductive Turn where
  | below
  | beside
  deriving DecidableEq, Repr, Inhabited

abbrev Place := List Turn

def Place.IsAbove (above place : Place) : Prop :=
  ∃ rest, place = above ++ .below :: rest

/-- What can happen at a place in a traversal. -/
inductive Moment where
  | enter (place : Place)
  | exit (place : Place)
  deriving DecidableEq, Repr, Inhabited

namespace Moment

/-- Where a moment happens. -/
def place : Moment → Place
  | .enter place => place
  | .exit place => place

def within (turn : Turn) : Moment → Moment
  | .enter place => .enter (turn :: place)
  | .exit place => .exit (turn :: place)

@[simp]
theorem place_within (turn : Turn) (moment : Moment) :
    (moment.within turn).place = turn :: moment.place := by
  cases moment <;> rfl

theorem within_injective (turn : Turn) : Function.Injective (within turn) := by
  intro moment other same
  cases moment <;> cases other <;> simp_all [within]

end Moment

namespace Forest

variable {earlier later : Moment} {moment : Moment} {type : TypeName}
  {way : Place}

def moments : Forest → List Moment
  | .empty => []
  | .type _ beside =>
    .enter [] :: beside.moments.map (.within .beside)
  | .node _ _ below beside =>
    .enter [] ::
      (below.moments.map (.within .below) ++
        .exit [] :: beside.moments.map (.within .beside))

def at? : Forest → Place → Option Node
  | .empty, _ => none
  | .type shown _, [] => some (.type shown)
  | .type _ _, .below :: _ => none
  | .type _ beside, .beside :: place => beside.at? place
  | .node shown _ _ _, [] => some shown
  | .node _ _ below _, .below :: place => below.at? place
  | .node _ _ _ beside, .beside :: place => beside.at? place

def Before (forest : Forest) (earlier later : Moment) : Prop :=
  [earlier, later].Sublist forest.moments

variable
  {shown : Node} {proper : shown.isType = false} {inside others : Forest}

theorem moments_type :
    (Forest.type type others).moments =
      .enter [] :: others.moments.map (.within .beside) :=
  rfl

theorem moments_node :
    (Forest.node shown proper inside others).moments =
      .enter [] :: (inside.moments.map (.within .below) ++
        .exit [] :: others.moments.map (.within .beside)) :=
  rfl

theorem mem_moments_node {below beside : Forest} :
    moment ∈ (Forest.node shown proper below beside).moments ↔
      moment = .enter [] ∨
        (∃ inner ∈ below.moments, inner.within .below = moment) ∨
        moment = .exit [] ∨
        ∃ next ∈ beside.moments, next.within .beside = moment := by
  rw [moments_node, List.mem_cons, List.mem_append, List.mem_cons,
    List.mem_map, List.mem_map]

theorem mem_moments_type {beside : Forest} :
    moment ∈ (Forest.type type beside).moments ↔
      moment = .enter [] ∨
        ∃ next ∈ beside.moments, next.within .beside = moment := by
  rw [moments_type, List.mem_cons, List.mem_map]

/-- A moment whose place is below the first node is one of the forest
below. -/
theorem exists_below
    (member : moment ∈ (Forest.node shown proper inside others).moments)
    (place : moment.place = .below :: way) :
    ∃ inner ∈ inside.moments,
      inner.within .below = moment ∧ inner.place = way := by
  rcases mem_moments_node.mp member with
    rfl | ⟨inner, innerMember, rfl⟩ | rfl | ⟨next, _, rfl⟩
  · cases place
  · rw [Moment.place_within] at place
    exact ⟨inner, innerMember, rfl, (List.cons.inj place).2⟩
  · cases place
  · rw [Moment.place_within] at place
    cases place

/-- A moment whose place is beside the first node is one of the forest
beside. -/
theorem exists_beside
    (member : moment ∈ (Forest.node shown proper inside others).moments)
    (place : moment.place = .beside :: way) :
    ∃ next ∈ others.moments,
      next.within .beside = moment ∧ next.place = way := by
  rcases mem_moments_node.mp member with
    rfl | ⟨inner, _, rfl⟩ | rfl | ⟨next, nextMember, rfl⟩
  · cases place
  · rw [Moment.place_within] at place
    cases place
  · cases place
  · rw [Moment.place_within] at place
    exact ⟨next, nextMember, rfl, (List.cons.inj place).2⟩

/-- Behind a type in front of a forest come only the moments beside it. -/
theorem exists_besideType
    {turn : Turn} (member : moment ∈ (Forest.type type others).moments)
    (place : moment.place = turn :: way) :
    turn = .beside ∧
      ∃ next ∈ others.moments,
        next.within .beside = moment ∧ next.place = way := by
  rcases mem_moments_type.mp member with rfl | ⟨next, nextMember, rfl⟩
  · cases place
  · rw [Moment.place_within] at place
    obtain ⟨rfl, tail⟩ := List.cons.inj place
    exact ⟨rfl, next, nextMember, rfl, tail⟩

theorem below_mem_moments (moment : Moment) :
    moment.within .below ∈
      (Forest.node shown proper inside others).moments ↔
        moment ∈ inside.moments := by
  constructor
  · intro member
    obtain ⟨inner, innerMember, same, _⟩ :=
      exists_below member (moment.place_within _)
    rwa [← Moment.within_injective .below same]
  · intro member
    exact mem_moments_node.mpr (.inr (.inl ⟨_, member, rfl⟩))

theorem beside_mem_moments (moment : Moment) :
    moment.within .beside ∈
      (Forest.node shown proper inside others).moments ↔
        moment ∈ others.moments := by
  constructor
  · intro member
    obtain ⟨next, nextMember, same, _⟩ :=
      exists_beside member (moment.place_within _)
    rwa [← Moment.within_injective .beside same]
  · intro member
    exact mem_moments_node.mpr (.inr (.inr (.inr ⟨_, member, rfl⟩)))

theorem besideType_mem_moments (moment : Moment) :
    moment.within .beside ∈ (Forest.type type others).moments ↔
      moment ∈ others.moments := by
  constructor
  · intro member
    obtain ⟨_, next, nextMember, same, _⟩ :=
      exists_besideType member (moment.place_within _)
    rwa [← Moment.within_injective .beside same]
  · intro member
    exact mem_moments_type.mpr (.inr ⟨_, member, rfl⟩)

theorem exit_nil_notMem_type :
    Moment.exit [] ∉ (Forest.type type others).moments := by
  intro member
  obtain same | ⟨next, _, same⟩ := mem_moments_type.mp member
  · cases same
  · cases next <;> cases same

theorem Before.below (order : inside.Before earlier later) :
    (Forest.node shown proper inside others).Before
      (earlier.within .below) (later.within .below) := by
  have mapped := order.map (Moment.within .below)
  exact (mapped.trans (List.sublist_append_left _ _)).cons _

theorem Before.beside (order : others.Before earlier later) :
    (Forest.node shown proper inside others).Before
      (earlier.within .beside) (later.within .beside) := by
  have mapped := order.map (Moment.within .beside)
  exact ((mapped.cons _).trans (List.sublist_append_right _ _)).cons _

theorem Before.besideType (order : others.Before earlier later) :
    (Forest.type type others).Before
      (earlier.within .beside) (later.within .beside) :=
  (order.map (Moment.within .beside)).cons _

/-- A moment of the front part of a row stands in front of one of the rest. -/
theorem pair_sublist_append {front rest : List Moment} (first : earlier ∈ front)
    (second : later ∈ rest) :
    [earlier, later].Sublist (front ++ rest) :=
  (List.singleton_sublist.mpr first).append
    (List.singleton_sublist.mpr second)

/-- No moment of a forest occurs twice. -/
theorem moments_nodup (forest : Forest) : forest.moments.Nodup := by
  induction forest with
  | empty => exact List.nodup_nil
  | type shown beside ih =>
    have besideNodup := ih.map (Moment.within_injective .beside)
    refine List.nodup_cons.mpr ⟨?_, besideNodup⟩
    intro member
    obtain ⟨moment, _, same⟩ := List.mem_map.mp member
    cases moment <;> cases same
  | node shown proper below beside belowNodup besideNodup =>
    have inner := belowNodup.map (Moment.within_injective .below)
    have next := besideNodup.map (Moment.within_injective .beside)
    refine List.nodup_cons.mpr ⟨?_, List.nodup_append'.mpr
      ⟨inner, List.nodup_cons.mpr ⟨?_, next⟩, ?_⟩⟩
    · intro member
      rcases List.mem_append.mp member with member | member
      · obtain ⟨moment, _, same⟩ := List.mem_map.mp member
        cases moment <;> cases same
      · rcases List.mem_cons.mp member with same | member
        · cases same
        · obtain ⟨moment, _, same⟩ := List.mem_map.mp member
          cases moment <;> cases same
    · intro member
      obtain ⟨moment, _, same⟩ := List.mem_map.mp member
      cases moment <;> cases same
    · intro moment inside outside
      obtain ⟨first, _, rfl⟩ := List.mem_map.mp inside
      rcases List.mem_cons.mp outside with same | outside
      · cases first <;> cases same
      · obtain ⟨second, _, same⟩ := List.mem_map.mp outside
        cases first <;> cases second <;> cases same

/-- Two moments of a row without repetitions cannot stand in front of each
other. -/
theorem pair_sublist_asymm {row : List Moment} (nodup : row.Nodup)
    (order : [earlier, later].Sublist row) :
    ¬[later, earlier].Sublist row := by
  induction row with
  | nil => cases order
  | cons head rest ih =>
    obtain ⟨fresh, restNodup⟩ := List.nodup_cons.mp nodup
    intro reversed
    cases order with
    | cons _ order =>
      cases reversed with
      | cons _ reversed =>
        exact ih restNodup order reversed
      | cons_cons _ reversed =>
        exact fresh (order.subset
          (List.mem_cons_of_mem _ List.mem_cons_self))
    | cons_cons _ order =>
      cases reversed with
      | cons _ reversed =>
        exact fresh (reversed.subset
          (List.mem_cons_of_mem _ List.mem_cons_self))
      | cons_cons _ reversed =>
        exact fresh (order.subset List.mem_cons_self)

theorem Before.asymm {forest : Forest} (order : forest.Before earlier later) :
    ¬forest.Before later earlier :=
  pair_sublist_asymm forest.moments_nodup order

/-- Exactly the nodes of a forest are entered. -/
theorem enter_mem_moments_iff (forest : Forest) (place : Place) :
    Moment.enter place ∈ forest.moments ↔ (forest.at? place).isSome := by
  induction forest generalizing place with
  | empty => simp [moments, at?]
  | type shown beside ih =>
    match place with
    | [] => simp [moments, at?]
    | .below :: place =>
      simp only [at?, Option.isSome_none, Bool.false_eq_true, iff_false]
      intro member
      cases (exists_besideType member rfl).1
    | .beside :: place =>
      rw [at?, ← ih place]
      exact besideType_mem_moments (.enter place)
  | node shown proper below beside belowHypothesis besideHypothesis =>
    match place with
    | [] => simp [moments, at?]
    | .below :: place =>
      rw [at?, ← belowHypothesis place]
      exact below_mem_moments (.enter place)
    | .beside :: place =>
      rw [at?, ← besideHypothesis place]
      exact beside_mem_moments (.enter place)

/-- Exactly the nodes of a forest that are no types are left. -/
theorem exit_mem_moments_iff (forest : Forest) (place : Place) :
    Moment.exit place ∈ forest.moments ↔
      ∃ node, forest.at? place = some node ∧ node.isType = false := by
  induction forest generalizing place with
  | empty => simp [moments, at?]
  | type shown beside ih =>
    match place with
    | [] => simp [at?, exit_nil_notMem_type]
    | .below :: place =>
      simp only [at?, reduceCtorEq, false_and, exists_false, iff_false]
      intro member
      cases (exists_besideType member rfl).1
    | .beside :: place =>
      rw [at?, ← ih place]
      exact besideType_mem_moments (.exit place)
  | node shown proper below beside belowHypothesis besideHypothesis =>
    match place with
    | [] => simp [moments, at?, proper]
    | .below :: place =>
      rw [at?, ← belowHypothesis place]
      exact below_mem_moments (.exit place)
    | .beside :: place =>
      rw [at?, ← besideHypothesis place]
      exact beside_mem_moments (.exit place)

/-- Whatever happens below a node happens between entering and leaving it. -/
theorem between_of_isAbove
    (forest : Forest) {above : Place} (member : moment ∈ forest.moments)
    (isAbove : above.IsAbove moment.place) :
    forest.Before (.enter above) moment ∧
      forest.Before moment (.exit above) := by
  obtain ⟨rest, way⟩ := isAbove
  induction forest generalizing above moment with
  | empty => cases member
  | type shown beside ih =>
    rcases above with _ | ⟨turn, above⟩
    · cases (exists_besideType member way).1
    · obtain ⟨rfl, next, nextMember, rfl, tail⟩ :=
        exists_besideType member way
      obtain ⟨entered, left⟩ := ih nextMember tail
      exact ⟨entered.besideType, left.besideType⟩
  | node shown proper below beside belowHypothesis besideHypothesis =>
    match above with
    | [] =>
      obtain ⟨inner, innerMember, rfl, _⟩ := exists_below member way
      have mapped : inner.within .below ∈
          below.moments.map (.within .below) :=
        List.mem_map_of_mem innerMember
      constructor
      · exact (List.singleton_sublist.mpr
          (List.mem_append_left _ mapped)).cons_cons _
      · exact (pair_sublist_append mapped List.mem_cons_self).cons _
    | .below :: above =>
      obtain ⟨inner, innerMember, rfl, tail⟩ := exists_below member way
      obtain ⟨entered, left⟩ := belowHypothesis innerMember tail
      exact ⟨entered.below, left.below⟩
    | .beside :: above =>
      obtain ⟨next, nextMember, rfl, tail⟩ := exists_beside member way
      obtain ⟨entered, left⟩ := besideHypothesis nextMember tail
      exact ⟨entered.beside, left.beside⟩

/-- Whatever happens beside a node happens after all that happens at it and
below it. -/
theorem before_of_beside (forest : Forest)
    {place way rest : Place} {moment next : Moment}
    (member : moment ∈ forest.moments)
    (inTree : moment.place = place ++ way ∧ way.head? ≠ some .beside)
    (nextMember : next ∈ forest.moments)
    (nextPlace : next.place = place ++ .beside :: rest) :
    forest.Before moment next := by
  obtain ⟨ownPlace, notBeside⟩ := inTree
  induction forest generalizing place moment next with
  | empty => cases member
  | type shown beside ih =>
    rcases place with _ | ⟨turn, place⟩
    · obtain ⟨_, next, afterMember, rfl, _⟩ :=
        exists_besideType nextMember nextPlace
      rcases mem_moments_type.mp member with rfl | ⟨moment, _, rfl⟩
      · exact (List.singleton_sublist.mpr
          (List.mem_map_of_mem afterMember)).cons_cons _
      · rw [Moment.place_within, List.nil_append] at ownPlace
        rw [← ownPlace] at notBeside
        exact absurd rfl notBeside
    · obtain ⟨rfl, next, afterMember, rfl, nextTail⟩ :=
        exists_besideType nextMember nextPlace
      obtain ⟨_, moment, ownMember, rfl, ownTail⟩ :=
        exists_besideType member ownPlace
      exact (ih ownMember afterMember nextTail
        ownTail).besideType
  | node shown proper below beside belowHypothesis besideHypothesis =>
    match place with
    | [] =>
      obtain ⟨next, afterMember, rfl, _⟩ := exists_beside nextMember nextPlace
      have nextMapped : next.within .beside ∈
          beside.moments.map (.within .beside) :=
        List.mem_map_of_mem afterMember
      rcases mem_moments_node.mp member with
        rfl | ⟨inner, innerMember, rfl⟩ | rfl | ⟨moment, _, rfl⟩
      · exact (List.singleton_sublist.mpr (List.mem_append_right _
          (List.mem_cons_of_mem _ nextMapped))).cons_cons _
      · exact (pair_sublist_append (List.mem_map_of_mem innerMember)
          (List.mem_cons_of_mem _ nextMapped)).cons _
      · exact (((List.singleton_sublist.mpr nextMapped).cons_cons _).trans
          (List.sublist_append_right _ _)).cons _
      · rw [Moment.place_within, List.nil_append] at ownPlace
        rw [← ownPlace] at notBeside
        exact absurd rfl notBeside
    | .below :: place =>
      obtain ⟨next, afterMember, rfl, nextTail⟩ :=
        exists_below nextMember nextPlace
      obtain ⟨moment, ownMember, rfl, ownTail⟩ := exists_below member ownPlace
      exact (belowHypothesis ownMember afterMember nextTail ownTail).below
    | .beside :: place =>
      obtain ⟨next, afterMember, rfl, nextTail⟩ :=
        exists_beside nextMember nextPlace
      obtain ⟨moment, ownMember, rfl, ownTail⟩ := exists_beside member ownPlace
      exact (besideHypothesis ownMember afterMember nextTail
        ownTail).beside

theorem before_enter_nil
    (forest : Forest) {turn : Turn} (member : moment ∈ forest.moments)
    (place : moment.place = turn :: way) :
    forest.Before (.enter []) moment := by
  cases forest with
  | empty => cases member
  | type shown beside =>
    rcases List.mem_cons.mp member with rfl | member
    · cases place
    · exact (List.singleton_sublist.mpr member).cons_cons _
  | node shown proper below beside =>
    rcases List.mem_cons.mp member with rfl | member
    · cases place
    · exact (List.singleton_sublist.mpr member).cons_cons _

end Forest

end PapyrusScript
