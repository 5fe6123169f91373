import PapyrusScript.Proofs.Walk.Moments

/-!
# The courses a walk can take

The answers of a visitor may depend on all that it has seen.  So a visitor is
made to record the calls it gets, which changes neither its answers nor its
state, and a walk is described by the calls it makes: a course through a
forest lists its visits, each at its place and with its answer.

Whatever the answers are, the visits of a course come in the depth-first
order of the forest.  A stop is the last of them, everything that was entered
stands below nodes that were answered with `proceed`, and nothing is missing
that these answers allow.
-/

namespace PapyrusScript

/-- A call of a visitor, and what it answered. -/
inductive Call where
  | enter (node : Node) (answer : Answer)
  | exit (node : Node)
  deriving Repr, Inhabited

def Visitor.recording {σ : Type} (visitor : Visitor σ) :
    Visitor (σ × List Call) where
  enter node := fun (state, calls) =>
    let (answer, next) := visitor.enter node state
    (answer, (next, calls ++ [.enter node answer]))
  exit node := fun (state, calls) =>
    let (_, next) := visitor.exit node state
    ((), (next, calls ++ [.exit node]))

/-- A call of a visitor, with the place of the node it is about. -/
inductive Visit where
  | enter (place : Place) (node : Node) (answer : Answer)
  | exit (place : Place) (node : Node)
  deriving Repr, Inhabited

namespace Visit

variable {visits : List Visit} {turn step : Turn}

/-- What the visitor gets to see of a visit, and what it answers. -/
def call : Visit → Call
  | .enter _ node answer => .enter node answer
  | .exit _ node => .exit node

def moment : Visit → Moment
  | .enter place _ _ => .enter place
  | .exit place _ => .exit place

/-- The node of a visit. -/
def node : Visit → Node
  | .enter _ node _ => node
  | .exit _ node => node

def isStop : Visit → Bool
  | .enter _ _ answer => answer = .stop
  | .exit _ _ => false

/-- A visit of a forest in a larger one, which a step leads out of. -/
def within (turn : Turn) : Visit → Visit
  | .enter place node answer => .enter (turn :: place) node answer
  | .exit place node => .exit (turn :: place) node

@[simp]
theorem call_within (turn : Turn) (visit : Visit) :
    (visit.within turn).call = visit.call := by
  cases visit <;> rfl

@[simp]
theorem moment_within (turn : Turn) (visit : Visit) :
    (visit.within turn).moment = visit.moment.within turn := by
  cases visit <;> rfl

@[simp]
theorem node_within (turn : Turn) (visit : Visit) :
    (visit.within turn).node = visit.node := by
  cases visit <;> rfl

@[simp]
theorem isStop_enter (place : Place) (node : Node) (answer : Answer) :
    (enter place node answer).isStop = decide (answer = .stop) :=
  rfl

@[simp]
theorem isStop_within (turn : Turn) (visit : Visit) :
    (visit.within turn).isStop = visit.isStop := by
  cases visit <;> rfl

@[simp]
theorem call_comp_within (turn : Turn) : call ∘ within turn = call :=
  funext (call_within turn)

theorem map_moment_within (turn : Turn) (visits : List Visit) :
    (visits.map (within turn)).map moment =
      (visits.map moment).map (Moment.within turn) := by
  simp [Function.comp_def]

theorem within_injective (turn : Turn) : Function.Injective (within turn) := by
  intro visit other same
  cases visit <;> cases other <;> simp_all [within]

@[simp]
theorem within_ne_enter_nil
    (turn : Turn) (visit : Visit) (node : Node) (answer : Answer) :
    visit.within turn ≠ .enter [] node answer := by
  cases visit <;> simp [within]

@[simp]
theorem within_ne_exit_nil (turn : Turn) (visit : Visit) (node : Node) :
    visit.within turn ≠ .exit [] node := by
  cases visit <;> simp [within]

@[simp]
theorem within_mem_map_within {visit : Visit} :
    visit.within step ∈ visits.map (within turn) ↔
      step = turn ∧ visit ∈ visits := by
  constructor
  · intro member
    obtain ⟨other, otherMember, same⟩ := List.mem_map.mp member
    have sameTurn : turn = step := by
      cases visit <;> cases other <;> simp_all [within]
    subst sameTurn
    exact ⟨rfl, within_injective turn same ▸ otherMember⟩
  · rintro ⟨rfl, member⟩
    exact List.mem_map_of_mem member

@[simp]
theorem enter_cons_mem_map_within
    {place : Place} {node : Node} {answer : Answer} :
    enter (step :: place) node answer ∈ visits.map (within turn) ↔
      step = turn ∧ enter place node answer ∈ visits :=
  @within_mem_map_within visits turn step (enter place node answer)

@[simp]
theorem exit_cons_mem_map_within {place : Place} {node : Node} :
    exit (step :: place) node ∈ visits.map (within turn) ↔
      step = turn ∧ exit place node ∈ visits :=
  @within_mem_map_within visits turn step (exit place node)

end Visit

def StoppedBefore
    (forest : Forest) (visits : List Visit) (moment : Moment) : Prop :=
  ∃ place node, Visit.enter place node .stop ∈ visits ∧
    forest.Before (.enter place) moment

/-- The visits of a walk through a forest and how it ends, by the answers. -/
inductive Course : Forest → List Visit → Except Stopped Unit → Prop where
  | empty : Course .empty [] (.ok ())
  | typeStopped {type beside} :
      Course (.type type beside) [.enter [] (.type type) .stop]
        (.error .stopped)
  | typePassed {type beside answer visits outcome}
      (passed : answer ≠ .stop)
      (next : Course beside visits outcome) :
      Course (.type type beside)
        (.enter [] (.type type) answer :: visits.map (.within .beside))
        outcome
  | nodeStopped {shown proper below beside} :
      Course (.node shown proper below beside) [.enter [] shown .stop]
        (.error .stopped)
  | nodeSkipped {shown proper below beside visits outcome}
      (next : Course beside visits outcome) :
      Course (.node shown proper below beside)
        (.enter [] shown .skipChildren :: .exit [] shown ::
          visits.map (.within .beside))
        outcome
  | belowStopped {shown proper below beside inside}
      (inner : Course below inside (.error .stopped)) :
      Course (.node shown proper below beside)
        (.enter [] shown .proceed :: inside.map (.within .below))
        (.error .stopped)
  | nodePassed {shown proper below beside inside visits outcome}
      (inner : Course below inside (.ok ()))
      (next : Course beside visits outcome) :
      Course (.node shown proper below beside)
        (.enter [] shown .proceed :: (inside.map (.within .below) ++
          .exit [] shown :: visits.map (.within .beside)))
        outcome

namespace Visitor

variable {σ : Type} (visitor : Visitor σ)

theorem run_bind (first next : Walk σ Unit) (state : σ) :
    (do first; next : Walk σ Unit).run.run state =
      match first.run.run state with
      | (.ok (), walked) => next.run.run walked
      | (.error reason, walked) => (.error reason, walked) := by
  unfold ExceptT.run StateT.run
  simp only [bind, ExceptT.bind, ExceptT.mk, StateT.bind, ExceptT.bindCont]
  rcases first state with ⟨_ | _, walked⟩
  · rfl
  · rfl

/-- A node is left only if all below it have been visited. -/
theorem run_visit (node : Node) (children : Walk σ Unit) (state : σ) :
    (visitor.visit node children).run.run state =
      match (visitor.enter node).run state with
      | (.stop, entered) => (.error .stopped, entered)
      | (.proceed, entered) =>
        match children.run.run entered with
        | (.ok (), walked) => (.ok (), ((visitor.exit node).run walked).2)
        | (.error reason, walked) => (.error reason, walked)
      | (.skipChildren, entered) =>
        (.ok (), ((visitor.exit node).run entered).2) := by
  have asked :
      (visitor.enter node : Walk σ Answer).run.run state =
        (.ok ((visitor.enter node).run state).1,
          ((visitor.enter node).run state).2) :=
    rfl
  simp only [visit, ExceptT.run_bind, StateT.run_bind, asked]
  rcases (visitor.enter node).run state with ⟨answer, entered⟩
  cases answer with
  | stop => rfl
  | skipChildren => rfl
  | proceed => exact run_bind children (visitor.exit node) entered

theorem run_walkType (type : TypeName) (state : σ) :
    (visitor.walkType type).run.run state =
      match (visitor.enter (.type type)).run state with
      | (.stop, entered) => (.error .stopped, entered)
      | (_, entered) => (.ok (), entered) := by
  have asked :
      (visitor.enter (.type type) : Walk σ Answer).run.run state =
        (.ok ((visitor.enter (.type type)).run state).1,
          ((visitor.enter (.type type)).run state).2) :=
    rfl
  simp only [walkType, ExceptT.run_bind, StateT.run_bind, asked]
  rcases (visitor.enter (.type type)).run state with ⟨answer, entered⟩
  cases answer <;> rfl

/-- A recording visitor enters a node as the visitor does. -/
theorem run_enter_recording (node : Node) (state : σ) (calls : List Call) :
    (visitor.recording.enter node).run (state, calls) =
      (((visitor.enter node).run state).1,
        ((visitor.enter node).run state).2,
        calls ++ [.enter node ((visitor.enter node).run state).1]) :=
  rfl

/-- A recording visitor leaves a node as the visitor does. -/
theorem run_exit_recording (node : Node) (state : σ) (calls : List Call) :
    ((visitor.recording.exit node).run (state, calls)).2 =
      (((visitor.exit node).run state).2, calls ++ [.exit node]) :=
  rfl

/-- A walk of a recording visitor follows a course, with the outcome and the
state of the visitor alone. -/
theorem walkForest_recording (forest : Forest) (state : σ) (calls : List Call) :
    ∃ visits,
      (visitor.recording.walkForest forest).run.run (state, calls) =
        (((visitor.walkForest forest).run.run state).1,
          ((visitor.walkForest forest).run.run state).2,
          calls ++ visits.map Visit.call) ∧
      Course forest visits
        ((visitor.walkForest forest).run.run state).1 := by
  induction forest generalizing state calls with
  | empty =>
    refine ⟨[], ?_, .empty⟩
    rw [List.map_nil, List.append_nil]
    rfl
  | type shown beside ih =>
    rw [walkForest, walkForest, run_bind, run_bind, run_walkType,
      run_walkType, run_enter_recording]
    rcases (visitor.enter (.type shown)).run state with ⟨answer, entered⟩
    obtain ⟨visits, same, next⟩ := ih entered
      (calls ++ [.enter (.type shown) answer])
    cases answer with
    | stop => exact ⟨_, rfl, .typeStopped⟩
    | proceed =>
      have passed : Answer.proceed ≠ .stop := by decide
      refine ⟨_, ?_, .typePassed passed next⟩
      simpa [Visit.call] using same
    | skipChildren =>
      have passed : Answer.skipChildren ≠ .stop := by decide
      refine ⟨_, ?_, .typePassed passed next⟩
      simpa [Visit.call] using same
  | node shown proper below beside belowHypothesis besideHypothesis =>
    rw [walkForest, walkForest, run_bind, run_bind, run_visit,
      run_visit, run_enter_recording]
    rcases (visitor.enter shown).run state with ⟨answer, entered⟩
    cases answer with
    | stop => exact ⟨_, rfl, .nodeStopped⟩
    | skipChildren =>
      obtain ⟨visits, same, next⟩ := besideHypothesis
        ((visitor.exit shown).run entered).2
        (calls ++ [.enter shown .skipChildren] ++ [.exit shown])
      refine ⟨_, ?_, .nodeSkipped next⟩
      simpa [Visit.call, run_exit_recording]
        using same
    | proceed =>
      obtain ⟨inside, sameInside, inner⟩ := belowHypothesis entered
        (calls ++ [.enter shown .proceed])
      simp only [sameInside]
      rcases walked : (visitor.walkForest below).run.run entered with
        ⟨⟨⟩ | _, middle⟩
      · rw [walked] at inner
        refine ⟨_, ?_, .belowStopped inner⟩
        simp [Visit.call]
      · rw [walked] at inner
        obtain ⟨visits, same, next⟩ := besideHypothesis
          ((visitor.exit shown).run middle).2
          (calls ++ [.enter shown .proceed] ++
            inside.map Visit.call ++ [.exit shown])
        refine ⟨_, ?_, .nodePassed inner next⟩
        simpa [Visit.call, run_exit_recording]
          using same

end Visitor

namespace Course

variable
  {forest : Forest} {visits : List Visit} {outcome : Except Stopped Unit}
variable {inside all : List Visit} {place : Place} {below beside : Forest}
  {part whole : Forest}

/-- Every visit shows the node at its place. -/
theorem shown (course : Course forest visits outcome) :
    ∀ visit ∈ visits, forest.at? visit.moment.place = some visit.node := by
  induction course with
  | empty => exact List.forall_mem_nil _
  | typeStopped =>
    intro visit member
    rw [List.mem_singleton.mp member]
    rfl
  | typePassed _ _ ih =>
    intro visit member
    rcases List.mem_cons.mp member with rfl | member
    · rfl
    · obtain ⟨next, nextMember, rfl⟩ := List.mem_map.mp member
      simpa [Forest.at?] using ih next nextMember
  | nodeStopped =>
    intro visit member
    rw [List.mem_singleton.mp member]
    rfl
  | nodeSkipped _ ih =>
    intro visit member
    rcases List.mem_cons.mp member with rfl | member
    · rfl
    · rcases List.mem_cons.mp member with rfl | member
      · rfl
      · obtain ⟨next, nextMember, rfl⟩ := List.mem_map.mp member
        simpa [Forest.at?] using ih next nextMember
  | belowStopped _ ih =>
    intro visit member
    rcases List.mem_cons.mp member with rfl | member
    · rfl
    · obtain ⟨inner, innerMember, rfl⟩ := List.mem_map.mp member
      simpa [Forest.at?] using ih inner innerMember
  | nodePassed _ _ belowHypothesis besideHypothesis =>
    intro visit member
    rcases List.mem_cons.mp member with rfl | member
    · rfl
    · rcases List.mem_append.mp member with member | member
      · obtain ⟨inner, innerMember, rfl⟩ := List.mem_map.mp member
        simpa [Forest.at?] using belowHypothesis inner innerMember
      · rcases List.mem_cons.mp member with rfl | member
        · rfl
        · obtain ⟨next, nextMember, rfl⟩ := List.mem_map.mp member
          simpa [Forest.at?] using besideHypothesis next nextMember

/-- Visits come in the order of the moments of the forest. -/
theorem order (course : Course forest visits outcome) :
    (visits.map Visit.moment).Sublist forest.moments := by
  induction course with
  | empty => exact .slnil
  | typeStopped => exact (List.nil_sublist _).cons_cons _
  | typePassed _ _ ih =>
    have mapped := ih.map (Moment.within .beside)
    rw [List.map_cons, Visit.map_moment_within]
    exact mapped.cons_cons _
  | nodeStopped => exact (List.nil_sublist _).cons_cons _
  | nodeSkipped _ ih =>
    have mapped := ih.map (Moment.within .beside)
    rw [List.map_cons, List.map_cons, Visit.map_moment_within]
    exact ((mapped.cons_cons _).trans
      (List.sublist_append_right _ _)).cons_cons _
  | belowStopped _ ih =>
    have mapped := ih.map (Moment.within .below)
    rw [List.map_cons, Visit.map_moment_within]
    exact (mapped.trans (List.sublist_append_left _ _)).cons_cons _
  | nodePassed _ _ belowHypothesis besideHypothesis =>
    have inside := belowHypothesis.map (Moment.within .below)
    have outside := besideHypothesis.map (Moment.within .beside)
    rw [List.map_cons, List.map_append, List.map_cons,
      Visit.map_moment_within, Visit.map_moment_within]
    exact (inside.append (outside.cons_cons _)).cons_cons _

/-- In a walk that is not stopped, no answer is a stop. -/
theorem not_isStop (course : Course forest visits outcome)
    (passed : outcome = .ok ()) :
    ∀ visit ∈ visits, visit.isStop = false := by
  induction course with
  | empty => exact List.forall_mem_nil _
  | typeStopped => cases passed
  | typePassed notStop _ ih =>
    refine List.forall_mem_cons.mpr ⟨by simpa using notStop, ?_⟩
    simpa using ih passed
  | nodeStopped => cases passed
  | nodeSkipped _ ih =>
    refine List.forall_mem_cons.mpr ⟨rfl, ?_⟩
    refine List.forall_mem_cons.mpr ⟨rfl, ?_⟩
    simpa using ih passed
  | belowStopped => cases passed
  | nodePassed _ _ belowHypothesis besideHypothesis =>
    refine List.forall_mem_cons.mpr ⟨rfl, ?_⟩
    refine List.forall_mem_append.mpr ⟨?_, ?_⟩
    · simpa using belowHypothesis rfl
    · refine List.forall_mem_cons.mpr ⟨rfl, ?_⟩
      simpa using besideHypothesis passed

/-- A walk that is stopped has an answer that stops it. -/
theorem exists_stop (course : Course forest visits outcome)
    (stopped : outcome = .error .stopped) :
    ∃ place node, .enter place node .stop ∈ visits := by
  induction course with
  | empty => cases stopped
  | typeStopped => exact ⟨_, _, List.mem_cons_self⟩
  | typePassed _ _ ih =>
    obtain ⟨place, node, member⟩ := ih stopped
    exact ⟨.beside :: place, node, by simpa using member⟩
  | nodeStopped => exact ⟨_, _, List.mem_cons_self⟩
  | nodeSkipped _ ih =>
    obtain ⟨place, node, member⟩ := ih stopped
    exact ⟨.beside :: place, node, by simpa using member⟩
  | belowStopped _ ih =>
    obtain ⟨place, node, member⟩ := ih rfl
    exact ⟨.below :: place, node, by simpa using member⟩
  | nodePassed _ _ _ besideHypothesis =>
    obtain ⟨place, node, member⟩ := besideHypothesis stopped
    exact ⟨.beside :: place, node, by simpa using member⟩

/-- A visit that another one follows was not answered with a stop. -/
theorem silent (course : Course forest visits outcome) :
    visits.Pairwise fun visit _ => visit.isStop = false := by
  induction course with
  | empty => exact List.Pairwise.nil
  | typeStopped => exact List.pairwise_singleton _ _
  | typePassed notStop _ ih =>
    refine List.pairwise_cons.mpr ⟨?_, ?_⟩
    · intro _ _
      simpa using notStop
    · simpa [List.pairwise_map] using ih
  | nodeStopped => exact List.pairwise_singleton _ _
  | nodeSkipped _ ih =>
    refine List.pairwise_cons.mpr ⟨fun _ _ => rfl, ?_⟩
    refine List.pairwise_cons.mpr ⟨fun _ _ => rfl, ?_⟩
    simpa [List.pairwise_map] using ih
  | belowStopped _ ih =>
    refine List.pairwise_cons.mpr ⟨fun _ _ => rfl, ?_⟩
    simpa [List.pairwise_map] using ih
  | nodePassed inner _ belowHypothesis besideHypothesis =>
    refine List.pairwise_cons.mpr ⟨fun _ _ => rfl, ?_⟩
    refine List.pairwise_append.mpr ⟨?_, ?_, ?_⟩
    · simpa [List.pairwise_map] using belowHypothesis
    · refine List.pairwise_cons.mpr ⟨fun _ _ => rfl, ?_⟩
      simpa [List.pairwise_map] using besideHypothesis
    · intro visit member _ _
      obtain ⟨own, ownMember, rfl⟩ := List.mem_map.mp member
      rw [Visit.isStop_within]
      exact inner.not_isStop rfl own ownMember

theorem nothing_after_stop
    (course : Course forest visits outcome) {front rest : List Visit}
    {node : Node} (cut : visits = front ++ .enter place node .stop :: rest) :
    rest = [] := by
  have silent := course.silent
  rw [cut] at silent
  obtain ⟨_, fromStop, _⟩ := List.pairwise_append.mp silent
  cases rest with
  | nil => rfl
  | cons next _ =>
    have notStop := (List.pairwise_cons.mp fromStop).1 next List.mem_cons_self
    simp at notStop

/-- No visit comes after a stop in the order of the forest. -/
theorem not_stoppedBefore (course : Course forest visits outcome)
    {visit : Visit} (member : visit ∈ visits) :
    ¬StoppedBefore forest visits visit.moment := by
  rintro ⟨place, node, stopMember, before⟩
  obtain ⟨front, rest, cut⟩ := List.append_of_mem stopMember
  obtain rfl := course.nothing_after_stop cut
  have order := course.order
  rw [cut] at member order
  rw [List.map_append] at order
  rcases List.mem_append.mp member with member | member
  · have reversed : forest.Before visit.moment (.enter place) :=
      (Forest.pair_sublist_append (List.mem_map_of_mem member)
        List.mem_cons_self).trans order
    exact before.asymm reversed
  · rw [List.mem_singleton.mp member] at before
    exact before.asymm before

/-- What was entered stands below nodes that were all answered with
`proceed`. -/
theorem proceeded_above (course : Course forest visits outcome)
    {above rest : Place} {node : Node} {answer : Answer}
    (entered : .enter (above ++ .below :: rest) node answer ∈ visits) :
    ∃ node, .enter above node .proceed ∈ visits := by
  induction course generalizing above with
  | empty => cases entered
  | typeStopped => cases above <;> simp at entered
  | typePassed _ _ ih =>
    cases above with
    | nil => simp at entered
    | cons turn above =>
      obtain ⟨rfl, inner⟩ : turn = .beside ∧ _ := by
        simpa using entered
      obtain ⟨shown, proceeded⟩ := ih inner
      exact ⟨shown, by simpa using proceeded⟩
  | nodeStopped => cases above <;> simp at entered
  | nodeSkipped _ ih =>
    cases above with
    | nil => simp at entered
    | cons turn above =>
      obtain ⟨rfl, inner⟩ : turn = .beside ∧ _ := by
        simpa using entered
      obtain ⟨shown, proceeded⟩ := ih inner
      exact ⟨shown, by simpa using proceeded⟩
  | belowStopped _ ih =>
    cases above with
    | nil => exact ⟨_, List.mem_cons_self⟩
    | cons turn above =>
      obtain ⟨rfl, inner⟩ : turn = .below ∧ _ := by
        simpa using entered
      obtain ⟨shown, proceeded⟩ := ih inner
      exact ⟨shown, by simpa using proceeded⟩
  | nodePassed _ _ belowHypothesis besideHypothesis =>
    cases above with
    | nil => exact ⟨_, List.mem_cons_self⟩
    | cons turn above =>
      obtain ⟨rfl, inner⟩ | ⟨rfl, inner⟩ :
          turn = .below ∧ _ ∨ turn = .beside ∧ _ := by
        simpa using entered
      · obtain ⟨shown, proceeded⟩ := belowHypothesis inner
        exact ⟨shown, by simpa using proceeded⟩
      · obtain ⟨shown, proceeded⟩ := besideHypothesis inner
        exact ⟨shown, by simpa using proceeded⟩

/-- What was left had been entered, and the answer was no stop. -/
theorem entered_of_left (course : Course forest visits outcome) {node : Node}
    (left : .exit place node ∈ visits) :
    ∃ node answer, .enter place node answer ∈ visits ∧ answer ≠ .stop := by
  induction course generalizing place with
  | empty => cases left
  | typeStopped => simp at left
  | typePassed _ _ ih =>
    cases place with
    | nil => simp at left
    | cons turn place =>
      obtain ⟨rfl, inner⟩ : turn = .beside ∧ _ := by simpa using left
      obtain ⟨shown, answer, entered, passed⟩ := ih inner
      exact ⟨shown, answer, by simpa using entered, passed⟩
  | nodeStopped => simp at left
  | nodeSkipped _ ih =>
    cases place with
    | nil => exact ⟨_, _, List.mem_cons_self, by decide⟩
    | cons turn place =>
      obtain ⟨rfl, inner⟩ : turn = .beside ∧ _ := by simpa using left
      obtain ⟨shown, answer, entered, passed⟩ := ih inner
      exact ⟨shown, answer, by simpa using entered, passed⟩
  | belowStopped _ ih =>
    cases place with
    | nil => exact ⟨_, _, List.mem_cons_self, by decide⟩
    | cons turn place =>
      obtain ⟨rfl, inner⟩ : turn = .below ∧ _ := by simpa using left
      obtain ⟨shown, answer, entered, passed⟩ := ih inner
      exact ⟨shown, answer, by simpa using entered, passed⟩
  | nodePassed _ _ belowHypothesis besideHypothesis =>
    cases place with
    | nil => exact ⟨_, _, List.mem_cons_self, by decide⟩
    | cons turn place =>
      obtain ⟨rfl, inner⟩ | ⟨rfl, inner⟩ :
          turn = .below ∧ _ ∨ turn = .beside ∧ _ := by
        simpa using left
      · obtain ⟨shown, answer, entered, passed⟩ := belowHypothesis inner
        exact ⟨shown, answer, by simpa using entered, passed⟩
      · obtain ⟨shown, answer, entered, passed⟩ := besideHypothesis inner
        exact ⟨shown, answer, by simpa using entered, passed⟩

/-- A part of a forest with the visits to it, in the whole forest with all
visits. -/
structure Holds
    (turn : Turn) (part whole : Forest) (inside all : List Visit) : Prop where
  moments : ∀ {moment}, Moment.within turn moment ∈ whole.moments →
    moment ∈ part.moments
  before : ∀ {earlier later}, part.Before earlier later →
    whole.Before (earlier.within turn) (later.within turn)
  visits : ∀ visit, Visit.within turn visit ∈ all ↔ visit ∈ inside

theorem holds_below {shown : Node} {proper : shown.isType = false}
    (visits : ∀ visit, Visit.within .below visit ∈ all ↔ visit ∈ inside) :
    Holds .below below (.node shown proper below beside) inside all where
  moments := (Forest.below_mem_moments _).mp
  before := Forest.Before.below
  visits := visits

theorem holds_beside {shown : Node} {proper : shown.isType = false}
    (visits : ∀ visit, Visit.within .beside visit ∈ all ↔ visit ∈ inside) :
    Holds .beside beside (.node shown proper below beside) inside all where
  moments := (Forest.beside_mem_moments _).mp
  before := Forest.Before.beside
  visits := visits

theorem holds_besideType {type : TypeName} {beside : Forest}
    (visits : ∀ visit, Visit.within .beside visit ∈ all ↔ visit ∈ inside) :
    Holds .beside beside (.type type beside) inside all where
  moments := (Forest.besideType_mem_moments _).mp
  before := Forest.Before.besideType
  visits := visits

/-- A stop before a moment of a part comes before it in the whole. -/
theorem Holds.stoppedBefore
    {turn : Turn} {moment : Moment} (holds : Holds turn part whole inside all)
    (stopped : StoppedBefore part inside moment) :
    StoppedBefore whole all (moment.within turn) := by
  obtain ⟨place, node, member, before⟩ := stopped
  exact ⟨turn :: place, node, (holds.visits _).mpr member, holds.before before⟩

/-- What the answers allow is entered in the whole when it is in a part. -/
theorem Holds.entered {turn : Turn} (holds : Holds turn part whole inside all)
    (enters : .enter place ∈ part.moments →
      (∀ above, Place.IsAbove above place →
        ∃ node, .enter above node .proceed ∈ inside) →
      ¬StoppedBefore part inside (.enter place) →
      ∃ node answer, .enter place node answer ∈ inside)
    (known : .enter (turn :: place) ∈ whole.moments)
    (proceeded : ∀ above, Place.IsAbove above (turn :: place) →
      ∃ node, .enter above node .proceed ∈ all)
    (notStopped : ¬StoppedBefore whole all (.enter (turn :: place))) :
    ∃ node answer, .enter (turn :: place) node answer ∈ all := by
  have above : ∀ above, Place.IsAbove above place →
      ∃ node, .enter above node .proceed ∈ inside := by
    rintro above ⟨rest, way⟩
    obtain ⟨node, member⟩ :=
      proceeded (turn :: above) ⟨rest, congrArg (turn :: ·) way⟩
    exact ⟨node, (holds.visits (.enter above node .proceed)).mp member⟩
  obtain ⟨node, answer, entered⟩ :=
    enters (holds.moments (by exact known)) above
      fun stopped => notStopped (holds.stoppedBefore stopped)
  exact ⟨node, answer, (holds.visits (.enter place node answer)).mpr entered⟩

/-- What was entered is left in the whole when it is in a part. -/
theorem Holds.left {turn : Turn} (holds : Holds turn part whole inside all)
    (leaves : .exit place ∈ part.moments →
      (∃ node answer, .enter place node answer ∈ inside ∧ answer ≠ .stop) →
      ¬StoppedBefore part inside (.exit place) →
      ∃ node, .exit place node ∈ inside)
    (known : .exit (turn :: place) ∈ whole.moments)
    (entered : ∃ node answer,
      .enter (turn :: place) node answer ∈ all ∧ answer ≠ .stop)
    (notStopped : ¬StoppedBefore whole all (.exit (turn :: place))) :
    ∃ node, .exit (turn :: place) node ∈ all := by
  obtain ⟨shown, answer, member, passed⟩ := entered
  obtain ⟨node, left⟩ :=
    leaves (holds.moments (by exact known))
      ⟨shown, answer, (holds.visits (.enter place shown answer)).mp member,
        passed⟩
      fun stopped => notStopped (holds.stoppedBefore stopped)
  exact ⟨node, (holds.visits (.exit place node)).mpr left⟩

/-- A stop below a node comes before the node is left and before whatever is
beside it. -/
theorem stoppedBefore_of_below
    {shown : Node} {proper : shown.isType = false} {inside : List Visit}
    {moment : Moment} (inner : Course below inside (.error .stopped))
    (later : moment ∈
      .exit [] :: beside.moments.map (.within .beside)) :
    StoppedBefore (.node shown proper below beside)
      (.enter [] shown .proceed :: inside.map (.within .below)) moment := by
  obtain ⟨place, node, member⟩ := inner.exists_stop rfl
  have stopMoment : .enter place ∈ below.moments :=
    inner.order.subset (List.mem_map_of_mem member)
  have mapped : Moment.enter (.below :: place) ∈
      below.moments.map (Moment.within .below) :=
    List.mem_map.mpr ⟨_, stopMoment, rfl⟩
  exact ⟨.below :: place, node, by simpa using member,
    (Forest.pair_sublist_append mapped later).cons _⟩

/-- What no answer cuts off is entered. -/
theorem entered_of_proceeded (course : Course forest visits outcome)
    (known : .enter place ∈ forest.moments)
    (proceeded : ∀ above, Place.IsAbove above place →
      ∃ node, .enter above node .proceed ∈ visits)
    (notStopped : ¬StoppedBefore forest visits (.enter place)) :
    ∃ node answer, .enter place node answer ∈ visits := by
  induction course generalizing place with
  | empty => cases known
  | typeStopped =>
    cases place with
    | nil => exact ⟨_, _, List.mem_cons_self⟩
    | cons turn place =>
      exact absurd ⟨_, _, List.mem_cons_self,
        Forest.before_enter_nil _ known rfl⟩ notStopped
  | typePassed _ _ ih =>
    cases place with
    | nil => exact ⟨_, _, List.mem_cons_self⟩
    | cons turn place =>
      obtain ⟨rfl, _⟩ := Forest.exists_besideType known rfl
      refine (holds_besideType fun visit => ?_).entered
        ih known proceeded notStopped
      simp
  | nodeStopped =>
    cases place with
    | nil => exact ⟨_, _, List.mem_cons_self⟩
    | cons turn place =>
      exact absurd ⟨_, _, List.mem_cons_self,
        Forest.before_enter_nil _ known rfl⟩ notStopped
  -- a place below a skipped node has a node above it that did not proceed
  | nodeSkipped _ ih =>
    match place with
    | [] => exact ⟨_, _, List.mem_cons_self⟩
    | .below :: place =>
      obtain ⟨node, member⟩ := proceeded [] ⟨place, rfl⟩
      simp at member
    | .beside :: place =>
      refine (holds_beside fun visit => ?_).entered ih
        known proceeded notStopped
      simp
  | belowStopped inner ih =>
    match place with
    | [] => exact ⟨_, _, List.mem_cons_self⟩
    | .below :: place =>
      refine (holds_below fun visit => ?_).entered ih
        known proceeded notStopped
      simp
    | .beside :: place =>
      obtain ⟨next, nextMember, same, _⟩ := Forest.exists_beside known rfl
      refine absurd (inner.stoppedBefore_of_below ?_) notStopped
      exact List.mem_cons_of_mem _
        (List.mem_map.mpr ⟨next, nextMember, same⟩)
  | nodePassed _ _ belowHypothesis besideHypothesis =>
    match place with
    | [] => exact ⟨_, _, List.mem_cons_self⟩
    | .below :: place =>
      refine (holds_below fun visit => ?_).entered belowHypothesis
        known proceeded notStopped
      simp
    | .beside :: place =>
      refine (holds_beside fun visit => ?_).entered besideHypothesis
        known proceeded notStopped
      simp

/-- What was entered is left, unless a stop comes before that. -/
theorem left_of_entered (course : Course forest visits outcome)
    (known : .exit place ∈ forest.moments)
    (entered : ∃ node answer,
      .enter place node answer ∈ visits ∧ answer ≠ .stop)
    (notStopped : ¬StoppedBefore forest visits (.exit place)) :
    ∃ node, .exit place node ∈ visits := by
  induction course generalizing place with
  | empty => cases known
  | typeStopped =>
    obtain ⟨node, answer, member, passed⟩ := entered
    cases List.mem_singleton.mp member
    exact absurd rfl passed
  | typePassed _ _ ih =>
    cases place with
    | nil =>
      exact absurd known Forest.exit_nil_notMem_type
    | cons turn place =>
      obtain ⟨rfl, _⟩ := Forest.exists_besideType known rfl
      refine (holds_besideType fun visit => ?_).left
        ih known entered notStopped
      simp
  | nodeStopped =>
    obtain ⟨node, answer, member, passed⟩ := entered
    cases List.mem_singleton.mp member
    exact absurd rfl passed
  | nodeSkipped _ ih =>
    match place with
    | [] => exact ⟨_, List.mem_cons_of_mem _ List.mem_cons_self⟩
    | .below :: place =>
      obtain ⟨node, answer, member, passed⟩ := entered
      simp at member
    | .beside :: place =>
      refine (holds_beside fun visit => ?_).left ih
        known entered notStopped
      simp
  | belowStopped inner ih =>
    match place with
    | [] =>
      exact absurd
        (inner.stoppedBefore_of_below List.mem_cons_self) notStopped
    | .below :: place =>
      refine (holds_below fun visit => ?_).left ih
        known entered notStopped
      simp
    | .beside :: place =>
      obtain ⟨node, answer, member, passed⟩ := entered
      simp at member
  | nodePassed _ _ belowHypothesis besideHypothesis =>
    match place with
    | [] =>
      exact ⟨_, List.mem_cons_of_mem _
        (List.mem_append_right _ List.mem_cons_self)⟩
    | .below :: place =>
      refine (holds_below fun visit => ?_).left belowHypothesis
        known entered notStopped
      simp
    | .beside :: place =>
      refine (holds_beside fun visit => ?_).left besideHypothesis
        known entered notStopped
      simp

end Course

end PapyrusScript
