import PapyrusScript.Proofs.Spans.Script
import PapyrusScript.Proofs.Walk.Ascent
import PapyrusScript.Proofs.Walk.Course

/-!
# What a walk shows, and in which order

Whatever a visitor answers, a walk shows it the nodes of a script in
depth-first order.  A node is entered exactly when all nodes above it were
answered with `proceed` and no stop came before, it is left when it was
entered and nothing stopped the walk in between, and no call follows a stop.

A walk shows the imports of a script before its members, and the getter of a
property before its setter, wherever they stand in the source.  Everything
else it shows in the order of the source.  So a walk that is never cut short
goes through the source in order exactly if no import stands behind a member
and no getter behind its setter.  What a state hoists counts as declared in
front of it, but each such declaration is reported.
-/

namespace PapyrusScript

/-! ## What a walk promises to its visitor -/

/-- The moments of a forest stand in depth-first order: each node is entered
once, left once unless it is a type, and holds what is below it. -/
structure Forest.DepthFirst (forest : Forest) : Prop where
  once : forest.moments.Nodup
  enter_iff : ∀ place,
    Moment.enter place ∈ forest.moments ↔ (forest.at? place).isSome
  exit_iff : ∀ place,
    Moment.exit place ∈ forest.moments ↔
      ∃ node, forest.at? place = some node ∧ node.isType = false
  between : ∀ {above moment}, moment ∈ forest.moments →
    Place.IsAbove above moment.place →
      forest.Before (.enter above) moment ∧ forest.Before moment (.exit above)
  sideways : ∀ {place way rest moment next}, moment ∈ forest.moments →
    moment.place = place ++ way ∧ way.head? ≠ some Turn.beside →
      next ∈ forest.moments → next.place = place ++ .beside :: rest →
        forest.Before moment next

theorem Forest.depthFirst (forest : Forest) : forest.DepthFirst where
  once := forest.moments_nodup
  enter_iff := forest.enter_mem_moments_iff
  exit_iff := forest.exit_mem_moments_iff
  between := forest.between_of_isAbove
  sideways := forest.before_of_beside

/-- The visits of a walk keep to what the visitor answers. -/
structure Contract
    (forest : Forest) (visits : List Visit)
    (outcome : Except Stopped Unit) : Prop where
  shown : ∀ visit ∈ visits, forest.at? visit.moment.place = some visit.node
  order : (visits.map Visit.moment).Sublist forest.moments
  enter_iff : ∀ {place node}, forest.at? place = some node →
    ((∃ answer, .enter place node answer ∈ visits) ↔
      (∀ above, Place.IsAbove above place →
        ∃ node, .enter above node .proceed ∈ visits) ∧
      ¬StoppedBefore forest visits (.enter place))
  exit_iff : ∀ {place node}, forest.at? place = some node →
    node.isType = false →
      (.exit place node ∈ visits ↔
        (∃ answer, .enter place node answer ∈ visits ∧ answer ≠ .stop) ∧
        ¬StoppedBefore forest visits (.exit place))
  silence : ∀ {front place node rest},
    visits = front ++ .enter place node .stop :: rest → rest = []
  stopped_iff : outcome = .error .stopped ↔
    ∃ place node, .enter place node .stop ∈ visits

namespace Course

variable
  {forest : Forest} {visits : List Visit} {outcome : Except Stopped Unit}

theorem node_unique
    (course : Course forest visits outcome) {place : Place} {node : Node}
    (found : forest.at? place = some node) {visit : Visit}
    (member : visit ∈ visits) (here : visit.moment.place = place) :
    visit.node = node := by
  have shown := course.shown visit member
  rw [here, found] at shown
  exact (Option.some.inj shown).symm

/-- Every course through a forest keeps to the answers. -/
theorem contract (course : Course forest visits outcome) :
    Contract forest visits outcome where
  shown := course.shown
  order := course.order
  enter_iff := by
    intro place node found
    constructor
    · rintro ⟨answer, member⟩
      refine ⟨?_, course.not_stoppedBefore member⟩
      rintro above ⟨rest, rfl⟩
      exact course.proceeded_above member
    · rintro ⟨proceeded, notStopped⟩
      have known : Moment.enter place ∈ forest.moments :=
        (forest.enter_mem_moments_iff place).mpr (by rw [found]; rfl)
      obtain ⟨shown, answer, member⟩ :=
        course.entered_of_proceeded known proceeded notStopped
      obtain rfl : shown = node := course.node_unique found member rfl
      exact ⟨answer, member⟩
  exit_iff := by
    intro place node found notType
    constructor
    · intro member
      refine ⟨?_, course.not_stoppedBefore member⟩
      obtain ⟨shown, answer, entered, passed⟩ := course.entered_of_left member
      obtain rfl : shown = node := course.node_unique found entered rfl
      exact ⟨answer, entered, passed⟩
    · rintro ⟨⟨answer, entered, passed⟩, notStopped⟩
      have known : Moment.exit place ∈ forest.moments :=
        (forest.exit_mem_moments_iff place).mpr ⟨node, found, notType⟩
      obtain ⟨shown, left⟩ := course.left_of_entered known
        ⟨node, answer, entered, passed⟩ notStopped
      obtain rfl : shown = node := course.node_unique found left rfl
      exact left
  silence := course.nothing_after_stop
  stopped_iff := by
    constructor
    · exact course.exists_stop
    · rintro ⟨place, node, member⟩
      rcases outcome with ⟨⟨⟩⟩ | ⟨⟨⟩⟩
      · rfl
      · have passed := course.not_isStop rfl _ member
        simp at passed

end Course

/-- A walk through a script shows a visitor, whatever it answers, the nodes
in depth-first order and keeps to its answers. -/
theorem walkScript_keeps_contract
    {σ : Type} (visitor : Visitor σ) (script : Script) (state : σ) :
    script.forest.DepthFirst ∧
      ∃ visits,
        (visitor.recording.walkScript script).run.run (state, []) =
          (((visitor.walkScript script).run.run state).1,
            ((visitor.walkScript script).run.run state).2,
            visits.map Visit.call) ∧
        Contract script.forest visits
          ((visitor.walkScript script).run.run state).1 := by
  refine ⟨script.forest.depthFirst, ?_⟩
  rw [Visitor.walkScript_eq, Visitor.walkScript_eq]
  obtain ⟨visits, recorded, course⟩ :=
    visitor.walkForest_recording script.forest state []
  exact ⟨visits, recorded, course.contract⟩

/-! ## When a walk goes through the source in order -/

section Walks

open Cursor

variable {σ : Type}

/-! ## What an undisturbed walk enters -/

def Call.entered? : Call → Option Node
  | .enter node _ => some node
  | .exit _ => none

/-- The visitor always wants to go on. -/
def Visitor.Proceeds (visitor : Visitor σ) : Prop :=
  ∀ node state, ((visitor.enter node).run state).1 = .proceed

namespace Visitor

/-- The places where the nodes start that a walk enters, in the order of the
calls. -/
def enteredStarts
    (visitor : Visitor σ) (script : Script) (state : σ) : List Position :=
  let walked := (visitor.recording.walkScript script).run.run (state, [])
  (walked.2.2.filterMap Call.entered?).map fun node => node.span.start

/-- A walk that is never cut short enters all nodes of a forest in order. -/
theorem walkForest_enters {visitor : Visitor σ} (proceeds : visitor.Proceeds)
    (forest : Forest) (state : σ) (calls : List Call) :
    ∃ final more,
      (visitor.recording.walkForest forest).run.run (state, calls) =
        (.ok (), final, calls ++ more) ∧
      more.filterMap Call.entered? = forest.nodes := by
  induction forest generalizing state calls with
  | empty => exact ⟨state, [], by rw [List.append_nil]; rfl, rfl⟩
  | type shown beside ih =>
    have answer := proceeds (.type shown) state
    obtain ⟨final, more, walked, entered⟩ := ih
      ((visitor.enter (.type shown)).run state).2
      (calls ++ [.enter (.type shown) .proceed])
    refine ⟨final, .enter (.type shown) .proceed :: more, ?_, ?_⟩
    · rw [walkForest, run_bind, run_walkType, run_enter_recording, answer]
      simpa using walked
    · simp [Call.entered?, Forest.nodes, entered]
  | node shown proper below beside belowHypothesis besideHypothesis =>
    have answer := proceeds shown state
    obtain ⟨middle, inside, walkedInside, enteredInside⟩ :=
      belowHypothesis ((visitor.enter shown).run state).2
        (calls ++ [.enter shown .proceed])
    obtain ⟨final, more, walked, entered⟩ := besideHypothesis
      ((visitor.exit shown).run middle).2
      (calls ++ [.enter shown .proceed] ++ inside ++ [.exit shown])
    refine ⟨final, .enter shown .proceed :: inside ++ .exit shown :: more,
      ?_, ?_⟩
    · rw [walkForest, run_bind, run_visit, run_enter_recording, answer]
      simp only [walkedInside, run_exit_recording]
      simpa using walked
    · have left : (Call.exit shown :: more).filterMap Call.entered? =
          beside.nodes := entered
      simp [Call.entered?, Forest.nodes, enteredInside, left]

theorem enteredStarts_eq {visitor : Visitor σ} (proceeds : visitor.Proceeds)
    (script : Script) (state : σ) :
    visitor.enteredStarts script state = script.forest.starts := by
  obtain ⟨final, more, walked, entered⟩ :=
    walkForest_enters proceeds script.forest state []
  rw [enteredStarts, walkScript_eq, walked, Forest.starts, ← entered]
  rfl

end Visitor

/-! ## Scripts in the order of their walk -/

/-- No import stands behind a member, and no getter behind its setter. -/
structure Script.InFileOrder (script : Script) : Prop where
  imports : ∀ line ∈ script.imports, ∀ member ∈ script.members,
    line.span.start ≤ member.span.start
  members : ∀ member ∈ script.members, member.InFileOrder

/-- The forest of a member is one tree, which starts where the member does. -/
theorem Member.exists_tree (member : Member) :
    ∃ shown below, ∃ proper : shown.isType = false,
      member.forest = .tree shown below proper ∧
        shown.span.start = member.span.start := by
  cases member <;> exact ⟨_, _, rfl, rfl, rfl⟩

/-- The first node of a member starts where the member does, and no other one
in front of it. -/
theorem Member.starts_forest
    {member : Member} (inOrder : member.forest.starts.Pairwise (· ≤ ·)) :
    member.span.start ∈ member.forest.starts ∧
      ∀ start ∈ member.forest.starts, member.span.start ≤ start := by
  obtain ⟨shown, below, proper, whole, own⟩ := member.exists_tree
  rw [whole, Forest.starts_tree, own] at inOrder ⊢
  refine ⟨List.mem_cons_self, ?_⟩
  intro start isStart
  rcases List.mem_cons.mp isStart with rfl | later
  · exact le_refl _
  · exact (List.pairwise_cons.mp inOrder).1 start later

theorem Script.starts_forest (script : Script) :
    script.forest.starts =
      script.span.start ::
        ((Forest.ofList Import.forest script.imports).starts ++
          (Forest.ofList Member.forest script.members).starts) := by
  rw [Script.forest, Forest.starts_tree, Forest.starts_append]
  rfl

theorem Import.starts_forest (line : Import) :
    line.forest.starts = [line.span.start] :=
  rfl

/-- A walk in the order of the source shows no getter behind its setter. -/
theorem PropertySource.inFileOrder_of_pairwise {source : PropertySource}
    (inOrder : source.forest.starts.Pairwise (· ≤ ·)) :
    source.InFileOrder := by
  match source with
  | .auto _ => trivial
  | .readOnly _ => trivial
  | .full none _ => trivial
  | .full (some _) none => trivial
  | .full (some getter) (some setter) =>
    rw [PropertySource.forest, Forest.starts_append] at inOrder
    apply (List.pairwise_append.mp inOrder).2.2
    · rw [Forest.ofOption, Function.forest, Forest.starts_tree]
      exact List.mem_cons_self
    · rw [Forest.ofOption, Function.forest, Forest.starts_tree]
      exact List.mem_cons_self

theorem Member.inFileOrder_of_pairwise
    {member : Member} (inOrder : member.forest.starts.Pairwise (· ≤ ·)) :
    member.InFileOrder := by
  rcases member with node | node | node | node | node
  · trivial
  · rw [Member.forest, Property.forest, Forest.starts_tree,
      Forest.starts_append] at inOrder
    have parts := (List.pairwise_cons.mp inOrder).2
    exact PropertySource.inFileOrder_of_pairwise
      (List.pairwise_append.mp parts).2.1
  · trivial
  · trivial
  · trivial

/-- A walk in the order of the source is one of a script in the order of its
walk. -/
theorem Script.inFileOrder_of_pairwise
    {script : Script} (inOrder : script.forest.starts.Pairwise (· ≤ ·)) :
    script.InFileOrder := by
  rw [Script.starts_forest] at inOrder
  obtain ⟨_, members, across⟩ :=
    List.pairwise_append.mp (List.pairwise_cons.mp inOrder).2
  have ordered (member : Member) (isMember : member ∈ script.members) :
      member.forest.starts.Pairwise (· ≤ ·) :=
    members.sublist (Forest.starts_sublist_ofList _ isMember)
  refine ⟨?_, fun member isMember =>
    Member.inFileOrder_of_pairwise (ordered member isMember)⟩
  intro line isLine member isMember
  apply across
  · refine Forest.mem_starts_ofList.mpr ⟨line, isLine, ?_⟩
    exact List.mem_singleton_self _
  · exact Forest.mem_starts_ofList.mpr ⟨member, isMember,
      (Member.starts_forest (ordered member isMember)).1⟩

/-- A script in the order of its walk is walked in the order of the source. -/
theorem pairwise_of_inFileOrder {source : String}
    (clean : (Parsed.ofText source).diagnostics = [])
    (inOrder : (Parsed.ofText source).script.InFileOrder) :
    (Parsed.ofText source).script.forest.starts.Pairwise (· ≤ ·) := by
  obtain ⟨_, nested, disjoint, ordered⟩ := script_ofText_arranged source
  have imports := Script.imports_ascend nested
  have members := Script.members_ascend nested (disjoint clean) ordered
    inOrder.members
  rw [Script.starts_forest]
  refine List.pairwise_cons.mpr ⟨?_, List.pairwise_append.mpr
    ⟨imports.inOrder, members.inOrder, ?_⟩⟩
  · intro start isStart
    rcases List.mem_append.mp isStart with inImports | inMembers
    · exact (imports.within start inImports).1
    · exact (members.within start inMembers).1
  · intro first isFirst second isSecond
    obtain ⟨line, isLine, here⟩ := Forest.mem_starts_ofList.mp isFirst
    obtain ⟨member, isMember, there⟩ := Forest.mem_starts_ofList.mp isSecond
    rw [Import.starts_forest, List.mem_singleton] at here
    have own := members.inOrder.sublist
      (Forest.starts_sublist_ofList _ isMember)
    have behind := (Member.starts_forest own).2 second there
    rw [here]
    exact le_trans (inOrder.imports line isLine member isMember) behind

/-- In a script without errors, a walk that is never cut short goes through
the source in order exactly if no import stands behind a member and no getter
behind its setter. -/
theorem walk_ascends_iff
    {visitor : Visitor σ} (proceeds : visitor.Proceeds) (state : σ)
    {source : String} (clean : (Parsed.ofText source).diagnostics = []) :
    (visitor.enteredStarts (Parsed.ofText source).script
        state).Pairwise (· ≤ ·) ↔
      (Parsed.ofText source).script.InFileOrder := by
  rw [Visitor.enteredStarts_eq proceeds]
  exact ⟨Script.inFileOrder_of_pairwise, pairwise_of_inFileOrder clean⟩

/-! ## An import behind a variable -/

def Visitor.onwards : Visitor Unit where
  enter _ := pure .proceed
  exit _ := pure ()

/-- A script whose import, getter and setter stand in the order of the
walk. -/
def Script.wellOrdered : String :=
  "Scriptname X\nImport Z\nInt Property P\nInt Function Get()\nreturn 1\n" ++
    "EndFunction\nFunction Set(Int v)\nEndFunction\nEndProperty\n"

/-- The walk goes through the source in order. -/
theorem wellOrdered_walk_ascends :
    Visitor.onwards.Proceeds ∧
      (Parsed.ofText Script.wellOrdered).diagnostics = [] ∧
        ((Visitor.onwards.enteredStarts
            (Parsed.ofText Script.wellOrdered).script ()).Pairwise (· ≤ ·) ↔
          (Parsed.ofText Script.wellOrdered).script.InFileOrder) ∧
          (Visitor.onwards.enteredStarts
            (Parsed.ofText Script.wellOrdered).script ()).length = 11 := by
  have proceeds : Visitor.onwards.Proceeds := fun _ _ => rfl
  have accepted : (Parsed.ofText Script.wellOrdered).diagnostics = [] := by
    decide +kernel
  exact ⟨proceeds, accepted, walk_ascends_iff proceeds () accepted,
    by decide +kernel⟩

/-- A script whose import stands behind its only member. -/
def Script.lateImport : String := "Scriptname X\nInt y\nImport Z\n"

/-- The import is walked in front of the variable, but starts behind it. -/
theorem lateImport_walk_descends :
    Visitor.onwards.Proceeds ∧
      (Parsed.ofText Script.lateImport).diagnostics = [] ∧
        Visitor.onwards.enteredStarts (Parsed.ofText Script.lateImport).script
            () = [⟨1, 1⟩, ⟨3, 1⟩, ⟨2, 1⟩, ⟨2, 1⟩] ∧
          ¬(Visitor.onwards.enteredStarts
            (Parsed.ofText Script.lateImport).script ()).Pairwise (· ≤ ·) :=
  ⟨fun _ _ => rfl, by decide, by decide, by decide⟩

end Walks

end PapyrusScript
