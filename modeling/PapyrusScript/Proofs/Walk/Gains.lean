import PapyrusScript.Proofs.Walk.Course
import PapyrusScript.Summary

/-!
# What a walk adds to a summary

The counting visitor never cuts a walk short, so it enters and leaves all the
nodes of a forest, and a walk is a fold over these calls.  What the fold adds
does not depend on what was counted before: each node gains a bit, the gains
of a forest are joined, and only the depth is passed down.

A node that is left was entered before, so a conditional or loop is left at a
depth above the one at which its forest began.
-/

namespace PapyrusScript

/-- Whether bodies that hang below a node lie one level deeper. -/
def Node.deepens : Node → Bool
  | .statement (.conditional _ _ _) => true
  | .statement (.loop _ _ _) => true
  | _ => false

def Expression.target? : Expression → Option String
  | .call callee _ _ => some (Summary.callName callee)
  | _ => none

/-! ## The calls of an undisturbed walk -/

/-- The calls of a walk that is never cut short. -/
def Forest.calls : Forest → List Call
  | .empty => []
  | .type shown beside => .enter (.type shown) .proceed :: beside.calls
  | .node shown _ below beside =>
    .enter shown .proceed :: (below.calls ++ .exit shown :: beside.calls)

namespace Summary

def Progress.heed (progress : Progress) : Call → Progress
  | .enter node _ => progress.enter node
  | .exit node => progress.exit node

/-- What calls in a row do to a summary in the making. -/
def Progress.follow (progress : Progress) (calls : List Call) : Progress :=
  calls.foldl Progress.heed progress

@[simp]
theorem Progress.follow_nil (progress : Progress) :
    progress.follow [] = progress :=
  rfl

@[simp]
theorem Progress.follow_cons
    (progress : Progress) (call : Call) (calls : List Call) :
    progress.follow (call :: calls) = (progress.heed call).follow calls :=
  rfl

@[simp]
theorem Progress.follow_append (progress : Progress) (front back : List Call) :
    progress.follow (front ++ back) = (progress.follow front).follow back :=
  List.foldl_append

theorem run_enter (node : Node) (progress : Progress) :
    (visitor.enter node).run progress = (.proceed, progress.enter node) :=
  rfl

theorem run_exit (node : Node) (progress : Progress) :
    ((visitor.exit node).run progress).2 = progress.exit node :=
  rfl

/-- The counting visitor is shown every node of a forest. -/
theorem walkForest_visitor
    (forest : Forest) (progress : Progress) (calls : List Call) :
    (visitor.recording.walkForest forest).run.run (progress, calls) =
      (.ok (), progress.follow forest.calls, calls ++ forest.calls) := by
  induction forest generalizing progress calls with
  | empty =>
    rw [Forest.calls, List.append_nil]
    rfl
  | type shown beside ih =>
    rw [Visitor.walkForest, Visitor.run_bind, Visitor.run_walkType,
      Visitor.run_enter_recording, run_enter]
    simp [ih, Forest.calls, Progress.heed]
  | node shown proper below beside belowHypothesis besideHypothesis =>
    rw [Visitor.walkForest, Visitor.run_bind, Visitor.run_visit,
      Visitor.run_enter_recording, run_enter]
    simp [belowHypothesis, besideHypothesis, Forest.calls,
      Visitor.run_exit_recording, run_exit, Progress.heed]

/-! ## The depth -/

def Progress.StaysAbove (progress : Progress) : List Call → Prop
  | [] => True
  | .enter node _ :: rest => (progress.enter node).StaysAbove rest
  | .exit node :: rest =>
    (node.deepens = true → 0 < progress.depth) ∧
      (progress.exit node).StaysAbove rest

theorem Progress.staysAbove_append
    (progress : Progress) (front back : List Call) :
    progress.StaysAbove (front ++ back) ↔
      progress.StaysAbove front ∧ (progress.follow front).StaysAbove back := by
  induction front generalizing progress with
  | nil => simp [StaysAbove]
  | cons call rest ih =>
    cases call with
    | enter node answer =>
      simp [StaysAbove, heed, ih]
    | exit node =>
      simp [StaysAbove, heed, ih, and_assoc]

/-- A conditional or loop is left at a depth above zero. -/
theorem Progress.StaysAbove.depth_pos
    {progress : Progress} {front back : List Call} {node : Node}
    (stays : progress.StaysAbove (front ++ .exit node :: back))
    (deepens : node.deepens = true) :
    0 < (progress.follow front).depth :=
  ((progress.staysAbove_append front _).mp stays).2.1 deepens

theorem Progress.depth_enter (progress : Progress) (node : Node) :
    (progress.enter node).depth =
      if node.deepens then progress.depth + 1 else progress.depth := by
  cases node with
  | statement node => cases node <;> rfl
  | expression node => cases node <;> rfl
  | _ => rfl

theorem Progress.depth_exit (progress : Progress) (node : Node) :
    (progress.exit node).depth =
      if node.deepens then progress.depth - 1 else progress.depth := by
  cases node with
  | statement node => cases node <;> rfl
  | _ => rfl

/-- The calls of a forest lead back to the depth where they began. -/
theorem Progress.depth_follow_calls (progress : Progress) (forest : Forest) :
    (progress.follow forest.calls).depth = progress.depth := by
  induction forest generalizing progress with
  | empty => rfl
  | type shown beside ih =>
    rw [Forest.calls, follow_cons, ih]
    rfl
  | node shown proper below beside belowHypothesis besideHypothesis =>
    rw [Forest.calls, follow_cons, follow_append, follow_cons, besideHypothesis,
      heed, heed, depth_exit, belowHypothesis, depth_enter]
    split
    · rfl
    · rfl

/-- The calls of a forest never lower the depth from zero. -/
theorem Progress.staysAbove_calls (progress : Progress) (forest : Forest) :
    progress.StaysAbove forest.calls := by
  induction forest generalizing progress with
  | empty => trivial
  | type shown beside ih =>
    exact ih _
  | node shown proper below beside belowHypothesis besideHypothesis =>
    rw [Forest.calls, StaysAbove, staysAbove_append]
    refine ⟨belowHypothesis _, ?_, besideHypothesis _⟩
    intro deepens
    rw [depth_follow_calls, depth_enter, if_pos deepens]
    exact Nat.succ_pos _

/-! ## Gains -/

/-- What a walk adds to a summary. -/
structure Gain where
  imports : Nat := 0
  scriptVariables : Nat := 0
  properties : Nat := 0
  functions : Nat := 0
  events : Nat := 0
  states : Nat := 0
  statements : List Statement := []
  expressions : Nat := 0
  targets : List String := []
  nesting : Nat := 0

namespace Gain

def append (gain more : Gain) : Gain where
  imports := gain.imports + more.imports
  scriptVariables := gain.scriptVariables + more.scriptVariables
  properties := gain.properties + more.properties
  functions := gain.functions + more.functions
  events := gain.events + more.events
  states := gain.states + more.states
  statements := gain.statements ++ more.statements
  expressions := gain.expressions + more.expressions
  targets := gain.targets ++ more.targets
  nesting := max gain.nesting more.nesting

instance : Append Gain := ⟨append⟩

theorem append_def (gain more : Gain) : gain ++ more = gain.append more := rfl

@[simp]
theorem empty_append (gain : Gain) : ({} : Gain) ++ gain = gain := by
  simp [append_def, append]

@[simp]
theorem append_empty (gain : Gain) : gain ++ ({} : Gain) = gain := by
  simp [append_def, append]

theorem append_assoc (gain more most : Gain) :
    gain ++ more ++ most = gain ++ (more ++ most) := by
  simp [append_def, append, Nat.add_assoc, Nat.max_assoc]

/-- A gain below a node. -/
def below (gain : Gain) (node : Node) : Gain :=
  if node.deepens then { gain with nesting := gain.nesting + 1 } else gain

def ofNode : Node → Gain
  | .importLine _ => { imports := 1 }
  | .variable _ => { scriptVariables := 1 }
  | .property _ => { properties := 1 }
  | .function _ => { functions := 1 }
  | .event _ => { events := 1 }
  | .state _ => { states := 1 }
  | .statement node => { statements := [node] }
  | .expression node => { expressions := 1, targets := node.target?.toList }
  | .literal _ => { expressions := 1 }
  | _ => {}

end Gain

def Gain.ofForest : Forest → Gain
  | .empty => {}
  | .type _ beside => ofForest beside
  | .node shown _ below beside =>
    ofNode shown ++ (ofForest below).below shown ++ ofForest beside

theorem Gain.ofForest_append (front others : Forest) :
    ofForest (front ++ others) = ofForest front ++ ofForest others := by
  induction front with
  | empty => simp [ofForest]
  | type shown beside ih =>
    simpa [ofForest] using ih
  | node shown proper below beside _ ih =>
    simp [ofForest, ih, append_assoc]

theorem Gain.ofForest_tree
    (shown : Node) (below : Forest) (proper : shown.isType = false) :
    ofForest (.tree shown below proper) =
      ofNode shown ++ (ofForest below).below shown := by
  simp [Forest.tree, ofForest]

namespace Progress

variable {progress : Progress}

def gain (progress : Progress) (gained : Gain) : Progress where
  summary :=
    { progress.summary with
      imports := progress.summary.imports + gained.imports
      scriptVariables :=
        progress.summary.scriptVariables + gained.scriptVariables
      properties := progress.summary.properties + gained.properties
      functions := progress.summary.functions + gained.functions
      events := progress.summary.events + gained.events
      states := progress.summary.states + gained.states
      statements :=
        gained.statements.foldl StatementCounts.add
          progress.summary.statements
      expressions := progress.summary.expressions + gained.expressions
      maxDepth :=
        max progress.summary.maxDepth (progress.depth + gained.nesting)
      calls :=
        gained.targets.foldl (fun calls name => tally name calls)
          progress.summary.calls }
  depth := progress.depth

def Bounded (progress : Progress) : Prop :=
  progress.depth ≤ progress.summary.maxDepth

theorem gain_empty (bounded : progress.Bounded) :
    progress.gain {} = progress := by
  obtain ⟨summary, depth⟩ := progress
  have deepest : max summary.maxDepth depth = summary.maxDepth :=
    Nat.max_eq_left bounded
  simp [gain, deepest]

theorem gain_append (progress : Progress) (first more : Gain) :
    progress.gain (first ++ more) = (progress.gain first).gain more := by
  have deepest :
      max progress.summary.maxDepth
          (progress.depth + max first.nesting more.nesting) =
        max (max progress.summary.maxDepth (progress.depth + first.nesting))
          (progress.depth + more.nesting) := by
    omega
  simp only [gain, Gain.append_def, Gain.append, Nat.add_assoc,
    List.foldl_append, deepest]

theorem bounded_gain (bounded : progress.Bounded) (gained : Gain) :
    (progress.gain gained).Bounded :=
  Nat.le_trans bounded (Nat.le_max_left _ _)

theorem bounded_enter (bounded : progress.Bounded) (node : Node) :
    (progress.enter node).Bounded := by
  have deeper : ∀ most depth : Nat, depth + 1 ≤ max most (depth + 1) := by
    omega
  cases node with
  | statement node =>
    cases node with
    | conditional branches otherwise span => exact deeper _ _
    | loop condition body span => exact deeper _ _
    | _ => exact bounded
  | expression node => cases node <;> exact bounded
  | _ => exact bounded

/-- A node that is entered and left adds what it gains, and what was gained
in between one level deeper if it is a conditional or loop. -/
theorem exit_gain_enter
    (bounded : progress.Bounded) (node : Node) (gained : Gain) :
    ((progress.enter node).gain gained).exit node =
      progress.gain (.ofNode node ++ gained.below node) := by
  have level : max progress.summary.maxDepth progress.depth =
      progress.summary.maxDepth :=
    Nat.max_eq_left bounded
  have deeper : ∀ more,
      max (max progress.summary.maxDepth (progress.depth + 1))
          (progress.depth + 1 + more) =
        max progress.summary.maxDepth (progress.depth + (more + 1)) := by
    omega
  rw [gain_append]
  cases node with
  | statement node =>
    cases node <;>
      simp [enter, exit, addStatement, nest, update, gain, Gain.ofNode,
        Gain.below, Node.deepens, level, deeper]
  | expression node =>
    cases node <;>
      simp [enter, exit, addExpression, update, gain, Gain.ofNode,
        Gain.below, Node.deepens, Expression.target?, level]
  | _ =>
    simp [enter, exit, update, gain, Gain.ofNode, Gain.below,
      Node.deepens, level]

theorem follow_calls (bounded : progress.Bounded) (forest : Forest) :
    progress.follow forest.calls = progress.gain (.ofForest forest) := by
  induction forest generalizing progress with
  | empty => exact (gain_empty bounded).symm
  | type shown beside ih =>
    rw [Forest.calls, follow_cons, Gain.ofForest]
    exact ih bounded
  | node shown proper below beside belowHypothesis besideHypothesis =>
    rw [Forest.calls, follow_cons, follow_append, follow_cons, heed, heed,
      belowHypothesis (bounded_enter bounded shown), exit_gain_enter bounded,
      besideHypothesis (bounded_gain bounded _), ← gain_append, Gain.ofForest]

end Progress

end Summary

end PapyrusScript
