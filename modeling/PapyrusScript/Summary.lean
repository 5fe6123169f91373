import PapyrusScript.Walk.Visitor

/-!
# Summaries

A summary counts what a script consists of, in one walk:

* imports, and declarations of each form, wherever they stand;
* statements of each form, and expressions together with the literals that
  are initial values;
* how deep conditionals and loops nest in any body;
* how often each call target is called, in the order of the targets' names.
-/

namespace PapyrusScript

/-- The number of statements of each form. -/
structure StatementCounts where
  expression : Nat
  assign : Nat
  conditional : Nat
  loop : Nat
  result : Nat
  declare : Nat
  deriving DecidableEq, Repr, Inhabited

namespace StatementCounts

/-- The number of all statements. -/
def total (counts : StatementCounts) : Nat :=
  counts.expression + counts.assign + counts.conditional + counts.loop +
    counts.result + counts.declare

/-- The counts with one more statement. -/
def add (counts : StatementCounts) : Statement → StatementCounts
  | .expression _ _ => { counts with expression := counts.expression + 1 }
  | .assign _ _ _ _ => { counts with assign := counts.assign + 1 }
  | .conditional _ _ _ =>
      { counts with conditional := counts.conditional + 1 }
  | .loop _ _ _ => { counts with loop := counts.loop + 1 }
  | .result _ _ => { counts with result := counts.result + 1 }
  | .declare _ _ _ _ => { counts with declare := counts.declare + 1 }

end StatementCounts

/-- Count one more occurrence of a name among names in increasing order. -/
def tally (name : String) : List (String × Nat) → List (String × Nat)
  | [] => [(name, 1)]
  | (first, count) :: rest =>
      if name = first then (first, count + 1) :: rest
      else if name < first then (name, 1) :: (first, count) :: rest
      else (first, count) :: tally name rest

/-- What a script consists of. -/
structure Summary where
  name : String
  imports : Nat
  scriptVariables : Nat
  properties : Nat
  functions : Nat
  events : Nat
  states : Nat
  statements : StatementCounts
  expressions : Nat
  maxDepth : Nat
  calls : List (String × Nat)
  deriving DecidableEq, Repr, Inhabited

namespace Summary

/-- The summary of nothing. -/
def empty (name : String) : Summary :=
  ⟨name, 0, 0, 0, 0, 0, 0, ⟨0, 0, 0, 0, 0, 0⟩, 0, 0, []⟩

/-- The name that a call goes by: that of the function, after that of its
object if that has one. -/
def callName : Expression → String
  | .name node => node.name
  | .member (.name object) field _ => object.name ++ "." ++ field.name
  | .member _ field _ => "?." ++ field.name
  | _ => "?"

/-- A summary in the making, and how many conditionals and loops are open. -/
structure Progress where
  summary : Summary
  depth : Nat
  deriving DecidableEq, Repr, Inhabited

namespace Progress

/-- Change the summary. -/
def update (progress : Progress) (change : Summary → Summary) : Progress :=
  { progress with summary := change progress.summary }

/-- One level deeper. -/
def nest (progress : Progress) : Progress :=
  let depth := progress.depth + 1
  { progress with depth }.update fun summary =>
    { summary with maxDepth := max summary.maxDepth depth }

/-- Count a statement. -/
def addStatement (progress : Progress) (statement : Statement) : Progress :=
  let counted := progress.update fun summary =>
    { summary with statements := summary.statements.add statement }
  match statement with
  | .conditional _ _ _ => counted.nest
  | .loop _ _ _ => counted.nest
  | _ => counted

/-- Count an expression that is no literal. -/
def addExpression (progress : Progress) (expression : Expression) : Progress :=
  progress.update fun summary =>
    match expression with
    | .call callee _ _ =>
        { summary with
          expressions := summary.expressions + 1
          calls := tally (callName callee) summary.calls }
    | _ => { summary with expressions := summary.expressions + 1 }

/-- Count a node. -/
def enter (progress : Progress) : Node → Progress
  | .importLine _ =>
      progress.update fun found => { found with imports := found.imports + 1 }
  | .variable _ =>
      progress.update fun found =>
        { found with scriptVariables := found.scriptVariables + 1 }
  | .property _ =>
      progress.update fun found =>
        { found with properties := found.properties + 1 }
  | .function _ =>
      progress.update fun found =>
        { found with functions := found.functions + 1 }
  | .event _ =>
      progress.update fun found => { found with events := found.events + 1 }
  | .state _ =>
      progress.update fun found => { found with states := found.states + 1 }
  | .statement node => progress.addStatement node
  | .expression node => progress.addExpression node
  | .literal _ =>
      progress.update fun found =>
        { found with expressions := found.expressions + 1 }
  | _ => progress

/-- Leave a node. -/
def exit (progress : Progress) : Node → Progress
  | .statement (.conditional _ _ _) =>
      { progress with depth := progress.depth - 1 }
  | .statement (.loop _ _ _) => { progress with depth := progress.depth - 1 }
  | _ => progress

end Progress

/-- The visitor that counts. -/
def visitor : Visitor Progress where
  enter node := do
    modify fun progress => progress.enter node
    return .proceed
  exit node := modify fun progress => progress.exit node

/-- The summary of a script. -/
def ofScript (script : Script) : Summary :=
  let walk := visitor.walkScript script
  (walk.run.run ⟨empty script.name.name, 0⟩).2.summary

/-- The calls by name, if there are any. -/
def callLines (calls : List (String × Nat)) : List String :=
  if calls.isEmpty then
    []
  else
    "  Calls:" :: calls.map fun (name, count) =>
      "    " ++ name ++ " x" ++ toString count

/-- The lines of the summary. -/
def lines (summary : Summary) : List String :=
  ["Script: " ++ summary.name,
    "  Imports:     " ++ toString summary.imports,
    "  Variables:   " ++ toString summary.scriptVariables,
    "  Properties:  " ++ toString summary.properties,
    "  Functions:   " ++ toString summary.functions,
    "  Events:      " ++ toString summary.events,
    "  States:      " ++ toString summary.states,
    "  Statements:  " ++ toString summary.statements.total,
    "  Expressions: " ++ toString summary.expressions,
    "  Max nesting: " ++ toString summary.maxDepth] ++
    callLines summary.calls

/-- The summary as text. -/
def text (summary : Summary) : String :=
  String.join (summary.lines.map fun line => line ++ "\n")

end Summary

end PapyrusScript
