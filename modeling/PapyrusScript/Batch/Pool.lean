import PapyrusScript.Batch.Report

/-!
# Pools of workers

A pool works through a list of paths with several workers that share one
counter.  A worker does one thing at a time:

* it takes the next index, and rests if there is no path for it;
* it runs the task on the path that it took;
* it puts the result with those that it has.

A schedule says which worker moves next.  When all workers rest, the results
of all of them are put in the order of the paths.  A task that panics yields
a failure for its own path and disturbs no other.
-/

namespace PapyrusScript

/-- What a panic carries: a text or something else. -/
inductive Payload where
  | text (message : String)
  | other
  deriving DecidableEq, Repr, Inhabited

/-- The text that tells of a panic. -/
def Payload.message : Payload → String
  | .text message => message
  | .other => "unknown panic"

/-- How a task on a path ends. -/
inductive Ending where
  | finished (result : Except Failure Report)
  | panicked (payload : Payload)
  deriving Repr, Inhabited

/-- The result of a task on a path. -/
def Ending.result (path : String) : Ending → Except Failure Report
  | .finished result => result
  | .panicked payload => .error (.panicked path payload.message)

/-- The result for an index. -/
abbrev Entry := Nat × Except Failure Report

/-- What a worker is doing. -/
inductive Activity where
  | looking
  | running (index : Nat) (path : String)
  | finishing (entry : Entry)
  | resting
  deriving Repr, Inhabited

/-- Whether a worker will not move again. -/
def Activity.isResting : Activity → Bool
  | .resting => true
  | _ => false

/-- A worker and its results. -/
structure Worker where
  activity : Activity
  entries : List Entry
  deriving Repr, Inhabited

/-- Workers and the next index that none of them has claimed. -/
structure Pool where
  next : Nat
  workers : List Worker
  deriving Repr, Inhabited

namespace Pool

/-- The workers before they do anything. -/
def start (count : Nat) : Pool := ⟨0, List.replicate count ⟨.looking, []⟩⟩

/-- One move of a worker: its new state and the new counter. -/
def move (paths : List String) (task : String → Ending) (next : Nat)
    (worker : Worker) : Nat × Worker :=
  match worker.activity with
  | .looking =>
      match paths[next]? with
      | some path => (next + 1, { worker with activity := .running next path })
      | none => (next + 1, { worker with activity := .resting })
  | .running index path =>
      let entry : Entry := (index, (task path).result path)
      (next, { worker with activity := .finishing entry })
  | .finishing entry => (next, ⟨.looking, worker.entries ++ [entry]⟩)
  | .resting => (next, worker)

/-- One move of the worker with a number. -/
def step (paths : List String) (task : String → Ending) (pool : Pool)
    (number : Nat) : Pool :=
  match pool.workers[number]? with
  | some worker =>
      let (next, moved) := move paths task pool.next worker
      ⟨next, pool.workers.set number moved⟩
  | none => pool

/-- The moves of a schedule. -/
def run (paths : List String) (task : String → Ending) (pool : Pool)
    (schedule : List Nat) : Pool :=
  schedule.foldl (step paths task) pool

/-- Whether no worker will move again. -/
def isDone (pool : Pool) : Bool :=
  pool.workers.all fun worker => worker.activity.isResting

/-- The results of all workers in the order of the paths. -/
def results (pool : Pool) (paths : List String) :
    List (String × Except Failure Report) :=
  let entries := pool.workers.flatMap Worker.entries
  let sorted := entries.mergeSort fun first second => first.1 ≤ second.1
  sorted.filterMap fun entry =>
    paths[entry.1]?.map fun path => (path, entry.2)

/-- The number of workers for a number of jobs: at least one, and no more
than there are paths. -/
def size (paths : List String) (jobs : Nat) : Nat :=
  max 1 (min jobs paths.length)

/-- The schedule in which the workers take the paths in turn. -/
def inTurn (paths : List String) (count : Nat) : List Nat :=
  (List.range paths.length).flatMap
      (fun index => List.replicate 3 (index % count)) ++
    List.range count

/-- Run a task on every path. -/
def runAll (paths : List String) (jobs : Nat) (task : String → Ending) :
    List (String × Except Failure Report) :=
  let count := size paths jobs
  (run paths task (start count) (inTurn paths count)).results paths

end Pool

/-- Parse files with a number of workers. -/
def parseFiles (volume : Volume) (paths : List String) (jobs : Nat) :
    List (String × Except Failure Report) :=
  Pool.runAll paths jobs fun path => .finished (Report.ofFile volume path)

end PapyrusScript
