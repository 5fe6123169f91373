import Mathlib.Algebra.GroupWithZero.Nat
import Mathlib.Data.List.Sort
import PapyrusScript.Batch.Pool

/-!
# Schedules of a pool

A pool gives the results that the tasks have one after the other, whatever the
schedule and the number of workers.  The results that the workers have or will
have for what they claimed are, up to their order, those of the first paths,
as many as the counter has reached; a move changes nothing about that.  A
worker rests only when the counter has passed the last path, so when all rest
the results are those of all paths, and the indices put them in order.
-/

namespace PapyrusScript

open List (Perm)

def Activity.pending (task : String → Ending) : Activity → List Entry
  | .looking => []
  | .running index path => [(index, (task path).result path)]
  | .finishing entry => [entry]
  | .resting => []

def Worker.owed (task : String → Ending) (worker : Worker) : List Entry :=
  worker.entries ++ worker.activity.pending task

/-- The index that an activity is about. -/
def Activity.claimed : Activity → List Nat
  | .looking => []
  | .running index _ => [index]
  | .finishing entry => [entry.1]
  | .resting => []

/-- The indices that a worker has claimed. -/
def Worker.claimed (worker : Worker) : List Nat :=
  worker.entries.map Prod.fst ++ worker.activity.claimed

/-- How many moves an activity leaves at most before the worker looks again or
rests. -/
def Activity.moves : Activity → Nat
  | .looking => 1
  | .running _ _ => 3
  | .finishing _ => 2
  | .resting => 0

namespace Pool

variable {pool : Pool} {workers : List Worker}

def due (paths : List String) (task : String → Ending) : List Entry :=
  paths.zipIdx.map fun place => (place.2, (task place.1).result place.1)

/-- The results of all paths, one task after the other. -/
def sequential (paths : List String) (task : String → Ending) :
    List (String × Except Failure Report) :=
  paths.map fun path => (path, (task path).result path)

/-- The entries of all workers when they are through with what they
claimed. -/
def owed (task : String → Ending) (pool : Pool) : List Entry :=
  pool.workers.flatMap (Worker.owed task)

/-- The indices that the workers have claimed. -/
def claimed (pool : Pool) : List Nat := pool.workers.flatMap Worker.claimed

def remaining (paths : List String) (pool : Pool) : Nat :=
  3 * (paths.length - pool.next) +
    (pool.workers.map fun worker => worker.activity.moves).sum

/-- What the moves of the workers keep: the counter tells what they claimed,
and a worker that rests has seen it behind the last path. -/
structure Accounts
    (paths : List String) (task : String → Ending) (pool : Pool) : Prop where
  owed : Perm (pool.owed task) ((due paths task).take pool.next)
  spent : ∀ worker ∈ pool.workers,
    worker.activity.isResting = true → paths.length ≤ pool.next

variable {paths : List String} {task : String → Ending}

section Due

theorem getElem?_due (index : Nat) :
    (due paths task)[index]? =
      paths[index]?.map fun path => (index, (task path).result path) := by
  simp [due, Function.comp_def]

theorem length_due : (due paths task).length = paths.length := by
  simp [due]

theorem fst_due : (due paths task).map Prod.fst = List.range paths.length := by
  simp [due, Function.comp_def, List.zipIdx_map_snd, List.range_eq_range']

variable (paths task) in
theorem pairwise_due :
    (due paths task).Pairwise fun first second => first.1 < second.1 := by
  rw [← List.pairwise_map, fst_due]
  exact List.pairwise_lt_range

end Due

/-! ## One move -/

section Move

variable {next : Nat} {worker : Worker}

variable (paths task) in
/-- A worker that moves claims what the counter passes. -/
theorem owed_move (next : Nat) (worker : Worker) :
    (due paths task).take (move paths task next worker).1 =
        (due paths task).take next ++ (due paths task)[next]?.toList ∧
      (move paths task next worker).2.owed task =
        worker.owed task ++ (due paths task)[next]?.toList ∨
    (move paths task next worker).1 = next ∧
      (move paths task next worker).2.owed task = worker.owed task := by
  obtain ⟨activity, entries⟩ := worker
  cases activity with
  | looking =>
    left
    rw [getElem?_due]
    cases found : paths[next]? <;>
      simp [move, found, List.take_add_one, getElem?_due, Worker.owed,
        Activity.pending]
  | running index path => right; simp [move, Worker.owed, Activity.pending]
  | finishing entry => right; simp [move, Worker.owed, Activity.pending]
  | resting => right; simp [move]

theorem le_move : next ≤ (move paths task next worker).1 := by
  unfold move
  split
  · split <;> simp
  all_goals simp

/-- A worker that comes to rest has seen that no path is left. -/
theorem spent_move
    (before : worker.activity.isResting = true → paths.length ≤ next)
    (rests : (move paths task next worker).2.activity.isResting = true) :
    paths.length ≤ (move paths task next worker).1 := by
  obtain ⟨activity, entries⟩ := worker
  cases activity with
  | looking =>
    cases found : paths[next]? with
    | none =>
      rw [List.getElem?_eq_none_iff] at found
      exact found.trans le_move
    | some path => simp [move, found, Activity.isResting] at rests
  | running index path => simp [move, Activity.isResting] at rests
  | finishing entry => simp [move, Activity.isResting] at rests
  | resting => exact before rfl

variable (paths task) in
/-- A worker that does not rest has a move less in front of it. -/
theorem moves_move (next : Nat) (wakes : worker.activity.isResting = false) :
    3 * (paths.length - (move paths task next worker).1) +
        (move paths task next worker).2.activity.moves <
      3 * (paths.length - next) + worker.activity.moves := by
  obtain ⟨activity, entries⟩ := worker
  cases activity with
  | looking =>
    cases found : paths[next]? with
    | none => simp [move, found, Activity.moves]; omega
    | some path =>
      have inside := (List.getElem?_eq_some_iff.mp found).1
      simp only [move, found, Activity.moves]
      omega
  | running index path => simp [move, Activity.moves]
  | finishing entry => simp [move, Activity.moves]
  | resting => simp [Activity.isResting] at wakes

theorem move_of_isResting (rests : worker.activity.isResting = true) :
    move paths task next worker = (next, worker) := by
  obtain ⟨activity, entries⟩ := worker
  cases activity <;> simp_all [move, Activity.isResting]

end Move

theorem exists_worker_at {number : Nat} (inside : number < workers.length) :
    ∃ front worker back,
      workers = front ++ worker :: back ∧ front.length = number := by
  refine ⟨workers.take number, workers[number], workers.drop (number + 1), ?_,
    List.length_take_of_le inside.le⟩
  rw [List.getElem_cons_drop, List.take_append_drop]

variable (paths task) in
/-- A step of the worker behind some others is its move. -/
theorem step_at (next : Nat) (front : List Worker) (worker : Worker)
    (back : List Worker) :
    step paths task ⟨next, front ++ worker :: back⟩ front.length =
      ⟨(move paths task next worker).1,
        front ++ (move paths task next worker).2 :: back⟩ := by
  simp [step]

variable (paths task) in
/-- A step is a move of one worker among the others, or there is no worker
with that number. -/
theorem step_cases (pool : Pool) (number : Nat) :
    (∃ front worker back,
      pool.workers = front ++ worker :: back ∧ front.length = number ∧
      step paths task pool number =
        ⟨(move paths task pool.next worker).1,
          front ++ (move paths task pool.next worker).2 :: back⟩) ∨
    pool.workers.length ≤ number ∧ step paths task pool number = pool := by
  obtain ⟨next, workers⟩ := pool
  by_cases inside : number < workers.length
  · left
    obtain ⟨front, worker, back, rfl, rfl⟩ := exists_worker_at inside
    exact ⟨front, worker, back, rfl, rfl,
      step_at paths task next front worker back⟩
  · right
    have outside : workers.length ≤ number := by omega
    exact ⟨outside, by simp [step, List.getElem?_eq_none outside]⟩

theorem length_step (pool : Pool) (number : Nat) :
    (step paths task pool number).workers.length = pool.workers.length := by
  obtain ⟨front, worker, back, shape, _, moved⟩ | ⟨_, same⟩ :=
    step_cases paths task pool number
  · simp [moved, shape]
  · rw [same]

theorem run_append (pool : Pool) (schedule more : List Nat) :
    pool.run paths task (schedule ++ more) =
      (pool.run paths task schedule).run paths task more :=
  List.foldl_append

theorem run_concat (pool : Pool) (schedule : List Nat) (number : Nat) :
    pool.run paths task (schedule ++ [number]) =
      (pool.run paths task schedule).step paths task number :=
  List.foldl_concat ..

/-! ## What a step keeps -/

variable (paths task) in
theorem accounts_start (count : Nat) : Accounts paths task (start count) where
  owed := by
    simp [start, Pool.owed, Worker.owed, Activity.pending, List.flatMap_replicate]
  spent := by
    intro worker among rests
    obtain ⟨_, rfl⟩ := List.mem_replicate.mp among
    cases rests

/-- One move of one worker keeps the accounts. -/
theorem Accounts.step (accounts : Accounts paths task pool) (number : Nat) :
    Accounts paths task (pool.step paths task number) := by
  obtain ⟨front, worker, back, shape, _, moved⟩ | ⟨_, same⟩ :=
    step_cases paths task pool number
  · obtain ⟨next, workers⟩ := pool
    subst shape
    rw [moved]
    refine ⟨?_, ?_⟩
    · have before := accounts.owed
      simp only [Pool.owed, List.flatMap_append, List.flatMap_cons] at before ⊢
      obtain ⟨passed, claims⟩ | ⟨passed, claims⟩ :=
        owed_move paths task next worker
      · rw [passed, claims]
        have last := before.append_right (due paths task)[next]?.toList
        simp only [List.append_assoc] at last ⊢
        exact ((List.perm_append_comm.append_left _).append_left _).trans last
      · rw [passed, claims]
        exact before
    · intro other among rests
      obtain inFront | rfl | behind := by
        simpa only [List.mem_append, List.mem_cons] using among
      · exact (accounts.spent other (by simp [inFront]) rests).trans le_move
      · exact spent_move (accounts.spent worker (by simp)) rests
      · exact (accounts.spent other (by simp [behind]) rests).trans le_move
  · rw [same]
    exact accounts

theorem Accounts.run
    (accounts : Accounts paths task pool) (schedule : List Nat) :
    Accounts paths task (pool.run paths task schedule) := by
  induction schedule generalizing pool with
  | nil => exact accounts
  | cons number schedule ih => exact ih (accounts.step number)

theorem length_run (pool : Pool) (schedule : List Nat) :
    (pool.run paths task schedule).workers.length = pool.workers.length := by
  induction schedule generalizing pool with
  | nil => rfl
  | cons number schedule ih => exact (ih _).trans (length_step pool number)

/-! ## What the accounts tell -/

theorem fst_owed (pool : Pool) : (pool.owed task).map Prod.fst = pool.claimed := by
  have each (worker : Worker) :
      (worker.owed task).map Prod.fst = worker.claimed := by
    obtain ⟨activity, entries⟩ := worker
    cases activity <;> simp [Worker.owed, Worker.claimed, Activity.pending,
      Activity.claimed]
  simp only [owed, claimed, List.map_flatMap, each]

/-- The claimed indices are those that the counter has passed, each once. -/
theorem Accounts.claimed_perm (accounts : Accounts paths task pool) :
    Perm pool.claimed (List.range (min pool.next paths.length)) := by
  have indices := accounts.owed.map Prod.fst
  rw [fst_owed, List.map_take, fst_due, List.take_range] at indices
  exact indices

/-- When all workers rest the entries are those of all paths. -/
theorem Accounts.entries_perm
    (accounts : Accounts paths task pool) (some : pool.workers ≠ [])
    (done : pool.isDone = true) :
    Perm (pool.workers.flatMap Worker.entries) (due paths task) := by
  have rest := List.all_eq_true.mp done
  have nothingOwed : pool.owed task = pool.workers.flatMap Worker.entries := by
    refine List.flatMap_congr fun worker among => ?_
    have rests := rest worker among
    obtain ⟨activity, entries⟩ := worker
    cases activity <;>
      simp_all [Worker.owed, Activity.pending, Activity.isResting]
  obtain ⟨worker, among⟩ := List.exists_mem_of_ne_nil _ some
  have spent := accounts.spent worker among (rest worker among)
  have all := accounts.owed
  rw [nothingOwed, List.take_of_length_le (by rw [length_due]; exact spent)] at all
  exact all

/-- Entries for all paths in any order give the results one after the
other. -/
theorem results_of_perm
    (entries : Perm (pool.workers.flatMap Worker.entries) (due paths task)) :
    pool.results paths = sequential paths task := by
  let inOrder (first second : Entry) : Bool := first.1 ≤ second.1
  have sorted :
      (pool.workers.flatMap Worker.entries).mergeSort inOrder =
        due paths task := by
    have ascends := pairwise_due paths task
    have apart : ((due paths task).map Prod.fst).Nodup := by
      rw [fst_due]
      exact List.nodup_range
    have among := (List.mergeSort_perm _ inOrder).trans entries
    have trans (first second third : Entry) :
        inOrder first second = true → inOrder second third = true →
          inOrder first third = true := by
      simpa [inOrder] using Nat.le_trans
    have total (first second : Entry) :
        (inOrder first second || inOrder second first) = true := by
      simpa [inOrder] using Nat.le_total _ _
    have pairs := List.pairwise_mergeSort trans total
      (pool.workers.flatMap Worker.entries)
    refine List.Perm.eq_of_pairwise ?_ pairs
      (ascends.imp fun less => by simpa [inOrder] using less.le) among
    intro first second one other up down
    refine List.inj_on_of_nodup_map apart (among.mem_iff.mp one) other ?_
    simp only [inOrder, decide_eq_true_eq] at up down
    exact Nat.le_antisymm up down
  have looked {place : String × Nat} (among : place ∈ paths.zipIdx) :
      (paths[place.2]?.map fun path =>
          (path, (task place.1).result place.1)) =
        some (place.1, (task place.1).result place.1) := by
    rw [List.mem_zipIdx_iff_getElem?.mp among]
    rfl
  calc pool.results paths
      = (due paths task).filterMap
          (fun entry => paths[entry.1]?.map fun path => (path, entry.2)) := by
        rw [results, sorted]
    _ = paths.zipIdx.filterMap
          (fun place => some (place.1, (task place.1).result place.1)) := by
        rw [due, List.filterMap_map]
        exact List.filterMap_congr fun place among => looked among
    _ = (paths.zipIdx.map Prod.fst).map
          (fun path => (path, (task path).result path)) := by
        rw [List.filterMap_eq_map', List.map_map]
        rfl
    _ = sequential paths task := by rw [List.zipIdx_map_fst, sequential]

/-- However the moves of the workers are put, when all rest the results are
those of the tasks one after the other. -/
theorem results_run {count : Nat} (some : 0 < count) (schedule : List Nat)
    (done : ((start count).run paths task schedule).isDone = true) :
    ((start count).run paths task schedule).results paths =
      sequential paths task := by
  have accounts := (accounts_start paths task count).run
    schedule
  refine results_of_perm (accounts.entries_perm ?_ done)
  rw [← List.length_pos_iff, length_run]
  simpa [start] using some

/-! ## The workers come to rest -/

variable (paths task) in
/-- A worker that is awake leaves fewer moves behind each of its own. -/
theorem remaining_step_lt {number : Nat} {worker : Worker}
    (found : pool.workers[number]? = some worker)
    (wakes : worker.activity.isResting = false) :
    (pool.step paths task number).remaining paths < pool.remaining paths := by
  obtain ⟨front, other, back, shape, rfl, moved⟩ | ⟨outside, _⟩ :=
    step_cases paths task pool number
  · obtain ⟨next, workers⟩ := pool
    subst shape
    obtain rfl : other = worker := by simpa using found
    have nearer := moves_move paths task next wakes
    rw [moved]
    simp only [remaining, List.map_append, List.map_cons, List.sum_append,
      List.sum_cons]
    omega
  · rw [List.getElem?_eq_none outside] at found
    cases found

variable (paths task) in
theorem step_eq_or_remaining_lt (pool : Pool) (number : Nat) :
    pool.step paths task number = pool ∨
      (pool.step paths task number).remaining paths < pool.remaining paths := by
  cases found : pool.workers[number]? with
  | none => left; simp [step, found]
  | some worker =>
    cases wakes : worker.activity.isResting with
    | false => exact .inr (remaining_step_lt paths task found wakes)
    | true =>
      left
      obtain ⟨inside, rfl⟩ := List.getElem?_eq_some_iff.mp found
      simp [step, found, move_of_isResting wakes]

variable (paths task) in
/-- A schedule changes nothing, or some of the work is done. -/
theorem run_eq_or_remaining_lt (pool : Pool) (schedule : List Nat) :
    pool.run paths task schedule = pool ∨
      (pool.run paths task schedule).remaining paths < pool.remaining paths := by
  induction schedule generalizing pool with
  | nil => exact .inl rfl
  | cons number schedule ih =>
    have later := ih (pool.step paths task number)
    obtain same | nearer := step_eq_or_remaining_lt paths task pool number
    · rw [same] at later
      simpa only [run, List.foldl_cons, same] using later
    · right
      obtain same | further := later
      · rw [← same] at nearer
        exact nearer
      · exact further.trans nearer

/-- The pool after the first moves of an endless schedule. -/
def after (paths : List String) (task : String → Ending) (pool : Pool)
    (turns : Nat → Nat) (moves : Nat) : Pool :=
  pool.run paths task ((List.range moves).map turns)

theorem after_add (pool : Pool) (turns : Nat → Nat) (moves more : Nat) :
    pool.after paths task turns (moves + more) =
      (pool.after paths task turns moves).after paths task
        (fun turn => turns (moves + turn)) more := by
  rw [after, List.range_add, List.map_append, run_append, List.map_map]
  rfl

theorem after_succ (pool : Pool) (turns : Nat → Nat) (moves : Nat) :
    pool.after paths task turns (moves + 1) =
      (pool.after paths task turns moves).step paths task (turns moves) := by
  rw [after, List.range_succ, List.map_append, List.map_singleton, run_concat]
  rfl

/-- An endless schedule in which every worker moves again and again brings all
workers to rest. -/
theorem exists_isDone_after {turns : Nat → Nat}
    (fair : ∀ number < pool.workers.length, ∀ turn, ∃ later ≥ turn,
      turns later = number) :
    ∃ moves, (pool.after paths task turns moves).isDone = true := by
  suffices ∀ bound moves,
      (pool.after paths task turns moves).remaining paths ≤ bound →
        ∃ moves, (pool.after paths task turns moves).isDone = true from
    this _ 0 le_rfl
  intro bound
  induction bound using Nat.strong_induction_on with
  | _ bound ih =>
    intro moves near
    by_cases done : (pool.after paths task turns moves).isDone = true
    · exact ⟨moves, done⟩
    obtain ⟨worker, among, wakes⟩ : ∃ worker ∈
        (pool.after paths task turns moves).workers,
        worker.activity.isResting = false := by
      simpa [isDone] using done
    obtain ⟨number, found⟩ := List.mem_iff_getElem?.mp among
    have inside := (List.getElem?_eq_some_iff.mp found).1
    rw [after, length_run] at inside
    obtain ⟨later, behind, turn⟩ := fair number inside moves
    obtain ⟨wait, rfl⟩ := Nat.exists_eq_add_of_le behind
    -- The worker is as it was until its turn, unless others moved.
    obtain same | nearer := run_eq_or_remaining_lt paths task
      (pool.after paths task turns moves)
      ((List.range wait).map fun turn => turns (moves + turn))
    · have waited : pool.after paths task turns (moves + wait) =
          pool.after paths task turns moves :=
        (after_add pool turns moves wait).trans same
      have nearer := remaining_step_lt paths task found wakes
      refine ih _ (nearer.trans_le near) (moves + wait + 1) ?_
      rw [after_succ, waited, turn]
    · refine ih _ (nearer.trans_le near) (moves + wait) ?_
      rw [after_add]
      rfl

/-! ## The workers in turn -/

variable (task) in
/-- A worker that looks takes a path in three moves and looks again. -/
theorem run_replicate_three {next number : Nat} (more : next < paths.length)
    (look : ∀ worker ∈ workers, worker.activity = .looking)
    (inside : number < workers.length) :
    ∃ moved,
      run paths task ⟨next, workers⟩ (List.replicate 3 number) =
          ⟨next + 1, moved⟩ ∧
        moved.length = workers.length ∧
        ∀ worker ∈ moved, worker.activity = .looking := by
  obtain ⟨front, ⟨activity, entries⟩, back, rfl, rfl⟩ := exists_worker_at inside
  obtain rfl : activity = .looking := look ⟨activity, entries⟩ (by simp)
  refine ⟨front ++ ⟨.looking, entries ++
    [(next, (task paths[next]).result paths[next])]⟩ :: back, ?_, by simp, ?_⟩
  · have first := step_at paths task next front
      ⟨.looking, entries⟩ back
    have second := step_at paths task (next + 1) front
      ⟨.running next paths[next], entries⟩ back
    have third := step_at paths task (next + 1) front
      ⟨.finishing (next, (task paths[next]).result paths[next]), entries⟩ back
    simp only [move, List.getElem?_eq_getElem more] at first second third
    simp [run, List.replicate_succ, first, second, third]
  · intro other among
    obtain inFront | rfl | behind := by
      simpa only [List.mem_append, List.mem_cons] using among
    · exact look other (by simp [inFront])
    · rfl
    · exact look other (by simp [behind])

variable (task) in
/-- Workers that take the first paths in turn look again. -/
theorem run_inTurn_front {count : Nat} (some : 0 < count) (taken : Nat)
    (inside : taken ≤ paths.length) :
    ∃ workers,
      (start count).run paths task ((List.range taken).flatMap fun index =>
          List.replicate 3 (index % count)) = ⟨taken, workers⟩ ∧
        workers.length = count ∧
        ∀ worker ∈ workers, worker.activity = .looking := by
  induction taken with
  | zero =>
    refine ⟨List.replicate count ⟨.looking, []⟩, rfl, by simp, ?_⟩
    intro worker among
    rw [(List.mem_replicate.mp among).2]
  | succ taken ih =>
    obtain ⟨workers, ran, total, look⟩ := ih (by omega)
    obtain ⟨moved, next, same, looks⟩ :=
      run_replicate_three task inside look
        (by rw [total]; exact Nat.mod_lt taken some)
    refine ⟨moved, ?_, same.trans total, looks⟩
    rw [List.range_succ, List.flatMap_append, run_append, ran,
      List.flatMap_singleton, next]

/-- Behind the last path a worker that looks rests with its next move. -/
theorem run_range
    {next : Nat} (look : ∀ worker ∈ workers, worker.activity = .looking)
    (spent : paths.length ≤ next) (turns : Nat)
    (inside : turns ≤ workers.length) :
    run paths task ⟨next, workers⟩ (List.range turns) =
      ⟨next + turns,
        (workers.take turns).map (fun worker => ⟨.resting, worker.entries⟩) ++
          workers.drop turns⟩ := by
  induction turns with
  | zero => simp [run]
  | succ turns ih =>
    have looks := look workers[turns] (List.getElem_mem inside)
    have here := step_at paths task (next + turns)
      ((workers.take turns).map fun worker => ⟨.resting, worker.entries⟩)
      workers[turns] (workers.drop (turns + 1))
    have none : paths[next + turns]? = none := List.getElem?_eq_none (by omega)
    rw [List.length_map, List.length_take_of_le (by omega),
      List.getElem_cons_drop] at here
    rw [List.range_succ, run_concat, ih (by omega), here, List.take_add_one,
      List.getElem?_eq_getElem inside]
    simp only [move, looks, none, Option.toList_some, List.map_append,
      List.map_singleton, List.append_assoc, List.singleton_append,
      Nat.add_assoc]

/-- The schedule in which the workers take the paths in turn brings all to
rest. -/
theorem isDone_inTurn {count : Nat} (some : 0 < count) :
    ((start count).run paths task (inTurn paths count)).isDone = true := by
  obtain ⟨workers, ran, rfl, look⟩ :=
    run_inTurn_front task some paths.length le_rfl
  rw [inTurn, run_append, ran, run_range look le_rfl workers.length le_rfl]
  simp [isDone, Activity.isResting]

theorem size_pos (paths : List String) (jobs : Nat) : 0 < size paths jobs := by
  unfold size
  omega

/-- A pool of any number of workers gives the results of the tasks one after
the other.  At every time the claimed indices are the first ones, each claimed
once; when all workers rest, whatever the schedule was, there is one result
for each path, in the order of the paths, and that of a task that panics is a
failure for its own path.  A schedule in which every worker moves again and
again brings all of them to rest, and the one that takes the paths in turn is
one that does. -/
theorem parallel_eq_sequential
    (paths : List String) (jobs : Nat) (task : String → Ending) :
    (∀ schedule,
      let pool := (start (size paths jobs)).run paths task schedule
      Perm pool.claimed (List.range (min pool.next paths.length)) ∧
        (pool.isDone = true → pool.results paths = sequential paths task)) ∧
    (∀ turns : Nat → Nat,
      (∀ number < size paths jobs, ∀ turn, ∃ later ≥ turn,
        turns later = number) →
      ∃ moves, ((start (size paths jobs)).after paths task turns
        moves).isDone = true) ∧
    runAll paths jobs task = sequential paths task := by
  have some := size_pos paths jobs
  refine ⟨fun schedule => ⟨?_, results_run some schedule⟩, fun turns fair => ?_,
    results_run some _ (isDone_inTurn some)⟩
  · exact ((accounts_start paths task _).run schedule).claimed_perm
  · refine exists_isDone_after fun number inside => fair number ?_
    simpa [start] using inside

/-- Two workers share three paths, the second of which makes the task panic;
the worker that takes the last path is the one that takes the second. -/
theorem parallel_eq_sequential_of_panic :
    let paths := ["a", "b", "a"]
    let task (path : String) : Ending :=
      if path = "b" then .panicked (.text "boom")
      else .finished (.error (.fileNotFound path))
    let pool := (start (size paths 2)).run paths task
      [1, 0, 1, 0, 0, 0, 0, 1, 1, 0, 0, 1]
    pool.isDone = true ∧
      pool.results paths =
        [("a", .error (.fileNotFound "a")),
          ("b", .error (.panicked "b" "boom")),
          ("a", .error (.fileNotFound "a"))] ∧
      (∀ number < size paths 2, ∀ turn, ∃ later ≥ turn, later % 2 = number) ∧
      ∃ moves, ((start (size paths 2)).after paths task (· % 2)
        moves).isDone = true := by
  intro paths task pool
  have done : pool.isDone = true := by decide +kernel
  have fair : ∀ number < size paths 2, ∀ turn, ∃ later ≥ turn,
      later % 2 = number := by
    intro number inside turn
    have two : size paths 2 = 2 := rfl
    exact ⟨2 * turn + number, by omega, by omega⟩
  have general := parallel_eq_sequential paths 2 task
  exact ⟨done, (general.1 _).2 done, fair, general.2.1 _ fair⟩

end Pool

end PapyrusScript
