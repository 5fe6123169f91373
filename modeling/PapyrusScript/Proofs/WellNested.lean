import PapyrusScript.Grammar.Script
import PapyrusScript.Proofs.Path

/-!
# Calls of readers

The readers of expressions are told how many levels of nesting are left.
Here the levels are counted on the way instead, by a counter that stands
beside the cursor, as the open blocks stand in it: a machine has both, and
nothing but the machine is handed from one step to the next.

* A `Plan` of a reader is what the reader is made of: tokens passed, errors
  reported, bodies of blocks, nested expressions, and calls of other readers.
* Executing a plan raises the counter in front of a nested expression and
  opens the block of a body, and takes both back behind it, whether or not
  the reader in between has failed.
* An execution keeps a record.  Every call leaves an `Activation` there: the
  frames of all calls that it is made inside of, and the machine as the call
  found it and as it left it.

An execution does what its reader does, and leaves the counter and the open
blocks as they were.  At each activation they are what the frames say.
-/

namespace PapyrusScript

variable {α β : Type} {depth : Nat}

/-- The names of the readers. -/
inductive Routine where
  | complain | unexpected | reject | expect | identifier | discard
  | reportUnterminated
  | passNewline | skipNewlines | endOfLine | endOfDeclaration | discardInLine
  | skipLine | reportAndSkipLine | finishLine | discardInStatement
  | synchronize | discardToMember | recoverToMember | discardInBody | skipBody
  | skipMember
  | elementType | typeName | literal | constant | initialConstant
  | argumentName | argument | nextArgument | argumentList | arguments
  | checkArraySize | newObject | primary | chainPart | chain | nextCast | casts
  | operand | operations | binary | expression
  | returnedValue | returnStatement | initialExpression | declareStatement
  | assignment | assignmentOr | expressionStatement | condition
  | reportElseIfAfterElse | nextArm | conditionalStatement | endOfLoop
  | loopStatement | statement | bodyLine | body
  | parameter | nextParameter | openParameters | parameters
  | nextCallableFlag | callableFlags | callableHeader | openBody
  | callableBody | function | event | nextVariableFlag | variableFlags
  | variableAfter
  | automaticFlag | propertyFlag | propertyHeader | propertyLine | accessor
  | complainIf | placeAccessor | nextAccessor | accessorList
  | reportNoAccessor | propertyBlock | standsAlone | reportMissingValue
  | automaticSource | reportInitialValue | fullSource | propertyAfter
  | typedMember | plainMember | hoistedMember | unfinishedState | nextInState
  | stateBody | autoMark | stateMembers | members | importLine
  | reportAndRecover | nextDeclaration | headerFlags | parentName | scriptName
  | headerLine | missingHeader | header | script
  deriving DecidableEq, Repr

/-- What a call may be made for. -/
inductive Frame where
  /-- Passing a token. -/
  | passing
  /-- Reporting an error. -/
  | reporting (diagnostic : Diagnostic)
  /-- Reading what a reader reads. -/
  | routine (name : Routine)
  /-- Reading the body of a block. -/
  | body (block : Block)
  /-- Reading one level deeper. -/
  | level
  deriving DecidableEq, Repr

namespace Frame

def block? : Frame → Option Block
  | .body block => some block
  | _ => none

/-- The blocks whose bodies are being read, the innermost first. -/
def bodies (frames : List Frame) : List Block := frames.filterMap block?

/-- How many levels deep an expression is being read. -/
def levels (frames : List Frame) : Nat := frames.count .level

end Frame

/-- A cursor, and beside it the counter of levels. -/
@[ext]
structure Machine where
  cursor : Cursor
  depth : Nat

/-- A call that has returned.  Its own frame is the first of the frames. -/
structure Activation where
  frames : List Frame
  before : Machine
  after : Machine

namespace Activation

/-- The token that the call is made to pass, unless the text ends there. -/
def passed (activation : Activation) : List Token :=
  match activation.frames with
  | .passing :: _ =>
      if activation.before.cursor.kind = .endOfText then []
      else [activation.before.cursor.current]
  | _ => []

/-- The error that the call is made to report. -/
def reported (activation : Activation) : List Diagnostic :=
  match activation.frames with
  | .reporting diagnostic :: _ => [diagnostic]
  | _ => []

/-- The call leaves the open blocks and the depth as it finds them, and finds
them as the calls around it demand. -/
structure Balanced (activation : Activation) : Prop where
  keepsBlocks :
    activation.after.cursor.openBlocks = activation.before.cursor.openBlocks
  keepsDepth : activation.after.depth = activation.before.depth
  blocks : activation.before.cursor.openBlocks = Frame.bodies activation.frames
  depth : activation.before.depth = Frame.levels activation.frames
  bounded : activation.before.depth ≤ nestingLimit

end Activation

/-- What comes of executing a plan. -/
structure Execution (α : Type) where
  value : α
  machine : Machine
  record : List Activation

/-- What a reader is made of, where it is called at a depth. -/
class inductive Recovery.Plan : Nat → {α : Type} → Recovery α → Type 1
  | pure {depth : Nat} {α : Type} (value : α) : Plan depth (Pure.pure value)
  | bind {depth : Nat} {α β : Type} {reader : Recovery α}
      {following : α → Recovery β} (first : Plan depth reader)
      (rest : ∀ value, Plan depth (following value)) :
      Plan depth (reader >>= following)
  | look {depth : Nat} : Plan depth (MonadState.get : Recovery Cursor)
  | pass {depth : Nat} : Plan depth Reader.advance
  | report {depth : Nat} (diagnostic : Diagnostic) :
      Plan depth (Reader.report diagnostic)
  | inBlock {depth : Nat} {α : Type} (block : Block) {body : Recovery α}
      (inside : Plan depth body) : Plan depth (Reader.inBlock block body)
  /-- The reader goes one level deeper, unless it is too deep already. -/
  | nested {depth : Nat} {α : Type} {reader deeper : Reader α}
      (same : reader = if depth < nestingLimit then deeper else Reader.tooDeep)
      (inside : Plan (depth + 1) deeper.run) : Plan depth reader.run
  | call {depth : Nat} {α : Type} (routine : Routine) {reader : Recovery α}
      (made : Plan depth reader) : Plan depth reader

/-- What a reader that may fail is made of. -/
abbrev Reader.Plan (depth : Nat) (reader : Reader α) : Type 1 :=
  Recovery.Plan depth reader.run

namespace Recovery.Plan

/-! ## Execution -/

/-- Execute a plan inside the calls of some frames. -/
def execute :
    {depth : Nat} → {α : Type} → {reader : Recovery α} →
      Plan depth reader → List Frame → Machine → Execution α
  | _, _, _, .pure value, _, machine => ⟨value, machine, []⟩
  | _, _, _, .bind first rest, frames, machine =>
      let one := first.execute frames machine
      let other := (rest one.value).execute frames one.machine
      ⟨other.value, other.machine, one.record ++ other.record⟩
  | _, _, _, .look, _, machine => ⟨machine.cursor, machine, []⟩
  | _, _, _, .pass, frames, machine =>
      let after := { machine with cursor := machine.cursor.next }
      ⟨machine.cursor.current, after, [⟨.passing :: frames, machine, after⟩]⟩
  | _, _, _, .report diagnostic, frames, machine =>
      let cursor := machine.cursor.report diagnostic
      let after := { machine with cursor }
      ⟨(), after, [⟨.reporting diagnostic :: frames, machine, after⟩]⟩
  | _, _, _, .inBlock block inside, frames, machine =>
      let before := { machine with cursor := machine.cursor.enter block }
      let made := inside.execute (.body block :: frames) before
      { made with
        machine := { made.machine with cursor := made.machine.cursor.leave }
        record :=
          made.record ++ [⟨.body block :: frames, before, made.machine⟩] }
  | _, _, _, .nested _ inside, frames, machine =>
      if machine.depth < nestingLimit then
        let before := { machine with depth := machine.depth + 1 }
        let made := inside.execute (.level :: frames) before
        -- The answer may be an error, and the counter is taken back all the
        -- same.
        { made with
          machine := { made.machine with depth := made.machine.depth - 1 }
          record := made.record ++ [⟨.level :: frames, before, made.machine⟩] }
      else
        let position := machine.cursor.position
        ⟨.error ⟨position, .nestedTooDeep nestingLimit⟩, machine, []⟩
  | _, _, _, .call routine made, frames, machine =>
      let made := made.execute (.routine routine :: frames) machine
      { made with
        record :=
          made.record ++ [⟨.routine routine :: frames, machine, made.machine⟩] }

end Recovery.Plan

/-- The machine is as it has to be inside the calls of some frames. -/
structure Machine.Fits (machine : Machine) (frames : List Frame) : Prop where
  blocks : machine.cursor.openBlocks = Frame.bodies frames
  depth : machine.depth = Frame.levels frames
  bounded : machine.depth ≤ nestingLimit

/-- An execution does what a reader does from a machine on, keeps the open
blocks and the depth, and accounts for every step in its record. -/
structure Execution.Follows
    (execution : Execution α) (reader : Recovery α) (machine : Machine) :
    Prop where
  value : execution.value = (reader.run machine.cursor).1
  cursor : execution.machine.cursor = (reader.run machine.cursor).2
  depth : execution.machine.depth = machine.depth
  blocks : execution.machine.cursor.openBlocks = machine.cursor.openBlocks
  passed :
    machine.cursor.budget =
      execution.record.flatMap Activation.passed ++
        execution.machine.cursor.budget
  reported :
    execution.machine.cursor.reported =
      (execution.record.flatMap Activation.reported).reverse ++
        machine.cursor.reported
  balanced : ∀ activation ∈ execution.record, activation.Balanced

namespace Machine.Fits

variable {machine : Machine} {frames : List Frame}

theorem passing (fits : machine.Fits frames) :
    machine.Fits (.passing :: frames) where
  blocks := fits.blocks
  depth := fits.depth
  bounded := fits.bounded

theorem reporting (fits : machine.Fits frames) (diagnostic : Diagnostic) :
    machine.Fits (.reporting diagnostic :: frames) where
  blocks := fits.blocks
  depth := fits.depth
  bounded := fits.bounded

theorem routine (fits : machine.Fits frames) (name : Routine) :
    machine.Fits (.routine name :: frames) where
  blocks := fits.blocks
  depth := fits.depth
  bounded := fits.bounded

theorem enter (fits : machine.Fits frames) (block : Block) :
    Machine.Fits ⟨machine.cursor.enter block, machine.depth⟩
      (.body block :: frames) where
  blocks := congrArg (block :: ·) fits.blocks
  depth := fits.depth
  bounded := fits.bounded

theorem deepen
    (fits : machine.Fits frames) (room : machine.depth < nestingLimit) :
    Machine.Fits ⟨machine.cursor, machine.depth + 1⟩ (.level :: frames) where
  blocks := fits.blocks
  depth := by
    rw [fits.depth, Frame.levels, Frame.levels, List.count_cons_self]
  bounded := room

/-- A call that returns what it found is balanced. -/
theorem balanced {after : Machine} (fits : machine.Fits frames)
    (blocks : after.cursor.openBlocks = machine.cursor.openBlocks)
    (depth : after.depth = machine.depth) :
    Activation.Balanced ⟨frames, machine, after⟩ where
  keepsBlocks := blocks
  keepsDepth := depth
  blocks := fits.blocks
  depth := fits.depth
  bounded := fits.bounded

end Machine.Fits

namespace Execution.Follows

variable {reader : Recovery α} {following : α → Recovery β}
  {machine : Machine} {execution : Execution α}
variable {frames : List Frame}

/-- Where nothing is called, nothing is recorded. -/
theorem of_run
    {value : α}
    (answers : reader.run machine.cursor = (value, machine.cursor)) :
    Follows ⟨value, machine, []⟩ reader machine where
  value := by rw [answers]
  cursor := by rw [answers]
  depth := rfl
  blocks := rfl
  passed := rfl
  reported := rfl
  balanced := fun _ member => absurd member List.not_mem_nil

theorem machine_eq (follows : execution.Follows reader machine) :
    execution.machine = ⟨(reader.run machine.cursor).2, machine.depth⟩ :=
  Machine.ext follows.cursor follows.depth

theorem fits
    (follows : execution.Follows reader machine) (fits : machine.Fits frames) :
    execution.machine.Fits frames where
  blocks := follows.blocks.trans fits.blocks
  depth := follows.depth.trans fits.depth
  bounded := follows.depth ▸ fits.bounded

/-- Records of two executions are joined. -/
theorem bind {other : Execution β} (first : execution.Follows reader machine)
    (rest : other.Follows (following execution.value) execution.machine) :
    Follows ⟨other.value, other.machine, execution.record ++ other.record⟩
      (reader >>= following) machine := by
  have goesOn : (reader >>= following).run machine.cursor =
      (following execution.value).run execution.machine.cursor := by
    rw [first.value, first.cursor]
    rfl
  refine ⟨?_, ?_, ?_, ?_, ?_, ?_, ?_⟩
  · rw [goesOn]
    exact rest.value
  · rw [goesOn]
    exact rest.cursor
  · exact rest.depth.trans first.depth
  · exact rest.blocks.trans first.blocks
  · rw [List.flatMap_append, List.append_assoc, ← rest.passed]
    exact first.passed
  · rw [List.flatMap_append, List.reverse_append, List.append_assoc,
      ← first.reported]
    exact rest.reported
  · intro activation member
    rcases List.mem_append.1 member with before | behind
    · exact first.balanced activation before
    · exact rest.balanced activation behind

/-- A call that passes and reports nothing by itself adds itself to what is
recorded inside it. -/
theorem record
    {activation : Activation} (follows : execution.Follows reader machine)
    (passes : activation.passed = []) (reports : activation.reported = [])
    (balanced : activation.Balanced) :
    Follows
      { execution with record := execution.record ++ [activation] }
      reader machine where
  value := follows.value
  cursor := follows.cursor
  depth := follows.depth
  blocks := follows.blocks
  passed := by
    rw [List.flatMap_append, List.flatMap_singleton, passes, List.append_nil]
    exact follows.passed
  reported := by
    rw [List.flatMap_append, List.flatMap_singleton, reports, List.append_nil]
    exact follows.reported
  balanced := by
    intro found member
    rcases List.mem_append.1 member with before | last
    · exact follows.balanced found before
    · rwa [List.mem_singleton.1 last]

/-- Passing a token leaves the depth and the open blocks as they are. -/
theorem pass (fits : machine.Fits frames) :
    ((@Recovery.Plan.pass depth).execute frames machine).Follows
      Reader.advance machine where
  value := rfl
  cursor := rfl
  depth := rfl
  blocks := Cursor.openBlocks_next _
  passed := by
    show machine.cursor.budget =
      [Activation.mk _ _ _].flatMap Activation.passed ++
        machine.cursor.next.budget
    rw [List.flatMap_singleton]
    by_cases atEnd : machine.cursor.kind = .endOfText
    · rw [Activation.passed, if_pos atEnd,
        Cursor.budget_next_of_endOfText atEnd]
      rfl
    · rw [Activation.passed, if_neg atEnd]
      exact Cursor.budget_eq_cons_next atEnd
  reported := Cursor.reported_next _
  balanced := by
    intro activation member
    rw [List.mem_singleton.1 member]
    exact fits.passing.balanced (Cursor.openBlocks_next _) rfl

theorem report (fits : machine.Fits frames) (diagnostic : Diagnostic) :
    ((@Recovery.Plan.report depth diagnostic).execute frames machine).Follows
      (Reader.report diagnostic) machine where
  value := rfl
  cursor := rfl
  depth := rfl
  blocks := rfl
  passed := rfl
  reported := rfl
  balanced := by
    intro activation member
    rw [List.mem_singleton.1 member]
    exact (fits.reporting diagnostic).balanced rfl rfl

/-- Behind its body a block is no longer open. -/
theorem leave {block : Block}
    (inside : execution.Follows reader
      ⟨machine.cursor.enter block, machine.depth⟩) :
    Follows
      { execution with
        machine :=
          { execution.machine with cursor := execution.machine.cursor.leave } }
      (Reader.inBlock block reader) machine where
  value := inside.value
  cursor := congrArg Cursor.leave inside.cursor
  depth := inside.depth
  blocks := congrArg List.tail inside.blocks
  passed := inside.passed
  reported := inside.reported
  balanced := inside.balanced

/-- Behind what is nested deeper the depth is what it was. -/
theorem surface
    (inside : execution.Follows reader ⟨machine.cursor, machine.depth + 1⟩) :
    Follows
      { execution with
        machine :=
          { execution.machine with depth := execution.machine.depth - 1 } }
      reader machine where
  value := inside.value
  cursor := inside.cursor
  depth := by rw [inside.depth, Nat.add_sub_cancel]
  blocks := inside.blocks
  passed := inside.passed
  reported := inside.reported
  balanced := inside.balanced

end Execution.Follows

namespace Recovery.Plan

/-- Executing a plan does what its reader does, as long as the counter is at
the depth that the plan is for. -/
theorem execute_follows
    {reader : Recovery α} (plan : Plan depth reader) {frames : List Frame}
    {machine : Machine} (fits : machine.Fits frames)
    (counted : machine.depth = depth) :
    (plan.execute frames machine).Follows reader machine := by
  -- A body and a nested expression start from another machine and inside one
  -- more frame, so both are general in the induction on the plan.
  induction plan generalizing frames machine with
  | pure value => exact .of_run rfl
  | bind first rest ihFirst ihRest =>
    have followsFirst := ihFirst fits counted
    exact followsFirst.bind (ihRest _ (followsFirst.fits fits)
      (followsFirst.depth.trans counted))
  | look => exact .of_run rfl
  | pass => exact .pass fits
  | report diagnostic => exact .report fits diagnostic
  | inBlock block inside ih =>
    have entered := fits.enter block
    have made := ih entered counted
    exact (made.record rfl rfl (entered.balanced made.blocks made.depth)).leave
  | @nested depth _ reader deeper same inside ih =>
    by_cases room : machine.depth < nestingLimit
    · have deepened := fits.deepen room
      have made := ih deepened (congrArg (· + 1) counted)
      rw [execute, if_pos room, same, if_pos (counted ▸ room)]
      exact (made.record rfl rfl
        (deepened.balanced made.blocks made.depth)).surface
    · rw [execute, if_neg room, same, if_neg (counted ▸ room)]
      exact .of_run rfl
  | call name made ih =>
    have inside := fits.routine name
    have followed := ih inside counted
    exact followed.record rfl rfl
      (inside.balanced followed.blocks followed.depth)

end Recovery.Plan

/-! ## Plans that are put together

Where a reader goes from one step to the next, its plan is found from those of
the steps.  Only what it matches on has to be looked at one case at a time. -/

noncomputable section

namespace Recovery.Plan

variable {first second : Recovery α} {following : α → Recovery β}

instance (value : α) : Plan depth (Pure.pure value : Recovery α) := .pure value

instance : Plan depth (MonadState.get : Recovery Cursor) := .look

instance : Plan depth Reader.advance := .pass

instance (diagnostic : Diagnostic) : Plan depth (Reader.report diagnostic) :=
  .report diagnostic

instance
    [here : Plan depth first] [rest : ∀ value, Plan depth (following value)] :
    Plan depth (first >>= following) :=
  .bind here rest

instance (block : Block) [inside : Plan depth first] :
    Plan depth (Reader.inBlock block first) :=
  .inBlock block inside

instance (condition : Prop) [Decidable condition]
    [Plan depth first] [Plan depth second] :
    Plan depth (if condition then first else second) := by
  split <;> assumption

/-- Go on with the answer of a reader that may have failed. -/
@[reducible]
def attempt {reader : Reader α} {following : Except Diagnostic α → Recovery β}
    (here : Reader.Plan depth reader)
    (onValue : ∀ value, Plan depth (following (.ok value)))
    (onError : ∀ diagnostic, Plan depth (following (.error diagnostic))) :
    Plan depth (reader.run >>= following) :=
  .bind here fun
    | .ok value => onValue value
    | .error diagnostic => onError diagnostic

instance
    {reader : Reader α} {following : Except Diagnostic α → Recovery β}
    [here : Reader.Plan depth reader]
    [onValue : ∀ value, Plan depth (following (.ok value))]
    [onError : ∀ diagnostic, Plan depth (following (.error diagnostic))] :
    Plan depth (reader.run >>= following) :=
  attempt here onValue onError

instance loop
    {step : α → Recovery (Step α)} [steps : ∀ value, Plan depth (step value)] :
    (budget : List Token) → (value : α) →
      Plan depth (PapyrusScript.loop step budget value)
  | [], value => .pure value
  | _ :: budget, value => .bind (steps value) fun
    | .again following => loop budget following
    | .done final => .pure final

end Recovery.Plan

namespace Reader.Plan

variable {first second : Reader α} {following : α → Reader β}

instance pure (value : α) : Reader.Plan depth (Pure.pure value) :=
  Recovery.Plan.pure (Except.ok value)

instance throw (diagnostic : Diagnostic) :
    Reader.Plan depth (MonadExcept.throw diagnostic : Reader α) :=
  Recovery.Plan.pure (Except.error diagnostic)

@[reducible]
def bind (here : Reader.Plan depth first)
    (rest : ∀ value, Reader.Plan depth (following value)) :
    Reader.Plan depth (first >>= following) :=
  @Recovery.Plan.bind depth _ _ first.run (ExceptT.bindCont following) here
    fun
    | .ok value => rest value
    | .error diagnostic => throw diagnostic

instance
    [here : Reader.Plan depth first]
    [rest : ∀ value, Reader.Plan depth (following value)] :
    Reader.Plan depth (first >>= following) :=
  bind here rest

instance lift {reader : Recovery α} [made : Recovery.Plan depth reader] :
    Reader.Plan depth (liftM reader) :=
  @Recovery.Plan.bind depth _ _ reader
    (fun value => (Pure.pure value : Reader α).run) made pure

instance look : Reader.Plan depth (MonadState.get : Reader Cursor) :=
  @lift _ _ MonadState.get .look

instance (change : α → β) [made : Reader.Plan depth first] :
    Reader.Plan depth (change <$> first) :=
  bind made fun value => pure (change value)

instance (condition : Prop) [Decidable condition]
    [Reader.Plan depth first] [Reader.Plan depth second] :
    Reader.Plan depth (if condition then first else second) := by
  split <;> assumption

instance loop {step : α → Reader (Step α)}
    [steps : ∀ value, Reader.Plan depth (step value)] :
    (budget : List Token) → (value : α) →
      Reader.Plan depth (PapyrusScript.loop step budget value)
  | [], value => pure value
  | _ :: budget, value => bind (steps value) fun
    | .again following => loop budget following
    | .done final => pure final

@[reducible]
def call (routine : Routine) (made : Reader.Plan depth first) :
    Reader.Plan depth first :=
  Recovery.Plan.call routine made

/-- A reader that goes one level deeper, where there is room for it. -/
@[reducible]
def nested
    (room : depth < nestingLimit) (inside : Reader.Plan (depth + 1) first) :
    Reader.Plan depth first :=
  Recovery.Plan.nested (if_pos room).symm inside

/-- At the limit nothing is nested deeper. -/
@[reducible]
def refused (full : depth = nestingLimit) :
    Reader.Plan depth (Reader.tooDeep : Reader α) :=
  @Recovery.Plan.nested depth α Reader.tooDeep Reader.tooDeep
    (if_neg (full ▸ Nat.lt_irrefl _)).symm <| by
      unfold Reader.tooDeep
      infer_instance

end Reader.Plan

end

end PapyrusScript
