import PapyrusScript.Proofs.WellNested
import PapyrusScript.Proofs.Passage

/-!
# Every call in a script returns with the stacks that it found

Every reader has a plan, in which it calls the readers that it uses.  What
stands in no expression is read at any depth.  A whole expression is read one
level deeper than what it stands in, and so is the operand of a prefix
operator; the levels that are left are those up to the limit.

No statement and no declaration stands inside an expression, so all of them
are read at depth zero.  The body of a block is read with the frame of the
block around all calls that are made for its lines.

The plans are only there to be executed by proofs.  The execution of the plan
of a script from the first token on is the reading of the script.  Whatever
comes of a call that is made in it, the open blocks and the depth are the same
behind it as in front of it, and are those of the bodies and the nested
expressions around it.
-/

namespace PapyrusScript

noncomputable section

variable {depth : Nat}

namespace Recovery.Plan

open Reader

/-! ## Single tokens -/

instance (position : Position) (cause : Cause) :
    Plan depth (complain position cause) :=
  .call .complain <| .report _

instance (expected : String) : Plan depth (unexpected expected) :=
  .call .unexpected <| .bind .look inferInstance

instance : Plan depth discard := .call .discard <| .bind .pass inferInstance

instance (block : Block) (opener : Token) :
    Plan depth (reportUnterminated block opener) :=
  .call .reportUnterminated <| .bind .look inferInstance

instance {α : Type} (expected : String) :
    Reader.Plan depth (reject expected : Reader α) :=
  .call .reject <| .bind inferInstance inferInstance

instance (kind : Kind) (purpose : String) :
    Reader.Plan depth (expect kind purpose) :=
  .call .expect <| .bind .look inferInstance

instance (what : String) : Reader.Plan depth (identifier what) :=
  .call .identifier <| .bind .look inferInstance

/-! ## Ends of lines and recovery -/

instance (context : String) : Reader.Plan depth (endOfLine context) :=
  .call .endOfLine <| .bind .look fun cursor => by
    -- The plan depends on the kind only, not on whose kind it is.
    generalize cursor.kind = kind
    split <;> infer_instance

instance (context : String) : Reader.Plan depth (endOfDeclaration context) :=
  .call .endOfDeclaration <| .bind .look inferInstance

instance (state : Unit) : Plan depth (passNewline state) :=
  .call .passNewline <| .bind .look inferInstance

instance : Plan depth skipNewlines :=
  .call .skipNewlines <| .bind .look inferInstance

instance (state : Unit) : Plan depth (discardInLine state) :=
  .call .discardInLine <| .bind .look inferInstance

instance : Plan depth skipLine := .call .skipLine <| .bind .look inferInstance

instance (diagnostic : Diagnostic) :
    Plan depth (reportAndSkipLine diagnostic) :=
  .call .reportAndSkipLine <| .bind (.report _) inferInstance

instance (context : String) : Plan depth (finishLine context) :=
  .call .finishLine <| .attempt inferInstance inferInstance inferInstance

instance (state : Unit) : Plan depth (discardInStatement state) :=
  .call .discardInStatement <| .bind .look fun cursor => by
    generalize cursor.kind = kind
    split <;> infer_instance

instance : Plan depth synchronize :=
  .call .synchronize <| .bind .look inferInstance

instance (state : Unit) : Plan depth (discardToMember state) :=
  .call .discardToMember <| .bind inferInstance inferInstance

instance : Plan depth recoverToMember :=
  .call .recoverToMember <| .bind inferInstance inferInstance

instance (block : Block) (state : Unit) :
    Plan depth (discardInBody block state) :=
  .call .discardInBody <| .bind inferInstance inferInstance

instance (block : Block) : Plan depth (skipBody block) :=
  .call .skipBody <| .bind .look inferInstance

instance (block? : Option Block) : Plan depth (skipMember block?) :=
  .call .skipMember <| by
    cases block? <;> exact .bind inferInstance inferInstance

/-! ## Types and literals -/

instance : Reader.Plan depth elementType :=
  .call .elementType <| .bind .look fun cursor => by
    cases dataType? cursor.current <;> infer_instance

instance : Reader.Plan depth typeName :=
  .call .typeName <| .bind inferInstance inferInstance

instance : Reader.Plan depth literal :=
  .call .literal <| .bind .look fun cursor => by
    cases literalValue cursor.current <;> infer_instance

instance : Reader.Plan depth constant :=
  .call .constant <| .bind .look fun cursor => by
    split
    · exact .bind inferInstance fun _ => .bind .look fun cursor => by
        cases negativeValue cursor.current <;> infer_instance
    · infer_instance

instance : Reader.Plan depth initialConstant :=
  .call .initialConstant <| .bind .look inferInstance

/-! ## Expressions -/

instance : Plan depth argumentName :=
  .call .argumentName <| .bind .look inferInstance

instance (size : Expression) : Plan depth (checkArraySize size) :=
  .call .checkArraySize <| by
    unfold checkArraySize
    split <;> infer_instance

section Operands

variable {deeper inner : Reader Expression}
  [Reader.Plan depth deeper] [Reader.Plan depth inner]

instance : Reader.Plan depth (argument inner) :=
  .call .argument <| .bind .look inferInstance

instance (found : List (Argument Expression)) :
    Reader.Plan depth (nextArgument inner found) :=
  .call .nextArgument <| .bind inferInstance inferInstance

instance : Reader.Plan depth (argumentList inner) :=
  .call .argumentList <| .bind .look inferInstance

instance : Reader.Plan depth (arguments inner) :=
  .call .arguments <| .bind inferInstance inferInstance

instance : Reader.Plan depth (newObject inner) :=
  .call .newObject <| .bind inferInstance inferInstance

instance : Reader.Plan depth (primary inner) :=
  .call .primary <| .bind .look fun cursor => by
    dsimp only
    generalize cursor.kind = kind
    split
    · infer_instance
    · split <;> infer_instance

instance (left : Expression) : Reader.Plan depth (chainPart inner left) :=
  .call .chainPart <| .bind .look fun cursor => by
    generalize cursor.kind = kind
    split
    · infer_instance
    · infer_instance
    · split
      · exact .bind inferInstance fun (_, _) => inferInstance
      · infer_instance
    · infer_instance

instance : Reader.Plan depth (chain inner) :=
  .call .chain <| .bind inferInstance inferInstance

instance (left : Expression) : Reader.Plan depth (nextCast left) :=
  .call .nextCast <| .bind .look inferInstance

instance : Reader.Plan depth (casts inner) :=
  .call .casts <| .bind inferInstance inferInstance

instance operand : Reader.Plan depth (Reader.operand deeper inner) :=
  .call .operand <| .bind .look fun cursor => by
    split
    · infer_instance
    · cases cursor.kind.unaryOperator? <;> infer_instance

/-- The operators behind a left side, by recursion on the budget. -/
instance operations :
    (budget : List Token) → (level : Precedence) → (left : Expression) →
      Reader.Plan depth (Reader.operations deeper budget level left)
  | [], _, _ => .pure _
  | _ :: budget, _, _ =>
    have := operations budget
    .call .operations <| .bind .look fun cursor => by
      cases cursor.kind.binaryOperator? <;> infer_instance

instance binary (level : Precedence) :
    Reader.Plan depth (Reader.binary deeper level) :=
  .call .binary <| .bind inferInstance inferInstance

end Operands

/-- An operand where all levels up to the limit are left. -/
@[reducible]
def unaryAt :
    (levels : Nat) → {depth : Nat} → depth + levels = nestingLimit →
      Reader.Plan depth (Reader.unaryAt levels)
  | 0, _, left =>
    @operand _ _ _ (.refused left) (.call .expression (.refused left))
  | levels + 1, depth, left =>
    have room : depth < nestingLimit := by omega
    have := @unaryAt levels (depth + 1) (by omega)
    @operand _ _ _ (.nested room inferInstance)
      (.call .expression (.nested room inferInstance))

/-- An expression that is nested in no other has all levels left. -/
instance : Reader.Plan 0 expression :=
  have := @unaryAt 63 1 rfl
  .call .expression (.nested (by decide) (binary _))

/-! ## Statements by themselves -/

instance : Reader.Plan 0 returnedValue :=
  .call .returnedValue <| .bind .look inferInstance

instance : Reader.Plan 0 returnStatement :=
  .call .returnStatement <| .bind inferInstance inferInstance

instance : Reader.Plan 0 initialExpression :=
  .call .initialExpression <| .bind .look inferInstance

instance : Reader.Plan 0 declareStatement :=
  .call .declareStatement <| .bind inferInstance inferInstance

instance
    (start : Position) (target : Expression) (operator : AssignmentOperator) :
    Reader.Plan 0 (assignment start target operator) :=
  .call .assignment <| by unfold assignment; infer_instance

instance (start : Position) (target : Expression) :
    Reader.Plan 0 (assignmentOr start target) :=
  .call .assignmentOr <| .bind .look fun cursor => by
    cases cursor.kind.assignmentOperator? <;> infer_instance

instance : Reader.Plan 0 expressionStatement :=
  .call .expressionStatement <| .bind .look inferInstance

/-! ## Blocks -/

instance (context : String) : Plan 0 (condition context) :=
  .call .condition <| .attempt inferInstance inferInstance inferInstance

instance (arms : Arms) (keyword : Token) :
    Plan 0 (reportElseIfAfterElse arms keyword) :=
  .call .reportElseIfAfterElse <| by
    unfold reportElseIfAfterElse
    infer_instance

instance (opener : Token) : Plan 0 (endOfLoop opener) :=
  .call .endOfLoop <| .bind .look inferInstance

section Bodies

variable {body : Block → Recovery (List Statement)}
  [∀ block, Plan 0 (body block)]

instance (opener : Token) (arms : Arms) : Plan 0 (nextArm body opener arms) :=
  .call .nextArm <| .bind .look fun cursor => by
    generalize cursor.kind = kind
    split <;> infer_instance

instance : Plan 0 (conditionalStatement body) :=
  .call .conditionalStatement <| .bind .pass inferInstance

instance : Plan 0 (loopStatement body) :=
  .call .loopStatement <| .bind .pass fun _ => .bind inferInstance fun found =>
    .bind inferInstance fun _ => .bind inferInstance fun _ => by
      cases found <;> infer_instance

instance : Reader.Plan 0 (statement body) :=
  .call .statement <| .bind .look fun cursor => by
    generalize cursor.kind = kind
    split <;> infer_instance

instance (block : Block) (statements : List Statement) :
    Plan 0 (bodyLine body block statements) :=
  .call .bodyLine <| .bind inferInstance fun _ => .bind .look fun cursor => by
    dsimp only
    split
    · infer_instance
    · split
      · infer_instance
      · split
        · infer_instance
        · exact .attempt inferInstance
            (fun | none => inferInstance | some _ => inferInstance)
            inferInstance

end Bodies

/-- A body, by recursion on the tokens that bound how deep bodies nest. -/
instance bodyWithin : (budget : List Token) → (block : Block) →
      Plan 0 (Reader.bodyWithin budget block)
  | [], _ => .pure _
  | _ :: budget, block =>
    have := bodyWithin budget
    .call .body <| .inBlock block <| .bind .look inferInstance

instance (block : Block) : Plan 0 (body block) := .bind .look inferInstance

/-! ## Parameters -/

instance : Reader.Plan 0 parameter :=
  .call .parameter <| .bind .look inferInstance

instance : Reader.Plan 0 openParameters :=
  .call .openParameters <| by unfold openParameters; infer_instance

instance (found : List Parameter × Option Diagnostic) :
    Plan 0 (nextParameter found) :=
  .call .nextParameter <| .attempt inferInstance
    (fun _ => .bind .look fun cursor => by
      generalize cursor.kind = kind
      split <;> infer_instance)
    inferInstance

instance : Plan 0 parameters :=
  .call .parameters <| .attempt inferInstance inferInstance inferInstance

/-! ## Functions and events -/

instance (block : Block) (flags : CallableFlags) :
    Plan 0 (nextCallableFlag block flags) :=
  .call .nextCallableFlag <| .bind .look fun cursor => by
    generalize cursor.kind = kind
    split <;> infer_instance

instance (block : Block) : Plan 0 (callableFlags block) :=
  .call .callableFlags <| .bind .look inferInstance

instance (block : Block) (context : String) :
    Plan 0 (callableHeader block context) :=
  .call .callableHeader <| .bind inferInstance fun
    | (_, some _) => inferInstance
    | (_, none) => inferInstance

instance (block : Block) (opener : Token) : Plan 0 (openBody block opener) :=
  .call .openBody <| .bind inferInstance inferInstance

instance (block : Block) (opener : Token) (flags : CallableFlags) :
    Plan 0 (callableBody block opener flags) :=
  .call .callableBody <| by unfold callableBody; infer_instance

instance (returnType : Option TypeName) : Reader.Plan 0 (function returnType) :=
  .call .function <| .bind inferInstance inferInstance

instance : Reader.Plan 0 event :=
  .call .event <| .bind inferInstance inferInstance

/-! ## Variables -/

instance (seen : Bool) : Recovery.Plan 0 (nextVariableFlag seen) :=
  .call .nextVariableFlag <| .bind .look inferInstance

instance : Recovery.Plan 0 variableFlags :=
  .call .variableFlags <| .bind .look inferInstance

instance (type : TypeName) : Reader.Plan 0 (variableAfter type) :=
  .call .variableAfter <| .bind inferInstance inferInstance

/-! ## Headers of properties -/

instance (header : PropertyHeader) : Plan 0 (automaticFlag header) :=
  .call .automaticFlag <| by unfold automaticFlag; infer_instance

instance (found : PropertyHeader × Option Diagnostic) :
    Plan 0 (propertyFlag found) :=
  .call .propertyFlag <| .bind .look fun cursor => by
    generalize cursor.kind = kind
    split <;> infer_instance

instance : Plan 0 propertyHeader :=
  .call .propertyHeader <| .attempt inferInstance inferInstance inferInstance

instance : Plan 0 propertyLine :=
  .call .propertyLine <| .bind inferInstance fun
    | (_, some _) => inferInstance
    | (_, none) => inferInstance

/-! ## Functions of properties -/

instance : Reader.Plan 0 accessor :=
  .call .accessor <| .bind .look inferInstance

instance (applies : Bool) (found : Function) (cause : Cause) :
    Plan 0 (complainIf applies found cause) :=
  .call .complainIf <| by unfold complainIf; infer_instance

instance
    (property : String) (accessors : Accessors) (found : Function) :
    Plan 0 (placeAccessor property accessors found) :=
  .call .placeAccessor <| by unfold placeAccessor; infer_instance

instance (keyword : Token) (property : String) (accessors : Accessors) :
    Plan 0 (nextAccessor keyword property accessors) :=
  .call .nextAccessor <| .bind inferInstance fun _ => .bind .look inferInstance

instance (keyword : Token) (property : String) :
    Plan 0 (accessorList keyword property) :=
  .call .accessorList <| .inBlock .property inferInstance

instance (keyword : Token) (property : String) (accessors : Accessors) :
    Plan 0 (reportNoAccessor keyword property accessors) :=
  .call .reportNoAccessor <| by unfold reportNoAccessor; infer_instance

instance (keyword : Token) (property : String) :
    Plan 0 (propertyBlock keyword property) :=
  .call .propertyBlock <| .bind inferInstance inferInstance

/-! ## Properties -/

instance (line : PropertyLine) : Plan 0 (standsAlone line) :=
  .call .standsAlone <| by unfold standsAlone; infer_instance

instance
    (property : String) (keyword : Token) (line : PropertyLine) :
    Plan 0 (reportMissingValue property keyword line) :=
  .call .reportMissingValue <| by
    unfold reportMissingValue
    infer_instance

instance
    (property : String) (keyword : Token) (line : PropertyLine) :
    Plan 0 (automaticSource property keyword line) :=
  .call .automaticSource <| by
    unfold automaticSource
    cases line.header.initial <;> infer_instance

instance (property : String) (initial : Option Literal) :
    Plan 0 (reportInitialValue property initial) :=
  .call .reportInitialValue <| by
    unfold reportInitialValue
    cases initial <;> infer_instance

instance
    (property : String) (keyword : Token) (line : PropertyLine) :
    Plan 0 (fullSource property keyword line) :=
  .call .fullSource <| .bind inferInstance inferInstance

instance (type : TypeName) : Reader.Plan 0 (propertyAfter type) :=
  .call .propertyAfter <| .bind inferInstance fun _ => .bind inferInstance
    fun _ => .bind inferInstance fun line => .bind inferInstance fun _ => by
      cases line.header.automatic <;> infer_instance

/-! ## Members -/

instance : Reader.Plan 0 typedMember :=
  .call .typedMember <|
    .bind inferInstance fun _ => .bind .look fun cursor => by
      generalize cursor.kind = kind
      split <;> infer_instance

instance : Reader.Plan 0 plainMember :=
  .call .plainMember <| .bind .look inferInstance

/-! ## States -/

instance (state : String) (found : StateBody) :
    Plan 0 (hoistedMember state found) :=
  .call .hoistedMember <| .bind .look inferInstance

instance (keyword : Token) (found : StateBody) :
    Plan 0 (unfinishedState keyword found) :=
  .call .unfinishedState <| .bind inferInstance inferInstance

instance (keyword : Token) (state : String) (found : StateBody) :
    Plan 0 (nextInState keyword state found) :=
  .call .nextInState <|
    .bind inferInstance fun _ => .bind .look fun cursor => by
      generalize cursor.kind = kind
      split <;> infer_instance

instance (keyword : Token) (state : String) :
    Plan 0 (stateBody keyword state) :=
  .call .stateBody <| .inBlock .state inferInstance

instance : Plan 0 autoMark := .call .autoMark <| .bind .look inferInstance

instance : Reader.Plan 0 stateMembers :=
  .call .stateMembers <| .bind .look inferInstance

instance : Reader.Plan 0 members :=
  .call .members <| .bind .look fun cursor => by
    generalize cursor.kind = kind
    split <;> infer_instance

/-! ## Scripts -/

instance : Reader.Plan 0 importLine :=
  .call .importLine <| .bind inferInstance inferInstance

instance : Reader.Plan 0 parentName :=
  .call .parentName <| .bind .look inferInstance

instance : Reader.Plan 0 scriptName :=
  .call .scriptName <| .bind inferInstance inferInstance

instance (diagnostic : Diagnostic) : Plan 0 (reportAndRecover diagnostic) :=
  .call .reportAndRecover <| .bind (.report _) inferInstance

instance (found : ScriptBody) : Plan 0 (nextDeclaration found) :=
  .call .nextDeclaration <| .bind inferInstance fun _ =>
    .bind .look fun cursor => by
      generalize cursor.kind = kind
      split <;> infer_instance

instance (header : Header) : Plan 0 (headerFlags header) :=
  .call .headerFlags <| .bind .look fun cursor => by
    generalize cursor.kind = kind
    split <;> infer_instance

instance (blank : Header) : Plan 0 (headerLine blank) :=
  .call .headerLine <| .attempt inferInstance inferInstance inferInstance

instance : Plan 0 missingHeader :=
  .call .missingHeader <| .bind .look inferInstance

instance : Plan 0 header := .call .header <| .bind .look inferInstance

instance script : Plan 0 Reader.script :=
  .call .script <| .bind inferInstance inferInstance

end Recovery.Plan

end

/-! ## All calls of a script -/

theorem Activation.kind_of_mem_passed {activation : Activation} {token : Token}
    (member : token ∈ activation.passed) : token.kind ≠ .endOfText := by
  unfold passed at member
  split at member
  · split at member
    · cases member
    · rename_i inside
      rwa [List.mem_singleton.1 member]
  · cases member

namespace Recovery.Plan

open Cursor

theorem script_follows (tokens : List Token) :
    (script.execute [] ⟨start tokens, 0⟩).Follows Reader.script
      ⟨start tokens, 0⟩ := by
  have nothing : Machine.Fits ⟨start tokens, 0⟩ [] :=
    ⟨openBlocks_start tokens, rfl, Nat.zero_le _⟩
  exact execute_follows script nothing rfl

/-- What the calls for single tokens pass is what stands in front of the first
end of the text. -/
theorem passed_script (tokens : List Token) :
    (script.execute [] ⟨start tokens, 0⟩).record.flatMap
        Activation.passed =
      (tokens ++ missingEnd tokens).takeWhile
        fun token => token.kind ≠ .endOfText := by
  have follows := script_follows tokens
  have stops : (script.execute [] ⟨start tokens, 0⟩).machine.cursor.kind
      = .endOfText := by
    rw [follows.cursor]
    exact Recovery.kind_script _
  generalize script.execute [] ⟨start tokens, 0⟩ = execution at *
  have inside : ∀ token ∈ execution.record.flatMap Activation.passed,
      token.kind ≠ .endOfText := by
    intro token member
    obtain ⟨activation, -, found⟩ := List.mem_flatMap.1 member
    exact Activation.kind_of_mem_passed found
  -- The script stops at an end of the text, and none is passed before it.
  have outside : ¬ execution.machine.cursor.current.kind ≠ .endOfText :=
    fun inside => inside stops
  rw [← budget_start, follows.passed,
    List.takeWhile_append_of_pos (by simpa using inside)]
  simp [budget, outside]

end Recovery.Plan

/-- Reading the tokens of a script with a counter of levels and a stack of
open blocks gives the script and its errors.  Whenever a call is made on the
way, the counter is the number of levels around it and at most the limit, and
the stack lists the blocks around it; both are the same when it returns,
whatever comes of it.  No call for a token or an error is left out of the
record, and the counter ends at zero. -/
theorem script_restores_stacks (tokens : List Token) :
    let first : Machine := ⟨Cursor.start tokens, 0⟩
    let execution := Recovery.Plan.script.execute [] first
    (∀ activation ∈ execution.record, activation.Balanced) ∧
      Parsed.ofTokens tokens =
        ⟨execution.value, execution.record.flatMap Activation.reported⟩ ∧
      execution.record.flatMap Activation.passed =
        ((tokens ++ Cursor.missingEnd tokens).takeWhile
          fun token => token.kind ≠ .endOfText) ∧
      execution.machine = ⟨(Reader.script.run first.cursor).2, 0⟩ := by
  intro first execution
  have follows := Recovery.Plan.script_follows tokens
  refine ⟨follows.balanced, ?_, Recovery.Plan.passed_script tokens, ?_⟩
  · rw [Parsed.ofTokens_eq, ← follows.value, ← follows.cursor, follows.reported,
      Cursor.reported_start, List.append_nil, List.reverse_reverse]
  · exact follows.machine_eq

end PapyrusScript
