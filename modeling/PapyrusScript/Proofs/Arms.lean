import PapyrusScript.Proofs.ErrorIsolation
import PapyrusScript.Proofs.Spaced.Body

/-!
# Arms of a conditional in any order

The arms behind the first arm of a conditional may come in any order.  Those
with a condition belong to the conditional up to the first one without, whose
body is the last resort.  Every arm behind that one is reported at its keyword
and left out.

Until the last resort has been read, the loop over the arms does what it does
on a well-formed conditional.  From then on no arm changes what has been read.
-/

namespace PapyrusScript

open Cursor

/-! ## Arms and their tokens -/

/-- The tokens of an arm with a condition, whose keyword is given.  The
condition and the body are read from theirs without a report. -/
structure TestedArm (word : Keyword) where
  keyword : Token
  condition : Expression
  row : List Token
  line : Token
  body : List Statement
  inside : List Token
  kind : keyword.kind = .keyword word
  reads : condition.ReadFrom row
  ends : line.kind = .newline
  readsBody : Statement.BodyFrom body inside

/-- The tokens of an arm without a condition. -/
structure UntestedArm where
  keyword : Token
  line : Token
  body : List Statement
  inside : List Token
  kind : keyword.kind = .keyword .otherwise
  ends : line.kind = .newline
  readsBody : Statement.BodyFrom body inside

/-- An arm behind the first one of a conditional. -/
inductive Arm
  | elseIf (arm : TestedArm .elseIf)
  | otherwise (arm : UntestedArm)

/-- The tokens of a conditional up to the keyword that ends it. -/
structure Chain where
  first : TestedArm .ifThen
  arms : List Arm
  closer : Token
  closes : closer.kind = .keyword .endIf

namespace TestedArm

variable {word : Keyword}

def tokens (arm : TestedArm word) : List Token :=
  arm.keyword :: (arm.row ++ [arm.line] ++ arm.inside)

def branch (arm : TestedArm word) : Branch Statement :=
  ⟨arm.condition, arm.body, .nowhere⟩

end TestedArm

namespace Arm

def tokens : Arm → List Token
  | .elseIf arm => arm.tokens
  | .otherwise arm => arm.keyword :: arm.line :: arm.inside

def isElseIf : Arm → Bool
  | .elseIf _ => true
  | .otherwise _ => false

def branch? : Arm → Option (Branch Statement)
  | .elseIf arm => some arm.branch
  | .otherwise _ => none

def lastResort? : Arm → Option (List Statement)
  | .elseIf _ => none
  | .otherwise arm => some arm.body

def late : Arm → Diagnostic
  | .elseIf arm => ⟨arm.keyword.span.start, .elseIfAfterElse⟩
  | .otherwise arm => ⟨arm.keyword.span.start, .repeatedElse⟩

end Arm

namespace Chain

def tokens (chain : Chain) : List Token :=
  chain.first.tokens ++ (chain.arms.flatMap Arm.tokens ++ [chain.closer])

/-- The conditional of a chain, apart from its places: the arms with a
condition in front of the first one without, whose body is the last resort. -/
def statement (chain : Chain) : Statement :=
  let early := chain.arms.takeWhile Arm.isElseIf
  .conditional (chain.first.branch :: early.filterMap Arm.branch?)
    (chain.arms.findSome? Arm.lastResort?) .nowhere

/-- What is reported of a chain: every arm behind the first one without a
condition. -/
def news (chain : Chain) : List Diagnostic :=
  (chain.arms.dropWhile Arm.isElseIf).tail.map Arm.late

end Chain

namespace Reader

open Recovery

variable {rest ending : List Token} {opener closer : Token} {arms : Arms}

/-- An arm closes the body in front of it, and so does the end. -/
theorem heads_chain (list : List Arm) (closes : closer.kind = .keyword .endIf) :
    Heads (fun kind => Block.conditional.closedBy kind = true)
      (list.flatMap Arm.tokens ++ closer :: rest) := by
  cases list with
  | nil => exact heads_closedBy closes rfl
  | cons arm list =>
    cases arm with
    | elseIf arm => exact heads_closedBy arm.kind rfl
    | otherwise arm => exact heads_closedBy arm.kind rfl

/-! ## Behind the last resort -/

/-- An arm that comes too late is reported and changes nothing. -/
theorem remarks_nextArm (arm : Arm) (closed : arms.otherwise.isSome = true)
    (closes : Heads (fun kind => Block.conditional.closedBy kind = true)
      rest) :
    (nextArm body opener arms).Remarks arm.tokens rest [arm.late]
      fun decision => ∃ following, decision = .again following ∧
        following = arms := by
  unfold nextArm
  apply Recovery.Remarks.get
  intro cursor here
  cases arm with
  | elseIf arm =>
    rw [(kind_of_budget here).trans arm.kind]
    apply Recovery.Remarks.advance (by simp [arm.kind])
    have reported : (reportElseIfAfterElse arms arm.keyword).Remarks []
        (arm.row ++ [arm.line] ++ arm.inside ++ rest)
        [(Arm.elseIf arm).late] fun _ => True := by
      unfold reportElseIfAfterElse
      rw [if_pos closed]
      exact remarks_complain _ _
    apply reported.beforeTakes
    intro _ _
    apply Recovery.Takes.bind (takes_condition arm.reads arm.ends _)
    rintro _ ⟨value, rfl, -⟩
    apply Recovery.Takes.bind_nil (arm.readsBody.takes closes)
    intro inside _
    apply Recovery.Takes.get
    intro after place
    apply Recovery.Takes.pure
    refine ⟨_, rfl, ?_⟩
    simp only [Arms.add, closed, if_true]
  | otherwise arm =>
    rw [(kind_of_budget here).trans arm.kind]
    apply Recovery.Remarks.advance (by simp [arm.kind])
    apply Recovery.Takes.bindRemarks (takes_finishLine arm.ends _)
    intro _ _
    rw [← List.append_nil arm.inside]
    apply Recovery.Takes.bindRemarks (arm.readsBody.takes closes)
    intro inside _
    rw [if_pos closed]
    apply (remarks_complain _ _).bind_nil
    exact fun _ _ => .pure ⟨_, rfl, rfl⟩

/-- Behind the last resort every arm is reported and left out. -/
theorem remarks_lateArms
    (list : List Arm) (closed : arms.otherwise.isSome = true)
    (closes : closer.kind = .keyword .endIf) (ends : LineEnd rest ending) :
    (iterate (nextArm body opener) arms).Remarks
      (list.flatMap Arm.tokens ++ closer :: ending) rest (list.map Arm.late)
      (· = arms) := by
  have proceeds := proceeds_nextArm travels_body opener
  induction list with
  | nil =>
    apply Recovery.Takes.remarks
    apply Recovery.Takes.done proceeds
    exact takes_nextArm_endIf arms closes
      (takes_finishLine_of_lineEnd ends)
  | cons arm list ih =>
    have heads : Heads (fun kind => Block.conditional.closedBy kind = true)
        (list.flatMap Arm.tokens ++ closer :: ending ++ rest) := by
      rw [List.append_assoc]
      exact heads_chain list closes
    rw [List.flatMap_cons, List.append_assoc]
    apply Recovery.Remarks.again proceeds (remarks_nextArm arm closed heads)
    rintro _ rfl
    exact ih

/-! ## Up to the last resort -/

/-- The arms in front of the last resort are added, and those behind it are
reported. -/
theorem remarks_arms (list : List Arm) (complete : arms.complete = true)
    (unclosed : arms.otherwise = none)
    (closes : closer.kind = .keyword .endIf) (ends : LineEnd rest ending) :
    (iterate (nextArm body opener) arms).Remarks
      (list.flatMap Arm.tokens ++ closer :: ending) rest
      ((list.dropWhile Arm.isElseIf).tail.map Arm.late) fun final =>
        final.complete = true ∧
          Statement.bareOtherwise final.otherwise =
            Statement.bareOtherwise (list.findSome? Arm.lastResort?) ∧
          ∃ more, final.branches = arms.branches ++ more ∧
            Statement.bareBranches more = Statement.bareBranches
              ((list.takeWhile Arm.isElseIf).filterMap Arm.branch?) := by
  have proceeds := proceeds_nextArm travels_body opener
  induction list generalizing arms with
  | nil =>
    apply Recovery.Takes.remarks
    apply Recovery.Takes.done proceeds
    apply (takes_nextArm_endIf arms closes
      (takes_finishLine_of_lineEnd ends)).mono
    rintro _ ⟨final, rfl, rfl⟩
    refine ⟨_, rfl, complete, ?_, [], (List.append_nil _).symm, rfl⟩
    rw [unclosed]
    rfl
  | cons arm list ih =>
    have heads : Heads (fun kind => Block.conditional.closedBy kind = true)
        (list.flatMap Arm.tokens ++ closer :: ending ++ rest) := by
      rw [List.append_assoc]
      exact heads_chain list closes
    rw [List.flatMap_cons, List.append_assoc]
    cases arm with
    | elseIf arm =>
      apply Recovery.Takes.againRemarks proceeds
        (takes_nextArm_elseIf arm.kind arm.reads arm.ends unclosed
          (arm.readsBody.takes heads))
      rintro following ⟨unbroken, free, branch, branches, same⟩
      apply (ih (unbroken.trans complete) free).mono
      rintro final ⟨completeToo, otherwise, more, split, sameMore⟩
      refine ⟨completeToo, otherwise, branch :: more, ?_, ?_⟩
      · rw [split, branches, List.append_assoc]
        rfl
      · have added : Statement.bareBranch branch =
            Statement.bareBranch arm.branch := same
        show _ :: _ = _ :: _
        rw [added, sameMore]
    | otherwise arm =>
      apply Recovery.Takes.againRemarks proceeds
        (takes_nextArm_otherwise arm.kind arm.ends unclosed
          (arm.readsBody.takes heads))
      rintro _ ⟨inside, rfl, same⟩
      apply (remarks_lateArms list rfl closes ends).mono
      rintro _ rfl
      refine ⟨complete, congrArg some same, [], ?_, rfl⟩
      exact (List.append_nil _).symm

/-! ## Whole conditionals -/

/-- Of the arms of a conditional those with a condition in front of the first
one without are its branches, whose body is its last resort.  Each arm behind
that one is reported at its keyword, and nothing else is. -/
theorem conditional_places_arms (chain : Chain) (ends : LineEnd rest ending) :
    (statement body).Remarks (chain.tokens ++ ending) rest chain.news
      fun found =>
        ∃ tree, found = some tree ∧ tree.bare = chain.statement.bare := by
  obtain ⟨first, arms, closer, closes⟩ := chain
  have shape : (Chain.mk first arms closer closes).tokens ++ ending =
      first.keyword :: (first.row ++ [first.line] ++
        (first.inside ++ (arms.flatMap Arm.tokens ++ closer :: ending))) := by
    simp [Chain.tokens, TestedArm.tokens]
  have heads : Heads (fun kind => Block.conditional.closedBy kind = true)
      (arms.flatMap Arm.tokens ++ closer :: ending ++ rest) := by
    rw [List.append_assoc]
    exact heads_chain arms closes
  rw [shape]
  unfold statement
  apply Remarks.get
  intro cursor here
  rw [(kind_of_budget here).trans first.kind]
  apply Remarks.lift
  unfold conditionalStatement
  apply Recovery.Remarks.advance (by simp [first.kind])
  apply Recovery.Takes.bindRemarks (takes_condition first.reads first.ends _)
  rintro _ ⟨value, rfl, same⟩
  apply Recovery.Takes.bindRemarks (first.readsBody.takes heads)
  intro inside sameBody
  apply Recovery.Remarks.get
  intro after place
  apply Recovery.Remarks.iterate_nil
    (remarks_arms arms rfl rfl closes ends)
  rintro final ⟨complete, otherwise, more, branches, sameMore⟩
  rw [if_pos complete]
  apply Recovery.Takes.get
  intro last place
  apply Recovery.Takes.pure
  refine ⟨_, rfl, ?_⟩
  rw [branches]
  simp only [Chain.statement, TestedArm.branch, Arms.add, Statement.bare,
    Statement.bareBranches, Statement.bareBranch, List.nil_append,
    List.cons_append, Option.isSome_none, Bool.false_eq_true, if_false, same,
    sameBody, sameMore, otherwise]

end Reader

/-! ## A crowded conditional -/

def TestedArm.always (word : Keyword) (line : Nat) : TestedArm word where
  keyword := .onLine line (.keyword word) word.spelling
  condition := .literal ⟨.bool true, .nowhere⟩
  row := [.onLine line (.keyword .trueLiteral) "True"]
  line := .onLine line .newline "\n"
  body := []
  inside := []
  kind := rfl
  reads := ⟨rfl, rfl, rfl⟩
  ends := rfl
  readsBody := ⟨.onLine line (.keyword .endIf) "EndIf", nofun, rfl, rfl, rfl⟩

def UntestedArm.leaving (line : Nat) : UntestedArm where
  keyword := .onLine line (.keyword .otherwise) "Else"
  line := .onLine line .newline "\n"
  body := [.result none .nowhere]
  inside :=
    [.onLine (line + 1) (.keyword .returnValue) "Return",
      .onLine (line + 1) .newline "\n"]
  kind := rfl
  ends := rfl
  readsBody := ⟨.onLine line (.keyword .endIf) "EndIf", nofun, rfl, rfl, rfl⟩

def Chain.crowded : Chain where
  first := .always .ifThen 1
  arms :=
    [.elseIf (.always .elseIf 2), .otherwise (.leaving 3),
      .elseIf (.always .elseIf 5), .otherwise (.leaving 6)]
  closer := .onLine 8 (.keyword .endIf) "EndIf"
  closes := rfl

/-- Only the first two arms and the last resort are kept of it. -/
theorem Chain.crowded_places_arms :
    LineEnd [] [Token.onLine 8 .newline "\n"] ∧
      (Reader.statement Reader.body).Ends
        (start (Chain.crowded.tokens ++ [.onLine 8 .newline "\n"]))
        (fun found after =>
          (∃ tree, found = some tree ∧ tree.bare = .conditional
            [⟨.literal ⟨.bool true, .nowhere⟩, [], .nowhere⟩,
              ⟨.literal ⟨.bool true, .nowhere⟩, [], .nowhere⟩]
            (some [.result none .nowhere]) .nowhere) ∧
          after.reported =
            [⟨⟨6, 1⟩, .repeatedElse⟩, ⟨⟨5, 1⟩, .elseIfAfterElse⟩])
        fun _ _ => False := by
  have ends {rest : List Token} :
      LineEnd rest [Token.onLine 8 .newline "\n"] := .newline rfl
  refine ⟨ends, ?_⟩
  apply (Reader.conditional_places_arms Chain.crowded ends).ends_start.mono
  · rintro found after ⟨⟨tree, isFound, same⟩, told⟩
    exact ⟨⟨tree, isFound, same⟩, told⟩
  · exact fun _ _ never => never

end PapyrusScript
