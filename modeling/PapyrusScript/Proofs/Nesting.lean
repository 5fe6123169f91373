import PapyrusScript.Proofs.Travel.Script

/-!
# Nested bodies and operators run to their own end

Bodies nest at most as deep as there are tokens, and operators follow one
another at most as often.  The bounds in `bodyWithin` and `operations` never
cut anything short: a nested body is only read after the keyword that opens
it, and a right side only after its operator.  So both satisfy the equations
that they would satisfy without a bound, `ends_body` and `ends_operations`.

The proof compares two bounds.  `AgreeWithin size` says that two readers do
the same wherever at most `size` tokens are left.
-/

namespace PapyrusScript

open Cursor

variable {α β : Type}

def Recovery.Forward (reader : Recovery α) : Prop :=
  ∀ cursor : Cursor, reader.Ends cursor fun _ after =>
    after.budget.length ≤ cursor.budget.length

def Recovery.AgreeWithin (size : Nat) (first second : Recovery α) : Prop :=
  ∀ cursor : Cursor, cursor.budget.length ≤ size →
    first.run cursor = second.run cursor

namespace Recovery

open Reader

variable {size : Nat} {first second : Recovery α}
variable {following followingToo : α → Recovery β} {reader : Recovery α}

theorem AgreeWithin.refl (reader : Recovery α) :
    AgreeWithin size reader reader :=
  fun _ _ => rfl

theorem AgreeWithin.get {first second : Cursor → Recovery β}
    (same : ∀ cursor, AgreeWithin size (first cursor) (second cursor)) :
    AgreeWithin size (MonadState.get >>= first)
      (MonadState.get >>= second) :=
  fun cursor inside => same cursor cursor inside

/-- Readers that agree on what is left after a common first part agree. -/
theorem run_bind_congr {first second : α → Recovery β} {cursor : Cursor}
    (same :
      reader.Ends cursor fun value after =>
        (first value).run after = (second value).run after) :
    (reader >>= first).run cursor = (reader >>= second).run cursor :=
  same

theorem AgreeWithin.bind
    (agree : AgreeWithin size first second) (forward : first.Forward)
    (rest : ∀ value, AgreeWithin size (following value) (followingToo value)) :
    AgreeWithin size (first >>= following) (second >>= followingToo) := by
  intro cursor inside
  have same := agree cursor inside
  have left := rest (first.run cursor).1 _
    (Nat.le_trans (forward cursor) inside)
  show (following (first.run cursor).1).run (first.run cursor).2 =
    (followingToo (second.run cursor).1).run (second.run cursor).2
  rw [left, same]

/-- Readers that begin alike agree if they agree afterwards. -/
theorem AgreeWithin.after (forward : first.Forward)
    (rest : ∀ value, AgreeWithin size (following value) (followingToo value)) :
    AgreeWithin size (first >>= following) (first >>= followingToo) :=
  (AgreeWithin.refl first).bind forward rest

/-- What follows a token that is passed has fewer tokens left. -/
theorem run_bind_congr_of_advances
    {cursor : Cursor} (advances : reader.Advances cursor)
    (inside : cursor.budget.length ≤ size + 1)
    (rest : ∀ value, AgreeWithin size (following value) (followingToo value)) :
    (reader >>= following).run cursor =
      (reader >>= followingToo).run cursor := by
  refine run_bind_congr (Ends.mono advances fun value after passed => ?_)
  refine rest value after ?_
  have fewer := passed.2
  unfold Precedes at fewer
  omega

theorem forward_of_travels (travels : ∀ cursor, reader.Travels cursor) :
    reader.Forward :=
  fun cursor => (travels cursor).length_le

theorem forward_advance : advance.Forward := by
  intro cursor
  by_cases inside : cursor.kind = .endOfText
  · exact Nat.le_of_eq (congrArg _ (budget_next_of_endOfText inside))
  · exact Nat.le_of_lt (precedes_next inside)

/-- Loops agree where their steps do. -/
theorem agreeWithin_loop {step stepToo : α → Recovery (Step α)}
    (agree : ∀ value, AgreeWithin size (step value) (stepToo value))
    (proceeds : ∀ value cursor, (step value).Proceeds cursor)
    (budget : List Token) (value : α) :
    AgreeWithin size (loop step budget value)
      (loop stepToo budget value) := by
  induction budget generalizing value with
  | nil => exact .refl _
  | cons _ budget ih =>
    have forward := forward_of_travels fun cursor =>
      (proceeds value cursor).travels
    refine (agree value).bind forward fun decision => ?_
    cases decision with
    | again following => exact ih following
    | done final => exact .refl _

theorem agreeWithin_inBlock
    (agree : AgreeWithin size first second) (block : Block) :
    AgreeWithin size (inBlock block first)
      (inBlock block second) := by
  intro cursor inside
  have same := agree (cursor.enter block) inside
  show ((first.run (cursor.enter block)).1,
      (first.run (cursor.enter block)).2.leave) = _
  rw [same]
  rfl

theorem run_lift (reader : Recovery α) (cursor : Cursor) :
    (liftM reader : Reader α).run.run cursor =
      (.ok (reader.run cursor).1, (reader.run cursor).2) :=
  rfl

theorem run_get_bind (following : Cursor → Recovery β) (cursor : Cursor) :
    (MonadState.get >>= following).run cursor = (following cursor).run cursor :=
  rfl

theorem run_run_get_bind (following : Cursor → Reader β) (cursor : Cursor) :
    (MonadState.get >>= following).run.run cursor =
      (following cursor).run.run cursor :=
  rfl

/-! ## Bodies -/

section Bodies

variable {body bodyToo : Block → Recovery (List Statement)}
  (agree : ∀ block, AgreeWithin size (body block) (bodyToo block))
  (travels : ∀ block cursor, (body block).Travels cursor)

include agree travels

/-- Arms agree where the bodies in them do. -/
theorem agreeWithin_nextArm (opener : Token) (arms : Reader.Arms) :
    AgreeWithin size (nextArm body opener arms)
      (nextArm bodyToo opener arms) := by
  have bodyForward := forward_of_travels (travels .conditional)
  unfold nextArm
  refine .get fun cursor => ?_
  split
  · refine .after forward_advance fun token => ?_
    refine .after (forward_of_travels
      (travels_reportElseIfAfterElse arms token)) fun _ => ?_
    refine .after (forward_of_travels (travels_condition _)) fun found => ?_
    exact (agree _).bind bodyForward fun _ => .refl _
  · refine .after forward_advance fun token => ?_
    refine .after (forward_of_travels (travels_finishLine _)) fun _ => ?_
    exact (agree _).bind bodyForward fun _ => .refl _
  · exact .refl _
  · exact .refl _

theorem run_conditionalStatement_congr
    {cursor : Cursor} (found : cursor.kind = .keyword .ifThen)
    (inside : cursor.budget.length ≤ size + 1) :
    (conditionalStatement body).run cursor =
      (conditionalStatement bodyToo).run cursor := by
  have bodyForward := forward_of_travels (travels .conditional)
  refine run_bind_congr_of_advances (advances_of_kind found rfl) inside
    fun keyword => ?_
  refine .after (forward_of_travels (travels_condition _)) fun found => ?_
  refine (agree _).bind bodyForward fun body => .get fun _ => .get fun _ => ?_
  refine (agreeWithin_loop (agreeWithin_nextArm agree travels keyword)
    (proceeds_nextArm travels keyword) _ _).bind ?_ fun _ => .refl _
  exact forward_of_travels
    (travels_loop (proceeds_nextArm travels keyword) _ _)

theorem run_loopStatement_congr
    {cursor : Cursor} (found : cursor.kind = .keyword .whileLoop)
    (inside : cursor.budget.length ≤ size + 1) :
    (loopStatement body).run cursor = (loopStatement bodyToo).run cursor := by
  refine run_bind_congr_of_advances (advances_of_kind found rfl) inside
    fun keyword => ?_
  refine .after (forward_of_travels (travels_condition _)) fun found => ?_
  exact (agree _).bind (forward_of_travels (travels .loop)) fun _ => .refl _

theorem agreeWithin_statement :
    AgreeWithin (size + 1) (statement body).run
      (statement bodyToo).run := by
  intro cursor inside
  unfold statement
  rw [run_run_get_bind, run_run_get_bind]
  split
  · rename_i found
    rw [run_lift, run_lift,
      run_conditionalStatement_congr agree travels found inside]
  · rename_i found
    rw [run_lift, run_lift, run_loopStatement_congr agree travels found inside]
  · rfl
  · rfl

/-- A line agrees one token further than the bodies in it. -/
theorem agreeWithin_bodyLine (block : Block) (statements : List Statement) :
    AgreeWithin (size + 1) (bodyLine body block statements)
      (bodyLine bodyToo block statements) := by
  have forward := forward_of_travels fun cursor =>
    (advances_statement travels cursor).travels.run
  unfold bodyLine
  refine .after (forward_of_travels travels_skipNewlines) fun _ => .get ?_
  intro cursor
  dsimp only
  split
  · exact .refl _
  · split
    · exact .refl _
    · split
      · exact .refl _
      · refine (agreeWithin_statement agree travels).bind forward ?_
        exact fun _ => .refl _

theorem agreeWithin_bodyLines
    (block : Block) (statements : List Statement) (budget : List Token) :
    AgreeWithin (size + 1)
      (loop (bodyLine body block) budget statements)
      (loop (bodyLine bodyToo block) budget statements) :=
  agreeWithin_loop (agreeWithin_bodyLine agree travels block)
    (proceeds_bodyLine travels block) budget statements

end Bodies

/-- Bodies agree whatever bounds them, if there are tokens enough. -/
theorem agreeWithin_bodyWithin
    {bound boundToo : List Token} (enough : size ≤ bound.length)
    (enoughToo : size ≤ boundToo.length) (block : Block) :
    AgreeWithin size (bodyWithin bound block)
      (bodyWithin boundToo block) := by
  induction size generalizing bound boundToo block with
  | zero =>
    intro cursor inside
    simp [Cursor.budget] at inside
  | succ size ih =>
    cases bound with
    | nil => simp at enough
    | cons _ bound =>
      cases boundToo with
      | nil => simp at enoughToo
      | cons _ boundToo =>
        have agree := ih (Nat.le_of_succ_le_succ enough)
          (Nat.le_of_succ_le_succ enoughToo)
        refine agreeWithin_inBlock (.get fun cursor => ?_) block
        exact agreeWithin_bodyLines agree (travels_bodyWithin bound)
          block [] cursor.budget

theorem run_body_eq (block : Block) (cursor : Cursor) :
    (Reader.body block).run cursor =
      (bodyWithin cursor.budget block).run cursor := by
  unfold Reader.body
  rw [run_get_bind]

/-- A bound for as many tokens as are left is no bound at all. -/
theorem agreeWithin_body {bound : List Token} (block : Block) :
    AgreeWithin bound.length (bodyWithin bound block)
      (Reader.body block) := by
  intro cursor inside
  rw [run_body_eq]
  exact agreeWithin_bodyWithin inside (Nat.le_refl _) block cursor
    (Nat.le_refl _)

/-- A body is read line by line, and the bodies in it in the same way. -/
theorem run_body (block : Block) (cursor : Cursor) :
    (Reader.body block).run cursor =
      (inBlock block do
        loop (bodyLine Reader.body block) (← get).budget []).run
        cursor := by
  have lines := agreeWithin_inBlock (.get fun after =>
    agreeWithin_bodyLines agreeWithin_body (travels_bodyWithin cursor.ahead)
      block [] after.budget) block
  rw [run_body_eq, Cursor.budget, bodyWithin]
  exact lines cursor (Nat.le_refl _)

theorem ends_body (block : Block) (cursor : Cursor)
    (post : List Statement → Cursor → Prop) :
    Ends (Reader.body block) cursor post ↔
      Ends (loop (bodyLine Reader.body block) cursor.budget [])
        (cursor.enter block) fun statements after =>
          post statements after.leave := by
  unfold Ends
  rw [run_body]
  rfl

end Recovery

/-! ## Operators -/

namespace Reader

variable {size : Nat}
variable {cursor : Cursor}

theorem agreeWithin_bind
    {first second : Reader α} {following followingToo : α → Reader β}
    (agree : Recovery.AgreeWithin size first.run second.run)
    (forward : first.run.Forward)
    (rest : ∀ value,
      Recovery.AgreeWithin size (following value).run
        (followingToo value).run) :
    Recovery.AgreeWithin size (first >>= following).run
      (second >>= followingToo).run := by
  rw [ExceptT.run_bind, ExceptT.run_bind]
  refine agree.bind forward fun answer => ?_
  cases answer with
  | ok value => exact rest value
  | error diagnostic => exact .refl _

/-- What follows a token that is passed has fewer tokens left. -/
theorem run_bind_congr_of_advances
    {reader : Recovery α} {following followingToo : α → Reader β}
    (advances : reader.Advances cursor)
    (inside : cursor.budget.length ≤ size + 1)
    (rest : ∀ value,
      Recovery.AgreeWithin size (following value).run
        (followingToo value).run) :
    (liftM reader >>= following).run.run cursor =
      (liftM reader >>= followingToo).run.run cursor :=
  Recovery.run_bind_congr_of_advances advances inside rest

variable {unary : Reader Expression}
  (advances : ∀ cursor, unary.Advances cursor)

include advances

/-- Operators agree whatever bounds them, if there are tokens enough. -/
theorem agreeWithin_operations
    {bound boundToo : List Token} (enough : size ≤ bound.length)
    (enoughToo : size ≤ boundToo.length) (level : Precedence)
    (left : Expression) :
    Recovery.AgreeWithin size (operations unary bound level left).run
      (operations unary boundToo level left).run := by
  induction size generalizing bound boundToo level left with
  | zero =>
    intro cursor inside
    simp [Cursor.budget] at inside
  | succ size ih =>
    cases bound with
    | nil => simp at enough
    | cons _ bound =>
      cases boundToo with
      | nil => simp at enoughToo
      | cons _ boundToo =>
        have agree := ih (Nat.le_of_succ_le_succ enough)
          (Nat.le_of_succ_le_succ enoughToo)
        have operandForward := Recovery.forward_of_travels
          fun cursor => (advances cursor).travels.run
        have rightForward := fun level left =>
          Recovery.forward_of_travels fun cursor =>
            (travels_operations advances bound level left cursor).run
        intro cursor inside
        rw [operations, operations, Recovery.run_run_get_bind,
          Recovery.run_run_get_bind]
        split
        · rename_i operator found
          split
          · rfl
          · have ordinary := isOrdinary_of_binaryOperator? found
            refine run_bind_congr_of_advances
              (Recovery.advances_advance ordinary) inside fun _ => ?_
            refine agreeWithin_bind (.refl _) operandForward
              fun first => ?_
            refine agreeWithin_bind (agree _ first) (rightForward _ _)
              fun right => ?_
            exact agree _ _
        · rfl

/-- A bound for as many tokens as are left is no bound at all. -/
theorem ends_operations_budget
    {bound : List Token} (enough : cursor.budget.length ≤ bound.length)
    (level : Precedence) (left : Expression)
    (accepted : Expression → Cursor → Prop)
    (refused : Diagnostic → Cursor → Prop) :
    Ends (operations unary bound level left) cursor accepted refused ↔
      Ends (operations unary cursor.budget level left) cursor accepted
        refused := by
  have same := agreeWithin_operations advances enough (Nat.le_refl _) level
    left cursor (Nat.le_refl _)
  unfold Ends Recovery.Ends
  rw [same]

omit advances in
/-- Operators end at one that binds less tightly, and at anything else. -/
theorem ends_operations_of_weaker {level : Precedence}
    (weaker : ∀ operator, cursor.kind.binaryOperator? = some operator →
      operator.precedence.rank < level.rank)
    (left : Expression) (accepted : Expression → Cursor → Prop)
    (refused : Diagnostic → Cursor → Prop) :
    Ends (operations unary cursor.budget level left) cursor accepted refused ↔
      accepted left cursor := by
  rw [Cursor.budget, operations, ends_bind, ends_get]
  split
  · rename_i operator found
    rw [if_pos (weaker operator found)]
    exact ends_pure left
  · exact ends_pure left

/-- An operator that binds tightly enough takes a right side, and the two
sides together are the left side of what follows. -/
theorem ends_operations {operator : BinaryOperator} {level : Precedence}
    (found : cursor.kind.binaryOperator? = some operator)
    (tight : level.rank ≤ operator.precedence.rank) (left : Expression)
    (accepted : Expression → Cursor → Prop)
    (refused : Diagnostic → Cursor → Prop) :
    Ends (operations unary cursor.budget level left) cursor accepted refused ↔
      unary.Ends cursor.next
        (fun first middle =>
          Ends (operations unary middle.budget operator.precedence.next first)
            middle
            (fun right after =>
              Ends
                (operations unary after.budget level
                  (.binary operator left right
                    (left.span.through right.span)))
                after accepted refused)
            refused)
        refused := by
  have ordinary := isOrdinary_of_binaryOperator? found
  have fewer := precedes_next (Kind.ne_endOfText_of_isOrdinary ordinary)
  have room : cursor.next.budget.length ≤ cursor.ahead.length :=
    Nat.le_of_lt_succ fewer
  rw [Cursor.budget, operations, ends_bind, ends_get]
  simp only [found, if_neg (Nat.not_lt.2 tight)]
  rw [ends_bind, ends_lift, Recovery.ends_advance, ends_bind]
  refine ends_congr_of_ends (advances cursor.next) fun first middle passed => ?_
  have inside := Nat.le_trans passed.1.length_le room
  rw [ends_bind, ends_operations_budget advances inside]
  have rightTravels := travels_operations advances middle.budget
    operator.precedence.next first middle
  refine ends_congr_of_ends rightTravels fun right after reaches => ?_
  exact ends_operations_budget advances
    (Nat.le_trans reaches.length_le inside) _ _ _ _

end Reader

end PapyrusScript
