import PapyrusScript.Proofs.Reading

/-!
# Strengths of binding, casts and operators

A rendering that binds with some strength may be read at any weaker one,
where the reader then goes on with what follows it.  So what it means to read
a rendering speaks of a reader *and* of how it goes on: what goes on after a
first part is how chains, casts and operators group to the left.

An expression in brackets or behind a prefix operator is read one level
deeper.  Below the deepest level it is refused at its first token.

Casts and binary operators go on after their first operand, and prefix
operators nest.  A minus in front of an integer is read as its sign.
-/

namespace PapyrusScript.Reader

open Cursor

variable {deeper : Nat} {run strength : Precedence} {cursor : Cursor}
  {accepted : Expression → Cursor → Prop}
  {refused : Diagnostic → Cursor → Prop}

def readAt (deeper : Nat) : Precedence → Reader Expression
  | .primary => chain (expressionAt deeper)
  | .cast => casts (expressionAt deeper)
  | .unary => unaryAt deeper
  | run => binary (unaryAt deeper) run

def GoesOn
    (deeper : Nat) (run : Precedence) (value : Expression) (cursor : Cursor)
    (accepted : Expression → Cursor → Prop)
    (refused : Diagnostic → Cursor → Prop) : Prop :=
  match run with
  | .primary =>
    Ends (loop (chainPart (expressionAt deeper)) cursor.budget value) cursor
      accepted refused
  | .cast => Ends (loop nextCast cursor.budget value) cursor accepted refused
  | .unary => accepted value cursor
  | run =>
    Ends (operations (unaryAt deeper) cursor.budget run value) cursor
      accepted refused

theorem readAt_of_weak (weak : run.rank < Precedence.unary.rank) :
    readAt deeper run = binary (unaryAt deeper) run := by
  cases run <;> first | rfl | exact absurd weak (by decide)

theorem goesOn_of_weak
    (weak : run.rank < Precedence.unary.rank) (value : Expression) :
    GoesOn deeper run value cursor accepted refused ↔
      Ends (operations (unaryAt deeper) cursor.budget run value) cursor
        accepted refused := by
  cases run <;> first | rfl | exact absurd weak (by decide)

theorem ends_binary (unary : Reader Expression) (level : Precedence) :
    Ends (binary unary level) cursor accepted refused ↔
      unary.Ends cursor
        (fun first after =>
          Ends (operations unary after.budget level first) after accepted
            refused)
        refused := by
  unfold binary
  rw [ends_bind]
  rfl

theorem ends_chain (inner : Reader Expression) :
    Ends (chain inner) cursor accepted refused ↔
      (primary inner).Ends cursor
        (fun first after =>
          Ends (loop (chainPart inner) after.budget first) after accepted
            refused)
        refused := by
  unfold chain
  rw [ends_bind]
  rfl

theorem ends_casts (inner : Reader Expression) :
    Ends (casts inner) cursor accepted refused ↔
      (chain inner).Ends cursor
        (fun operand after =>
          Ends (loop nextCast after.budget operand) after accepted refused)
        refused := by
  unfold casts
  rw [ends_bind]
  rfl

/-! ## Where a reader stops -/

/-- The token of the kind does not go on with an expression at a strength. -/
def Stops (run : Precedence) (kind : Kind) : Prop :=
  ∀ bond, kind.continuation? = some bond → bond.rank < run.rank

/-- A chain ends in front of a token that does not go on with it. -/
theorem ends_chain_of_stops
    (stops : Stops .primary cursor.kind) (inner : Reader Expression)
    (advances : ∀ cursor, inner.Advances cursor) (value : Expression) :
    Ends (loop (chainPart inner) cursor.budget value) cursor accepted
        refused ↔
      accepted value cursor := by
  rw [ends_loop (proceeds_chainPart advances)]
  unfold chainPart
  rw [ends_bind, ends_get]
  split
  · rename_i found
    exact absurd (stops .primary (by rw [found]; rfl)) (by decide)
  · rename_i found
    exact absurd (stops .primary (by rw [found]; rfl)) (by decide)
  · rename_i found
    exact absurd (stops .primary (by rw [found]; rfl)) (by decide)
  · rfl

theorem ends_casts_of_stops
    (stops : cursor.kind ≠ .keyword .castAs) (value : Expression) :
    Ends (loop nextCast cursor.budget value) cursor accepted refused ↔
      accepted value cursor := by
  rw [ends_loop proceeds_nextCast]
  unfold nextCast
  rw [ends_bind, ends_get, if_neg stops]
  rfl

theorem ends_operations_of_stops
    (stops : Stops run cursor.kind) (unary : Reader Expression)
    (value : Expression) :
    Ends (operations unary cursor.budget run value) cursor accepted
        refused ↔
      accepted value cursor := by
  refine ends_operations_of_weaker (fun operator found => ?_) value _ _
  refine stops operator.precedence ?_
  cases kind : cursor.kind with
  | symbol sign => cases sign <;> simp_all [Kind.continuation?, Kind.binaryOperator?]
  | keyword word => simp [kind, Kind.binaryOperator?] at found
  | _ => simp [kind, Kind.binaryOperator?] at found

/-! ## From strong to weak -/

variable {rendering : Rendering} {tree : Expression} {follow : Token}
  {rest : List Token}

/-- The reader of a strength passes a rendering, reads the tree that it is of
up to places, and goes on from there. -/
def ReadsAt (deeper : Nat) (run : Precedence) (rendering : Rendering)
    (tree : Expression) (rest : List Token) (cursor : Cursor) : Prop :=
  ∀ (accepted : Expression → Cursor → Prop)
    (refused : Diagnostic → Cursor → Prop),
    rendering.Leads rest cursor
        (fun after => ∀ value : Expression, value.bare = tree.bare →
          GoesOn deeper run value after accepted refused)
        refused →
      (readAt deeper run).Ends cursor accepted refused

/-- What may follow a rendering of some strength that is read at a strength:
nothing that would bind a part of it more strongly than its place does, and
no bracket behind the bare creation of an object. -/
structure Fits
    (rendering : Rendering) (strength run : Precedence) (kind : Kind) :
    Prop where
  bound : ∀ bond, kind.continuation? = some bond →
    bond.rank ≤ strength.rank ∧
      (bond.rank ≤ run.rank ∨ bond.rank < Precedence.unary.rank)
  apart : rendering.isCreation = true → kind ≠ .symbol .openBracket

theorem Fits.ne_openBracket
    {kind : Kind} (fits : Fits rendering strength run kind)
    (below : strength.rank < Precedence.primary.rank) :
    kind ≠ .symbol .openBracket := by
  intro equal
  subst equal
  have bound := (fits.bound .primary rfl).1
  omega

/-- What may follow at a weaker strength does not depend on the rendering. -/
theorem Fits.of_weak {other : Rendering} {kind : Kind}
    (fits : Fits rendering strength run kind)
    (below : strength.rank < Precedence.primary.rank) :
    Fits other strength run kind :=
  ⟨fits.bound, fun _ => fits.ne_openBracket below⟩

theorem Fits.stops_primary (fits : Fits rendering strength run follow.kind)
    (below : run.rank < Precedence.primary.rank) :
    Stops .primary follow.kind := by
  intro bond found
  have unary : Precedence.unary.rank < Precedence.primary.rank := by decide
  have bound := (fits.bound bond found).2
  omega

theorem Fits.ne_castAs (fits : Fits rendering strength run follow.kind)
    (below : run.rank < Precedence.cast.rank) :
    follow.kind ≠ .keyword .castAs := by
  intro found
  have bound := (fits.bound .cast (by rw [found]; rfl)).2
  have unary : Precedence.unary.rank < Precedence.cast.rank := by decide
  omega

theorem ReadsAt.cast
    (reads : ReadsAt deeper .primary rendering tree (follow :: rest) cursor)
    (stops : Stops .primary follow.kind) :
    ReadsAt deeper .cast rendering tree (follow :: rest) cursor := by
  intro accepted refused leads
  show Ends (casts (expressionAt deeper)) cursor accepted refused
  rw [ends_casts]
  refine reads _ _ (leads.mono fun after place _ goesOn value same => ?_)
  rw [← kind_of_budget place] at stops
  show Ends (loop (chainPart (expressionAt deeper)) after.budget value) _ _ _
  rw [ends_chain_of_stops stops _ (advances_expressionAt deeper)]
  exact goesOn value same

/-- The reader of the operand of a prefix operator, one level deeper. -/
def operandAt : Nat → Reader Expression
  | 0 => tooDeep
  | levels + 1 => unaryAt levels

theorem unaryAt_eq (levels : Nat) :
    unaryAt levels = operand (operandAt levels) (expressionAt levels) := by
  cases levels <;> rfl

/-- What reads a cast reads it as an operand without a sign in front. -/
theorem ReadsAt.unary
    (reads : ReadsAt deeper .cast rendering tree (follow :: rest) cursor)
    (plain : cursor.kind.unaryOperator? = none)
    (stops : follow.kind ≠ .keyword .castAs) :
    ReadsAt deeper .unary rendering tree (follow :: rest) cursor := by
  intro accepted refused leads
  have unsigned : atSignedInteger cursor = false := by
    have other : cursor.kind ≠ .symbol .minus := by
      intro found
      rw [found] at plain
      cases plain
    simp [atSignedInteger, other]
  show Ends (unaryAt deeper) cursor accepted refused
  rw [unaryAt_eq]
  unfold operand
  rw [ends_bind, ends_get, unsigned, plain]
  refine reads _ _ (leads.mono fun after place _ goesOn value same => ?_)
  show Ends (loop nextCast after.budget value) _ _ _
  rw [ends_casts_of_stops (kind_of_budget place ▸ stops)]
  exact goesOn value same

theorem ReadsAt.weak (reads : ReadsAt deeper .unary rendering tree rest cursor)
    (weak : run.rank < Precedence.unary.rank) :
    ReadsAt deeper run rendering tree rest cursor := by
  intro accepted refused leads
  rw [readAt_of_weak weak, ends_binary]
  refine reads _ _ (leads.mono fun after _ _ goesOn value same => ?_)
  exact (goesOn_of_weak weak value).1 (goesOn value same)

theorem ReadsAt.of_unary
    (reads : ReadsAt deeper .unary rendering tree rest cursor)
    (below : run.rank ≤ Precedence.unary.rank) :
    ReadsAt deeper run rendering tree rest cursor := by
  rcases Nat.lt_or_eq_of_le below with weak | same
  · exact reads.weak weak
  · cases run <;> first | exact reads | exact absurd same (by decide)

theorem ReadsAt.of_cast
    (reads : ReadsAt deeper .cast rendering tree (follow :: rest) cursor)
    (plain : cursor.kind.unaryOperator? = none)
    (fits : Fits rendering strength run follow.kind)
    (below : run.rank ≤ Precedence.cast.rank) :
    ReadsAt deeper run rendering tree (follow :: rest) cursor := by
  rcases Nat.lt_or_eq_of_le below with weaker | same
  · exact (reads.unary plain (fits.ne_castAs weaker)).of_unary
      (Nat.le_of_lt_succ weaker)
  · cases run <;> first | exact reads | exact absurd same (by decide)

theorem ReadsAt.of_primary
    (reads : ReadsAt deeper .primary rendering tree (follow :: rest) cursor)
    (plain : cursor.kind.unaryOperator? = none)
    (fits : Fits rendering strength run follow.kind) :
    ReadsAt deeper run rendering tree (follow :: rest) cursor := by
  by_cases below : run.rank < Precedence.primary.rank
  · exact (reads.cast (fits.stops_primary below)).of_cast plain fits
      (Nat.le_of_lt_succ below)
  · cases run <;> first | exact reads | exact absurd (by decide) below

/-! ## Nested expressions -/

variable {level : Nat}

def IsRead (level : Nat) (part : Part) (rendering : Rendering) : Prop :=
  match part with
  | .expression strength tree =>
    tree.WellShaped →
    ∀ deeper, deeper + level = nestingLimit →
    ∀ run : Precedence, run.rank ≤ strength.rank →
    ∀ cursor follow rest,
      cursor.budget = rendering.tokens ++ follow :: rest →
      Fits rendering strength run follow.kind →
      ReadsAt deeper run rendering tree (follow :: rest) cursor
  | .arguments list =>
    list ≠ [] →
    (∀ argument ∈ list, argument.value.WellShaped) →
    ∀ deeper, deeper + level = nestingLimit →
    ∀ cursor follow rest,
      cursor.budget = rendering.tokens ++ follow :: rest →
      follow.kind = .symbol .closeParen →
      ∀ (accepted : List (Argument Expression) → Cursor → Prop)
        (refused : Diagnostic → Cursor → Prop) before,
        rendering.Leads (follow :: rest) cursor
            (fun after => ∀ values,
              Expression.bareArguments values = Expression.bareArguments list →
                accepted (before ++ values) after)
            refused →
          Ends
            (loop (nextArgument (expressionAt deeper)) cursor.budget
              before)
            cursor accepted refused

theorem Fits.of_continuation?_eq_none
    {kind : Kind} (none : kind.continuation? = none) :
    Fits rendering strength run kind where
  bound := by
    intro bond found
    cases none.symm.trans found
  apart := by
    intro _ equal
    subst equal
    cases none

/-- An expression below the deepest level is refused at its first token. -/
theorem ends_tooDeep {passed : Cursor → Prop}
    (renders : Renders level (.expression strength tree) rendering)
    (deep : nestingLimit < level)
    (here : cursor.budget = rendering.tokens ++ rest)
    (leads : rendering.Leads rest cursor passed refused) :
    Ends tooDeep cursor accepted refused := by
  obtain ⟨⟨token, _⟩, more, rfl, start⟩ := renders.starts
  obtain rfl := start.level
  have failed := leads.tooDeep deep
  have standing : cursor.current = token := current_of_budget here
  rw [← standing] at failed
  exact failed

/-- An expression in brackets is read on the next level, or else refused at
its first token. -/
theorem IsRead.inner
    (read : IsRead (level + 1) (.expression .logicalOr tree) rendering)
    (renders : Renders (level + 1) (.expression .logicalOr tree) rendering)
    (shaped : tree.WellShaped) (room : deeper + level = nestingLimit)
    (here : cursor.budget = rendering.tokens ++ follow :: rest)
    (stops : follow.kind.continuation? = none)
    (leads : rendering.Leads (follow :: rest) cursor
      (fun after => ∀ value, value.bare = tree.bare → accepted value after)
      refused) :
    (expressionAt deeper).Ends cursor accepted refused := by
  cases deeper with
  | zero =>
    exact ends_tooDeep renders (by omega) here leads
  | succ deeper =>
    refine read shaped deeper (by omega) .logicalOr (Nat.le_refl _) cursor
      follow rest here (.of_continuation?_eq_none stops) _ _ ?_
    refine leads.mono fun after place _ goesOn value same => ?_
    show Ends (operations (unaryAt deeper) after.budget _ value) after _ _
    rw [ends_operations_of_stops]
    · exact goesOn value same
    · intro bond found
      rw [kind_of_budget place, stops] at found
      cases found

/-- An operand one level down is read where there is room for it. -/
theorem IsRead.operand
    (read : IsRead (level + 1) (.expression .unary tree) rendering)
    (renders : Renders (level + 1) (.expression .unary tree) rendering)
    (shaped : tree.WellShaped) (room : deeper + level = nestingLimit)
    (here : cursor.budget = rendering.tokens ++ follow :: rest)
    (fits : Fits rendering .unary .unary follow.kind)
    (leads : rendering.Leads (follow :: rest) cursor
      (fun after => ∀ value, value.bare = tree.bare → accepted value after)
      refused) :
    (operandAt deeper).Ends cursor accepted refused := by
  cases deeper with
  | zero =>
    exact ends_tooDeep renders (by omega) here leads
  | succ deeper =>
    exact read shaped deeper (by omega) .unary (Nat.le_refl _) cursor
      follow rest here fits _ _ leads

/-! ## Casts and operators -/

variable {rendering : Rendering} {tree : Expression} {follow : Token} {rest : List Token} {level : Nat}
variable {span : Span}

theorem goesOn_cast (value : Expression) :
    GoesOn deeper .cast value cursor accepted refused ↔
      (nextCast value).Ends cursor
        (fun decision after =>
          match decision with
          | .again following =>
            GoesOn deeper .cast following after accepted refused
          | .done final => accepted final after)
        refused := by
  show Ends (loop nextCast cursor.budget value) _ _ _ ↔ _
  rw [ends_loop proceeds_nextCast]
  constructor <;> intro ends <;>
    refine ends.mono (fun decision _ holds => ?_) (fun _ _ holds => holds) <;>
    cases decision <;> exact holds

/-- A cast is read behind its operand. -/
theorem reads_cast
    {word : Token} {value : Expression} {target : TypeName} {before : Rendering}
    {type : List Token} (room : deeper + level = nestingLimit)
    (read : IsRead level (.expression .cast value) before)
    (shaped : value.WellShaped) (kind : word.kind = .keyword .castAs)
    (spelled : target.Spelled type) (apart : follow.kind ≠ .symbol .openBracket)
    (here : cursor.budget = before.tokens ++ word :: (type ++ follow :: rest)) :
    ReadsAt deeper .cast (before ++ (word, level) :: Rendering.flat level type)
      (.cast value target span) (follow :: rest) cursor := by
  intro accepted refused leads
  have fits : Fits before .cast .cast word.kind := by
    refine ⟨fun bond found => ?_, fun _ => by simp [kind]⟩
    rw [kind] at found
    cases found
    exact ⟨Nat.le_refl _, Or.inl (Nat.le_refl _)⟩
  refine read shaped deeper room .cast (Nat.le_refl _) cursor word _ here fits
    accepted refused ?_
  refine leads.append.mono fun middle place _ more value same => ?_
  have found : middle.kind = .keyword .castAs :=
    (kind_of_budget place).trans kind
  have next := budget_next_of_budget place (by simp [kind])
  have onward := more.next (by omega)
  unfold Rendering.Leads at onward
  rw [Rendering.tooDeep?_flat (by omega)] at onward
  rw [goesOn_cast]
  unfold nextCast
  rw [ends_bind, ends_get, if_pos found, ends_bind, ends_lift,
    Recovery.ends_advance, ends_bind]
  refine reads_typeName spelled apart next fun after place quiet type sameToo => ?_
  refine onward after place quiet _ ?_
  simp only [Expression.bare, same, sameToo]

/-- A minus and an integer are read as one literal. -/
theorem reads_signed {minus token : Token} {number : Int32}
    (room : deeper + level = nestingLimit)
    (sign : minus.kind = .symbol .minus) (kind : token.kind = .intLiteral)
    (reads : Number.integer? true token.text.toList = some number)
    (plain : continuesOperand follow.kind = false)
    (here : cursor.budget = minus :: token :: follow :: rest) :
    ReadsAt deeper .unary [(minus, level), (token, level)]
      (.literal ⟨.int number, span⟩) (follow :: rest) cursor := by
  intro accepted refused leads
  have found : cursor.kind = .symbol .minus := (kind_of_budget here).trans sign
  have next := budget_next_of_budget here (by simp [sign])
  have after := budget_next_of_budget next (by simp [kind])
  have goesOn := ((leads.next (by omega)).next (by omega)).nil after
  have signed : atSignedInteger cursor = true := by
    unfold atSignedInteger
    rw [kindAt_eq, kindAt_eq, here]
    simp [found, kind, plain]
  have value : negativeValue cursor.next.current = .ok (.int number) := by
    rw [current_of_budget next]
    simp only [negativeValue, kind, integerValue, reads]
  show Ends (unaryAt deeper) cursor accepted refused
  rw [unaryAt_eq]
  unfold operand
  rw [ends_bind, ends_get, if_pos signed, ends_bind]
  unfold constant
  rw [ends_bind, ends_get, if_pos found, ends_bind, ends_lift,
    Recovery.ends_advance, ends_bind, ends_get, value]
  exact goesOn _ rfl

theorem continuesOperand_of_rank_le {kind : Kind} {bond : Precedence}
    (found : kind.continuation? = some bond)
    (strong : Precedence.unary.rank ≤ bond.rank) :
    continuesOperand kind = true := by
  unfold Kind.continuation? at found
  split at found
  · rfl
  · rfl
  · rfl
  · rfl
  · obtain ⟨operator, _, rfl⟩ := Option.map_eq_some_iff.1 found
    exact absurd operator.rank_precedence_lt (Nat.not_lt.2 strong)

/-- What fits behind an operand does not go on with it. -/
theorem continuesOperand_eq_false
    (fits : Fits rendering .unary run follow.kind) :
    continuesOperand follow.kind = false := by
  rw [Bool.eq_false_iff]
  intro continues
  have tight : ∃ bond, follow.kind.continuation? = some bond ∧
      Precedence.unary.rank < bond.rank := by
    unfold continuesOperand at continues
    split at continues
    · rename_i kind
      exact ⟨.cast, by rw [kind]; rfl, by decide⟩
    · rename_i kind
      exact ⟨.primary, by rw [kind]; rfl, by decide⟩
    · rename_i kind
      exact ⟨.primary, by rw [kind]; rfl, by decide⟩
    · rename_i kind
      exact ⟨.primary, by rw [kind]; rfl, by decide⟩
    · cases continues
  obtain ⟨bond, found, strong⟩ := tight
  exact absurd strong (Nat.not_lt.2 (fits.bound bond found).1)

/-- A minus is no sign if what follows renders more than an integer. -/
theorem atSignedInteger_eq_false {behind : Rendering} {sign : Token}
    (renders : Renders level (.expression .unary tree) behind)
    (unfolded : sign.kind = .symbol .minus → behind.isInteger = false)
    (here : cursor.budget = sign :: (behind.tokens ++ follow :: rest)) :
    atSignedInteger cursor = false := by
  rw [Bool.eq_false_iff]
  intro signed
  have continues := renders.continues
  obtain ⟨⟨first, _⟩, more, rfl, _⟩ := renders.starts
  unfold atSignedInteger at signed
  rw [kindAt_eq, kindAt_eq, here, kind_of_budget here] at signed
  simp only [Bool.and_eq_true, decide_eq_true_eq] at signed
  obtain ⟨⟨isMinus, isInteger⟩, free⟩ := signed
  have number : first.kind = .intLiteral := by simpa using isInteger
  cases more with
  | nil => simpa [Rendering.isInteger, number] using unfolded isMinus
  | cons entry more =>
    obtain ⟨second, _⟩ := entry
    obtain ⟨bond, found, strong⟩ := continues _ _ more rfl (Or.inr number)
    have tight := continuesOperand_of_rank_le found strong
    simp [tight] at free

/-- A prefix operator is read in front of its operand. -/
theorem reads_unary
    {operator : UnaryOperator} {sign : Token} {behind : Rendering}
    (room : deeper + level = nestingLimit)
    (kind : sign.kind = .symbol operator.symbol)
    (renders : Renders (level + 1) (.expression .unary tree) behind)
    (read : IsRead (level + 1) (.expression .unary tree) behind)
    (unfolded : operator = .negate → behind.isInteger = false)
    (shaped : tree.WellShaped) (fits : Fits behind .unary .unary follow.kind)
    (here : cursor.budget = sign :: (behind.tokens ++ follow :: rest)) :
    ReadsAt deeper .unary ((sign, level) :: behind)
      (.unary operator tree span) (follow :: rest) cursor := by
  intro accepted refused leads
  have found : cursor.kind.unaryOperator? = some operator := by
    rw [kind_of_budget here, kind]
    exact operator.unaryOperator?_symbol
  have next := budget_next_of_budget here (by simp [kind])
  have unsigned : atSignedInteger cursor = false := by
    refine atSignedInteger_eq_false renders (fun minus => unfolded ?_) here
    rw [kind] at minus
    cases operator with
    | negate => rfl
    | not => cases minus
  show Ends (unaryAt deeper) cursor accepted refused
  rw [unaryAt_eq]
  unfold operand
  rw [ends_bind, ends_get, unsigned, found]
  simp only [Bool.false_eq_true, if_false]
  rw [ends_bind, ends_lift, Recovery.ends_advance, ends_bind]
  refine read.operand renders shaped room next fits ?_
  refine (leads.next (by omega)).mono fun after _ _ goesOn value same => ?_
  refine goesOn (.unary operator value _) ?_
  simp only [Expression.bare, same]

/-- The right side of an operator is read one level tighter, and stops where
the operator itself would go on. -/
theorem IsRead.right {operator : BinaryOperator}
    (read : IsRead level (.expression operator.precedence.next tree) rendering)
    (shaped : tree.WellShaped) (room : deeper + level = nestingLimit)
    (here : cursor.budget = rendering.tokens ++ follow :: rest)
    (fits : Fits rendering operator.precedence.next operator.precedence.next
      follow.kind)
    (stops : Stops operator.precedence.next follow.kind)
    (leads : rendering.Leads (follow :: rest) cursor
      (fun after => ∀ value, value.bare = tree.bare → accepted value after)
      refused) :
    Ends (binary (unaryAt deeper) operator.precedence.next) cursor accepted
      refused := by
  have reads := read shaped deeper room _ (Nat.le_refl _) cursor follow rest
    here fits
  have stopped : ∀ after value, after.budget = follow :: rest →
      accepted value after →
        Ends
          (operations (unaryAt deeper) after.budget operator.precedence.next
            value)
          after accepted refused := by
    intro after value place holds
    rw [← kind_of_budget place] at stops
    exact (ends_operations_of_stops stops _ value).2 holds
  by_cases weak : operator.precedence.next.rank < Precedence.unary.rank
  · rw [← readAt_of_weak weak]
    refine reads _ _ (leads.mono fun after place _ holds value same => ?_)
    rw [goesOn_of_weak weak]
    exact stopped after value place (holds value same)
  · -- behind the tightest operators comes an operand by itself
    have unary : operator.precedence.next = .unary := by
      cases operator <;> first | rfl | exact absurd (by decide) weak
    rw [ends_binary]
    rw [unary] at reads
    refine reads _ _ (leads.mono fun after place _ holds value same => ?_)
    exact stopped after value place (holds value same)

/-- A binary operation is read between its two sides. -/
theorem reads_binary
    {operator : BinaryOperator} {sign : Token} {left right : Expression}
    {before behind : Rendering} (room : deeper + level = nestingLimit)
    (kind : sign.kind = .symbol operator.symbol)
    (first : IsRead level (.expression operator.precedence left) before)
    (second : IsRead level (.expression operator.precedence.next right) behind)
    (shapedLeft : left.WellShaped) (shapedRight : right.WellShaped)
    (below : run.rank ≤ operator.precedence.rank)
    (fits : Fits behind operator.precedence run follow.kind)
    (here : cursor.budget =
      before.tokens ++ sign :: (behind.tokens ++ follow :: rest)) :
    ReadsAt deeper run (before ++ (sign, level) :: behind)
      (.binary operator left right span) (follow :: rest) cursor := by
  intro accepted refused leads
  have weak := Nat.lt_of_le_of_lt below operator.rank_precedence_lt
  have fitsLeft : Fits before operator.precedence run sign.kind := by
    refine ⟨fun bond found => ?_, fun _ => ?_⟩
    · rw [kind, operator.continuation?_symbol] at found
      cases found
      exact ⟨Nat.le_refl _, Or.inr operator.rank_precedence_lt⟩
    · rw [kind]
      cases operator <;> decide
  have nextRank : operator.precedence.next.rank =
      operator.precedence.rank + 1 :=
    Precedence.rank_next _ (by cases operator <;> decide)
  have stops : Stops operator.precedence.next follow.kind := by
    intro bond found
    have bound := (fits.bound bond found).1
    omega
  have fitsRight : Fits behind operator.precedence.next
      operator.precedence.next follow.kind := by
    refine ⟨fun bond found => ?_, fits.apart⟩
    have bound := stops bond found
    exact ⟨Nat.le_of_lt bound, Or.inl (Nat.le_of_lt bound)⟩
  refine first shapedLeft deeper room run below cursor sign _ here fitsLeft
    accepted refused ?_
  refine leads.append.mono fun middle place _ more value same => ?_
  have found : middle.kind.binaryOperator? = some operator := by
    rw [kind_of_budget place, kind]
    exact operator.binaryOperator?_symbol
  have next := budget_next_of_budget place (by simp [kind])
  rw [goesOn_of_weak weak, ends_operations (advances_unaryAt deeper) found
    below, ← ends_binary]
  refine second.right shapedRight room next fitsRight stops ?_
  refine (more.next (by omega)).mono fun after _ _ goesOn other sameToo => ?_
  rw [← goesOn_of_weak weak]
  refine goesOn _ ?_
  simp only [Expression.bare, same, sameToo]

end PapyrusScript.Reader
