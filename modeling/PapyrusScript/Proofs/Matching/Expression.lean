import PapyrusScript.Proofs.Matching

/-!
# Matching expressions

Over tokens that stand for each other, the readers of types, literals and
expressions read the same up to places, and fail with diagnostics that tell the
same.  The text of a token is used for names, for object types and for values.
Each time the kind of the token has been found out before, and it is no
keyword.
-/

namespace PapyrusScript.Reader

variable {pairing : Pairing}

theorem matches_expect (kind : Kind) (purpose : String) :
    (expect kind purpose).Matches pairing (expect kind purpose)
      pairing.pairs := by
  apply Matches.get
  intro cursor twin alike
  apply Matches.ite (by rw [alike.kind])
  · exact fun _ => .lift Recovery.matches_advance
  · intro _
    split <;> exact matches_reject _

theorem matches_identifier (what : String) :
    (identifier what).Matches pairing (identifier what)
      (pairing.Twins Identifier.bare) := by
  apply Matches.look
  intro cursor twin alike
  rw [alike.kind]
  split
  · rename_i named
    exact .take alike (.pure (Pairing.same_identifier alike.current named))
  · exact matches_reject _ _ _ alike

/-! ## Types and literals -/

theorem dataType?_of_pairs
    {token twin : Token} (pair : pairing.pairs token twin) :
    dataType? twin = dataType? token := by
  unfold dataType?
  rw [pairing.kind pair]
  split
  case h_5 named => rw [pairing.text pair (by rw [named]; rfl)]
  all_goals rfl

theorem matches_elementType :
    elementType.Matches pairing elementType (pairing.Twins TypeName.bare) := by
  apply Matches.get
  intro cursor twin alike
  rw [dataType?_of_pairs alike.current]
  split
  · apply Matches.take
    intro token twin pair
    exact .pure ⟨rfl, fun still => by rw [pairing.span still pair]⟩
  · exact matches_reject _

/-- A type is the same up to places. -/
theorem matches_typeName :
    typeName.Matches pairing typeName (pairing.Twins TypeName.bare) := by
  apply matches_elementType.bind
  intro element twinElement same
  apply Matches.get
  intro cursor twin alike
  rw [alike.kind, alike.kindAt]
  apply Matches.ite Iff.rfl
  · intro _
    apply Matches.take
    intro _ _ _
    apply Matches.take
    intro close twinClose closes
    apply Matches.pure
    refine ⟨TypeName.sameBy_iff.2
      ⟨(TypeName.sameBy_iff.1 same.known).1, rfl⟩, fun still => ?_⟩
    rw [same.equal still, pairing.span still closes]
  · exact fun _ => .pure same

section Values

variable {token twin : Token} (pair : pairing.pairs token twin)
include pair

theorem answers_integerValue
    (other : token.kind.isKeyword = false) (negative : Bool) :
    pairing.Answers Eq (integerValue negative token)
      (integerValue negative twin) := by
  unfold integerValue
  rw [pairing.text pair other]
  split
  · exact rfl
  · exact Pairing.tells_of_syntactic rfl fun still =>
      by rw [pairing.span still pair]

theorem answers_floatValue
    (other : token.kind.isKeyword = false) (negative : Bool) :
    pairing.Answers Eq (floatValue negative token)
      (floatValue negative twin) := by
  unfold floatValue
  rw [pairing.text pair other]
  split
  · split
    · exact Pairing.tells_of_syntactic rfl fun still =>
        by rw [pairing.span still pair]
    · exact rfl
  · exact Pairing.tells_of_syntactic rfl fun still =>
      by rw [pairing.span still pair]

/-- Two tokens that stand for each other have the same value, or are wrong in
the same way. -/
theorem answers_literalValue :
    pairing.Answers Eq (literalValue token) (literalValue twin) := by
  unfold literalValue
  rw [pairing.kind pair]
  split
  case h_1 found => exact answers_integerValue pair (by rw [found]; rfl) false
  case h_2 found => exact answers_floatValue pair (by rw [found]; rfl) false
  case h_3 found =>
    exact congrArg Value.string
      (pairing.text pair (by rw [found]; rfl)).symm
  all_goals first
    | exact rfl
    | exact Pairing.tells_unexpected pair _

theorem answers_negativeValue :
    pairing.Answers Eq (negativeValue token) (negativeValue twin) := by
  unfold negativeValue
  rw [pairing.kind pair]
  split
  · rename_i found
    exact answers_integerValue pair (by rw [found]; rfl) true
  · rename_i found
    exact answers_floatValue pair (by rw [found]; rfl) true
  · exact Pairing.tells_unexpected pair _

end Values

/-- A value that is found at both tokens is taken in both runs. -/
theorem matches_checked {answer twinAnswer : Except Diagnostic Value}
    {place twinPlace : Token → Span}
    (placed : ∀ token twin, pairing.pairs token twin → pairing.Still →
      twinPlace twin = place token) :
    pairing.Answers Eq answer twinAnswer →
    Matches (match answer with
      | .error diagnostic => throw diagnostic
      | .ok value => do
          let token ← advance
          return (⟨value, place token⟩ : Literal)) pairing
      (match twinAnswer with
      | .error diagnostic => throw diagnostic
      | .ok value => do
          let token ← advance
          return (⟨value, twinPlace token⟩ : Literal))
      (pairing.Twins Literal.bare) := by
  intro answers
  cases answer with
  | ok value =>
    cases twinAnswer with
    | ok twinValue =>
      obtain rfl : value = twinValue := answers
      apply Matches.take
      intro token twin pair
      exact .pure ⟨rfl, fun still => by rw [placed _ _ pair still]⟩
    | error _ => exact answers.elim
  | error _ =>
    cases twinAnswer with
    | ok _ => exact answers.elim
    | error _ => exact matches_throw answers

theorem matches_literal :
    literal.Matches pairing literal (pairing.Twins Literal.bare) := by
  apply Matches.get
  intro cursor twin alike
  exact matches_checked (fun _ _ pair still => pairing.span still pair)
    (answers_literalValue alike.current)

theorem matches_constant :
    constant.Matches pairing constant (pairing.Twins Literal.bare) := by
  apply Matches.get
  intro cursor twin alike
  apply Matches.ite (by rw [alike.kind])
  · intro _
    apply Matches.take
    intro minus twinMinus signs
    apply Matches.get
    intro cursor twin alike
    refine matches_checked (fun _ _ pair still => ?_)
      (answers_negativeValue alike.current)
    rw [pairing.span still signs, pairing.span still pair]
  · exact fun _ => matches_literal

theorem matches_initialConstant :
    initialConstant.Matches pairing initialConstant
      (pairing.Twins (Option.map Literal.bare)) := by
  apply Matches.get
  intro cursor twin alike
  apply Matches.ite (by rw [alike.kind])
  · intro _
    apply Matches.take
    intro _ _ _
    apply matches_constant.bind
    exact fun node twin same => .pure same.some
  · exact fun _ => .pure (.refl _ _)

/-! ## One level of nesting -/

theorem matches_tooDeep {α : Type} {same : α → α → Prop} :
    Matches tooDeep pairing tooDeep same := by
  apply Matches.get
  intro cursor twin alike
  exact matches_throw_of_syntactic rfl alike.position

theorem matches_argumentName :
    Recovery.Matches argumentName pairing argumentName
      (pairing.Twins (Option.map Identifier.bare)) := by
  apply Recovery.Matches.look
  intro cursor twin alike
  rw [alike.kind, alike.kindAt]
  split
  · rename_i named
    have name : cursor.kind = .identifier := by
      simp only [Bool.and_eq_true, decide_eq_true_eq] at named
      exact named.1
    refine .take alike (.take fun _ _ _ => .pure ?_)
    exact (Pairing.same_identifier alike.current name).some
  · exact Recovery.Matches.pure (.refl _ _) _ _ alike

theorem checkArraySize_of_ne_literal
    {size : Expression} (other : ∀ node, size ≠ .literal node) :
    checkArraySize size = pure () := by
  unfold checkArraySize
  split
  · exact absurd rfl (other _)
  · rfl

/-- The size of an array is checked alike in both runs. -/
theorem matches_checkArraySize
    {size twin : Expression} (same : pairing.Twins Expression.bare size twin) :
    Recovery.Matches (checkArraySize size) pairing (checkArraySize twin)
      fun _ _ => True := by
  by_cases literal : ∃ node, size = .literal node
  · obtain ⟨⟨value, span⟩, rfl⟩ := literal
    obtain ⟨place, rfl⟩ := Expression.eq_literal_of_bare_eq same.known
    cases value with
    | int count =>
      apply Recovery.Matches.ite Iff.rfl
      · intro _
        refine Recovery.matches_complain rfl fun still => ?_
        cases same.equal still
        rfl
      · exact fun _ => .pure trivial
    | _ => exact .pure trivial
  · have other (node : Literal) : size ≠ .literal node :=
      fun found => literal ⟨node, found⟩
    have otherTwin (node : Literal) : twin ≠ .literal node := by
      rintro rfl
      obtain ⟨place, found⟩ := Expression.eq_literal_of_bare_eq same.known.symm
      exact other _ found
    rw [checkArraySize_of_ne_literal other,
      checkArraySize_of_ne_literal otherTwin]
    exact .pure trivial

/-- A cast is the same up to places, if its operand is. -/
theorem matches_nextCast
    {operand twin : Expression}
    (same : pairing.Twins Expression.bare operand twin) :
    (nextCast operand).Matches pairing (nextCast twin)
      (Step.Decides (pairing.Twins Expression.bare)) := by
  apply Matches.get
  intro cursor twinCursor alike
  apply Matches.ite (by rw [alike.kind])
  · intro _
    apply Matches.take
    intro _ _ _
    apply matches_typeName.bind
    intro target twinTarget sameTarget
    apply Matches.pure
    refine ⟨congrArg₂ (Expression.cast · · .nowhere) same.known
      sameTarget.known, fun still => ?_⟩
    rw [same.equal still, sameTarget.equal still]
  · exact fun _ => .pure same

section Nested

variable {deeper inner unary : Reader Expression}

section Inner

variable (both : inner.Matches pairing inner (pairing.Twins Expression.bare))
include both

/-- An argument is the same up to places, its name included. -/
theorem matches_argument :
    (argument inner).Matches pairing (argument inner)
      (pairing.Twins Expression.bareArgument) := by
  apply Matches.get
  intro cursor twin alike
  apply (Matches.lift matches_argumentName).bind
  intro name twinName sameName
  apply both.bind
  intro value twinValue sameValue
  apply Matches.get
  intro after twinAfter later
  apply Matches.pure
  refine ⟨congrArg₂ (Argument.mk · · .nowhere) sameName.known sameValue.known,
    fun still => ?_⟩
  rw [sameName.equal still, sameValue.equal still, alike.position still,
    later.spanFrom still]

theorem matches_nextArgument {found twin : List (Argument Expression)}
    (same : pairing.Twins (List.map Expression.bareArgument) found twin) :
    (nextArgument inner found).Matches pairing (nextArgument inner twin)
      (Step.Decides (pairing.Twins (List.map Expression.bareArgument))) := by
  apply (matches_argument both).bind
  intro next twinNext sameNext
  apply Matches.get
  intro cursor twinCursor alike
  apply Matches.ite (by rw [alike.kind])
  · intro _
    apply Matches.take
    exact fun _ _ _ => .pure (same.concat sameNext)
  · exact fun _ => .pure (same.concat sameNext)

/-- Arguments end with brackets that stand for each other. -/
theorem matches_arguments :
    (arguments inner).Matches pairing (arguments inner) fun found twin =>
      pairing.Twins (List.map Expression.bareArgument) found.1 twin.1 ∧
        pairing.pairs found.2 twin.2 := by
  have listed : (argumentList inner).Matches pairing (argumentList inner)
      (pairing.Twins (List.map Expression.bareArgument)) := by
    apply Matches.get
    intro cursor twin alike
    apply Matches.ite (by rw [alike.kind])
    · exact fun _ => .pure (.refl _ _)
    · exact fun _ => .loop (fun _ _ => matches_nextArgument both)
        alike.length (.refl _ _)
  apply (matches_expect _ _).bind
  intro _ _ _
  apply listed.bind
  intro found twinFound same
  apply (matches_expect _ _).bind
  exact fun _ _ closes => .pure ⟨same, closes⟩

/-- A new object or array is the same up to places. -/
theorem matches_newObject :
    (newObject inner).Matches pairing (newObject inner)
      (pairing.Twins Expression.bare) := by
  apply (matches_expect _ _).bind
  intro keyword twinKeyword opens
  apply matches_elementType.bind
  intro type twinType sameType
  apply Matches.get
  intro cursor twin alike
  apply Matches.ite (by rw [alike.kind])
  · intro _
    apply Matches.take
    intro _ _ _
    apply both.bind
    intro size twinSize sameSize
    apply (Matches.lift (matches_checkArraySize sameSize)).bind
    intro _ _ _
    apply (matches_expect _ _).bind
    intro close twinClose closes
    apply Matches.pure
    refine ⟨?_, fun still => ?_⟩
    · have element := (TypeName.sameBy_iff.1 sameType.known).1
      simp [SameBy, Expression.bare, Expression.bareSize, TypeName.bare,
        element, show twinSize.bare = size.bare from sameSize.known]
    · rw [sameType.equal still, sameSize.equal still, pairing.span still opens,
        pairing.span still closes]
  · intro _
    apply Matches.pure
    refine ⟨congrArg (Expression.create · none .nowhere) sameType.known,
      fun still => ?_⟩
    rw [sameType.equal still, pairing.span still opens]

/-- An operand without prefix is the same up to places. -/
theorem matches_primary :
    (primary inner).Matches pairing (primary inner)
      (pairing.Twins Expression.bare) := by
  apply Matches.look
  intro cursor twin alike
  dsimp only
  rw [alike.kind]
  split
  · refine Matches.bind matches_literal ?_ _ _ alike
    exact fun node twin same => .pure (same.wrap Expression.literal fun _ => rfl)
  · split
    · rename_i named
      refine .take alike (.pure ?_)
      exact (Pairing.same_identifier alike.current named).wrap Expression.name
        fun _ => rfl
    · apply MatchesAt.take alike
      apply both.bind
      intro value twinValue same
      apply (matches_expect _ _).bind
      exact fun _ _ _ => .pure same
    · exact matches_newObject both _ _ alike
    · exact matches_reject _ _ _ alike

/-- One more part of a chain is the same up to places. -/
theorem matches_chainPart
    {tree twin : Expression} (same : pairing.Twins Expression.bare tree twin) :
    (chainPart inner tree).Matches pairing (chainPart inner twin)
      (Step.Decides (pairing.Twins Expression.bare)) := by
  apply Matches.get
  intro cursor twinCursor alike
  rw [alike.kind]
  split
  · apply Matches.take
    intro _ _ _
    apply Matches.get
    intro cursor twinCursor alike
    apply Matches.ite (by rw [alike.kind])
    · intro _
      apply Matches.take
      intro token twinToken pair
      apply Matches.pure
      refine ⟨congrArg (Expression.arrayLength · .nowhere) same.known,
        fun still => ?_⟩
      rw [same.equal still, pairing.span still pair]
    · intro _
      apply (matches_identifier _).bind
      intro field twinField sameField
      apply Matches.pure
      refine ⟨congrArg₂ (Expression.member · · .nowhere) same.known
        sameField.known, fun still => ?_⟩
      rw [same.equal still, sameField.equal still]
  · apply Matches.take
    intro _ _ _
    apply both.bind
    intro subscript twinSubscript sameSubscript
    apply (matches_expect _ _).bind
    intro close twinClose closes
    apply Matches.pure
    refine ⟨congrArg₂ (Expression.index · · .nowhere) same.known
      sameSubscript.known, fun still => ?_⟩
    rw [same.equal still, sameSubscript.equal still, pairing.span still closes]
  · rw [Expression.isCallable_of_sameBy same.known]
    apply Matches.ite Iff.rfl
    · intro _
      apply (matches_arguments both).bind
      rintro ⟨found, close⟩ ⟨twinFound, twinClose⟩ ⟨sameFound, closes⟩
      apply Matches.pure
      refine ⟨?_, fun still => ?_⟩
      · have listed := sameFound.known
        rw [SameBy, ← Expression.bareArguments_eq_map,
          ← Expression.bareArguments_eq_map] at listed
        exact congrArg₂ (Expression.call · · .nowhere) same.known listed
      · have listed : twinFound = found := sameFound.equal still
        rw [same.equal still, listed, pairing.span still closes]
    · intro _
      apply Matches.get
      exact fun _ _ alike => matches_throw_of_syntactic rfl alike.position
  · exact .pure same

theorem matches_chain :
    (chain inner).Matches pairing (chain inner) (pairing.Twins Expression.bare) := by
  apply (matches_primary both).bind
  intro first twinFirst same
  apply Matches.get
  intro cursor twin alike
  exact .loop (fun _ _ => matches_chainPart both) alike.length same

theorem matches_casts :
    (casts inner).Matches pairing (casts inner) (pairing.Twins Expression.bare) := by
  apply (matches_chain both).bind
  intro operand twinOperand same
  apply Matches.get
  intro cursor twin alike
  exact .loop (fun _ _ => matches_nextCast) alike.length same

end Inner

theorem atSignedInteger_of_resembles
    {cursor twin : Cursor} (alike : pairing.Resembles cursor twin) :
    atSignedInteger twin = atSignedInteger cursor := by
  simp only [atSignedInteger, alike.kind, alike.kindAt]

/-- An operand with prefix operators is the same up to places. -/
theorem matches_operand
    (operand : deeper.Matches pairing deeper (pairing.Twins Expression.bare))
    (both : inner.Matches pairing inner (pairing.Twins Expression.bare)) :
    (Reader.operand deeper inner).Matches pairing
      (Reader.operand deeper inner) (pairing.Twins Expression.bare) := by
  apply Matches.get
  intro cursor twin alike
  rw [atSignedInteger_of_resembles alike, alike.kind]
  apply Matches.ite Iff.rfl
  · intro _
    apply matches_constant.bind
    exact fun node twin same => .pure (same.wrap Expression.literal fun _ => rfl)
  · intro _
    split
    · apply Matches.take
      intro token twinToken pair
      apply operand.bind
      intro value twinValue same
      apply Matches.pure
      refine ⟨congrArg (Expression.unary _ · .nowhere) same.known,
        fun still => ?_⟩
      rw [same.equal still, pairing.span still pair]
    · exact matches_casts both

/-- Operators from a level on are the same, whatever bounds them. -/
theorem matches_operations
    (both : unary.Matches pairing unary (pairing.Twins Expression.bare))
    {budget twinBudget : List Token}
    (length : twinBudget.length = budget.length) (level : Precedence)
    {left twinLeft : Expression}
    (same : pairing.Twins Expression.bare left twinLeft) :
    (operations unary budget level left).Matches pairing
      (operations unary twinBudget level twinLeft)
      (pairing.Twins Expression.bare) := by
  induction budget generalizing twinBudget level left twinLeft with
  | nil =>
    obtain rfl := List.eq_nil_of_length_eq_zero length
    exact .pure same
  | cons _ budget ih =>
    cases twinBudget with
    | nil => cases length
    | cons _ twinBudget =>
      rw [List.length_cons, List.length_cons, Nat.succ.injEq] at length
      apply Matches.get
      intro cursor twin alike
      rw [alike.kind]
      split
      · apply Matches.ite Iff.rfl
        · exact fun _ => .pure same
        · intro _
          apply Matches.take
          intro _ _ _
          apply both.bind
          intro first twinFirst sameFirst
          apply (ih length _ sameFirst).bind
          intro right twinRight sameRight
          apply ih length
          refine ⟨congrArg₂ (Expression.binary _ · · .nowhere) same.known
            sameRight.known, fun still => ?_⟩
          rw [same.equal still, sameRight.equal still]
      · exact .pure same

theorem matches_binary
    (both : unary.Matches pairing unary (pairing.Twins Expression.bare))
    (level : Precedence) :
    (binary unary level).Matches pairing (binary unary level)
      (pairing.Twins Expression.bare) := by
  apply both.bind
  intro first twinFirst same
  apply Matches.get
  intro cursor twin alike
  exact matches_operations both alike.length level same

end Nested

/-! ## All levels -/

theorem matches_unaryAt (levels : Nat) :
    (unaryAt levels).Matches pairing (unaryAt levels)
      (pairing.Twins Expression.bare) := by
  induction levels with
  | zero => exact matches_operand matches_tooDeep matches_tooDeep
  | succ levels ih =>
    exact matches_operand ih
      (matches_binary ih _)

theorem matches_expression :
    expression.Matches pairing expression (pairing.Twins Expression.bare) :=
  matches_binary (matches_unaryAt _) _

end PapyrusScript.Reader
