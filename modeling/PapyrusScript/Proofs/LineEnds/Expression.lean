import PapyrusScript.Proofs.LineEnds

/-!
# Expressions do not see how lines end

The readers of types, literals and expressions stop in front of the end of a
line.  So two runs that are abreast read the same, places included, or both
fail.  An expression starts at a token that is the same in both texts.
-/

namespace PapyrusScript

variable {α β : Type}

def Recovery.Even (reader : Recovery α) (wording : Wording) : Prop :=
  ∀ cursor twin, wording.Abreast cursor twin →
    reader.Beside reader cursor twin (wording.Keeps Eq)

def Reader.Even (reader : Reader α) (wording : Wording) : Prop :=
  ∀ cursor twin, wording.Abreast cursor twin →
    reader.Beside reader cursor twin (wording.Keeps Eq)

/-- Two runs answer the same, from a token that is the same in both texts. -/
def Wording.Reads (wording : Wording) (start : Cursor) (value other : α)
    (after twinAfter : Cursor) : Prop :=
  start.kind.isFixed = true ∧ wording.Keeps Eq value other after twinAfter

/-- Two runs that are abreast read the same, from a token that is the same in
both texts. -/
def Reader.Grounded (reader : Reader α) (wording : Wording) : Prop :=
  ∀ cursor twin, wording.Abreast cursor twin →
    reader.Beside reader cursor twin (wording.Reads cursor)

theorem Recovery.Even.lift
    {reader : Recovery α} {wording : Wording} (even : reader.Even wording) :
    Reader.Even (liftM reader) wording :=
  fun cursor twin abreast => .lift (even cursor twin abreast)

namespace Recovery

variable {wording : Wording}

theorem Beside.take_fixed
    {following twinFollowing : Token → Recovery β} {cursor twin : Cursor}
    {post : β → β → Cursor → Cursor → Prop}
    (abreast : wording.Abreast cursor twin) (fixed : cursor.kind.isFixed = true)
    (rest : (following cursor.current).Beside (twinFollowing cursor.current)
      cursor.next twin.next post) :
    Beside (Reader.advance >>= following) (Reader.advance >>= twinFollowing)
      cursor twin post := by
  apply Beside.take
  rw [abreast.current fixed]
  exact rest

theorem even_loop {step : α → Recovery (Step α)}
    (proceeds : ∀ value cursor, (step value).Proceeds cursor)
    (steps : ∀ value {cursor twin}, wording.Abreast cursor twin →
      (step value).Beside (step value) cursor twin
        (Step.Both (wording.Keeps Eq) (wording.Keeps Eq)))
    (value : α) :
    Even (get >>= fun cursor => loop step cursor.budget value) wording := by
  intro cursor twin abreast
  refine Beside.loop (wording.Keeps Eq) proceeds proceeds ?_ ⟨rfl, abreast⟩
  rintro value _ cursor twin ⟨rfl, abreast⟩
  exact steps value abreast

end Recovery

namespace Reader

open Cursor

variable {wording : Wording}

theorem Grounded.even {reader : Reader α} (grounded : reader.Grounded wording) :
    reader.Even wording :=
  fun cursor twin abreast =>
    (grounded cursor twin abreast).mono fun _ _ _ _ reads => reads.2

theorem Beside.take_fixed
    {following twinFollowing : Token → Reader β} {cursor twin : Cursor}
    {post : β → β → Cursor → Cursor → Prop}
    (abreast : wording.Abreast cursor twin) (fixed : cursor.kind.isFixed = true)
    (rest : (following cursor.current).Beside (twinFollowing cursor.current)
      cursor.next twin.next post) :
    Beside (liftM advance >>= following) (liftM advance >>= twinFollowing)
      cursor twin post := by
  apply Beside.take
  rw [abreast.current fixed]
  exact rest

theorem even_loop {step : α → Reader (Step α)}
    (proceeds : ∀ value cursor, (step value).Proceeds cursor)
    (steps : ∀ value {cursor twin}, wording.Abreast cursor twin →
      (step value).Beside (step value) cursor twin
        (Step.Both (wording.Keeps Eq) (wording.Keeps Eq)))
    (value : α) :
    Even (get >>= fun cursor => loop step cursor.budget value) wording := by
  intro cursor twin abreast
  refine Beside.loop (wording.Keeps Eq) proceeds proceeds ?_ ⟨rfl, abreast⟩
  rintro value _ cursor twin ⟨rfl, abreast⟩
  exact steps value abreast

theorem even_expect
    (kind : Kind) (purpose : String) (fixed : kind.isFixed = true) :
    (expect kind purpose).Even wording := by
  intro cursor twin abreast
  apply Beside.get
  apply Beside.ite (abreast.kind_iff (Kind.endsLine_of_isFixed fixed))
  · intro found
    have here := isFixed_of_kind found fixed
    exact .lift ⟨(abreast.current here).symm, abreast.next here⟩
  · intro _
    split <;> exact .reject _ _

theorem even_identifier (what : String) : (identifier what).Even wording := by
  intro cursor twin abreast
  apply Beside.get
  apply Beside.ite (abreast.kind_iff rfl)
  · intro found
    have here := isFixed_of_kind found rfl
    exact .take_fixed abreast here (.pure ⟨rfl, abreast.next here⟩)
  · exact fun _ => .reject _ _

/-! ## Types and literals -/

theorem dataType?_of_not_isFixed
    {token : Token} (loose : token.kind.isFixed = false) :
    dataType? token = none := by
  unfold dataType?
  split <;> simp_all [Kind.isFixed, Kind.endsLine, Kind.isInvalid]

theorem literalValue_of_not_isFixed
    {token : Token} (loose : token.kind.isFixed = false) :
    literalValue token =
      .error (Diagnostic.unexpected token "a literal value") := by
  unfold literalValue
  split <;> simp_all [Kind.isFixed, Kind.endsLine, Kind.isInvalid]

theorem negativeValue_of_not_isFixed
    {token : Token} (loose : token.kind.isFixed = false) :
    negativeValue token =
      .error (Diagnostic.unexpected token "a number after '-'") := by
  unfold negativeValue
  split <;> simp_all [Kind.isFixed, Kind.endsLine, Kind.isInvalid]

theorem even_elementType : elementType.Even wording := by
  intro cursor twin abreast
  apply Beside.get
  rcases abreast.current_cases with ⟨fixed, same⟩ | ⟨loose, looseToo⟩
  · rw [same]
    split
    · exact .take_fixed abreast fixed (.pure ⟨rfl, abreast.next fixed⟩)
    · exact .reject _ _
  · rw [dataType?_of_not_isFixed loose, dataType?_of_not_isFixed looseToo]
    exact .reject _ _

/-- A type is the same in both texts. -/
theorem even_typeName : typeName.Even wording := by
  intro cursor twin abreast
  apply (even_elementType cursor twin abreast).bind
  rintro element _ cursor twin ⟨rfl, abreast⟩
  apply Beside.get
  rw [abreast.both rfl rfl]
  apply Beside.ite Iff.rfl
  · intro brackets
    simp only [Bool.and_eq_true, decide_eq_true_eq] at brackets
    obtain ⟨opening, closing⟩ := brackets
    rw [← kind_next (by simp [opening])] at closing
    have here := isFixed_of_kind opening rfl
    have there := isFixed_of_kind closing rfl
    have second := abreast.next here
    exact .take_fixed abreast here (.take_fixed second there
      (.pure ⟨rfl, second.next there⟩))
  · exact fun _ => .pure ⟨rfl, abreast⟩

theorem grounded_literal : literal.Grounded wording := by
  intro cursor twin abreast
  apply Beside.get
  rcases abreast.current_cases with ⟨fixed, same⟩ | ⟨loose, looseToo⟩
  · rw [same]
    split
    · exact .throw _ _
    · exact .take_fixed abreast fixed
        (.pure ⟨fixed, rfl, abreast.next fixed⟩)
  · rw [literalValue_of_not_isFixed loose, literalValue_of_not_isFixed looseToo]
    exact .throw _ _

/-- A constant starts at a token that both texts share. -/
theorem grounded_constant : constant.Grounded wording := by
  intro cursor twin abreast
  apply Beside.get
  apply Beside.ite (abreast.kind_iff rfl)
  · intro minus
    have here := isFixed_of_kind minus rfl
    have second := abreast.next here
    apply Beside.take_fixed abreast here
    apply Beside.get
    rcases second.current_cases with ⟨fixed, same⟩ | ⟨loose, looseToo⟩
    · rw [same]
      split
      · exact .throw _ _
      · exact .take_fixed second fixed
          (.pure ⟨here, rfl, second.next fixed⟩)
    · rw [negativeValue_of_not_isFixed loose,
        negativeValue_of_not_isFixed looseToo]
      exact .throw _ _
  · exact fun _ => grounded_literal cursor twin abreast

theorem even_initialConstant : initialConstant.Even wording := by
  intro cursor twin abreast
  apply Beside.get
  apply Beside.ite (abreast.kind_iff rfl)
  · intro assign
    have here := isFixed_of_kind assign rfl
    apply Beside.take_fixed abreast here
    apply (grounded_constant.even _ _ (abreast.next here)).bind
    rintro node _ cursor twin ⟨rfl, abreast⟩
    exact .pure ⟨rfl, abreast⟩
  · exact fun _ => .pure ⟨rfl, abreast⟩

/-! ## Parts of an operand -/

theorem grounded_tooDeep {α : Type} : (tooDeep : Reader α).Grounded wording :=
  fun _ _ _ => .get (.throw _ _)

theorem even_checkArraySize (size : Expression) :
    (checkArraySize size).Even wording := by
  intro cursor twin abreast
  unfold checkArraySize
  split
  · split
    · exact ⟨rfl, abreast.report _ _⟩
    · exact ⟨rfl, abreast⟩
  · exact ⟨rfl, abreast⟩

/-- A name and the equals sign behind it are the same in both texts. -/
theorem beside_argumentName
    {cursor twin : Cursor} (abreast : wording.Abreast cursor twin) :
    argumentName.Beside argumentName cursor twin
      fun name other after twinAfter =>
        (after.kind.isFixed = true → cursor.kind.isFixed = true) ∧
          wording.Keeps Eq name other after twinAfter := by
  apply Recovery.Beside.get
  rw [abreast.both rfl rfl]
  apply Recovery.Beside.ite Iff.rfl
  · intro named
    simp only [Bool.and_eq_true, decide_eq_true_eq] at named
    obtain ⟨name, assign⟩ := named
    rw [← kind_next (by simp [name])] at assign
    have here := isFixed_of_kind name rfl
    have there := isFixed_of_kind assign rfl
    have second := abreast.next here
    exact .take_fixed abreast here (.take_fixed second there
      (.pure ⟨fun _ => here, rfl, second.next there⟩))
  · exact fun _ => .pure ⟨id, rfl, abreast⟩

theorem beside_nextCast (operand : Expression) {cursor twin : Cursor}
    (abreast : wording.Abreast cursor twin) :
    (nextCast operand).Beside (nextCast operand) cursor twin
      (Step.Both (wording.Keeps Eq) (wording.Keeps Eq)) := by
  apply Beside.get
  apply Beside.ite (abreast.kind_iff rfl)
  · intro word
    have here := isFixed_of_kind word rfl
    apply Beside.take_fixed abreast here
    apply (even_typeName _ _ (abreast.next here)).bind
    rintro target _ after twinAfter ⟨rfl, abreast⟩
    exact .pure ⟨rfl, abreast⟩
  · exact fun _ => .pure ⟨rfl, abreast⟩

section Deeper

variable {inner : Reader Expression}
  (grounded : inner.Grounded wording)
  (advances : ∀ cursor, inner.Advances cursor)

include grounded

theorem even_argument : (argument inner).Even wording := by
  intro cursor twin abreast
  apply Beside.get
  apply (Beside.lift (beside_argumentName abreast)).bind
  rintro name _ middle twinMiddle ⟨back, rfl, abreastThen⟩
  apply (grounded _ _ abreastThen).bind
  rintro value _ after twinAfter ⟨fixed, rfl, abreastNow⟩
  apply Beside.get
  rw [abreast.position (back fixed), abreastNow.spanFrom]
  exact .pure ⟨rfl, abreastNow⟩

include advances

/-- The arguments of a call are the same in both texts. -/
theorem even_argumentList : (argumentList inner).Even wording := by
  intro cursor twin abreast
  apply Beside.get
  apply Beside.ite (abreast.kind_iff rfl)
  · exact fun _ => .pure ⟨rfl, abreast⟩
  · intro _
    refine even_loop (proceeds_nextArgument advances) ?_ [] _ _ abreast
    intro found cursor twin abreast
    apply (even_argument grounded cursor twin abreast).bind
    rintro next _ cursor twin ⟨rfl, abreast⟩
    apply Beside.get
    apply Beside.ite (abreast.kind_iff rfl)
    · intro comma
      have here := isFixed_of_kind comma rfl
      exact .take_fixed abreast here (.pure ⟨rfl, abreast.next here⟩)
    · exact fun _ => .pure ⟨rfl, abreast⟩

theorem even_arguments : (arguments inner).Even wording := by
  intro cursor twin abreast
  apply (even_expect _ _ rfl cursor twin abreast).bind
  rintro _ _ cursor twin ⟨rfl, abreast⟩
  apply (even_argumentList grounded advances cursor twin abreast).bind
  rintro found _ cursor twin ⟨rfl, abreast⟩
  apply (even_expect _ _ rfl cursor twin abreast).bind
  rintro close _ cursor twin ⟨rfl, abreast⟩
  exact .pure ⟨rfl, abreast⟩

omit advances in
/-- A new object or array is the same in both texts. -/
theorem even_newObject : (newObject inner).Even wording := by
  intro cursor twin abreast
  apply (even_expect _ _ rfl cursor twin abreast).bind
  rintro keyword _ cursor twin ⟨rfl, abreast⟩
  apply (even_elementType cursor twin abreast).bind
  rintro type _ cursor twin ⟨rfl, abreast⟩
  apply Beside.get
  apply Beside.ite (abreast.kind_iff rfl)
  · intro opening
    have here := isFixed_of_kind opening rfl
    apply Beside.take_fixed abreast here
    apply (grounded _ _ (abreast.next here)).bind
    rintro size _ cursor twin ⟨_, rfl, abreast⟩
    apply ((even_checkArraySize size).lift cursor twin abreast).bind
    rintro _ _ cursor twin ⟨_, abreast⟩
    apply (even_expect _ _ rfl cursor twin abreast).bind
    rintro close _ cursor twin ⟨rfl, abreast⟩
    exact .pure ⟨rfl, abreast⟩
  · exact fun _ => .pure ⟨rfl, abreast⟩

omit advances in
/-- An operand without prefix starts at a token that both texts share. -/
theorem grounded_primary : (primary inner).Grounded wording := by
  intro cursor twin abreast
  apply Beside.get
  rcases abreast.kinds with same | ⟨here, there⟩ | ⟨here, there⟩
  · rw [same]
    dsimp only
    split
    · apply (grounded_literal cursor twin abreast).bind
      rintro node _ after twinAfter ⟨fixed, rfl, abreast⟩
      exact .pure ⟨fixed, rfl, abreast⟩
    · split
      · rename_i name
        have here := isFixed_of_kind name rfl
        exact .take_fixed abreast here
          (.pure ⟨here, rfl, abreast.next here⟩)
      · rename_i opening
        have here := isFixed_of_kind opening rfl
        apply Beside.take_fixed abreast here
        apply (grounded _ _ (abreast.next here)).bind
        rintro value _ middle twinMiddle ⟨_, rfl, abreast⟩
        apply (even_expect _ _ rfl _ _ abreast).bind
        rintro close _ after twinAfter ⟨rfl, abreast⟩
        exact .pure ⟨here, rfl, abreast⟩
      · rename_i word
        have here := isFixed_of_kind word rfl
        exact (even_newObject grounded cursor twin abreast).mono
          fun _ _ _ _ keeps => ⟨here, keeps⟩
      · exact .reject _ _
  all_goals
    rw [here, there]
    exact .reject _ _

/-- One more part of a chain is the same in both texts. -/
theorem beside_chainPart (whole : Expression) {cursor twin : Cursor}
    (abreast : wording.Abreast cursor twin) :
    (chainPart inner whole).Beside (chainPart inner whole) cursor twin
      (Step.Both (wording.Keeps Eq) (wording.Keeps Eq)) := by
  apply Beside.get
  rcases abreast.kinds with same | ⟨here, there⟩ | ⟨here, there⟩
  · rw [same]
    split
    · rename_i dot
      have here := isFixed_of_kind dot rfl
      have second := abreast.next here
      apply Beside.take_fixed abreast here
      apply Beside.get
      apply Beside.ite (second.kind_iff rfl)
      · intro length
        have there := isFixed_of_kind length rfl
        exact .take_fixed second there (.pure ⟨rfl, second.next there⟩)
      · intro _
        apply (even_identifier _ _ _ second).bind
        rintro field _ after twinAfter ⟨rfl, abreast⟩
        exact .pure ⟨rfl, abreast⟩
    · rename_i opening
      have here := isFixed_of_kind opening rfl
      apply Beside.take_fixed abreast here
      apply (grounded _ _ (abreast.next here)).bind
      rintro subscript _ cursor twin ⟨_, rfl, abreast⟩
      apply (even_expect _ _ rfl cursor twin abreast).bind
      rintro close _ after twinAfter ⟨rfl, abreast⟩
      exact .pure ⟨rfl, abreast⟩
    · split
      · apply (even_arguments grounded advances cursor twin abreast).bind
        rintro found _ after twinAfter ⟨rfl, abreast⟩
        exact .pure ⟨rfl, abreast⟩
      · exact .get (.throw _ _)
    · exact .pure ⟨rfl, abreast⟩
  all_goals
    rw [here, there]
    exact .pure ⟨rfl, abreast⟩

theorem grounded_chain : (chain inner).Grounded wording := by
  intro cursor twin abreast
  apply (grounded_primary grounded cursor twin abreast).bind
  rintro first _ middle twinMiddle ⟨fixed, rfl, abreast⟩
  have loops := even_loop (proceeds_chainPart advances)
    (beside_chainPart grounded advances) first _ _ abreast
  exact loops.mono fun _ _ _ _ keeps => ⟨fixed, keeps⟩

theorem grounded_casts : (casts inner).Grounded wording := by
  intro cursor twin abreast
  apply (grounded_chain grounded advances cursor twin abreast).bind
  rintro first _ middle twinMiddle ⟨fixed, rfl, abreast⟩
  have loops := even_loop proceeds_nextCast beside_nextCast first _ _ abreast
  exact loops.mono fun _ _ _ _ keeps => ⟨fixed, keeps⟩

end Deeper

/-! ## Operators -/

theorem continuesOperand_eq (kind : Kind) :
    continuesOperand kind =
      (kind = .keyword .castAs || kind = .symbol .dot ||
        kind = .symbol .openBracket || kind = .symbol .openParen) := by
  cases kind with
  | keyword word => cases word <;> rfl
  | symbol sign => cases sign <;> rfl
  | _ => rfl

theorem atSignedInteger_of_abreast
    {cursor twin : Cursor} (abreast : wording.Abreast cursor twin) :
    atSignedInteger twin = atSignedInteger cursor := by
  have third (kind : Kind) (inLine : kind.endsLine = false) :
      decide (twin.kindAt 2 = kind) = decide (cursor.kindAt 2 = kind) :=
    decide_eq_decide.2 (abreast.kindAt_iff inLine 2)
  unfold atSignedInteger
  rw [abreast.both rfl rfl, continuesOperand_eq, continuesOperand_eq,
    third _ rfl, third _ rfl, third _ rfl, third _ rfl]

/-- An operand starts at a token that both texts share. -/
theorem grounded_operand {deeper inner : Reader Expression}
    (deeperGrounded : deeper.Grounded wording)
    (innerGrounded : inner.Grounded wording)
    (advances : ∀ cursor, inner.Advances cursor) :
    (operand deeper inner).Grounded wording := by
  intro cursor twin abreast
  apply Beside.get
  rw [atSignedInteger_of_abreast abreast]
  apply Beside.ite Iff.rfl
  · intro _
    apply (grounded_constant cursor twin abreast).bind
    rintro node _ after twinAfter ⟨fixed, rfl, abreast⟩
    exact .pure ⟨fixed, rfl, abreast⟩
  · intro _
    rcases abreast.kinds with same | ⟨here, there⟩ | ⟨here, there⟩
    · rw [same]
      split
      · rename_i operator found
        have here : cursor.kind.isFixed = true := by
          rw [kind_of_unaryOperator? found]
          rfl
        apply Beside.take_fixed abreast here
        apply (deeperGrounded _ _ (abreast.next here)).bind
        rintro value _ after twinAfter ⟨_, rfl, abreast⟩
        exact .pure ⟨here, rfl, abreast⟩
      · exact grounded_casts innerGrounded advances cursor twin abreast
    all_goals
      rw [here, there]
      exact grounded_casts innerGrounded advances cursor twin abreast

/-- A reader of operands, or of one level of operators. -/
structure Settled (reader : Reader Expression) (wording : Wording) : Prop where
  grounded : reader.Grounded wording
  advances : ∀ cursor, reader.Advances cursor

/-- One more operation of a level is the same in both texts. -/
theorem beside_nextOperation
    {tighter : Reader Expression} (grounded : tighter.Grounded wording)
    (operators : List BinaryOperator) (left : Expression)
    {cursor twin : Cursor} (abreast : wording.Abreast cursor twin) :
    (Layered.nextOperation tighter operators left).Beside
      (Layered.nextOperation tighter operators left) cursor twin
        (Step.Both (wording.Keeps Eq) (wording.Keeps Eq)) := by
  apply Beside.get
  have same (operator : BinaryOperator) :
      twin.kind = .symbol operator.symbol ↔
        cursor.kind = .symbol operator.symbol :=
    abreast.kind_iff rfl
  simp only [same]
  split
  · rename_i operator found
    have matched := List.find?_some found
    simp only [decide_eq_true_eq] at matched
    have here := isFixed_of_kind matched rfl
    apply Beside.take_fixed abreast here
    apply (grounded _ _ (abreast.next here)).bind
    rintro right _ after twinAfter ⟨_, rfl, abreast⟩
    exact .pure ⟨rfl, abreast⟩
  · exact .pure ⟨rfl, abreast⟩

/-- One more level of operators is read alike as the tighter one is. -/
theorem Settled.layer
    {tighter : Reader Expression} (settled : Settled tighter wording)
    (operators : List BinaryOperator) :
    Settled (Layered.layer tighter operators) wording := by
  have proceeds := Layered.proceeds_nextOperation operators settled.advances
  constructor
  · intro cursor twin abreast
    apply (settled.grounded cursor twin abreast).bind
    rintro first _ middle twinMiddle ⟨fixed, rfl, abreast⟩
    have loops := even_loop proceeds
      (beside_nextOperation settled.grounded operators) first _ _ abreast
    exact loops.mono fun _ _ _ _ keeps => ⟨fixed, keeps⟩
  · intro cursor
    refine (settled.advances cursor).bind fun _ after => .get ?_
    exact travels_loop proceeds _ _ _

theorem Settled.disjunction
    {unary : Reader Expression} (settled : Settled unary wording) :
    Settled (Layered.disjunction unary) wording := by
  have products := settled.layer [.multiply, .divide, .modulo]
  have sums := products.layer [.add, .subtract]
  have relations := sums.layer [.less, .lessEqual, .greater, .greaterEqual]
  have equalities := relations.layer [.equal, .notEqual]
  exact (equalities.layer [.and]).layer [.or]

theorem settled_unaryAt (levels : Nat) : Settled (unaryAt levels) wording := by
  refine ⟨?_, advances_unaryAt levels⟩
  induction levels with
  | zero =>
    exact grounded_operand grounded_tooDeep grounded_tooDeep advances_tooDeep
  | succ levels ih =>
    have advances := advances_unaryAt levels
    have whole := (Settled.mk ih advances).disjunction
    rw [Layered.disjunction_eq advances] at whole
    exact grounded_operand ih whole.grounded whole.advances

/-- An expression is read the same, from a token that is the same. -/
theorem grounded_expression : expression.Grounded wording := by
  have whole := (@settled_unaryAt wording 63).disjunction
  rw [Layered.disjunction_eq (advances_unaryAt 63)] at whole
  exact whole.grounded

end Reader

end PapyrusScript
