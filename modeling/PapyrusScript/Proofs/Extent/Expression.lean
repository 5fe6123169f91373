import PapyrusScript.Proofs.Extent
import PapyrusScript.Proofs.Transcript.Line

/-!
# The extent of expressions

The span of an expression is joined from the spans of its operands.  So it
starts at the first token that is no opening parenthesis, and behind it there
are only parentheses that close.
-/

namespace PapyrusScript

/-! ## Spans of rows -/

namespace Span.IsInside

variable {span first second : Span} {row rest : List Token} {token : Token}

theorem of_isOf (isOf : span.IsOf row)
    (plain : ∀ token ∈ row.head?, token.kind ≠ .symbol .openParen) :
    span.IsInside row :=
  ⟨[], row, [], (List.append_nil row).symm, List.forall_mem_nil _,
    List.forall_mem_nil _, isOf, plain⟩

theorem single {kind : Kind} (found : token.kind = kind)
    (plain : kind ≠ .symbol .openParen) : token.span.IsInside [token] := by
  apply of_isOf .single
  rintro _ ⟨⟩
  rwa [found]

theorem parenthesized
    {opener closer : Token} (opens : opener.kind = .symbol .openParen)
    (closes : closer.kind = .symbol .closeParen) (within : span.IsInside row) :
    span.IsInside (opener :: (row ++ [closer])) := by
  obtain ⟨opening, inside, closing, rfl, opened, closed, isOf, plain⟩ := within
  refine ⟨opener :: opening, inside, closing ++ [closer], ?_, ?_, ?_, isOf,
    plain⟩
  · rw [List.cons_append, List.append_assoc, List.append_assoc]
  · exact List.forall_mem_cons.2 ⟨opens, opened⟩
  · exact List.forall_mem_append.2
      ⟨closed, List.forall_mem_singleton.2 closes⟩

/-- What a row starts with is not changed by what comes behind it. -/
theorem head_append (isOf : span.IsOf row)
    (plain : ∀ token ∈ row.head?, token.kind ≠ .symbol .openParen) :
    ∀ token ∈ (row ++ rest).head?, token.kind ≠ .symbol .openParen := by
  obtain ⟨first, isFirst, _⟩ := isOf
  intro token member
  rw [List.head?_append, isFirst] at member
  exact plain token (isFirst.trans member)

/-- From one stretch to another that leaves out parentheses as well. -/
theorem join (one : first.IsInside row) (gap : List Token)
    (other : second.IsInside rest) :
    (first.through second).IsInside (row ++ (gap ++ rest)) := by
  obtain ⟨opening, inside, closing, rfl, opened, _, isOf, plain⟩ := one
  obtain ⟨openingToo, insideToo, closingToo, rfl, _, closed, isOfToo, _⟩ :=
    other
  refine ⟨opening, inside ++ ((closing ++ gap ++ openingToo) ++ insideToo),
    closingToo, ?_, opened, closed, isOf.join _ isOfToo,
    head_append isOf plain⟩
  simp only [List.append_assoc]

theorem through
    (one : first.IsInside row) (gap : List Token) (other : second.IsOf rest) :
    (first.through second).IsInside (row ++ (gap ++ rest)) := by
  obtain ⟨opening, inside, closing, rfl, opened, _, isOf, plain⟩ := one
  refine ⟨opening, inside ++ ((closing ++ gap) ++ rest), [], ?_, opened,
    List.forall_mem_nil _, isOf.join _ other, head_append isOf plain⟩
  simp only [List.append_assoc, List.append_nil]

end Span.IsInside

/-! ## Types and literals -/

/-- A row in one line whose span leaves out parentheses at most. -/
structure Span.StandsIn (span : Span) (row : List Token) : Prop where
  line : IsLine row
  inside : span.IsInside row

theorem Span.StandsIn.single
    {token : Token} {kind : Kind} (found : token.kind = kind)
    (visible : kind.isBetween = false) (plain : kind ≠ .symbol .openParen) :
    token.span.StandsIn [token] :=
  ⟨.single found visible, .single found plain⟩

theorem Span.StandsIn.parenthesized
    {span : Span} {row : List Token} {opener closer : Token}
    (opens : opener.kind = .symbol .openParen)
    (closes : closer.kind = .symbol .closeParen)
    (standsIn : span.StandsIn row) :
    span.StandsIn (opener :: (row ++ [closer])) where
  line := .cons opens rfl (standsIn.line.append (.single closes rfl))
  inside := standsIn.inside.parenthesized opens closes

namespace Reader

variable {cursor : Cursor}

theorem isBetween_of_dataType? {token : Token} {dataType : DataType}
    (names : dataType? token = some dataType) :
    token.kind.isBetween = false := by
  unfold dataType? at names
  split at names
  all_goals first
    | (rename_i kind; rw [kind]; rfl)
    | cases names

theorem extends_elementType :
    elementType.Covers cursor fun type row =>
      IsLine row ∧ type.span.IsOf row := by
  unfold elementType
  apply Covers.get
  split
  · rename_i found
    apply Covers.advance (ne_endOfText_of_dataType? found)
    apply Covers.pure
    exact ⟨List.forall_mem_singleton.2 (isBetween_of_dataType? found), .single⟩
  · exact covers_reject _

/-- A type has the stretch of its row. -/
theorem extends_typeName :
    typeName.Covers cursor fun type row =>
      IsLine row ∧ type.span.IsOf row := by
  unfold typeName
  apply extends_elementType.bind
  intro element middle
  apply Covers.get
  split
  · rename_i brackets
    simp only [Bool.and_eq_true, decide_eq_true_eq] at brackets
    obtain ⟨opens, closes⟩ := brackets
    have inside : middle.kind ≠ .endOfText := by simp [opens]
    rw [← Cursor.kind_next inside] at closes
    apply Covers.advance inside
    apply Covers.advance (by simp [closes])
    apply Covers.pure
    rintro row ⟨line, isOf⟩
    refine ⟨line.append (.cons opens rfl (.single closes rfl)), ?_⟩
    exact isOf.join [middle.current] .single
  · apply Covers.pure
    intro row known
    rwa [List.append_nil]

theorem visible_of_isLiteralKind
    {kind : Kind} (isLiteral : isLiteralKind kind = true) :
    kind.isBetween = false ∧ kind ≠ .symbol .openParen ∧ kind ≠ .endOfText := by
  unfold isLiteralKind at isLiteral
  split at isLiteral
  all_goals first
    | exact ⟨rfl, nofun, nofun⟩
    | cases isLiteral

theorem extends_literal :
    literal.Covers cursor fun node row => node.span.StandsIn row := by
  unfold literal
  apply Covers.get
  split
  · exact covers_throw _
  · rename_i value found
    have spells := spells_of_literalValue found
    obtain ⟨visible, plain, inside⟩ :=
      visible_of_isLiteralKind spells.isLiteralKind
    apply Covers.advance inside
    exact .pure (.single rfl visible plain)

/-- The stretch of a constant is that of its row. -/
theorem extends_constant :
    constant.Covers cursor fun node row => node.span.StandsIn row := by
  unfold constant
  apply Covers.get
  split
  · rename_i minus
    apply Covers.advance (by simp [minus])
    apply Covers.get
    split
    · exact covers_throw _
    · rename_i value found
      have number : isLiteralKind cursor.next.kind = true := by
        unfold negativeValue at found
        split at found
        · rename_i kind
          exact congrArg isLiteralKind kind
        · rename_i kind
          exact congrArg isLiteralKind kind
        · cases found
      obtain ⟨visible, plain, inside⟩ := visible_of_isLiteralKind number
      apply Covers.advance inside
      apply Covers.pure
      constructor
      · exact .cons minus rfl (.single rfl visible)
      · exact (Span.IsInside.single minus nofun).through [] .single
  · exact extends_literal

/-! ## Arguments -/

/-- The expressions that a reader reads stand in the rows that it covers. -/
def Extends (reader : Reader Expression) : Prop :=
  ∀ cursor, reader.Covers cursor fun tree row => tree.span.StandsIn row

/-- The name of an argument stays in its line. -/
theorem line_argumentName :
    Recovery.Covers argumentName cursor fun _ row => IsLine row := by
  unfold argumentName
  apply Recovery.Covers.get
  split
  · rename_i named
    simp only [Bool.and_eq_true, decide_eq_true_eq] at named
    obtain ⟨name, assigns⟩ := named
    have inside : cursor.kind ≠ .endOfText := by simp [name]
    rw [← Cursor.kind_next inside] at assigns
    apply Recovery.Covers.advance inside
    apply Recovery.Covers.advance (by simp [assigns])
    apply Recovery.Covers.pure
    exact .cons name rfl (.single assigns rfl)
  · exact .pure .nil

section Nested

variable {inner : Reader Expression}
  (advances : ∀ cursor, inner.Advances cursor) (extend : Extends inner)

include extend

theorem line_argument :
    (argument inner).Covers cursor fun _ row => IsLine row := by
  unfold argument
  apply Covers.get
  apply (Covers.lift line_argumentName).bind
  intro name middle
  apply (extend middle).bind
  intro value after
  apply Covers.get
  apply Covers.pure
  intro row standsIn before line
  rw [List.append_nil]
  exact line.append standsIn.line

/-- Another argument stays in the line. -/
theorem line_nextArgument (found : List (Argument Expression)) :
    (nextArgument inner found).Covers cursor fun decision row =>
      ∀ before, IsLine before →
        Step.Adds (fun _ row => IsLine row) (fun _ row => IsLine row) decision
          (before ++ row) := by
  unfold nextArgument
  apply (line_argument extend).bind
  intro argument middle
  apply Covers.get
  split
  · rename_i comma
    apply Covers.advance (by simp [comma])
    apply Covers.pure
    intro row line before earlier
    exact earlier.append (line.append (.single comma rfl))
  · apply Covers.pure
    intro row line before earlier
    rw [List.append_nil]
    exact earlier.append line

include advances

theorem line_argumentList :
    (argumentList inner).Covers cursor fun _ row => IsLine row := by
  unfold argumentList
  apply Covers.get
  split
  · exact .pure .nil
  · apply (Covers.loop (proceeds_nextArgument advances)
      (fun found _ => line_nextArgument extend found) _).mono
    exact fun _ _ holds => holds [] .nil

/-- The arguments of a call end with the parenthesis that closes them. -/
theorem extends_arguments :
    (arguments inner).Covers cursor fun found row =>
      IsLine row ∧ ∃ front, row = front ++ [found.2] := by
  unfold arguments
  apply (covers_expect _ _ (by nofun)).bind
  intro opener second
  apply (line_argumentList advances extend).bind
  intro found third
  apply (covers_expect _ _ (by nofun)).bind
  intro close last
  apply Covers.pure
  rintro _ ⟨rfl, closes⟩ row line _ ⟨rfl, opens⟩
  rw [List.append_nil]
  refine ⟨.cons opens rfl (line.append (.single closes rfl)), ?_⟩
  exact ⟨opener :: row, rfl⟩

/-! ## Operands -/

omit advances extend in
theorem covers_checkArraySize (size : Expression) :
    (checkArraySize size).Covers cursor fun _ row => row = [] := by
  unfold checkArraySize
  split
  · split
    · exact (Recovery.tells_complain _ _).covers
    · exact .pure rfl
  · exact .pure rfl

omit advances in
/-- A new object or array stands in its row. -/
theorem extends_newObject : Extends (newObject inner) := by
  intro cursor
  unfold newObject
  apply (covers_expect _ _ (by nofun)).bind
  intro keyword second
  apply extends_elementType.bind
  intro type third
  apply Covers.get
  split
  · rename_i opens
    apply Covers.advance (by simp [opens])
    apply (extend _).bind
    intro size fourth
    apply (Covers.lift (covers_checkArraySize size)).bind
    intro _ fifth
    apply (covers_expect _ _ (by nofun)).bind
    intro close last
    apply Covers.pure
    rintro _ ⟨rfl, closes⟩ _ rfl row standsIn before ⟨line, _⟩ _ ⟨rfl, news⟩
    rw [List.append_nil, List.nil_append]
    constructor
    · refine .cons news rfl (line.append ?_)
      exact .cons opens rfl (standsIn.line.append (.single closes rfl))
    · have whole := (Span.IsInside.single news nofun).through
        (before ++ third.current :: row) (@Span.IsOf.single close)
      simpa [Expression.span] using whole
  · apply Covers.pure
    rintro row ⟨line, isOf⟩ _ ⟨rfl, news⟩
    rw [List.append_nil]
    exact ⟨.cons news rfl line,
      (Span.IsInside.single news nofun).through [] isOf⟩

omit advances in
/-- An operand without prefix stands in its row. -/
theorem extends_primary : Extends (primary inner) := by
  intro cursor
  unfold primary
  apply Covers.get
  dsimp only
  split
  · apply extends_literal.bind
    intro node after
    apply Covers.pure
    intro row standsIn
    rwa [List.append_nil]
  · split
    · rename_i name
      apply Covers.advance (by simp [name])
      exact .pure (.single name rfl nofun)
    · rename_i opens
      apply Covers.advance (by simp [opens])
      apply (extend _).bind
      intro tree after
      apply (covers_expect _ _ (by nofun)).bind
      intro close last
      apply Covers.pure
      rintro _ ⟨rfl, closes⟩ row standsIn
      rw [List.append_nil]
      exact standsIn.parenthesized opens closes
    · exact extends_newObject extend cursor
    · exact covers_reject _

/-- One more part of a chain extends the stretch of what is in front. -/
theorem extends_chainPart (tree : Expression) :
    (chainPart inner tree).Covers cursor fun decision row =>
      ∀ before, tree.span.StandsIn before →
        Step.Adds (fun tree row => tree.span.StandsIn row)
          (fun tree row => tree.span.StandsIn row) decision
          (before ++ row) := by
  unfold chainPart
  apply Covers.get
  split
  · rename_i dot
    apply Covers.advance (by simp [dot])
    apply Covers.get
    split
    · rename_i length
      apply Covers.advance (by simp [length])
      apply Covers.pure
      intro before standsIn
      exact ⟨standsIn.line.append (.cons dot rfl (.single length rfl)),
        standsIn.inside.through [cursor.current] .single⟩
    · apply (covers_identifier _).bind
      intro field after
      apply Covers.pure
      rintro _ ⟨token, rfl, named, rfl⟩ before standsIn
      rw [List.append_nil]
      exact ⟨standsIn.line.append (.cons dot rfl (.single named rfl)),
        standsIn.inside.through [cursor.current] .single⟩
  · rename_i opens
    apply Covers.advance (by simp [opens])
    apply (extend _).bind
    intro subscript after
    apply (covers_expect _ _ (by nofun)).bind
    intro close last
    apply Covers.pure
    rintro _ ⟨rfl, closes⟩ row within before standsIn
    rw [List.append_nil]
    refine ⟨standsIn.line.append (.cons opens rfl
      (within.line.append (.single closes rfl))), ?_⟩
    exact standsIn.inside.through (cursor.current :: row) .single
  · split
    · apply (extends_arguments advances extend).bind
      intro found after
      apply Covers.pure
      rintro _ ⟨line, front, rfl⟩ before standsIn
      rw [List.append_nil]
      exact ⟨standsIn.line.append line, standsIn.inside.through front .single⟩
    · apply Covers.get
      exact covers_throw _
  · apply Covers.pure
    intro before standsIn
    rwa [List.append_nil]

theorem extends_chain : Extends (chain inner) := by
  intro cursor
  unfold chain
  apply (extends_primary extend cursor).bind
  intro first middle
  apply Covers.get
  exact Covers.loop (proceeds_chainPart advances)
    (fun tree _ => extends_chainPart advances extend tree) first

omit advances extend in
/-- A cast extends the stretch of what is cast. -/
theorem extends_nextCast (tree : Expression) :
    (nextCast tree).Covers cursor fun decision row =>
      ∀ before, tree.span.StandsIn before →
        Step.Adds (fun tree row => tree.span.StandsIn row)
          (fun tree row => tree.span.StandsIn row) decision
          (before ++ row) := by
  unfold nextCast
  apply Covers.get
  split
  · rename_i word
    apply Covers.advance (by simp [word])
    apply extends_typeName.bind
    intro target after
    apply Covers.pure
    rintro row ⟨line, isOf⟩ before standsIn
    rw [List.append_nil]
    exact ⟨standsIn.line.append (.cons word rfl line),
      standsIn.inside.through [cursor.current] isOf⟩
  · apply Covers.pure
    intro before standsIn
    rwa [List.append_nil]

theorem extends_casts : Extends (casts inner) := by
  intro cursor
  unfold casts
  apply (extends_chain advances extend cursor).bind
  intro operand middle
  apply Covers.get
  exact Covers.loop proceeds_nextCast
    (fun tree _ => extends_nextCast tree) operand

end Nested

/-! ## Operators -/

/-- An operand with prefix operators stands in its row. -/
theorem extends_operand {deeper inner : Reader Expression}
    (advances : ∀ cursor, inner.Advances cursor) (extend : Extends deeper)
    (extendInner : Extends inner) : Extends (operand deeper inner) := by
  intro cursor
  unfold operand
  apply Covers.get
  split
  · apply extends_constant.bind
    intro node after
    apply Covers.pure
    intro row standsIn
    rwa [List.append_nil]
  · split
    · rename_i operator found
      have kind := kind_of_unaryOperator? found
      have plain : Kind.symbol operator.symbol ≠ .symbol .openParen := by
        cases operator <;> nofun
      apply Covers.advance (by rw [kind]; nofun)
      apply (extend _).bind
      intro value after
      apply Covers.pure
      intro row standsIn
      rw [List.append_nil]
      exact ⟨.cons kind rfl standsIn.line,
        (Span.IsInside.single kind plain).join [] standsIn.inside⟩
    · exact extends_casts advances extendInner cursor

/-- Whatever operators join, the left side stands in front of the operator and
the right side behind it. -/
theorem extends_operations {unary : Reader Expression} (extend : Extends unary)
    (budget : List Token) (level : Precedence) (left : Expression) :
    (operations unary budget level left).Covers cursor fun tree row =>
      ∀ before, left.span.StandsIn before →
        tree.span.StandsIn (before ++ row) := by
  induction budget generalizing level left cursor with
  | nil =>
    apply Covers.pure
    intro before standsIn
    rwa [List.append_nil]
  | cons _ budget ih =>
    unfold operations
    apply Covers.get
    split
    · rename_i operator found
      have kind := kind_of_binaryOperator? found
      split
      · apply Covers.pure
        intro before standsIn
        rwa [List.append_nil]
      · apply Covers.advance (by rw [kind]; nofun)
        apply (extend _).bind
        intro first third
        apply (ih operator.precedence.next first).bind
        intro right after
        apply (ih level _).mono
        intro tree row holds behind joins middle standsInMiddle before
          standsIn
        have rightStands := joins middle standsInMiddle
        have whole := holds (before ++ cursor.current :: (middle ++ behind))
          ⟨standsIn.line.append (.cons kind rfl rightStands.line),
            standsIn.inside.join [cursor.current] rightStands.inside⟩
        simpa only [List.append_assoc, List.cons_append] using whole
    · apply Covers.pure
      intro before standsIn
      rwa [List.append_nil]

theorem extends_binary {unary : Reader Expression} (extend : Extends unary)
    (level : Precedence) : Extends (binary unary level) := by
  intro cursor
  unfold binary
  apply (extend cursor).bind
  intro first middle
  apply Covers.get
  apply (extends_operations extend _ level first).mono
  exact fun tree row holds before => holds before

theorem extends_tooDeep : Extends tooDeep := by
  intro cursor
  apply Covers.get
  exact covers_throw _

theorem extends_unaryAt (levels : Nat) : Extends (unaryAt levels) := by
  induction levels with
  | zero =>
    exact extends_operand advances_tooDeep extends_tooDeep extends_tooDeep
  | succ levels ih =>
    exact extends_operand (advances_binary (advances_unaryAt levels) _)
      ih (extends_binary ih _)

/-- What has been passed for an expression is its text. -/
theorem fills_expression :
    expression.Covers cursor fun value row => value.Fills row := by
  have extend : Extends expression := extends_binary (extends_unaryAt _) _
  exact ((extend cursor).and covers_expression).mono
    fun _ _ known => ⟨known.1.line, known.1.inside, known.2⟩

end Reader

end PapyrusScript
