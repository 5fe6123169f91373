import PapyrusScript.Proofs.Alongside
import PapyrusScript.Proofs.Layered

/-!
# Expressions and lines do not see behind their end

The readers of types, literals and expressions stay in the line that they
start in.  So two runs along one row do the same, an error included, and what
is read starts at a token of the row.

A reader that ends with its line takes two runs along one row to the same
place, which may be the end of the row.  A failure still leaves them in the
row, since a line that has ended cannot fail.  What starts on the next line
counts only where a documentation comment may stand.
-/

namespace PapyrusScript

namespace Reader

variable {fork : Fork}
variable {diagnostic : Diagnostic} {token : Token}

theorem steady_expect
    (kind : Kind) (purpose : String) (inLine : kind.endsLine = false) :
    (expect kind purpose).Steady fork (fork.Knows kind) := by
  intro cursor twin amid
  apply Agrees.look (by simp only [amid.kind])
  split
  · rename_i found
    have next := amid.next (found ▸ inLine)
    exact .lift (.advance amid ⟨⟨amid.known, found⟩, next⟩)
  · split <;> exact .reject amid

theorem steady_identifier (what : String) :
    (identifier what).Steady fork fun name => fork.Starts name.span.start := by
  intro cursor twin amid
  apply Agrees.look (by simp only [amid.kind])
  split
  · rename_i found
    have next := amid.next (by rw [found]; rfl)
    exact .take amid (.pure ⟨amid.starts, next⟩)
  · exact .reject amid

/-! ## Types and literals -/

theorem endsLine_of_dataType?
    {dataType : DataType} (names : dataType? token = some dataType) :
    token.kind.endsLine = false := by
  unfold dataType? at names
  split at names <;> simp_all [Kind.endsLine]

theorem steady_elementType : elementType.Steady fork fun _ => True := by
  intro cursor twin amid
  apply Agrees.look (by simp only [amid.current])
  split
  · rename_i names
    have next := amid.next (endsLine_of_dataType? names)
    exact .take amid (.pure ⟨trivial, next⟩)
  · exact .reject amid

/-- A type is read inside of its line. -/
theorem steady_typeName : typeName.Steady fork fun _ => True := by
  intro cursor twin amid
  apply (steady_elementType cursor twin amid).bind
  intro element cursor twin inside
  have amid := inside.2
  apply Agrees.look (by simp only [amid.both (.symbol .openBracket) _ rfl])
  split
  · rename_i brackets
    simp only [Bool.and_eq_true, decide_eq_true_eq] at brackets
    obtain ⟨opening, closing⟩ := brackets
    rw [← Cursor.kind_next (by simp [opening])] at closing
    have second := amid.next (by rw [opening]; rfl)
    have third := second.next (by rw [closing]; rfl)
    exact .take amid (.take second (.pure ⟨trivial, third⟩))
  · exact .pure ⟨trivial, amid⟩

/-- A number that cannot be read is blamed on its token. -/
theorem points_of_integerValue {negative : Bool} (known : fork.known token)
    (failed : integerValue negative token = .error diagnostic) :
    fork.Points diagnostic := by
  have starts : fork.Starts token.span.start := ⟨token, known, rfl⟩
  unfold integerValue at failed
  split at failed <;> cases failed
  exact starts.points rfl

theorem points_of_floatValue {negative : Bool} (known : fork.known token)
    (failed : floatValue negative token = .error diagnostic) :
    fork.Points diagnostic := by
  have starts : fork.Starts token.span.start := ⟨token, known, rfl⟩
  unfold floatValue at failed
  split at failed
  · split at failed <;> cases failed
    exact starts.points rfl
  · cases failed
    exact starts.points rfl

theorem points_of_literalValue (amid : fork.Amid cursor twin)
    (failed : literalValue cursor.current = .error diagnostic) :
    fork.Points diagnostic := by
  unfold literalValue at failed
  split at failed
  · exact points_of_integerValue amid.known failed
  · exact points_of_floatValue amid.known failed
  all_goals cases failed
  exact amid.points_unexpected _

theorem points_of_negativeValue (amid : fork.Amid cursor twin)
    (failed : negativeValue cursor.current = .error diagnostic) :
    fork.Points diagnostic := by
  unfold negativeValue at failed
  split at failed
  · exact points_of_integerValue amid.known failed
  · exact points_of_floatValue amid.known failed
  · cases failed
    exact amid.points_unexpected _

theorem endsLine_of_literalValue
    {value : Value} (found : literalValue token = .ok value) :
    token.kind.endsLine = false := by
  unfold literalValue at found
  split at found <;> simp_all [Kind.endsLine]

theorem endsLine_of_negativeValue
    {value : Value} (found : negativeValue token = .ok value) :
    token.kind.endsLine = false := by
  unfold negativeValue at found
  split at found <;> simp_all [Kind.endsLine]

theorem steady_literal :
    literal.Steady fork fun node => fork.Starts node.span.start := by
  intro cursor twin amid
  apply Agrees.look (by simp only [amid.current])
  split
  · rename_i failed
    exact .throw ⟨points_of_literalValue amid failed, amid⟩
  · rename_i found
    have next := amid.next (endsLine_of_literalValue found)
    exact .take amid (.pure ⟨amid.starts, next⟩)

/-- A constant starts at a token of the row. -/
theorem steady_constant :
    constant.Steady fork fun node => fork.Starts node.span.start := by
  intro cursor twin amid
  apply Agrees.look (by simp only [amid.kind])
  split
  · rename_i minus
    have second := amid.next (by rw [minus]; rfl)
    apply Agrees.take amid
    apply Agrees.look (by simp only [second.current])
    split
    · rename_i failed
      exact .throw ⟨points_of_negativeValue second failed, second⟩
    · rename_i found
      have third := second.next (endsLine_of_negativeValue found)
      exact .take second (.pure ⟨amid.starts, third⟩)
  · exact steady_literal cursor twin amid

/-- An initial value starts at a token of the row. -/
theorem steady_initialConstant :
    initialConstant.Steady fork fun found =>
      ∀ node ∈ found, fork.Starts node.span.start := by
  intro cursor twin amid
  apply Agrees.look (by simp only [amid.kind])
  split
  · rename_i assign
    have next := amid.next (by rw [assign]; rfl)
    apply Agrees.take amid
    apply (steady_constant _ _ next).bind
    intro node after twinAfter inside
    refine .pure ⟨fun other same => ?_, inside.2⟩
    cases same
    exact inside.1
  · exact .pure ⟨fun _ same => (by cases same), amid⟩

/-! ## Parts of an operand -/

def Begins (fork : Fork) (value : Expression) : Prop :=
  fork.Starts value.span.start

theorem steady_tooDeep {α : Type} {fact : α → Prop} :
    (tooDeep : Reader α).Steady fork fact := by
  intro cursor twin amid
  apply Agrees.look (by simp only [amid.position])
  exact .throw ⟨amid.starts.points rfl, amid⟩

theorem steady_argumentName : argumentName.Steady fork fun _ => True := by
  intro cursor twin amid
  apply Recovery.Agrees.look (by simp only [amid.both .identifier _ rfl])
  split
  · rename_i named
    simp only [Bool.and_eq_true, decide_eq_true_eq] at named
    obtain ⟨name, assign⟩ := named
    rw [← Cursor.kind_next (by simp [name])] at assign
    have second := amid.next (by rw [name]; rfl)
    have third := second.next (by rw [assign]; rfl)
    exact .take amid (.take second (.pure ⟨trivial, third⟩))
  · exact .pure ⟨trivial, amid⟩

theorem steady_checkArraySize {size : Expression} (begins : Begins fork size) :
    (checkArraySize size).Steady fork fun _ => True := by
  intro cursor twin amid
  unfold checkArraySize
  split
  · split
    · exact .report ⟨trivial, amid.report (Fork.Starts.points begins rfl)⟩
    · exact .pure ⟨trivial, amid⟩
  · exact .pure ⟨trivial, amid⟩

section Deeper

variable {inner : Reader Expression}
  (steady : inner.Steady fork (Begins fork))
  (advances : ∀ cursor, inner.Advances cursor)

include steady

theorem steady_argument : (argument inner).Steady fork fun _ => True := by
  intro cursor twin amid
  apply Agrees.look (by simp only [amid.position])
  apply (Agrees.lift (steady_argumentName cursor twin amid)).bind
  intro name cursor twin inside
  apply (steady cursor twin inside.2).bind
  intro value cursor twin inside
  apply Agrees.look (by simp only [inside.2.spanFrom])
  exact .pure ⟨trivial, inside.2⟩

include advances

/-- Arguments up to the bracket are read inside of the row. -/
theorem steady_argumentList :
    (argumentList inner).Steady fork fun _ => True := by
  intro cursor twin amid
  by_cases closes : cursor.kind = .symbol .closeParen
  · apply Agrees.look (by simp only [amid.kind, closes, if_true])
    simp only [closes, if_true]
    exact .pure ⟨trivial, amid⟩
  · apply Agrees.look_congr
      (fun cursor => loop (nextArgument inner) cursor.budget [])
      (by simp only [closes, if_false])
      (by simp only [amid.kind, closes, if_false])
    apply Agrees.loop (fun _ => fork.Amid) (proceeds_nextArgument advances)
      ?_ amid
    intro found cursor twin amid
    apply (steady_argument steady cursor twin amid).bind
    intro next cursor twin inside
    have amid := inside.2
    apply Agrees.look (by simp only [amid.kind])
    split
    · rename_i comma
      exact .take amid (.pure (amid.next (by rw [comma]; rfl)))
    · exact .pure ⟨trivial, amid⟩

theorem steady_arguments : (arguments inner).Steady fork fun _ => True := by
  intro cursor twin amid
  apply (steady_expect _ _ rfl cursor twin amid).bind
  intro _ cursor twin inside
  apply (steady_argumentList steady advances cursor twin inside.2).bind
  intro found cursor twin inside
  apply (steady_expect _ _ rfl cursor twin inside.2).bind
  intro close cursor twin inside
  exact .pure ⟨trivial, inside.2⟩

omit advances in
/-- A new object or array is read inside of the row. -/
theorem steady_newObject : (newObject inner).Steady fork (Begins fork) := by
  intro cursor twin amid
  apply (steady_expect _ _ rfl cursor twin amid).bind
  intro keyword cursor twin inside
  have starts : fork.Starts keyword.span.start := ⟨keyword, inside.1.1, rfl⟩
  apply (steady_elementType cursor twin inside.2).bind
  intro type cursor twin inside
  have amid := inside.2
  apply Agrees.look (by simp only [amid.kind])
  split
  · rename_i opening
    have next := amid.next (by rw [opening]; rfl)
    apply Agrees.take amid
    apply (steady _ _ next).bind
    intro size cursor twin inside
    apply (Agrees.lift
      (steady_checkArraySize inside.1 cursor twin inside.2)).bind
    intro _ cursor twin inside
    apply (steady_expect _ _ rfl cursor twin inside.2).bind
    intro close cursor twin inside
    exact .pure ⟨starts, inside.2⟩
  · exact .pure ⟨starts, amid⟩

omit advances in
/-- An operand without prefix starts at a token of the row. -/
theorem steady_primary : (primary inner).Steady fork (Begins fork) := by
  intro cursor twin amid
  apply Agrees.look (by simp only [amid.kind])
  dsimp only
  split
  · apply (steady_literal cursor twin amid).bind
    intro node after twinAfter inside
    exact .pure inside
  · split
    · rename_i name
      have next := amid.next (by rw [name]; rfl)
      exact .take amid (.pure ⟨amid.starts, next⟩)
    · rename_i opening
      have next := amid.next (by rw [opening]; rfl)
      apply Agrees.take amid
      apply (steady _ _ next).bind
      intro value cursor twin inside
      have begins := inside.1
      apply (steady_expect _ _ rfl cursor twin inside.2).bind
      intro close cursor twin inside
      exact .pure ⟨begins, inside.2⟩
    · exact steady_newObject steady cursor twin amid
    · exact .reject amid

/-- One more part of a chain is read inside of the row. -/
theorem agrees_chainPart
    {whole : Expression} {cursor twin : Cursor} (begins : Begins fork whole)
    (amid : fork.Amid cursor twin) :
    (chainPart inner whole).Agrees fork cursor twin
      (Step.Parts (fork.Inside (Begins fork)) (fork.Inside (Begins fork))) := by
  apply Agrees.look (by simp only [amid.kind])
  split
  · rename_i dot
    have next := amid.next (by rw [dot]; rfl)
    apply Agrees.take amid
    apply Agrees.look (by simp only [next.kind])
    split
    · rename_i length
      have last := next.next (by rw [length]; rfl)
      exact .take next (.pure ⟨begins, last⟩)
    · apply (steady_identifier _ _ _ next).bind
      intro field after twinAfter inside
      exact .pure ⟨begins, inside.2⟩
  · rename_i opening
    have next := amid.next (by rw [opening]; rfl)
    apply Agrees.take amid
    apply (steady _ _ next).bind
    intro subscript cursor twin inside
    apply (steady_expect _ _ rfl cursor twin inside.2).bind
    intro close after twinAfter inside
    exact .pure ⟨begins, inside.2⟩
  · split
    · apply (steady_arguments steady advances cursor twin amid).bind
      intro found after twinAfter inside
      exact .pure ⟨begins, inside.2⟩
    · apply Agrees.look (by simp only [amid.position])
      exact .throw ⟨amid.starts.points rfl, amid⟩
  · exact .pure ⟨begins, amid⟩

theorem steady_chain : (chain inner).Steady fork (Begins fork) := by
  intro cursor twin amid
  apply (steady_primary steady cursor twin amid).bind
  intro first cursor twin inside
  apply Agrees.loop (fork.Inside (Begins fork)) (proceeds_chainPart advances)
    ?_ inside
  intro whole cursor twin inside
  exact agrees_chainPart steady advances inside.1 inside.2

/-- Casts are read inside of the row, whatever is cast. -/
theorem steady_casts : (casts inner).Steady fork (Begins fork) := by
  intro cursor twin amid
  apply (steady_chain steady advances cursor twin amid).bind
  intro first cursor twin inside
  apply Agrees.loop (fork.Inside (Begins fork)) proceeds_nextCast ?_ inside
  intro operand cursor twin inside
  have amid := inside.2
  apply Agrees.look (by simp only [amid.kind])
  split
  · rename_i word
    have next := amid.next (by rw [word]; rfl)
    apply Agrees.take amid
    apply (steady_typeName _ _ next).bind
    intro target after twinAfter reached
    exact .pure ⟨inside.1, reached.2⟩
  · exact .pure ⟨inside.1, amid⟩

end Deeper

/-! ## Operators -/

theorem endsLine_of_unaryOperator? {kind : Kind} {operator : UnaryOperator}
    (found : kind.unaryOperator? = some operator) :
    kind.endsLine = false := by
  rw [kind_of_unaryOperator? found]
  rfl

/-- A sign in front of an integer is seen in both runs or in neither. -/
theorem atSignedInteger_eq
    {cursor twin : Cursor} (amid : fork.Amid cursor twin) :
    atSignedInteger twin = atSignedInteger cursor := by
  unfold atSignedInteger
  rw [amid.both (.symbol .minus) _ rfl]
  by_cases signed : cursor.kind = .symbol .minus ∧ cursor.kindAt 1 = .intLiteral
  · have same := amid.kindAt 2 fun nearer near => by
      have cases : nearer = 0 ∨ nearer = 1 := by omega
      rcases cases with rfl | rfl
      · show cursor.kind.endsLine = false
        rw [signed.1]
        rfl
      · rw [signed.2]
        rfl
    rw [same]
  · have unsigned : (cursor.kind = .symbol .minus &&
        cursor.kindAt 1 = .intLiteral) = false := by
      simpa using signed
    rw [unsigned, Bool.false_and, Bool.false_and]

/-- An operand with prefix operators is read inside of the row. -/
theorem steady_operand {deeper inner : Reader Expression}
    (deeperSteady : deeper.Steady fork (Begins fork))
    (innerSteady : inner.Steady fork (Begins fork))
    (advances : ∀ cursor, inner.Advances cursor) :
    (operand deeper inner).Steady fork (Begins fork) := by
  intro cursor twin amid
  apply Agrees.look (by simp only [atSignedInteger_eq amid, amid.kind])
  split
  · apply (steady_constant cursor twin amid).bind
    intro node after twinAfter inside
    exact .pure inside
  · split
    · rename_i found
      have next := amid.next (endsLine_of_unaryOperator? found)
      apply Agrees.take amid
      apply (deeperSteady _ _ next).bind
      intro value after twinAfter inside
      exact .pure ⟨amid.starts, inside.2⟩
    · exact steady_casts innerSteady advances cursor twin amid

/-- A reader of operands, or of one level of operators. -/
structure Stays (reader : Reader Expression) (fork : Fork) : Prop where
  steady : reader.Steady fork (Begins fork)
  advances : ∀ cursor, reader.Advances cursor

/-- One more level of operators stays in the row as the tighter one does. -/
theorem Stays.layer {tighter : Reader Expression} (stays : Stays tighter fork)
    (operators : List BinaryOperator) :
    Stays (Layered.layer tighter operators) fork := by
  have proceeds := Layered.proceeds_nextOperation operators stays.advances
  constructor
  · intro cursor twin amid
    apply (stays.steady cursor twin amid).bind
    intro first cursor twin inside
    apply Agrees.loop (fork.Inside (Begins fork)) proceeds ?_ inside
    intro left cursor twin inside
    have amid := inside.2
    apply Agrees.look (by simp only [amid.kind])
    split
    · rename_i operator found
      have matched := List.find?_some found
      simp only [decide_eq_true_eq] at matched
      have next := amid.next (by rw [matched]; rfl)
      apply Agrees.take amid
      apply (stays.steady _ _ next).bind
      intro right after twinAfter reached
      exact .pure ⟨inside.1, reached.2⟩
    · exact .pure inside
  · intro cursor
    refine (stays.advances cursor).bind fun _ after => .get ?_
    exact travels_loop proceeds _ _ _

theorem Stays.disjunction
    {unary : Reader Expression} (stays : Stays unary fork) :
    Stays (Layered.disjunction unary) fork := by
  have products := stays.layer [.multiply, .divide, .modulo]
  have sums := products.layer [.add, .subtract]
  have relations := sums.layer [.less, .lessEqual, .greater, .greaterEqual]
  have equalities := relations.layer [.equal, .notEqual]
  exact (equalities.layer [.and]).layer [.or]

theorem stays_unaryAt (levels : Nat) : Stays (unaryAt levels) fork := by
  refine ⟨?_, advances_unaryAt levels⟩
  induction levels with
  | zero =>
    exact steady_operand steady_tooDeep steady_tooDeep advances_tooDeep
  | succ levels ih =>
    have advances := advances_unaryAt levels
    have whole := (Stays.mk ih advances).disjunction
    rw [Layered.disjunction_eq advances] at whole
    exact steady_operand ih whole.steady whole.advances

theorem steady_expression : expression.Steady fork (Begins fork) := by
  have whole := (@stays_unaryAt fork 63).disjunction
  rw [Layered.disjunction_eq (advances_unaryAt 63)] at whole
  exact whole.steady

end Reader

/-! ## Lines -/

open Fork

variable {fork : Fork} {cursor twin : Cursor}

namespace Reader

theorem agrees_endOfLine (amid : fork.Amid cursor twin) (context : String) :
    (endOfLine context).Agrees fork cursor twin fun _ => fork.Along := by
  apply Agrees.look (by simp only [amid.kind])
  split
  · rename_i found
    exact .take amid (.pure (amid.next_along (by simp [found])))
  · exact .pure amid.along
  · exact .reject amid

end Reader

namespace Recovery

open Reader

/-! ## Discarding -/

/-- A discarded token is the same in both runs, and so is whether it is
reported. -/
theorem agrees_discard
    (amid : fork.Amid cursor twin) (inside : cursor.kind ≠ .endOfText) :
    discard.Agrees cursor twin fun token after twinAfter =>
      token = cursor.current ∧ fork.Along after twinAfter ∧
        (cursor.kind ≠ .newline → fork.Amid after twinAfter) := by
  have next := amid.next_along inside
  have inLine (noBreak : cursor.kind ≠ .newline) :
      fork.Amid cursor.next twin.next :=
    amid.next (by simp [Kind.endsLine, noBreak, inside])
  have same : (cursor.current.kind.isInvalid &&
        twin.next.lastLexical ≠ some cursor.current.span.start) =
      (cursor.current.kind.isInvalid &&
        cursor.next.lastLexical ≠ some cursor.current.span.start) := by
    rw [Cursor.lastLexical_next, Cursor.lastLexical_next]
    by_cases invalid : cursor.current.kind.isInvalid = true
    · have lexical := amid.lexical invalid
      unfold Cursor.position at lexical
      simp [lexical]
    · simp [invalid]
  apply Agrees.take amid
  apply Agrees.look (by simp only [same])
  split
  · have points := amid.points_unexpected ""
    have told : (report _).Agrees cursor.next twin.next
        fun _ after twinAfter => fork.Along after twinAfter ∧
          (cursor.kind ≠ .newline → fork.Amid after twinAfter) :=
      .report ⟨next.report points,
        fun noBreak => (inLine noBreak).report points⟩
    exact told.bind fun _ _ _ holds => .pure ⟨rfl, holds⟩
  · exact .pure ⟨rfl, next, inLine⟩

/-- Discarding a line takes both runs to the same place. -/
theorem agrees_skipLine (amid : fork.Amid cursor twin) :
    skipLine.Agrees cursor twin fun _ => fork.Along := by
  apply Agrees.loop (fun _ => fork.Amid) proceeds_discardInLine ?_ amid
  intro _ cursor twin amid
  apply Agrees.look (by simp only [amid.kind])
  split
  · exact .pure amid.along
  · rename_i inside
    apply (agrees_discard amid inside).bind
    intro token after twinAfter reached
    obtain ⟨rfl, along, inLine⟩ := reached
    split
    · exact .pure along
    · rename_i noBreak
      exact .pure (inLine noBreak)

theorem agrees_reportAndSkipLine
    {diagnostic : Diagnostic} (fails : fork.Fails diagnostic cursor twin) :
    (reportAndSkipLine diagnostic).Agrees cursor twin
      fun _ => fork.Along := by
  have told : (report diagnostic).Agrees cursor twin
      fun _ => fork.Amid :=
    .report (fails.2.report fails.1)
  exact told.bind fun _ _ _ amid => agrees_skipLine amid

theorem agrees_finishLine (amid : fork.Amid cursor twin) (context : String) :
    (finishLine context).Agrees cursor twin fun _ => fork.Along := by
  apply Agrees.run_bind (agrees_endOfLine amid context)
  · exact fun _ _ _ along => .pure along
  · exact fun _ _ _ fails => agrees_reportAndSkipLine fails

/-- Discarding a statement takes both runs to the same place. -/
theorem agrees_synchronize (amid : fork.Amid cursor twin) :
    synchronize.Agrees cursor twin fun _ => fork.Along := by
  apply Agrees.loop (fun _ => fork.Amid) proceeds_discardInStatement ?_ amid
  intro _ cursor twin amid
  apply Agrees.look (by simp only [amid.kind])
  split
  · rename_i found
    exact .take amid (.pure (amid.next_along (by simp [found])))
  · exact .pure amid.along
  · split
    · exact .pure amid.along
    · rename_i noBreak inside _
      apply (agrees_discard amid inside).bind
      intro token after twinAfter reached
      exact .pure (reached.2.2 noBreak)

/-- A broken statement is reported and skipped the same in both runs. -/
theorem agrees_reportAndSynchronize {α : Type} {diagnostic : Diagnostic}
    (fails : fork.Fails diagnostic cursor twin) (value : α) :
    Agrees (do
      report diagnostic
      synchronize
      return value) cursor twin fun _ => fork.Along := by
  have told : (report diagnostic).Agrees cursor twin
      fun _ => fork.Amid :=
    .report (fails.2.report fails.1)
  apply told.bind
  intro _ cursor twin amid
  exact (agrees_synchronize amid).bind fun _ _ _ along => .pure along

theorem agrees_condition (amid : fork.Amid cursor twin) (context : String) :
    (condition context).Agrees cursor twin fun _ => fork.Along := by
  apply Agrees.run_bind (steady_expression cursor twin amid)
  · intro value cursor twin inside
    apply Agrees.run_bind (agrees_endOfLine inside.2 context)
    · exact fun _ _ _ along => .pure along
    · exact fun _ _ _ fails => agrees_reportAndSynchronize fails _
  · exact fun _ _ _ fails => agrees_reportAndSynchronize fails _

end Recovery

end PapyrusScript
