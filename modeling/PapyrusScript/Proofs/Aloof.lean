import PapyrusScript.Proofs.Isolation.Behind

/-!
# Readers that only see tokens

A cursor remembers more than its place: the blocks that are open, the last
lexical error and the reports.  Most readers within a line neither look at
that nor change it.  They are aloof: they do the same in every setting, and
the setting is afterwards what it was.

A reader may be aloof only as long as no token of some kind is ahead, so the
tokens that are free to stand ahead are a parameter.

A statement other than a conditional or a loop is aloof, and so is every
expression, as long as no new array is asked for: its size is the only thing
that an expression reports by itself.

A cursor also remembers where the last token ended.  That counts for the
stretches of source in a tree, but each of them ends behind a token that was
read for it.  So what a statement answers does not depend on what stands in
front of it.
-/

namespace PapyrusScript

section Readers

variable {α β : Type}

namespace Cursor

/-- What a cursor remembers besides its place: the open blocks and what has
been reported. -/
structure Setting where
  openBlocks : List Block
  lastLexical : Option Position
  reported : List Diagnostic

def setting (cursor : Cursor) : Setting :=
  ⟨cursor.openBlocks, cursor.lastLexical, cursor.reported⟩

def inSetting (cursor : Cursor) (setting : Setting) : Cursor :=
  { cursor with
    openBlocks := setting.openBlocks
    lastLexical := setting.lastLexical
    reported := setting.reported }

variable (cursor : Cursor) (setting : Setting)

theorem inSetting_setting : cursor.inSetting cursor.setting = cursor := rfl

@[simp]
theorem setting_inSetting : (cursor.inSetting setting).setting = setting := rfl

@[simp]
theorem current_inSetting :
    (cursor.inSetting setting).current = cursor.current :=
  rfl

@[simp]
theorem kind_inSetting : (cursor.inSetting setting).kind = cursor.kind := rfl

@[simp]
theorem position_inSetting :
    (cursor.inSetting setting).position = cursor.position :=
  rfl

@[simp]
theorem budget_inSetting : (cursor.inSetting setting).budget = cursor.budget :=
  rfl

@[simp]
theorem spanFrom_inSetting (start : Position) :
    (cursor.inSetting setting).spanFrom start = cursor.spanFrom start :=
  rfl

@[simp]
theorem kindAt_inSetting (distance : Nat) :
    (cursor.inSetting setting).kindAt distance = cursor.kindAt distance := by
  cases distance <;> rfl

@[simp]
theorem atTypeStart_inSetting :
    (cursor.inSetting setting).atTypeStart = cursor.atTypeStart :=
  rfl

@[simp]
theorem atVariableStart_inSetting :
    (cursor.inSetting setting).atVariableStart = cursor.atVariableStart := by
  unfold atVariableStart kindAfterType typeLength
  simp

@[simp]
theorem next_inSetting :
    (cursor.inSetting setting).next = cursor.next.inSetting setting := by
  obtain ⟨current, ahead, lastEnd, blocks, lexical, told, ended⟩ := cursor
  unfold next
  by_cases inside : current.kind = .endOfText
  · simp [inSetting, kind, inside]
  · cases ahead <;> simp [inSetting, kind, inside] <;> rfl

@[simp]
theorem setting_next : cursor.next.setting = cursor.setting := by
  simp only [Cursor.setting, openBlocks_next, lastLexical_next, reported_next]

variable {cursor}

/-- Whatever holds of the tokens that are left holds behind the first. -/
theorem forall_budget_next
    {free : Token → Prop} (ahead : ∀ token ∈ cursor.budget, free token) :
    ∀ token ∈ cursor.next.budget, free token := by
  by_cases atEnd : cursor.kind = .endOfText
  · rwa [budget_next_of_endOfText atEnd]
  · rw [budget_eq_cons_next atEnd] at ahead
    exact fun token later => ahead token (List.mem_cons_of_mem _ later)

end Cursor

/-- As long as only free tokens are ahead, the reader does the same in every
setting and leaves the setting as it is. -/
def Recovery.Aloof
    (reader : Recovery α) (free : Token → Prop) (cursor : Cursor) : Prop :=
  (∀ token ∈ cursor.budget, free token) →
    (∀ setting, reader.run (cursor.inSetting setting) =
      ((reader.run cursor).1, (reader.run cursor).2.inSetting setting)) ∧
    ∀ token ∈ (reader.run cursor).2.budget, free token

def Reader.Aloof
    (reader : Reader α) (free : Token → Prop) (cursor : Cursor) : Prop :=
  Recovery.Aloof reader.run free cursor

namespace Recovery

variable {free : Token → Prop} {cursor : Cursor}

theorem Aloof.pure (value : α) : Aloof (Pure.pure value) free cursor :=
  fun ahead => ⟨fun _ => rfl, ahead⟩

theorem Aloof.bind {reader : Recovery α} {following : α → Recovery β}
    (first : reader.Aloof free cursor)
    (rest : ∀ value after, (following value).Aloof free after) :
    Aloof (reader >>= following) free cursor := by
  intro ahead
  obtain ⟨same, further⟩ := first ahead
  obtain ⟨sameRest, last⟩ := rest _ _ further
  refine ⟨fun setting => ?_, last⟩
  show (following (reader.run (cursor.inSetting setting)).1).run
    (reader.run (cursor.inSetting setting)).2 = _
  rw [same setting]
  exact sameRest setting

theorem Aloof.look {following : Cursor → Recovery α}
    (same : ∀ setting, following (cursor.inSetting setting) = following cursor)
    (aloof : (following cursor).Aloof free cursor) :
    Aloof (get >>= following) free cursor := by
  intro ahead
  obtain ⟨alike, last⟩ := aloof ahead
  refine ⟨fun setting => ?_, last⟩
  show (following (cursor.inSetting setting)).run
    (cursor.inSetting setting) = _
  rw [same setting]
  exact alike setting

theorem Aloof.take {following : Token → Recovery α}
    (rest : (following cursor.current).Aloof free cursor.next) :
    Aloof (Reader.advance >>= following) free cursor := by
  intro ahead
  obtain ⟨alike, last⟩ := rest (Cursor.forall_budget_next ahead)
  refine ⟨fun setting => ?_, last⟩
  show (following cursor.current).run (cursor.inSetting setting).next = _
  rw [Cursor.next_inSetting]
  exact alike setting

theorem aloof_advance : Reader.advance.Aloof free cursor :=
  Aloof.take (.pure cursor.current)

theorem aloof_unexpected (expected : String) :
    (Reader.unexpected expected).Aloof free cursor :=
  Aloof.look (fun _ => rfl) (.pure _)

theorem Aloof.loop {step : α → Recovery (Step α)}
    (steps : ∀ value cursor, (step value).Aloof free cursor)
    (budget : List Token) (value : α) (cursor : Cursor) :
    Aloof (PapyrusScript.loop step budget value) free cursor := by
  induction budget generalizing value cursor with
  | nil => exact .pure value
  | cons _ budget ih =>
    apply (steps value cursor).bind
    intro decision after
    cases decision with
    | again following => exact ih following after
    | done final => exact .pure final

end Recovery

namespace Reader

variable {free : Token → Prop} {cursor : Cursor}

theorem Aloof.pure (value : α) : Aloof (Pure.pure value) free cursor :=
  Recovery.Aloof.pure _

theorem Aloof.throw (diagnostic : Diagnostic) :
    Aloof (throw diagnostic : Reader α) free cursor :=
  Recovery.Aloof.pure _

theorem Aloof.bind {reader : Reader α} {following : α → Reader β}
    (first : reader.Aloof free cursor)
    (rest : ∀ value after, (following value).Aloof free after) :
    Aloof (reader >>= following) free cursor := by
  unfold Aloof
  rw [ExceptT.run_bind]
  apply Recovery.Aloof.bind first
  intro answer after
  cases answer with
  | ok value => exact rest value after
  | error diagnostic => exact Recovery.Aloof.pure _

theorem Aloof.map
    {reader : Reader α} (aloof : reader.Aloof free cursor) (change : α → β) :
    Aloof (change <$> reader) free cursor := by
  rw [map_eq_pure_bind]
  exact aloof.bind fun _ _ => .pure _

theorem Aloof.look {following : Cursor → Reader α}
    (same : ∀ setting, following (cursor.inSetting setting) = following cursor)
    (aloof : (following cursor).Aloof free cursor) :
    Aloof (get >>= following) free cursor :=
  @Recovery.Aloof.look _ _ _ (fun cursor => (following cursor).run)
    (fun setting => congrArg ExceptT.run (same setting)) aloof

theorem Aloof.take {following : Token → Reader α}
    (rest : (following cursor.current).Aloof free cursor.next) :
    Aloof (liftM advance >>= following) free cursor :=
  @Recovery.Aloof.take _ _ _ (fun token => (following token).run) rest

theorem Aloof.lift {reader : Recovery α} (aloof : reader.Aloof free cursor) :
    Aloof (liftM reader) free cursor := by
  have answered := aloof.bind fun value _ =>
    (Recovery.Aloof.pure (Except.ok (ε := Diagnostic) value))
  exact answered

theorem aloof_reject (expected : String) :
    (reject expected : Reader α).Aloof free cursor :=
  Aloof.look (fun _ => rfl) (.throw _)

theorem Aloof.loop {step : α → Reader (Step α)}
    (steps : ∀ value cursor, (step value).Aloof free cursor)
    (budget : List Token) (value : α) (cursor : Cursor) :
    Aloof (PapyrusScript.loop step budget value) free cursor := by
  induction budget generalizing value cursor with
  | nil => exact .pure value
  | cons _ budget ih =>
    apply (steps value cursor).bind
    intro decision after
    cases decision with
    | again following => exact ih following after
    | done final => exact .pure final

/-! ## Types and literals -/

variable (free) (cursor)

theorem aloof_expect (kind : Kind) (purpose : String) :
    (expect kind purpose).Aloof free cursor := by
  apply Aloof.look (fun _ => rfl)
  split
  · exact .lift Recovery.aloof_advance
  · split <;> exact aloof_reject _

theorem aloof_identifier (what : String) :
    (identifier what).Aloof free cursor := by
  apply Aloof.look (fun _ => rfl)
  split
  · exact .take (.pure _)
  · exact aloof_reject _

theorem aloof_elementType : elementType.Aloof free cursor := by
  apply Aloof.look (fun _ => rfl)
  split
  · exact .take (.pure _)
  · exact aloof_reject _

theorem aloof_typeName : typeName.Aloof free cursor := by
  apply (aloof_elementType free cursor).bind
  intro element cursor
  apply Aloof.look (fun _ => by
    rw [Cursor.kind_inSetting, Cursor.kindAt_inSetting])
  split
  · exact .take (.take (.pure _))
  · exact .pure _

theorem aloof_literal : literal.Aloof free cursor := by
  apply Aloof.look (fun _ => rfl)
  split
  · exact .throw _
  · exact .take (.pure _)

theorem aloof_constant : constant.Aloof free cursor := by
  apply Aloof.look (fun _ => rfl)
  split
  · apply Aloof.take
    apply Aloof.look (fun _ => rfl)
    split
    · exact .throw _
    · exact .take (.pure _)
  · exact aloof_literal free cursor

theorem aloof_initialConstant : initialConstant.Aloof free cursor := by
  apply Aloof.look (fun _ => rfl)
  split
  · apply Aloof.take
    exact (aloof_constant free _).bind fun _ _ => .pure _
  · exact .pure _

theorem aloof_endOfLine (context : String) :
    (endOfLine context).Aloof free cursor := by
  apply Aloof.look (fun _ => rfl)
  split
  · exact .take (.pure _)
  · exact .pure _
  · exact aloof_reject _

theorem aloof_endOfDeclaration (context : String) :
    (endOfDeclaration context).Aloof free cursor := by
  apply Aloof.look (fun _ => rfl)
  split
  · apply Aloof.take
    exact (aloof_endOfLine free _ _).bind fun _ _ => .pure _
  · apply (aloof_endOfLine free cursor _).bind
    intro _ cursor
    apply Aloof.look (fun _ => rfl)
    split
    · apply Aloof.take
      exact (aloof_endOfLine free _ _).bind fun _ _ => .pure _
    · exact .pure _

/-! ## Headers of functions and events -/

theorem aloof_parameter : parameter.Aloof free cursor := by
  apply Aloof.look (fun _ => rfl)
  split
  · apply (aloof_typeName free cursor).bind
    intro type cursor
    apply (aloof_identifier free cursor _).bind
    intro name cursor
    apply (aloof_initialConstant free cursor).bind
    intro default cursor
    exact .look (fun _ => rfl) (.pure _)
  · exact aloof_reject _

end Reader

namespace Recovery

variable (free : Token → Prop) (cursor : Cursor)

theorem aloof_nextParameter (found : List Parameter × Option Diagnostic) :
    (Reader.nextParameter found).Aloof free cursor := by
  apply Aloof.bind (Reader.aloof_parameter free cursor)
  intro answer cursor
  split
  · exact .pure _
  · apply Aloof.look (fun _ => rfl)
    split
    · exact .take (.pure _)
    · exact .take (.pure _)
    · exact (aloof_unexpected _).bind fun _ _ => .pure _

theorem aloof_parameters : Reader.parameters.Aloof free cursor := by
  apply Aloof.bind (Reader.aloof_expect free cursor _ _)
  intro answer cursor
  split
  · exact .pure _
  · apply Aloof.look (fun _ => rfl)
    split
    · exact .take (.pure _)
    · exact .loop (fun found cursor => aloof_nextParameter free cursor found)
        _ _ _

theorem aloof_callableFlags (block : Block) :
    (Reader.callableFlags block).Aloof free cursor := by
  refine .look (fun _ => rfl) (.loop (fun flags cursor => ?_) _ _ _)
  apply Aloof.look (fun _ => rfl)
  split
  · exact .take (.pure _)
  · split
    · exact .take (.pure _)
    · exact .pure _
  · exact .pure _

variable {free cursor} {reader : Recovery α}

theorem Aloof.setting (aloof : reader.Aloof (fun _ => True) cursor) :
    (reader.run cursor).2.setting = cursor.setting := by
  have same := (aloof fun _ _ => trivial).1 cursor.setting
  rw [Cursor.inSetting_setting] at same
  have after := congrArg (fun answer => answer.2.setting) same
  exact after

end Recovery

end Readers

/-! ## Statements of one line only see tokens -/

open Cursor

def Token.CreatesNothing (token : Token) : Prop :=
  token.kind ≠ .keyword .newObject

namespace Reader

variable {α β : Type}

/-! ## Operands -/

section Inner

variable {inner : Reader Expression}
  (aloof : ∀ cursor, inner.Aloof Token.CreatesNothing cursor)

include aloof

theorem aloof_argument (cursor : Cursor) :
    (argument inner).Aloof Token.CreatesNothing cursor := by
  have named : argumentName.Aloof Token.CreatesNothing cursor := by
    apply Recovery.Aloof.look fun _ => by
      rw [kind_inSetting, kindAt_inSetting]
    split
    · exact .take (.take (.pure _))
    · exact .pure _
  apply Aloof.look (fun _ => rfl)
  apply (Aloof.lift named).bind
  intro name cursor
  apply (aloof cursor).bind
  intro value cursor
  exact .look (fun _ => rfl) (.pure _)

theorem aloof_nextArgument
    (found : List (Argument Expression)) (cursor : Cursor) :
    (nextArgument inner found).Aloof Token.CreatesNothing cursor := by
  apply (aloof_argument aloof cursor).bind
  intro next cursor
  apply Aloof.look (fun _ => rfl)
  split
  · exact .take (.pure _)
  · exact .pure _

theorem aloof_arguments (cursor : Cursor) :
    (arguments inner).Aloof Token.CreatesNothing cursor := by
  apply (aloof_expect _ cursor _ _).bind
  intro _ cursor
  have list : (argumentList inner).Aloof Token.CreatesNothing cursor := by
    apply Aloof.look (fun _ => rfl)
    split
    · exact .pure _
    · exact .loop (aloof_nextArgument aloof) _ _ _
  apply list.bind
  intro found cursor
  exact (aloof_expect _ cursor _ _).bind fun _ _ => .pure _

/-- One more part of a chain is read in every setting. -/
theorem aloof_chainPart (whole : Expression) (cursor : Cursor) :
    (chainPart inner whole).Aloof Token.CreatesNothing cursor := by
  apply Aloof.look (fun _ => rfl)
  split
  · apply Aloof.take
    apply Aloof.look (fun _ => rfl)
    split
    · exact .take (.pure _)
    · exact (aloof_identifier _ _ _).bind fun _ _ => .pure _
  · apply Aloof.take
    apply (aloof _).bind
    intro subscript cursor
    exact (aloof_expect _ cursor _ _).bind fun _ _ => .pure _
  · split
    · exact (aloof_arguments aloof cursor).bind fun _ _ => .pure _
    · exact .look (fun _ => rfl) (.throw _)
  · exact .pure _

/-- An operand without prefix is read in every setting. -/
theorem aloof_primary (cursor : Cursor) :
    (primary inner).Aloof Token.CreatesNothing cursor := by
  apply Aloof.look (fun _ => rfl)
  dsimp only
  split
  · exact (aloof_literal _ cursor).bind fun _ _ => .pure _
  split
  · exact .take (.pure _)
  · apply Aloof.take
    apply (aloof _).bind
    intro value cursor
    exact (aloof_expect _ cursor _ _).bind fun _ _ => .pure _
  · rename_i creates
    exact fun ahead =>
      absurd creates (ahead cursor.current List.mem_cons_self)
  · exact aloof_reject _

/-- Casts are read in every setting. -/
theorem aloof_casts (cursor : Cursor) :
    (casts inner).Aloof Token.CreatesNothing cursor := by
  have chained : (chain inner).Aloof Token.CreatesNothing cursor := by
    apply (aloof_primary aloof cursor).bind
    intro first cursor
    exact .look (fun _ => rfl) (.loop (aloof_chainPart aloof) _ _ _)
  have cast (operand : Expression) (cursor : Cursor) :
      (nextCast operand).Aloof Token.CreatesNothing cursor := by
    apply Aloof.look (fun _ => rfl)
    split
    · apply Aloof.take
      exact (aloof_typeName _ _).bind fun _ _ => .pure _
    · exact .pure _
  apply chained.bind
  intro operand cursor
  exact .look (fun _ => rfl) (.loop cast _ _ _)

/-- An operand with prefix operators is read in every setting. -/
theorem aloof_operand {deeper : Reader Expression}
    (aloofToo : ∀ cursor, deeper.Aloof Token.CreatesNothing cursor)
    (cursor : Cursor) :
    (operand deeper inner).Aloof Token.CreatesNothing cursor := by
  have signed (setting : Setting) :
      atSignedInteger (cursor.inSetting setting) = atSignedInteger cursor := by
    unfold atSignedInteger
    rw [kind_inSetting, kindAt_inSetting, kindAt_inSetting]
  apply Aloof.look fun setting => by rw [signed setting, kind_inSetting]
  split
  · exact (aloof_constant _ cursor).bind fun _ _ => .pure _
  split
  · apply Aloof.take
    exact (aloofToo _).bind fun _ _ => .pure _
  · exact aloof_casts aloof cursor

end Inner

/-! ## Expressions -/

/-- Operators from a level on are read in every setting. -/
theorem aloof_binary {unary : Reader Expression}
    (aloof : ∀ cursor, unary.Aloof Token.CreatesNothing cursor)
    (level : Precedence) (cursor : Cursor) :
    (binary unary level).Aloof Token.CreatesNothing cursor := by
  have further (budget : List Token) : ∀ level left cursor,
      (operations unary budget level left).Aloof Token.CreatesNothing
        cursor := by
    induction budget with
    | nil => exact fun _ _ _ => .pure _
    | cons _ budget ih =>
      intro level left cursor
      apply Aloof.look (fun _ => rfl)
      split
      · split
        · exact .pure _
        · apply Aloof.take
          apply (aloof _).bind
          intro first cursor
          apply (ih _ first cursor).bind
          exact fun right cursor => ih _ _ cursor
      · exact .pure _
  apply (aloof cursor).bind
  intro first cursor
  exact .look (fun _ => rfl) (further _ _ _ _)

theorem aloof_unaryAt (levels : Nat) (cursor : Cursor) :
    (unaryAt levels).Aloof Token.CreatesNothing cursor := by
  have refused (cursor : Cursor) :
      (tooDeep : Reader Expression).Aloof Token.CreatesNothing cursor :=
    .look (fun _ => rfl) (.throw _)
  induction levels generalizing cursor with
  | zero => exact aloof_operand refused refused cursor
  | succ levels ih =>
    exact aloof_operand (aloof_binary ih .logicalOr)
      ih cursor

theorem aloof_expression (cursor : Cursor) :
    expression.Aloof Token.CreatesNothing cursor :=
  aloof_binary (aloof_unaryAt _) .logicalOr cursor

/-! ## Statements -/

theorem aloof_returnStatement (cursor : Cursor) :
    returnStatement.Aloof Token.CreatesNothing cursor := by
  apply (aloof_expect _ cursor _ _).bind
  intro keyword cursor
  have returned : returnedValue.Aloof Token.CreatesNothing cursor := by
    apply Aloof.look (fun _ => rfl)
    dsimp only
    split
    · exact .pure _
    · exact (aloof_expression cursor).bind fun _ _ => .pure _
  apply returned.bind
  intro value cursor
  apply Aloof.look (fun _ => rfl)
  exact (aloof_endOfLine _ cursor _).bind fun _ _ => .pure _

/-- A declaration of a local variable is read in every setting. -/
theorem aloof_declareStatement (cursor : Cursor) :
    declareStatement.Aloof Token.CreatesNothing cursor := by
  apply (aloof_typeName _ cursor).bind
  intro type cursor
  apply (aloof_identifier _ cursor _).bind
  intro name cursor
  have initial : initialExpression.Aloof Token.CreatesNothing cursor := by
    apply Aloof.look (fun _ => rfl)
    split
    · apply Aloof.take
      exact (aloof_expression _).bind fun _ _ => .pure _
    · exact .pure _
  apply initial.bind
  intro value cursor
  apply Aloof.look (fun _ => rfl)
  exact (aloof_endOfLine _ cursor _).bind fun _ _ => .pure _

/-- An expression by itself or an assignment is read in every setting. -/
theorem aloof_expressionStatement (cursor : Cursor) :
    expressionStatement.Aloof Token.CreatesNothing cursor := by
  apply Aloof.look (fun _ => rfl)
  apply (aloof_expression cursor).bind
  intro target cursor
  have assigned (start : Position) :
      (assignmentOr start target).Aloof Token.CreatesNothing cursor := by
    apply Aloof.look (fun _ => rfl)
    split
    · unfold assignment
      split
      · apply Aloof.take
        apply (aloof_expression _).bind
        intro value cursor
        apply Aloof.look (fun _ => rfl)
        split
        · exact .throw _
        · exact .pure _
      · exact .throw _
    · exact .pure _
  apply (assigned _).bind
  intro statement cursor
  exact (aloof_endOfLine _ cursor _).bind fun _ _ => .pure _

/-- A statement of one line is read in every setting. -/
theorem aloof_statement
    (body : Block → Recovery (List Statement)) {cursor : Cursor}
    (inLine : cursor.kind ≠ .keyword .ifThen ∧
      cursor.kind ≠ .keyword .whileLoop) :
    (statement body).Aloof Token.CreatesNothing cursor := by
  apply Aloof.look fun _ => by rw [kind_inSetting, atVariableStart_inSetting]
  split
  · rename_i found
    exact absurd found inLine.1
  · rename_i found
    exact absurd found inLine.2
  · exact (aloof_returnStatement cursor).map _
  · split
    · exact (aloof_declareStatement cursor).map _
    · exact (aloof_expressionStatement cursor).map _

end Reader

/-! ## Where the last token ended -/

theorem Cursor.kindAt_endingAt
    (cursor : Cursor) (place : Position) (distance : Nat) :
    (cursor.endingAt place).kindAt distance = cursor.kindAt distance := by
  cases distance <;> rfl

namespace Reader

variable {cursor : Cursor}
variable {reader : Reader α}

/-- The reader answers the same wherever the last token ended, and if it does
not fail, it has forgotten where that was. -/
def ForgetsOrFails (reader : Reader α) (cursor : Cursor) : Prop :=
  ∀ place,
    (reader.run.run (cursor.endingAt place)).1 = (reader.run.run cursor).1 ∧
      ∀ value, (reader.run.run cursor).1 = .ok value →
        (reader.run.run (cursor.endingAt place)).2 = (reader.run.run cursor).2

theorem Forgets.orFails (forgets : reader.Forgets cursor) :
    reader.ForgetsOrFails cursor := by
  intro place
  rw [forgets place]
  exact ⟨rfl, fun _ _ => rfl⟩

/-- What has been forgotten stays forgotten. -/
theorem ForgetsOrFails.bind
    (forgets : reader.ForgetsOrFails cursor) (following : α → Reader β) :
    ForgetsOrFails (reader >>= following) cursor := by
  have parts (cursor : Cursor) : (reader >>= following).run.run cursor =
      (ExceptT.bindCont following (reader.run.run cursor).1).run
        (reader.run.run cursor).2 :=
    rfl
  intro place
  obtain ⟨same, further⟩ := forgets place
  rw [parts, parts, same]
  generalize reader.run.run cursor = answered at further
  obtain ⟨answer, after⟩ := answered
  cases answer with
  | ok value =>
    rw [further value rfl]
    exact ⟨rfl, fun _ _ => rfl⟩
  | error diagnostic => exact ⟨rfl, nofun⟩

theorem ForgetsOrFails.throw (diagnostic : Diagnostic) :
    ForgetsOrFails (throw diagnostic : Reader α) cursor :=
  fun _ => ⟨rfl, nofun⟩

theorem forgetsOrFails_reject (expected : String) :
    (reject expected : Reader α).ForgetsOrFails cursor :=
  fun _ => ⟨rfl, nofun⟩

theorem ForgetsOrFails.look {following : Cursor → Reader α}
    (same : ∀ place, following (cursor.endingAt place) = following cursor)
    (forgets : (following cursor).ForgetsOrFails cursor) :
    ForgetsOrFails (get >>= following) cursor := by
  intro place
  have here : (get >>= following).run.run (cursor.endingAt place) =
      (following cursor).run.run (cursor.endingAt place) := by
    show (following (cursor.endingAt place)).run.run _ = _
    rw [same]
  have parts := forgets place
  rw [← here] at parts
  exact parts

theorem ForgetsOrFails.take
    (following : Token → Reader α) (inLine : cursor.kind ≠ .newline) :
    ForgetsOrFails (liftM advance >>= following) cursor :=
  ((Recovery.forgets_advance inLine).lift.bind following).orFails

variable (cursor)

theorem forgetsOrFails_expect
    (kind : Kind) (purpose : String) (inLine : kind ≠ .newline) :
    (expect kind purpose).ForgetsOrFails cursor := by
  by_cases found : cursor.kind = kind
  · exact (forgets_expect found inLine purpose).orFails
  · apply ForgetsOrFails.look (fun _ => rfl)
    rw [if_neg found]
    split <;> exact forgetsOrFails_reject _

theorem forgetsOrFails_literal : literal.ForgetsOrFails cursor := by
  apply ForgetsOrFails.look (fun _ => rfl)
  split
  · exact .throw _
  · rename_i found
    refine .take _ fun breaks => ?_
    have inLine := endsLine_of_literalValue found
    rw [show cursor.current.kind = .newline from breaks] at inLine
    cases inLine

theorem forgetsOrFails_constant : constant.ForgetsOrFails cursor := by
  apply ForgetsOrFails.look (fun _ => rfl)
  split
  · rename_i minus
    exact .take _ (by rw [minus]; nofun)
  · exact forgetsOrFails_literal cursor

theorem forgetsOrFails_primary (inner : Reader Expression) :
    (primary inner).ForgetsOrFails cursor := by
  apply ForgetsOrFails.look (fun _ => rfl)
  dsimp only
  split
  · exact (forgetsOrFails_literal cursor).bind _
  split
  · rename_i name
    exact .take _ (by rw [name]; nofun)
  · rename_i opening
    exact .take _ (by rw [opening]; nofun)
  · exact (forgetsOrFails_expect cursor (.keyword .newObject) _ nofun).bind _
  · exact forgetsOrFails_reject _

/-- An operand forgets where the last token ended, or fails. -/
theorem forgetsOrFails_operand (deeper inner : Reader Expression) :
    (operand deeper inner).ForgetsOrFails cursor := by
  have signed (place : Position) :
      atSignedInteger (cursor.endingAt place) = atSignedInteger cursor := by
    unfold atSignedInteger
    rw [kindAt_endingAt, kindAt_endingAt]
    rfl
  apply ForgetsOrFails.look fun place => by rw [signed place]; rfl
  split
  · exact (forgetsOrFails_constant cursor).bind _
  split
  · rename_i operator
    refine .take _ fun breaks => ?_
    rw [breaks] at operator
    cases operator
  · exact ((forgetsOrFails_primary cursor inner).bind _).bind _

theorem forgetsOrFails_expression : expression.ForgetsOrFails cursor := by
  have operand (levels : Nat) : (unaryAt levels).ForgetsOrFails cursor := by
    cases levels <;> exact forgetsOrFails_operand cursor _ _
  exact (operand _).bind _

theorem forgetsOrFails_typeName : typeName.ForgetsOrFails cursor := by
  have element : elementType.ForgetsOrFails cursor := by
    apply ForgetsOrFails.look (fun _ => rfl)
    split
    · rename_i names
      refine .take _ fun breaks => ?_
      have inLine := endsLine_of_dataType? names
      rw [show cursor.current.kind = .newline from breaks] at inLine
      cases inLine
    · exact forgetsOrFails_reject _
  exact element.bind _

theorem ForgetsOrFails.map
    (forgets : reader.ForgetsOrFails cursor) (change : α → β) :
    ForgetsOrFails (change <$> reader) cursor := by
  rw [map_eq_pure_bind]
  exact forgets.bind _

/-- A statement of one line is given up by the same error whatever stands in
front of it. -/
theorem forgetsOrFails_statement (body : Block → Recovery (List Statement))
    (inLine : cursor.kind ≠ .keyword .ifThen ∧
      cursor.kind ≠ .keyword .whileLoop) :
    (statement body).ForgetsOrFails cursor := by
  have start (place : Position) : (cursor.endingAt place).atVariableStart =
      cursor.atVariableStart := by
    unfold atVariableStart kindAfterType typeLength
    simp only [kindAt_endingAt]
    rfl
  have expressed : expressionStatement.ForgetsOrFails cursor :=
    .look (fun _ => rfl) ((forgetsOrFails_expression cursor).bind _)
  have declared : declareStatement.ForgetsOrFails cursor :=
    (forgetsOrFails_typeName cursor).bind _
  have returned : returnStatement.ForgetsOrFails cursor :=
    (forgetsOrFails_expect cursor (.keyword .returnValue) _ nofun).bind _
  apply ForgetsOrFails.look fun place => by rw [start place]; rfl
  split
  · rename_i found
    exact absurd found inLine.1
  · rename_i found
    exact absurd found inLine.2
  · exact returned.map cursor _
  · split
    · exact declared.map cursor _
    · exact expressed.map cursor _

end Reader

end PapyrusScript
