import PapyrusScript.Proofs.Reading

/-!
# What the tests on the next tokens promise

What a line is gets decided before it is read: the cursor counts the tokens
of a type and looks at the kind behind them.  These tests foretell what the
reader of types would do, namely whether it would succeed and on which token
it would leave the cursor.  So a reader that is entered on the strength of
such a test gets past the type and past the keyword or name behind it.

The tests count with offsets into the tokens, and the reader moves.  Both
agree because no token of a type is an end of the text, which is the only
token that the cursor does not pass.
-/

namespace PapyrusScript

variable {α β γ : Type}

/-! ## Readers that succeed -/

namespace Reader

/-- The reader succeeds with a value and leaves the cursor at a place. -/
def Answers
    (reader : Reader α) (source : Cursor) (value : α) (target : Cursor) :
    Prop :=
  reader.run.run source = (.ok value, target)

/-- The reader succeeds, whatever its value. -/
def Succeeds (reader : Reader α) (source : Cursor) : Prop :=
  ∃ value target, reader.Answers source value target

/-- The reader gets past its beginning: `first` succeeds, `check` succeeds
behind it, and from there the reader does what `rest` does. -/
def GetsPast (reader : Reader α) (first : Reader β) (check : Reader γ)
    (rest : β → Reader α) (cursor : Cursor) : Prop :=
  ∃ value behind, first.Answers cursor value behind ∧
    check.Succeeds behind ∧ reader.run.run cursor = (rest value).run.run behind

variable {cursor behind : Cursor} {first : Reader β} {check : Reader γ}
  {rest : β → Reader α} {value : β} {kind : Kind}

theorem exists_answers_of_ends
    (ends : first.Ends cursor (fun _ after => after = behind)
      fun _ _ => False) : ∃ value, first.Answers cursor value behind := by
  unfold Ends Recovery.Ends at ends
  unfold Answers
  cases answered : first.run.run cursor with
  | mk answer after =>
    rw [answered] at ends
    cases answer with
    | ok value => exact ⟨value, congrArg (Prod.mk _) ends⟩
    | error diagnostic => exact ends.elim

theorem not_answers_of_ends
    (ends : first.Ends cursor (fun _ _ => False) fun _ _ => True) :
    ¬ first.Answers cursor value behind := by
  intro answers
  unfold Ends Recovery.Ends at ends
  rw [answers] at ends
  exact ends

/-- A reader that answers at one place answers nowhere else. -/
theorem Answers.unique {other : β} {elsewhere : Cursor}
    (answers : first.Answers cursor value behind)
    (again : first.Answers cursor other elsewhere) :
    value = other ∧ behind = elsewhere := by
  have same := answers.symm.trans again
  exact ⟨Except.ok.inj (congrArg Prod.fst same), congrArg Prod.snd same⟩

theorem run_get_bind (following : Cursor → Reader α) :
    (get >>= following).run.run cursor = (following cursor).run.run cursor :=
  rfl

theorem Answers.map {δ : Type} (answers : first.Answers cursor value behind)
    (change : β → δ) :
    (change <$> first).Answers cursor (change value) behind := by
  unfold Answers at *
  rw [ExceptT.run_map, StateT.run_map, answers]
  rfl

theorem Answers.run_bind
    (answers : first.Answers cursor value behind) (rest : β → Reader α) :
    (first >>= rest).run.run cursor = (rest value).run.run behind := by
  rw [ExceptT.run_bind, StateT.run_bind, answers]
  rfl

theorem Answers.succeeds (answers : first.Answers cursor value behind)
    (succeeds : (rest value).Succeeds behind) :
    (first >>= rest).Succeeds cursor := by
  obtain ⟨found, target, later⟩ := succeeds
  exact ⟨found, target, (answers.run_bind rest).trans later⟩

theorem GetsPast.of_answers (answers : first.Answers cursor value behind)
    (succeeds : check.Succeeds behind) :
    GetsPast (first >>= rest) first check rest cursor :=
  ⟨value, behind, answers, succeeds, answers.run_bind rest⟩

theorem succeeds_of_ends
    (ends : check.Ends cursor (fun _ after => after = behind)
      fun _ _ => False) : check.Succeeds cursor := by
  obtain ⟨value, answers⟩ := exists_answers_of_ends ends
  exact ⟨value, behind, answers⟩

theorem succeeds_expect (found : cursor.kind = kind) (purpose : String) :
    (expect kind purpose).Succeeds cursor :=
  succeeds_of_ends ((ends_expect found purpose _).2 rfl)

theorem succeeds_identifier
    (found : cursor.kind = .identifier) (what : String) :
    (identifier what).Succeeds cursor :=
  succeeds_of_ends ((ends_identifier found what _).2 rfl)

end Reader

/-! ## Passing a type -/

namespace Cursor

open Reader

variable {cursor : Cursor} {kind : Kind}

/-- The cursor behind the type that starts here. -/
def afterType (cursor : Cursor) : Cursor :=
  if cursor.kindAt 1 = .symbol .openBracket &&
      cursor.kindAt 2 = .symbol .closeBracket then
    cursor.next.next.next
  else
    cursor.next

/-- A type is read here, and behind it stands a token of a kind. -/
def TypeLeadsTo (cursor : Cursor) (kind : Kind) : Prop :=
  ∃ type behind, typeName.Answers cursor type behind ∧ behind.kind = kind

theorem ne_endOfText_of_atTypeStart (starts : cursor.atTypeStart = true) :
    cursor.kind ≠ .endOfText := by
  intro atEnd
  simp [atTypeStart, atEnd, Kind.isTypeKeyword] at starts

/-- The test for a type and the reader of types know the same tokens. -/
theorem isSome_dataType? (cursor : Cursor) :
    (dataType? cursor.current).isSome = cursor.atTypeStart := by
  unfold dataType? atTypeStart
  show _ = (cursor.current.kind.isTypeKeyword ||
    decide (cursor.current.kind = .identifier))
  cases cursor.current.kind with
  | keyword word => cases word <;> rfl
  | _ => rfl

/-- Behind a type stands what the look ahead has seen there. -/
theorem kind_afterType (starts : cursor.atTypeStart = true) :
    cursor.afterType.kind = cursor.kindAfterType := by
  have inside := ne_endOfText_of_atTypeStart starts
  unfold afterType kindAfterType typeLength
  split
  · rename_i suffix
    obtain ⟨opens, closes⟩ :
        cursor.kindAt 1 = .symbol .openBracket ∧
          cursor.kindAt 2 = .symbol .closeBracket := by
      simpa using suffix
    -- Each step moves because the token that it leaves is known not to be
    -- the end of the text.
    have opened : cursor.next.kind = .symbol .openBracket :=
      (kind_next inside).trans opens
    have closed : cursor.next.next.kind = .symbol .closeBracket := by
      rw [kind_next (by rw [opened]; nofun), kindAt_next inside, closes]
    rw [kind_next (by rw [closed]; nofun),
      kindAt_next (by rw [opened]; nofun), kindAt_next inside]
  · exact kind_next inside

/-- Where a type starts, it is read. -/
theorem exists_answers_typeName (starts : cursor.atTypeStart = true) :
    ∃ type, typeName.Answers cursor type cursor.afterType := by
  have inside := ne_endOfText_of_atTypeStart starts
  obtain ⟨dataType, names⟩ := Option.isSome_iff_exists.1
    ((isSome_dataType? cursor).trans starts)
  -- The test looks for the suffix from the type, the reader from behind it.
  have suffix :
      (cursor.next.kind = .symbol .openBracket &&
        cursor.next.kindAt 1 = .symbol .closeBracket) =
      (cursor.kindAt 1 = .symbol .openBracket &&
        cursor.kindAt 2 = .symbol .closeBracket) := by
    rw [kind_next inside, kindAt_next inside]
  apply exists_answers_of_ends
  unfold typeName afterType
  rw [ends_bind, ends_elementType names, ends_bind, ends_get, suffix]
  split
  · exact rfl
  · exact rfl

/-- Where no type starts, none is read. -/
theorem not_answers_typeName
    {type : TypeName} {behind : Cursor} (starts : cursor.atTypeStart ≠ true) :
    ¬ typeName.Answers cursor type behind := by
  have unnamed : dataType? cursor.current = none := by
    rw [← Option.not_isSome_iff_eq_none, isSome_dataType?]
    exact starts
  apply not_answers_of_ends
  unfold typeName elementType
  rw [ends_bind, ends_bind, ends_get, unnamed]
  trivial

/-- The two tests on the tokens of a type, taken together, tell all that the
reader of types would do. -/
theorem typeLeadsTo_iff :
    cursor.TypeLeadsTo kind ↔
      cursor.atTypeStart = true ∧ cursor.kindAfterType = kind := by
  by_cases starts : cursor.atTypeStart = true
  · obtain ⟨type, answers⟩ := exists_answers_typeName starts
    rw [← kind_afterType starts]
    constructor
    · rintro ⟨other, behind, again, follows⟩
      obtain ⟨-, rfl⟩ := answers.unique again
      exact ⟨starts, follows⟩
    · rintro ⟨-, follows⟩
      exact ⟨type, cursor.afterType, answers, follows⟩
  · constructor
    · rintro ⟨type, behind, answers, -⟩
      exact absurd answers (not_answers_typeName starts)
    · exact fun holds => absurd holds.1 starts

instance (cursor : Cursor) (kind : Kind) :
    Decidable (cursor.TypeLeadsTo kind) :=
  decidable_of_iff _ typeLeadsTo_iff.symm

/-- A bracket that the end of the text cuts off is no suffix: it stays behind
the type. -/
example :
    (start
      [⟨.keyword .intType, "Int", default⟩,
        ⟨.symbol .openBracket, "[", default⟩]).TypeLeadsTo
      (.symbol .openBracket) := by
  decide

theorem atVariableStart_iff :
    cursor.atVariableStart = true ↔ cursor.TypeLeadsTo .identifier := by
  rw [typeLeadsTo_iff]
  simp [atVariableStart]

theorem atFunctionStart_iff :
    cursor.atFunctionStart = true ↔
      cursor.kind = .keyword .function ∨
        cursor.TypeLeadsTo (.keyword .function) := by
  rw [typeLeadsTo_iff]
  simp [atFunctionStart]

/-- A line that starts with a type is a member of the script if a function or
a property follows. -/
theorem atMemberStart_iff (starts : cursor.atTypeStart = true) :
    cursor.atMemberStart = true ↔
      cursor.TypeLeadsTo (.keyword .function) ∨
        cursor.TypeLeadsTo (.keyword .property) := by
  rw [typeLeadsTo_iff, typeLeadsTo_iff]
  unfold atMemberStart
  split <;> simp_all [atTypeStart, Kind.isTypeKeyword]

/-- What starts here is neither a state nor any of the lines that are told by
their first keyword, unless it is a function. -/
structure StartsPlain (cursor : Cursor) : Prop where
  event : cursor.kind ≠ .keyword .event
  state : cursor.kind ≠ .keyword .state
  auto : ¬ (cursor.kind = .keyword .auto ∧ cursor.kindAt 1 = .keyword .state)
  scriptname : cursor.kind ≠ .keyword .scriptname
  importScript : cursor.kind ≠ .keyword .importScript

/-- A declaration that is left when the other lines are told apart starts with
the keyword of a function, or with a type in front of one, of a property or
of a variable. -/
theorem StartsPlain.leads
    (plain : cursor.StartsPlain) (declares : cursor.atDeclaration = true) :
    cursor.kind = .keyword .function ∨
      cursor.TypeLeadsTo (.keyword .function) ∨
        cursor.TypeLeadsTo (.keyword .property) ∨
          cursor.TypeLeadsTo .identifier := by
  rw [atDeclaration, Bool.or_eq_true, atVariableStart_iff] at declares
  rcases declares with member | named
  · by_cases typed : cursor.atTypeStart = true
    · rcases (atMemberStart_iff typed).1 member with function | property
      · exact .inr (.inl function)
      · exact .inr (.inr (.inl property))
    · -- Without a type only the keyword of a function is left.
      obtain ⟨noEvent, noState, noAuto, noHeader, noImport⟩ := plain
      unfold atMemberStart at member
      split at member <;> simp_all
  · exact .inr (.inr (.inr named))

/-- The keyword that marks a state starts no declaration by itself. -/
theorem StartsPlain.ne_auto
    (plain : cursor.StartsPlain) (declares : cursor.atDeclaration = true) :
    cursor.kind ≠ .keyword .auto := by
  intro auto
  have alone : cursor.kindAt 1 ≠ .keyword .state :=
    fun state => plain.auto ⟨auto, state⟩
  simp [atDeclaration, atMemberStart, atVariableStart, atTypeStart,
    Kind.isTypeKeyword, auto, alone] at declares

end Cursor

/-! ## Entering a reader -/

namespace Reader

/-- Read the declaration of a local variable after its type. -/
def declareAfter (type : TypeName) : Reader Statement := do
  let name ← identifier "variable name"
  let initial ← initialExpression
  let span := (← get).spanFrom type.span.start
  endOfLine "variable declaration"
  return .declare type name initial span

/-- The reader of a function gets past its return type, if there is one, and
past its keyword. -/
def GetsToFunction (reader : Reader α) (rest : Option TypeName → Reader α)
    (cursor : Cursor) : Prop :=
  reader.GetsPast (return none) (expect (.keyword .function) "") rest
      cursor ∨
    reader.GetsPast (some <$> typeName) (expect (.keyword .function) "") rest
      cursor

/-- The reader of plain members gets past what tells which member it is: a
function, or a property or variable behind its type. -/
inductive PlainMemberOpens (cursor : Cursor) : Prop
  | function
      (opens : plainMember.GetsToFunction
        (fun type => .function <$> function type) cursor)
  | property
      (opens : plainMember.GetsPast typeName (expect (.keyword .property) "")
        (fun type => .property <$> propertyAfter type) cursor)
  | variable
      (opens : plainMember.GetsPast typeName (identifier "variable name")
        (fun type => .variable <$> variableAfter type) cursor)

/-- The reader of members gets past the keyword of an event or state, or goes
on as the reader of plain members, which gets past its beginning. -/
inductive MemberOpens (cursor : Cursor) : Prop
  | event
      (opens : members.GetsPast (return ()) (expect (.keyword .event) "")
        (fun _ => do return [.event (← event)]) cursor)
  | state
      (opens : members.GetsPast (return ())
        (do let _ ← autoMark; expect (.keyword .state) "")
        (fun _ => stateMembers) cursor)
  | plain
      (same : members.run.run cursor =
        (do return [← plainMember] : Reader (List Member)).run.run cursor)
      (opens : PlainMemberOpens cursor)

variable {cursor : Cursor}

theorem getsPast_declareStatement (leads : cursor.TypeLeadsTo .identifier) :
    declareStatement.GetsPast typeName (identifier "variable name")
      declareAfter cursor := by
  obtain ⟨type, behind, answers, follows⟩ := leads
  exact .of_answers answers (succeeds_identifier follows _)

theorem getsToFunction_accessor (starts : cursor.atFunctionStart = true) :
    accessor.GetsToFunction function cursor := by
  by_cases untyped : cursor.kind = .keyword .function
  · refine .inl ⟨none, cursor, rfl, succeeds_expect untyped _, ?_⟩
    unfold accessor
    rw [run_get_bind, if_pos untyped]
  · rcases Cursor.atFunctionStart_iff.1 starts with found | leads
    · exact absurd found untyped
    · obtain ⟨type, behind, answers, follows⟩ := leads
      refine .inr ⟨some type, behind, answers.map some,
        succeeds_expect follows _, ?_⟩
      unfold accessor
      rw [run_get_bind, if_neg untyped, answers.run_bind]

/-- Where no function without a type starts, a plain member has a type. -/
theorem run_plainMember_of_answers {type : TypeName} {behind : Cursor}
    (answers : typeName.Answers cursor type behind) :
    plainMember.run.run cursor = typedMember.run.run cursor := by
  have typed : cursor.kind ≠ .keyword .function := by
    intro found
    refine Cursor.not_answers_typeName ?_ answers
    simp [Cursor.atTypeStart, found, Kind.isTypeKeyword]
  unfold plainMember
  rw [run_get_bind, if_neg typed]

theorem plainMemberOpens_of_function
    (untyped : cursor.kind = .keyword .function) :
    PlainMemberOpens cursor := by
  refine .function (.inl ⟨none, cursor, rfl, succeeds_expect untyped _, ?_⟩)
  unfold plainMember
  rw [run_get_bind, if_pos untyped]

theorem plainMemberOpens_of_typedFunction
    (leads : cursor.TypeLeadsTo (.keyword .function)) :
    PlainMemberOpens cursor := by
  obtain ⟨type, behind, answers, follows⟩ := leads
  refine .function (.inr ⟨some type, behind, answers.map some,
    succeeds_expect follows _, ?_⟩)
  rw [run_plainMember_of_answers answers, typedMember, answers.run_bind,
    run_get_bind, follows]

theorem plainMemberOpens_of_property
    (leads : cursor.TypeLeadsTo (.keyword .property)) :
    PlainMemberOpens cursor := by
  obtain ⟨type, behind, answers, follows⟩ := leads
  refine .property ⟨type, behind, answers, succeeds_expect follows _, ?_⟩
  rw [run_plainMember_of_answers answers, typedMember, answers.run_bind,
    run_get_bind, follows]

theorem plainMemberOpens_of_variable
    (leads : cursor.TypeLeadsTo .identifier) : PlainMemberOpens cursor := by
  obtain ⟨type, behind, answers, follows⟩ := leads
  refine .variable ⟨type, behind, answers, succeeds_identifier follows _, ?_⟩
  rw [run_plainMember_of_answers answers, typedMember, answers.run_bind,
    run_get_bind, follows]

theorem plainMemberOpens_of_atDeclaration
    (plain : cursor.StartsPlain) (declares : cursor.atDeclaration = true) :
    PlainMemberOpens cursor := by
  rcases plain.leads declares with untyped | leads | leads | leads
  · exact plainMemberOpens_of_function untyped
  · exact plainMemberOpens_of_typedFunction leads
  · exact plainMemberOpens_of_property leads
  · exact plainMemberOpens_of_variable leads

theorem exists_answers_autoMark (cursor : Cursor) :
    ∃ auto, Answers (liftM autoMark) cursor auto
      (if cursor.kind = .keyword .auto then cursor.next else cursor) := by
  apply exists_answers_of_ends
  rw [ends_lift, autoMark, Recovery.ends_bind, Recovery.ends_get]
  split
  · exact rfl
  · exact rfl

theorem succeeds_stateKeyword (starts : cursor.kind = .keyword .state ∨
      cursor.kind = .keyword .auto ∧ cursor.kindAt 1 = .keyword .state) :
    Succeeds (do let _ ← autoMark; expect (.keyword .state) "") cursor := by
  obtain ⟨_, answers⟩ := exists_answers_autoMark cursor
  refine answers.succeeds (succeeds_expect ?_ _)
  rcases starts with state | ⟨auto, state⟩
  · rw [if_neg (by rw [state]; nofun), state]
  · rw [if_pos auto, Cursor.kind_next (by rw [auto]; nofun), state]

theorem run_members_of_state
    (starts : cursor.kind = .keyword .state ∨ cursor.kind = .keyword .auto) :
    members.run.run cursor = stateMembers.run.run cursor := by
  rcases starts with kind | kind <;> rw [members, run_get_bind, kind]

/-- A declaration that is no header and no import opens a member. -/
theorem memberOpens_of_atDeclaration (declares : cursor.atDeclaration = true)
    (noHeader : cursor.kind ≠ .keyword .scriptname)
    (noImport : cursor.kind ≠ .keyword .importScript) :
    MemberOpens cursor := by
  by_cases event : cursor.kind = .keyword .event
  · refine .event ⟨(), cursor, rfl, succeeds_expect event _, ?_⟩
    rw [members, run_get_bind, event]
  by_cases state : cursor.kind = .keyword .state ∨
      cursor.kind = .keyword .auto ∧ cursor.kindAt 1 = .keyword .state
  · refine .state ⟨(), cursor, rfl, succeeds_stateKeyword state, ?_⟩
    exact run_members_of_state (state.imp id And.left)
  rw [not_or] at state
  have plain : cursor.StartsPlain :=
    ⟨event, state.1, state.2, noHeader, noImport⟩
  have noAuto := plain.ne_auto declares
  refine .plain ?_ (plainMemberOpens_of_atDeclaration plain declares)
  rw [members, run_get_bind]
  split
  · exact absurd ‹_› event
  · exact absurd ‹_› state.1
  · exact absurd ‹_› noAuto
  · rfl

end Reader

/-! ## What the tests foretell -/

/-- The tests on the next tokens agree with the reader of types at a cursor,
and every reader that is entered on the strength of one of them gets past the
type and past the keyword or name behind it. -/
structure Cursor.ForetellsTypes (cursor : Cursor) : Prop where
  /-- A variable starts where a type is read and leads to a name. -/
  variableStart : cursor.atVariableStart = true ↔ cursor.TypeLeadsTo .identifier
  /-- A function starts at its keyword, or where a type leads to it. -/
  functionStart :
    cursor.atFunctionStart = true ↔
      cursor.kind = .keyword .function ∨ cursor.TypeLeadsTo (.keyword .function)
  /-- Of the lines with a type in front, those are members whose type leads
  to the keyword of a function or property. -/
  memberStart :
    cursor.kind.isTypeKeyword = true ∨ cursor.kind = .identifier →
      (cursor.atMemberStart = true ↔
        cursor.TypeLeadsTo (.keyword .function) ∨
          cursor.TypeLeadsTo (.keyword .property))
  /-- A statement is read as the declaration of a local variable only where
  its type and its name are read. -/
  declaration :
    cursor.atVariableStart = true →
      Reader.declareStatement.GetsPast Reader.typeName
        (Reader.identifier "variable name") Reader.declareAfter cursor
  /-- The function of a property is read only where its type, if it has one,
  and its keyword are read. -/
  accessor :
    cursor.atFunctionStart = true →
      Reader.accessor.GetsToFunction Reader.function cursor
  /-- The same holds of the members of a script, from which headers and
  imports have been told apart. -/
  member :
    cursor.atDeclaration = true →
      cursor.kind ≠ .keyword .scriptname →
        cursor.kind ≠ .keyword .importScript → Reader.MemberOpens cursor
  /-- A declaration inside a state is reported before it is read, which does
  not move the cursor. -/
  hoisted :
    ∀ diagnostic : Diagnostic, cursor.StartsPlain →
      cursor.atDeclaration = true →
        Reader.PlainMemberOpens (cursor.report diagnostic)

/-- Whatever stands in front of the cursor, a lone bracket or a suffix that
the text cuts off included, the tests count exactly the tokens that the
reader of types passes. -/
theorem Cursor.foretellsTypes (cursor : Cursor) : cursor.ForetellsTypes where
  variableStart := atVariableStart_iff
  functionStart := atFunctionStart_iff
  memberStart := by
    intro starts
    apply atMemberStart_iff
    simpa [atTypeStart] using starts
  declaration := fun starts =>
    Reader.getsPast_declareStatement (atVariableStart_iff.1 starts)
  accessor := Reader.getsToFunction_accessor
  member := Reader.memberOpens_of_atDeclaration
  hoisted := by
    intro diagnostic plain declares
    exact Reader.plainMemberOpens_of_atDeclaration
      ⟨plain.event, plain.state, plain.auto, plain.scriptname,
        plain.importScript⟩ declares

end PapyrusScript
