import PapyrusScript.Proofs.Reading

/-!
# Expressions render what they were read from

Each lemma says what a reader has passed when it answers.  Readers of whole
expressions say that they are `Sound`: what they have passed renders their
answer, which is well-shaped.

The parts of a chain are read in a loop.  What the loop preserves is that
everything read so far renders the chain so far.  The arguments of a call are
rendered from the last to the first, while they are read from the first to the
last; so their loop preserves that more arguments may follow.

An operand that is a single integer is never followed by what would go on
with it as a chain or a cast.  So a minus in front of such an operand has been
read as its sign, and no rendering needs parentheses there.

Operators are read until one comes that binds less tightly.  That is why the
next operator never binds more tightly than what has been read.
-/

namespace PapyrusScript.Reader

open Cursor

section Operands

variable {cursor : Cursor} {level : Nat}
variable {value : Expression} {before inside : Rendering} {after : Cursor}

/-- A row of tokens renders an expression, and the expression is well-shaped. -/
structure Rendered
    (level : Nat) (strength : Precedence) (value : Expression)
    (rendering : Rendering) : Prop where
  renders : Renders level (.expression strength value) rendering
  shaped : value.WellShaped

def Sound (reader : Reader Expression) (level : Nat) (strength : Precedence) :
    Prop :=
  ∀ cursor, reader.Yields cursor fun value after =>
    cursor.Shows after (Rendered level strength value)

theorem Rendered.weaken {strength weaker : Precedence} {rendering : Rendering}
    (read : Rendered level strength value rendering)
    (allowed : weaker.rank ≤ strength.rank) :
    Rendered level weaker value rendering :=
  ⟨.weaken read.renders allowed, read.shaped⟩

/-! ## Single tokens -/

theorem yields_expect (kind : Kind) (purpose : String) :
    (expect kind purpose).Yields cursor fun token after =>
      cursor.kind = kind ∧ token = cursor.current ∧ after = cursor.next := by
  unfold expect
  apply Yields.get
  split
  · rename_i found
    exact ⟨found, rfl, rfl⟩
  · split <;> exact yields_reject _

theorem yields_identifier (what : String) :
    (identifier what).Yields cursor fun node after =>
      cursor.kind = .identifier ∧
        node = ⟨cursor.current.text, cursor.current.span⟩ ∧
          after = cursor.next := by
  unfold identifier
  apply Yields.get
  split
  · rename_i found
    exact ⟨found, rfl, rfl⟩
  · exact yields_reject _

theorem yields_elementType :
    elementType.Yields cursor fun type after =>
      ∃ dataType, dataType? cursor.current = some dataType ∧
        type = ⟨dataType, false, cursor.current.span⟩ ∧
          after = cursor.next := by
  unfold elementType
  apply Yields.get
  split
  · rename_i dataType found
    exact ⟨dataType, found, rfl, rfl⟩
  · exact yields_reject _

/-- A token that has a value spells it. -/
theorem spells_of_literalValue
    {token : Token} {value : Value} (found : literalValue token = .ok value) :
    token.Spells value := by
  unfold literalValue at found
  split at found
  · rename_i kind
    unfold integerValue at found
    split at found
    · rename_i number reads
      cases found
      exact .int kind reads
    · cases found
  · rename_i kind
    unfold floatValue at found
    split at found
    · rename_i number reads
      split at found
      · cases found
      · rename_i bounded
        cases found
        exact .float kind reads (by simpa using bounded)
    · cases found
  · rename_i kind
    cases found
    exact .string kind
  · rename_i kind
    cases found
    exact .bool true kind
  · rename_i kind
    cases found
    exact .bool false kind
  · rename_i kind
    cases found
    exact .none kind
  · rename_i kind
    cases found
    exact .selfReference kind
  · rename_i kind
    cases found
    exact .parentReference kind
  · cases found

theorem yields_literal :
    literal.Yields cursor fun node after =>
      cursor.current.Spells node.value ∧ after = cursor.next := by
  unfold literal
  apply Yields.get
  split
  · exact yields_throw _
  · rename_i value found
    exact ⟨spells_of_literalValue found, rfl⟩

/-- A minus that is the sign of an integer, and the integer. -/
theorem yields_constant_of_atSignedInteger
    (signed : atSignedInteger cursor = true) :
    constant.Yields cursor fun node after =>
      ∃ number, node.value = .int number ∧
        cursor.kind = .symbol .minus ∧ cursor.next.kind = .intLiteral ∧
        Number.integer? true cursor.next.current.text.toList = some number ∧
          after = cursor.next.next := by
  unfold atSignedInteger at signed
  simp only [Bool.and_eq_true, decide_eq_true_eq] at signed
  obtain ⟨⟨minus, integer⟩, _⟩ := signed
  have inside : cursor.kind ≠ .endOfText := by simp [minus]
  rw [← kind_next inside] at integer
  have kind : cursor.next.current.kind = .intLiteral := integer
  unfold constant
  apply Yields.get
  rw [if_pos minus]
  apply Yields.advance
  apply Yields.get
  unfold negativeValue integerValue
  rw [kind]
  cases reads : Number.integer? true cursor.next.current.text.toList with
  | none => exact yields_throw _
  | some number => exact ⟨number, rfl, minus, integer, rfl, rfl⟩

/-- A type shows the tokens that spell it. -/
theorem yields_typeName (shallow : level ≤ nestingLimit) :
    typeName.Yields cursor fun type after =>
      cursor.Shows after fun rendering =>
        ∃ row, rendering = Rendering.flat level row ∧ type.Spelled row := by
  unfold typeName
  apply yields_elementType.bind
  intro _ _ reached
  obtain ⟨dataType, names, rfl, rfl⟩ := reached
  have inside : cursor.kind ≠ .endOfText := ne_endOfText_of_dataType? names
  apply Yields.get
  split
  · rename_i brackets
    simp only [Bool.and_eq_true, decide_eq_true_eq] at brackets
    obtain ⟨opens, closes⟩ := brackets
    have second : cursor.next.kind ≠ .endOfText := by simp [opens]
    rw [← kind_next second] at closes
    have third : cursor.next.next.kind ≠ .endOfText := by simp [closes]
    have last : cursor.next.next.Shows cursor.next.next.next
        fun rendering => rendering = [(cursor.next.next.current, level)] :=
      .next third shallow rfl
    apply Yields.advance
    apply Yields.advance
    apply Yields.pure
    apply ((last.cons second shallow).cons inside shallow).mono
    intro _ reached
    obtain ⟨_, rfl, _, rfl, rfl⟩ := reached
    exact ⟨[cursor.current, cursor.next.current, cursor.next.next.current],
      rfl, .array names opens closes⟩
  · apply Yields.pure
    exact .next inside shallow ⟨[cursor.current], rfl, .plain names⟩

/-! ## First parts -/

/-- A first part, and that it is no bare creation in front of a bracket. -/
def FirstPart (level : Nat) (value : Expression) (after : Cursor)
    (rendering : Rendering) : Prop :=
  Rendered level .primary value rendering ∧
    (rendering.isCreation = true → after.kind ≠ .symbol .openBracket)

theorem FirstPart.of_parenthesized
    {opening closing : Token} {inside : Rendering}
    (opens : opening.kind = .symbol .openParen)
    (closes : closing.kind = .symbol .closeParen)
    (read : Rendered (level + 1) .logicalOr value inside) :
    FirstPart level value after
      ((opening, level) :: (inside ++ [(closing, level)])) := by
  refine ⟨⟨.parenthesized opens closes read.renders, read.shaped⟩, ?_⟩
  have nonempty := read.renders.ne_nil
  intro creation
  cases inside with
  | nil => exact absurd rfl nonempty
  | cons entry more => simp [Rendering.isCreation] at creation

/-- A size that is not reported is no literal above the limit. -/
theorem small_of_ends_checkArraySize (size : Expression) :
    Recovery.Ends (checkArraySize size) cursor fun _ after =>
      after = cursor ∧
          (∀ count place, size = .literal ⟨.int count, place⟩ →
            count ≤ arrayLimit) ∨
        after.reported.length = cursor.reported.length + 1 := by
  unfold checkArraySize
  split
  · split
    · exact Or.inr rfl
    · rename_i count place within
      refine Or.inl ⟨rfl, ?_⟩
      intro found foundPlace same
      cases same
      exact Int32.not_lt.1 within
  · rename_i other
    refine Or.inl ⟨rfl, ?_⟩
    intro count place same
    exact absurd same (other count place)

variable {inner : Reader Expression}

/-- A new object or array shows a rendering of itself. -/
theorem yields_newObject (sound : inner.Sound (level + 1) .logicalOr)
    (shallow : level ≤ nestingLimit) :
    (newObject inner).Yields cursor fun value after =>
      cursor.Shows after (FirstPart level value after) := by
  unfold newObject
  apply (yields_expect _ _).bind
  intro keyword _ reached
  obtain ⟨kind, rfl, rfl⟩ := reached
  have inside : cursor.kind ≠ .endOfText := by simp [kind]
  apply yields_elementType.bind
  intro _ _ reached
  obtain ⟨dataType, names, rfl, rfl⟩ := reached
  have second : cursor.next.kind ≠ .endOfText := ne_endOfText_of_dataType? names
  apply Yields.get
  split
  · rename_i opens
    have third : cursor.next.next.kind ≠ .endOfText := by simp [opens]
    apply Yields.advance
    apply (sound _).bind
    intro size after shows
    apply (Yields.lift (small_of_ends_checkArraySize size)).bind
    intro _ checked outcome
    apply (yields_expect _ _).bind
    intro closing _ reached
    obtain ⟨closes, rfl, rfl⟩ := reached
    have last : checked.kind ≠ .endOfText := by simp [closes]
    apply Yields.pure
    rcases outcome with ⟨rfl, small⟩ | told
    · apply (((shows.enclose third last shallow).cons second shallow).cons
        inside shallow).mono
      intro _ reached
      obtain ⟨_, rfl, _, rfl, size, rfl, read⟩ := reached
      refine ⟨⟨.createArray kind names opens closes read.renders,
        .createArray rfl read.shaped small⟩, ?_⟩
      intro creation
      simp [Rendering.isCreation] at creation
    · have grows := shows.grows
      rw [reported_next, reported_next, reported_next] at grows
      constructor
      · rw [reported_next]
        omega
      · intro silent
        rw [reported_next] at silent
        omega
  · rename_i apart
    apply Yields.pure
    have last : cursor.next.Shows cursor.next.next
        fun rendering => rendering = [(cursor.next.current, level)] :=
      .next second shallow rfl
    apply (last.cons inside shallow).mono
    intro _ reached
    obtain ⟨_, rfl, rfl⟩ := reached
    exact ⟨⟨.createObject kind names, .createObject rfl⟩, fun _ => apart⟩

/-- An operand without prefix shows a rendering of itself. -/
theorem yields_primary (sound : inner.Sound (level + 1) .logicalOr)
    (shallow : level ≤ nestingLimit) :
    (primary inner).Yields cursor fun value after =>
      cursor.Shows after (FirstPart level value after) := by
  unfold primary
  apply Yields.get
  dsimp only
  split
  · apply yields_literal.bind
    intro node _ reached
    obtain ⟨spells, rfl⟩ := reached
    have inside : cursor.kind ≠ .endOfText := by
      intro atEnd
      have literal := spells.isLiteralKind
      rw [show cursor.current.kind = _ from atEnd] at literal
      cases literal
    apply Yields.pure
    apply Shows.next inside shallow
    refine ⟨⟨.literal spells, .literal⟩, ?_⟩
    intro creation
    cases creation
  · split
    · rename_i kind
      apply Yields.advance
      apply Yields.pure
      apply Shows.next (by simp [kind]) shallow
      refine ⟨⟨.name kind, .name⟩, ?_⟩
      intro creation
      cases creation
    · rename_i opens
      apply Yields.advance
      apply (sound _).bind
      intro value after shows
      apply (yields_expect _ _).bind
      intro closing _ reached
      obtain ⟨closes, rfl, rfl⟩ := reached
      apply Yields.pure
      apply (shows.enclose (by simp [opens]) (by simp [closes]) shallow).mono
      intro _ reached
      obtain ⟨inside, rfl, read⟩ := reached
      exact .of_parenthesized opens closes read
    · exact yields_newObject sound shallow
    · exact yields_reject _

variable {source : Cursor}

/-! ## Arguments -/

/-- The name of an argument shows its name and the sign behind it. -/
theorem ends_argumentName_shows (shallow : level ≤ nestingLimit) :
    Recovery.Ends argumentName cursor fun name after =>
      cursor.Shows after fun rendering =>
        ∃ row, rendering = Rendering.flat level row ∧
          Identifier.SpelledAs name row := by
  unfold argumentName
  rw [Recovery.ends_bind, Recovery.ends_get]
  split
  · rename_i named
    simp only [Bool.and_eq_true, decide_eq_true_eq] at named
    obtain ⟨name, assigns⟩ := named
    have inside : cursor.kind ≠ .endOfText := by simp [name]
    rw [← kind_next inside] at assigns
    have second : cursor.next.kind ≠ .endOfText := by simp [assigns]
    have sign : cursor.next.Shows cursor.next.next
        fun rendering => rendering = [(cursor.next.current, level)] :=
      .next second shallow rfl
    apply (sign.cons inside shallow).mono
    intro _ reached
    obtain ⟨_, rfl, rfl⟩ := reached
    exact ⟨[cursor.current, cursor.next.current], rfl, .named name assigns⟩
  · apply Shows.nil
    exact ⟨[], rfl, .unnamed⟩

/-- The tokens of an argument: its name, and its value one level deeper. -/
structure ArgumentRendered
    (level : Nat) (found : Argument Expression) (rendering : Rendering) :
    Prop where
  parts : ∃ row inside,
    rendering = Rendering.flat level row ++ inside ∧
      Identifier.SpelledAs found.name row ∧
        Renders (level + 1) (.expression .logicalOr found.value) inside
  shaped : found.value.WellShaped

/-- An argument shows a rendering of its value behind its name. -/
theorem yields_argument (sound : inner.Sound (level + 1) .logicalOr)
    (shallow : level ≤ nestingLimit) :
    (argument inner).Yields cursor fun found after =>
      cursor.Shows after (ArgumentRendered level found) := by
  unfold argument
  apply Yields.get
  apply (Yields.lift (ends_argumentName_shows shallow)).bind
  intro name named shows
  apply (sound named).bind
  intro value after more
  apply Yields.get
  apply Yields.pure
  apply shows.append more
  intro _ inside reached read
  obtain ⟨row, rfl, spelled⟩ := reached
  exact ⟨⟨row, inside, rfl, spelled, read.renders⟩, read.shaped⟩

/-- The arguments so far and the commas behind them: any more arguments may
follow. -/
def Begun (level : Nat) (found : List (Argument Expression))
    (rendering : Rendering) : Prop :=
  (∀ argument ∈ found, argument.value.WellShaped) ∧
    ∀ more behind, more ≠ [] → Renders level (.arguments more) behind →
      Renders level (.arguments (found ++ more)) (rendering ++ behind)

/-- The arguments of a call, each of them well-shaped. -/
structure ArgumentsRendered
    (level : Nat) (found : List (Argument Expression))
    (rendering : Rendering) : Prop where
  renders : Renders level (.arguments found) rendering
  shaped : ∀ argument ∈ found, argument.value.WellShaped

/-- The last argument completes those that have begun. -/
theorem Begun.last
    {found : List (Argument Expression)} {last : Argument Expression}
    (begun : Begun level found before)
    (read : ArgumentRendered level last inside) :
    ArgumentsRendered level (found ++ [last]) (before ++ inside) := by
  obtain ⟨⟨row, value, rfl, spelled, renders⟩, shaped⟩ := read
  constructor
  · apply begun.2
    · exact List.cons_ne_nil _ _
    · exact .lastArgument spelled renders
  · intro argument member
    rcases List.mem_append.1 member with earlier | same
    · exact begun.1 argument earlier
    · rw [List.mem_singleton.1 same]
      exact shaped

/-- An argument and a comma go on with those that have begun. -/
theorem Begun.next
    {found : List (Argument Expression)} {next : Argument Expression}
    {comma : Token} (begun : Begun level found before)
    (read : ArgumentRendered level next inside)
    (kind : comma.kind = .symbol .comma) :
    Begun level (found ++ [next]) (before ++ (inside ++ [(comma, level)])) := by
  have whole := begun.last read
  obtain ⟨⟨row, value, rfl, spelled, renders⟩, shaped⟩ := read
  refine ⟨whole.shaped, ?_⟩
  intro more behind nonempty rest
  cases more with
  | nil => exact absurd rfl nonempty
  | cons following more =>
    have renders := begun.2 _ _ (List.cons_ne_nil _ _)
      (.nextArgument kind spelled renders rest)
    simpa using renders

/-- The arguments of a call show renderings between their commas. -/
theorem yields_argumentList (sound : inner.Sound (level + 1) .logicalOr)
    (advances : ∀ cursor, inner.Advances cursor)
    (shallow : level ≤ nestingLimit) :
    (argumentList inner).Yields cursor fun found after =>
      cursor.Shows after (ArgumentsRendered level found) := by
  unfold argumentList
  apply Yields.get
  split
  · apply Yields.pure
    apply Shows.nil
    exact ⟨.noArguments, by simp⟩
  · have start : cursor.Shows cursor (Begun level []) := by
      apply Shows.nil
      exact ⟨by simp, fun more behind _ renders => renders⟩
    have preserves found between
        (shows : cursor.Shows between (Begun level found)) :
        (nextArgument inner found).Yields between
          (Step.Settles
            (fun found after => cursor.Shows after (Begun level found))
            (fun found after =>
              cursor.Shows after (ArgumentsRendered level found))) := by
      unfold nextArgument
      apply (yields_argument sound shallow).bind
      intro next after more
      apply Yields.get
      split
      · rename_i comma
        apply Yields.advance
        apply Yields.pure
        apply shows.append (more.snoc (by simp [comma]) shallow)
        intro before _ begun reached
        obtain ⟨inside, rfl, read⟩ := reached
        exact begun.next read comma
      · apply Yields.pure
        apply shows.append more
        intro before inside begun read
        exact begun.last read
    exact Yields.loop (proceeds_nextArgument advances) preserves start

/-- Arguments show what stands between their parentheses. -/
theorem yields_arguments (sound : inner.Sound (level + 1) .logicalOr)
    (advances : ∀ cursor, inner.Advances cursor)
    (shallow : level ≤ nestingLimit) :
    (arguments inner).Yields cursor fun found after =>
      cursor.Shows after fun rendering =>
        ∃ opening closing inside,
          rendering = (opening, level) :: (inside ++ [(closing, level)]) ∧
            opening.kind = .symbol .openParen ∧
            closing.kind = .symbol .closeParen ∧
              ArgumentsRendered level found.1 inside := by
  unfold arguments
  apply (yields_expect _ _).bind
  intro _ _ reached
  obtain ⟨opens, rfl, rfl⟩ := reached
  apply (yields_argumentList sound advances shallow).bind
  intro found after shows
  apply (yields_expect _ _).bind
  intro _ _ reached
  obtain ⟨closes, rfl, rfl⟩ := reached
  apply Yields.pure
  apply (shows.enclose (by simp [opens]) (by simp [closes]) shallow).mono
  intro _ reached
  obtain ⟨inside, rfl, read⟩ := reached
  exact ⟨_, _, inside, rfl, opens, closes, read⟩

/-! ## Chains -/

/-- What has more than two tokens is not a bare creation. -/
theorem isCreation_eq_false_of_length
    {rendering : Rendering} (several : 2 < rendering.length) :
    rendering.isCreation = false := by
  match rendering with
  | [] => rfl
  | [_] => rfl
  | [_, _] => simp at several
  | _ :: _ :: _ :: _ => rfl

/-- A chain goes on with two tokens at least, so it is no bare creation. -/
theorem FirstPart.of_append
    {before behind : Rendering} {first second : Token × Nat}
    {object : Expression} (start : Rendered level .primary object before)
    (read : Rendered level .primary value
      (before ++ first :: second :: behind)) :
    FirstPart level value after (before ++ first :: second :: behind) := by
  refine ⟨read, ?_⟩
  have nonempty := List.length_pos_iff.2 start.renders.ne_nil
  have several : 2 < (before ++ first :: second :: behind).length := by
    simp only [List.length_append, List.length_cons]
    omega
  rw [isCreation_eq_false_of_length several]
  intro creation
  cases creation

theorem FirstPart.of_enclosed {first last : Token × Nat} {object : Expression}
    (start : Rendered level .primary object before)
    (read : Rendered level .primary value
      (before ++ first :: (inside ++ [last]))) :
    FirstPart level value after (before ++ first :: (inside ++ [last])) := by
  cases inside with
  | nil => exact .of_append start read
  | cons second more => exact .of_append start read

/-- The loop over a chain keeps a rendering of all that it has read. -/
theorem yields_chainPart (sound : inner.Sound (level + 1) .logicalOr)
    (advances : ∀ cursor, inner.Advances cursor)
    (shallow : level ≤ nestingLimit) {whole : Expression}
    (shows : source.Shows cursor (FirstPart level whole cursor)) :
    (chainPart inner whole).Yields cursor
      (Step.Settles
        (fun value after => source.Shows after (FirstPart level value after))
        (fun value after =>
          source.Shows after (FirstPart level value after) ∧
            (after.kind ≠ .keyword .castAs →
              continuesOperand after.kind = false))) := by
  unfold chainPart
  apply Yields.get
  split
  · rename_i dot
    have inside : cursor.kind ≠ .endOfText := by simp [dot]
    apply Yields.advance
    apply Yields.get
    split
    · rename_i length
      have second : cursor.next.kind ≠ .endOfText := by simp [length]
      have last : cursor.next.Shows cursor.next.next
          fun rendering => rendering = [(cursor.next.current, level)] :=
        .next second shallow rfl
      apply Yields.advance
      apply Yields.pure
      apply shows.append (last.cons inside shallow)
      intro before _ reached reachedToo
      obtain ⟨start, _⟩ := reached
      obtain ⟨_, rfl, rfl⟩ := reachedToo
      exact .of_append start
        ⟨.arrayLength dot length start.renders, .arrayLength start.shaped⟩
    · apply (yields_identifier _).bind
      intro _ _ reached
      obtain ⟨named, rfl, rfl⟩ := reached
      have second : cursor.next.kind ≠ .endOfText := by simp [named]
      have last : cursor.next.Shows cursor.next.next
          fun rendering => rendering = [(cursor.next.current, level)] :=
        .next second shallow rfl
      apply Yields.pure
      apply shows.append (last.cons inside shallow)
      intro before _ reached reachedToo
      obtain ⟨start, _⟩ := reached
      obtain ⟨_, rfl, rfl⟩ := reachedToo
      exact .of_append start
        ⟨.member dot named start.renders, .member start.shaped⟩
  -- a subscript: what stands in front is no bare creation, or the bracket
  -- would be read with its type
  · rename_i opens
    apply Yields.advance
    apply (sound _).bind
    intro subscript after more
    apply (yields_expect _ _).bind
    intro closing _ reached
    obtain ⟨closes, rfl, rfl⟩ := reached
    have enclosed := more.enclose (by simp [opens]) (by simp [closes]) shallow
    apply Yields.pure
    apply shows.append enclosed
    intro before _ reached reachedToo
    obtain ⟨start, apart⟩ := reached
    obtain ⟨inside, rfl, read⟩ := reachedToo
    have several : before.isCreation = false := by
      rw [Bool.eq_false_iff]
      intro creation
      exact apart creation opens
    exact .of_enclosed start
      ⟨.index opens closes start.renders several read.renders,
        .index start.shaped read.shaped⟩
  · split
    · rename_i callable
      apply (yields_arguments sound advances shallow).bind
      intro reached after more
      obtain ⟨found, close⟩ := reached
      apply Yields.pure
      apply shows.append more
      intro before _ reached reachedToo
      obtain ⟨start, _⟩ := reached
      obtain ⟨opening, closing, inside, rfl, opens, closes, read⟩ := reachedToo
      exact .of_enclosed start
        ⟨.call opens closes start.renders read.renders,
          .call callable start.shaped read.shaped⟩
    · apply Yields.get
      exact yields_throw _
  -- the chain ends here, and only a cast may still go on with it
  · rename_i noDot noBracket noParen
    apply Yields.pure
    refine ⟨shows, ?_⟩
    intro noCast
    unfold continuesOperand
    split <;> first | rfl | contradiction

/-- A chain shows a rendering of itself, and nothing goes on with it. -/
theorem yields_chain (sound : inner.Sound (level + 1) .logicalOr)
    (advances : ∀ cursor, inner.Advances cursor)
    (shallow : level ≤ nestingLimit) :
    (chain inner).Yields cursor fun value after =>
      cursor.Shows after (FirstPart level value after) ∧
        (after.kind ≠ .keyword .castAs →
          continuesOperand after.kind = false) := by
  unfold chain
  apply (yields_primary sound shallow).bind
  intro first after shows
  apply Yields.get
  have preserves value between
      (holds : cursor.Shows between (FirstPart level value between)) :=
    yields_chainPart sound advances shallow holds
  exact Yields.loop (proceeds_chainPart advances) preserves shows

end Operands

/-! ## Operators render what they were read from -/

section Operators

variable {source cursor : Cursor} {level : Nat}

def OperandRendered (level : Nat) (strength : Precedence) (value : Expression)
    (after : Cursor) (rendering : Rendering) : Prop :=
  Rendered level strength value rendering ∧
    (rendering.isInteger = true → continuesOperand after.kind = false)

def SoundOperand (reader : Reader Expression) (level : Nat) : Prop :=
  ∀ cursor, reader.Yields cursor fun value after =>
    cursor.Shows after (OperandRendered level .unary value after)

theorem isInteger_eq_false_of_append
    {before behind : Rendering} {entry : Token × Nat} {strength : Precedence}
    {value : Expression}
    (renders : Renders level (.expression strength value) before) :
    Rendering.isInteger (before ++ entry :: behind) = false := by
  have nonempty := renders.ne_nil
  cases before with
  | nil => exact absurd rfl nonempty
  | cons first before =>
    cases before <;> rfl

theorem kind_of_unaryOperator? {kind : Kind} {operator : UnaryOperator}
    (found : kind.unaryOperator? = some operator) :
    kind = .symbol operator.symbol := by
  cases kind with
  | symbol sign => cases sign <;> cases found <;> rfl
  | _ => cases found

theorem kind_of_binaryOperator? {kind : Kind} {operator : BinaryOperator}
    (found : kind.binaryOperator? = some operator) :
    kind = .symbol operator.symbol := by
  cases kind with
  | symbol sign => cases sign <;> cases found <;> rfl
  | _ => cases found

section Operand

variable {inner deeper : Reader Expression}
  (sound : inner.Sound (level + 1) .logicalOr)
  (advances : ∀ cursor, inner.Advances cursor)
  (shallow : level ≤ nestingLimit)

include sound advances shallow

/-- Casts show a rendering behind the operand that is cast. -/
theorem yields_casts :
    (casts inner).Yields cursor fun value after =>
      cursor.Shows after (OperandRendered level .cast value after) := by
  have preserves value between
      (shows : cursor.Shows between fun rendering =>
        Rendered level .cast value rendering ∧
          (rendering.isInteger = true → between.kind ≠ .keyword .castAs →
            continuesOperand between.kind = false)) :
      (nextCast value).Yields between
        (Step.Settles
          (fun value after => cursor.Shows after fun rendering =>
            Rendered level .cast value rendering ∧
              (rendering.isInteger = true → after.kind ≠ .keyword .castAs →
                continuesOperand after.kind = false))
          (fun value after =>
            cursor.Shows after (OperandRendered level .cast value after))) := by
    unfold nextCast
    apply Yields.get
    split
    · rename_i word
      apply Yields.advance
      apply (yields_typeName shallow).bind
      intro target after more
      apply Yields.pure
      apply shows.append (more.cons (by simp [word]) shallow)
      intro before _ reached reachedToo
      obtain ⟨read, _⟩ := reached
      obtain ⟨_, rfl, row, rfl, spelled⟩ := reachedToo
      refine ⟨⟨.cast word read.renders spelled, .cast read.shaped⟩, ?_⟩
      rw [isInteger_eq_false_of_append read.renders]
      intro integer
      cases integer
    · rename_i noCast
      apply Yields.pure
      apply shows.mono
      intro rendering reached
      obtain ⟨read, free⟩ := reached
      exact ⟨read, fun integer => free integer noCast⟩
  unfold casts
  apply (yields_chain sound advances shallow).bind
  intro operand after reached
  obtain ⟨shows, free⟩ := reached
  apply Yields.get
  apply Yields.loop proceeds_nextCast preserves
  apply shows.mono
  intro rendering reached
  obtain ⟨read, _⟩ := reached
  exact ⟨read.weaken (by decide), fun _ => free⟩

omit sound advances shallow in
/-- The minus in front of a single integer would have been its sign. -/
theorem not_isInteger_of_unsigned
    {after : Cursor} {value : Expression} {rendering : Rendering}
    (minus : cursor.kind = .symbol .minus)
    (unsigned : atSignedInteger cursor = false)
    (passes : cursor.next.Passes rendering after)
    (read : OperandRendered (level + 1) .unary value after rendering) :
    rendering.isInteger = false := by
  rw [Bool.eq_false_iff]
  intro integer
  have stops := read.2 integer
  have inside : cursor.kind ≠ .endOfText := by simp [minus]
  match rendering with
  | [] => cases integer
  | _ :: _ :: _ => cases integer
  | [(token, place)] =>
    have kind : token.kind = .intLiteral := by
      simpa [Rendering.isInteger] using integer
    have whole := budget_eq_cons_next inside
    rw [passes.budget] at whole
    have second : cursor.kindAt 1 = .intLiteral := by
      rw [kindAt_eq, whole]
      simpa using kind
    have third : cursor.kindAt 2 = after.kind := by
      rw [kindAt_eq, whole]
      rfl
    simp [atSignedInteger, minus, second, third, stops] at unsigned

/-- An operand with prefix operators renders what was read for it. -/
theorem soundOperand_operand (soundDeeper : deeper.SoundOperand (level + 1)) :
    (operand deeper inner).SoundOperand level := by
  intro cursor
  unfold operand
  apply Yields.get
  split
  · rename_i signed
    apply (yields_constant_of_atSignedInteger signed).bind
    intro reached _ reachedToo
    obtain ⟨_, span⟩ := reached
    obtain ⟨number, rfl, sign, kind, reads, rfl⟩ := reachedToo
    have inside : cursor.kind ≠ .endOfText := by simp [sign]
    have second : cursor.next.kind ≠ .endOfText := by simp [kind]
    have last : cursor.next.Shows cursor.next.next
        fun rendering => rendering = [(cursor.next.current, level)] :=
      .next second shallow rfl
    apply Yields.pure
    apply (last.cons inside shallow).mono
    intro _ reached
    obtain ⟨_, rfl, rfl⟩ := reached
    refine ⟨⟨.signed sign kind reads, .literal⟩, ?_⟩
    intro integer
    cases integer
  · rename_i unsigned
    rw [Bool.not_eq_true] at unsigned
    split
    · rename_i operator found
      have inside : cursor.kind ≠ .endOfText := by
        intro atEnd
        rw [atEnd] at found
        cases found
      apply Yields.advance
      apply (soundDeeper _).bind
      intro value after shows
      apply Yields.pure
      apply (shows.passed.cons inside shallow).mono
      intro _ reached
      obtain ⟨behind, rfl, passes, read⟩ := reached
      have kind := kind_of_unaryOperator? found
      have unfolded : operator = .negate →
          Rendering.isInteger behind = false := by
        intro equal
        subst equal
        exact not_isInteger_of_unsigned kind unsigned passes read
      refine ⟨⟨.unary kind read.1.renders unfolded, .unary read.1.shaped⟩, ?_⟩
      have nonempty := read.1.renders.ne_nil
      intro integer
      cases behind with
      | nil => exact absurd rfl nonempty
      | cons first behind => cases integer
    · apply (yields_casts sound advances shallow).mono
      intro value after shows
      apply shows.mono
      intro rendering reached
      obtain ⟨read, free⟩ := reached
      exact ⟨read.weaken (by decide), free⟩

end Operand

/-! ## Binary operators -/

def Closed (run : Precedence) (cursor : Cursor) : Prop :=
  ∀ operator, cursor.kind.binaryOperator? = some operator →
    operator.precedence.rank < run.rank

theorem exists_of_not_closed {run : Precedence} (opened : ¬ Closed run cursor) :
    ∃ operator, cursor.kind.binaryOperator? = some operator ∧
      run.rank ≤ operator.precedence.rank := by
  cases found : cursor.kind.binaryOperator? with
  | none =>
    refine absurd (fun operator known => ?_) opened
    rw [found] at known
    cases known
  | some operator =>
    refine ⟨operator, rfl, Nat.not_lt.1 fun weaker => opened ?_⟩
    intro other known
    rw [found] at known
    cases known
    exact weaker

section Binary

variable {unary : Reader Expression} (sound : unary.SoundOperand level)
  (advances : ∀ cursor, unary.Advances cursor)
  (shallow : level ≤ nestingLimit)

include sound advances shallow

/-- Operators keep a rendering, by induction on the tokens left. -/
theorem yields_operations
    (size : Nat) {run strength : Precedence} {left : Expression}
    {source cursor : Cursor} (enough : cursor.budget.length ≤ size)
    (shows : source.Shows cursor (Rendered level strength left))
    (below : run.rank ≤ strength.rank)
    (bounded : ∀ operator, cursor.kind.binaryOperator? = some operator →
      operator.precedence.rank ≤ strength.rank) :
    (operations unary cursor.budget run left).Yields cursor
      fun value after =>
        source.Shows after (Rendered level run value) ∧ Closed run after := by
  induction size generalizing run strength left source cursor with
  | zero => simp [Cursor.budget] at enough
  | succ size ih =>
    by_cases closed : Closed run cursor
    · unfold Yields
      rw [ends_operations_of_weaker closed]
      refine ⟨shows.mono fun rendering read => ?_, closed⟩
      exact read.weaken below
    · obtain ⟨operator, found, tight⟩ := exists_of_not_closed closed
      have kind := kind_of_binaryOperator? found
      have inside : cursor.kind ≠ .endOfText := by simp [kind]
      have fewer := precedes_next inside
      have rank := operator.rank_precedence_lt
      have nextRank : operator.precedence.next.rank =
          operator.precedence.rank + 1 :=
        Precedence.rank_next _ (by cases operator <;> decide)
      have read := (sound cursor.next).also (advances cursor.next)
      unfold Yields
      rw [ends_operations advances found tight]
      apply read.mono
      intro first middle reached
      obtain ⟨starts, reaches, passed⟩ := reached
      unfold Precedes at fewer passed
      have operand : cursor.next.Shows middle (Rendered level .unary first) :=
        starts.mono fun _ read => read.1
      have weaker : operator.precedence.next.rank ≤ Precedence.unary.rank := by
        omega
      have right := ih (by omega) operand weaker
        (fun other _ => Nat.le_of_lt other.rank_precedence_lt)
      have travels := travels_operations advances middle.budget
        operator.precedence.next first middle
      apply (right.also travels).mono
      intro value after reached
      obtain ⟨⟨more, stops⟩, onwards⟩ := reached
      have shorter := onwards.length_le
      apply ih (by omega) _ tight
      · intro other next
        have bound := stops other next
        omega
      · apply shows.append (more.cons inside shallow)
        intro before _ left reached
        obtain ⟨behind, rfl, right⟩ := reached
        have first := left.weaken (bounded operator found)
        exact ⟨.binary kind first.renders right.renders,
          .binary first.shaped right.shaped⟩

theorem sound_binary : (binary unary .logicalOr).Sound level .logicalOr := by
  intro cursor
  unfold binary
  apply (sound cursor).bind
  intro first after shows
  apply Yields.get
  have start : cursor.Shows after (Rendered level .unary first) :=
    shows.mono fun _ read => read.1
  have yields := yields_operations sound advances shallow _ (Nat.le_refl _)
    start (by decide : Precedence.logicalOr.rank ≤ Precedence.unary.rank)
    (fun operator _ => Nat.le_of_lt operator.rank_precedence_lt)
  apply yields.mono
  intro value after holds
  exact holds.1

end Binary

/-! ## All levels -/

theorem sound_tooDeep (level : Nat) (strength : Precedence) :
    Sound tooDeep level strength := by
  intro cursor
  unfold tooDeep
  apply Yields.get
  exact yields_throw _

theorem soundOperand_tooDeep (level : Nat) : SoundOperand tooDeep level := by
  intro cursor
  unfold tooDeep
  apply Yields.get
  exact yields_throw _

/-- An operand is sound at every level, by induction on those left. -/
theorem soundOperand_unaryAt
    (levels : Nat) (room : levels + level = nestingLimit) :
    (unaryAt levels).SoundOperand level := by
  induction levels generalizing level with
  | zero =>
    apply soundOperand_operand
    · exact sound_tooDeep _ _
    · exact advances_tooDeep
    · omega
    · exact soundOperand_tooDeep _
  | succ levels ih =>
    have deeper : (unaryAt levels).SoundOperand (level + 1) := ih (by omega)
    have advances := advances_unaryAt levels
    apply soundOperand_operand
    · exact sound_binary deeper advances (by omega)
    · exact advances_binary advances .logicalOr
    · omega
    · exact deeper

/-- What has been passed for a whole expression renders it. -/
theorem sound_expression : expression.Sound 1 .logicalOr := by
  have operands := soundOperand_unaryAt 63 (by decide : 63 + 1 = nestingLimit)
  exact sound_binary operands (advances_unaryAt 63) (by decide)

end Operators

end PapyrusScript.Reader
