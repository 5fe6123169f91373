import PapyrusScript.Proofs.Alongside.Leaving

/-!
# What a reader covers

A reader covers what it says of the tokens that it has passed, whenever it has
reported nothing on the way.  A report that is made is never taken back, so
whatever comes after it covers anything.

`Reader.Covers reader cursor fact` speaks of the answer and the row of tokens
behind which the reader stands.  Rows of consecutive readers are joined, and
the fact about the whole is shown from the facts about its parts.
-/

namespace PapyrusScript

variable {α β : Type}

namespace Cursor

variable {source middle target cursor : Cursor} {fact : List Token → Prop}

/-- Unless something has been reported between two cursors, a fact holds of
the tokens between them. -/
def Covers (source target : Cursor) (fact : List Token → Prop) : Prop :=
  source.Shows target fun rendering => fact rendering.tokens

theorem Covers.mono
    {weaker : List Token → Prop} (covers : source.Covers target fact)
    (implied : ∀ row, fact row → weaker row) : source.Covers target weaker :=
  Shows.mono covers fun rendering => implied rendering.tokens

theorem Covers.nil (holds : fact []) : cursor.Covers cursor fact :=
  Shows.nil holds

theorem Covers.next
    (inside : cursor.kind ≠ .endOfText) (holds : fact [cursor.current]) :
    cursor.Covers cursor.next fact :=
  @Shows.next cursor _ 0 inside (Nat.zero_le _) holds

theorem Covers.append
    {second whole : List Token → Prop} (one : source.Covers middle fact)
    (other : middle.Covers target second)
    (both : ∀ before row, fact before → second row → whole (before ++ row)) :
    source.Covers target whole := by
  apply Shows.append one other
  intro before behind known knownToo
  rw [Rendering.tokens_append]
  exact both _ _ known knownToo

/-- Facts that go on from what has been passed before are chained. -/
theorem Covers.trans {first second third : List Token → Prop}
    (one : source.Covers middle fun row =>
      ∀ before, first before → second (before ++ row))
    (other : middle.Covers target fun row =>
      ∀ before, second before → third (before ++ row)) :
    source.Covers target fun row =>
      ∀ before, first before → third (before ++ row) := by
  apply one.append other
  intro row behind known holds before start
  rw [← List.append_assoc]
  exact holds _ (known before start)

theorem Covers.of_told
    (told : source.reported.length < target.reported.length) :
    source.Covers target fact where
  grows := Nat.le_of_lt told
  holds := fun silent => absurd told (Nat.not_lt.2 silent)

/-- A path on which nothing has been reported covers something. -/
theorem Reaches.covers
    (reaches : source.Reaches target) : source.Covers target fun _ => True := by
  have suffix := reaches.reported_suffix
  obtain ⟨⟨passed, path⟩, blocks⟩ := reaches
  refine ⟨suffix.length_le, fun silent => ?_⟩
  have shallow : (Rendering.flat 0 passed).level ≤ nestingLimit := by
    clear path
    induction passed with
    | nil => exact Nat.zero_le _
    | cons token passed ih =>
      exact Nat.max_le.2 ⟨Nat.zero_le _, ih⟩
  refine ⟨.flat 0 passed, ⟨⟨?_, blocks⟩, ?_, shallow⟩, trivial⟩
  · exact (suffix.eq_of_length_le silent).symm
  · rw [Rendering.tokens_flat]
    exact path.budget_eq.1

theorem Covers.budget (covers : source.Covers target fact) :
    source.Covers target fun row =>
      fact row ∧ source.budget = row ++ target.budget := by
  apply (Shows.passed covers).mono
  exact fun _ known => ⟨known.2, known.1.budget⟩

theorem Covers.inBlock
    {block : Block} (covers : (source.enter block).Covers target fact) :
    source.Covers target.leave fact where
  grows := covers.grows
  holds := by
    intro silent
    obtain ⟨rendering, passes, holds⟩ := covers.holds silent
    have blocks : target.leave.openBlocks = source.openBlocks := by
      rw [openBlocks_leave, passes.quiet.openBlocks]
      rfl
    exact ⟨rendering, ⟨⟨passes.quiet.reported, blocks⟩, passes.budget,
      passes.shallow⟩, holds⟩

end Cursor

/-- The reader covers what a fact says of its answer and of the tokens that it
has passed. -/
def Recovery.Covers
    (reader : Recovery α) (cursor : Cursor) (fact : α → List Token → Prop) :
    Prop :=
  reader.Ends cursor fun value after => cursor.Covers after (fact value)

/-- The same for a reader that may fail, which then has taken no report
back. -/
def Reader.Covers
    (reader : Reader α) (cursor : Cursor) (fact : α → List Token → Prop) :
    Prop :=
  reader.Ends cursor (fun value after => cursor.Covers after (fact value))
    fun _ after => cursor.reported.length ≤ after.reported.length

/-- What holds of the value of a step and of the tokens that have been passed
up to its end, if the loop goes on and if it ends. -/
def Step.Adds (again done : α → List Token → Prop) :
    Step α → List Token → Prop
  | .again value, row => again value row
  | .done value, row => done value row

namespace Recovery

variable {cursor : Cursor} {fact : α → List Token → Prop}
  {whole : β → List Token → Prop}
variable {reader : Recovery α}

theorem Covers.mono
    {weaker : α → List Token → Prop} (covers : reader.Covers cursor fact)
    (implied : ∀ value row, fact value row → weaker value row) :
    reader.Covers cursor weaker :=
  Ends.mono covers fun value _ reached => reached.mono (implied value)

theorem Covers.pure {value : α} (holds : fact value []) :
    Covers (Pure.pure value) cursor fact :=
  .nil holds

/-- What is covered behind what another reader has covered. -/
theorem Covers.behind
    {reader : Recovery β} {known : List Token → Prop} {source : Cursor}
    (covered : source.Covers cursor known)
    (rest : reader.Covers cursor fun result row =>
      ∀ before, known before → whole result (before ++ row)) :
    reader.Ends cursor fun result after =>
      source.Covers after (whole result) := by
  apply Ends.mono rest
  intro result after further
  exact covered.append further fun before row known holds =>
    holds before known

theorem Covers.bind
    {following : α → Recovery β} (first : reader.Covers cursor fact)
    (rest : ∀ value after, (following value).Covers after fun result row =>
      ∀ before, fact value before → whole result (before ++ row)) :
    Covers (reader >>= following) cursor whole := by
  unfold Covers
  apply Ends.bind first
  exact fun value middle covered => Covers.behind covered (rest value middle)

theorem Covers.get {following : Cursor → Recovery β}
    (covers : (following cursor).Covers cursor whole) :
    Covers (MonadState.get >>= following) cursor whole :=
  covers

theorem Covers.advance
    {following : Token → Recovery β} (inside : cursor.kind ≠ .endOfText)
    (rest : (following cursor.current).Covers cursor.next fun result row =>
      whole result (cursor.current :: row)) :
    Covers (Reader.advance >>= following) cursor whole := by
  unfold Covers
  rw [ends_bind, ends_advance]
  apply Ends.mono rest
  intro result after further
  apply (Cursor.Covers.next inside (Eq.refl [cursor.current])).append
    further
  rintro _ row rfl holds
  exact holds

theorem Covers.inBlock
    {block : Block} (covers : reader.Covers (cursor.enter block) fact) :
    Covers (Reader.inBlock block reader) cursor fact := by
  unfold Covers
  rw [ends_inBlock]
  exact Ends.mono covers fun _ _ covered => covered.inBlock

theorem Tells.covers (tells : reader.Tells cursor) :
    reader.Covers cursor fact :=
  Ends.mono tells fun _ _ told => .of_told told

theorem Covers.unexpected
    {expected : String} {following : Diagnostic → Recovery β}
    (covers : ∀ diagnostic, (following diagnostic).Covers cursor whole) :
    Covers (Reader.unexpected expected >>= following) cursor whole :=
  covers _

/-- A recovery reports, so only what follows a value is covered. -/
theorem Covers.run_bind
    {reader : Reader α} {following : Except Diagnostic α → Recovery β}
    (first : reader.Covers cursor fact)
    (onValue : ∀ value after,
      (following (.ok value)).Covers after fun result row =>
        ∀ before, fact value before → whole result (before ++ row))
    (onError : ∀ diagnostic after,
      (following (.error diagnostic)).Tells after) :
    Covers (reader.run >>= following) cursor whole := by
  unfold Covers
  rw [ends_bind, ends_run]
  apply Reader.Ends.mono first
  · exact fun value middle covered =>
      Covers.behind covered (onValue value middle)
  · intro diagnostic middle grown
    apply Ends.mono (onError diagnostic middle)
    exact fun _ after told => .of_told (Nat.lt_of_le_of_lt grown told)

/-- A failure may also be followed by what covers its own row. -/
theorem Covers.run_bind_kept
    {reader : Reader α} {following : Except Diagnostic α → Recovery β}
    (first : reader.Covers cursor fact) (travels : reader.Travels cursor)
    (onValue : ∀ value after,
      (following (.ok value)).Covers after fun result row =>
        ∀ before, fact value before → whole result (before ++ row))
    (onError : ∀ diagnostic after,
      (following (.error diagnostic)).Covers after fun result row =>
        ∀ before, whole result (before ++ row)) :
    Covers (reader.run >>= following) cursor whole := by
  unfold Covers
  rw [ends_bind, ends_run]
  apply (Reader.Ends.and first travels).mono
  · exact fun value middle reached =>
      Covers.behind reached.1 (onValue value middle)
  · intro diagnostic middle reached
    apply Ends.mono (onError diagnostic middle)
    intro result after further
    exact reached.2.1.covers.append further fun before row _ holds =>
      holds before

/-- What the steps of a loop add is covered by the loop. -/
theorem Covers.loop
    {step : α → Recovery (Step α)} {invariant post : α → List Token → Prop}
    (proceeds : ∀ value cursor, (step value).Proceeds cursor)
    (adds : ∀ value cursor, (step value).Covers cursor fun decision row =>
      ∀ before, invariant value before →
        Step.Adds invariant post decision (before ++ row))
    (value : α) :
    Covers (PapyrusScript.loop step cursor.budget value) cursor
      fun final row => ∀ before, invariant value before →
        post final (before ++ row) := by
  -- What has been covered up to a step is the invariant.
  apply ends_loop_of_keeps
    (fun next middle => cursor.Covers middle fun row =>
      ∀ before, invariant value before → invariant next (before ++ row))
    proceeds
  · intro next middle covered
    apply Ends.mono (adds next middle)
    intro decision after further
    have whole := covered.trans further
    cases decision <;> exact whole
  · apply Cursor.Covers.nil
    intro before start
    rwa [List.append_nil]

end Recovery

namespace Reader

variable {cursor : Cursor} {fact : α → List Token → Prop}
  {whole : β → List Token → Prop}
variable {reader : Reader α}

theorem Covers.mono
    {weaker : α → List Token → Prop} (covers : reader.Covers cursor fact)
    (implied : ∀ value row, fact value row → weaker value row) :
    reader.Covers cursor weaker :=
  Ends.mono covers (fun value _ reached => reached.mono (implied value))
    fun _ _ grown => grown

theorem Covers.pure {value : α} (holds : fact value []) :
    Covers (Pure.pure value) cursor fact :=
  Cursor.Covers.nil holds

/-- What is covered behind what another reader has covered. -/
theorem Covers.behind
    {reader : Reader β} {known : List Token → Prop} {source : Cursor}
    (covered : source.Covers cursor known)
    (rest : reader.Covers cursor fun result row =>
      ∀ before, known before → whole result (before ++ row)) :
    reader.Ends cursor (fun result after => source.Covers after (whole result))
      fun _ after => source.reported.length ≤ after.reported.length := by
  apply Ends.mono rest
  · intro result after further
    exact covered.append further fun before row known holds =>
      holds before known
  · exact fun _ _ grown => Nat.le_trans covered.grows grown

theorem Covers.bind
    {following : α → Reader β} (first : reader.Covers cursor fact)
    (rest : ∀ value after, (following value).Covers after fun result row =>
      ∀ before, fact value before → whole result (before ++ row)) :
    Covers (reader >>= following) cursor whole := by
  unfold Covers
  rw [ends_bind]
  apply Ends.mono first
  · exact fun value middle covered =>
      Covers.behind covered (rest value middle)
  · exact fun _ _ grown => grown

theorem Covers.map {change : α → β}
    (covers : reader.Covers cursor fun value => whole (change value)) :
    Covers (change <$> reader) cursor whole := by
  unfold Covers
  rw [ends_map]
  exact covers

theorem Covers.get {following : Cursor → Reader β}
    (covers : (following cursor).Covers cursor whole) :
    Covers (MonadState.get >>= following) cursor whole :=
  covers

theorem Covers.lift {reader : Recovery α} (covers : reader.Covers cursor fact) :
    Reader.Covers (liftM reader) cursor fact :=
  covers

theorem Covers.advance
    {following : Token → Reader β} (inside : cursor.kind ≠ .endOfText)
    (rest : (following cursor.current).Covers cursor.next fun result row =>
      whole result (cursor.current :: row)) :
    Covers (liftM Reader.advance >>= following) cursor whole := by
  unfold Covers
  rw [ends_bind, ends_lift, Recovery.ends_advance]
  apply Ends.mono rest
  · intro result after further
    apply (Cursor.Covers.next inside (Eq.refl [cursor.current])).append further
    rintro _ row rfl holds
    exact holds
  · intro _ after grown
    rwa [Cursor.reported_next] at grown

theorem covers_throw (diagnostic : Diagnostic) :
    Covers (throw diagnostic : Reader α) cursor fact :=
  Nat.le_refl _

theorem covers_reject (expected : String) :
    Covers (reject expected : Reader α) cursor fact :=
  Nat.le_refl _

/-- A reader that covers something when it answers, and otherwise keeps to its
path. -/
theorem Yields.covers (yields : reader.Yields cursor fun value after =>
      cursor.Covers after (fact value))
    (grows : reader.run.Grows cursor) : reader.Covers cursor fact := by
  unfold Yields Covers Ends Recovery.Grows at *
  apply (yields.and grows).mono
  intro answer after reached
  cases answer with
  | ok value => exact reached.1
  | error diagnostic => exact reached.2.reported

end Reader

end PapyrusScript
