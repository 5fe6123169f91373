import PapyrusScript.Proofs.Coverage
import PapyrusScript.Proofs.Remark

/-!
# What a reader consumes in front of more text

A reader that has come to the end of the text need not have passed the end of
a line there.  `Reader.Consumes reader cursor fact` says of the tokens that a
reader has passed what `Covers` does, but only if more text is left.  As no
reader moves on from the end of the text, this is kept by whatever is read
afterwards.
-/

namespace PapyrusScript

open Cursor

variable {α β : Type}

namespace Cursor

variable {source middle target cursor : Cursor} {fact : List Token → Prop}

theorem Reaches.kind_of_endOfText
    (reaches : source.Reaches target) (atEnd : source.kind = .endOfText) :
    target.kind = .endOfText := by
  obtain ⟨⟨passed, path⟩, -⟩ := reaches
  obtain ⟨shape, inside⟩ := path.budget_eq
  cases passed with
  | nil =>
    rw [List.nil_append] at shape
    exact (kind_of_budget shape.symm).trans atEnd
  | cons token passed =>
    rw [kind_of_budget shape] at atEnd
    exact absurd atEnd (inside token List.mem_cons_self)

/-- A path leads to a cursor in front of more text, and a fact holds of the
tokens between, unless something has been reported. -/
structure Consumes (source target : Cursor) (fact : List Token → Prop) :
    Prop where
  reaches : source.Reaches target
  covers : source.Covers target fun row =>
    target.kind ≠ .endOfText → fact row

theorem Consumes.mono
    {weaker : List Token → Prop} (consumes : source.Consumes target fact)
    (implied : ∀ row, fact row → weaker row) :
    source.Consumes target weaker where
  reaches := consumes.reaches
  covers := consumes.covers.mono fun row holds inside =>
    implied row (holds inside)

theorem Consumes.nil (holds : fact []) : cursor.Consumes cursor fact :=
  ⟨.refl cursor, .nil fun _ => holds⟩

theorem Consumes.next
    (ordinary : cursor.kind.isOrdinary = true) (holds : fact [cursor.current]) :
    cursor.Consumes cursor.next fact :=
  ⟨reaches_next ordinary,
    .next (Kind.ne_endOfText_of_isOrdinary ordinary) fun _ => holds⟩

theorem Consumes.append
    {second whole : List Token → Prop} (one : source.Consumes middle fact)
    (other : middle.Consumes target second)
    (both : ∀ before row, fact before → second row → whole (before ++ row)) :
    source.Consumes target whole where
  reaches := one.reaches.trans other.reaches
  covers := one.covers.append other.covers fun before row known holds inside =>
    both before row
      (known fun atEnd => inside (other.reaches.kind_of_endOfText atEnd))
      (holds inside)

/-- What is consumed stands at the place where reading starts. -/
theorem Consumes.budget (consumes : source.Consumes target fact) :
    source.Consumes target fun row =>
      fact row ∧ source.budget = row ++ target.budget where
  reaches := consumes.reaches
  covers := consumes.covers.budget.mono fun _ known inside =>
    ⟨known.1 inside, known.2⟩

theorem Consumes.of_told (reaches : source.Reaches target)
    (told : source.reported.length < target.reported.length) :
    source.Consumes target fact :=
  ⟨reaches, .of_told told⟩

theorem Consumes.inBlock
    {block : Block} (consumes : (source.enter block).Consumes target fact) :
    source.Consumes target.leave fact :=
  ⟨consumes.reaches.inBlock, consumes.covers.inBlock⟩

end Cursor

/-- The reader consumes what a fact says of its answer and of the tokens that
it has passed. -/
def Recovery.Consumes
    (reader : Recovery α) (cursor : Cursor) (fact : α → List Token → Prop) :
    Prop :=
  reader.Ends cursor fun value after => cursor.Consumes after (fact value)

def Reader.Consumes
    (reader : Reader α) (cursor : Cursor) (fact : α → List Token → Prop) :
    Prop :=
  reader.Ends cursor (fun value after => cursor.Consumes after (fact value))
    fun diagnostic after => cursor.Reaches after ∧ Blames diagnostic after

/-- The same when the fact is also about the place where the reader ends. -/
def Recovery.ConsumesTo (reader : Recovery α) (cursor : Cursor)
    (fact : α → Cursor → List Token → Prop) : Prop :=
  reader.Ends cursor fun value after => cursor.Consumes after (fact value after)

def Reader.ConsumesTo (reader : Reader α) (cursor : Cursor)
    (fact : α → Cursor → List Token → Prop) : Prop :=
  reader.Ends cursor
    (fun value after => cursor.Consumes after (fact value after))
    fun diagnostic after => cursor.Reaches after ∧ Blames diagnostic after

/-- What a step of a loop adds in front of the rest of the loop, which stands
where the step ends. -/
def Step.Unwinds (fact : α → α → List Token → Prop) (value : α) :
    Step α → Cursor → List Token → Prop
  | .done final, _, row => fact value final row
  | .again next, after, row => ∀ final behind, behind <+: after.budget →
      fact next final behind → fact value final (row ++ behind)

namespace Recovery

variable {cursor : Cursor} {fact : α → List Token → Prop}
  {whole : β → List Token → Prop}
variable {reader : Recovery α}

theorem Consumes.mono
    {weaker : α → List Token → Prop} (consumes : reader.Consumes cursor fact)
    (implied : ∀ value row, fact value row → weaker value row) :
    reader.Consumes cursor weaker :=
  Ends.mono consumes fun value _ reached => reached.mono (implied value)

theorem Consumes.pure {value : α} (holds : fact value []) :
    Consumes (Pure.pure value) cursor fact :=
  .nil holds

/-- Facts of two readers are joined, with the place between them. -/
theorem ConsumesTo.bind
    {following : α → Recovery β} {fact : α → Cursor → List Token → Prop}
    {whole : β → Cursor → List Token → Prop}
    (first : reader.ConsumesTo cursor fact)
    (rest : ∀ value middle, (following value).ConsumesTo middle
      fun result after row => ∀ before, fact value middle before →
        whole result after (before ++ row)) :
    ConsumesTo (reader >>= following) cursor whole := by
  unfold ConsumesTo
  apply Ends.bind first
  intro value middle consumed
  apply Ends.mono (rest value middle)
  intro result after further
  exact consumed.append further fun before row known holds =>
    holds before known

theorem Consumes.bind
    {following : α → Recovery β} (first : reader.Consumes cursor fact)
    (rest : ∀ value after, (following value).Consumes after fun result row =>
      ∀ before, fact value before → whole result (before ++ row)) :
    Consumes (reader >>= following) cursor whole :=
  ConsumesTo.bind first rest

theorem Consumes.get {following : Cursor → Recovery β}
    (consumes : (following cursor).Consumes cursor whole) :
    Consumes (MonadState.get >>= following) cursor whole :=
  consumes

theorem ConsumesTo.get
    {following : Cursor → Recovery β} {whole : β → Cursor → List Token → Prop}
    (consumes : (following cursor).ConsumesTo cursor whole) :
    ConsumesTo (MonadState.get >>= following) cursor whole :=
  consumes

theorem ConsumesTo.advance
    {following : Token → Recovery β} {whole : β → Cursor → List Token → Prop}
    (ordinary : cursor.kind.isOrdinary = true)
    (rest : (following cursor.current).ConsumesTo cursor.next
      fun result after row => whole result after (cursor.current :: row)) :
    ConsumesTo (Reader.advance >>= following) cursor whole := by
  unfold ConsumesTo
  rw [ends_bind, ends_advance]
  apply Ends.mono rest
  intro result after further
  apply (Cursor.Consumes.next ordinary (Eq.refl [cursor.current])).append
    further
  rintro _ row rfl holds
  exact holds

theorem Consumes.advance
    {following : Token → Recovery β} (ordinary : cursor.kind.isOrdinary = true)
    (rest : (following cursor.current).Consumes cursor.next fun result row =>
      whole result (cursor.current :: row)) :
    Consumes (Reader.advance >>= following) cursor whole :=
  ConsumesTo.advance ordinary rest

theorem Consumes.inBlock
    {block : Block} (consumes : reader.Consumes (cursor.enter block) fact) :
    Consumes (Reader.inBlock block reader) cursor fact := by
  unfold Consumes
  rw [ends_inBlock]
  exact Ends.mono consumes fun _ _ consumed => consumed.inBlock

/-- The tokens that are consumed stand in front of those that are left. -/
theorem ConsumesTo.budget {fact : α → Cursor → List Token → Prop}
    (consumes : reader.ConsumesTo cursor fact) :
    reader.ConsumesTo cursor fun value after row =>
      fact value after row ∧ cursor.budget = row ++ after.budget :=
  Ends.mono consumes fun _ _ reached => reached.budget

theorem Tells.consumesTo
    {fact : α → Cursor → List Token → Prop} (tells : reader.Tells cursor)
    (travels : reader.Travels cursor) :
    reader.ConsumesTo cursor fact :=
  (Ends.and tells travels).mono fun _ _ told => .of_told told.2 told.1

theorem Tells.consumes
    (tells : reader.Tells cursor) (travels : reader.Travels cursor) :
    reader.Consumes cursor fact :=
  tells.consumesTo travels

theorem Covers.consumes
    (covers : reader.Covers cursor fact) (travels : reader.Travels cursor) :
    reader.Consumes cursor fact :=
  (Ends.and covers travels).mono fun _ _ reached =>
    ⟨reached.2, reached.1.mono fun _ holds _ => holds⟩

/-- A reader that takes nothing consumes nothing.  Whatever it is known to
remark on, under some condition, is nothing. -/
theorem Remarks.consumes
    {ι : Type} {applies : ι → Prop} {news : ι → List Diagnostic}
    {fact : ι → α → Prop}
    (remarks : ∀ index, applies index →
      reader.Remarks [] cursor.budget (news index) (fact index))
    (covers : reader.Covers cursor fun _ row => row = [])
    (travels : reader.Travels cursor) :
    reader.Consumes cursor fun value row => row = [] ∧
      ∀ index, applies index → fact index value ∧ news index = [] := by
  have told : reader.Ends cursor fun value after => ∀ index, applies index →
      fact index value ∧ cursor.Remarked after (news index) := by
    intro index holds
    obtain ⟨known, -, remarked⟩ := remarks index holds cursor rfl
    exact ⟨known, remarked⟩
  apply (Ends.and (covers.consumes travels) told).mono
  rintro value after ⟨consumed, told⟩
  by_cases more : cursor.reported.length < after.reported.length
  · exact .of_told consumed.reaches more
  · apply consumed.mono
    intro row nothing
    refine ⟨nothing, fun index holds => ?_⟩
    obtain ⟨known, remarked⟩ := told index holds
    rw [remarked.reported, List.length_append, List.length_reverse] at more
    exact ⟨known, List.eq_nil_of_length_eq_zero (by omega)⟩

/-- A recovery from an error consumes like anything else. -/
theorem ConsumesTo.run_bind
    {reader : Reader α} {following : Except Diagnostic α → Recovery β}
    {fact : α → Cursor → List Token → Prop}
    {whole : β → Cursor → List Token → Prop}
    (first : reader.ConsumesTo cursor fact)
    (onValue : ∀ value middle,
      (following (.ok value)).ConsumesTo middle fun result after row =>
        ∀ before, fact value middle before → whole result after (before ++ row))
    (onError : ∀ diagnostic after, Blames diagnostic after →
      (following (.error diagnostic)).Tells after ∧
        (following (.error diagnostic)).Travels after) :
    ConsumesTo (reader.run >>= following) cursor whole := by
  unfold ConsumesTo
  rw [ends_bind, ends_run]
  apply Reader.Ends.mono first
  · intro value middle consumed
    apply Ends.mono (onValue value middle)
    intro result after further
    exact consumed.append further fun before row known holds =>
      holds before known
  · rintro diagnostic middle ⟨reaches, blames⟩
    obtain ⟨tells, travels⟩ := onError diagnostic middle blames
    apply (Ends.and tells travels).mono
    rintro _ after ⟨told, further⟩
    exact .of_told (reaches.trans further)
      (Nat.lt_of_le_of_lt reaches.grows.reported told)

theorem Consumes.run_bind
    {reader : Reader α} {following : Except Diagnostic α → Recovery β}
    (first : reader.Consumes cursor fact)
    (onValue : ∀ value after,
      (following (.ok value)).Consumes after fun result row =>
        ∀ before, fact value before → whole result (before ++ row))
    (onError : ∀ diagnostic after, Blames diagnostic after →
      (following (.error diagnostic)).Tells after ∧
        (following (.error diagnostic)).Travels after) :
    Consumes (reader.run >>= following) cursor whole :=
  ConsumesTo.run_bind first onValue onError

/-- What the steps of a loop add is consumed by the loop. -/
theorem Consumes.loop
    {step : α → Recovery (Step α)} {invariant post : α → List Token → Prop}
    (proceeds : ∀ value cursor, (step value).Proceeds cursor)
    (adds : ∀ value cursor, (step value).Consumes cursor fun decision row =>
      ∀ before, invariant value before →
        Step.Adds invariant post decision (before ++ row))
    (value : α) :
    Consumes (PapyrusScript.loop step cursor.budget value) cursor
      fun final row => ∀ before, invariant value before →
        post final (before ++ row) := by
  -- What has been consumed up to a step is the invariant.
  apply ends_loop_of_keeps
    (fun next middle => cursor.Consumes middle fun row =>
      ∀ before, invariant value before → invariant next (before ++ row))
    proceeds
  · intro next middle consumed
    apply Ends.mono (adds next middle)
    intro decision after further
    have whole : cursor.Consumes after fun row => ∀ before,
        invariant value before →
          Step.Adds invariant post decision (before ++ row) := by
      apply consumed.append further
      intro first row known holds before start
      rw [← List.append_assoc]
      exact holds _ (known before start)
    cases decision <;> exact whole
  · apply Cursor.Consumes.nil
    intro before start
    rwa [List.append_nil]

/-- A loop consumes what its first step does in front of what the loop that
goes on behind it consumes.  That stands where the step ends. -/
theorem Consumes.unwind
    {step : α → Recovery (Step α)} {fact : α → α → List Token → Prop}
    (proceeds : ∀ value cursor, (step value).Proceeds cursor)
    (steps : ∀ value cursor,
      (step value).ConsumesTo cursor (Step.Unwinds fact value))
    (value : α) :
    Consumes (PapyrusScript.loop step cursor.budget value) cursor
      (fact value) := by
  have along {value final : α} {cursor after : Cursor}
      (finished : Finishes step value cursor final after) :
      cursor.Consumes after (fact value final) := by
    induction finished with
    | @done value _ cursor _ stops =>
      have consumed := steps value cursor
      unfold ConsumesTo Ends at consumed
      rwa [stops] at consumed
    | @again value _ _ cursor _ after goesOn _ _ ih =>
      have consumed := steps value cursor
      unfold ConsumesTo Ends at consumed
      rw [goesOn] at consumed
      apply consumed.append ih.budget
      rintro row behind known ⟨holds, shape⟩
      exact known _ behind ⟨after.budget, shape.symm⟩ holds
  exact Ends.mono (terminates_of_proceeds proceeds value cursor)
    fun _ _ => along

end Recovery

namespace Reader

variable {cursor : Cursor} {fact : α → List Token → Prop}
  {whole : β → List Token → Prop}
variable {reader : Reader α} {following : α → Reader β}

theorem Consumes.mono
    {weaker : α → List Token → Prop} (consumes : reader.Consumes cursor fact)
    (implied : ∀ value row, fact value row → weaker value row) :
    reader.Consumes cursor weaker :=
  Ends.mono consumes (fun value _ reached => reached.mono (implied value))
    fun _ _ failed => failed

theorem Consumes.pure {value : α} (holds : fact value []) :
    Consumes (Pure.pure value) cursor fact :=
  Cursor.Consumes.nil holds

theorem ConsumesTo.mono {fact weaker : α → Cursor → List Token → Prop}
    (consumes : reader.ConsumesTo cursor fact)
    (implied : ∀ value after row, fact value after row →
      weaker value after row) :
    reader.ConsumesTo cursor weaker :=
  Ends.mono consumes
    (fun value after reached => reached.mono (implied value after))
    fun _ _ failed => failed

/-- Facts of two readers are joined, with the place between them. -/
theorem ConsumesTo.bind {fact : α → Cursor → List Token → Prop}
    {whole : β → Cursor → List Token → Prop}
    (first : reader.ConsumesTo cursor fact)
    (rest : ∀ value middle, (following value).ConsumesTo middle
      fun result after row => ∀ before, fact value middle before →
        whole result after (before ++ row)) :
    ConsumesTo (reader >>= following) cursor whole := by
  unfold ConsumesTo
  rw [ends_bind]
  apply Ends.mono first
  · intro value middle consumed
    apply Ends.mono (rest value middle)
    · intro result after further
      exact consumed.append further fun before row known holds =>
        holds before known
    · exact fun _ _ failed => ⟨consumed.reaches.trans failed.1, failed.2⟩
  · exact fun _ _ failed => failed

theorem ConsumesTo.bind_lift
    {reader : Recovery α} {fact : α → Cursor → List Token → Prop}
    {whole : β → Cursor → List Token → Prop}
    (first : reader.ConsumesTo cursor fact)
    (rest : ∀ value middle, (following value).ConsumesTo middle
      fun result after row => ∀ before, fact value middle before →
        whole result after (before ++ row)) :
    ConsumesTo (liftM reader >>= following) cursor whole :=
  bind first rest

theorem Consumes.bind (first : reader.Consumes cursor fact)
    (rest : ∀ value after, (following value).Consumes after fun result row =>
      ∀ before, fact value before → whole result (before ++ row)) :
    Consumes (reader >>= following) cursor whole :=
  ConsumesTo.bind first rest

theorem Consumes.map {change : α → β}
    (consumes : reader.Consumes cursor fun value => whole (change value)) :
    Consumes (change <$> reader) cursor whole := by
  unfold Consumes
  rw [ends_map]
  exact consumes

theorem Consumes.get {following : Cursor → Reader β}
    (consumes : (following cursor).Consumes cursor whole) :
    Consumes (MonadState.get >>= following) cursor whole :=
  consumes

theorem Consumes.lift
    {reader : Recovery α} (consumes : reader.Consumes cursor fact) :
    Reader.Consumes (liftM reader) cursor fact :=
  consumes

/-- A token that is no end of the text is consumed when it is passed. -/
theorem Consumes.advance
    {following : Token → Reader β} (ordinary : cursor.kind.isOrdinary = true)
    (rest : (following cursor.current).Consumes cursor.next fun result row =>
      whole result (cursor.current :: row)) :
    Consumes (liftM Reader.advance >>= following) cursor whole := by
  unfold Consumes
  rw [ends_bind, ends_lift, Recovery.ends_advance]
  apply Ends.mono rest
  · intro result after further
    apply (Cursor.Consumes.next ordinary (Eq.refl [cursor.current])).append
      further
    rintro _ row rfl holds
    exact holds
  · exact fun _ _ failed =>
      ⟨(Cursor.reaches_next ordinary).trans failed.1, failed.2⟩

theorem Covers.consumes
    (covers : reader.Covers cursor fact) (travels : reader.Travels cursor) :
    reader.Consumes cursor fact := by
  apply (Ends.and covers travels).mono
  · exact fun _ _ reached =>
      ⟨reached.2, reached.1.mono fun _ holds _ => holds⟩
  · exact fun _ _ failed => failed.2

/-! ## Rows by themselves -/

/-- A reader passes a row of tokens that stands by itself in front of one more
token, without a report, and a fact holds of its answer. -/
def ReadsAlone
    (reader : Reader α) (row : List Token) (fact : α → Prop) : Prop :=
  ∃ follow : Token, follow.kind ≠ .endOfText ∧
    reader.Ends (start (row ++ [follow]))
      (fun value after =>
        fact value ∧ after.reported = [] ∧
          after.budget = follow :: missingEnd (row ++ [follow]))
      fun _ _ => False

theorem ReadsAlone.of_run
    {row : List Token} {known : α → Prop} {value : α} (follow : Token)
    (inside : follow.kind ≠ .endOfText) (holds : known value)
    (accepted : (reader.run.run (start (row ++ [follow]))).1 = .ok value)
    (silent : (reader.run.run (start (row ++ [follow]))).2.reported = [])
    (place : (reader.run.run (start (row ++ [follow]))).2.budget =
      follow :: missingEnd (row ++ [follow])) :
    reader.ReadsAlone row known := by
  refine ⟨follow, inside, ?_⟩
  unfold Reader.Ends Recovery.Ends
  rw [accepted]
  exact ⟨holds, silent, place⟩

/-- Read by itself a row is consumed, and the fact holds of it. -/
theorem ReadsAlone.consumed {row : List Token} {known : α → Prop}
    (alone : reader.ReadsAlone row known)
    (consumes : ∀ cursor, reader.Consumes cursor fact) :
    ∃ value, fact value row ∧ known value := by
  obtain ⟨follow, inside, ends⟩ := alone
  have yields : reader.Yields (start (row ++ [follow])) fun value after =>
      (start (row ++ [follow])).Consumes after (fact value) :=
    Ends.mono (consumes _) (fun _ _ consumed => consumed) fun _ _ _ => trivial
  obtain ⟨value, after, consumed, holds, silent, place⟩ :=
    yields.exists_of_ends ends
  obtain ⟨rendering, -, found⟩ :=
    consumed.budget.covers.holds (by rw [silent]; exact Nat.zero_le _)
  obtain ⟨factual, shape⟩ := found (by rwa [kind_of_budget place])
  rw [budget_start, place, List.append_assoc, List.singleton_append] at shape
  rw [← List.append_cancel_right shape] at factual
  exact ⟨value, factual, holds⟩

end Reader

end PapyrusScript
