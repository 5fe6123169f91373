import PapyrusScript.Proofs.Rejoining

/-!
# Two runs past a broken line

One text is read without a report, and in another one a line is broken.  A
reader crosses the line if it does the same in both texts as long as the line
is ahead, and behind it answers with values that are related.  So there are
two outcomes: the runs have not come to the line, or they have joined behind
it.  Nothing is asked where the first run reports something.
-/

namespace PapyrusScript

open Cursor

variable {α β : Type} {failure : Diagnostic} {cursor twin : Cursor}

/-- Unless the first run reports something, the two runs answer the same and
something holds of the cursors, or they have joined and their answers are
related. -/
def Recovery.Crosses
    (reader : Recovery α) (failure : Diagnostic) (cursor twin : Cursor)
    (before : α → Cursor → Cursor → Prop) (behind : α → α → Prop) : Prop :=
  reader.Beside reader cursor twin fun value other after twinAfter =>
    after.reported = [] →
      other = value ∧ before value after twinAfter ∨
        behind value other ∧ Rejoined failure after twinAfter

/-- Two readers behind the line: unless the first reports something, their
answers are related and they stay together. -/
def Recovery.Joins
    (reader other : Recovery α) (failure : Diagnostic) (cursor twin : Cursor)
    (behind : α → α → Prop) : Prop :=
  reader.Beside other cursor twin fun value twinValue after twinAfter =>
    after.reported = [] →
      behind value twinValue ∧ Rejoined failure after twinAfter

/-- What holds of an answer of a reader that may fail. -/
def Reader.Holds (fact : α → Cursor → Cursor → Prop) :
    Except Diagnostic α → Cursor → Cursor → Prop
  | .ok value, cursor, twin => fact value cursor twin
  | .error _, _, _ => True

def Reader.Relates (related : α → α → Prop) :
    Except Diagnostic α → Except Diagnostic α → Prop
  | .ok value, .ok other => related value other
  | .error _, .error _ => True
  | _, _ => False

/-- The same for a reader that may fail.  Of its failures nothing is asked. -/
def Reader.Crosses
    (reader : Reader α) (failure : Diagnostic) (cursor twin : Cursor)
    (before : α → Cursor → Cursor → Prop) (behind : α → α → Prop) : Prop :=
  Recovery.Crosses reader.run failure cursor twin (Holds before)
    (Relates behind)

namespace Recovery

variable {before known : α → Cursor → Cursor → Prop}
  {behind related : α → α → Prop} {reader : Recovery α}
variable {following : α → Recovery β} {other : Recovery α}

theorem Crosses.mono
    {earlier : α → Cursor → Cursor → Prop} {later : α → α → Prop}
    (crosses : reader.Crosses failure cursor twin earlier later)
    (onBefore : ∀ value after twinAfter, after.reported = [] →
      earlier value after twinAfter → before value after twinAfter)
    (onBehind : ∀ value other, later value other → behind value other) :
    reader.Crosses failure cursor twin before behind := by
  intro silent
  rcases crosses silent with ⟨same, holds⟩ | ⟨holds, joined⟩
  · exact .inl ⟨same, onBefore _ _ _ silent holds⟩
  · exact .inr ⟨onBehind _ _ holds, joined⟩

theorem Crosses.congr {here there : Cursor}
    (crosses : other.Crosses failure here there before behind)
    (same : reader.run cursor = other.run here)
    (sameTwin : reader.run twin = other.run there) :
    reader.Crosses failure cursor twin before behind := by
  unfold Crosses Beside at *
  rw [same, sameTwin]
  exact crosses

theorem Crosses.and_ends {fact : α → Cursor → Prop}
    (crosses : reader.Crosses failure cursor twin before behind)
    (ends : reader.Ends cursor fact) :
    reader.Crosses failure cursor twin
      (fun value after twinAfter =>
        before value after twinAfter ∧ fact value after)
      fun value other => behind value other ∧ ∃ after, after.reported = [] ∧
        fact value after := by
  intro silent
  rcases crosses silent with ⟨same, holds⟩ | ⟨holds, joined⟩
  · exact .inl ⟨same, holds, ends⟩
  · exact .inr ⟨⟨holds, _, silent, ends⟩, joined⟩

/-- A reader that reports nothing was reached without a report. -/
theorem Crosses.of_silent (grows : reader.Grows cursor)
    (crosses : cursor.reported = [] →
      reader.Crosses failure cursor twin before behind) :
    reader.Crosses failure cursor twin before behind :=
  fun silent => crosses (grows.reported_eq_nil silent) silent

theorem Agrees.crosses (agrees : reader.Agrees cursor twin before) :
    reader.Crosses failure cursor twin before behind :=
  fun _ => .inl agrees

/-- Nothing is asked of a reader that reports something. -/
theorem Tells.crosses (tells : reader.Tells cursor) :
    reader.Crosses failure cursor twin before behind :=
  fun silent => absurd silent tells.reported_ne_nil

theorem AgreesUnless.crosses {lost : α → Cursor → Prop}
    (agrees : reader.AgreesUnless lost cursor twin before)
    (told : ∀ value after, lost value after → after.reported ≠ []) :
    reader.Crosses failure cursor twin before behind := by
  rcases agrees with left | agrees
  · exact fun silent => absurd silent (left.mono told)
  · exact agrees.crosses

theorem Tells.joins (tells : reader.Tells cursor) :
    reader.Joins other failure cursor twin behind :=
  fun silent => absurd silent tells.reported_ne_nil

theorem Matches.joins (both : ∀ news, reader.Matches (.valid news) other behind)
    (joined : Rejoined failure cursor twin) :
    reader.Joins other failure cursor twin behind :=
  fun silent => Matches.rejoined both joined silent

/-- Behind the line a reader is followed by one that matches. -/
theorem Joins.bind
    {following twinFollowing : α → Recovery β} {behind : β → β → Prop}
    (first : reader.Joins other failure cursor twin related)
    (grows : ∀ value after, (following value).Grows after)
    (rest : ∀ value twinValue, related value twinValue → ∀ news,
      (following value).Matches (.valid news) (twinFollowing twinValue)
        behind) :
    Joins (reader >>= following) (other >>= twinFollowing) failure cursor twin
      behind := by
  intro silent
  have between : (reader.run cursor).2.reported = [] :=
    Cursor.Grows.silent (grows _ _) silent
  obtain ⟨holds, joined⟩ := first between
  have further := Matches.joins (rest _ _ holds) joined
  exact further silent

theorem Joins.crosses (joins : reader.Joins reader failure cursor twin behind) :
    reader.Crosses failure cursor twin before behind :=
  fun silent => .inr (joins silent)

theorem Crosses.pure {value : α} (holds : before value cursor twin) :
    Crosses (Pure.pure value) failure cursor twin before behind :=
  fun _ => .inl ⟨rfl, holds⟩

/-- Both outcomes of a crossing are followed, each by its own fact. -/
theorem Crosses.bindJoins
    {before : β → Cursor → Cursor → Prop} {behind : β → β → Prop}
    (first : reader.Crosses failure cursor twin known related)
    (grows : ∀ value after, (following value).Grows after)
    (onBefore : ∀ value after twinAfter, after.reported = [] →
      known value after twinAfter →
        (following value).Crosses failure after twinAfter before behind)
    (onBehind : ∀ value other after twinAfter, related value other →
      Rejoined failure after twinAfter →
        (following value).Joins (following other) failure after twinAfter
          behind) :
    Crosses (reader >>= following) failure cursor twin before behind := by
  intro silent
  have between : (reader.run cursor).2.reported = [] :=
    Cursor.Grows.silent (grows _ _) silent
  rcases first between with ⟨same, holds⟩ | ⟨holds, joined⟩
  · have ran : (reader >>= following).run twin =
        (following (reader.run cursor).1).run (reader.run twin).2 := by
      show (following (reader.run twin).1).run (reader.run twin).2 = _
      rw [same]
    rw [ran]
    exact onBefore _ _ _ between holds silent
  · exact .inr (onBehind _ _ _ _ holds joined silent)

theorem Crosses.bind
    {before : β → Cursor → Cursor → Prop} {behind : β → β → Prop}
    (first : reader.Crosses failure cursor twin known related)
    (grows : ∀ value after, (following value).Grows after)
    (onBefore : ∀ value after twinAfter, after.reported = [] →
      known value after twinAfter →
        (following value).Crosses failure after twinAfter before behind)
    (onBehind : ∀ value other, related value other → ∀ news,
      (following value).Matches (.valid news) (following other) behind) :
    Crosses (reader >>= following) failure cursor twin before behind :=
  first.bindJoins grows onBefore fun _ _ _ _ holds joined =>
    Matches.joins (onBehind _ _ holds) joined

/-- A loop that crosses may be followed by what only grows. -/
theorem Crosses.loop_bind {step : α → Recovery (Step α)} {value : α}
    {before : β → Cursor → Cursor → Prop} {behind : β → β → Prop}
    (first : Crosses
      (get >>= fun cursor => PapyrusScript.loop step cursor.budget value)
      failure cursor twin known related)
    (grows : ∀ value after, (following value).Grows after)
    (onBefore : ∀ value after twinAfter, after.reported = [] →
      known value after twinAfter →
        (following value).Crosses failure after twinAfter before behind)
    (onBehind : ∀ value other, related value other → ∀ news,
      (following value).Matches (.valid news) (following other) behind) :
    Crosses
      (get >>= fun cursor =>
        PapyrusScript.loop step cursor.budget value >>= following)
      failure cursor twin before behind :=
  Crosses.congr (first.bind grows onBefore onBehind) rfl rfl

theorem Agrees.bindCrosses
    {before : β → Cursor → Cursor → Prop} {behind : β → β → Prop}
    (first : reader.Agrees cursor twin known)
    (rest : ∀ value after twinAfter, known value after twinAfter →
      (following value).Crosses failure after twinAfter before behind) :
    Crosses (reader >>= following) failure cursor twin before behind := by
  obtain ⟨same, holds⟩ := first
  have ran : (reader >>= following).run twin =
      (following (reader.run cursor).1).run (reader.run twin).2 := by
    show (following (reader.run twin).1).run (reader.run twin).2 = _
    rw [same]
  intro silent
  rw [ran]
  exact rest _ _ _ holds silent

theorem Crosses.look {following : Cursor → Recovery α}
    (same : following twin = following cursor)
    (crosses : (following cursor).Crosses failure cursor twin before behind) :
    Crosses (get >>= following) failure cursor twin before behind := by
  have sameTwin : (get >>= following).run twin = (following cursor).run twin := by
    show (following twin).run twin = _
    rw [same]
  have sameHere : (get >>= following).run cursor =
      (following cursor).run cursor :=
    rfl
  exact crosses.congr sameHere sameTwin

theorem Crosses.take {fork : Fork} {following : Token → Recovery α}
    (amid : fork.Amid cursor twin)
    (crosses : (following cursor.current).Crosses failure cursor.next twin.next
      before behind) :
    Crosses (Reader.advance >>= following) failure cursor twin before
      behind := by
  have sameTwin : (Reader.advance >>= following).run twin =
      (following cursor.current).run twin.next := by
    show (following twin.current).run twin.next = _
    rw [amid.current]
  have sameHere : (Reader.advance >>= following).run cursor =
      (following cursor.current).run cursor.next :=
    rfl
  exact crosses.congr sameHere sameTwin

/-- The same for what follows a loop in the common row. -/
theorem Agrees.loop_bindCrosses {step : α → Recovery (Step α)} {value : α}
    {before : β → Cursor → Cursor → Prop} {behind : β → β → Prop}
    (first : Agrees
      (get >>= fun cursor => PapyrusScript.loop step cursor.budget value)
      cursor twin known)
    (rest : ∀ value after twinAfter, known value after twinAfter →
      (following value).Crosses failure after twinAfter before behind) :
    Crosses
      (get >>= fun cursor =>
        PapyrusScript.loop step cursor.budget value >>= following)
      failure cursor twin before behind :=
  Crosses.congr (first.bindCrosses rest) rfl rfl

/-- One reader after another, of which the first may fail. -/
theorem Crosses.run_bindJoins
    {reader : Reader α} {following : Except Diagnostic α → Recovery β}
    {before : β → Cursor → Cursor → Prop} {behind : β → β → Prop}
    (first : reader.Crosses failure cursor twin known related)
    (grows : ∀ answer after, (following answer).Grows after)
    (onBefore : ∀ value after twinAfter, after.reported = [] →
      known value after twinAfter →
        (following (.ok value)).Crosses failure after twinAfter before behind)
    (onBehind : ∀ value other after twinAfter, related value other →
      Rejoined failure after twinAfter →
        (following (.ok value)).Joins (following (.ok other)) failure after
          twinAfter behind)
    (onError : ∀ diagnostic after,
      (following (.error diagnostic)).Tells after) :
    Crosses (reader.run >>= following) failure cursor twin before behind := by
  apply Crosses.bindJoins first grows
  · intro answer after twinAfter silent holds
    cases answer with
    | ok value => exact onBefore value after twinAfter silent holds
    | error diagnostic => exact (onError diagnostic after).crosses
  · intro answer other after twinAfter relates joined
    cases answer with
    | error diagnostic => exact (onError diagnostic after).joins
    | ok value =>
      cases other with
      | error _ => exact relates.elim
      | ok otherValue =>
        exact onBehind value otherValue after twinAfter relates joined

/-- A failure is crossed like an answer. -/
theorem Crosses.run_bind
    {reader : Reader α} {following : Except Diagnostic α → Recovery β}
    {before : β → Cursor → Cursor → Prop} {behind : β → β → Prop}
    (first : reader.Crosses failure cursor twin known related)
    (grows : ∀ answer after, (following answer).Grows after)
    (onBefore : ∀ value after twinAfter, after.reported = [] →
      known value after twinAfter →
        (following (.ok value)).Crosses failure after twinAfter before behind)
    (onBehind : ∀ value other, related value other → ∀ news,
      (following (.ok value)).Matches (.valid news) (following (.ok other))
        behind)
    (onError : ∀ diagnostic after,
      (following (.error diagnostic)).Tells after) :
    Crosses (reader.run >>= following) failure cursor twin before behind :=
  Crosses.run_bindJoins first grows onBefore
    (fun _ _ _ _ relates joined => Matches.joins (onBehind _ _ relates) joined)
    onError

/-- A reader in the common row comes first, which may fail. -/
theorem Agrees.run_bindCrosses {fork : Fork} {reader : Reader α}
    {following : Except Diagnostic α → Recovery β}
    {before : β → Cursor → Cursor → Prop} {behind : β → β → Prop}
    (first : reader.Agrees fork cursor twin known)
    (rest : ∀ value after twinAfter, known value after twinAfter →
      (following (.ok value)).Crosses failure after twinAfter before behind)
    (onError : ∀ diagnostic after,
      (following (.error diagnostic)).Tells after) :
    Crosses (reader.run >>= following) failure cursor twin before behind := by
  apply Agrees.bindCrosses first
  intro answer after twinAfter holds
  cases answer with
  | ok value => exact rest value after twinAfter holds
  | error diagnostic => exact (onError diagnostic after).crosses

theorem Crosses.inBlock {block : Block} {body : Recovery α}
    (crosses : body.Crosses failure (cursor.enter block) (twin.enter block)
      (fun value after twinAfter => before value after.leave twinAfter.leave)
      behind) :
    Crosses (Reader.inBlock block body) failure cursor twin before behind := by
  intro silent
  rcases crosses silent with kept | ⟨holds, joined⟩
  · exact .inl kept
  · exact .inr ⟨holds, joined.budget, joined.valid,
      congrArg List.tail joined.openBlocks, joined.silent, joined.reported⟩

/-! ## Loops -/

section Loops

variable {step : α → Recovery (Step α)}
  (proceeds : ∀ value cursor, (step value).Proceeds cursor)

include proceeds

/-- A loop crosses the line if its steps do, or if the line is crossed in some
other way from where one of them would start. -/
theorem Crosses.loop (invariant : α → Cursor → Cursor → Prop)
    (steps : ∀ value cursor twin, cursor.reported = [] →
      invariant value cursor twin →
        (step value).Crosses failure cursor twin (Step.Parts invariant before)
            (Step.Decides behind) ∨
          Crosses
            (get >>= fun cursor => PapyrusScript.loop step cursor.budget value)
            failure cursor twin before behind)
    (onBehind : ∀ value other, behind value other → ∀ news,
      (step value).Matches (.valid news) (step other) (Step.Decides behind))
    {value : α} (holds : invariant value cursor twin) :
    Crosses (get >>= fun cursor => PapyrusScript.loop step cursor.budget value)
      failure cursor twin before behind := by
  have together {value other : α} {cursor twin : Cursor}
      (related : behind value other) (joined : Rejoined failure cursor twin) :
      Joins (get >>= fun cursor => PapyrusScript.loop step cursor.budget value)
        (get >>= fun cursor => PapyrusScript.loop step cursor.budget other)
        failure cursor twin behind :=
    Matches.joins (fun news => .get fun _ _ alike =>
      .loop (fun _ _ related => onBehind _ _ related news) alike.length
        related) joined
  induction value, cursor using loop_induction proceeds generalizing twin with
  | back value cursor ih =>
    intro silent
    have whole := travels_loop proceeds cursor.budget value cursor
    rcases steps value cursor twin (whole.grows.silent silent) holds with
      crosses | leap
    · unfold Crosses Beside at crosses
      rw [run_loop proceeds] at silent
      rw [run_loop proceeds, run_loop proceeds]
      generalize (step value).run twin = there at crosses
      obtain ⟨decisionToo, twinBetween⟩ := there
      cases here : (step value).run cursor with
      | mk decision between =>
        rw [here] at crosses silent
        cases decision with
        | done final =>
          rcases crosses silent with ⟨same, kept⟩ | ⟨decides, joined⟩
          · cases same
            exact .inl ⟨rfl, kept⟩
          · cases decisionToo with
            | again => exact decides.elim
            | done other => exact .inr ⟨decides, joined⟩
        | again following =>
          have rest := travels_loop proceeds between.budget following between
          rcases crosses (rest.grows.silent silent) with
            ⟨same, kept⟩ | ⟨decides, joined⟩
          · cases same
            exact ih _ _ here kept silent
          · cases decisionToo with
            | done => exact decides.elim
            | again other => exact .inr (together decides joined silent)
    · exact leap silent

end Loops

end Recovery

namespace Reader

variable {before known : α → Cursor → Cursor → Prop}
  {behind related : α → α → Prop} {reader : Reader α}

/-- What is known in front of the line and behind it may be weakened. -/
theorem Crosses.mono
    {earlier : α → Cursor → Cursor → Prop} {later : α → α → Prop}
    (crosses : reader.Crosses failure cursor twin earlier later)
    (onBefore : ∀ value after twinAfter, after.reported = [] →
      earlier value after twinAfter → before value after twinAfter)
    (onBehind : ∀ value other, later value other → behind value other) :
    reader.Crosses failure cursor twin before behind := by
  apply Recovery.Crosses.mono crosses
  · intro answer after twinAfter silent holds
    cases answer with
    | ok value => exact onBefore value after twinAfter silent holds
    | error _ => trivial
  · intro answer other relates
    cases answer <;> cases other <;>
      first | exact onBehind _ _ relates | exact relates

/-- Something is known of an answer of the first run alone. -/
theorem Crosses.and_ends {fact : α → Cursor → Prop}
    (crosses : reader.Crosses failure cursor twin before behind)
    (ends : reader.Ends cursor fact fun _ _ => True) :
    reader.Crosses failure cursor twin
      (fun value after twinAfter =>
        before value after twinAfter ∧ fact value after)
      fun value other => behind value other ∧ ∃ after, after.reported = [] ∧
        fact value after := by
  apply Recovery.Crosses.mono (Recovery.Crosses.and_ends crosses ends)
  · intro answer after twinAfter _ known
    cases answer with
    | ok value => exact known
    | error _ => trivial
  · intro answer other known
    cases answer with
    | ok value =>
      cases other with
      | ok _ => exact known
      | error _ => exact known.1.elim
    | error _ =>
      cases other with
      | ok _ => exact known.1.elim
      | error _ => trivial

theorem Agrees.crosses
    {fork : Fork} (agrees : reader.Agrees fork cursor twin before) :
    reader.Crosses failure cursor twin before behind := by
  apply Recovery.Agrees.crosses
  apply Recovery.Agrees.mono agrees
  intro answer after twinAfter holds
  cases answer with
  | ok value => exact holds
  | error _ => trivial

theorem Crosses.lift {reader : Recovery α}
    (crosses : reader.Crosses failure cursor twin before behind) :
    Reader.Crosses (liftM reader) failure cursor twin before behind := by
  intro silent
  rcases crosses silent with ⟨same, holds⟩ | joined
  · exact .inl ⟨congrArg Except.ok same, holds⟩
  · exact .inr joined

theorem Matches.relates {pairing : Pairing} {other : Reader α}
    (both : reader.Matches pairing other behind) :
    Recovery.Matches reader.run pairing other.run (Relates behind) := by
  apply Recovery.Matches.mono both
  intro answer other answers
  cases answer <;> cases other <;> first | exact answers | trivial

/-- Both outcomes of a crossing are followed, each by its own fact. -/
theorem Crosses.bind
    {following : α → Reader β} {before : β → Cursor → Cursor → Prop}
    {behind : β → β → Prop}
    (first : reader.Crosses failure cursor twin known related)
    (grows : ∀ value after, (following value).run.Grows after)
    (onBefore : ∀ value after twinAfter, after.reported = [] →
      known value after twinAfter →
        (following value).Crosses failure after twinAfter before behind)
    (onBehind : ∀ value other, related value other → ∀ news,
      (following value).Matches (.valid news) (following other) behind) :
    Crosses (reader >>= following) failure cursor twin before behind := by
  unfold Crosses
  rw [ExceptT.run_bind]
  apply Recovery.Crosses.bindJoins first
  · intro answer after
    cases answer with
    | ok value => exact grows value after
    | error _ => exact .refl after
  · intro answer after twinAfter silent holds
    cases answer with
    | ok value => exact onBefore value after twinAfter silent holds
    | error _ => exact .pure trivial
  · intro answer other after twinAfter relates joined
    cases answer with
    | ok value =>
      cases other with
      | ok otherValue =>
        exact Recovery.Matches.joins
          (fun news => (onBehind _ _ relates news).relates) joined
      | error _ => exact relates.elim
    | error _ =>
      cases other with
      | ok _ => exact relates.elim
      | error _ => exact fun _ => ⟨trivial, joined⟩

theorem Agrees.bindCrosses {fork : Fork} {following : α → Reader β}
    {before : β → Cursor → Cursor → Prop} {behind : β → β → Prop}
    (first : reader.Agrees fork cursor twin known)
    (rest : ∀ value after twinAfter, known value after twinAfter →
      (following value).Crosses failure after twinAfter before behind) :
    Crosses (reader >>= following) failure cursor twin before behind := by
  unfold Crosses
  rw [ExceptT.run_bind]
  apply Recovery.Agrees.bindCrosses first
  intro answer after twinAfter holds
  cases answer with
  | ok value => exact rest value after twinAfter holds
  | error _ => exact .pure trivial

theorem Crosses.map {change : α → β} {before : β → Cursor → Cursor → Prop}
    {behind : β → β → Prop}
    (crosses : reader.Crosses failure cursor twin
      (fun value after twinAfter => before (change value) after twinAfter)
      fun value other => behind (change value) (change other)) :
    Crosses (change <$> reader) failure cursor twin before behind := by
  rw [map_eq_pure_bind]
  apply crosses.bind
  · exact fun _ after => .refl after
  · exact fun _ _ _ _ holds => .pure holds
  · exact fun _ _ holds _ => .pure holds

theorem Crosses.look {following : Cursor → Reader α}
    (same : following twin = following cursor)
    (crosses : (following cursor).Crosses failure cursor twin before behind) :
    Crosses (get >>= following) failure cursor twin before behind :=
  @Recovery.Crosses.look _ _ _ _ _ _ (fun cursor => (following cursor).run)
    (congrArg ExceptT.run same) crosses

end Reader

end PapyrusScript
