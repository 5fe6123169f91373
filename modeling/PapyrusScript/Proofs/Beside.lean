import PapyrusScript.Proofs.Alongside.Leaving

/-!
# Two runs side by side

Two readers run from two cursors.  `Beside` says what holds of their answers
and of the cursors behind them; `Accords` asks for that only if the first run
has reported nothing.  Of readers that may fail nothing is asked where both
fail, but not one of them alone.

Reports are never taken back.  So a part of a reader that has reported
something may be followed by anything, and only what is read without a report
has to be compared.
-/

namespace PapyrusScript

variable {α β : Type}

/-- What holds of the answers of two readers and of the cursors behind
them. -/
def Recovery.Beside (reader twin : Recovery α) (cursor cursorTwin : Cursor)
    (post : α → α → Cursor → Cursor → Prop) : Prop :=
  post (reader.run cursor).1 (twin.run cursorTwin).1 (reader.run cursor).2
    (twin.run cursorTwin).2

/-- What holds of two answers if both are values.  It is not so that only one
of them is. -/
def Reader.Both (post : α → α → Cursor → Cursor → Prop) :
    Except Diagnostic α → Except Diagnostic α → Cursor → Cursor → Prop
  | .ok value, .ok other => post value other
  | .error _, .error _ => fun _ _ => True
  | _, _ => fun _ _ => False

def Reader.Beside (reader twin : Reader α) (cursor cursorTwin : Cursor)
    (post : α → α → Cursor → Cursor → Prop) : Prop :=
  Recovery.Beside reader.run twin.run cursor cursorTwin (Both post)

def Recovery.Accords (reader twin : Recovery α) (cursor cursorTwin : Cursor)
    (post : α → α → Cursor → Cursor → Prop) : Prop :=
  reader.Beside twin cursor cursorTwin fun value other after twinAfter =>
    after.reported = [] → post value other after twinAfter

def Reader.Accords (reader twin : Reader α) (cursor cursorTwin : Cursor)
    (post : α → α → Cursor → Cursor → Prop) : Prop :=
  Recovery.Accords reader.run twin.run cursor cursorTwin (Both post)

/-- Two steps decide the same.  Something holds if the loop goes on, and
something if it ends. -/
def Step.Both (again done : α → α → Cursor → Cursor → Prop) :
    Step α → Step α → Cursor → Cursor → Prop
  | .again value, .again other => again value other
  | .done value, .done other => done value other
  | _, _ => fun _ _ => False

namespace Recovery

variable {cursor cursorTwin : Cursor} {reader twin : Recovery α}
  {following twinFollowing : α → Recovery β}
  {known weaker : α → α → Cursor → Cursor → Prop}
  {post : β → β → Cursor → Cursor → Prop}
variable {value other : α}

/-! ## What both runs do -/

theorem Beside.mono (beside : reader.Beside twin cursor cursorTwin known)
    (implied : ∀ value other after twinAfter,
      known value other after twinAfter → weaker value other after twinAfter) :
    reader.Beside twin cursor cursorTwin weaker :=
  implied _ _ _ _ beside

theorem Beside.pure (holds : known value other cursor cursorTwin) :
    Beside (Pure.pure value) (Pure.pure other) cursor cursorTwin known :=
  holds

theorem Beside.bind (first : reader.Beside twin cursor cursorTwin known)
    (rest : ∀ value other after twinAfter, known value other after twinAfter →
      (following value).Beside (twinFollowing other) after twinAfter post) :
    Beside (reader >>= following) (twin >>= twinFollowing) cursor cursorTwin
      post :=
  rest _ _ _ _ first

theorem Ends.beside {fact twinFact : α → Cursor → Prop}
    (ends : reader.Ends cursor fact) (twinEnds : twin.Ends cursorTwin twinFact)
    (implied : ∀ value other after twinAfter, fact value after →
      twinFact other twinAfter → known value other after twinAfter) :
    reader.Beside twin cursor cursorTwin known :=
  implied _ _ _ _ ends twinEnds

theorem Beside.get {following twinFollowing : Cursor → Recovery β}
    (rest : (following cursor).Beside (twinFollowing cursorTwin) cursor
      cursorTwin post) :
    Beside (MonadState.get >>= following) (MonadState.get >>= twinFollowing)
      cursor cursorTwin post :=
  rest

theorem Beside.take {following twinFollowing : Token → Recovery β}
    (rest : (following cursor.current).Beside
      (twinFollowing cursorTwin.current) cursor.next cursorTwin.next post) :
    Beside (Reader.advance >>= following) (Reader.advance >>= twinFollowing)
      cursor cursorTwin post :=
  rest

theorem Beside.ite {condition twinCondition : Prop} [Decidable condition]
    [Decidable twinCondition] {second secondTwin : Recovery α}
    (agree : twinCondition ↔ condition)
    (onTrue : condition → reader.Beside twin cursor cursorTwin known)
    (onFalse : ¬ condition → second.Beside secondTwin cursor cursorTwin known) :
    Beside (if condition then reader else second)
      (if twinCondition then twin else secondTwin) cursor cursorTwin
      known := by
  by_cases holds : condition
  · rw [if_pos holds, if_pos (agree.2 holds)]
    exact onTrue holds
  · rw [if_neg holds, if_neg (mt agree.1 holds)]
    exact onFalse holds

/-- Both answers of a reader that may fail are followed side by side. -/
theorem Beside.run_bind {reader twin : Reader α}
    {following twinFollowing : Except Diagnostic α → Recovery β}
    (first : reader.Beside twin cursor cursorTwin known)
    (onValue : ∀ value other after twinAfter,
      known value other after twinAfter →
        (following (.ok value)).Beside (twinFollowing (.ok other)) after
          twinAfter post)
    (onError : ∀ diagnostic other after twinAfter,
      (following (.error diagnostic)).Beside (twinFollowing (.error other))
        after twinAfter post) :
    Beside (reader.run >>= following) (twin.run >>= twinFollowing) cursor
      cursorTwin post := by
  apply Beside.bind first
  intro answer other after twinAfter both
  cases answer with
  | ok value =>
    cases other with
    | ok otherValue => exact onValue value otherValue after twinAfter both
    | error _ => exact both.elim
  | error diagnostic =>
    cases other with
    | ok _ => exact both.elim
    | error otherDiagnostic => exact onError _ _ after twinAfter

section Loop

variable {step twinStep : α → Recovery (Step α)}
  (invariant : α → α → Cursor → Cursor → Prop)
  (proceeds : ∀ value cursor, (step value).Proceeds cursor)
  (twinProceeds : ∀ value cursor, (twinStep value).Proceeds cursor)

include proceeds twinProceeds

/-- The runs of two loops stay together as long as their steps do, although
the loops are given different numbers of steps. -/
theorem Beside.loop (steps : ∀ value other cursor cursorTwin,
      invariant value other cursor cursorTwin →
        (step value).Beside (twinStep other) cursor cursorTwin
          (Step.Both invariant known))
    {value other : α} (holds : invariant value other cursor cursorTwin) :
    Beside
      (MonadState.get >>= fun cursor =>
        PapyrusScript.loop step cursor.budget value)
      (MonadState.get >>= fun cursor =>
        PapyrusScript.loop twinStep cursor.budget other)
      cursor cursorTwin known := by
  induction value, cursor using loop_induction proceeds
    generalizing other cursorTwin with
  | back value cursor ih =>
    have both := steps _ _ _ _ holds
    unfold Beside at both ⊢
    rw [run_loop proceeds, run_loop twinProceeds]
    generalize (twinStep other).run cursorTwin = there at both
    cases here : (step value).run cursor with
    | mk decision between =>
      rw [here] at both
      obtain ⟨_ | _, twinBetween⟩ := there <;> cases decision <;>
        try exact both.elim
      · exact ih _ _ here both
      · exact both

end Loop

/-! ## What both runs do unless something is reported -/

theorem Beside.accords (beside : reader.Beside twin cursor cursorTwin known) :
    reader.Accords twin cursor cursorTwin known :=
  fun _ => beside

theorem Accords.mono (accords : reader.Accords twin cursor cursorTwin known)
    (implied : ∀ value other after twinAfter,
      known value other after twinAfter → weaker value other after twinAfter) :
    reader.Accords twin cursor cursorTwin weaker :=
  fun silent => implied _ _ _ _ (accords silent)

theorem Accords.congr {instead twinInstead : Recovery α} {here there : Cursor}
    (accords : instead.Accords twinInstead here there known)
    (same : reader.run cursor = instead.run here)
    (sameTwin : twin.run cursorTwin = twinInstead.run there) :
    reader.Accords twin cursor cursorTwin known := by
  unfold Accords Beside at *
  rw [same, sameTwin]
  exact accords

theorem Accords.pure (holds : known value other cursor cursorTwin) :
    Accords (Pure.pure value) (Pure.pure other) cursor cursorTwin known :=
  fun _ => holds

/-- Nothing is asked of a reader that reports something. -/
theorem Tells.accords (tells : reader.Tells cursor) :
    reader.Accords twin cursor cursorTwin known :=
  fun silent => absurd silent tells.reported_ne_nil

/-- One reader after another, where what is silent at its end was silent
between the two. -/
theorem Accords.bind_of_silent
    (first : reader.Accords twin cursor cursorTwin known)
    (between : ∀ value after,
      ((following value).run after).2.reported = [] → after.reported = [])
    (rest : ∀ value other after twinAfter, known value other after twinAfter →
      (following value).Accords (twinFollowing other) after twinAfter post) :
    Accords (reader >>= following) (twin >>= twinFollowing) cursor cursorTwin
      post :=
  fun silent => rest _ _ _ _ (first (between _ _ silent)) silent

theorem Accords.bind (first : reader.Accords twin cursor cursorTwin known)
    (grows : ∀ value after, (following value).Grows after)
    (rest : ∀ value other after twinAfter, known value other after twinAfter →
      (following value).Accords (twinFollowing other) after twinAfter post) :
    Accords (reader >>= following) (twin >>= twinFollowing) cursor cursorTwin
      post :=
  first.bind_of_silent (fun value after => (grows value after).reported_eq_nil)
    rest

theorem Accords.after (first : reader.Beside twin cursor cursorTwin known)
    (rest : ∀ value other after twinAfter, known value other after twinAfter →
      (following value).Accords (twinFollowing other) after twinAfter post) :
    Accords (reader >>= following) (twin >>= twinFollowing) cursor cursorTwin
      post :=
  rest _ _ _ _ first

theorem Accords.get {following twinFollowing : Cursor → Recovery β}
    (rest : (following cursor).Accords (twinFollowing cursorTwin) cursor
      cursorTwin post) :
    Accords (MonadState.get >>= following) (MonadState.get >>= twinFollowing)
      cursor cursorTwin post :=
  rest

theorem Accords.take {following twinFollowing : Token → Recovery β}
    (rest : (following cursor.current).Accords
      (twinFollowing cursorTwin.current) cursor.next cursorTwin.next post) :
    Accords (Reader.advance >>= following) (Reader.advance >>= twinFollowing)
      cursor cursorTwin post :=
  rest

theorem Accords.ite {condition twinCondition : Prop} [Decidable condition]
    [Decidable twinCondition] {second secondTwin : Recovery α}
    (agree : twinCondition ↔ condition)
    (onTrue : condition → reader.Accords twin cursor cursorTwin known)
    (onFalse : ¬ condition →
      second.Accords secondTwin cursor cursorTwin known) :
    Accords (if condition then reader else second)
      (if twinCondition then twin else secondTwin) cursor cursorTwin known :=
  Beside.ite agree onTrue onFalse

/-- Where the first run fails it reports, and then nothing is asked. -/
theorem Accords.run_bind {reader twin : Reader α}
    {following twinFollowing : Except Diagnostic α → Recovery β}
    (first : reader.Accords twin cursor cursorTwin known)
    (grows : ∀ value after, (following (.ok value)).Grows after)
    (onError : ∀ diagnostic after, (following (.error diagnostic)).Tells after)
    (onValue : ∀ value other after twinAfter,
      known value other after twinAfter →
        (following (.ok value)).Accords (twinFollowing (.ok other)) after
          twinAfter post) :
    Accords (reader.run >>= following) (twin.run >>= twinFollowing) cursor
      cursorTwin post := by
  refine Accords.bind_of_silent first ?_ ?_
  · rintro (diagnostic | value) after silent
    · exact absurd silent (onError diagnostic after).reported_ne_nil
    · exact (grows value after).reported_eq_nil silent
  · intro answer other after twinAfter both
    cases answer with
    | ok value =>
      cases other with
      | ok otherValue => exact onValue value otherValue after twinAfter both
      | error _ => exact both.elim
    | error diagnostic => exact (onError diagnostic after).accords

/-- What comes first is compared, even if it has been reported. -/
theorem Accords.run_after {reader twin : Reader α}
    {following twinFollowing : Except Diagnostic α → Recovery β}
    (first : reader.Beside twin cursor cursorTwin known)
    (onError : ∀ diagnostic after, (following (.error diagnostic)).Tells after)
    (onValue : ∀ value other after twinAfter,
      known value other after twinAfter →
        (following (.ok value)).Accords (twinFollowing (.ok other)) after
          twinAfter post) :
    Accords (reader.run >>= following) (twin.run >>= twinFollowing) cursor
      cursorTwin post := by
  refine Accords.after first ?_
  intro answer other after twinAfter both
  cases answer with
  | ok value =>
    cases other with
    | ok otherValue => exact onValue value otherValue after twinAfter both
    | error _ => exact both.elim
  | error diagnostic => exact (onError diagnostic after).accords

theorem Accords.inBlock
    {block : Block} {weaker : α → α → Cursor → Cursor → Prop}
    (body : reader.Accords twin (cursor.enter block) (cursorTwin.enter block)
      fun value other after twinAfter =>
        weaker value other after.leave twinAfter.leave) :
    Accords (Reader.inBlock block reader) (Reader.inBlock block twin) cursor
      cursorTwin weaker :=
  body

section Loop

variable {step twinStep : α → Recovery (Step α)}
  (invariant : α → α → Cursor → Cursor → Prop)
  (proceeds : ∀ value cursor, (step value).Proceeds cursor)
  (twinProceeds : ∀ value cursor, (twinStep value).Proceeds cursor)

include twinProceeds proceeds

/-- What the steps keep side by side holds at the end of the loops. -/
theorem Accords.loop (steps : ∀ value other cursor cursorTwin,
      invariant value other cursor cursorTwin →
        (step value).Accords (twinStep other) cursor cursorTwin
          (Step.Both invariant known))
    {value other : α} (holds : invariant value other cursor cursorTwin) :
    Accords
      (MonadState.get >>= fun cursor =>
        PapyrusScript.loop step cursor.budget value)
      (MonadState.get >>= fun cursor =>
        PapyrusScript.loop twinStep cursor.budget other)
      cursor cursorTwin known := by
  induction value, cursor using loop_induction proceeds
    generalizing other cursorTwin with
  | back value cursor ih =>
    have both := steps _ _ _ _ holds
    unfold Accords Beside at both ⊢
    rw [run_loop proceeds, run_loop twinProceeds]
    generalize (twinStep other).run cursorTwin = there at both
    cases here : (step value).run cursor with
    | mk decision between =>
      rw [here] at both
      cases decision with
      | done final =>
        obtain ⟨_ | _, twinBetween⟩ := there
        · exact fun silent => (both silent).elim
        · exact both
      | again following =>
        intro silent
        have rest := travels_loop proceeds between.budget following between
        have known := both (rest.grows.reported_eq_nil silent)
        obtain ⟨_ | _, twinBetween⟩ := there
        · exact ih _ _ here known silent
        · exact known.elim

end Loop

/-- A loop may be followed by what only grows. -/
theorem Accords.bind_loop {step twinStep : α → Recovery (Step α)}
    (first : Accords
      (MonadState.get >>= fun cursor =>
        PapyrusScript.loop step cursor.budget value)
      (MonadState.get >>= fun cursor =>
        PapyrusScript.loop twinStep cursor.budget other)
      cursor cursorTwin known)
    (grows : ∀ value after, (following value).Grows after)
    (rest : ∀ value other after twinAfter, known value other after twinAfter →
      (following value).Accords (twinFollowing other) after twinAfter post) :
    Accords
      (MonadState.get >>= fun cursor =>
        PapyrusScript.loop step cursor.budget value >>= following)
      (MonadState.get >>= fun cursor =>
        PapyrusScript.loop twinStep cursor.budget other >>= twinFollowing)
      cursor cursorTwin post :=
  first.bind grows rest

end Recovery

/-! ## Readers that may fail -/

namespace Reader

variable {cursor cursorTwin : Cursor} {reader twin : Reader α}
  {following twinFollowing : α → Reader β}
  {known weaker : α → α → Cursor → Cursor → Prop}
  {post : β → β → Cursor → Cursor → Prop}

/-- What is known of two values may be weakened. -/
theorem Both.mono
    {answer other : Except Diagnostic α} {after twinAfter : Cursor}
    (both : Both known answer other after twinAfter)
    (implied : ∀ value other after twinAfter,
      known value other after twinAfter → weaker value other after twinAfter) :
    Both weaker answer other after twinAfter := by
  cases answer with
  | ok value =>
    cases other with
    | ok otherValue => exact implied _ _ _ _ both
    | error _ => exact both
  | error _ =>
    cases other with
    | ok _ => exact both
    | error _ => exact trivial

theorem Beside.mono (beside : reader.Beside twin cursor cursorTwin known)
    (implied : ∀ value other after twinAfter,
      known value other after twinAfter → weaker value other after twinAfter) :
    reader.Beside twin cursor cursorTwin weaker :=
  Recovery.Beside.mono beside fun _ _ _ _ both => both.mono implied

theorem Beside.pure {value other : α}
    (holds : known value other cursor cursorTwin) :
    Beside (Pure.pure value) (Pure.pure other) cursor cursorTwin known :=
  holds

theorem Beside.throw (diagnostic other : Diagnostic) :
    Beside (throw diagnostic) (throw other) cursor cursorTwin known :=
  trivial

theorem Beside.reject (expected other : String) :
    Beside (reject expected) (reject other) cursor cursorTwin known :=
  trivial

/-- Two readers side by side are followed by two others. -/
theorem Beside.bind (first : reader.Beside twin cursor cursorTwin known)
    (rest : ∀ value other after twinAfter, known value other after twinAfter →
      (following value).Beside (twinFollowing other) after twinAfter post) :
    Beside (reader >>= following) (twin >>= twinFollowing) cursor cursorTwin
      post := by
  unfold Beside
  rw [ExceptT.run_bind, ExceptT.run_bind]
  apply Recovery.Beside.bind first
  intro answer other after twinAfter both
  cases answer with
  | ok value =>
    cases other with
    | ok otherValue => exact rest value otherValue after twinAfter both
    | error _ => exact both.elim
  | error _ =>
    cases other with
    | ok _ => exact both.elim
    | error _ => exact trivial

theorem Beside.map {change twinChange : α → β}
    (beside : reader.Beside twin cursor cursorTwin
      fun value other => post (change value) (twinChange other)) :
    Beside (change <$> reader) (twinChange <$> twin) cursor cursorTwin
      post := by
  rw [map_eq_pure_bind, map_eq_pure_bind]
  exact beside.bind fun _ _ _ _ holds => .pure holds

theorem Beside.get {following twinFollowing : Cursor → Reader β}
    (rest : (following cursor).Beside (twinFollowing cursorTwin) cursor
      cursorTwin post) :
    Beside (MonadState.get >>= following) (MonadState.get >>= twinFollowing)
      cursor cursorTwin post :=
  rest

theorem Beside.take {following twinFollowing : Token → Reader β}
    (rest : (following cursor.current).Beside
      (twinFollowing cursorTwin.current) cursor.next cursorTwin.next post) :
    Beside (liftM advance >>= following) (liftM advance >>= twinFollowing)
      cursor cursorTwin post :=
  rest

theorem Beside.lift {reader twin : Recovery α}
    (beside : reader.Beside twin cursor cursorTwin known) :
    Beside (liftM reader) (liftM twin) cursor cursorTwin known :=
  beside

theorem Beside.ite {condition twinCondition : Prop} [Decidable condition]
    [Decidable twinCondition] {second secondTwin : Reader α}
    (agree : twinCondition ↔ condition)
    (onTrue : condition → reader.Beside twin cursor cursorTwin known)
    (onFalse : ¬ condition → second.Beside secondTwin cursor cursorTwin known) :
    Beside (if condition then reader else second)
      (if twinCondition then twin else secondTwin) cursor cursorTwin
      known := by
  by_cases holds : condition
  · rw [if_pos holds, if_pos (agree.2 holds)]
    exact onTrue holds
  · rw [if_neg holds, if_neg (mt agree.1 holds)]
    exact onFalse holds

section Loop

variable {step twinStep : α → Reader (Step α)}
  (invariant : α → α → Cursor → Cursor → Prop)
  (proceeds : ∀ value cursor, (step value).Proceeds cursor)
  (twinProceeds : ∀ value cursor, (twinStep value).Proceeds cursor)

include proceeds twinProceeds

/-- The runs of two loops stay together as long as their steps do, although
the loops are given different numbers of steps. -/
theorem Beside.loop (steps : ∀ value other cursor cursorTwin,
      invariant value other cursor cursorTwin →
        (step value).Beside (twinStep other) cursor cursorTwin
          (Step.Both invariant known))
    {value other : α} (holds : invariant value other cursor cursorTwin) :
    Beside
      (MonadState.get >>= fun cursor =>
        PapyrusScript.loop step cursor.budget value)
      (MonadState.get >>= fun cursor =>
        PapyrusScript.loop twinStep cursor.budget other)
      cursor cursorTwin known := by
  induction value, cursor using loop_induction proceeds
    generalizing other cursorTwin with
  | back value cursor ih =>
    have both := steps _ _ _ _ holds
    unfold Beside Recovery.Beside at both ⊢
    rw [run_loop proceeds, run_loop twinProceeds]
    generalize (twinStep other).run.run cursorTwin = there at both
    cases here : (step value).run.run cursor with
    | mk answer between =>
      rw [here] at both
      obtain ⟨_ | (_ | _), twinBetween⟩ := there <;>
        obtain _ | (_ | _) := answer <;> try exact both.elim
      · trivial
      · exact ih _ _ here both
      · exact both

end Loop

/-! ## The same unless something is reported -/

theorem Beside.accords (beside : reader.Beside twin cursor cursorTwin known) :
    reader.Accords twin cursor cursorTwin known :=
  fun _ => beside

theorem Accords.mono (accords : reader.Accords twin cursor cursorTwin known)
    (implied : ∀ value other after twinAfter,
      known value other after twinAfter → weaker value other after twinAfter) :
    reader.Accords twin cursor cursorTwin weaker :=
  Recovery.Accords.mono accords fun _ _ _ _ both => both.mono implied

theorem Accords.pure {value other : α}
    (holds : known value other cursor cursorTwin) :
    Accords (Pure.pure value) (Pure.pure other) cursor cursorTwin known :=
  fun _ => holds

/-- A report of the first reader is never taken back. -/
theorem Accords.bind (first : reader.Accords twin cursor cursorTwin known)
    (grows : ∀ value after, (following value).run.Grows after)
    (rest : ∀ value other after twinAfter, known value other after twinAfter →
      (following value).Accords (twinFollowing other) after twinAfter post) :
    Accords (reader >>= following) (twin >>= twinFollowing) cursor cursorTwin
      post := by
  unfold Accords
  rw [ExceptT.run_bind, ExceptT.run_bind]
  refine Recovery.Accords.bind first ?_ ?_
  · rintro (diagnostic | value) after
    · exact .pure _
    · exact grows value after
  · intro answer other after twinAfter both
    cases answer with
    | ok value =>
      cases other with
      | ok otherValue => exact rest value otherValue after twinAfter both
      | error _ => exact both.elim
    | error _ =>
      cases other with
      | ok _ => exact both.elim
      | error _ => exact fun _ => trivial

/-- What comes first is compared, even if it has been reported. -/
theorem Accords.after (first : reader.Beside twin cursor cursorTwin known)
    (rest : ∀ value other after twinAfter, known value other after twinAfter →
      (following value).Accords (twinFollowing other) after twinAfter post) :
    Accords (reader >>= following) (twin >>= twinFollowing) cursor cursorTwin
      post := by
  unfold Accords
  rw [ExceptT.run_bind, ExceptT.run_bind]
  refine Recovery.Accords.after first ?_
  intro answer other after twinAfter both
  cases answer with
  | ok value =>
    cases other with
    | ok otherValue => exact rest value otherValue after twinAfter both
    | error _ => exact both.elim
  | error _ =>
    cases other with
    | ok _ => exact both.elim
    | error _ => exact fun _ => trivial

theorem Accords.map {change twinChange : α → β}
    (accords : reader.Accords twin cursor cursorTwin
      fun value other => post (change value) (twinChange other)) :
    Accords (change <$> reader) (twinChange <$> twin) cursor cursorTwin
      post := by
  rw [map_eq_pure_bind, map_eq_pure_bind]
  exact accords.bind (fun _ _ => .pure _) fun _ _ _ _ holds => .pure holds

theorem Accords.get {following twinFollowing : Cursor → Reader β}
    (rest : (following cursor).Accords (twinFollowing cursorTwin) cursor
      cursorTwin post) :
    Accords (MonadState.get >>= following) (MonadState.get >>= twinFollowing)
      cursor cursorTwin post :=
  rest

theorem Accords.lift {reader twin : Recovery α}
    (accords : reader.Accords twin cursor cursorTwin known) :
    Accords (liftM reader) (liftM twin) cursor cursorTwin known :=
  accords

theorem Accords.ite {condition twinCondition : Prop} [Decidable condition]
    [Decidable twinCondition] {second secondTwin : Reader α}
    (agree : twinCondition ↔ condition)
    (onTrue : condition → reader.Accords twin cursor cursorTwin known)
    (onFalse : ¬ condition →
      second.Accords secondTwin cursor cursorTwin known) :
    Accords (if condition then reader else second)
      (if twinCondition then twin else secondTwin) cursor cursorTwin known :=
  by
  by_cases holds : condition
  · rw [if_pos holds, if_pos (agree.2 holds)]
    exact onTrue holds
  · rw [if_neg holds, if_neg (mt agree.1 holds)]
    exact onFalse holds

end Reader

end PapyrusScript
