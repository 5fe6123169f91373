import PapyrusScript.Proofs.Alongside.Expression

/-!
# Leaving the row

A reader that goes on over several lines may use up the row and then sees
what is different behind it.  From there on nothing is known of the second
run, but the first has left the row for good: no reader goes back or takes
back a report.

Inside a block this shows.  What stands behind the row either belongs to the
block, and is passed, or it does not, and the block is reported.
-/

namespace PapyrusScript

variable {α β : Type}

namespace Cursor

variable {source middle target : Cursor}

/-- No token comes back and no report is taken back between two cursors. -/
structure Grows (source target : Cursor) : Prop where
  budget : target.budget.length ≤ source.budget.length
  reported : source.reported.length ≤ target.reported.length

/-- Something has happened between two cursors: a token was passed, or an
error reported. -/
structure Stirs (source target : Cursor) : Prop extends
    Grows source target where
  happens : target.budget.length < source.budget.length ∨
    source.reported.length < target.reported.length

theorem Grows.refl (cursor : Cursor) : cursor.Grows cursor :=
  ⟨Nat.le_refl _, Nat.le_refl _⟩

theorem Grows.trans
    (first : source.Grows middle) (second : middle.Grows target) :
    source.Grows target :=
  ⟨Nat.le_trans second.budget first.budget,
    Nat.le_trans first.reported second.reported⟩

theorem Stirs.trans_grows
    (first : source.Stirs middle) (second : middle.Grows target) :
    source.Stirs target := by
  refine ⟨first.toGrows.trans second, ?_⟩
  have fewer := second.budget
  have more := second.reported
  have happens := first.happens
  omega

/-- Where nothing has been reported, nothing had been before. -/
theorem Grows.silent
    (grows : source.Grows target) (silent : target.reported = []) :
    source.reported = [] := by
  have fewer := grows.reported
  rw [silent] at fewer
  exact List.eq_nil_of_length_eq_zero (Nat.le_zero.1 fewer)

theorem Grows.trans_stirs
    (first : source.Grows middle) (second : middle.Stirs target) :
    source.Stirs target := by
  refine ⟨first.trans second.toGrows, ?_⟩
  have fewer := first.budget
  have more := first.reported
  have happens := second.happens
  omega

theorem Move.grows {passed : List Token} (move : Move source passed target) :
    source.Grows target := by
  constructor
  · rw [move.budget_eq.1]
    simp
  · cases move with
    | discard =>
      unfold Cursor.discard
      split <;> simp
    | pass | reject | report | enter | leave => simp [Cursor.leave, Cursor.enter]

theorem Path.grows {passed : List Token} (path : Path source passed target) :
    source.Grows target := by
  induction path with
  | stay => exact .refl source
  | step _ move ih =>
    exact ih.trans move.grows

theorem Reaches.grows (reaches : source.Reaches target) :
    source.Grows target := by
  obtain ⟨⟨_, path⟩, _⟩ := reaches
  exact path.grows

theorem grows_report (cursor : Cursor) (diagnostic : Diagnostic) :
    cursor.Grows (cursor.report diagnostic) :=
  ⟨Nat.le_refl _, Nat.le_succ _⟩

theorem stirs_report (cursor : Cursor) (diagnostic : Diagnostic) :
    cursor.Stirs (cursor.report diagnostic) :=
  ⟨grows_report cursor diagnostic, .inr (Nat.lt_succ_self _)⟩

theorem Stirs.of_precedes
    (reaches : source.Reaches target) (passed : source.Precedes target) :
    source.Stirs target :=
  ⟨reaches.grows, .inl passed⟩

end Cursor

namespace Fork

variable {fork : Fork} {cursor twin after : Cursor}

/-- The cursor has passed the row. -/
structure Left (fork : Fork) (cursor : Cursor) : Prop where
  budget : cursor.budget.length ≤ fork.rest.length
  reported : fork.told.length ≤ cursor.reported.length

/-- The cursor has passed the row, and something has happened besides. -/
structure Marked (fork : Fork) (cursor : Cursor) : Prop extends
    Left fork cursor where
  happened : cursor.budget.length < fork.rest.length ∨
    fork.told.length < cursor.reported.length

theorem Left.grows (left : fork.Left cursor) (grows : cursor.Grows after) :
    fork.Left after :=
  ⟨Nat.le_trans grows.budget left.budget,
    Nat.le_trans left.reported grows.reported⟩

theorem Left.stirs (left : fork.Left cursor) (stirs : cursor.Stirs after) :
    fork.Marked after := by
  refine ⟨left.grows stirs.toGrows, ?_⟩
  have budget := left.budget
  have reported := left.reported
  have happens := stirs.happens
  omega

theorem Marked.grows
    (marked : fork.Marked cursor) (grows : cursor.Grows after) :
    fork.Marked after := by
  refine ⟨marked.toLeft.grows grows, ?_⟩
  have budget := grows.budget
  have reported := grows.reported
  have happened := marked.happened
  omega

theorem Along.cases_left (along : fork.Along cursor twin) :
    fork.Amid cursor twin ∨ fork.Left cursor := by
  rcases along.cases with amid | ⟨here, _⟩
  · exact .inl amid
  · refine .inr ⟨Nat.le_of_eq (congrArg List.length here), ?_⟩
    obtain ⟨_, faces⟩ := along
    obtain ⟨news, reported, _⟩ := faces.reported
    simp [reported]

def Told (fork : Fork) (cursor : Cursor) : Prop :=
  fork.told.length < cursor.reported.length

theorem Left.marked (left : fork.Left cursor) (told : fork.Told cursor) :
    fork.Marked cursor :=
  ⟨left, .inr told⟩

theorem Along.told {after : Cursor} (along : fork.Along cursor twin)
    (more : cursor.reported.length < after.reported.length) :
    fork.Told after := by
  obtain ⟨_, faces⟩ := along
  obtain ⟨news, reported, _⟩ := faces.reported
  rw [reported, List.length_append] at more
  unfold Told
  omega

end Fork

/-! ## Readers that may leave the row -/

/-- Both runs do the same unless the first leaves the row, which a fact about
its answer and its cursor says. -/
def Recovery.AgreesUnless
    (reader : Recovery α) (lost : α → Cursor → Prop) (cursor twin : Cursor)
    (post : α → Cursor → Cursor → Prop) : Prop :=
  reader.Ends cursor lost ∨ reader.Agrees cursor twin post

def Reader.AgreesUnless (reader : Reader α) (fork : Fork) (lost : Cursor → Prop)
    (cursor twin : Cursor) (post : α → Cursor → Cursor → Prop) : Prop :=
  reader.run.Ends cursor (fun _ after => lost after) ∨
    reader.Agrees fork cursor twin post

namespace Recovery

open Reader

variable {fork : Fork} {cursor twin : Cursor} {lost : β → Cursor → Prop}
  {post : β → Cursor → Cursor → Prop}
variable {known : α → Cursor → Cursor → Prop} {following : α → Recovery β}

theorem AgreesUnless.congr {reader other : Recovery β}
    (here : reader.run cursor = other.run cursor)
    (there : reader.run twin = other.run twin)
    (agrees : other.AgreesUnless lost cursor twin post) :
    reader.AgreesUnless lost cursor twin post := by
  unfold AgreesUnless Ends at *
  rw [here]
  exact agrees.imp_right (.congr here there)

theorem AgreesUnless.look {following : Cursor → Recovery β}
    (same : following twin = following cursor)
    (agrees : (following cursor).AgreesUnless lost cursor twin post) :
    AgreesUnless (get >>= following) lost cursor twin post := by
  rcases agrees with left | agrees
  · exact .inl left
  · exact .inr (.look same agrees)

theorem AgreesUnless.take
    {following : Token → Recovery β} (amid : fork.Amid cursor twin)
    (agrees : (following cursor.current).AgreesUnless lost cursor.next
      twin.next post) :
    AgreesUnless (advance >>= following) lost cursor twin post := by
  rcases agrees with left | agrees
  · exact .inl left
  · exact .inr (.take amid agrees)

theorem AgreesUnless.mono {reader : Recovery β} {weakerLost : β → Cursor → Prop}
    {weaker : β → Cursor → Cursor → Prop}
    (agrees : reader.AgreesUnless lost cursor twin post)
    (onLost : ∀ value after, lost value after → weakerLost value after)
    (onBoth : ∀ value after twinAfter, post value after twinAfter →
      weaker value after twinAfter) :
    reader.AgreesUnless weakerLost cursor twin weaker := by
  rcases agrees with left | agrees
  · exact .inl (left.mono onLost)
  · exact .inr (agrees.mono onBoth)

/-- What is known of the first run alone, whether it leaves the row or not. -/
theorem AgreesUnless.and_ends {reader : Recovery β} {fact : β → Cursor → Prop}
    (agrees : reader.AgreesUnless lost cursor twin post)
    (ends : reader.Ends cursor fact) :
    reader.AgreesUnless (fun value after => lost value after ∧ fact value after)
      cursor twin
      fun value after twinAfter => post value after twinAfter ∧
        fact value after := by
  rcases agrees with left | agrees
  · exact .inl (left.and ends)
  · exact .inr (agrees.and_ends ends)

/-- Where the first reader leaves the row, the second one keeps what is known.
-/
theorem AgreesUnless.bind {reader : Recovery α} {lostFirst : α → Cursor → Prop}
    (first : reader.AgreesUnless lostFirst cursor twin known)
    (rest : ∀ value after twinAfter, known value after twinAfter →
      (following value).AgreesUnless lost after twinAfter post)
    (keeps : ∀ value after, lostFirst value after →
      (following value).Ends after lost) :
    AgreesUnless (reader >>= following) lost cursor twin post := by
  rcases first with left | ⟨same, holds⟩
  · exact .inl (keeps _ _ left)
  · rcases rest _ _ _ holds with left | agrees
    · exact .inl left
    · right
      show ((following (reader.run twin).1).run (reader.run twin).2).1 = _ ∧
        post _ _ ((following (reader.run twin).1).run (reader.run twin).2).2
      rw [same]
      exact agrees

theorem Agrees.bindUnless
    {reader : Recovery α} (first : reader.Agrees cursor twin known)
    (rest : ∀ value after twinAfter, known value after twinAfter →
      (following value).AgreesUnless lost after twinAfter post) :
    AgreesUnless (reader >>= following) lost cursor twin post := by
  have within : reader.AgreesUnless (fun _ _ => False) cursor twin known :=
    .inr first
  exact within.bind rest fun _ _ never => never.elim

/-- Both answers of a reader that may fail are followed. -/
theorem AgreesUnless.run_bind
    {reader : Reader α} {following : Except Diagnostic α → Recovery β}
    {lostFirst : Cursor → Prop}
    (first : reader.AgreesUnless fork lostFirst cursor twin known)
    (onValue : ∀ value after twinAfter, known value after twinAfter →
      (following (.ok value)).AgreesUnless lost after twinAfter post)
    (onError : ∀ diagnostic after twinAfter,
      fork.Fails diagnostic after twinAfter →
        (following (.error diagnostic)).AgreesUnless lost after twinAfter post)
    (keeps : ∀ answer after, lostFirst after →
      (following answer).Ends after lost) :
    AgreesUnless (reader.run >>= following) lost cursor twin post := by
  apply AgreesUnless.bind first
  · intro answer after twinAfter holds
    cases answer with
    | ok value => exact onValue value after twinAfter holds
    | error diagnostic => exact onError diagnostic after twinAfter holds
  · exact keeps

theorem AgreesUnless.inBlock {block : Block} {body : Recovery β}
    (agrees : body.AgreesUnless (fun value after => lost value after.leave)
      (cursor.enter block) (twin.enter block)
      fun value after twinAfter => post value after.leave twinAfter.leave) :
    AgreesUnless (Reader.inBlock block body) lost cursor twin post :=
  agrees

/-- The runs of a loop agree as long as those of its steps do.  A step that
leaves the row need not be the last, but the later ones keep to that. -/
theorem AgreesUnless.loop {step : β → Recovery (Step β)}
    (invariant : β → Cursor → Cursor → Prop) (left : Cursor → Prop)
    (proceeds : ∀ value cursor, (step value).Proceeds cursor)
    (steps : ∀ value cursor twin, invariant value cursor twin →
      (step value).AgreesUnless (Step.Settles (fun _ => left) lost) cursor twin
        (Step.Parts invariant post))
    (keeps : ∀ value cursor, left cursor →
      (step value).Ends cursor (Step.Settles (fun _ => left) lost))
    {value : β} (holds : invariant value cursor twin) :
    AgreesUnless
      (get >>= fun cursor => PapyrusScript.loop step cursor.budget value)
      lost cursor twin post := by
  induction value, cursor using loop_induction proceeds generalizing twin with
  | back value cursor ih =>
    rcases steps _ _ _ holds with ends | agrees
    · refine .inl ((ends_loop proceeds value cursor lost).2 (ends.mono ?_))
      intro decision between settled
      cases decision with
      | done final => exact settled
      | again following =>
        exact ends_loop_of_keeps _ proceeds keeps following settled
    · cases here : (step value).run cursor with
      | mk decision between =>
        obtain ⟨twinBetween, there, known⟩ := agrees.of_run here
        unfold AgreesUnless Agrees Ends
        rw [run_loop proceeds, run_loop proceeds, here, there]
        cases decision with
        | done final => exact .inr ⟨rfl, known⟩
        | again following => exact ih following between here known

/-- A loop may leave the row, and so may what follows it. -/
theorem AgreesUnless.loop_bind
    {step : α → Recovery (Step α)} {value : α} {lostFirst : α → Cursor → Prop}
    (first : AgreesUnless
      (get >>= fun cursor => PapyrusScript.loop step cursor.budget value)
      lostFirst cursor twin known)
    (rest : ∀ value after twinAfter, known value after twinAfter →
      (following value).AgreesUnless lost after twinAfter post)
    (keeps : ∀ value after, lostFirst value after →
      (following value).Ends after lost) :
    AgreesUnless
      (get >>= fun cursor =>
        PapyrusScript.loop step cursor.budget value >>= following)
      lost cursor twin post := by
  show AgreesUnless
    ((get >>= fun cursor => PapyrusScript.loop step cursor.budget value) >>=
      following) lost cursor twin post
  exact first.bind rest keeps

/-! ## What keeps to the first run -/

def Grows (reader : Recovery α) (cursor : Cursor) : Prop :=
  reader.Ends cursor fun _ after => cursor.Grows after

def Stirs (reader : Recovery α) (cursor : Cursor) : Prop :=
  reader.Ends cursor fun _ after => cursor.Stirs after

def Tells (reader : Recovery α) (cursor : Cursor) : Prop :=
  reader.Ends cursor fun _ after =>
    cursor.reported.length < after.reported.length

theorem Stirs.get {following : Cursor → Recovery α}
    (stirs : (following cursor).Stirs cursor) :
    Stirs (get >>= following) cursor :=
  stirs

section Growing

variable {reader : Recovery α} {following : α → Recovery β}
variable {expected : String}

theorem Travels.grows (travels : reader.Travels cursor) : reader.Grows cursor :=
  travels.mono fun _ _ reaches => reaches.grows

theorem Advances.stirs (advances : reader.Advances cursor) :
    reader.Stirs cursor :=
  advances.mono fun _ _ reached => .of_precedes reached.1 reached.2

theorem Grows.pure (value : α) : Grows (Pure.pure value) cursor :=
  Cursor.Grows.refl cursor

theorem Grows.bind (first : reader.Grows cursor)
    (rest : ∀ value after, (following value).Grows after) :
    Grows (reader >>= following) cursor := by
  unfold Grows at *
  rw [ends_bind]
  exact first.mono fun value after grows =>
    (rest value after).mono fun _ _ more => grows.trans more

theorem Stirs.bind (first : reader.Stirs cursor)
    (rest : ∀ value after, (following value).Grows after) :
    Stirs (reader >>= following) cursor := by
  unfold Stirs Grows at *
  rw [ends_bind]
  exact first.mono fun value after stirs =>
    (rest value after).mono fun _ _ more => stirs.trans_grows more

theorem Grows.bind_stirs (first : reader.Grows cursor)
    (rest : ∀ value after, (following value).Stirs after) :
    Stirs (reader >>= following) cursor := by
  unfold Stirs Grows at *
  rw [ends_bind]
  exact first.mono fun value after grows =>
    (rest value after).mono fun _ _ stirs => grows.trans_stirs stirs

theorem Stirs.unexpected {following : Diagnostic → Recovery β}
    (stirs : ∀ diagnostic, (following diagnostic).Stirs cursor) :
    Stirs (Reader.unexpected expected >>= following) cursor :=
  stirs _

theorem stirs_reportUnterminated (block : Block) (opener : Token) :
    Stirs (reportUnterminated block opener) cursor :=
  Cursor.stirs_report cursor _

theorem Tells.report {diagnostic : Diagnostic} {following : Unit → Recovery β}
    (grows : ∀ cursor, (following ()).Grows cursor) :
    Tells (Reader.report diagnostic >>= following) cursor := by
  unfold Tells
  rw [ends_bind, ends_report]
  apply Ends.mono (grows (cursor.report diagnostic))
  exact fun _ _ grown => Nat.lt_of_lt_of_le (Nat.lt_succ_self _) grown.reported

theorem Tells.bind {reader : Recovery α} {following : α → Recovery β}
    (tells : reader.Tells cursor)
    (grows : ∀ value cursor, (following value).Grows cursor) :
    Tells (reader >>= following) cursor := by
  unfold Tells
  apply Ends.bind tells
  intro value after told
  apply Ends.mono (grows value after)
  exact fun _ _ grown => Nat.lt_of_lt_of_le told grown.reported

theorem tells_reportUnterminated (block : Block) (opener : Token) :
    Tells (reportUnterminated block opener) cursor :=
  Nat.lt_succ_self _

theorem tells_complain (position : Position) (cause : Cause) :
    Tells (complain position cause) cursor :=
  Nat.lt_succ_self _

theorem tells_reportAndSkipLine (diagnostic : Diagnostic) :
    Tells (reportAndSkipLine diagnostic) cursor :=
  .report fun cursor => (travels_skipLine cursor).grows

theorem Grows.reported_eq_nil (grows : reader.Grows cursor)
    (silent : (reader.run cursor).2.reported = []) : cursor.reported = [] :=
  Cursor.Grows.silent grows silent

theorem Tells.reported_ne_nil
    (tells : reader.Tells cursor) : (reader.run cursor).2.reported ≠ [] := by
  intro silent
  have more : cursor.reported.length < (reader.run cursor).2.reported.length :=
    tells
  rw [silent] at more
  exact Nat.not_lt_zero _ more

theorem Grows.bind_tells (first : reader.Grows cursor)
    (rest : ∀ value after, (following value).Tells after) :
    Tells (reader >>= following) cursor := by
  apply Ends.bind first
  intro value after grows
  apply Ends.mono (rest value after)
  exact fun _ _ more => Nat.lt_of_le_of_lt grows.reported more

theorem Grows.get
    {following : Cursor → Recovery β} (grows : (following cursor).Grows cursor) :
    Grows (MonadState.get >>= following) cursor :=
  grows

theorem Tells.get
    {following : Cursor → Recovery β} (tells : (following cursor).Tells cursor) :
    Tells (MonadState.get >>= following) cursor :=
  tells

theorem Grows.unexpected {following : Diagnostic → Recovery β}
    (grows : ∀ diagnostic, (following diagnostic).Grows cursor) :
    Grows (Reader.unexpected expected >>= following) cursor :=
  grows _

theorem Tells.unexpected {following : Diagnostic → Recovery β}
    (tells : ∀ diagnostic, (following diagnostic).Tells cursor) :
    Tells (Reader.unexpected expected >>= following) cursor :=
  tells _

theorem grows_advance : advance.Grows cursor :=
  ⟨forward_advance cursor,
    Nat.le_of_eq (congrArg _ (Cursor.reported_next cursor).symm)⟩

theorem Grows.run_bind
    {reader : Reader α} {following : Except Diagnostic α → Recovery β}
    (travels : reader.Travels cursor)
    (rest : ∀ answer after, (following answer).Grows after) :
    Grows (reader.run >>= following) cursor :=
  travels.run.grows.bind rest

theorem Grows.left (grows : reader.Grows cursor) (left : fork.Left cursor) :
    reader.Ends cursor fun _ => fork.Left :=
  Ends.mono grows fun _ _ => left.grows

theorem Grows.marked
    (grows : reader.Grows cursor) (marked : fork.Marked cursor) :
    reader.Ends cursor fun _ => fork.Marked :=
  Ends.mono grows fun _ _ => marked.grows

theorem Stirs.marked (stirs : reader.Stirs cursor) (left : fork.Left cursor) :
    reader.Ends cursor fun _ => fork.Marked :=
  Ends.mono stirs fun _ _ => left.stirs

end Growing

/-- A reader passes a token before it succeeds, and otherwise something else
happens. -/
theorem stirs_run_bind
    {reader : Reader α} {following : Except Diagnostic α → Recovery β}
    (advances : reader.Advances cursor)
    (onValue : ∀ value after, (following (.ok value)).Grows after)
    (onError : ∀ diagnostic after,
      (following (.error diagnostic)).Stirs after) :
    Stirs (reader.run >>= following) cursor := by
  unfold Stirs
  rw [ends_bind, ends_run]
  apply Reader.Ends.mono advances
  · intro value after passed
    have stirs := Cursor.Stirs.of_precedes passed.1 passed.2
    exact (onValue value after).mono fun _ _ grows => stirs.trans_grows grows
  · intro diagnostic after refused
    exact (onError diagnostic after).mono fun _ _ stirs =>
      refused.1.grows.trans_stirs stirs

/-! ## Line breaks -/

theorem run_passNewline_of_kind (breaks : cursor.kind = .newline) :
    (passNewline ()).run cursor = (.again (), cursor.next) := by
  unfold passNewline
  show (if cursor.kind = .newline then _ else _ : Recovery _).run cursor = _
  rw [if_pos breaks]
  rfl

theorem run_passNewline_of_ne (other : cursor.kind ≠ .newline) :
    (passNewline ()).run cursor = (.done (), cursor) := by
  unfold passNewline
  show (if cursor.kind = .newline then _ else _ : Recovery _).run cursor = _
  rw [if_neg other]
  rfl

theorem ends_skipNewlines (cursor : Cursor) :
    skipNewlines.Ends cursor fun _ after => after.kind ≠ .newline := by
  have step (value : Unit) (cursor : Cursor) (_ : True) :
      (passNewline value).Ends cursor
        (Step.Settles (fun _ _ => True) fun _ after =>
          after.kind ≠ .newline) := by
    unfold Ends
    by_cases breaks : cursor.kind = .newline
    · rw [run_passNewline_of_kind breaks]
      trivial
    · rw [run_passNewline_of_ne breaks]
      exact breaks
  exact ends_loop_of_keeps _ proceeds_passNewline step () trivial

theorem run_skipNewlines_of_ne (other : cursor.kind ≠ .newline) :
    skipNewlines.run cursor = ((), cursor) := by
  have finished := terminates_of_proceeds proceeds_passNewline () cursor
  obtain ⟨_, sameCursor⟩ :=
    finished.unique (.done (run_passNewline_of_ne other))
  exact Prod.ext rfl sameCursor

theorem run_skipNewlines_bind_of_ne
    (following : Unit → Recovery α) (other : cursor.kind ≠ .newline) :
    (skipNewlines >>= following).run cursor = (following ()).run cursor := by
  have split : (skipNewlines >>= following).run cursor =
      (following ()).run (skipNewlines.run cursor).2 :=
    rfl
  rw [split, run_skipNewlines_of_ne other]

/-- Line breaks that have been passed need not be passed again. -/
theorem run_skipNewlines_bind
    (following : Unit → Recovery α) (cursor : Cursor) :
    (skipNewlines >>= following).run cursor =
      (skipNewlines >>= following).run
        (skipNewlines.run cursor).2 := by
  have again := run_skipNewlines_of_ne (ends_skipNewlines cursor)
  have split (cursor : Cursor) :
      (skipNewlines >>= following).run cursor =
        (following ()).run (skipNewlines.run cursor).2 :=
    rfl
  rw [split, split, again]

/-- A line that follows line breaks, which may be the last of the row. -/
theorem agreesUnless_afterNewlines
    {following : Unit → Recovery β} (along : fork.Along cursor twin)
    (rest : ∀ cursor twin, fork.Amid cursor twin →
      (following ()).AgreesUnless lost cursor twin post)
    (keeps : ∀ cursor, fork.Left cursor →
      (skipNewlines >>= following).Ends cursor lost) :
    AgreesUnless (skipNewlines >>= following) lost cursor twin
      post := by
  have settled (value : Unit) (cursor : Cursor) (left : fork.Left cursor) :
      (passNewline value).Ends cursor
        (Step.Settles (fun _ => fork.Left) fun _ => fork.Left) := by
    apply ((proceeds_passNewline value cursor).travels.grows.left left).mono
    intro decision after left
    cases decision <;> exact left
  have breaks : skipNewlines.AgreesUnless (fun _ => fork.Left) cursor
      twin fun _ => fork.Amid := by
    apply AgreesUnless.loop (fun _ => fork.Along) fork.Left
      proceeds_passNewline ?_ settled along
    intro value cursor twin along
    rcases along.cases_left with amid | left
    · right
      apply Agrees.look (by simp only [amid.kind])
      split
      · rename_i found
        exact .take amid (.pure (amid.next_along (by simp [found])))
      · exact .pure amid
    · exact .inl (settled value cursor left)
  rcases breaks with left | agrees
  · left
    have ends := keeps _ left
    unfold Ends at *
    rw [run_skipNewlines_bind]
    exact ends
  · exact agrees.bindUnless fun _ => rest

end Recovery

namespace Reader

variable {fork : Fork} {cursor twin : Cursor} {lost : Cursor → Prop}
  {post : β → Cursor → Cursor → Prop}
variable {known : α → Cursor → Cursor → Prop} {reader : Reader α}
  {following : α → Reader β}

theorem AgreesUnless.mono {reader : Reader β} {weakerLost : Cursor → Prop}
    {weaker : β → Cursor → Cursor → Prop}
    (agrees : reader.AgreesUnless fork lost cursor twin post)
    (onLost : ∀ after, lost after → weakerLost after)
    (onBoth : ∀ value after twinAfter, post value after twinAfter →
      weaker value after twinAfter) :
    reader.AgreesUnless fork weakerLost cursor twin weaker := by
  rcases agrees with left | agrees
  · exact .inl (left.mono fun _ => onLost)
  · exact .inr (agrees.mono onBoth)

theorem AgreesUnless.look {following : Cursor → Reader β}
    (same : following twin = following cursor)
    (agrees : (following cursor).AgreesUnless fork lost cursor twin post) :
    AgreesUnless (get >>= following) fork lost cursor twin post := by
  rcases agrees with left | agrees
  · exact .inl left
  · exact .inr (.look same agrees)

theorem AgreesUnless.lift {reader : Recovery β}
    (agrees : reader.AgreesUnless (fun _ => lost) cursor twin post) :
    AgreesUnless (liftM reader) fork lost cursor twin post := by
  rcases agrees with left | agrees
  · exact .inl left
  · exact .inr (.lift agrees)

/-- Where the first reader leaves the row, nothing is asked of the second. -/
theorem AgreesUnless.bind {lostFirst : Cursor → Prop}
    (first : reader.AgreesUnless fork lostFirst cursor twin known)
    (rest : ∀ value after twinAfter, known value after twinAfter →
      (following value).AgreesUnless fork lost after twinAfter post)
    (failed : ∀ after, lostFirst after → lost after)
    (keeps : ∀ value after, lostFirst after →
      (following value).run.Ends after fun _ => lost) :
    AgreesUnless (reader >>= following) fork lost cursor twin post := by
  unfold AgreesUnless Agrees
  rw [ExceptT.run_bind]
  apply Recovery.AgreesUnless.bind first
  · intro answer after twinAfter holds
    cases answer with
    | ok value => exact rest value after twinAfter holds
    | error diagnostic => exact .inr ⟨rfl, holds⟩
  · intro answer after gone
    cases answer with
    | ok value => exact keeps value after gone
    | error diagnostic => exact failed after gone

theorem Agrees.bindUnless (first : reader.Agrees fork cursor twin known)
    (rest : ∀ value after twinAfter, known value after twinAfter →
      (following value).AgreesUnless fork lost after twinAfter post) :
    AgreesUnless (reader >>= following) fork lost cursor twin post := by
  have within : reader.AgreesUnless fork (fun _ => False) cursor twin known :=
    .inr first
  exact within.bind rest (fun _ never => never.elim)
    fun _ _ never => never.elim

theorem AgreesUnless.map {change : α → β}
    (agrees : reader.AgreesUnless fork lost cursor twin
      fun value after twinAfter => post (change value) after twinAfter) :
    AgreesUnless (change <$> reader) fork lost cursor twin post := by
  rw [map_eq_pure_bind]
  exact agrees.bind (fun _ _ _ holds => .inr (.pure holds))
    (fun _ gone => gone) fun _ _ gone => gone

/-! ## Ends of declarations -/

def AgreesOrFails (reader : Reader α) (fork : Fork) (failed : Cursor → Prop)
    (cursor twin : Cursor) (post : α → Cursor → Cursor → Prop) : Prop :=
  reader.Ends cursor (fun _ _ => False) (fun _ => failed) ∨
    reader.Agrees fork cursor twin post

theorem Agrees.bindOrFails
    {failed : Cursor → Prop} {post : β → Cursor → Cursor → Prop}
    (first : reader.Agrees fork cursor twin known)
    (rest : ∀ value after twinAfter, known value after twinAfter →
      (following value).AgreesOrFails fork failed after twinAfter post) :
    AgreesOrFails (reader >>= following) fork failed cursor twin post := by
  unfold AgreesOrFails Agrees Ends at *
  rw [ExceptT.run_bind]
  apply Recovery.Agrees.bindUnless first
  intro answer after twinAfter holds
  cases answer with
  | ok value => exact rest value after twinAfter holds
  | error diagnostic => exact .inr ⟨rfl, holds⟩

/-- A comment behind the row is refused, because its line goes on. -/
theorem fails_docComment (plain : fork.Plain) (here : cursor.budget = fork.rest)
    (doc : cursor.kind = .docComment) (context : String) :
    (endOfLine context).Ends cursor.next (fun _ _ => False)
      fun _ after => after.budget.length < fork.rest.length := by
  obtain ⟨next, others, more, inLine⟩ := plain.rest _ _ here.symm doc
  have inside : cursor.kind ≠ .endOfText := by
    rw [doc]
    nofun
  have place : cursor.budget = cursor.current :: next :: others :=
    congrArg (List.cons cursor.current) more
  have kind := Cursor.kind_of_budget (Cursor.budget_next_of_budget place inside)
  simp only [Kind.endsLine, Bool.or_eq_false_iff, decide_eq_false_iff_not]
    at inLine
  unfold endOfLine
  rw [ends_bind, ends_get, kind]
  split
  · rename_i found
    exact absurd found inLine.1
  · rename_i found
    exact absurd found inLine.2
  · rw [ends_reject, ← here, Cursor.budget_eq_cons_next inside]
    exact Nat.lt_succ_self _

/-- Both runs pass the end of the line, unless the first takes a comment
behind the row.  Then it fails. -/
theorem agreesOrFails_endOfDeclaration
    (plain : fork.Plain) (amid : fork.Amid cursor twin) (context : String) :
    (endOfDeclaration context).AgreesOrFails fork
      (fun after => fork.Documented ∧ after.budget.length < fork.rest.length)
      cursor twin fun _ => fork.Along := by
  by_cases found : cursor.kind = .docComment
  · have next := amid.next (by rw [found]; rfl)
    right
    apply Agrees.look (by simp only [amid.kind])
    rw [if_pos found]
    apply Agrees.take amid
    apply (agrees_endOfLine next context).bind
    exact fun _ _ _ along => .pure along
  · have split : (endOfLine context >>= fun _ => do
        if (← get).kind = .docComment then
          let doc ← advance
          endOfLine "documentation comment"
          return some doc.text
        else
          return none : Reader (Option String)).AgreesOrFails fork
        (fun after => fork.Documented ∧ after.budget.length < fork.rest.length)
        cursor twin fun _ => fork.Along := by
      apply (agrees_endOfLine amid context).bindOrFails
      intro _ cursor twin along
      rcases along.docComment plain with
        amid | ⟨documented, here, doc⟩ | ⟨none, noneToo⟩
      · right
        apply Agrees.look (by simp only [amid.kind])
        split
        · rename_i found
          have next := amid.next (by rw [found]; rfl)
          apply Agrees.take amid
          apply (agrees_endOfLine next _).bind
          exact fun _ _ _ along => .pure along
        · exact .pure along
      · left
        rw [ends_bind, ends_get, if_pos doc, ends_bind, ends_lift,
          Recovery.ends_advance, ends_bind]
        apply (fails_docComment plain here doc _).mono
        · exact fun _ _ never => never
        · exact fun _ _ fewer => ⟨documented, fewer⟩
      · right
        apply Agrees.look (by simp only [none, noneToo])
        rw [if_neg none]
        exact .pure along
    rcases split with failed | agrees
    · left
      unfold endOfDeclaration
      rw [ends_bind, ends_get, if_neg found]
      exact failed
    · right
      apply Agrees.look (by simp only [amid.kind])
      rw [if_neg found]
      exact agrees

end Reader

end PapyrusScript
