import PapyrusScript.Proofs.Path

/-!
# Where readers take the cursor

Every reader takes the cursor along a path and leaves the open blocks as they
were.  When it fails, its diagnostic blames the token it stopped at, so that
the recovery after it knows whether that token has been reported.

The lemmas below compose these facts along the steps of a reader.  Each of them
may name a sort of errors of which none is reported on the way.
-/

namespace PapyrusScript

open Cursor

variable {α β : Type} {sort : Cause → Bool}

def Step.isAgain : Step α → Bool
  | .again _ => true
  | .done _ => false

namespace Recovery

def Travels (reader : Recovery α) (cursor : Cursor)
    (sort : Cause → Bool := Cause.isNone) : Prop :=
  reader.Ends cursor fun _ after => cursor.Reaches after sort

def Advances (reader : Recovery α) (cursor : Cursor)
    (sort : Cause → Bool := Cause.isNone) : Prop :=
  reader.Ends cursor fun _ after =>
    cursor.Reaches after sort ∧ cursor.Precedes after

/-- The step of a loop takes the cursor along a path, and passes a token if
the loop goes on. -/
def Proceeds (step : Recovery (Step α)) (cursor : Cursor)
    (sort : Cause → Bool := Cause.isNone) : Prop :=
  step.Ends cursor fun decision after =>
    cursor.Reaches after sort ∧ (decision.isAgain = true → cursor.Precedes after)

/-- The reader passes an invalid token that has just been reported without
reporting it once more. -/
def Resumes (reader : Recovery α) (cursor : Cursor)
    (sort : Cause → Bool := Cause.isNone) : Prop :=
  cursor.kind.isInvalid = true →
    cursor.lastLexical = some cursor.position →
      reader.Ends cursor fun _ after => cursor.next.Reaches after sort

variable {reader : Recovery α} {following : α → Recovery β} {cursor : Cursor}

theorem Advances.travels (advances : reader.Advances cursor sort) :
    reader.Travels cursor sort :=
  advances.1

theorem Travels.unsorted (travels : reader.Travels cursor sort) :
    reader.Travels cursor :=
  Reaches.unsorted travels

theorem Proceeds.travels
    {step : Recovery (Step α)} (proceeds : step.Proceeds cursor sort) :
    step.Travels cursor sort :=
  proceeds.1

theorem Travels.pure (value : α) : Travels (Pure.pure value) cursor sort :=
  Reaches.refl cursor

theorem Travels.get {following : Cursor → Recovery β}
    (travels : (following cursor).Travels cursor sort) :
    Travels (get >>= following) cursor sort :=
  travels

theorem Advances.get {following : Cursor → Recovery β}
    (advances : (following cursor).Advances cursor sort) :
    Advances (MonadState.get >>= following) cursor sort :=
  advances

theorem Proceeds.get {following : Cursor → Recovery (Step β)}
    (proceeds : (following cursor).Proceeds cursor sort) :
    Proceeds (MonadState.get >>= following) cursor sort :=
  proceeds

theorem Travels.bind (first : reader.Travels cursor sort)
    (rest : ∀ value after, (following value).Travels after sort) :
    Travels (reader >>= following) cursor sort :=
  first.trans (rest _ _)

theorem Advances.bind (first : reader.Advances cursor sort)
    (rest : ∀ value after, (following value).Travels after sort) :
    Advances (reader >>= following) cursor sort :=
  ⟨first.1.trans (rest _ _), first.2.trans_reaches (rest _ _)⟩

theorem Proceeds.done (value : α) :
    Proceeds (Pure.pure (Step.done value)) cursor sort :=
  ⟨Reaches.refl cursor, fun again => by cases again⟩

theorem Proceeds.again
    {step : Recovery (Step α)} (advances : step.Advances cursor sort) :
    step.Proceeds cursor sort :=
  ⟨advances.1, fun _ => advances.2⟩

theorem Travels.proceeds (travels : reader.Travels cursor sort) (value : α → β) :
    Proceeds (reader >>= fun found => Pure.pure (Step.done (value found)))
      cursor sort :=
  ⟨travels, fun again => by cases again⟩

theorem Travels.bind_proceeds {following : α → Recovery (Step β)}
    (first : reader.Travels cursor sort)
    (rest : ∀ value after, (following value).Proceeds after sort) :
    Proceeds (reader >>= following) cursor sort :=
  ⟨first.trans (rest _ _).1, fun again =>
    Reaches.trans_precedes first ((rest _ _).2 again)⟩

theorem travels_loop {step : α → Recovery (Step α)}
    (proceeds : ∀ value cursor, (step value).Proceeds cursor sort)
    (budget : List Token) (value : α) (cursor : Cursor) :
    (loop step budget value).Travels cursor sort := by
  induction budget generalizing value cursor with
  | nil => exact .pure value
  | cons _ budget ih =>
    refine (proceeds value cursor).travels.bind fun decision after => ?_
    cases decision with
    | again following => exact ih following after
    | done final => exact .pure final

theorem advances_loop {step : α → Recovery (Step α)} {value : α}
    (proceeds : ∀ value cursor, (step value).Proceeds cursor sort)
    (advances : (step value).Advances cursor sort) :
    (loop step cursor.budget value).Advances cursor sort := by
  refine advances.bind fun decision after => ?_
  cases decision with
  | again following => exact travels_loop proceeds _ following after
  | done final => exact .pure final

theorem travels_inBlock {body : Recovery α} (block : Block)
    (travels : ∀ cursor, body.Travels cursor sort) (cursor : Cursor) :
    (Reader.inBlock block body).Travels cursor sort :=
  (travels (cursor.enter block)).inBlock

theorem advances_advance (ordinary : cursor.kind.isOrdinary = true) :
    Reader.advance.Advances cursor sort :=
  ⟨reaches_next ordinary,
    precedes_next (Kind.ne_endOfText_of_isOrdinary ordinary)⟩

/-- A token whose kind has been looked at may be passed if the kind is an
ordinary one. -/
theorem advances_of_kind {kind : Kind} (found : cursor.kind = kind)
    (ordinary : kind.isOrdinary = true) :
    Reader.advance.Advances cursor sort :=
  advances_advance (found ▸ ordinary)

theorem travels_report {diagnostic : Diagnostic}
    (syntactic : diagnostic.cause.isLexical = false)
    (other : sort diagnostic.cause = false) :
    (Reader.report diagnostic).Travels cursor sort :=
  reaches_report syntactic other

theorem travels_complain [Cause.Outer sort]
    {cause : Cause} (inner : cause.isInner = true) (position : Position) :
    (Reader.complain position cause).Travels cursor sort :=
  travels_report (Cause.isLexical_of_isInner inner)
    (Cause.Outer.spares_isInner inner)

theorem Advances.complain [Cause.Outer sort]
    {cause : Cause} (inner : cause.isInner = true) (position : Position)
    (advances : reader.Advances (cursor.report ⟨position, cause⟩) sort) :
    Advances (Reader.complain position cause >>= fun _ => reader) cursor sort :=
  ⟨(travels_complain inner position).trans advances.1, advances.2⟩

theorem travels_reportUnterminated (block : Block) (opener : Token) :
    (Reader.reportUnterminated block opener).Travels cursor :=
  .get (travels_report rfl rfl)

/-- Reporting the error of a reader that has just failed, and then skipping
text, amounts to rejecting the token it stopped at. -/
theorem Travels.report
    {diagnostic : Diagnostic} (blames : Blames diagnostic cursor sort)
    (travels : reader.Travels (cursor.report diagnostic) sort)
    (resumes : reader.Resumes (cursor.report diagnostic) sort) :
    Travels (Reader.report diagnostic >>= fun _ => reader) cursor sort := by
  cases lexical : diagnostic.cause.isLexical with
  | false => exact (reaches_report lexical blames.other).trans travels
  | true =>
    have other := blames.other
    obtain ⟨invalid, rfl⟩ := blames.lexical lexical
    have reported := lastLexical_report_lexicalReport invalid
    have rejected : cursor.Reaches
        (cursor.report cursor.current.lexicalReport).next sort :=
      .of_move (.reject cursor invalid) (by simp)
        (by rw [reportsOf_next, reportsOf_report _ other])
    exact rejected.trans (resumes invalid reported)

theorem Advances.report
    {diagnostic : Diagnostic} (blames : Blames diagnostic cursor sort)
    (advances : reader.Advances (cursor.report diagnostic) sort)
    (resumes : reader.Resumes (cursor.report diagnostic) sort) :
    Advances (Reader.report diagnostic >>= fun _ => reader) cursor sort :=
  ⟨Travels.report blames advances.travels resumes, advances.2⟩

theorem Resumes.bind
    (first : reader.Resumes cursor sort)
    (rest : ∀ value after, (following value).Travels after sort) :
    Resumes (reader >>= following) cursor sort := by
  intro invalid reported
  exact (first invalid reported).trans (rest _ _)

end Recovery

/-! ## Readers that may fail -/

/-- The reader takes the cursor along a path, and a diagnostic blames the
token it stopped at. -/
def Reader.Travels (reader : Reader α) (cursor : Cursor)
    (sort : Cause → Bool := Cause.isNone) : Prop :=
  reader.Ends cursor (fun _ after => cursor.Reaches after sort)
    (fun diagnostic after =>
      cursor.Reaches after sort ∧ Blames diagnostic after sort)

/-- The reader travels, and passes a token before it returns a value. -/
def Reader.Advances (reader : Reader α) (cursor : Cursor)
    (sort : Cause → Bool := Cause.isNone) : Prop :=
  reader.Ends cursor
    (fun _ after => cursor.Reaches after sort ∧ cursor.Precedes after)
    (fun diagnostic after =>
      cursor.Reaches after sort ∧ Blames diagnostic after sort)

/-- The step of a loop travels, and passes a token if the loop goes on. -/
def Reader.Proceeds (step : Reader (Step α)) (cursor : Cursor)
    (sort : Cause → Bool := Cause.isNone) : Prop :=
  step.Ends cursor
    (fun decision after =>
      cursor.Reaches after sort ∧
        (decision.isAgain = true → cursor.Precedes after))
    (fun diagnostic after =>
      cursor.Reaches after sort ∧ Blames diagnostic after sort)

theorem Recovery.Travels.lift {reader : Recovery α} {cursor : Cursor}
    (travels : reader.Travels cursor sort) :
    Reader.Travels (liftM reader) cursor sort :=
  travels

theorem Recovery.Advances.lift {reader : Recovery α} {cursor : Cursor}
    (advances : reader.Advances cursor sort) :
    Reader.Advances (liftM reader) cursor sort :=
  advances

namespace Reader

variable {reader : Reader α} {following : α → Reader β} {cursor : Cursor}

theorem Advances.travels (advances : reader.Advances cursor sort) :
    reader.Travels cursor sort :=
  advances.mono (fun _ _ holds => holds.1) (fun _ _ holds => holds)

theorem Proceeds.travels
    {step : Reader (Step α)} (proceeds : step.Proceeds cursor sort) :
    step.Travels cursor sort :=
  proceeds.mono (fun _ _ holds => holds.1) (fun _ _ holds => holds)

theorem Travels.unsorted (travels : reader.Travels cursor sort) :
    reader.Travels cursor :=
  travels.mono (fun _ _ reaches => reaches.unsorted)
    fun _ _ refused => ⟨refused.1.unsorted, refused.2.lexical, rfl⟩

/-- A reader that answers with its failure travels as well. -/
theorem Travels.run (travels : reader.Travels cursor sort) :
    Recovery.Travels reader.run cursor sort := by
  unfold Recovery.Travels
  rw [Recovery.ends_run]
  exact travels.mono (fun _ _ holds => holds) (fun _ _ holds => holds.1)

theorem Travels.pure (value : α) : Travels (Pure.pure value) cursor sort :=
  Reaches.refl cursor

theorem Travels.get {following : Cursor → Reader β}
    (travels : (following cursor).Travels cursor sort) :
    Travels (get >>= following) cursor sort :=
  travels

theorem Advances.get {following : Cursor → Reader β}
    (advances : (following cursor).Advances cursor sort) :
    Advances (MonadState.get >>= following) cursor sort :=
  advances

theorem Proceeds.get {following : Cursor → Reader (Step β)}
    (proceeds : (following cursor).Proceeds cursor sort) :
    Proceeds (MonadState.get >>= following) cursor sort :=
  proceeds

theorem Travels.bind (first : reader.Travels cursor sort)
    (rest : ∀ value after, (following value).Travels after sort) :
    Travels (reader >>= following) cursor sort := by
  unfold Travels
  rw [ends_bind]
  refine first.mono (fun value after reaches => ?_) fun _ _ holds => holds
  refine (rest value after).mono (fun _ _ more => ?_) fun _ _ more => ?_
  · exact reaches.trans more
  · exact ⟨reaches.trans more.1, more.2⟩

/-- What follows a token is read behind that very token. -/
theorem Travels.take {following : Token → Reader β}
    (ordinary : cursor.kind.isOrdinary = true)
    (rest : (following cursor.current).Travels cursor.next sort) :
    Travels (liftM advance >>= following) cursor sort := by
  have taken : cursor.Reaches cursor.next sort := reaches_next ordinary
  unfold Travels
  rw [ends_bind, ends_lift, Recovery.ends_advance]
  apply rest.mono
  · exact fun _ _ reaches => taken.trans reaches
  · exact fun _ _ refused => ⟨taken.trans refused.1, refused.2⟩

theorem Advances.bind (first : reader.Advances cursor sort)
    (rest : ∀ value after, (following value).Travels after sort) :
    Advances (reader >>= following) cursor sort := by
  unfold Advances
  rw [ends_bind]
  refine first.mono (fun value after reaches => ?_) fun _ _ holds => holds
  refine (rest value after).mono (fun _ _ more => ?_) fun _ _ more => ?_
  · exact ⟨reaches.1.trans more, reaches.2.trans_reaches more⟩
  · exact ⟨reaches.1.trans more.1, more.2⟩

theorem Travels.bind_advances (first : reader.Travels cursor sort)
    (rest : ∀ value after, (following value).Advances after sort) :
    Advances (reader >>= following) cursor sort := by
  unfold Advances
  rw [ends_bind]
  refine first.mono (fun value after reaches => ?_) fun _ _ holds => holds
  refine (rest value after).mono (fun _ _ more => ?_) fun _ _ more => ?_
  · exact ⟨reaches.trans more.1, reaches.trans_precedes more.2⟩
  · exact ⟨reaches.trans more.1, more.2⟩

theorem Travels.bind_proceeds {following : α → Reader (Step β)}
    (first : reader.Travels cursor sort)
    (rest : ∀ value after, (following value).Proceeds after sort) :
    Proceeds (reader >>= following) cursor sort := by
  unfold Proceeds
  rw [ends_bind]
  refine first.mono (fun value after reaches => ?_) fun _ _ holds => holds
  refine (rest value after).mono (fun _ _ more => ?_) fun _ _ more => ?_
  · exact ⟨reaches.trans more.1,
      fun again => reaches.trans_precedes (more.2 again)⟩
  · exact ⟨reaches.trans more.1, more.2⟩

theorem Proceeds.done (value : α) :
    Proceeds (Pure.pure (Step.done value)) cursor sort :=
  ⟨Reaches.refl cursor, fun again => by cases again⟩

theorem Proceeds.again
    {step : Reader (Step α)} (advances : step.Advances cursor sort) :
    step.Proceeds cursor sort :=
  advances.mono (fun _ _ holds => ⟨holds.1, fun _ => holds.2⟩)
    fun _ _ holds => holds

theorem advances_throw
    {diagnostic : Diagnostic} (blames : Blames diagnostic cursor sort) :
    Advances (throw diagnostic : Reader α) cursor sort :=
  ⟨Reaches.refl cursor, blames⟩

theorem advances_reject [Cause.Outer sort] (expected : String) :
    Advances (reject expected : Reader α) cursor sort :=
  ⟨Reaches.refl cursor, blames_unexpected cursor expected⟩

theorem travels_loop {step : α → Reader (Step α)}
    (proceeds : ∀ value cursor, (step value).Proceeds cursor sort)
    (budget : List Token) (value : α) (cursor : Cursor) :
    Travels (loop step budget value) cursor sort := by
  induction budget generalizing value cursor with
  | nil => exact .pure value
  | cons _ budget ih =>
    refine (proceeds value cursor).travels.bind fun decision after => ?_
    cases decision with
    | again following => exact ih following after
    | done final => exact .pure final

/-- A failure is followed from the token that is blamed. -/
theorem Travels.run_bind
    {following : Except Diagnostic α → Recovery β}
    (travels : reader.Travels cursor sort)
    (onValue : ∀ value after, (following (.ok value)).Travels after sort)
    (onError :
      ∀ diagnostic after,
        Blames diagnostic after sort →
          (following (.error diagnostic)).Travels after sort) :
    Recovery.Travels (reader.run >>= following) cursor sort := by
  unfold Recovery.Travels
  rw [Recovery.ends_bind, Recovery.ends_run]
  refine Ends.mono travels (fun value after reaches => ?_)
    fun diagnostic after refused => ?_
  · exact reaches.trans (onValue value after)
  · exact refused.1.trans (onError diagnostic after refused.2)

/-- Running a reader that advances, and going on in either case.  If it fails
where it started, the recovery has to pass a token itself. -/
theorem Advances.run_bind
    {following : Except Diagnostic α → Recovery β}
    (advances : reader.Advances cursor sort)
    (onValue : ∀ value after, (following (.ok value)).Travels after sort)
    (onError :
      ∀ diagnostic after,
        Blames diagnostic after sort → (following (.error diagnostic)).Travels after sort)
    (onStandstill :
      ∀ diagnostic after,
        after.kind = cursor.kind → Blames diagnostic after sort →
          (following (.error diagnostic)).Advances after sort) :
    Recovery.Advances (reader.run >>= following) cursor sort := by
  unfold Recovery.Advances
  rw [Recovery.ends_bind, Recovery.ends_run]
  refine Ends.mono advances (fun value after passed => ?_)
    fun diagnostic after refused => ?_
  · have rest := onValue value after
    exact ⟨passed.1.trans rest, passed.2.trans_reaches rest⟩
  · obtain ⟨reaches, blames⟩ := refused
    by_cases moved : cursor.Precedes after
    · have rest := onError diagnostic after blames
      exact ⟨reaches.trans rest, moved.trans_reaches rest⟩
    · have here := reaches.kind_eq moved
      have rest := onStandstill diagnostic after here blames
      exact ⟨reaches.trans rest.1, reaches.trans_precedes rest.2⟩

end Reader

end PapyrusScript
