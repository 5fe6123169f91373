import PapyrusScript.Proofs.Travel.Script

/-!
# Readers that omit a sort of error

The paths within a line, and those on which lines are discarded, are free of
any sort of errors that is found between lines.  A reader between lines may
report such an error, though perhaps none of a narrower sort: it *omits* the
sort.  What it fails with is not of the sort either.

What is read along a free path is omitted at once; the lemmas below compose
the steps between lines.
-/

namespace PapyrusScript

variable {α β : Type} {sort : Cause → Bool}

def Recovery.Omits (sort : Cause → Bool) (reader : Recovery α) : Prop :=
  ∀ cursor, reader.Ends cursor fun _ after =>
    after.reportsOf sort = cursor.reportsOf sort

/-- The same for a reader that may fail, though not with such a report. -/
def Reader.Omits (sort : Cause → Bool) (reader : Reader α) : Prop :=
  ∀ cursor, reader.Ends cursor
    (fun _ after => after.reportsOf sort = cursor.reportsOf sort)
    fun diagnostic after => after.reportsOf sort = cursor.reportsOf sort ∧
      sort diagnostic.cause = false

namespace Recovery

/-- What is read along a free path is omitted. -/
theorem Omits.of_travels {reader : Recovery α}
    (travels : ∀ cursor, reader.Travels cursor sort) : reader.Omits sort :=
  fun cursor => (travels cursor).reportsOf

theorem Omits.pure (value : α) : Omits sort (Pure.pure value) := fun _ => rfl

theorem Omits.bind {reader : Recovery α} {following : α → Recovery β}
    (first : reader.Omits sort)
    (rest : ∀ value, (following value).Omits sort) :
    Omits sort (reader >>= following) := by
  intro cursor
  apply Ends.bind (first cursor)
  intro value middle same
  apply (rest value middle).mono
  exact fun _ _ further => further.trans same

theorem Omits.get {following : Cursor → Recovery β}
    (rest : ∀ cursor, (following cursor).Omits sort) :
    Omits sort (MonadState.get >>= following) :=
  fun cursor => rest cursor cursor

theorem omits_report
    {diagnostic : Diagnostic} (other : sort diagnostic.cause = false) :
    (Reader.report diagnostic).Omits sort :=
  fun cursor => cursor.reportsOf_report other

theorem omits_complain
    (position : Position) {cause : Cause} (other : sort cause = false) :
    (Reader.complain position cause).Omits sort :=
  omits_report other

/-- What is made of a token that was not expected is no error between
lines. -/
theorem Omits.unexpected [Cause.Outer sort]
    {expected : String} {following : Diagnostic → Recovery β}
    (rest : ∀ diagnostic, sort diagnostic.cause = false →
      (following diagnostic).Omits sort) :
    Omits sort (Reader.unexpected expected >>= following) :=
  fun cursor => rest _
    (Cause.Outer.spares (Diagnostic.isOuter_unexpected _ _)) cursor

theorem Omits.take {following : Token → Recovery β}
    (rest : ∀ token, (following token).Omits sort) :
    Omits sort (Reader.advance >>= following) := by
  intro cursor
  rw [ends_bind, ends_advance]
  apply (rest cursor.current cursor.next).mono
  exact fun _ _ further => further.trans (cursor.reportsOf_next sort)

/-- What follows both answers of a reader omits the sort as well. -/
theorem Omits.run_bind
    {reader : Reader α} {following : Except Diagnostic α → Recovery β}
    (first : reader.Omits sort)
    (onValue : ∀ value, (following (.ok value)).Omits sort)
    (onError : ∀ diagnostic : Diagnostic,
      sort diagnostic.cause = false →
        (following (.error diagnostic)).Omits sort) :
    Omits sort (reader.run >>= following) := by
  intro cursor
  rw [ends_bind, ends_run]
  apply (first cursor).mono
  · intro value middle same
    apply (onValue value middle).mono
    exact fun _ _ further => further.trans same
  · rintro diagnostic middle ⟨same, other⟩
    apply (onError diagnostic other middle).mono
    exact fun _ _ further => further.trans same

theorem omits_loop {step : α → Recovery (Step α)}
    (steps : ∀ value, (step value).Omits sort)
    (budget : List Token) (value : α) :
    Omits sort (PapyrusScript.loop step budget value) := by
  induction budget generalizing value with
  | nil => exact .pure value
  | cons _ budget ih =>
    apply (steps value).bind
    intro decision
    cases decision with
    | again following => exact ih following
    | done final => exact .pure final

end Recovery

namespace Reader

theorem Omits.of_travels
    {reader : Reader α} (travels : ∀ cursor, reader.Travels cursor sort) :
    reader.Omits sort :=
  fun cursor => (travels cursor).mono (fun _ _ reaches => reaches.reportsOf)
    fun _ _ refused => ⟨refused.1.reportsOf, refused.2.other⟩

theorem Omits.pure (value : α) : Omits sort (Pure.pure value) := fun _ => rfl

theorem Omits.bind
    {reader : Reader α} {following : α → Reader β} (first : reader.Omits sort)
    (rest : ∀ value, (following value).Omits sort) :
    Omits sort (reader >>= following) := by
  intro cursor
  rw [ends_bind]
  apply (first cursor).mono
  · intro value middle same
    apply (rest value middle).mono
    · exact fun _ _ further => further.trans same
    · exact fun _ _ further => ⟨further.1.trans same, further.2⟩
  · exact fun _ _ reached => reached

theorem Omits.map
    {reader : Reader α} (change : α → β) (omits : reader.Omits sort) :
    Omits sort (change <$> reader) := by
  rw [map_eq_pure_bind]
  exact omits.bind fun _ => .pure _

theorem Omits.get {following : Cursor → Reader β}
    (rest : ∀ cursor, (following cursor).Omits sort) :
    Omits sort (MonadState.get >>= following) :=
  fun cursor => rest cursor cursor

theorem Omits.lift {reader : Recovery α} (omits : reader.Omits sort) :
    Reader.Omits sort (liftM reader) :=
  omits

theorem omits_reject [Cause.Outer sort] (expected : String) :
    Omits sort (reject expected : Reader α) :=
  fun _ => ⟨rfl, Cause.Outer.spares (Diagnostic.isOuter_unexpected _ _)⟩

end Reader

section Lines

variable [Cause.Outer sort]

/-! ## What is read within a line, and what is discarded -/

namespace Reader

theorem omits_expect {kind : Kind} (ordinary : kind.isOrdinary = true)
    (purpose : String) : (expect kind purpose).Omits sort :=
  .of_travels fun cursor => (advances_expect _ _ cursor ordinary).travels

theorem omits_identifier (what : String) : (identifier what).Omits sort :=
  .of_travels fun cursor => (advances_identifier what cursor).travels

theorem omits_typeName : typeName.Omits sort :=
  .of_travels fun cursor => (advances_typeName cursor).travels

end Reader

namespace Recovery

open Reader

theorem omits_skipNewlines : skipNewlines.Omits sort :=
  .of_travels travels_skipNewlines

theorem omits_finishLine (context : String) :
    (finishLine context).Omits sort :=
  .of_travels (travels_finishLine context)

theorem omits_recoverToMember : recoverToMember.Omits sort :=
  .of_travels travels_recoverToMember

theorem omits_skipMember (block? : Option Block) :
    (skipMember block?).Omits sort :=
  .of_travels (travels_skipMember block?)

theorem omits_callableHeader (block : Block) (context : String) :
    (callableHeader block context).Omits sort :=
  .of_travels (travels_callableHeader block context)

theorem omits_reportAndSkipLine
    {diagnostic : Diagnostic} (other : sort diagnostic.cause = false) :
    (reportAndSkipLine diagnostic).Omits sort :=
  (omits_report other).bind fun _ => .of_travels travels_skipLine

theorem omits_reportAndRecover
    {diagnostic : Diagnostic} (other : sort diagnostic.cause = false) :
    (reportAndRecover diagnostic).Omits sort :=
  (omits_report other).bind fun _ => omits_recoverToMember

end Recovery

end Lines

end PapyrusScript
