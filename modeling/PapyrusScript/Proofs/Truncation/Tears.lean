import PapyrusScript.Proofs.Isolation.Behind
import PapyrusScript.Proofs.Truncation.Cut

/-!
# How two runs of a text that is cut go on

The steps of a reader are gone through one by one.  A step of the first run is
one of the second as long as something is left of what is kept.  Once nothing
is, the second run goes on alone, and the first no longer matters.

Within a line that is kept as a whole the two runs stand along one row, so
what is known of such runs applies.  In a line that is cut off the second run
reports no open block and comes to the end.
-/

namespace PapyrusScript

variable {α β : Type} {cut : Cut} {cursor twin : Cursor}
  {stack known : α → List Opening} {final : β → List Opening}
  {outer inner : List Opening} {refused : Diagnostic → Cursor → Prop}

open Cut

/-- The blocks that are open behind a step, if the loop goes on and if it
ends. -/
def Step.opened (again done : List Opening) : Step α → List Opening
  | .again _ => again
  | .done _ => done

/-! ## The second run alone -/

namespace Recovery

variable {reader : Recovery α}

theorem Unwinds.pure {value : α} (spent : cut.Spent (stack value) twin) :
    Unwinds (Pure.pure value) cut stack twin :=
  spent

theorem Unwinds.get {following : Cursor → Recovery α}
    (unwinds : (following twin).Unwinds cut stack twin) :
    Unwinds (MonadState.get >>= following) cut stack twin :=
  unwinds

theorem Unwinds.unexpected
    {expected : String} {following : Diagnostic → Recovery α}
    (unwinds : ∀ diagnostic, diagnostic.cause.isUnterminated = false →
      (following diagnostic).Unwinds cut stack twin) :
    Unwinds (Reader.unexpected expected >>= following) cut stack twin :=
  unwinds _ (Diagnostic.isUnterminated_unexpected _ _)

theorem Unwinds.bind
    {following : α → Recovery β} (first : reader.Unwinds cut known twin)
    (rest : ∀ value last, cut.Spent (known value) last →
      (following value).Unwinds cut final last) :
    Unwinds (reader >>= following) cut final twin :=
  Ends.bind first rest

theorem Unwinds.run_bind
    {reader : Reader α} {following : Except Diagnostic α → Recovery β}
    {accepted : α → Cursor → Prop} (first : reader.Ends twin accepted refused)
    (onValue : ∀ value last, accepted value last →
      (following (.ok value)).Unwinds cut final last)
    (onError : ∀ diagnostic last, refused diagnostic last →
      (following (.error diagnostic)).Unwinds cut final last) :
    Unwinds (reader.run >>= following) cut final twin := by
  unfold Unwinds
  rw [ends_bind, ends_run]
  exact first.mono onValue onError

theorem ends_of_travels (travels : reader.Travels twin Cause.isUnterminated)
    (spent : cut.Spent outer twin) :
    reader.Ends twin fun _ last => cut.Spent outer last := by
  have stays := kind_of_travels travels.unsorted spent.atEnd
  apply (stays.and travels).mono
  rintro _ last ⟨atEnd, reaches⟩
  refine ⟨atEnd, ?_⟩
  rw [reaches.unterminated]
  exact spent.told

theorem Unwinds.of_travels (travels : reader.Travels twin Cause.isUnterminated)
    (spent : cut.Spent outer twin) :
    reader.Unwinds cut (fun _ => outer) twin :=
  ends_of_travels travels spent

theorem Unwinds.loop {step : α → Recovery (Step α)}
    (proceeds : ∀ value cursor, (step value).Proceeds cursor)
    (steps : ∀ value twin, cut.Spent inner twin →
      (step value).Unwinds cut (Step.opened inner outer) twin)
    (value : α) (spent : cut.Spent inner twin) :
    Unwinds (loop step twin.budget value) cut (fun _ => outer) twin := by
  apply ends_loop_of_keeps (fun _ => cut.Spent inner) proceeds _ value spent
  intro value twin spent
  apply Ends.mono (steps value twin spent)
  intro decision last spent
  cases decision <;> exact spent

theorem Unwinds.inBlock {block : Block} {body : Recovery α}
    (unwinds : body.Unwinds cut stack (twin.enter block)) :
    Unwinds (Reader.inBlock block body) cut stack twin :=
  (ends_inBlock block body).2 (Ends.mono unwinds fun _ _ spent => spent.leave)

end Recovery

/-! ## In a line that is cut off -/

namespace Cut

variable {after : Cursor}

/-- A reader that reports no open block stays in the last line, and a line
that it passes is the last. -/
theorem InLastLine.travels
    {reader : Recovery α} (within : cut.InLastLine twin)
    (travels : reader.Travels twin Cause.isUnterminated) :
    reader.Ends twin fun _ last => cut.InLastLine last := by
  obtain ⟨row, oneLine, there⟩ := within.there
  apply Recovery.Ends.mono travels
  intro value last reaches
  obtain ⟨passed, path⟩ := reaches.path
  refine ⟨?_, reaches.unterminated.trans within.silent⟩
  obtain ⟨shape, inside⟩ := path.budget_eq
  rw [there] at shape
  rcases List.append_eq_append_iff.1 shape with
    ⟨more, rfl, left⟩ | ⟨more, rfl, left⟩
  · -- the end of the text would have been passed
    cases more with
    | nil => exact ⟨[], List.forall_mem_nil _, left.symm⟩
    | cons token more =>
      have first := (List.cons.inj left).1
      exact absurd (first ▸ cut.ends) (inside token (by simp))
  · exact ⟨more, (List.forall_mem_append.1 oneLine).2, left⟩

/-- Behind the last line there is only the end of the text. -/
theorem InLastLine.atEnd
    (within : cut.InLastLine twin) (behind : twin.Behind after) :
    after.kind = .endOfText := by
  obtain ⟨row, oneLine, there⟩ := within.there
  rcases behind with atEnd | ⟨passed, line, shape, breaks⟩
  · exact atEnd
  · exfalso
    rw [there] at shape
    have member : line ∈ row ++ [cut.last] := by rw [shape]; simp
    rcases List.mem_append.1 member with within | last
    · have inLine := oneLine line within
      rw [breaks] at inLine
      cases inLine
    · rw [List.mem_singleton.1 last, cut.ends] at breaks
      cases breaks

/-- A reader of a line comes to the end of the text. -/
theorem InLastLine.ends {reader : Recovery α} (within : cut.InLastLine twin)
    (travels : reader.Travels twin Cause.isUnterminated)
    (behind : reader.Ends twin fun _ after => twin.Behind after) :
    reader.Ends twin fun _ last =>
      last.kind = .endOfText ∧ last.unterminated = [] := by
  apply (behind.and travels).mono
  rintro _ last ⟨behind, reaches⟩
  exact ⟨within.atEnd behind, reaches.unterminated.trans within.silent⟩

/-- A reader of something within the last line stays there, and is not broken
off for want of a closing keyword. -/
theorem InLastLine.stays {reader : Reader α} (within : cut.InLastLine twin)
    (travels : reader.Travels twin Cause.isUnterminated) :
    reader.Ends twin (fun _ last => cut.InLastLine last)
      fun diagnostic last => cut.InLastLine last ∧
        diagnostic.cause.isUnterminated = false := by
  have stays := within.travels travels.run
  rw [Recovery.ends_run] at stays
  apply (stays.and travels).mono
  · exact fun _ _ held => held.1
  · exact fun _ _ held => ⟨held.1, held.2.2.other⟩

theorem InLastLine.ends_reader
    {reader : Reader α} (within : cut.InLastLine twin)
    (travels : reader.Travels twin Cause.isUnterminated)
    (behind : reader.Ends twin (fun _ after => twin.Behind after)
      fun _ _ => True) :
    reader.Ends twin
      (fun _ last => last.kind = .endOfText ∧ last.unterminated = [])
      fun diagnostic last => cut.InLastLine last ∧
        diagnostic.cause.isUnterminated = false := by
  apply (behind.and ((within.stays travels).and travels)).mono
  · rintro _ last ⟨behind, _, reaches⟩
    exact ⟨within.atEnd behind, reaches.unterminated.trans within.silent⟩
  · exact fun _ _ held => held.2.1

theorem InLastLine.report
    (within : cut.InLastLine twin) {diagnostic : Diagnostic}
    (other : diagnostic.cause.isUnterminated = false) :
    cut.InLastLine (twin.report diagnostic) :=
  ⟨within.there, (twin.unterminated_report other).trans within.silent⟩

end Cut

namespace Recovery

theorem ends_skipLine_of_inLastLine (within : cut.InLastLine twin) :
    Reader.skipLine.Ends twin fun _ last =>
      last.kind = .endOfText ∧ last.unterminated = [] :=
  within.ends (travels_skipLine twin) (behind_skipLine twin)

theorem ends_reportAndSkipLine_of_inLastLine
    (within : cut.InLastLine twin) {diagnostic : Diagnostic}
    (other : diagnostic.cause.isUnterminated = false) :
    (Reader.reportAndSkipLine diagnostic).Ends twin fun _ last =>
      last.kind = .endOfText ∧ last.unterminated = [] :=
  ends_skipLine_of_inLastLine (within.report other)

end Recovery

theorem Cut.Breaks.unwinds_skipLine
    {diagnostic : Diagnostic} (breaks : cut.Breaks outer diagnostic twin) :
    (Reader.reportAndSkipLine diagnostic).Unwinds cut (fun _ => outer) twin :=
  (Recovery.ends_reportAndSkipLine_of_inLastLine breaks.inLastLine
    breaks.other).mono fun _ _ reached => .of_goal reached.1 reached.2 breaks.goal

/-! ## Both runs -/

namespace Recovery

variable {reader : Recovery α} {following : α → Recovery β}
  {step : α → Recovery (Step α)}

theorem Tears.pure {value : α} (atLine : cut.AtLine (stack value) cursor twin) :
    Tears (Pure.pure value) cut stack cursor twin :=
  fun _ => .inl ⟨rfl, atLine⟩

/-- It does not matter where the first run is taken if the second comes to
the end. -/
theorem Unwinds.tears (unwinds : reader.Unwinds cut stack twin) :
    reader.Tears cut stack cursor twin :=
  fun _ => .inr unwinds

/-- What is reported in the whole text need not be looked at. -/
theorem Tells.tears (tells : reader.Tells cursor) :
    reader.Tears cut stack cursor twin :=
  fun silent => absurd silent tells.reported_ne_nil

theorem Tears.congr {reader other : Recovery α}
    (here : reader.run cursor = other.run cursor)
    (there : reader.run twin = other.run twin)
    (tears : other.Tears cut stack cursor twin) :
    reader.Tears cut stack cursor twin := by
  unfold Tears at *
  rw [here, there]
  exact tears

theorem Tears.look {following : Cursor → Recovery α}
    (same : following twin = following cursor)
    (tears : (following cursor).Tears cut stack cursor twin) :
    Tears (get >>= following) cut stack cursor twin := by
  intro silent
  show cut.Meets stack _ ((following twin).run twin)
  rw [same]
  exact tears silent

theorem Tears.take
    {following : Token → Recovery α} {token : Token} {row : List Token}
    (abreast : cut.Abreast (token :: row) cursor twin)
    (tears : (following token).Tears cut stack cursor.next twin.next) :
    Tears (Reader.advance >>= following) cut stack cursor twin := by
  obtain ⟨here, there⟩ := abreast.current
  show (((following cursor.current).run cursor.next).2.reported = [] →
    cut.Meets stack ((following cursor.current).run cursor.next)
      ((following twin.current).run twin.next))
  rw [here, there]
  exact tears

/-- Both runs go on with the next reader, or the second one alone does. -/
theorem Tears.bind (first : reader.Tears cut known cursor twin)
    (grows : ∀ value middle, (following value).Grows middle)
    (both : ∀ value cursor twin, cut.AtLine (known value) cursor twin →
      (following value).Tears cut final cursor twin)
    (alone : ∀ value twin, cut.Spent (known value) twin →
      (following value).Unwinds cut final twin) :
    Tears (reader >>= following) cut final cursor twin := by
  intro silent
  have quiet : (reader.run cursor).2.reported = [] :=
    (grows _ _).reported_eq_nil silent
  rcases first quiet with ⟨same, atLine⟩ | spent
  · have tears := both _ _ _ atLine silent
    rw [← same] at tears
    show cut.Meets final _
      ((following (reader.run twin).1).run (reader.run twin).2)
    rw [same] at tears ⊢
    exact tears
  · exact .inr (alone _ _ spent)

/-- A failure in the last line is followed in the second run alone. -/
theorem Tears.run_bind
    {reader : Reader α} {following : Except Diagnostic α → Recovery β}
    (first : reader.Tears cut known refused cursor twin)
    (grows : ∀ value middle, (following (.ok value)).Grows middle)
    (tells : ∀ diagnostic middle, (following (.error diagnostic)).Tells middle)
    (both : ∀ value cursor twin, cut.AtLine (known value) cursor twin →
      (following (.ok value)).Tears cut final cursor twin)
    (alone : ∀ value twin, cut.Spent (known value) twin →
      (following (.ok value)).Unwinds cut final twin)
    (broken : ∀ diagnostic twin, refused diagnostic twin →
      (following (.error diagnostic)).Unwinds cut final twin) :
    Tears (reader.run >>= following) cut final cursor twin := by
  intro silent
  cases ran : reader.run.run cursor with
  | mk answer middle =>
    have shape : (reader.run >>= following).run cursor =
        (following answer).run middle := by
      show (following (reader.run.run cursor).1).run
        (reader.run.run cursor).2 = _
      rw [ran]
    rw [shape] at silent ⊢
    cases answer with
    | error diagnostic =>
      exact absurd silent (tells diagnostic middle).reported_ne_nil
    | ok value =>
      have quiet := (grows value middle).reported_eq_nil silent
      have ends := first value middle ran quiet
      unfold Reader.Ends Ends at ends
      show cut.Meets final _ ((following (reader.run.run twin).1).run
        (reader.run.run twin).2)
      cases ranToo : reader.run.run twin with
      | mk answer last =>
        rw [ranToo] at ends
        cases answer with
        | error diagnostic => exact .inr (broken diagnostic last ends)
        | ok found =>
          rcases ends with ⟨rfl, atLine⟩ | spent
          · exact both _ _ _ atLine silent
          · exact .inr (alone _ _ spent)

theorem Tears.inBlock {block : Block} {body : Recovery α}
    (tears : body.Tears cut stack (cursor.enter block) (twin.enter block)) :
    Tears (Reader.inBlock block body) cut stack cursor twin := by
  intro silent
  rcases tears silent with ⟨same, atLine⟩ | spent
  · exact .inl ⟨same, atLine.leave⟩
  · exact .inr spent.leave

/-- A loop goes on in both runs up to the step at which the text is cut. -/
theorem Tears.loop (proceeds : ∀ value cursor, (step value).Proceeds cursor)
    (steps : ∀ value cursor twin, cut.AtLine inner cursor twin →
      (step value).Tears cut (Step.opened inner outer) cursor twin)
    (unwinds : ∀ value twin, cut.Spent inner twin →
      (step value).Unwinds cut (Step.opened inner outer) twin)
    {value : α} (atLine : cut.AtLine inner cursor twin) :
    Tears (get >>= fun cursor => PapyrusScript.loop step cursor.budget value)
      cut (fun _ => outer) cursor twin := by
  induction value, cursor using loop_induction proceeds generalizing twin with
  | back value cursor ih =>
    intro silent
    have meets := steps value cursor twin atLine
    unfold Tears at meets
    rw [run_loop proceeds] at silent
    rw [run_loop proceeds, run_loop proceeds]
    generalize (step value).run twin = there at meets
    obtain ⟨decisionToo, twinBetween⟩ := there
    cases here : (step value).run cursor with
    | mk decision between =>
      rw [here] at meets silent
      have quiet : between.reported = [] := by
        cases decision with
        | done final => exact silent
        | again following =>
          have rest := travels_loop proceeds between.budget following between
          exact rest.grows.reported_eq_nil silent
      rcases meets quiet with ⟨same, atLine⟩ | spent
      · obtain rfl : decision = decisionToo := same.symm
        cases decision with
        | done final => exact .inl ⟨rfl, atLine⟩
        | again following => exact ih following between here atLine silent
      · cases decisionToo with
        | done last => exact .inr spent
        | again next => exact .inr (Unwinds.loop proceeds unwinds next spent)

/-! ## From line to line -/

/-- From where some blocks are open, the reader carries both runs to where
others are. -/
structure Carries
    (reader : Recovery α) (cut : Cut) (before : List Opening)
    (behind : α → List Opening) : Prop where
  grows : ∀ cursor, reader.Grows cursor
  tears : ∀ {cursor twin}, cut.AtLine before cursor twin →
    reader.Tears cut behind cursor twin
  unwinds : ∀ {twin}, cut.Spent before twin → reader.Unwinds cut behind twin

theorem Carries.pure (value : α) :
    Carries (Pure.pure value) cut outer fun _ => outer where
  grows _ := .pure value
  tears atLine := .pure atLine
  unwinds spent := .pure spent

theorem Carries.again (value : α) :
    Carries (Pure.pure (Step.again value)) cut inner
      (Step.opened inner outer) where
  grows _ := .pure _
  tears atLine := .pure atLine
  unwinds spent := .pure spent

theorem Carries.done (value : α) :
    Carries (Pure.pure (Step.done value)) cut outer
      (Step.opened inner outer) where
  grows _ := .pure _
  tears atLine := .pure atLine
  unwinds spent := .pure spent

theorem Tears.carry (first : reader.Tears cut known cursor twin)
    (rest : ∀ value, (following value).Carries cut (known value) final) :
    Tears (reader >>= following) cut final cursor twin :=
  first.bind (fun value middle => (rest value).grows middle)
    (fun value _ _ atLine => (rest value).tears atLine)
    fun value _ spent => (rest value).unwinds spent

theorem Carries.bind (first : reader.Carries cut outer known)
    (rest : ∀ value, (following value).Carries cut (known value) final) :
    Carries (reader >>= following) cut outer final where
  grows cursor :=
    (first.grows cursor).bind fun value middle => (rest value).grows middle
  tears atLine := (first.tears atLine).carry rest
  unwinds spent :=
    (first.unwinds spent).bind fun value _ spent => (rest value).unwinds spent

theorem Carries.of_tells (tells : ∀ cursor, reader.Tells cursor)
    (travels : ∀ cursor, reader.Travels cursor Cause.isUnterminated) :
    reader.Carries cut outer fun _ => outer where
  grows cursor := (travels cursor).unsorted.grows
  tears _ := (tells _).tears
  unwinds spent := .of_travels (travels _) spent

theorem Carries.look {following : Cursor → Recovery α}
    (same : ∀ {cursor twin}, cut.AtLine outer cursor twin →
      following twin = following cursor)
    (rest : ∀ cursor, (following cursor).Carries cut outer stack) :
    Carries (get >>= following) cut outer stack where
  grows cursor := (rest cursor).grows cursor
  tears atLine := .look (same atLine) ((rest _).tears atLine)
  unwinds spent := .get ((rest _).unwinds spent)

theorem Carries.loop (proceeds : ∀ value cursor, (step value).Proceeds cursor)
    (steps : ∀ value, (step value).Carries cut inner (Step.opened inner outer))
    (value : α) :
    Carries (get >>= fun cursor => PapyrusScript.loop step cursor.budget value)
      cut inner fun _ => outer where
  grows _ := (travels_loop proceeds _ _ _).grows
  tears atLine :=
    .loop proceeds (fun value _ _ atLine => (steps value).tears atLine)
      (fun value _ spent => (steps value).unwinds spent) atLine
  unwinds spent :=
    .loop proceeds (fun value _ spent => (steps value).unwinds spent) value
      spent

theorem Carries.loop_bind
    (proceeds : ∀ value cursor, (step value).Proceeds cursor)
    (steps : ∀ value, (step value).Carries cut inner (Step.opened inner outer))
    (value : α) (rest : ∀ value, (following value).Carries cut outer final) :
    Carries (do
      let value ← PapyrusScript.loop step (← get).budget value
      following value) cut inner final :=
  (Carries.loop proceeds steps value).bind rest

theorem Carries.inBlock
    {block : Block} {body : Recovery α} (carries : body.Carries cut outer stack) :
    Carries (Reader.inBlock block body) cut outer stack where
  grows cursor :=
    (ends_inBlock block body).2 <| (carries.grows (cursor.enter block)).mono
      fun _ _ grown => ⟨grown.budget, grown.reported⟩
  tears atLine := .inBlock (carries.tears (atLine.enter block))
  unwinds spent := .inBlock (carries.unwinds (spent.enter block))

end Recovery

namespace Reader

variable {following : α → Reader β} {reader : Reader α}

theorem Ends.congr {reader other : Reader α} {accepted : α → Cursor → Prop}
    (same : reader.run.run twin = other.run.run twin)
    (ends : other.Ends twin accepted refused) :
    reader.Ends twin accepted refused := by
  unfold Ends Recovery.Ends at *
  rw [same]
  exact ends

theorem Tears.congr {reader other : Reader α}
    (here : reader.run.run cursor = other.run.run cursor)
    (there : reader.run.run twin = other.run.run twin)
    (tears : other.Tears cut stack refused cursor twin) :
    reader.Tears cut stack refused cursor twin := by
  intro value after ran silent
  rw [here] at ran
  exact .congr there (tears value after ran silent)

theorem Tears.lift
    {reader : Recovery α} (tears : reader.Tears cut stack cursor twin) :
    Tears (liftM reader) cut stack refused cursor twin := by
  rintro value after ran silent
  have answered : (reader.run cursor) = (value, after) := by
    have shape : (ExceptT.run (liftM reader : Reader α)).run cursor =
        (.ok (reader.run cursor).1, (reader.run cursor).2) := rfl
    rw [shape] at ran
    obtain ⟨first, rfl⟩ := Prod.mk.inj ran
    cases first
    rfl
  have meets := tears (by rw [answered]; exact silent)
  rw [answered] at meets
  exact meets

theorem Tears.look {following : Cursor → Reader α}
    (same : following twin = following cursor)
    (tears : (following cursor).Tears cut stack refused cursor twin) :
    Tears (get >>= following) cut stack refused cursor twin := by
  intro value after ran silent
  rw [ends_bind, ends_get, same]
  exact tears value after ran silent

/-- Both parts may depend on how the whole text is read. -/
theorem Tears.bind_run
    (grows : ∀ value middle, (following value).run.Grows middle)
    (first : ∀ value middle result after,
      reader.run.run cursor = (.ok value, middle) → middle.reported = [] →
        (following value).run.run middle = (.ok result, after) →
          after.reported = [] →
            reader.Ends twin
              (fun found last => cut.Meets known (value, middle) (found, last))
              refused)
    (both : ∀ value middle twin, reader.run.run cursor = (.ok value, middle) →
      middle.reported = [] → cut.AtLine (known value) middle twin →
        (following value).Tears cut final refused middle twin)
    (alone : ∀ value twin, cut.Spent (known value) twin →
      (following value).Unwinds cut final twin) :
    Tears (reader >>= following) cut final refused cursor twin := by
  intro result after ran silent
  rw [ExceptT.run_bind] at ran
  cases first_ran : reader.run.run cursor with
  | mk answer middle =>
    rw [StateT.run_bind, first_ran] at ran
    cases answer with
    | error diagnostic => cases ran
    | ok value =>
      have continued : (following value).run.run middle =
          (.ok result, after) := ran
      have quiet := (grows value middle).reported_eq_nil
        (by rw [continued]; exact silent)
      rw [ends_bind]
      apply (first value middle result after first_ran quiet continued
        silent).mono
      · rintro found last (⟨same, atLine⟩ | spent)
        · obtain rfl : found = value := same
          exact both found middle last first_ran quiet atLine result after
            continued silent
        · exact (alone found last spent).mono
            (fun _ _ spent => .inr spent) fun _ _ never => never.elim
      · exact fun _ _ broken => broken

theorem Tears.bind (first : reader.Tears cut known refused cursor twin)
    (grows : ∀ value middle, (following value).run.Grows middle)
    (both : ∀ value cursor twin, cut.AtLine (known value) cursor twin →
      (following value).Tears cut final refused cursor twin)
    (alone : ∀ value twin, cut.Spent (known value) twin →
      (following value).Unwinds cut final twin) :
    Tears (reader >>= following) cut final refused cursor twin :=
  .bind_run grows
    (fun value middle _ _ ran quiet _ _ => first value middle ran quiet)
    (fun value middle twin _ _ atLine => both value middle twin atLine) alone

/-- A change of the answer changes nothing about the runs. -/
theorem Tears.map {change : α → β}
    (tears : reader.Tears cut (fun _ => inner) refused cursor twin) :
    Tears (change <$> reader) cut (fun _ => inner) refused cursor twin := by
  intro result after ran silent
  rw [ExceptT.run_map, StateT.run_map] at ran
  cases answered : reader.run.run cursor with
  | mk answer middle =>
    rw [answered] at ran
    cases answer with
    | error diagnostic => cases ran
    | ok value =>
      cases ran
      rw [ends_map]
      apply (tears value _ answered silent).mono
      · rintro found last (⟨same, atLine⟩ | spent)
        · exact .inl ⟨congrArg change same, atLine⟩
        · exact .inr spent
      · exact fun _ _ broken => broken

/-! ## From line to line -/

/-- From where some blocks are open, the reader carries both runs to where
others are, and does not fail. -/
structure Carries
    (reader : Reader α) (cut : Cut) (before : List Opening)
    (behind : α → List Opening) : Prop where
  grows : ∀ cursor, reader.run.Grows cursor
  tears : ∀ {cursor twin refused}, cut.AtLine before cursor twin →
    reader.Tears cut behind refused cursor twin
  unwinds : ∀ {twin}, cut.Spent before twin → reader.Unwinds cut behind twin

theorem Carries.lift
    {reader : Recovery α} (carries : reader.Carries cut outer stack) :
    Carries (liftM reader) cut outer stack where
  grows cursor := carries.grows cursor
  tears atLine := .lift (carries.tears atLine)
  unwinds spent := (ends_lift _).2 (carries.unwinds spent)

theorem Carries.pure (value : α) :
    Carries (Pure.pure value) cut outer fun _ => outer :=
  Carries.lift (Recovery.Carries.pure value)

theorem Tears.carry (first : reader.Tears cut known refused cursor twin)
    (rest : ∀ value, (following value).Carries cut (known value) final) :
    Tears (reader >>= following) cut final refused cursor twin :=
  first.bind (fun value middle => (rest value).grows middle)
    (fun value _ _ atLine => (rest value).tears atLine)
    fun value _ spent => (rest value).unwinds spent

/-- Readers that carry the open blocks are followed by such readers. -/
theorem Carries.bind (first : reader.Carries cut outer known)
    (rest : ∀ value, (following value).Carries cut (known value) final) :
    Carries (reader >>= following) cut outer final where
  grows cursor := by
    rw [ExceptT.run_bind]
    apply (first.grows cursor).bind
    intro answer middle
    cases answer with
    | ok value => exact (rest value).grows middle
    | error diagnostic => exact .pure _
  tears atLine := (first.tears atLine).carry rest
  unwinds spent := by
    unfold Unwinds
    rw [ends_bind]
    exact (first.unwinds spent).mono
      (fun value _ spent => (rest value).unwinds spent) fun _ _ never => never

theorem Carries.look {following : Cursor → Reader α}
    (same : ∀ {cursor twin}, cut.AtLine outer cursor twin →
      following twin = following cursor)
    (rest : ∀ cursor, (following cursor).Carries cut outer stack) :
    Carries (get >>= following) cut outer stack where
  grows cursor := (rest cursor).grows cursor
  tears atLine := .look (same atLine) ((rest _).tears atLine)
  unwinds spent := (rest _).unwinds spent

end Reader

end PapyrusScript
