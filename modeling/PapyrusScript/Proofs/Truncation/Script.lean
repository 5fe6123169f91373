import PapyrusScript.Proofs.Transcript.Script
import PapyrusScript.Proofs.Truncation.Accessor

/-!
# Members and scripts of a text that is cut

A member is carried to its own end.  What is kept of its first line may be
broken, but then that is the last line, and nothing has been opened in it.

A script has no block of its own, so where the whole text is read without a
report, the run over what is kept reports at its end what is open at the cut.
-/

namespace PapyrusScript

open Cursor Cut

variable {cut : Cut} {cursor twin after : Cursor} {outer : List Opening}
  {row line before : List Token} {keyword : Token} {type : TypeName}

/-! ## Functions, properties and variables -/

namespace Reader

theorem readsLine_variableAfter (type : TypeName) :
    (variableAfter type).ReadsLine where
  travels cursor := (advances_variableAfter type cursor).travels
  passes cursor := by
    unfold variableAfter
    apply PassesLine.bind (advances_identifier _ cursor).travels
    intro name after
    apply PassesLine.bind (travels_initialConstant after)
    intro initial after
    apply PassesLine.bind (travels_variableFlags after).lift
    exact fun _ _ => .get (passesLine_endOfLine _ _)
  agrees := agrees_variableAfter type

/-- A variable is read in both runs, or its line is the last. -/
theorem tears_variableAfter (spelled : type.Spelled before) {name : Token}
    (opens : cut.Opens outer (before ++ name :: row))
    (abreast : cut.Abreast (name :: row) cursor twin)
    (named : name.kind = .identifier) :
    (variableAfter type).Tears cut (fun _ => outer) (cut.Breaks outer) cursor
      twin := by
  have shape : cut.Opens outer ((before ++ [name]) ++ row) := by
    rwa [List.append_assoc]
  have inLine : name.kind.endsLine = false := by
    rw [named]
    rfl
  apply (readsLine_variableAfter type).tears abreast inLine
  apply shape.behind_plain (List.forall_mem_append.2
    ⟨spelled.oneLine, List.forall_mem_singleton.2 inLine⟩)
  · obtain ⟨first, brackets, rfl, _⟩ := spelled.exists_first
    rintro line first more same
    obtain ⟨rfl, _⟩ := List.cons.inj same
    exact spelled.isPlain _ _ rfl
  · intro line
    rw [List.append_assoc, List.singleton_append,
      spelled.ofLine? (by rw [named]; nofun)]
    simp [Opening.ofTyped?, named]

/-- A member behind its type is read in both runs, or its line is the last. -/
theorem tears_typedMember
    (opens : cut.Opens outer row) (abreast : cut.Abreast row cursor twin)
    (typed : twin.atTypeStart = true)
    (follows : twin.kindAfterType = .keyword .function ∨
      twin.kindAfterType = .keyword .property ∨
        twin.kindAfterType = .identifier) :
    typedMember.Tears cut (fun _ => outer) (cut.Breaks outer) cursor twin := by
  unfold typedMember
  apply Tears.typeName abreast typed
  · rcases follows with found | found | found <;> rw [found] <;> nofun
  · rcases follows with found | found | found <;> rw [found] <;> nofun
  · rintro found before first tail after twinAfter rfl spelled kind abreast
    apply Tears.look (by rw [abreast.kind.1, abreast.kind.2])
    rw [abreast.kind.1]
    rw [← kind] at follows
    rcases follows with word | word | named
    · rw [word]
      exact .map (tears_function (some found) spelled.oneLine spelled.isPlain
        opens (fun _ kind => spelled.leads_function kind) abreast)
    · rw [word]
      exact .map (tears_propertyAfter spelled opens abreast)
    · rw [named]
      exact .map (tears_variableAfter spelled opens abreast named)

/-- A declaration that starts with none of its keywords starts with a type. -/
theorem typed_of_atDeclaration (starts : cursor.atDeclaration = true)
    (notFunction : cursor.kind ≠ .keyword .function)
    (notEvent : cursor.kind ≠ .keyword .event)
    (notState : cursor.kind ≠ .keyword .state)
    (notAuto : cursor.kind ≠ .keyword .auto)
    (notImport : cursor.kind ≠ .keyword .importScript)
    (notHeader : cursor.kind ≠ .keyword .scriptname) :
    cursor.atTypeStart = true ∧
      (cursor.kindAfterType = .keyword .function ∨
        cursor.kindAfterType = .keyword .property ∨
          cursor.kindAfterType = .identifier) := by
  unfold Cursor.atDeclaration Cursor.atMemberStart Cursor.atVariableStart
    at starts
  split at starts
  case h_7 =>
    simp only [Bool.or_eq_true, Bool.and_eq_true, decide_eq_true_eq] at starts
    rcases starts with ⟨typed, word | word⟩ | ⟨typed, named⟩
    · exact ⟨typed, .inl word⟩
    · exact ⟨typed, .inr (.inl word)⟩
    · exact ⟨typed, .inr (.inr named)⟩
  all_goals contradiction

/-- A member that starts in what is kept is read in both runs, or breaks. -/
theorem tears_plainMember
    (opens : cut.Opens outer row) (abreast : cut.Abreast row cursor twin)
    (more : row ≠ [])
    (starts : twin.kind ≠ .keyword .function → twin.atTypeStart = true ∧
      (twin.kindAfterType = .keyword .function ∨
        twin.kindAfterType = .keyword .property ∨
          twin.kindAfterType = .identifier)) :
    plainMember.Tears cut (fun _ => outer) (cut.Breaks outer) cursor twin := by
  unfold plainMember
  have same := abreast.kind_eq more
  apply Tears.look (by rw [same])
  split
  · exact .map (tears_untypedFunction opens abreast)
  · rename_i other
    obtain ⟨typed, follows⟩ := starts (by rwa [same])
    exact tears_typedMember opens abreast typed follows

/-! ## Imports -/

theorem readsLine_importLine : importLine.ReadsLine where
  travels cursor := (advances_importLine cursor).travels
  passes cursor := by
    unfold importLine
    apply PassesLine.bind (advances_expect _ _ cursor rfl).travels
    intro keyword after
    apply PassesLine.bind (advances_identifier _ after).travels
    exact fun _ _ => .get (passesLine_endOfLine _ _)
  agrees := agrees_importLine

theorem tears_importLine (opens : cut.Opens outer (keyword :: row))
    (abreast : cut.Abreast (keyword :: row) cursor twin)
    (word : keyword.kind = .keyword .importScript) :
    importLine.Tears cut (fun _ => outer) (cut.Breaks outer) cursor twin := by
  have inLine : keyword.kind.endsLine = false := by
    rw [word]
    rfl
  have shape : cut.Opens outer ([keyword] ++ row) := opens
  apply readsLine_importLine.tears abreast inLine
  apply shape.behind_plain (List.forall_mem_singleton.2 inLine)
  · exact fun line => isPlain_of_kind (by rw [word]; nofun) (by rw [word]; rfl)
  · intro line
    simp [Opening.ofLine?, word, Kind.isTypeKeyword]

end Reader

/-! ## States -/

namespace Recovery

/-- A line of a state leaves the state open, and its end closes it. -/
theorem carries_nextInState
    (keyword : Token) (state : String) (found : Reader.StateBody) :
    (Reader.nextInState keyword state found).Carries cut
      (⟨.state, keyword⟩ :: outer)
      (Step.opened (⟨.state, keyword⟩ :: outer) outer) := by
  have growsSkip (diagnostic : Diagnostic) (cursor : Cursor) : Grows (do
      Reader.reportAndSkipLine diagnostic
      return (Step.again found)) cursor :=
    (grows_reportAndSkipLine _).bind fun _ _ => .pure _
  apply carries_skipNewlines.bind
  intro _
  constructor
  · intro cursor
    have unfinished : (Reader.unfinishedState keyword found).Grows cursor :=
      (travels_unfinishedState keyword found cursor).travels.grows
    apply Grows.get
    split
    · apply grows_advance.bind
      exact fun _ _ => (travels_finishLine _ _).grows.bind fun _ _ => .pure _
    · exact grows_advance.bind fun _ _ => .pure _
    · apply Grows.run_bind (Reader.advances_event cursor).travels
      intro answer middle
      cases answer with
      | ok next => exact .pure _
      | error diagnostic => exact growsSkip _ _
    · exact unfinished
    · exact unfinished
    · exact unfinished
    · exact unfinished
    · rename_i inside _ _ _
      split
      · exact unfinished
      · split
        · exact (advances_hoistedMember state found inside).travels.grows.bind
            fun _ _ => .pure _
        · exact .unexpected fun _ => growsSkip _ _
  · intro cursor twin atLine
    obtain ⟨row, more, opens, abreast⟩ := id atLine
    obtain ⟨first, row, rfl⟩ := List.exists_cons_of_ne_nil more
    have here := abreast.kind.1
    have there := abreast.kind.2
    by_cases closes : first.kind = .keyword .endState
    · rw [closes] at here there
      apply Tears.look (by rw [here, there])
      rw [here]
      apply Tears.take abreast
      exact (tears_terminator _ opens abreast.next closes).carry
        fun _ => .done _
    by_cases doc : first.kind = .docComment
    · rw [doc] at here there
      apply Tears.look (by rw [here, there])
      rw [here]
      apply Tears.take abreast
      exact fun _ => .of_opens (opens.docComment doc) abreast.next
    by_cases word : first.kind = .keyword .event
    · rw [word] at here there
      apply Tears.look (by rw [here, there])
      rw [here]
      apply Tears.run_bind (Reader.tears_event opens abreast more)
      · exact fun _ _ => .pure _
      · exact fun _ _ => (tells_reportAndSkipLine _).bind fun _ _ => .pure _
      · exact fun _ _ _ atLine => .pure atLine
      · exact fun _ _ spent => .pure spent
      · intro diagnostic twin breaks
        exact breaks.unwinds_skipLine.bind fun _ _ spent => .pure spent
    -- whatever else opens this line, the whole run reports or hoists it
    rw [← here] at closes doc word
    apply Tells.tears
    apply Tells.get
    split
    · contradiction
    · contradiction
    · contradiction
    · exact tells_unfinishedState _ _
    · exact tells_unfinishedState _ _
    · exact tells_unfinishedState _ _
    · exact tells_unfinishedState _ _
    · split
      · exact tells_unfinishedState _ _
      · split
        · exact (tells_hoistedMember _ _).bind fun _ _ => .pure _
        · exact .unexpected fun _ =>
            (tells_reportAndSkipLine _).bind fun _ _ => .pure _
  · intro twin spent
    apply Unwinds.get
    rw [spent.atEnd]
    exact (unwinds_reportUnterminated spent).bind fun _ _ spent => .pure spent

theorem carries_stateBody (keyword : Token) (state : String) :
    (Reader.stateBody keyword state).Carries cut (⟨.state, keyword⟩ :: outer)
      fun _ => outer :=
  .inBlock (.loop (proceeds_nextInState keyword state)
    (carries_nextInState keyword state) _)

end Recovery

namespace Reader

section Mark

variable (mark : before = [] ∨ ∃ auto, before = [auto] ∧
  auto.kind = .keyword .auto)

include mark

theorem oneLine_of_mark : OneLine before := by
  rcases mark with rfl | ⟨auto, rfl, word⟩
  · exact List.forall_mem_nil _
  · exact List.forall_mem_singleton.2 (by rw [word]; rfl)

theorem isPlain_of_mark : IsPlain before := by
  rcases mark with rfl | ⟨auto, rfl, word⟩
  · rintro _ _ ⟨⟩
  · exact isPlain_of_kind (by rw [word]; nofun) (by rw [word]; rfl)

/-- The line of a state opens it, with or without its mark. -/
theorem leads_state (kind : keyword.kind = .keyword .state) :
    Leads .state (fun _ => some ⟨.state, keyword⟩) before keyword where
  kind := kind
  oneLine := oneLine_of_mark mark
  plain := isPlain_of_mark mark
  opens line := by
    rcases mark with rfl | ⟨auto, rfl, word⟩
    · simp [Opening.ofLine?, kind]
    · simp [Opening.ofLine?, Opening.ofAuto?, word, kind]
  names _ _ found := Option.some.inj found ▸ rfl

end Mark

def afterMark (start : Position) (auto : Bool) : Reader (List Member) := do
  let keyword ← expect (.keyword .state) ""
  let name ← identifier "state name"
  endOfLine "state declaration"
  let found ← stateBody keyword name.name
  let state : ScriptState :=
    { name, auto, events := found.events, span := (← get).spanFrom start }
  return found.hoisted ++ [.state state]

/-- Behind its mark a state is read in both runs, or its line is the last. -/
theorem tears_afterMark (mark : before = [] ∨ ∃ auto, before = [auto] ∧
      auto.kind = .keyword .auto)
    (opens : cut.Opens outer (before ++ row))
    (abreast : cut.Abreast row cursor twin) (start : Position) (auto : Bool) :
    (afterMark start auto).Tears cut (fun _ => outer) (cut.Breaks outer) cursor
      twin := by
  unfold afterMark
  apply Tears.expect abreast rfl
  · rintro keyword row rfl kind abreast
    have leads := leads_state mark kind
    apply Tears.identifier abreast
    · rintro name row rfl named abreast
      have single : OneLine [name] :=
        List.forall_mem_singleton.2 (by rw [named]; rfl)
      have ended : (endOfLine "state declaration").Tears cut
          (fun _ => ⟨.state, keyword⟩ :: outer) (cut.Breaks outer)
          cursor.next.next twin.next.next := by
        intro value after ran silent
        apply tears_endOfLine _ abreast ?_ ?_ value after ran silent
        · rintro newline more rfl breaks
          exact leads.behind opens single breaks
        · rintro rfl
          have closed : cut.closed = true := by
            have here := abreast.here
            rw [List.nil_append] at here
            unfold Cut.closed
            rw [← here]
            show cursor.next.next.kind.endsLine = true
            rcases endsLine_of_endOfLine ran with ends | ends
            · rw [ends]
              rfl
            · rw [ends]
              rfl
          rw [leads.goal opens single, if_pos closed]
          rfl
      apply ended.carry
      intro _
      apply (Carries.lift (Recovery.carries_stateBody keyword _)).bind
      intro found
      exact .look (fun atLine => by simp only [atLine.spanFrom])
        fun _ => .pure _
    · rintro rfl cutOff
      exact opens.goal_of_cutOff (leads.oneLine_append (List.forall_mem_nil _))
        leads.isPlain_append cutOff
  · rintro rfl cutOff
    rw [List.append_nil] at opens
    exact opens.goal_of_cutOff (oneLine_of_mark mark) (isPlain_of_mark mark)
      cutOff

theorem run_autoMark_bind
    {α : Type} (following : Bool → Reader α) (cursor : Cursor) :
    (liftM autoMark >>= following).run.run cursor =
      if cursor.kind = .keyword .auto then
        (following true).run.run cursor.next
      else (following false).run.run cursor := by
  rw [ExceptT.run_bind, StateT.run_bind, Recovery.run_lift]
  unfold autoMark
  rw [Recovery.run_get_bind]
  split <;> rfl

/-- A state leaves open what was open in front of it. -/
theorem tears_stateMembers
    (opens : cut.Opens outer row) (abreast : cut.Abreast row cursor twin)
    (more : row ≠ []) :
    stateMembers.Tears cut (fun _ => outer) (cut.Breaks outer) cursor twin := by
  obtain ⟨first, row, rfl⟩ := List.exists_cons_of_ne_nil more
  have here := abreast.kind.1
  have there := abreast.kind.2
  have shape : stateMembers = (do
      let start := (← get).position
      let auto ← autoMark
      afterMark start auto) := rfl
  rw [shape]
  apply Tears.look (by
    unfold Cursor.position
    rw [abreast.current.1, abreast.current.2])
  by_cases auto : first.kind = .keyword .auto
  · have taken {cursor : Cursor} (kind : cursor.kind = first.kind)
        (start : Position) : (liftM autoMark >>= afterMark start).run.run
          cursor = (liftM advance >>= fun _ =>
            afterMark start true).run.run cursor := by
      rw [run_autoMark_bind, if_pos (kind.trans auto)]
      rfl
    apply Tears.congr (taken here _) (taken there _)
    apply Tears.take abreast
    exact tears_afterMark (.inr ⟨first, rfl, auto⟩) opens abreast.next _ _
  · have passed {cursor : Cursor} (kind : cursor.kind = first.kind)
        (start : Position) : (liftM autoMark >>= afterMark start).run.run
          cursor = (afterMark start false).run.run cursor := by
      rw [run_autoMark_bind, if_neg (by rwa [kind])]
    apply Tears.congr (passed here _) (passed there _)
    have shape : cut.Opens outer ([] ++ first :: row) := opens
    exact tears_afterMark (.inl rfl) shape abreast _ _

/-- Members that start in what is kept are read in both runs, or break. -/
theorem tears_members
    (opens : cut.Opens outer row) (abreast : cut.Abreast row cursor twin)
    (more : row ≠ []) (starts : twin.atDeclaration = true)
    (notImport : twin.kind ≠ .keyword .importScript)
    (notHeader : twin.kind ≠ .keyword .scriptname) :
    members.Tears cut (fun _ => outer) (cut.Breaks outer) cursor twin := by
  have same := abreast.kind_eq more
  unfold members
  apply Tears.look (by rw [same])
  split
  · rw [← map_eq_pure_bind]
    exact .map (tears_event opens abreast more)
  · exact tears_stateMembers opens abreast more
  · exact tears_stateMembers opens abreast more
  · rename_i notEvent notState notAuto
    rw [← same] at notEvent notState notAuto
    rw [← map_eq_pure_bind]
    apply Tears.map
    apply tears_plainMember opens abreast more
    exact fun notFunction => typed_of_atDeclaration starts notFunction notEvent
      notState notAuto notImport notHeader

end Reader

variable {more : List Token} {newline : Token}

namespace Recovery

/-! ## A broken last line -/

/-- What starts with the rest of a broken last line comes to the end. -/
theorem atEnd_of_skipLine
    {α : Type} {rest : Unit → Recovery α} (within : cut.InLastLine twin)
    (travels : ∀ cursor, (rest ()).Travels cursor) :
    Ends (Reader.skipLine >>= rest) twin fun _ last =>
      last.kind = .endOfText := by
  apply Ends.bind (ends_skipLine_of_inLastLine within)
  rintro _ last ⟨atEnd, _⟩
  exact kind_of_travels (travels last) atEnd

theorem ends_recoverToMember_of_inLastLine (within : cut.InLastLine twin) :
    Reader.recoverToMember.Ends twin fun _ last =>
      last.kind = .endOfText ∧ last.unterminated = [] := by
  have atEnd : Reader.recoverToMember.Ends twin fun _ last =>
      last.kind = .endOfText :=
    atEnd_of_skipLine within
      fun _ => .get (travels_loop proceeds_discardToMember _ _ _)
  have travels : Reader.recoverToMember.Travels twin Cause.isUnterminated :=
    travels_recoverToMember twin
  exact (atEnd.and travels).mono fun _ _ reached =>
    ⟨reached.1, reached.2.unterminated.trans within.silent⟩

/-- In the last line nothing stops the skipping of a member but the end. -/
theorem ends_skipMember_of_inLastLine
    (within : cut.InLastLine twin) (block? : Option Block) :
    (Reader.skipMember block?).Ends twin fun _ last =>
      last.kind = .endOfText ∧ last.unterminated = [] := by
  have atEnd : (Reader.skipMember block?).Ends twin fun _ last =>
      last.kind = .endOfText := by
    cases block? with
    | none =>
      unfold Reader.skipMember
      rw [ends_bind, ends_get]
      split
      · exact (ends_recoverToMember_of_inLastLine within).mono
          fun _ _ reached => reached.1
      · exact (ends_skipLine_of_inLastLine within).mono
          fun _ _ reached => reached.1
    | some block =>
      exact atEnd_of_skipLine within (travels_afterBrokenLine block)
  have travels : (Reader.skipMember block?).Travels twin
      Cause.isUnterminated :=
    travels_skipMember block? twin
  exact (atEnd.and travels).mono fun _ _ reached =>
    ⟨reached.1, reached.2.unterminated.trans within.silent⟩

end Recovery

/-- A broken last line of a script is reported and discarded. -/
theorem Cut.Breaks.unwinds_recover
    {diagnostic : Diagnostic} (breaks : cut.Breaks outer diagnostic twin) :
    (Reader.reportAndRecover diagnostic).Unwinds cut (fun _ => outer) twin := by
  have recovered : (Reader.reportAndRecover diagnostic).Ends twin
      fun _ last => last.kind = .endOfText ∧ last.unterminated = [] :=
    Recovery.ends_recoverToMember_of_inLastLine
      (breaks.inLastLine.report breaks.other)
  exact recovered.mono
    fun _ _ reached => .of_goal reached.1 reached.2 breaks.goal

/-- An error in the last line is followed by the end of the text. -/
theorem Cut.Breaks.unwinds_skipMember
    {α : Type} {stack : α → List Opening} {diagnostic : Diagnostic} (value : α)
    (breaks : cut.Breaks (stack value) diagnostic twin)
    (block? : Option Block) :
    Recovery.Unwinds (do
      Reader.report diagnostic
      Reader.skipMember block?
      return value) cut stack twin := by
  have skipped : (Reader.skipMember block?).Unwinds cut (fun _ => stack value)
      (twin.report diagnostic) :=
    (Recovery.ends_skipMember_of_inLastLine
      (breaks.inLastLine.report breaks.other) block?).mono
        fun _ _ reached => .of_goal reached.1 reached.2 breaks.goal
  show Recovery.Unwinds (do
    Reader.skipMember block?
    return value) cut stack (twin.report diagnostic)
  exact skipped.bind fun _ _ spent => .pure spent

namespace Recovery

open Reader

/-! ## The header -/

/-- A header in the last line opens nothing. -/
theorem unwinds_headerLine
    (blank : Reader.Header) (within : cut.InLastLine twin)
    (goal : cut.goal = outer) :
    (headerLine blank).Unwinds cut (fun _ => outer) twin := by
  have recovered {last : Cursor} {diagnostic : Diagnostic}
      (header : Reader.Header) (within : cut.InLastLine last)
      (other : diagnostic.cause.isUnterminated = false) :
      Unwinds (do
        reportAndRecover diagnostic
        return header) cut (fun _ => outer) last := by
    have breaks : cut.Breaks outer diagnostic last := ⟨within, other, goal⟩
    exact breaks.unwinds_recover.bind fun _ _ spent => .pure spent
  apply Unwinds.run_bind (within.stays (advances_scriptName twin).travels)
  · intro name last within
    apply Unwinds.run_bind (within.stays (travels_parentName last))
    · intro parent last within
      unfold Unwinds
      rw [ends_bind, ends_get]
      apply Ends.bind (within.travels
        (travels_loop proceeds_headerFlags _ _ last))
      intro header last within
      apply Unwinds.run_bind (within.ends_reader
        (travels_endOfDeclaration _ last)
        ((behind_endOfDeclaration _ last).mono
          (fun _ _ behind => behind) fun _ _ _ => trivial))
      · exact fun doc last ended => .pure (.of_goal ended.1 ended.2 goal)
      · exact fun diagnostic last broken => recovered _ broken.1 broken.2
    · exact fun diagnostic last broken => recovered _ broken.1 broken.2
  · exact fun diagnostic last broken => recovered _ broken.1 broken.2

theorem tells_reportAndRecover (diagnostic : Diagnostic) (cursor : Cursor) :
    (reportAndRecover diagnostic).Tells cursor :=
  .report fun cursor => (travels_recoverToMember cursor).grows

theorem grows_reportAndRecover (diagnostic : Diagnostic) (cursor : Cursor) :
    (reportAndRecover diagnostic).Grows cursor := by
  have told : (Reader.report diagnostic).Grows cursor :=
    Cursor.grows_report cursor diagnostic
  exact told.bind fun _ _ => (travels_recoverToMember _).grows

def headerEnd (header : Reader.Header) : Recovery Reader.Header := do
  match ← (endOfDeclaration "script header").run with
  | .error diagnostic =>
    reportAndRecover diagnostic
    return header
  | .ok doc => return { header with doc }

theorem grows_headerEnd (header : Reader.Header) (cursor : Cursor) :
    (headerEnd header).Grows cursor := by
  apply Grows.run_bind (travels_endOfDeclaration _ cursor)
  intro answer after
  cases answer with
  | ok doc => exact .pure _
  | error diagnostic =>
    exact (grows_reportAndRecover _ _).bind fun _ _ => .pure _

/-- A header line that is kept as a whole is read in both runs. -/
theorem tears_headerLine_within (blank : Reader.Header)
    (abreast : cut.Abreast (line ++ newline :: more) cursor twin)
    (oneLine : OneLine line) (breaks : newline.kind = .newline)
    (opens : cut.Opens outer more) :
    (headerLine blank).Tears cut (fun _ => outer) cursor twin := by
  have tells (header : Reader.Header) (diagnostic : Diagnostic)
      (cursor : Cursor) : Tells (do
        reportAndRecover diagnostic
        return header) cursor :=
    (tells_reportAndRecover _ _).bind fun _ _ => .pure _
  have growsFlags (header : Reader.Header) (cursor : Cursor) : Grows (do
      let header ← loop headerFlags (← get).budget header
      headerEnd header) cursor :=
    Grows.get ((travels_loop proceeds_headerFlags _ _ _).grows.bind
      fun header after => grows_headerEnd header after)
  apply Tears.along_run abreast breaks steady_scriptName
    fun cursor => (advances_scriptName cursor).travels
  · intro name middle
    apply Grows.run_bind (travels_parentName middle)
    intro answer after
    cases answer with
    | ok parent => exact growsFlags _ _
    | error diagnostic =>
      exact (grows_reportAndRecover _ _).bind fun _ _ => .pure _
  · exact fun _ _ => tells _ _ _
  intro name left cursor twin _ suffix abreast
  apply Tears.along_run abreast breaks steady_parentName
    travels_parentName
  · exact fun parent middle => growsFlags _ _
  · exact fun _ _ => tells _ _ _
  intro parent remains cursor twin _ suffixToo abreast
  dsimp only
  rw [← bind_assoc]
  have flags (header : Reader.Header) : Agrees (do
      loop headerFlags (← get).budget header) cursor twin
      fun _ => (cut.fork more).Amid :=
    .loop (fun _ => Fork.Amid _) proceeds_headerFlags
      (fun header _ _ amid => agrees_headerFlags header amid)
      (abreast.amid breaks)
  apply Tears.along abreast (flags _) (fun _ _ _ amid _ _ => amid)
    fun cursor => .get (travels_loop proceeds_headerFlags _ _ _)
  · exact grows_headerEnd
  intro header rest cursor twin _ suffixLast _ abreast
  have restInLine : OneLine rest := by
    have within := suffixLast.trans (suffixToo.trans suffix)
    exact fun token member => oneLine token (within.subset member)
  have ended : (endOfDeclaration "script header").Tears cut
      (fun _ => outer) (fun _ _ => False) cursor twin :=
    tears_endOfDeclaration _ abreast restInLine breaks opens
  apply Tears.run_bind ended
  · exact fun _ _ => .pure _
  · exact fun _ _ => tells _ _ _
  · exact fun _ _ _ atLine => .pure atLine
  · exact fun _ _ spent => .pure spent
  · exact fun _ _ never => never.elim

/-- The header of a script opens nothing. -/
theorem carries_header :
    Reader.header.Carries cut outer fun _ => outer where
  grows cursor := (travels_header cursor).grows
  tears := by
    intro cursor twin atLine
    obtain ⟨row, nonempty, opens, abreast⟩ := id atLine
    obtain ⟨first, row, rfl⟩ := List.exists_cons_of_ne_nil nonempty
    have here := abreast.kind.1
    apply Tears.look (by
      unfold Cursor.position
      rw [abreast.current.1, abreast.current.2, atLine.kind])
    dsimp only
    split
    · rename_i word
      rw [here] at word
      have inLine : first.kind.endsLine = false := by
        rw [word]
        rfl
      have shape : cut.Opens outer ([first] ++ row) := opens
      have behind := shape.behind_plain (List.forall_mem_singleton.2 inLine)
        (fun line => isPlain_of_kind (by rw [word]; nofun) (by rw [word]; rfl))
        fun line => by simp [Opening.ofLine?, word, Kind.isTypeKeyword]
      rcases abreast.cases_plain inLine behind with
        ⟨oneLine, goal⟩ | ⟨line, newline, more, same, oneLine, breaks, opens⟩
      · exact (unwinds_headerLine _ (abreast.inLastLine oneLine) goal).tears
      · rw [same] at abreast
        exact tears_headerLine_within _ abreast oneLine breaks opens
    · apply Tells.tears
      have told : missingHeader.Tells cursor := tells_missingHeader cursor
      exact told.bind fun _ _ => .pure _
  unwinds spent := .of_travels (travels_header _) spent

/-! ## Declarations -/

/-- What is kept of a declaration that cannot be told is discarded. -/
theorem unwinds_unseenDeclaration
    (found : Reader.ScriptBody) (diagnostic : Diagnostic)
    (opens : cut.Opens outer row) (abreast : cut.Abreast row cursor twin)
    (nonempty : row ≠ []) (starts : cursor.atDeclaration = true)
    (unseen : twin.atDeclaration = false)
    (other : diagnostic.cause.isUnterminated = false) :
    Unwinds (do
      reportAndRecover diagnostic
      return Step.again found) cut (Step.opened outer outer) twin := by
  obtain ⟨oneLine, closes⟩ := abreast.short_of_atDeclaration nonempty starts
    unseen
  have noMember : twin.atMemberStart = false := by
    rw [Cursor.atDeclaration, Bool.or_eq_false_iff] at unseen
    exact unseen.1
  have goal := goal_of_unseen opens abreast nonempty oneLine closes starts
    noMember
  have breaks : cut.Breaks outer diagnostic twin :=
    ⟨abreast.inLastLine oneLine, other, goal⟩
  exact breaks.unwinds_recover.bind fun _ _ spent => .pure spent

/-- A declaration of a script leaves open what was open in front of it. -/
theorem carries_nextDeclaration (found : Reader.ScriptBody) :
    (nextDeclaration found).Carries cut outer
      (Step.opened outer outer) := by
  have growsRecover (diagnostic : Diagnostic) (cursor : Cursor) : Grows (do
      reportAndRecover diagnostic
      return Step.again found) cursor :=
    (grows_reportAndRecover _ _).bind fun _ _ => .pure _
  have growsSkip (diagnostic : Diagnostic) (block? : Option Block)
      (cursor : Cursor) : Grows (do
        Reader.report diagnostic
        skipMember block?
        return Step.again found) cursor := by
    have told : (Reader.report diagnostic).Grows cursor :=
      Cursor.grows_report cursor diagnostic
    apply told.bind
    exact fun _ _ => (travels_skipMember _ _).grows.bind fun _ _ => .pure _
  apply carries_skipNewlines.bind
  intro _
  constructor
  -- the run on the whole text: what is open there only grows
  · intro cursor
    apply Grows.get
    split
    · exact .pure _
    · exact grows_advance.bind fun _ _ => .pure _
    · exact growsRecover _ _
    · apply Grows.run_bind (advances_importLine cursor).travels
      intro answer after
      cases answer with
      | ok next => exact .pure _
      | error diagnostic => exact growsRecover _ _
    · split
      · apply Grows.run_bind (advances_members cursor).travels
        intro answer after
        cases answer with
        | ok next => exact .pure _
        | error diagnostic => exact growsSkip _ _ _
      · exact .unexpected fun _ => growsRecover _ _
  -- both runs on the cut line: where they see the same keyword they take the
  -- same branch, and elsewhere one of them reports
  · intro cursor twin atLine
    obtain ⟨row, nonempty, opens, abreast⟩ := id atLine
    obtain ⟨first, row, rfl⟩ := List.exists_cons_of_ne_nil nonempty
    have here := abreast.kind.1
    have there := abreast.kind.2
    by_cases doc : first.kind = .docComment
    · rw [doc] at here there
      apply Tears.look (by rw [here, there])
      rw [here]
      apply Tears.take abreast
      exact fun _ => .of_opens (opens.docComment doc) abreast.next
    by_cases header : first.kind = .keyword .scriptname
    · rw [header] at here
      apply Tells.tears
      apply Tells.get
      rw [here]
      exact (tells_reportAndRecover _ _).bind fun _ _ => .pure _
    by_cases word : first.kind = .keyword .importScript
    · rw [word] at here there
      apply Tears.look (by rw [here, there])
      rw [here]
      apply Tears.run_bind (tears_importLine opens abreast word)
      · exact fun _ _ => .pure _
      · exact fun _ _ => (tells_reportAndRecover _ _).bind fun _ _ => .pure _
      · exact fun _ _ _ atLine => .pure atLine
      · exact fun _ _ spent => .pure spent
      · intro diagnostic twin breaks
        exact breaks.unwinds_recover.bind fun _ _ spent => .pure spent
    have notEnd := abreast.ne_endOfText first List.mem_cons_self
    by_cases starts : cursor.atDeclaration = true
    · by_cases seen : twin.atDeclaration = true
      · have block := abreast.memberBlock?_of_twin seen
        apply Tears.look (by
          rw [here, there]
          split
          · contradiction
          · contradiction
          · contradiction
          · contradiction
          · rw [if_pos starts, if_pos seen, block])
        rw [here]
        split
        · contradiction
        · contradiction
        · contradiction
        · contradiction
        · rw [if_pos starts]
          apply Tears.run_bind (tears_members opens abreast nonempty seen
            (by rwa [there]) (by rwa [there]))
          · exact fun _ _ => .pure _
          · exact fun _ _ => .report fun cursor =>
              (travels_skipMember _ cursor).grows.bind fun _ _ => .pure _
          · exact fun _ _ _ atLine => .pure atLine
          · exact fun _ _ spent => .pure spent
          · exact fun diagnostic twin breaks => breaks.unwinds_skipMember _ _
      -- the cut took the keyword that the whole text still has
      · apply Unwinds.tears
        apply Unwinds.get
        rw [there]
        split
        · contradiction
        · contradiction
        · contradiction
        · contradiction
        · rw [if_neg seen]
          apply Unwinds.unexpected
          exact fun diagnostic => unwinds_unseenDeclaration found diagnostic
            opens abreast nonempty starts (Bool.eq_false_iff.2 seen)
    · apply Tells.tears
      apply Tells.get
      rw [here]
      split
      · contradiction
      · contradiction
      · contradiction
      · contradiction
      · rw [if_neg starts]
        exact .unexpected fun _ =>
          (tells_reportAndRecover _ _).bind fun _ _ => .pure _
  -- behind the cut only the end of the text is left
  · intro twin spent
    apply Unwinds.get
    rw [spent.atEnd]
    exact .pure spent

theorem carries_script : Reader.script.Carries cut outer fun _ => outer := by
  apply carries_skipNewlines.bind
  intro _
  apply Carries.look fun atLine => by
    obtain ⟨row, nonempty, _, abreast⟩ := atLine
    obtain ⟨first, row, rfl⟩ := List.exists_cons_of_ne_nil nonempty
    unfold Cursor.position
    rw [abreast.current.1, abreast.current.2]
  intro start
  apply carries_header.bind
  intro top
  apply Carries.loop_bind proceeds_nextDeclaration carries_nextDeclaration
  intro found
  exact .look (fun atLine => by simp only [atLine.spanFrom]) fun _ => .pure _

end Recovery

end PapyrusScript
