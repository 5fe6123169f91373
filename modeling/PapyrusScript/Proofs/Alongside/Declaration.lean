import PapyrusScript.Proofs.Alongside.Statement

/-!
# Declarations along a row

A parameter list and the header of a property answer with what stands before
their first error and with that error, at which both runs then stand.  The
line of a declaration may be followed by a documentation comment, so here it
matters that none follows the row.

What is reported later, at the name of a function or at a keyword of a
property, is reported where a token of the row starts.  A property whose header
is broken may end with its line, but then the header has been reported.  The
block of a property goes on through its terminator, like every block.
-/

namespace PapyrusScript

variable {fork : Fork} {cursor twin : Cursor}

/-- The two runs stay in the row, or stand where a list is broken, and a fact
holds of what was read. -/
def Fork.Settled {α : Type} (fork : Fork) (fact : α → Prop) :
    α × Option Diagnostic → Cursor → Cursor → Prop :=
  fun found cursor twin => fact found.1 ∧
    match found.2 with
    | none => fork.Amid cursor twin
    | some diagnostic => fork.Fails diagnostic cursor twin

/-! ## Headers of functions and events -/

namespace Reader

theorem steady_parameter : parameter.Steady fork fun _ => True := by
  intro cursor twin amid
  apply Agrees.look (by simp only [amid.atTypeStart])
  split
  · apply (steady_typeName cursor twin amid).bind
    intro type cursor twin inside
    apply (steady_identifier _ cursor twin inside.2).bind
    intro name cursor twin inside
    apply (steady_initialConstant cursor twin inside.2).bind
    intro default cursor twin inside
    exact .look (by simp only [inside.2.spanFrom])
      (.pure ⟨trivial, inside.2⟩)
  · exact .reject amid

end Reader

namespace Recovery

open Reader

/-- One parameter more keeps both runs in the row, or the list is broken. -/
theorem agrees_nextParameter (found : List Parameter × Option Diagnostic)
    (amid : fork.Amid cursor twin) :
    (nextParameter found).Agrees cursor twin
      (Step.Parts (fun _ => fork.Amid) (fork.Settled fun _ => True)) := by
  apply Agrees.run_bind (steady_parameter cursor twin amid)
  · intro next cursor twin inside
    have amid := inside.2
    apply Agrees.look (by simp only [amid.kind])
    split
    · rename_i comma
      exact .take amid (.pure (amid.next (by rw [comma]; rfl)))
    · rename_i closing
      exact .take amid (.pure ⟨trivial, amid.next (by rw [closing]; rfl)⟩)
    · apply Agrees.bind (.unexpected amid (amid.fails _))
      exact fun _ _ _ fails => .pure ⟨trivial, fails⟩
  · exact fun _ _ _ fails => .pure ⟨trivial, fails⟩

/-- A list of parameters is read the same in both runs. -/
theorem agrees_parameters (amid : fork.Amid cursor twin) :
    Reader.parameters.Agrees cursor twin (fork.Settled fun _ => True) := by
  apply Agrees.run_bind (steady_expect _ _ rfl cursor twin amid)
  · intro _ cursor twin inside
    have amid := inside.2
    by_cases closes : cursor.kind = .symbol .closeParen
    · apply Agrees.look (by simp only [amid.kind, closes, if_true])
      simp only [closes, if_true]
      exact .take amid (.pure ⟨trivial, amid.next (by rw [closes]; rfl)⟩)
    · apply Agrees.look_congr
        (fun cursor => loop nextParameter cursor.budget ([], none))
        (by simp only [closes, if_false])
        (by simp only [amid.kind, closes, if_false])
      exact .loop (fun _ => fork.Amid)
        (fun found cursor => (proceedsTo_nextParameter found cursor).proceeds)
        (fun found _ _ amid => agrees_nextParameter found amid) amid
  · exact fun _ _ _ fails => .pure ⟨trivial, fails⟩

/-- A native function or event has the flag in its header. -/
theorem agrees_callableFlags (block : Block) (amid : fork.Amid cursor twin) :
    (callableFlags block).Agrees cursor twin
      (fork.Inside fun flags => flags.native = true →
        ∃ token, fork.known token ∧ token.kind = .keyword .native) := by
  apply Agrees.loop (fork.Inside fun flags => flags.native = true →
    ∃ token, fork.known token ∧ token.kind = .keyword .native)
    (proceeds_nextCallableFlag block) ?_
    ⟨fun native => Bool.noConfusion native, amid⟩
  intro flags cursor twin inside
  obtain ⟨seen, amid⟩ := inside
  apply Agrees.look (by simp only [amid.kind])
  split
  · rename_i word
    exact .take amid (.pure ⟨fun _ => ⟨_, amid.known, word⟩,
      amid.next (by rw [word]; rfl)⟩)
  · rename_i word
    split
    · exact .take amid (.pure ⟨seen, amid.next (by rw [word]; rfl)⟩)
    · exact .pure ⟨seen, amid⟩
  · exact .pure ⟨seen, amid⟩

theorem agrees_skipLineAfter {α : Type} {diagnostic : Diagnostic}
    (fails : fork.Fails diagnostic cursor twin) (value : α) :
    Agrees (reportAndSkipLine diagnostic >>= fun _ => pure value)
      cursor twin fun _ => fork.Along :=
  (agrees_reportAndSkipLine fails).bind fun _ _ _ along => .pure along

theorem grows_reportAndSkipLine (diagnostic : Diagnostic) :
    (reportAndSkipLine diagnostic).Grows cursor := by
  have told : (report diagnostic).Grows cursor :=
    Cursor.grows_report cursor diagnostic
  exact told.bind fun _ after => (travels_skipLine after).grows

/-- A comment behind the row has been taken, and then an error is reported. -/
theorem marked_of_fewer {α : Type} {reader : Recovery α} {start : Cursor}
    (amid : fork.Amid start twin) (reaches : start.Reaches cursor)
    (fewer : cursor.budget.length < fork.rest.length)
    (tells : reader.Tells cursor) (grows : reader.Grows cursor) :
    reader.Ends cursor fun _ after => fork.Left after ∧ fork.Told after := by
  apply (Ends.and tells grows).mono
  rintro _ after ⟨more, grows⟩
  have told := amid.along.told (Nat.lt_of_le_of_lt reaches.grows.reported more)
  exact ⟨⟨Nat.le_trans grows.budget (Nat.le_of_lt fewer), Nat.le_of_lt told⟩,
    told⟩

theorem marked_skipLineAfter
    {α : Type} {start : Cursor} {diagnostic : Diagnostic}
    (amid : fork.Amid start twin) (reaches : start.Reaches cursor)
    (fewer : cursor.budget.length < fork.rest.length) (value : α) :
    Ends (reportAndSkipLine diagnostic >>= fun _ => pure value) cursor
      fun _ after => fork.Left after ∧ fork.Told after :=
  marked_of_fewer amid reaches fewer
    ((tells_reportAndSkipLine diagnostic).bind fun _ _ => .pure _)
    ((grows_reportAndSkipLine diagnostic).bind fun _ _ => .pure _)

/-- Only a documentation comment behind the row can tell headers apart. -/
theorem agreesUnless_callableHeader
    (plain : fork.Plain) (block : Block) (context : String)
    (amid : fork.Amid cursor twin) :
    (callableHeader block context).AgreesUnless
      (fun _ after => fork.Documented ∧ fork.Left after ∧ fork.Told after)
      cursor twin fun _ => fork.Along := by
  apply (agrees_parameters amid).bindUnless
  intro found cursor twin settled
  obtain ⟨parameters, failure⟩ := found
  cases failure with
  | some diagnostic => exact .inr (agrees_skipLineAfter settled.2 _)
  | none =>
    apply (agrees_callableFlags block settled.2).bindUnless
    intro flags cursor twin inside
    rcases agreesOrFails_endOfDeclaration plain inside.2 context with
      failed | agrees
    · left
      rw [ends_bind, ends_run]
      apply (failed.and (travels_endOfDeclaration context cursor)).mono
      · exact fun _ _ never => never.1.elim
      · rintro diagnostic after ⟨⟨documented, fewer⟩, reaches, _⟩
        apply (marked_skipLineAfter inside.2 reaches fewer _).mono
        exact fun _ _ reached => ⟨documented, reached⟩
    · right
      apply Agrees.run_bind agrees
      · exact fun _ _ _ along => .pure along
      · exact fun _ _ _ fails => agrees_skipLineAfter fails _

/-- A header that takes a comment behind the row leaves it with a mark. -/
theorem marked_callableBody
    (block : Block) (opener : Token) (flags : Reader.CallableFlags)
    (marked : fork.Marked cursor) :
    (callableBody block opener flags).Ends cursor
      fun _ => fork.Marked :=
  (travels_callableBody block opener flags cursor).grows.marked marked

/-! ## Bodies of functions and events -/

theorem endsLine_of_closedBy
    {block : Block} {kind : Kind} (closed : block.closedBy kind = true) :
    kind.endsLine = false := by
  cases kind with
  | keyword word => rfl
  | _ => cases closed

/-- What follows a body passes its terminator or misses it. -/
theorem stirs_afterBody
    (block : Block) (opener : Token) (inside : List Statement)
    (cursor : Cursor) :
    Stirs (do
      if block.closedBy (← get).kind then
        let _ ← advance
        finishLine "block terminator"
      else
        reportUnterminated block opener
      return inside) cursor := by
  apply Stirs.get
  split
  · rename_i closed
    refine (advances_advance (isOrdinary_of_closedBy closed)).stirs.bind
      fun _ after => ?_
    exact (travels_finishLine _ after).grows.bind fun _ _ => .pure _
  · exact (stirs_reportUnterminated _ _).bind fun _ _ => .pure _

/-- A body is read the same, unless it goes on behind the row. -/
theorem agreesUnless_openBody (block : Block) {opener : Token}
    (opens : fork.Knows (.keyword block.opener) opener)
    (along : fork.Along cursor twin) :
    (openBody block opener).AgreesUnless (fun _ => fork.Marked)
      cursor twin fun _ => fork.Along := by
  apply (agreesUnless_body block along).bind
  · intro inside cursor twin along
    rcases along.cases_left with amid | left
    · right
      apply Agrees.look (by simp only [amid.kind])
      split
      · rename_i closed
        have next := amid.next (endsLine_of_closedBy closed)
        apply Agrees.take amid
        apply (agrees_finishLine next _).bind
        exact fun _ _ _ along => .pure along
      · apply (agrees_reportUnterminated block opens amid).bind
        exact fun _ _ _ along => .pure along
    · exact .inl ((stirs_afterBody block opener inside cursor).marked left)
  · intro inside after left
    exact (stirs_afterBody block opener inside after).marked left

theorem agreesUnless_callableBody (block : Block) {opener : Token}
    (opens : fork.Knows (.keyword block.opener) opener)
    (flags : Reader.CallableFlags) (along : fork.Along cursor twin) :
    (callableBody block opener flags).AgreesUnless
      (fun _ => fork.Marked) cursor twin fun _ => fork.Along := by
  unfold callableBody
  split
  · exact .inr (.pure along)
  · exact agreesUnless_openBody block opens along

end Recovery

namespace Reader

/-- A function is read the same, unless the first run leaves the row. -/
theorem agreesUnless_function
    (plain : fork.Plain) (returnType : Option TypeName)
    (amid : fork.Amid cursor twin) :
    (function returnType).AgreesUnless fork fork.Marked cursor twin
      fun found cursor twin =>
        fork.Starts found.name.span.start ∧ fork.Along cursor twin := by
  apply (steady_expect _ _ rfl cursor twin amid).bindUnless
  intro keyword cursor twin inside
  obtain ⟨opens, amid⟩ := inside
  apply (steady_identifier _ cursor twin amid).bindUnless
  intro name cursor twin inside
  obtain ⟨starts, amid⟩ := inside
  apply (AgreesUnless.lift ((Recovery.agreesUnless_callableHeader plain
    .function "function declaration" amid).mono (fun _ _ lost =>
      lost.2.1.marked lost.2.2) fun _ _ _ along => along)).bind
  · intro header cursor twin along
    apply (AgreesUnless.lift (Recovery.agreesUnless_callableBody .function
      opens header.flags along)).bind
    · intro inside cursor twin along
      exact .look (by simp only [along.spanFrom])
        (.inr (.pure ⟨starts, along⟩))
    · exact fun _ marked => marked
    · exact fun _ _ marked => marked
  · exact fun _ marked => marked
  · exact fun header after marked =>
      Recovery.marked_callableBody .function keyword header.flags marked

/-- An event is read the same, unless the first run leaves the row. -/
theorem agreesUnless_event (plain : fork.Plain) (amid : fork.Amid cursor twin) :
    event.AgreesUnless fork fork.Marked cursor twin fun _ => fork.Along := by
  apply (steady_expect _ _ rfl cursor twin amid).bindUnless
  intro keyword cursor twin inside
  obtain ⟨opens, amid⟩ := inside
  apply (steady_identifier _ cursor twin amid).bindUnless
  intro name cursor twin inside
  apply (AgreesUnless.lift ((Recovery.agreesUnless_callableHeader plain
    .event "event declaration" inside.2).mono (fun _ _ lost =>
      lost.2.1.marked lost.2.2) fun _ _ _ along => along)).bind
  · intro header cursor twin along
    apply (AgreesUnless.lift (Recovery.agreesUnless_callableBody .event opens
      header.flags along)).bind
    · intro inside cursor twin along
      exact .look (by simp only [along.spanFrom]) (.inr (.pure along))
    · exact fun _ marked => marked
    · exact fun _ _ marked => marked
  · exact fun _ marked => marked
  · exact fun header after marked =>
      Recovery.marked_callableBody .event keyword header.flags marked

/-! ## Variables -/

theorem agrees_variableFlags (amid : fork.Amid cursor twin) :
    variableFlags.Agrees cursor twin fun _ => fork.Amid := by
  apply Recovery.Agrees.loop (fun _ => fork.Amid) proceeds_nextVariableFlag
    ?_ amid
  intro seen cursor twin amid
  apply Recovery.Agrees.look (by simp only [amid.kind])
  split
  · rename_i word
    exact .take amid (.pure (amid.next (by rw [word]; rfl)))
  · exact .pure amid

theorem agrees_variableAfter (type : TypeName) (amid : fork.Amid cursor twin) :
    (variableAfter type).Agrees fork cursor twin fun _ => fork.Along := by
  apply (steady_identifier _ cursor twin amid).bind
  intro name cursor twin inside
  apply (steady_initialConstant cursor twin inside.2).bind
  intro initial cursor twin inside
  apply (Agrees.lift (agrees_variableFlags inside.2)).bind
  intro conditional cursor twin amid
  apply Agrees.look (by simp only [amid.spanFrom])
  apply (agrees_endOfLine amid _).bind
  exact fun _ _ _ along => .pure along

end Reader

/-! ## Properties -/

namespace Fork

/-- What a header says of a property stands in the row. -/
structure Describes (fork : Fork) (header : Reader.PropertyHeader) : Prop where
  initial : ∀ node ∈ header.initial, fork.Starts node.span.start
  automatic : ∀ token ∈ header.automatic, fork.known token

theorem Describes.blank {initial : Option Literal}
    (starts : ∀ node ∈ initial, fork.Starts node.span.start) :
    fork.Describes ⟨initial, none, false, false⟩ :=
  ⟨starts, by simp⟩

/-- What is known after the header line of a property. -/
structure Lined
    (fork : Fork) (line : Reader.PropertyLine) (cursor twin : Cursor) :
    Prop where
  describes : fork.Describes line.header
  told : line.intact = false → fork.Told cursor
  along : fork.Along cursor twin

end Fork

/-! ## Header lines -/

namespace Recovery

open Reader

variable {keyword : Token}

theorem agrees_automaticFlag
    {header : Reader.PropertyHeader} (describes : fork.Describes header)
    (amid : fork.Amid cursor twin) (inLine : cursor.kind.endsLine = false) :
    (automaticFlag header).Agrees cursor twin
      (Step.Parts (fork.Inside fun found => fork.Describes found.1)
        (fork.Settled fork.Describes)) := by
  unfold automaticFlag
  split
  · apply Agrees.bind (.unexpected amid (amid.fails _))
    exact fun _ _ _ fails => .pure ⟨describes, fails⟩
  · have seen : ∀ token ∈ some cursor.current, fork.known token := by
      rintro token ⟨rfl⟩
      exact amid.known
    exact .take amid (.pure ⟨⟨describes.initial, seen⟩, amid.next inLine⟩)

/-- One flag of a property keeps both runs in the row. -/
theorem agrees_propertyFlag {found : Reader.PropertyHeader × Option Diagnostic}
    (describes : fork.Describes found.1) (amid : fork.Amid cursor twin) :
    (propertyFlag found).Agrees cursor twin
      (Step.Parts (fork.Inside fun found => fork.Describes found.1)
        (fork.Settled fork.Describes)) := by
  apply Agrees.look (by simp only [amid.kind])
  split
  · rename_i word
    exact agrees_automaticFlag describes amid (by rw [word]; rfl)
  · rename_i word
    exact agrees_automaticFlag describes amid (by rw [word]; rfl)
  · rename_i word
    exact .take amid (.pure ⟨⟨describes.initial, describes.automatic⟩,
      amid.next (by rw [word]; rfl)⟩)
  · rename_i word
    exact .take amid (.pure ⟨⟨describes.initial, describes.automatic⟩,
      amid.next (by rw [word]; rfl)⟩)
  · exact .pure ⟨describes, amid⟩

theorem agrees_propertyHeader (amid : fork.Amid cursor twin) :
    propertyHeader.Agrees cursor twin
      (fork.Settled fork.Describes) := by
  apply Agrees.run_bind (steady_initialConstant cursor twin amid)
  · intro initial cursor twin inside
    exact .loop (fork.Inside fun found => fork.Describes found.1)
      (fun found cursor => (proceedsTo_propertyFlag found cursor).proceeds)
      (fun _ _ _ inside => agrees_propertyFlag inside.1 inside.2)
      ⟨.blank inside.1, inside.2⟩
  · exact fun _ _ _ fails => .pure ⟨.blank (by simp), fails⟩

theorem agrees_brokenPropertyLine
    {header : Reader.PropertyHeader} (describes : fork.Describes header)
    {diagnostic : Diagnostic} (fails : fork.Fails diagnostic cursor twin)
    (stop : Position) :
    Agrees (do
      reportAndSkipLine diagnostic
      return (⟨header, none, stop, false⟩ : Reader.PropertyLine)) cursor twin
      fork.Lined := by
  apply Agrees.bind ((agrees_reportAndSkipLine fails).and_ends
    (tells_reportAndSkipLine diagnostic))
  intro _ after twinAfter reached
  have told := fails.2.along.told reached.2
  exact .pure ⟨describes, fun _ => told, reached.1⟩

/-- Only a documentation comment behind the row can tell header lines apart. -/
theorem agreesUnless_propertyLine
    (plain : fork.Plain) (amid : fork.Amid cursor twin) :
    propertyLine.AgreesUnless
      (fun _ after => fork.Documented ∧ fork.Left after ∧ fork.Told after)
      cursor twin fork.Lined := by
  apply (agrees_propertyHeader amid).bindUnless
  intro found cursor twin settled
  obtain ⟨header, failure⟩ := found
  obtain ⟨describes, settled⟩ := settled
  cases failure with
  | some diagnostic =>
    right
    apply Agrees.look (by simp only [settled.2.lastEnd])
    exact agrees_brokenPropertyLine describes settled _
  | none =>
    apply AgreesUnless.look (by simp only [Fork.Amid.lastEnd settled])
    rcases agreesOrFails_endOfDeclaration plain settled
        "property declaration" with failed | agrees
    · left
      rw [ends_bind, ends_run]
      apply (failed.and (travels_endOfDeclaration _ cursor)).mono
      · exact fun _ _ never => never.1.elim
      · rintro diagnostic after ⟨⟨documented, fewer⟩, reaches, _⟩
        rw [ends_bind, ends_get]
        apply (marked_skipLineAfter settled reaches fewer _).mono
        exact fun _ _ reached => ⟨documented, reached⟩
    · right
      apply Agrees.run_bind agrees
      · exact fun _ _ _ along => .pure ⟨describes, nofun, along⟩
      · intro diagnostic cursor twin fails
        apply Agrees.look (by simp only [fails.2.lastEnd])
        exact agrees_brokenPropertyLine describes fails _

/-! ## Accessors -/

theorem agreesUnless_accessor
    (plain : fork.Plain) (amid : fork.Amid cursor twin) :
    accessor.AgreesUnless fork fork.Marked cursor twin
      fun found cursor twin =>
        fork.Starts found.name.span.start ∧ fork.Along cursor twin := by
  apply Reader.AgreesUnless.look (by simp only [amid.kind])
  split
  · exact agreesUnless_function plain none amid
  · apply (steady_typeName cursor twin amid).bindUnless
    intro type cursor twin inside
    exact agreesUnless_function plain (some type) inside.2

section Placing

variable {found : Function} (starts : fork.Starts found.name.span.start)

include starts

theorem agrees_complainIf
    (applies : Bool) {cause : Cause} (silent : cause.found? = none)
    (along : fork.Along cursor twin) :
    (complainIf applies found cause).Agrees cursor twin
      fun _ => fork.Along := by
  unfold complainIf
  split
  · exact agrees_complain (starts.points silent) along
  · exact .pure along

/-- What is reported of a function of a property is reported at its name. -/
theorem agrees_placeAccessor (property : String) (accessors : Reader.Accessors)
    (along : fork.Along cursor twin) :
    (placeAccessor property accessors found).Agrees cursor twin
      fun _ => fork.Along := by
  unfold placeAccessor
  dsimp only
  split
  · apply (agrees_complainIf starts _ rfl along).bind
    intro _ cursor twin along
    apply (agrees_complainIf starts _ rfl along).bind
    exact fun _ _ _ along => .pure along
  · split
    · apply (agrees_complainIf starts _ rfl along).bind
      intro _ cursor twin along
      apply (agrees_complainIf starts _ rfl along).bind
      exact fun _ _ _ along => .pure along
    · apply (agrees_complainIf starts _ rfl along).bind
      exact fun _ _ _ along => .pure along

end Placing

theorem stirs_skipLineAfter {α : Type} (diagnostic : Diagnostic) (value : α) :
    Stirs (reportAndSkipLine diagnostic >>= fun _ => pure value)
      cursor := by
  have told : (report diagnostic).Stirs cursor :=
    Cursor.stirs_report cursor diagnostic
  have skipped : (reportAndSkipLine diagnostic).Stirs cursor :=
    told.bind fun _ after => (travels_skipLine after).grows
  exact skipped.bind fun _ _ => .pure value

/-- An accessor has a keyword of its own, and so has the end of the block;
anything else is reported. -/
theorem stirs_nextAccessor
    (keyword : Token) (property : String) (accessors : Reader.Accessors)
    (cursor : Cursor) :
    (nextAccessor keyword property accessors).Stirs cursor := by
  apply (travels_skipNewlines cursor).grows.bind_stirs
  intro _ cursor
  apply Stirs.get
  split
  · rename_i word
    apply (advances_of_kind word rfl).stirs.bind
    intro _ after
    exact (travels_finishLine _ after).grows.bind fun _ _ => .pure _
  · split
    · rename_i doc
      exact (advances_of_kind doc rfl).stirs.bind fun _ _ => .pure _
    · split
      · apply stirs_run_bind (advances_accessor cursor)
        · intro found after
          exact (travels_placeAccessor _ _ _ after).grows.bind
            fun _ _ => .pure _
        · exact fun diagnostic after => stirs_skipLineAfter diagnostic _
      · split
        · exact (stirs_reportUnterminated _ _).bind fun _ _ => .pure _
        · exact .unexpected fun _ => stirs_skipLineAfter _ _

theorem keeps_nextAccessor
    (keyword : Token) (property : String) (accessors : Reader.Accessors)
    (cursor : Cursor) (left : fork.Left cursor) :
    (nextAccessor keyword property accessors).Ends cursor
      (Step.Settles (fun _ => fork.Left) fun _ => fork.Marked) := by
  apply ((stirs_nextAccessor keyword property accessors cursor).marked
    left).mono
  intro decision after marked
  cases decision with
  | again => exact marked.toLeft
  | done => exact marked

/-- A function of a property is read the same, or the first run has left. -/
theorem agreesUnless_nextAccessor
    (plain : fork.Plain) (opens : fork.Knows (.keyword .property) keyword)
    (property : String) (accessors : Reader.Accessors)
    (along : fork.Along cursor twin) :
    (nextAccessor keyword property accessors).AgreesUnless
      (Step.Settles (fun _ => fork.Left) fun _ => fork.Marked) cursor twin
      (Step.Parts (fun _ => fork.Along) fun _ => fork.Along) := by
  apply agreesUnless_afterNewlines along ?_
    (keeps_nextAccessor keyword property accessors)
  intro cursor twin amid
  apply AgreesUnless.look (by
    simp only [amid.kind, amid.atFunctionStart, amid.atMemberStart])
  split
  · rename_i word
    right
    apply Agrees.take amid
    apply (agrees_finishLine (amid.next (by rw [word]; rfl)) _).bind
    exact fun _ _ _ along => .pure along
  · split
    · rename_i doc
      right
      exact .take amid (.pure (amid.next (by rw [doc]; rfl)).along)
    · split
      · apply AgreesUnless.run_bind (agreesUnless_accessor plain amid)
        · intro found cursor twin reached
          right
          apply (agrees_placeAccessor reached.1 property accessors
            reached.2).bind
          exact fun _ _ _ along => .pure along
        · exact fun _ _ _ fails => .inr (agrees_skipLineAfter fails _)
        · intro answer after marked
          cases answer with
          | ok found =>
            have placed := travels_placeAccessor property accessors found
            exact ((placed after).grows.bind fun _ _ => .pure _).left
              marked.toLeft
          | error diagnostic =>
            have skipped : Grows _ after :=
              (stirs_skipLineAfter diagnostic
                (Step.again accessors)).mono fun _ _ stirs => stirs.toGrows
            exact skipped.left marked.toLeft
      · right
        split
        · apply (agrees_reportUnterminated _ opens amid).bind
          exact fun _ _ _ along => .pure along
        · apply Agrees.bind (.unexpected amid (amid.fails _))
          exact fun _ _ _ fails => agrees_skipLineAfter fails _

/-- The block of a property is read the same, unless it goes on elsewhere. -/
theorem agreesUnless_accessorList
    (plain : fork.Plain) (opens : fork.Knows (.keyword .property) keyword)
    (property : String) (along : fork.Along cursor twin) :
    (accessorList keyword property).AgreesUnless
      (fun _ => fork.Marked) cursor twin fun _ => fork.Along := by
  apply AgreesUnless.inBlock
  apply AgreesUnless.mono
    (AgreesUnless.loop (fun _ => fork.Along) fork.Left
      (proceeds_nextAccessor keyword property)
      (fun accessors _ _ along =>
        agreesUnless_nextAccessor plain opens property accessors along)
      (keeps_nextAccessor keyword property) (along.enter .property))
  · exact fun _ _ marked =>
      ⟨⟨marked.budget, marked.reported⟩, marked.happened⟩
  · exact fun _ _ _ along => along.leave

theorem agrees_reportNoAccessor (opens : fork.known keyword) (property : String)
    (accessors : Reader.Accessors) (along : fork.Along cursor twin) :
    (reportNoAccessor keyword property accessors).Agrees cursor twin
      fun _ => fork.Along := by
  unfold reportNoAccessor
  split
  · have starts : fork.Starts keyword.span.start := ⟨keyword, opens, rfl⟩
    exact agrees_complain (starts.points rfl) along
  · exact .pure along

theorem agreesUnless_propertyBlock
    (plain : fork.Plain) (opens : fork.Knows (.keyword .property) keyword)
    (property : String) (along : fork.Along cursor twin) :
    (propertyBlock keyword property).AgreesUnless
      (fun _ => fork.Marked) cursor twin fun _ => fork.Along := by
  apply (agreesUnless_accessorList plain opens property along).bind
  · intro accessors cursor twin along
    right
    apply (agrees_reportNoAccessor opens.1 property accessors along).bind
    exact fun _ _ _ along => .pure along
  · intro accessors after marked
    exact ((travels_reportNoAccessor _ _ _ after).grows.bind
      fun _ _ => .pure _).marked marked

/-! ## Sources of values -/

/-- A header line that may be all there is has been reported. -/
theorem agreesUnless_standsAlone
    {line : Reader.PropertyLine} (lined : fork.Lined line cursor twin) :
    (standsAlone line).AgreesUnless (fun _ => fork.Marked) cursor twin
      fun _ => fork.Along := by
  unfold standsAlone
  split
  · exact .inr (.pure lined.along)
  · rename_i broken
    simp only [Bool.or_eq_true, not_or, Bool.not_eq_true] at broken
    have told := lined.told broken.1
    have looks (cursor : Cursor) : Travels (do
        skipNewlines
        return !(← get).atFunctionStart) cursor :=
      (travels_skipNewlines cursor).bind fun _ _ => .get (.pure _)
    have looked : AgreesUnless (do
        skipNewlines
        return !(← get).atFunctionStart) (fun _ => fork.Left) cursor twin
        fun _ => fork.Along := by
      apply agreesUnless_afterNewlines lined.along
      · intro cursor twin amid
        exact .look (by simp only [amid.atFunctionStart])
          (.inr (.pure amid.along))
      · exact fun cursor left => (looks cursor).grows.left left
    apply (looked.and_ends (looks cursor).grows).mono
    · intro value after reached
      exact reached.1.marked (Nat.lt_of_lt_of_le told reached.2.reported)
    · exact fun _ _ _ reached => reached.1

/-- A value that is missing is reported at the keyword of the property. -/
theorem agrees_automaticSource (property : String) (opens : fork.known keyword)
    (line : Reader.PropertyLine) (along : fork.Along cursor twin) :
    (automaticSource property keyword line).Agrees cursor twin
      fun _ => fork.Along := by
  have missing : (reportMissingValue property keyword line).Agrees
      cursor twin fun _ => fork.Along := by
    unfold reportMissingValue
    split
    · have starts : fork.Starts keyword.span.start := ⟨keyword, opens, rfl⟩
      exact agrees_complain (starts.points rfl) along
    · exact .pure along
  unfold automaticSource
  split
  · split
    · exact .pure along
    · exact missing.bind fun _ _ _ along => .pure along
  · exact .pure along

theorem agrees_reportInitialValue (property : String) {initial : Option Literal}
    (starts : ∀ node ∈ initial, fork.Starts node.span.start)
    (along : fork.Along cursor twin) :
    (reportInitialValue property initial).Agrees cursor twin
      fun _ => fork.Along := by
  unfold reportInitialValue
  split
  · exact agrees_complain ((starts _ rfl).points rfl) along
  · exact .pure along

theorem agreesUnless_fullSource (plain : fork.Plain) (property : String)
    (opens : fork.Knows (.keyword .property) keyword)
    {line : Reader.PropertyLine} (describes : fork.Describes line.header)
    (along : fork.Along cursor twin) :
    (fullSource property keyword line).AgreesUnless
      (fun _ => fork.Marked) cursor twin fun _ => fork.Along := by
  apply (agrees_reportInitialValue property describes.initial
    along).bindUnless
  intro _ cursor twin along
  apply (agreesUnless_propertyBlock plain opens property along).bind
  · exact fun _ _ _ along => .inr (.pure along)
  · exact fun _ _ marked => marked

end Recovery

namespace Reader

open Recovery

/-- What follows the header line of a property moves along a path. -/
theorem travels_propertySource
    (type : TypeName) (name : Identifier) (keyword : Token)
    (line : PropertyLine) (alone : Bool) (cursor : Cursor) :
    Reader.Travels (do
      let build (source : PropertySource) (stop : Position) : Property :=
        { type
          name
          source
          hidden := line.header.hidden
          conditional := line.header.conditional
          doc := line.doc
          span := ⟨type.span.start, stop⟩ }
      if alone then
        return build (.auto line.header.initial) line.stop
      else
        match line.header.automatic with
        | some automatic =>
          let source ← automaticSource name.name automatic line
          return build source line.stop
        | none =>
          let source ← fullSource name.name keyword line
          return build source (← get).lastEnd) cursor := by
  split
  · exact .pure _
  · split
    · rename_i automatic _
      have source :=
        (travels_automaticSource name.name automatic line cursor).lift
      exact source.bind fun _ _ => .pure _
    · have source :=
        (travels_fullSource name.name keyword line cursor).lift
      exact source.bind fun _ _ => .get (.pure _)

/-- A property is read the same, unless the first run leaves the row. -/
theorem agreesUnless_propertyAfter
    (plain : fork.Plain) (type : TypeName) (amid : fork.Amid cursor twin) :
    (propertyAfter type).AgreesUnless fork fork.Marked cursor twin
      fun _ => fork.Along := by
  apply (steady_expect _ _ rfl cursor twin amid).bindUnless
  intro keyword cursor twin inside
  obtain ⟨opens, amid⟩ := inside
  apply (steady_identifier _ cursor twin amid).bindUnless
  intro name cursor twin inside
  apply (AgreesUnless.lift ((agreesUnless_propertyLine plain
    inside.2).mono (fun _ _ lost => lost.2.1.marked lost.2.2)
      fun _ _ _ lined => lined)).bind
  · intro line cursor twin lined
    have describes := lined.describes
    apply (AgreesUnless.lift (agreesUnless_standsAlone lined)).bind
    · intro alone cursor twin along
      split
      · exact .inr (.pure along)
      · split
        · rename_i automatic found
          right
          have known := describes.automatic automatic found
          apply (Agrees.lift (agrees_automaticSource _ known line
            along)).bind
          exact fun _ _ _ along => .pure along
        · apply (AgreesUnless.lift (agreesUnless_fullSource plain
            name.name opens describes along)).bind
          · intro source cursor twin along
            exact .look (by simp only [along.lastEnd]) (.inr (.pure along))
          · exact fun _ marked => marked
          · exact fun _ _ marked => marked
    · exact fun _ marked => marked
    · intro alone after marked
      exact (Travels.run (travels_propertySource type name keyword line alone
        after)).grows.marked marked
  · exact fun _ marked => marked
  · intro line after marked
    have alone := (travels_standsAlone line after).lift
    have rest := alone.bind fun alone after =>
      travels_propertySource type name keyword line alone after
    exact (Travels.run rest).grows.marked marked

end Reader

end PapyrusScript
