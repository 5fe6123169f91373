import PapyrusScript.Proofs.Rejoining

/-!
# A script up to a place between its declarations

A script is read declaration by declaration.  `DeclaredUpTo` says where this
comes by, and what has been declared so far.  From any such place the script
is read to the same end.  A second text that goes on differently behind the
place is read up to it in the same way, if the first one has no errors.
-/

namespace PapyrusScript

open Cursor Recovery

/-- Of a text the header and some declarations have been read, and the cursor
stands behind them. -/
inductive DeclaredUpTo (tokens : List Token) :
    Reader.ScriptBody → Cursor → Prop
  | top : DeclaredUpTo tokens ⟨[], []⟩ (scriptTop.run (start tokens)).2
  | line {found : Reader.ScriptBody} {cursor : Cursor}
      (upTo : DeclaredUpTo tokens found cursor)
      (breaks : cursor.kind = .newline) :
      DeclaredUpTo tokens found cursor.next
  | next {found further : Reader.ScriptBody} {cursor after : Cursor}
      (upTo : DeclaredUpTo tokens found cursor)
      (goesOn : (Reader.nextDeclaration found).run cursor =
        (.again further, after)) :
      DeclaredUpTo tokens further after

def Reader.Header.over
    (top : Reader.Header) (found : Reader.ScriptBody) (span : Span) :
    Script where
  name := top.name
  parent := top.parent
  hidden := top.hidden
  conditional := top.conditional
  native := top.native
  doc := top.doc
  imports := found.imports
  members := found.members
  span

/-- A script is what its header and its declarations add up to. -/
theorem exists_over_of_finishes
    {cursor after : Cursor} {final : Reader.ScriptBody}
    (finished : Recovery.Finishes Reader.nextDeclaration ⟨[], []⟩
      (scriptTop.run cursor).2 final after) :
    ∃ span, Reader.script.run cursor =
      ((scriptTop.run cursor).1.over final span, after) := by
  have finishes := terminates_of_proceeds
    proceeds_nextDeclaration ⟨[], []⟩
    (scriptTop.run cursor).2
  obtain ⟨value, place⟩ := finishes.unique finished
  refine ⟨after.spanFrom (Reader.skipNewlines.run cursor).2.position, ?_⟩
  have ran : (loop Reader.nextDeclaration
      (scriptTop.run cursor).2.budget ⟨[], []⟩).run
        (scriptTop.run cursor).2 = (final, after) :=
    Prod.ext value place
  have whole : Reader.script.run cursor =
      (fun ended : Reader.ScriptBody × Cursor =>
        ((scriptTop.run cursor).1.over ended.1
          (ended.2.spanFrom (Reader.skipNewlines.run cursor).2.position),
          ended.2))
        ((loop Reader.nextDeclaration
          (scriptTop.run cursor).2.budget ⟨[], []⟩).run
            (scriptTop.run cursor).2) :=
    rfl
  rw [whole, ran]

namespace DeclaredUpTo

open Reader Recovery

variable {tokens : List Token} {found : Reader.ScriptBody} {cursor : Cursor}
variable {after : Cursor}

theorem reaches (upTo : DeclaredUpTo tokens found cursor) :
    (start tokens).Reaches cursor := by
  induction upTo with
  | top => exact travels_scriptTop (start tokens)
  | line _ breaks ih =>
    exact ih.trans (advances_of_kind breaks rfl).1
  | @next found _ cursor _ _ goesOn ih =>
    have proceeded := proceeds_nextDeclaration found cursor
    unfold Recovery.Proceeds Recovery.Ends at proceeded
    rw [goesOn] at proceeded
    exact ih.trans proceeded.1

/-- What the rest of a text adds is added to what was declared. -/
theorem finishes
    {final : Reader.ScriptBody} (upTo : DeclaredUpTo tokens found cursor)
    (finished : Recovery.Finishes nextDeclaration found cursor final after) :
    Recovery.Finishes nextDeclaration ⟨[], []⟩
      (scriptTop.run (start tokens)).2 final after := by
  induction upTo with
  | top => exact finished
  | line _ breaks ih =>
    exact ih (finished.of_newlines
      (advances_of_kind breaks rfl).1
      (run_skipNewlines_next breaks))
  | @next found _ cursor _ _ goesOn ih =>
    have proceeded := proceeds_nextDeclaration found cursor
    unfold Recovery.Proceeds Recovery.Ends at proceeded
    rw [goesOn] at proceeded
    exact ih (.again goesOn (proceeded.2 rfl) finished)

/-- The script that is read, from any place between its declarations. -/
theorem exists_script
    {final : Reader.ScriptBody} (upTo : DeclaredUpTo tokens found cursor)
    (finished : Recovery.Finishes nextDeclaration found cursor final after) :
    ∃ span, script.run (start tokens) =
      ((scriptTop.run (start tokens)).1.over final span, after) :=
  exists_over_of_finishes (upTo.finishes finished)

/-- Nothing has been reported on the way through a text without errors. -/
theorem reported_of_silent (upTo : DeclaredUpTo tokens found cursor)
    (silent : (Parsed.ofTokens tokens).diagnostics = []) :
    cursor.reported = [] := by
  have proceeds := proceeds_nextDeclaration
  have finished := Recovery.terminates_of_proceeds proceeds found cursor
  obtain ⟨_, whole⟩ := upTo.exists_script finished
  have fewer := (Recovery.Finishes.grows proceeds finished).reported
  rw [Parsed.ofTokens_eq, List.reverse_eq_nil_iff] at silent
  rw [whole] at silent
  rw [silent] at fewer
  exact List.eq_nil_of_length_eq_zero (Nat.le_zero.1 fewer)

/-- No declaration of a text without errors reports anything. -/
theorem not_tells (upTo : DeclaredUpTo tokens found cursor)
    (silent : (Parsed.ofTokens tokens).diagnostics = []) :
    ¬ (nextDeclaration found).Tells cursor := by
  intro told
  have proceeds := proceeds_nextDeclaration
  have finished := Recovery.terminates_of_proceeds proceeds found cursor
  unfold Recovery.Ends at finished
  generalize ((loop nextDeclaration cursor.budget found).run cursor) =
    last at finished
  obtain ⟨_, whole⟩ := upTo.exists_script finished
  rw [Parsed.ofTokens_eq, List.reverse_eq_nil_iff, whole] at silent
  unfold Recovery.Tells Recovery.Ends at told
  cases finished with
  | done stops =>
    rw [stops, silent] at told
    exact Nat.not_lt_zero _ told
  | again goesOn _ rest =>
    rw [goesOn, (rest.grows proceeds).silent silent] at told
    exact Nat.not_lt_zero _ told

theorem behind_newlines (upTo : DeclaredUpTo tokens found cursor) :
    DeclaredUpTo tokens found (skipNewlines.run cursor).2 := by
  have step (value : Unit) (middle : Cursor)
      (upTo : DeclaredUpTo tokens found middle) :
      (passNewline value).Ends middle
        (Step.Settles (fun _ => DeclaredUpTo tokens found)
          fun _ => DeclaredUpTo tokens found) := by
    unfold passNewline
    rw [Recovery.ends_bind, Recovery.ends_get]
    split
    · rename_i breaks
      exact upTo.line breaks
    · exact upTo
  exact Recovery.ends_loop_of_keeps _ proceeds_passNewline step () upTo

/-- Documentation comments in front of a declaration are passed. -/
theorem exists_behind_comments
    {comments rest : List Token} (upTo : DeclaredUpTo tokens found cursor)
    (here : cursor.budget = comments ++ rest)
    (commented : ∀ token ∈ comments, token.kind = .docComment) :
    ∃ after, DeclaredUpTo tokens found after ∧ after.budget = rest ∧
      after.reported = cursor.reported := by
  induction comments generalizing cursor with
  | nil => exact ⟨cursor, upTo, here, rfl⟩
  | cons token comments ih =>
    have doc : cursor.kind = .docComment :=
      (kind_of_budget here).trans (commented token List.mem_cons_self)
    have behind : cursor.next.budget = comments ++ rest :=
      budget_next_of_budget here (by
        rw [commented token List.mem_cons_self]
        nofun)
    obtain ⟨after, upTo, place, told⟩ := ih
      (upTo.next (passesGaps_nextDeclaration.comment found cursor doc))
      behind fun other later =>
        commented other (List.mem_cons_of_mem _ later)
    exact ⟨after, upTo, place, told.trans (reported_next cursor)⟩

/-- Every place between the declarations is in front of the first one or
behind it. -/
theorem top_or_length_le
    {length : Nat} (upTo : DeclaredUpTo tokens found cursor)
    (line : (scriptTop.run (start tokens)).2.kind ≠ .newline)
    (first : ((nextDeclaration ⟨[], []⟩).run
      (scriptTop.run (start tokens)).2).2.budget.length ≤ length) :
    cursor = (scriptTop.run (start tokens)).2 ∧ found = ⟨[], []⟩ ∨
      cursor.budget.length ≤ length := by
  induction upTo with
  | top => exact .inl ⟨rfl, rfl⟩
  | @line _ cursor _ breaks ih =>
    rcases ih with ⟨rfl, -⟩ | behind
    · exact absurd breaks line
    · have passed : cursor.Reaches cursor.next :=
        (advances_of_kind breaks rfl).1
      exact .inr (Nat.le_trans passed.length_le behind)
  | @next found _ cursor _ _ goesOn ih =>
    right
    rcases ih with ⟨rfl, rfl⟩ | behind
    · rwa [goesOn] at first
    · have proceeded := proceeds_nextDeclaration found cursor
      unfold Recovery.Proceeds Recovery.Ends at proceeded
      rw [goesOn] at proceeded
      exact Nat.le_trans proceeded.1.length_le behind

/-- What is declared later stands behind what was declared before. -/
theorem exists_later
    {later : Reader.ScriptBody} (upTo : DeclaredUpTo tokens found cursor)
    (finished : Recovery.Finishes nextDeclaration ⟨[], []⟩ cursor later after) :
    ∃ span, script.run (start tokens) =
      ((scriptTop.run (start tokens)).1.over (found.append later)
        span, after) := by
  have appended := finished.append found
  have nothing : found.append ⟨[], []⟩ = found := by
    simp [Reader.ScriptBody.append]
  rw [nothing] at appended
  exact upTo.exists_script appended

theorem exists_members (upTo : DeclaredUpTo tokens found cursor) :
    ∃ later, (Parsed.ofTokens tokens).script.members =
      found.members ++ later := by
  have finished := Recovery.terminates_of_proceeds
    proceeds_nextDeclaration ⟨[], []⟩ cursor
  obtain ⟨_, whole⟩ := upTo.exists_later finished
  rw [Parsed.ofTokens_eq, whole]
  exact ⟨_, rfl⟩

/-- Two texts that have joined declare the same from there on. -/
theorem exists_rejoined
    {others : List Token} {foundTwin : Reader.ScriptBody} {twin : Cursor}
    {failure : Diagnostic} (upTo : DeclaredUpTo tokens found cursor)
    (twinUpTo : DeclaredUpTo others foundTwin twin)
    (silent : (Parsed.ofTokens tokens).diagnostics = [])
    (joined : Rejoined failure cursor twin) :
    ∃ later laterTwin span spanTwin, later.Same laterTwin ∧
      (Parsed.ofTokens tokens).script =
        (scriptTop.run (start tokens)).1.over
          (found.append later) span ∧
      (Parsed.ofTokens others).script =
        (scriptTop.run (start others)).1.over
          (foundTwin.append laterTwin) spanTwin ∧
      FirstReport failure (script.run (start others)).2.reported := by
  have finishes := Recovery.terminates_of_proceeds
    proceeds_nextDeclaration ⟨[], []⟩
  obtain ⟨span, whole⟩ := upTo.exists_later (finishes cursor)
  obtain ⟨spanTwin, wholeTwin⟩ := twinUpTo.exists_later (finishes twin)
  rw [Parsed.ofTokens_eq, List.reverse_eq_nil_iff] at silent
  rw [whole] at silent
  have both (news : List Diagnostic) :
      (loop nextDeclaration cursor.budget ⟨[], []⟩).Matches
        (.valid news) (loop nextDeclaration twin.budget ⟨[], []⟩)
        ScriptBody.Same :=
    (Recovery.Matches.loop
      (fun _ _ same => matches_nextDeclaration scriptsGrow_same same)
      (congrArg List.length joined.budget)
      ⟨⟨rfl, rfl⟩, fun _ => rfl⟩).mono fun _ _ same => same.known
  obtain ⟨same, last⟩ := Recovery.Matches.rejoined both joined silent
  refine ⟨_, _, span, spanTwin, same, ?_, ?_, ?_⟩
  · rw [Parsed.ofTokens_eq]
    exact congrArg Prod.fst whole
  · rw [Parsed.ofTokens_eq]
    exact congrArg Prod.fst wholeTwin
  · rw [wholeTwin]
    exact last.reported

/-! ## A second text -/

variable {others : List Token} {fork : Fork}

/-- Another text is read in the same way up to a place in front of which
nothing was reported and that is not behind the common row. -/
theorem exists_along
    (upTo : DeclaredUpTo tokens found cursor) (plain : fork.Plain)
    (along : fork.Along (start tokens) (start others))
    (silent : cursor.reported.length ≤ fork.told.length)
    (ahead : fork.rest.length ≤ cursor.budget.length) :
    (scriptTop.run (start others)).1 = (scriptTop.run (start tokens)).1 ∧
      ∃ twin, DeclaredUpTo others found twin ∧ fork.Along cursor twin := by
  have unmarked {cursor : Cursor}
      (silent : cursor.reported.length ≤ fork.told.length)
      (ahead : fork.rest.length ≤ cursor.budget.length) :
      ¬ fork.Marked cursor := by
    intro marked
    have happened := marked.happened
    omega
  induction upTo with
  | top =>
    rcases agreesUnless_scriptTop plain along with lost | agrees
    · exact (unmarked silent ahead lost).elim
    · exact ⟨agrees.1, _, .top, agrees.2⟩
  | @line found cursor upTo breaks ih =>
    have inside : cursor.kind ≠ .endOfText := by
      rw [breaks]
      nofun
    rw [reported_next] at silent
    have longer := precedes_next inside
    unfold Precedes at longer
    obtain ⟨top, twin, upTo, along⟩ := ih silent
      (Nat.le_trans ahead (Nat.le_of_lt longer))
    rcases along.cases with amid | ⟨here, _⟩
    · exact ⟨top, twin.next, .line upTo (amid.kind.trans breaks),
        amid.next_along inside⟩
    · rw [here] at longer
      omega
  | @next found further cursor after upTo goesOn ih =>
    have grows := (proceeds_nextDeclaration found
      cursor).travels.grows
    unfold Recovery.Grows Recovery.Ends at grows
    rw [goesOn] at grows
    obtain ⟨top, twin, upTo, along⟩ := ih
      (Nat.le_trans grows.reported silent)
      (Nat.le_trans ahead grows.budget)
    rcases agreesUnless_nextDeclaration plain found along with
      lost | agrees
    · unfold Recovery.Ends at lost
      rw [goesOn] at lost
      exact (unmarked silent ahead lost).elim
    · obtain ⟨twinAfter, ran, along⟩ := agrees.of_run goesOn
      exact ⟨top, twinAfter, .next upTo ran, along⟩

end DeclaredUpTo

/-! ## Texts with a common front -/

section Front

variable {front rest other : List Token}

def Fork.behind (front rest other : List Token) : Fork where
  rest := rest ++ missingEnd (front ++ rest)
  other := other ++ missingEnd (front ++ other)
  told := []
  toldOther := []
  known _ := True

/-- Two texts that go on differently behind a common front, which ends with a
line break, stand in front of it. -/
theorem Fork.faces_start
    {fork : Fork} (breaks : ∃ row line, front = row ++ [line] ∧
      line.kind = .newline)
    (here : fork.rest = rest ++ missingEnd (front ++ rest))
    (there : fork.other = other ++ missingEnd (front ++ other))
    (told : fork.told = []) (toldOther : fork.toldOther = [])
    (known : ∀ token ∈ front, fork.known token) :
    fork.Faces front (start (front ++ rest)) (start (front ++ other)) where
  here := by rw [budget_start, List.append_assoc, here]
  there := by rw [budget_start, List.append_assoc, there]
  closed token last := by
    obtain ⟨row, line, shape, breaks⟩ := breaks
    rw [shape, List.getLast?_concat] at last
    rw [← Option.some.inj last, breaks]
    rfl
  known := known
  lastEnd := by
    obtain ⟨row, line, shape, -⟩ := breaks
    obtain ⟨first, more, rfl⟩ := List.exists_cons_of_ne_nil
      (show front ≠ [] by simp [shape])
    have current (rest : List Token) :
        (start (first :: more ++ rest)).current = first :=
      current_of_budget (budget_start _)
    rw [lastEnd_start_eq, lastEnd_start_eq, current, current]
  openBlocks := by rw [openBlocks_start, openBlocks_start]
  lexical _ _ _ := by rw [lastLexical_start, lastLexical_start]
  reported := ⟨[], by simp [told], by simp [toldOther], List.forall_mem_nil _⟩

/-- Where nothing was told in front of the row, both runs are silent or
neither is. -/
theorem Fork.Faces.silent_twin
    {fork : Fork} {row : List Token} {cursor twin : Cursor}
    (faces : fork.Faces row cursor twin) (toldOther : fork.toldOther = [])
    (silent : cursor.reported = []) : twin.reported = [] := by
  obtain ⟨news, here, there, -⟩ := faces.reported
  rw [silent] at here
  rw [there, (List.append_eq_nil_iff.1 here.symm).1, toldOther]
  rfl

/-- What was declared in front of two texts' difference is the same in both,
and nothing was reported. -/
theorem DeclaredUpTo.exists_twin {found : Reader.ScriptBody} {cursor : Cursor}
    (upTo : DeclaredUpTo (front ++ rest) found cursor)
    (here : cursor.budget = rest ++ missingEnd (front ++ rest))
    (silent : cursor.reported = [])
    (breaks : ∃ row line, front = row ++ [line] ∧ line.kind = .newline)
    (plain : (Fork.behind front rest other).Plain) :
    (scriptTop.run (start (front ++ other))).1 =
        (scriptTop.run (start (front ++ rest))).1 ∧
      ∃ twin, DeclaredUpTo (front ++ other) found twin ∧
        twin.budget = other ++ missingEnd (front ++ other) ∧
          twin.reported = [] := by
  have faces : (Fork.behind front rest other).Faces front
      (start (front ++ rest)) (start (front ++ other)) :=
    Fork.faces_start breaks rfl rfl rfl rfl fun _ _ => trivial
  obtain ⟨top, twin, upTo, row, faces⟩ := upTo.exists_along plain
    ⟨front, faces⟩ (by simp [silent]) (by rw [here]; exact Nat.le_refl _)
  refine ⟨top, twin, upTo, ?_, faces.silent_twin rfl silent⟩
  have used : row = [] := by
    have place := faces.here
    rw [here] at place
    exact List.self_eq_append_left.1 place
  rw [faces.there, used]
  rfl

end Front

end PapyrusScript
