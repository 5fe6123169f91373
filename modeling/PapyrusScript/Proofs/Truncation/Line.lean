import PapyrusScript.Proofs.Truncation.Tears

/-!
# Lines of a text that is cut

A line that is kept as a whole is read the same in both runs, part by part, up
to its end.  The parts of a line leave the cursors in it; its end takes them
to the next line, or the second one to the end of what is kept.
-/

namespace PapyrusScript

variable {α β : Type} {cut : Cut} {cursor twin after twinAfter : Cursor}
  {stack : α → List Opening} {outer broken : List Opening}
  {refused : Diagnostic → Cursor → Prop}
  {line row more : List Token} {newline : Token}

namespace Cut

/-! ## Along a whole line -/

def fork (cut : Cut) (more : List Token) : Fork where
  rest := more ++ cut.rest
  other := more ++ [cut.last]
  told := []
  toldOther := []
  known := fun _ => True

/-- In a line that is kept as a whole both runs stand amid its row. -/
theorem Abreast.amid
    (abreast : cut.Abreast (line ++ newline :: more) cursor twin)
    (breaks : newline.kind = .newline) : (cut.fork more).Amid cursor twin := by
  refine ⟨line ++ [newline], by simp, ?_, ?_, ?_, fun _ _ => trivial,
    abreast.lastEnd, abreast.openBlocks, ?_, ?_⟩
  · rw [abreast.here]
    simp [fork]
  · rw [abreast.there]
    simp [fork]
  · intro token ends
    rw [List.getLast?_concat] at ends
    obtain rfl := Option.some.inj ends
    rw [breaks]
    rfl
  · intro token _ _
    rw [abreast.lexical, abreast.lexicalToo]
  · exact ⟨[], abreast.silent, abreast.silentToo, List.forall_mem_nil _⟩

/-- Two runs that have come along the line stand abreast again. -/
theorem Abreast.of_faces
    (abreast : cut.Abreast (line ++ newline :: more) cursor twin)
    (reaches : cursor.Reaches after) (reachesToo : twin.Reaches twinAfter)
    (faces : (cut.fork more).Faces row after twinAfter)
    (silent : after.reported = []) :
    row <:+ line ++ [newline] ∧ cut.Abreast (row ++ more) after twinAfter := by
  obtain ⟨⟨passed, path⟩, blocks⟩ := reaches
  obtain ⟨⟨passedToo, pathToo⟩, _⟩ := reachesToo
  obtain ⟨news, told, toldToo, _⟩ := faces.reported
  have nothing : news = [] := by
    rw [silent] at told
    exact (List.append_eq_nil_iff.1 told.symm).1
  rw [nothing] at toldToo
  have silentToo : twinAfter.reported = [] := toldToo
  have suffix : row <:+ line ++ [newline] := by
    have whole := path.budget_eq.1
    rw [abreast.here, faces.here] at whole
    have twice : (line ++ [newline]) ++ (more ++ cut.rest) =
        (passed ++ row) ++ (more ++ cut.rest) := by
      simpa [fork] using whole
    exact ⟨passed, (List.append_cancel_right twice).symm⟩
  refine ⟨suffix, ?_, ?_, ?_, faces.lastEnd, faces.openBlocks, ?_, ?_, silent,
    silentToo⟩
  · rw [faces.here]
    simp [fork]
  · rw [faces.there]
    simp [fork]
  · obtain ⟨before, same⟩ := suffix
    refine .trans ⟨before, ?_⟩ abreast.kept
    rw [← List.append_assoc, same]
    simp
  · rw [path.lastLexical_of_silent silent, abreast.lexical]
  · rw [pathToo.lastLexical_of_silent silentToo, abreast.lexicalToo]

/-- Some of the line is left where both runs are still in it. -/
theorem Abreast.of_amid
    (abreast : cut.Abreast (line ++ newline :: more) cursor twin)
    (reaches : cursor.Reaches after) (reachesToo : twin.Reaches twinAfter)
    (amid : (cut.fork more).Amid after twinAfter)
    (silent : after.reported = []) :
    ∃ left, left <:+ line ∧
      cut.Abreast (left ++ newline :: more) after twinAfter := by
  obtain ⟨row, some, faces⟩ := amid
  obtain ⟨left, last, rfl⟩ := (List.eq_nil_or_concat row).resolve_left some
  obtain ⟨⟨before, same⟩, abreastAfter⟩ :=
    abreast.of_faces reaches reachesToo faces silent
  rw [List.concat_eq_append, ← List.append_assoc] at same
  rw [List.concat_eq_append, List.append_assoc] at abreastAfter
  obtain ⟨whole, single⟩ := List.append_inj' same rfl
  obtain rfl := (List.cons.inj single).1
  exact ⟨left, ⟨before, whole⟩, abreastAfter⟩

/-- Behind a line that is kept as a whole both runs are abreast. -/
theorem Abreast.of_along
    (abreast : cut.Abreast (line ++ newline :: more) cursor twin)
    (oneLine : OneLine line) (reaches : cursor.Reaches after)
    (reachesToo : twin.Reaches twinAfter)
    (along : (cut.fork more).Along after twinAfter)
    (behind : cursor.Behind after) (silent : after.reported = []) :
    cut.Abreast more after twinAfter := by
  obtain ⟨row, faces⟩ := along
  rcases List.eq_nil_or_concat row with rfl | ⟨left, last, rfl⟩
  · exact (abreast.of_faces reaches reachesToo faces silent).2
  exfalso
  obtain ⟨left, ⟨start, rfl⟩, abreastAfter⟩ := abreast.of_amid reaches reachesToo
    ⟨_, by simp, faces⟩ silent
  rcases behind with atEnd | ⟨passed, other, shape, breaks⟩
  · obtain ⟨token, rest, same⟩ := List.exists_cons_of_ne_nil
      (List.append_ne_nil_of_right_ne_nil left (List.cons_ne_nil newline more))
    rw [same] at abreastAfter
    apply abreastAfter.ne_endOfText token List.mem_cons_self
    rw [← abreastAfter.kind.1, atEnd]
  · rw [abreast.here, abreastAfter.here] at shape
    have whole : start ++ left ++ (newline :: more ++ cut.rest) =
        passed ++ other :: left ++ (newline :: more ++ cut.rest) := by
      simpa using shape
    have inLine := oneLine other (by
      rw [List.append_cancel_right whole]
      simp)
    rw [breaks] at inLine
    cases inLine

/-! ## What starts a line -/

theorem Abreast.ofLine?_eq_none
    (abreast : cut.Abreast (line ++ newline :: more) cursor twin)
    (breaks : newline.kind = .newline) (notIf : cursor.kind ≠ .keyword .ifThen)
    (notWhile : cursor.kind ≠ .keyword .whileLoop)
    (noMember : cursor.atMemberStart = false) :
    Opening.ofLine? line = none := by
  have here := abreast.here
  rw [List.append_assoc, List.cons_append] at here
  exact Opening.ofLine?_eq_none here (by rw [breaks]; rfl) notIf notWhile
    noMember

/-- What is open behind a line that is known from its first tokens to open and
close nothing. -/
theorem Opens.behind_plain
    {lead : List Token} (opens : cut.Opens outer (lead ++ row))
    (inLine : OneLine lead) (plain : ∀ line, IsPlain (lead ++ line))
    (nothing : ∀ line, Opening.ofLine? (lead ++ line) = none) :
    (∀ line newline more, row = line ++ newline :: more → OneLine line →
      newline.kind = .newline → cut.Opens outer more) ∧
      (OneLine row → cut.goal = outer) := by
  refine ⟨?_, fun oneLine => ?_⟩
  · rintro line newline more rfl oneLine breaks
    rw [← List.append_assoc] at opens
    exact opens.plain (List.forall_mem_append.2 ⟨inLine, oneLine⟩) breaks
      (plain line) (nothing line)
  · exact opens.goal_plain (List.forall_mem_append.2 ⟨inLine, oneLine⟩)
      (plain row) fun _ => nothing row

/-- A line of which the first token is known ends within what is kept, or it
is the last. -/
theorem Abreast.cases_plain
    {first : Token} (abreast : cut.Abreast (first :: row) cursor twin)
    (inLine : first.kind.endsLine = false)
    (behind : (∀ line newline more, row = line ++ newline :: more →
      OneLine line → newline.kind = .newline → cut.Opens outer more) ∧
        (OneLine row → cut.goal = outer)) :
    OneLine (first :: row) ∧ cut.goal = outer ∨
      ∃ line newline more, first :: row = line ++ newline :: more ∧
        OneLine line ∧ newline.kind = .newline ∧ cut.Opens outer more := by
  rcases abreast.cases_line with
    oneLine | ⟨line, newline, more, same, oneLine, breaks⟩
  · exact .inl ⟨oneLine, behind.2 (List.forall_mem_cons.1 oneLine).2⟩
  · cases line with
    | nil =>
      obtain ⟨rfl, _⟩ := List.cons.inj same
      rw [breaks] at inLine
      cases inLine
    | cons second line =>
      exact .inr ⟨_, newline, more, same, oneLine, breaks,
        behind.1 line newline more (List.cons.inj same).2
          (List.forall_mem_cons.1 oneLine).2 breaks⟩

theorem Opens.goal_of_last (opens : cut.Opens outer row) (oneLine : OneLine row)
    (plain : IsPlain row) (there : twin.budget = row ++ [cut.last])
    (notIf : twin.kind ≠ .keyword .ifThen)
    (notWhile : twin.kind ≠ .keyword .whileLoop)
    (noMember : twin.atMemberStart = false) : cut.goal = outer := by
  apply opens.goal_plain oneLine plain
  intro _
  exact Opening.ofLine?_eq_none there (by rw [cut.ends]; rfl) notIf notWhile
    noMember

theorem isPlain_of_kind {token : Token} (noDoc : token.kind ≠ .docComment)
    (inside : token.kind.isBlockTerminator = false) :
    IsPlain (token :: row) := by
  intro first more same
  obtain ⟨rfl, _⟩ := List.cons.inj same
  exact ⟨noDoc, ne_terminator inside⟩

end Cut

/-! ## Parts of a line -/

namespace Recovery

/-- Where two runs along a line agree, they tear nothing. -/
theorem Tears.along {reader : Recovery α} {following : α → Recovery β}
    {post : α → Cursor → Cursor → Prop} {stack : β → List Opening}
    (abreast : cut.Abreast (line ++ newline :: more) cursor twin)
    (agrees : reader.Agrees cursor twin post)
    (amid : ∀ value after twinAfter, post value after twinAfter →
      (reader.run cursor) = (value, after) → after.reported = [] →
        (cut.fork more).Amid after twinAfter)
    (travels : ∀ cursor, reader.Travels cursor)
    (grows : ∀ value middle, (following value).Grows middle)
    (rest : ∀ value left after twinAfter,
      reader.run cursor = (value, after) → left <:+ line →
        post value after twinAfter →
          cut.Abreast (left ++ newline :: more) after twinAfter →
            (following value).Tears cut stack after twinAfter) :
    Tears (reader >>= following) cut stack cursor twin := by
  intro silent
  have quiet : (reader.run cursor).2.reported = [] :=
    (grows _ _).reported_eq_nil silent
  obtain ⟨same, holds⟩ := agrees
  obtain ⟨left, suffix, abreastAfter⟩ :=
    abreast.of_amid (travels cursor) (travels twin)
      (amid _ _ _ holds rfl quiet) quiet
  show cut.Meets stack _
    ((following (reader.run twin).1).run (reader.run twin).2)
  rw [same]
  exact rest _ left _ _ rfl suffix holds abreastAfter silent

end Recovery

namespace Reader

end Reader

namespace Recovery

/-- A part of a line that is kept as a whole, which may fail, and what is
reported if it does. -/
theorem Tears.along_run
    {reader : Reader α} {following : Except Diagnostic α → Recovery β}
    {fact : α → Prop} {stack : β → List Opening}
    (abreast : cut.Abreast (line ++ newline :: more) cursor twin)
    (breaks : newline.kind = .newline)
    (steady : reader.Steady (cut.fork more) fact)
    (travels : ∀ cursor, reader.Travels cursor)
    (grows : ∀ value middle, (following (.ok value)).Grows middle)
    (tells : ∀ diagnostic middle, (following (.error diagnostic)).Tells middle)
    (rest : ∀ value left after twinAfter,
      reader.run.run cursor = (.ok value, after) → left <:+ line →
        cut.Abreast (left ++ newline :: more) after twinAfter →
          (following (.ok value)).Tears cut stack after twinAfter) :
    Tears (reader.run >>= following) cut stack cursor twin := by
  intro silent
  have agrees := steady cursor twin (abreast.amid breaks)
  cases first : reader.run.run cursor with
  | mk answer middle =>
    obtain ⟨twinMiddle, firstToo, holds⟩ := agrees.of_run first
    have shape : (reader.run >>= following).run cursor =
        (following answer).run middle := by
      show (following (reader.run.run cursor).1).run
        (reader.run.run cursor).2 = _
      rw [first]
    have shapeToo : (reader.run >>= following).run twin =
        (following answer).run twinMiddle := by
      show (following (reader.run.run twin).1).run
        (reader.run.run twin).2 = _
      rw [firstToo]
    rw [shape] at silent
    rw [shape, shapeToo]
    cases answer with
    | error diagnostic =>
      exact absurd silent (tells diagnostic middle).reported_ne_nil
    | ok value =>
      have quiet := (grows value middle).reported_eq_nil silent
      have passed := (travels cursor).run
      have passedToo := (travels twin).run
      unfold Travels Ends at passed passedToo
      rw [first] at passed
      rw [firstToo] at passedToo
      obtain ⟨left, suffix, abreastAfter⟩ :=
        abreast.of_amid passed passedToo holds.2 quiet
      exact rest value left middle twinMiddle first suffix abreastAfter
        silent

end Recovery

/-! ## Readers of one line -/

def Reader.PassesLine (reader : Reader α) (cursor : Cursor) : Prop :=
  reader.Ends cursor (fun _ after => cursor.Behind after) fun _ _ => True

/-- The reader reads a line up to its end, or gives up in it. -/
structure Reader.ReadsLine (reader : Reader α) : Prop where
  travels : ∀ cursor, reader.Travels cursor Cause.isUnterminated
  passes : ∀ cursor, reader.PassesLine cursor
  agrees : ∀ {fork : Fork} {cursor twin : Cursor}, fork.Amid cursor twin →
    reader.Agrees fork cursor twin fun _ => fork.Along

namespace Reader

variable {reader : Reader α}

theorem PassesLine.bind
    {following : α → Reader β} (travels : reader.Travels cursor)
    (rest : ∀ value after, (following value).PassesLine after) :
    PassesLine (reader >>= following) cursor := by
  unfold PassesLine
  rw [ends_bind]
  apply Ends.mono travels
  · intro value middle reaches
    exact (rest value middle).mono
      (fun _ _ behind => reaches.trans_behind behind) fun _ _ _ => trivial
  · exact fun _ _ _ => trivial

theorem PassesLine.get {following : Cursor → Reader β}
    (passes : (following cursor).PassesLine cursor) :
    PassesLine (MonadState.get >>= following) cursor :=
  passes

theorem passesLine_endOfLine (context : String) (value : α) :
    PassesLine (endOfLine context >>= fun _ => pure value) cursor := by
  unfold PassesLine
  rw [ends_bind]
  exact (behind_endOfLine context cursor).mono (fun _ _ behind => behind)
    fun _ _ _ => trivial

theorem ReadsLine.map (change : α → β) (reads : reader.ReadsLine) :
    ReadsLine (change <$> reader) where
  travels cursor := by
    rw [map_eq_pure_bind]
    exact (reads.travels cursor).bind fun _ _ => .pure _
  passes cursor := by
    unfold PassesLine
    rw [ends_map]
    exact reads.passes cursor
  agrees amid := .map (reads.agrees amid)

/-- A reader of a line leaves the cursors in front of the next one. -/
theorem ReadsLine.tears_within (reads : reader.ReadsLine)
    (abreast : cut.Abreast (line ++ newline :: more) cursor twin)
    (oneLine : OneLine line) (breaks : newline.kind = .newline)
    (opens : cut.Opens outer more) :
    reader.Tears cut (fun _ => outer) refused cursor twin := by
  intro value after ran silent
  obtain ⟨twinAfter, ranToo, along⟩ :=
    (reads.agrees (abreast.amid breaks)).of_run ran
  have behind := reads.passes cursor
  have reaches := (reads.travels cursor).unsorted.run
  have reachesToo := (reads.travels twin).unsorted.run
  unfold PassesLine Reader.Ends Recovery.Ends at behind
  unfold Recovery.Travels Recovery.Ends at reaches reachesToo
  rw [ran] at behind reaches
  rw [ranToo] at reachesToo
  unfold Reader.Ends Recovery.Ends
  rw [ranToo]
  exact .of_opens opens
    (abreast.of_along oneLine reaches reachesToo along behind silent)

/-- What is kept of a line is read to its end, or given up in it. -/
theorem ReadsLine.ends_last
    (reads : reader.ReadsLine) (within : cut.InLastLine twin) :
    reader.Ends twin
      (fun _ last => last.kind = .endOfText ∧ last.unterminated = [])
      fun diagnostic last => cut.InLastLine last ∧
        diagnostic.cause.isUnterminated = false :=
  within.ends_reader (reads.travels twin) (reads.passes twin)

/-- A reader of a line ends at the next one, or with what is kept. -/
theorem ReadsLine.tears {first : Token} (reads : reader.ReadsLine)
    (abreast : cut.Abreast (first :: row) cursor twin)
    (inLine : first.kind.endsLine = false)
    (behind : (∀ line newline more, row = line ++ newline :: more →
      OneLine line → newline.kind = .newline → cut.Opens outer more) ∧
        (OneLine row → cut.goal = outer)) :
    reader.Tears cut (fun _ => outer) (cut.Breaks outer) cursor twin := by
  rcases abreast.cases_plain inLine behind with
    ⟨oneLine, goal⟩ | ⟨line, newline, more, same, oneLine, breaks, opens⟩
  · intro value after ran silent
    apply (reads.ends_last (abreast.inLastLine oneLine)).mono
    · exact fun _ _ reached => .inr (.of_goal reached.1 reached.2 goal)
    · exact fun _ _ reached => ⟨reached.1, reached.2, goal⟩
  · rw [same] at abreast
    exact reads.tears_within abreast oneLine breaks opens

end Reader

namespace Reader

/-! ## Single tokens -/

theorem Tears.take
    {following : Token → Reader β} {stack : β → List Opening} {token : Token}
    (abreast : cut.Abreast (token :: row) cursor twin)
    (tears : (following token).Tears cut stack refused cursor.next twin.next) :
    Tears (liftM Reader.advance >>= following) cut stack refused cursor
      twin := by
  intro value after ran silent
  obtain ⟨here, there⟩ := abreast.current
  rw [ends_bind, ends_lift, Recovery.ends_advance, there]
  apply tears value after ?_ silent
  rw [← here]
  exact ran

/-- Where nothing is left of the line that the cut ends in, what is missing is
reported at the end of the text. -/
theorem breaks_unexpected (abreast : cut.Abreast [] cursor twin)
    (inLine : cursor.kind.endsLine = false)
    (nothing : cut.closed = false → cut.goal = broken) (expected : String) :
    cut.Breaks broken (Diagnostic.unexpected twin.current expected) twin := by
  have here := abreast.here
  rw [List.nil_append] at here
  refine ⟨abreast.inLastLine (List.forall_mem_nil _),
    Diagnostic.isUnterminated_unexpected _ _, nothing ?_⟩
  unfold Cut.closed
  rw [← here]
  exact inLine

/-- A token that is expected is kept, or nothing is left of the line. -/
theorem Tears.expect
    {kind : Kind} {purpose : String} {following : Token → Reader β}
    {stack : β → List Opening} (abreast : cut.Abreast row cursor twin)
    (inLine : kind.endsLine = false)
    (rest : ∀ token tail, row = token :: tail → token.kind = kind →
      cut.Abreast tail cursor.next twin.next →
        (following token).Tears cut stack (cut.Breaks broken) cursor.next
          twin.next)
    (nothing : row = [] → cut.closed = false → cut.goal = broken) :
    Tears (Reader.expect kind purpose >>= following) cut stack
      (cut.Breaks broken) cursor twin := by
  intro result final ran silent
  have found : cursor.kind = kind := by
    by_contra other
    unfold Reader.expect at ran
    rw [bind_assoc] at ran
    change (ExceptT.run
      ((if cursor.kind = kind then _ else _ : Reader Token) >>=
        following)).run cursor = _ at ran
    rw [if_neg other] at ran
    split at ran <;> cases ran
  cases row with
  | nil =>
    have atEnd := abreast.atEnd
    have other : twin.kind ≠ kind := by
      intro same
      rw [← same, atEnd] at inLine
      cases inLine
    have fails := breaks_unexpected abreast (found ▸ inLine) (nothing rfl)
    rw [ends_bind]
    unfold Reader.expect
    rw [ends_bind, ends_get, if_neg other]
    split
    · exact fails _
    · exact fails _
  | cons token tail =>
    have same := abreast.kind
    rw [found] at same
    have ends := rest token tail rfl same.1.symm abreast.next result final
    rw [ends_bind, ends_expect (same.2.trans same.1.symm), abreast.current.2]
    apply ends _ silent
    rw [← abreast.current.1]
    have taken : (Reader.expect kind purpose).run.run cursor =
        (.ok cursor.current, cursor.next) := by
      unfold Reader.expect
      change (ExceptT.run
        (if cursor.kind = kind then _ else _ : Reader Token)).run cursor = _
      rw [if_pos found]
      rfl
    rw [ExceptT.run_bind, StateT.run_bind, taken] at ran
    exact ran

/-- A name, which may be missing at the end of what is kept. -/
theorem Tears.identifier {what : String} {following : Identifier → Reader β}
    {stack : β → List Opening} (abreast : cut.Abreast row cursor twin)
    (rest : ∀ token tail, row = token :: tail → token.kind = .identifier →
      cut.Abreast tail cursor.next twin.next →
        (following ⟨token.text, token.span⟩).Tears cut stack (cut.Breaks broken)
          cursor.next twin.next)
    (nothing : row = [] → cut.closed = false → cut.goal = broken) :
    Tears (Reader.identifier what >>= following) cut stack
      (cut.Breaks broken) cursor twin := by
  intro result final ran silent
  have found : cursor.kind = .identifier := by
    by_contra other
    unfold Reader.identifier at ran
    rw [bind_assoc] at ran
    change (ExceptT.run
      ((if cursor.kind = .identifier then _ else _ : Reader Identifier) >>=
        following)).run cursor = _ at ran
    rw [if_neg other] at ran
    cases ran
  cases row with
  | nil =>
    have other : twin.kind ≠ .identifier := by
      rw [abreast.atEnd]
      nofun
    rw [ends_bind]
    unfold Reader.identifier
    rw [ends_bind, ends_get, if_neg other]
    exact breaks_unexpected abreast (by rw [found]; rfl) (nothing rfl) _
  | cons token tail =>
    have same := abreast.kind
    rw [found] at same
    have ends := rest token tail rfl same.1.symm abreast.next result final
    rw [ends_bind, ends_identifier (same.2.trans same.1.symm),
      abreast.current.2]
    apply ends _ silent
    rw [← abreast.current.1]
    have taken : (Reader.identifier what).run.run cursor =
        (.ok ⟨cursor.current.text, cursor.current.span⟩, cursor.next) := by
      unfold Reader.identifier
      change (ExceptT.run
        (if cursor.kind = .identifier then _ else _ :
          Reader Identifier)).run cursor = _
      rw [if_pos found]
      rfl
    rw [ExceptT.run_bind, StateT.run_bind, taken] at ran
    exact ran

/-! ## Ends of lines -/

theorem run_endOfLine_of_newline
    (context : String) (breaks : cursor.kind = .newline) :
    (endOfLine context).run.run cursor = (.ok (), cursor.next) := by
  unfold endOfLine
  rw [Recovery.run_run_get_bind, breaks]
  rfl

theorem run_endOfLine_of_endOfText
    (context : String) (atEnd : cursor.kind = .endOfText) :
    (endOfLine context).run.run cursor = (.ok (), cursor) := by
  unfold endOfLine
  rw [Recovery.run_run_get_bind, atEnd]
  rfl

theorem endsLine_of_endOfLine {context : String} {value : Unit}
    (ran : (endOfLine context).run.run cursor = (.ok value, after)) :
    cursor.kind = .newline ∨ cursor.kind = .endOfText := by
  unfold endOfLine at ran
  rw [Recovery.run_run_get_bind] at ran
  split at ran
  · rename_i breaks
    exact .inl breaks
  · rename_i atEnd
    exact .inr atEnd
  · cases ran

/-- A line ends at its line break, or where nothing more is kept. -/
theorem tears_endOfLine
    (context : String) (abreast : cut.Abreast row cursor twin)
    (line : ∀ newline more, row = newline :: more →
      newline.kind = .newline → cut.Opens outer more)
    (last : row = [] → cut.goal = outer) :
    (endOfLine context).Tears cut (fun _ => outer) refused cursor twin := by
  intro value after ran _
  cases row with
  | nil =>
    have ended := run_endOfLine_of_endOfText context abreast.atEnd
    unfold Reader.Ends Recovery.Ends
    rw [ended]
    exact .inr (.of_goal abreast.atEnd
      (abreast.inLastLine (List.forall_mem_nil _)).silent (last rfl))
  | cons newline more =>
    have kind := abreast.kind
    have inside := abreast.ne_endOfText newline List.mem_cons_self
    have breaks : newline.kind = .newline := by
      rw [← kind.1] at inside ⊢
      exact (endsLine_of_endOfLine ran).resolve_right inside
    rw [run_endOfLine_of_newline context (kind.1.trans breaks)] at ran
    have ended := run_endOfLine_of_newline context (kind.2.trans breaks)
    unfold Reader.Ends Recovery.Ends
    rw [ended]
    cases ran
    exact .of_opens (line newline more rfl breaks) abreast.next

/-- The end of a line that is kept as a whole, of which some is left. -/
theorem tears_endOfLine_within (context : String)
    (abreast : cut.Abreast (line ++ newline :: more) cursor twin)
    (oneLine : OneLine line) (opens : cut.Opens outer more) :
    (endOfLine context).Tears cut (fun _ => outer) refused cursor twin := by
  apply tears_endOfLine context abreast
  · intro other rest same breaks
    cases line with
    | nil =>
      obtain ⟨rfl, rfl⟩ := List.cons.inj same
      exact opens
    | cons first line =>
      obtain ⟨rfl, rfl⟩ := List.cons.inj same
      have inLine := oneLine first List.mem_cons_self
      rw [breaks] at inLine
      cases inLine
  · simp

/-- A documentation comment at both cursors is taken along with the end of its
line. -/
theorem tears_documentedLine (context : String) {doc : Token}
    (abreast : cut.Abreast (doc :: row) cursor twin)
    (ended : (endOfLine context).Tears cut (fun _ => outer) refused cursor.next
      twin.next) :
    Tears (do
      let doc ← advance
      endOfLine context
      return some doc.text) cut (fun _ => outer) refused cursor twin := by
  obtain ⟨here, there⟩ := abreast.current
  have tears : Tears ((fun _ => some doc.text) <$> endOfLine context) cut
      (fun _ => outer) refused cursor.next twin.next := ended.map
  intro value after ran silent
  have place : cursor.current.text = doc.text := by rw [here]
  rw [ends_bind, ends_lift, Recovery.ends_advance, there]
  have ends := tears value after ?_ silent
  · rw [ends_map] at ends
    rw [ends_bind]
    exact ends
  · rw [← place, map_eq_pure_bind]
    exact ran

/-- Nothing is left of a line that has been ended. -/
theorem eq_nil_of_endOfLine
    {context : String} {following : Unit → Reader β} {value : β}
    (abreast : cut.Abreast (line ++ newline :: more) cursor twin)
    (oneLine : OneLine line)
    (ran : (endOfLine context >>= following).run.run cursor =
      (.ok value, after)) :
    line = [] := by
  cases line with
  | nil => rfl
  | cons first line =>
    exfalso
    rw [ExceptT.run_bind, StateT.run_bind] at ran
    cases ended : (endOfLine context).run.run cursor with
    | mk answer middle =>
      rw [ended] at ran
      cases answer with
      | error diagnostic => cases ran
      | ok value =>
        have inLine := oneLine first List.mem_cons_self
        rw [← abreast.kind.1] at inLine
        rcases endsLine_of_endOfLine ended with found | found
        · rw [found] at inLine
          cases inLine
        · rw [found] at inLine
          cases inLine

/-- The end of a declaration's line takes a documentation comment along, in
front of the line break or behind it. -/
theorem tears_endOfDeclaration (context : String)
    (abreast : cut.Abreast (line ++ newline :: more) cursor twin)
    (oneLine : OneLine line) (breaks : newline.kind = .newline)
    (opens : cut.Opens outer more) :
    (endOfDeclaration context).Tears cut (fun _ => outer) refused cursor
      twin := by
  unfold endOfDeclaration
  apply Tears.look (by rw [(abreast.amid breaks).kind])
  split
  · rename_i doc
    cases line with
    | nil =>
      rw [abreast.kind.1, breaks] at doc
      cases doc
    | cons first line =>
      apply tears_documentedLine context abreast
      exact tears_endOfLine_within context abreast.next
        (List.forall_mem_cons.1 oneLine).2 opens
  · -- the line break is looked behind, so both runs must be at it
    intro value after ran silent
    obtain rfl := eq_nil_of_endOfLine abreast oneLine ran
    have kind := abreast.kind
    have next : cut.Abreast more cursor.next twin.next := abreast.next
    rw [ExceptT.run_bind, StateT.run_bind,
      run_endOfLine_of_newline context (kind.1.trans breaks)] at ran
    rw [ends_bind]
    show Recovery.Ends (endOfLine context).run twin _
    unfold Recovery.Ends
    rw [run_endOfLine_of_newline context (kind.2.trans breaks)]
    show Ends _ twin.next _ _
    cases more with
    | nil =>
      rw [ends_bind, ends_get, if_neg (by rw [next.atEnd]; nofun)]
      exact .inr (next.spent opens)
    | cons first more =>
      have tears : Tears (do
          if (← get).kind = .docComment then
            let doc ← advance
            endOfLine "documentation comment"
            return some doc.text
          else
            return none) cut (fun _ => outer) refused cursor.next
          twin.next := by
        apply Tears.look (by rw [next.kind.1, next.kind.2])
        split
        · rename_i doc
          rw [next.kind.1] at doc
          apply tears_documentedLine _ next
          apply tears_endOfLine _ next.next
          · rintro newline more rfl breaks
            exact (opens.docComment doc).newline breaks
          · rintro rfl
            exact (opens.docComment doc).nil
        · intro value after ran _
          cases ran
          show cut.Meets (fun _ => outer) (none, cursor.next)
            (none, twin.next)
          exact .of_opens opens next
      exact tears value after ran silent

end Reader

namespace Recovery

open Reader

/-- The end of a line takes both runs to the next, or ends the text. -/
theorem tears_finishLine
    (context : String) (abreast : cut.Abreast row cursor twin)
    (line : ∀ newline more, row = newline :: more →
      newline.kind = .newline → cut.Opens outer more)
    (last : row = [] → cut.goal = outer) :
    (finishLine context).Tears cut (fun _ => outer) cursor twin := by
  have ended : (endOfLine context).Tears cut (fun _ => outer)
      (fun _ _ => False) cursor twin :=
    tears_endOfLine context abreast line last
  apply Tears.run_bind ended
  · exact fun _ _ => .pure _
  · exact fun _ _ => tells_reportAndSkipLine _
  · exact fun _ _ _ atLine => .pure atLine
  · exact fun _ _ spent => .pure spent
  · exact fun _ _ never => never.elim

theorem tears_terminator (context : String) {opening : Opening} {first : Token}
    (opens : cut.Opens (opening :: outer) (first :: row))
    (abreast : cut.Abreast row cursor twin)
    (closes : first.kind = .keyword opening.block.terminator) :
    (finishLine context).Tears cut (fun _ => outer) cursor twin := by
  have single : OneLine [first] :=
    List.forall_mem_singleton.2 (by rw [closes]; rfl)
  apply tears_finishLine context abreast
  · rintro newline more rfl breaks
    have shape : cut.Opens (opening :: outer)
        ([first] ++ newline :: more) := opens
    exact shape.pop single breaks closes
  · rintro rfl
    exact opens.goal_pop single closes

/-! ## Line breaks -/

/-- Passing line breaks leads to the next line, or to the end. -/
theorem tears_skipNewlines (atLine : cut.AtLine outer cursor twin) :
    skipNewlines.Tears cut (fun _ => outer) cursor twin := by
  obtain ⟨row, more, opens, abreast⟩ := atLine
  clear more
  induction row generalizing cursor twin with
  | nil =>
    apply Unwinds.tears
    exact .of_travels (travels_skipNewlines twin) (abreast.spent opens)
  | cons token row ih =>
    obtain ⟨here, there⟩ := abreast.kind
    by_cases breaks : token.kind = .newline
    · unfold Tears
      rw [run_skipNewlines_next (here.trans breaks),
        run_skipNewlines_next (there.trans breaks)]
      exact ih (opens.newline breaks) abreast.next
    · intro _
      rw [run_skipNewlines_of_ne (by rwa [here]),
        run_skipNewlines_of_ne (by rwa [there])]
      exact .inl ⟨rfl, _, List.cons_ne_nil _ _, opens, abreast⟩

theorem carries_skipNewlines :
    skipNewlines.Carries cut outer fun _ => outer where
  grows cursor := (travels_skipNewlines cursor).grows
  unwinds spent := .of_travels (travels_skipNewlines _) spent
  tears := tears_skipNewlines

end Recovery

end PapyrusScript
