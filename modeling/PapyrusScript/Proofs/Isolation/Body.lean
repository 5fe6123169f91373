import PapyrusScript.Proofs.Alongside.Script
import PapyrusScript.Proofs.Passage

/-!
# Boundaries behind a clean beginning and behind a body

A script that ends with a line break and has no errors is read the same
whatever follows it, unless that is a documentation comment.  Between it and
what follows, nothing is open and nothing has been reported.

One run is two runs that do the same, so all that is known of two runs along a
row says where a single run stays.  Here the row is text that no declaration
starts in, and behind it stands the terminator of a function or an event.
However broken the statements in the row are, and whatever blocks they open or
close, the body around them ends in front of that terminator.
-/

namespace PapyrusScript

section Boundaries

variable {cursor : Cursor}

namespace Recovery

open Reader

/-! ## Line breaks at a boundary -/

theorem run_skipNewlines_next (breaks : cursor.kind = .newline) :
    skipNewlines.run cursor = skipNewlines.run cursor.next := by
  have inside : cursor.kind ≠ .endOfText := by
    rw [breaks]
    nofun
  have here := terminates_of_proceeds proceeds_passNewline () cursor
  have there := terminates_of_proceeds proceeds_passNewline () cursor.next
  obtain ⟨_, same⟩ := here.unique (.again (run_passNewline_of_kind breaks)
    (Cursor.precedes_next inside) there)
  exact Prod.ext rfl same

/-- Only line breaks are passed. -/
theorem ends_skipNewlines_passed (cursor : Cursor) :
    skipNewlines.Ends cursor fun _ after =>
      ∃ passed, cursor.budget = passed ++ after.budget ∧
        ∀ token ∈ passed, token.kind = .newline := by
  have step (value : Unit) (middle : Cursor)
      (reached : ∃ passed, cursor.budget = passed ++ middle.budget ∧
        ∀ token ∈ passed, token.kind = .newline) :
      (passNewline value).Ends middle
        (Step.Settles
          (fun _ after => ∃ passed, cursor.budget = passed ++ after.budget ∧
            ∀ token ∈ passed, token.kind = .newline)
          fun _ after => ∃ passed, cursor.budget = passed ++ after.budget ∧
            ∀ token ∈ passed, token.kind = .newline) := by
    unfold passNewline
    rw [ends_bind, ends_get]
    split
    · rename_i breaks
      obtain ⟨passed, shape, newlines⟩ := reached
      have inside : middle.kind ≠ .endOfText := by
        rw [breaks]
        nofun
      refine ⟨passed ++ [middle.current], ?_, ?_⟩
      · rw [shape, Cursor.budget_eq_cons_next inside, List.append_assoc]
        rfl
      · intro token member
        rcases List.mem_append.1 member with earlier | last
        · exact newlines token earlier
        · exact List.mem_singleton.1 last ▸ breaks
    · exact reached
  exact ends_loop_of_keeps _ proceeds_passNewline step ()
    ⟨[], rfl, List.forall_mem_nil _⟩

/-- A cursor in front of line breaks may be moved behind them. -/
theorem exists_behind_newlines
    {row rest : List Token} (here : cursor.budget = row ++ rest)
    (breaks : ∀ token ∈ row, token.kind = .newline) :
    ∃ after, after.budget = rest ∧ cursor.Reaches after ∧
      after.reported = cursor.reported ∧
        skipNewlines.run cursor = skipNewlines.run after := by
  induction row generalizing cursor with
  | nil => exact ⟨cursor, here, .refl cursor, rfl, rfl⟩
  | cons token row ih =>
    have kind : cursor.kind = .newline :=
      (Cursor.kind_of_budget here).trans (breaks token List.mem_cons_self)
    have next : cursor.next.budget = row ++ rest :=
      Cursor.budget_next_of_budget here (by
        rw [breaks token List.mem_cons_self]
        nofun)
    obtain ⟨after, place, reaches, reported, same⟩ :=
      ih next fun other later =>
        breaks other (List.mem_cons_of_mem _ later)
    refine ⟨after, place, ?_, ?_, ?_⟩
    · exact (advances_of_kind kind rfl).1.trans reaches
    · rw [reported, Cursor.reported_next]
    · rw [run_skipNewlines_next kind, same]

/-! ## Declarations up to a boundary -/

variable {fork : Fork}

/-- A loop that finishes takes no token or report back. -/
theorem Finishes.grows
    {α : Type} {step : α → Recovery (Step α)} {value final : α} {after : Cursor}
    (proceeds : ∀ value cursor, (step value).Proceeds cursor)
    (finished : Finishes step value cursor final after) :
    cursor.Grows after := by
  have reached {value : α} {cursor between : Cursor} {decision : Step α}
      (ran : (step value).run cursor = (decision, between)) :
      cursor.Grows between := by
    have grows := (proceeds value cursor).travels.grows
    unfold Grows Ends at grows
    rw [ran] at grows
    exact grows
  induction finished with
  | done stops => exact reached stops
  | again goesOn _ _ ih =>
    exact (reached goesOn).trans ih

/-- The line breaks in front of a declaration need not be passed with it. -/
theorem Finishes.of_newlines
    {value final : Reader.ScriptBody} {middle after : Cursor}
    (reaches : cursor.Reaches middle)
    (same : skipNewlines.run cursor = skipNewlines.run middle)
    (finished : Finishes nextDeclaration value middle final after) :
    Finishes nextDeclaration value cursor final after := by
  have ran : (nextDeclaration value).run cursor =
      (nextDeclaration value).run middle := by
    unfold nextDeclaration
    rw [run_skipNewlines_bind, same, ← run_skipNewlines_bind]
  cases finished with
  | done stops => exact .done (ran.trans stops)
  | again goesOn precedes rest =>
    exact .again (ran.trans goesOn) (reaches.trans_precedes precedes) rest

/-- Where the text ends behind line breaks, the row consists of them. -/
theorem newlines_of_end {row rest : List Token} {middle : Cursor}
    (here : cursor.budget = row ++ rest)
    (inside : ∀ token ∈ row, token.kind ≠ .endOfText)
    (passed : ∃ passed, cursor.budget = passed ++ middle.budget ∧
      ∀ token ∈ passed, token.kind = .newline)
    (atEnd : middle.kind = .endOfText) :
    ∀ token ∈ row, token.kind = .newline := by
  obtain ⟨passed, shape, newlines⟩ := passed
  rcases List.append_eq_append_iff.1 (here.symm.trans shape) with
    ⟨more, rfl, same⟩ | ⟨more, rfl, same⟩
  · intro token member
    exact newlines token (List.mem_append_left _ member)
  · cases more with
    | nil => simpa using newlines
    | cons token more =>
      have found : middle.current = token := (List.cons.inj same).1
      exact absurd (found ▸ atEnd) (inside token (by simp))

/-- Two runs from one list of tokens do the same as long as neither has used
up the row; where the first ends, the second stands behind the row. -/
theorem exists_resumption {value final : Reader.ScriptBody} {last : Cursor}
    (plain : fork.Plain) (single : fork.rest.length = 1)
    (inside : ∀ token, fork.known token → token.kind ≠ .endOfText)
    (finished : Finishes nextDeclaration value cursor final last)
    (silent : last.reported.length = fork.told.length) :
    ∀ twin, fork.Along cursor twin → ∃ behind,
      behind.budget = fork.other ∧ twin.Reaches behind ∧
        behind.reported = fork.toldOther ∧
          ∀ found after,
            Finishes nextDeclaration final behind found after →
              Finishes nextDeclaration value twin found after := by
  induction finished with
  | @again value next final cursor between after goesOn precedes rest
      ih =>
    intro twin along
    have grows := rest.grows proceeds_nextDeclaration
    have step := agreesUnless_nextDeclaration plain value along
    rcases step with lost | agrees
    · exfalso
      unfold Ends at lost
      rw [goesOn] at lost
      have marked : fork.Marked after := lost.grows grows
      have happened := marked.happened
      rw [single] at happened
      simp [Cursor.budget] at happened
      omega
    · obtain ⟨twinBetween, ran, along⟩ := agrees.of_run goesOn
      obtain ⟨behind, place, reaches, reported, resumes⟩ :=
        ih silent twinBetween along
      have proceeded := proceeds_nextDeclaration value twin
      unfold Proceeds Ends at proceeded
      rw [ran] at proceeded
      refine ⟨behind, place, proceeded.1.trans reaches, reported, ?_⟩
      exact fun found after rest =>
        .again ran (proceeded.2 rfl) (resumes found after rest)
  | @done value final cursor after stops =>
    intro twin along
    have settled := settles_nextDeclaration value cursor
    have grown := (Finishes.done stops).grows proceeds_nextDeclaration
    unfold Ends at settled
    rw [stops] at settled
    obtain ⟨rfl, atEnd, place⟩ := settled
    obtain ⟨row, faces⟩ := along
    obtain ⟨news, told, toldOther, _⟩ := faces.reported
    have nothing : news = [] := by
      have more := grown.reported
      rw [told, List.length_append] at more
      exact List.eq_nil_of_length_eq_zero (by omega)
    have passed := ends_skipNewlines_passed cursor
    unfold Ends at passed
    rw [← place] at passed
    have newlines := newlines_of_end faces.here
      (fun token member => inside token (faces.known token member)) passed
      atEnd
    obtain ⟨behind, here, reaches, reported, same⟩ :=
      exists_behind_newlines faces.there newlines
    refine ⟨behind, here, reaches, ?_, ?_⟩
    · rw [reported, toldOther, nothing, List.nil_append]
    · exact fun found last finished => finished.of_newlines reaches same

/-! ## Scripts -/

def scriptTop : Recovery Reader.Header := do
  skipNewlines
  Reader.header

theorem travels_scriptTop (cursor : Cursor) : scriptTop.Travels cursor :=
  (travels_skipNewlines cursor).bind fun _ after => travels_header after

/-- A script consists of what its declarations add up to. -/
theorem ends_script (cursor : Cursor) :
    script.Ends cursor fun tree after => ∃ found,
      Finishes nextDeclaration ⟨[], []⟩ (scriptTop.run cursor).2 found
          after ∧
        tree.imports = found.imports ∧ tree.members = found.members := by
  have breaks : skipNewlines.Ends cursor fun _ after =>
      after = (skipNewlines.run cursor).2 :=
    rfl
  unfold script
  apply breaks.bind
  intro _ middle place
  rw [ends_bind, ends_get]
  have top : Reader.header.Ends middle fun _ after =>
      after = (scriptTop.run cursor).2 := by
    rw [place]
    exact rfl
  apply top.bind
  intro header middle place
  have finishes := terminates_of_proceeds proceeds_nextDeclaration ⟨[], []⟩
    middle
  rw [ends_bind, ends_get]
  apply Ends.bind finishes
  intro found after finished
  exact ⟨found, place ▸ finished, rfl, rfl⟩

/-- A header is read along the row, or the row is left with a mark. -/
theorem agreesUnless_scriptTop
    {twin : Cursor} (plain : fork.Plain) (along : fork.Along cursor twin) :
    scriptTop.AgreesUnless (fun _ => fork.Marked) cursor twin
      fun _ => fork.Along := by
  apply agreesUnless_afterNewlines along
  · exact fun _ _ amid => agreesUnless_header plain amid
  · intro cursor left
    have breaks := (travels_skipNewlines cursor).grows.left left
    apply Ends.bind breaks
    exact fun _ after left => (stirs_header after).marked left

/-- At the end of the text nothing but a report is left to be a mark. -/
theorem told_of_marked
    (single : fork.rest.length = 1) (marked : fork.Marked cursor) :
    fork.Told cursor := by
  have happened := marked.happened
  simp only [single, Cursor.budget, List.length_cons] at happened
  unfold Fork.Told
  omega

end Recovery

/-! ## Two lists of tokens with a common front -/

theorem Cursor.lastEnd_start (first : Token) (rest : List Token) :
    (start (first :: rest)).lastEnd = first.span.start := by
  unfold start
  split
  · rename_i nothing
    cases nothing
  · rename_i found _ whole
    exact congrArg (fun token => token.span.start)
      (List.cons.inj whole).1.symm

variable {before more : List Token}

/-- A text that ends with a line break, and what may follow it. -/
structure Bounded (before more : List Token) : Prop where
  breaks : ∃ row line, before = row ++ [line] ∧ line.kind = .newline
  inside : ∀ token ∈ before, token.kind ≠ .endOfText
  plain : ∀ token rest, more = token :: rest → token.kind ≠ .docComment
  more : more ≠ []

namespace Bounded

open Recovery Cursor

def fork (before more : List Token) : Fork where
  rest := missingEnd before
  other := more ++ missingEnd (before ++ more)
  told := []
  toldOther := []
  known token := token ∈ before

variable (bounded : Bounded before more)

include bounded

theorem missingEnd_eq :
    ∃ place, missingEnd before = [Token.endOfText place] := by
  obtain ⟨row, line, rfl, breaks⟩ := bounded.breaks
  refine ⟨line.span.stop, ?_⟩
  unfold missingEnd
  rw [List.getLast?_concat]
  dsimp only
  rw [if_neg (by rw [breaks]; nofun)]

theorem plain_fork : (fork before more).Plain := by
  obtain ⟨place, ended⟩ := bounded.missingEnd_eq
  apply Fork.Plain.of_ne
  · intro token rest same
    rw [fork, ended] at same
    obtain rfl := (List.cons.inj same).1
    nofun
  · intro token rest same
    obtain ⟨first, others, rfl⟩ := List.exists_cons_of_ne_nil bounded.more
    obtain rfl := (List.cons.inj same).1
    exact bounded.plain first others rfl

/-- A text and a longer one have their common beginning as a row. -/
theorem faces :
    (fork before more).Faces before (start before)
      (start (before ++ more)) where
  here := budget_start before
  there := by
    rw [budget_start, List.append_assoc]
    rfl
  closed := by
    obtain ⟨row, line, rfl, breaks⟩ := bounded.breaks
    intro token last
    rw [List.getLast?_concat] at last
    obtain rfl := Option.some.inj last
    rw [breaks]
    rfl
  known := fun _ member => member
  lastEnd := by
    obtain ⟨row, line, rfl, _⟩ := bounded.breaks
    obtain ⟨first, rest, whole⟩ :=
      List.exists_cons_of_ne_nil (List.append_ne_nil_of_right_ne_nil row
        (List.cons_ne_nil line []))
    rw [whole, List.cons_append, lastEnd_start, lastEnd_start]
  openBlocks := by simp
  lexical := by simp
  reported := ⟨[], by simp [fork], by simp [fork], List.forall_mem_nil _⟩

theorem single : (fork before more).rest.length = 1 := by
  obtain ⟨place, ended⟩ := bounded.missingEnd_eq
  rw [fork, ended]
  rfl

/-- A text without errors has the same header whatever follows it. -/
theorem agrees_scriptTop (silent : (Parsed.ofTokens before).diagnostics = []) :
    scriptTop.Agrees (start before)
      (start (before ++ more)) fun _ => (fork before more).Along := by
  rw [Parsed.ofTokens_eq] at silent
  have nothing := List.reverse_eq_nil_iff.1 silent
  obtain ⟨_, finished, _⟩ := ends_script (start before)
  have grows := finished.grows proceeds_nextDeclaration
  rcases agreesUnless_scriptTop bounded.plain_fork
      ⟨before, bounded.faces⟩ with marked | agrees
  · exfalso
    have told := told_of_marked bounded.single marked
    have more := Nat.lt_of_lt_of_le told grows.reported
    rw [nothing] at more
    exact Nat.not_lt_zero _ more
  · exact agrees

/-- Behind a text without errors the reading of the whole text goes on as if
nothing but the declarations of the text had been read. -/
theorem exists_boundary (silent : (Parsed.ofTokens before).diagnostics = []) :
    ∃ behind,
      behind.budget = more ++ missingEnd (before ++ more) ∧
        (start (before ++ more)).Reaches behind ∧
          behind.reported = [] ∧
            ∀ found after,
              Recovery.Finishes Reader.nextDeclaration
                  ⟨(Parsed.ofTokens before).script.imports,
                    (Parsed.ofTokens before).script.members⟩
                  behind found after →
                (Parsed.ofTokens (before ++ more)).script.imports =
                    found.imports ∧
                  (Parsed.ofTokens (before ++ more)).script.members =
                      found.members ∧
                    (Parsed.ofTokens (before ++ more)).diagnostics =
                      after.reported.reverse := by
  have along := (bounded.agrees_scriptTop silent).2
  simp only [Parsed.ofTokens_eq] at silent ⊢
  obtain ⟨whole, finished, imports, members⟩ := ends_script (start before)
  have nothing := List.reverse_eq_nil_iff.1 silent
  obtain ⟨behind, here, reaches, reported, resumes⟩ :=
    exists_resumption bounded.plain_fork bounded.single bounded.inside
      finished (congrArg List.length nothing) _ along
  have top := travels_scriptTop (start (before ++ more))
  refine ⟨behind, here, Cursor.Reaches.trans top reaches, reported, ?_⟩
  intro found after further
  obtain ⟨other, finishedToo, importsToo, membersToo⟩ :=
    ends_script (start (before ++ more))
  have resumed := resumes found after (by
    rw [imports, members] at further
    exact further)
  obtain ⟨rfl, rfl⟩ := finishedToo.unique resumed
  exact ⟨importsToo, membersToo, rfl⟩

end Bounded

end Boundaries

/-! ## A body in front of its terminator -/

section Bodies

variable {fork : Fork} {closer : Keyword} {blocks : List Block}
  {cursor : Cursor}

def Block.StopsAt (block : Block) (cursor : Cursor) : Prop :=
  cursor.kind = .endOfText ∨ block.closedBy cursor.kind = true ∨
    cursor.atMemberStart = true ∨ cursor.isClosedBy cursor.kind = true

/-- Whether the token may stand in the body of a block without ending it. -/
def Kind.IsInside (block : Block) (kind : Kind) : Prop :=
  kind ≠ .endOfText ∧ kind ≠ .keyword block.terminator ∧
    kind ≠ .keyword .function ∧ kind ≠ .keyword .event ∧
      kind ≠ .keyword .state ∧ kind ≠ .keyword .importScript ∧
        kind ≠ .keyword .scriptname ∧ kind ≠ .keyword .property

namespace Fork

/-- Behind the row stands the terminator of a function or an event, and it
closes one of the blocks. -/
structure Fenced
    (fork : Fork) (closer : Keyword) (blocks : List Block) : Prop where
  callable : closer = .endFunction ∨ closer = .endEvent
  behind : ∃ token more, fork.rest = token :: more ∧
    token.kind = .keyword closer
  closed : blocks.any (fun block => block.closedBy (.keyword closer)) = true

/-- The cursor stands in front of the row or right behind it, and the blocks
are open. -/
structure Within
    (fork : Fork) (blocks : List Block) (cursor : Cursor) : Prop where
  along : fork.Along cursor cursor
  openBlocks : cursor.openBlocks = blocks

theorem Fenced.enter (fenced : fork.Fenced closer blocks) (block : Block) :
    fork.Fenced closer (block :: blocks) :=
  ⟨fenced.callable, fenced.behind, by simp [fenced.closed]⟩

theorem Fenced.ne (fenced : fork.Fenced closer blocks) {kind : Kind}
    (inside : kind ≠ .keyword .endFunction ∧ kind ≠ .keyword .endEvent) :
    kind ≠ .keyword closer := by
  rcases fenced.callable with rfl | rfl
  · exact inside.1
  · exact inside.2

theorem Fenced.isBlockTerminator (fenced : fork.Fenced closer blocks) :
    (Kind.keyword closer).isBlockTerminator = true := by
  rcases fenced.callable with rfl | rfl <;> rfl

/-- The cursor stands on a token of the row, or on the terminator. -/
theorem Within.cases
    (fenced : fork.Fenced closer blocks) (within : fork.Within blocks cursor) :
    fork.Amid cursor cursor ∨
      cursor.budget = fork.rest ∧ cursor.kind = .keyword closer := by
  rcases within.along.cases with amid | ⟨here, _⟩
  · exact .inl amid
  · obtain ⟨token, more, rest, kind⟩ := fenced.behind
    refine .inr ⟨here, ?_⟩
    rw [Cursor.kind_of_budget (here.trans rest), kind]

theorem Within.amid
    (fenced : fork.Fenced closer blocks) (within : fork.Within blocks cursor)
    (inside : cursor.kind ≠ .keyword closer) : fork.Amid cursor cursor := by
  rcases within.cases fenced with amid | ⟨_, kind⟩
  · exact amid
  · exact absurd kind inside

theorem Within.isClosedBy
    (fenced : fork.Fenced closer blocks) (within : fork.Within blocks cursor) :
    cursor.isClosedBy (.keyword closer) = true := by
  rw [Cursor.isClosedBy, within.openBlocks]
  exact fenced.closed

theorem Within.next
    (within : fork.Within blocks cursor) (amid : fork.Amid cursor cursor)
    (inside : cursor.kind ≠ .endOfText) : fork.Within blocks cursor.next :=
  ⟨amid.next_along inside,
    (Cursor.openBlocks_next cursor).trans within.openBlocks⟩

theorem Within.report
    {diagnostic : Diagnostic} (within : fork.Within blocks cursor)
    (points : fork.Points diagnostic) :
    fork.Within blocks (cursor.report diagnostic) :=
  ⟨within.along.report points, within.openBlocks⟩

theorem Within.enter (within : fork.Within blocks cursor) (block : Block) :
    fork.Within (block :: blocks) (cursor.enter block) :=
  ⟨within.along.enter block, congrArg (block :: ·) within.openBlocks⟩

theorem Within.leave
    {block : Block} (within : fork.Within (block :: blocks) cursor) :
    fork.Within blocks cursor.leave :=
  ⟨within.along.leave, congrArg List.tail within.openBlocks⟩

end Fork

namespace Recovery

open Reader Cursor

theorem Agrees.within {α : Type} {reader : Recovery α}
    (agrees : reader.Agrees cursor cursor fun _ => fork.Along)
    (travels : reader.Travels cursor) (opened : cursor.openBlocks = blocks) :
    reader.Ends cursor fun _ => fork.Within blocks :=
  ⟨agrees.2, Eq.trans (Cursor.Reaches.openBlocks travels) opened⟩

/-- Line breaks are passed within the row. -/
theorem within_skipNewlines
    (fenced : fork.Fenced closer blocks) (within : fork.Within blocks cursor) :
    skipNewlines.Ends cursor fun _ => fork.Within blocks := by
  have step (value : Unit) (cursor : Cursor)
      (within : fork.Within blocks cursor) :
      (passNewline value).Ends cursor
        (Step.Settles (fun _ => fork.Within blocks)
          fun _ => fork.Within blocks) := by
    unfold passNewline
    rw [ends_bind, ends_get]
    split
    · rename_i breaks
      have amid := within.amid fenced
        (fenced.ne (by rw [breaks]; exact ⟨nofun, nofun⟩))
      exact within.next amid (by rw [breaks]; nofun)
    · exact within
  exact ends_loop_of_keeps _ proceeds_passNewline step () within

section Body

variable {body : Block → Recovery (List Statement)}
  (fences : ∀ {blocks : List Block} {cursor : Cursor} (block : Block),
    fork.Fenced closer blocks → fork.Within blocks cursor →
      (body block).Ends cursor fun _ => fork.Within blocks)

/-! ## Conditionals and loops -/

theorem within_reportUnterminated (block : Block) {opener : Token}
    (opens : fork.Knows (.keyword block.opener) opener)
    (within : fork.Within blocks cursor) :
    (reportUnterminated block opener).Ends cursor
      fun _ => fork.Within blocks := by
  have here : fork.known cursor.current ∨ cursor.current ∈ fork.rest := by
    rcases within.along.cases with amid | ⟨here, _⟩
    · exact .inl amid.known
    · exact .inr (here ▸ List.mem_cons_self)
  exact within.report (points_unterminated opens here)

include fences

/-- An arm is read within the row, whatever it is. -/
theorem within_nextArm (fenced : fork.Fenced closer blocks) {opener : Token}
    (opens : fork.Knows (.keyword .ifThen) opener) (arms : Reader.Arms)
    (within : fork.Within blocks cursor) :
    (nextArm body opener arms).Ends cursor
      (Step.Settles (fun _ => fork.Within blocks)
        fun _ => fork.Within blocks) := by
  unfold nextArm
  rw [ends_bind, ends_get]
  split
  · rename_i found
    have amid := within.amid fenced
      (fenced.ne (by rw [found]; exact ⟨nofun, nofun⟩))
    have next := amid.next (by rw [found]; rfl)
    have opened := (openBlocks_next cursor).trans within.openBlocks
    have told : (reportElseIfAfterElse arms cursor.current).Ends
        cursor.next fun _ after => fork.Amid after after ∧
          after.openBlocks = blocks := by
      unfold reportElseIfAfterElse
      split
      · exact ⟨next.report (amid.starts.points rfl), opened⟩
      · exact ⟨next, opened⟩
    rw [ends_bind, ends_advance]
    apply told.bind
    intro _ after reached
    apply ((agrees_condition reached.1 _).within (travels_condition _ after)
      reached.2).bind
    intro found after within
    exact (fences _ fenced within).bind fun inside after within => within
  · rename_i found
    have amid := within.amid fenced
      (fenced.ne (by rw [found]; exact ⟨nofun, nofun⟩))
    have next := amid.next (by rw [found]; rfl)
    have opened := (openBlocks_next cursor).trans within.openBlocks
    rw [ends_bind, ends_advance]
    apply ((agrees_finishLine next _).within (travels_finishLine _ _)
      opened).bind
    intro _ after within
    apply (fences _ fenced within).bind
    intro inside after within
    split
    · exact within.report (amid.starts.points rfl)
    · exact within
  · rename_i found
    have amid := within.amid fenced
      (fenced.ne (by rw [found]; exact ⟨nofun, nofun⟩))
    have next := amid.next (by rw [found]; rfl)
    have opened := (openBlocks_next cursor).trans within.openBlocks
    rw [ends_bind, ends_advance]
    exact ((agrees_finishLine next _).within (travels_finishLine _ _)
      opened).bind fun _ _ within => within
  · exact (within_reportUnterminated _ opens within).bind
      fun _ _ within => within

/-- A conditional ends within the row, whatever it is. -/
theorem within_conditionalStatement
    (fenced : fork.Fenced closer blocks) (amid : fork.Amid cursor cursor)
    (opened : cursor.openBlocks = blocks)
    (found : cursor.kind = .keyword .ifThen)
    (travels : ∀ block cursor, (body block).Travels cursor) :
    (conditionalStatement body).Ends cursor
      fun _ => fork.Within blocks := by
  have next := amid.next (by rw [found]; rfl)
  have openedNext := (openBlocks_next cursor).trans opened
  unfold conditionalStatement
  rw [ends_bind, ends_advance]
  apply ((agrees_condition next _).within (travels_condition _ _)
    openedNext).bind
  intro condition after within
  apply (fences _ fenced within).bind
  intro inside after within
  have arms (value : Reader.Arms) :
      (loop (nextArm body cursor.current) after.budget value).Ends
        after fun _ => fork.Within blocks :=
    ends_loop_of_keeps _ (proceeds_nextArm travels cursor.current)
      (fun arms _ within =>
        within_nextArm fences fenced ⟨amid.known, found⟩ arms within) value
      within
  rw [ends_bind, ends_get, ends_bind, ends_get]
  apply (arms _).bind
  intro arms after within
  split <;> exact within

/-- A loop ends within the row, whatever it is. -/
theorem within_loopStatement
    (fenced : fork.Fenced closer blocks) (amid : fork.Amid cursor cursor)
    (opened : cursor.openBlocks = blocks)
    (found : cursor.kind = .keyword .whileLoop) :
    (loopStatement body).Ends cursor fun _ => fork.Within blocks := by
  have next := amid.next (by rw [found]; rfl)
  have openedNext := (openBlocks_next cursor).trans opened
  unfold loopStatement
  rw [ends_bind, ends_advance]
  apply ((agrees_condition next _).within (travels_condition _ _)
    openedNext).bind
  intro condition after within
  apply (fences _ fenced within).bind
  intro inside after within
  have closing : (endOfLoop cursor.current).Ends after
      fun _ => fork.Within blocks := by
    unfold endOfLoop
    rw [ends_bind, ends_get]
    split
    · rename_i found
      have amid := within.amid fenced
        (fenced.ne (by rw [found]; exact ⟨nofun, nofun⟩))
      have next := amid.next (by rw [found]; rfl)
      rw [ends_bind, ends_advance]
      exact (agrees_finishLine next _).within (travels_finishLine _ _)
        ((openBlocks_next after).trans within.openBlocks)
    · exact within_reportUnterminated .loop ⟨amid.known, found⟩ within
  apply closing.bind
  intro _ after within
  split <;> exact within

/-- A statement stays in the row, or leaves an error in it. -/
theorem within_statement
    (fenced : fork.Fenced closer blocks) (amid : fork.Amid cursor cursor)
    (opened : cursor.openBlocks = blocks)
    (travels : ∀ block cursor, (body block).Travels cursor) :
    (statement body).Ends cursor (fun _ => fork.Within blocks)
      fun diagnostic after =>
        fork.Fails diagnostic after after ∧ after.openBlocks = blocks := by
  have single {reader : Reader Statement}
      (agrees : reader.Agrees fork cursor cursor fun _ => fork.Along)
      (travels : reader.Travels cursor) :
      (some <$> reader).Ends cursor (fun _ => fork.Within blocks)
        fun diagnostic after =>
          fork.Fails diagnostic after after ∧ after.openBlocks = blocks := by
    rw [ends_map]
    apply (agrees.ends.and travels).mono
    · exact fun _ _ reached =>
        ⟨reached.1, reached.2.openBlocks.trans opened⟩
    · exact fun _ _ reached =>
        ⟨reached.1, reached.2.1.openBlocks.trans opened⟩
  unfold statement
  rw [Reader.ends_bind, Reader.ends_get]
  split
  · rename_i found
    rw [ends_lift]
    exact within_conditionalStatement fences fenced amid opened found travels
  · rename_i found
    rw [ends_lift]
    exact within_loopStatement fences fenced amid opened found
  · exact single (agrees_returnStatement amid)
      (advances_returnStatement cursor).travels
  · split
    · exact single (agrees_declareStatement amid)
        (advances_declareStatement cursor).travels
    · exact single (agrees_expressionStatement amid)
        (advances_expressionStatement cursor).travels

/-! ## Bodies -/

/-- A line of a body stays in the row, and the terminator behind the row is
no line. -/
theorem within_bodyLine (fenced : fork.Fenced closer blocks) (block : Block)
    (statements : List Statement) (within : fork.Within blocks cursor)
    (travels : ∀ block cursor, (body block).Travels cursor) :
    (bodyLine body block statements).Ends cursor
      (Step.Settles (fun _ => fork.Within blocks) fun _ after =>
        fork.Within blocks after ∧ block.StopsAt after) := by
  apply (within_skipNewlines fenced within).bind
  intro _ cursor within
  rw [ends_bind, ends_get]
  dsimp only
  split
  · rename_i stops
    simp only [Bool.or_eq_true, decide_eq_true_eq, or_assoc] at stops
    exact ⟨within, stops.imp_right fun stops => stops.imp_right .inl⟩
  · split
    · rename_i terminator
      split
      · rename_i closes
        exact ⟨within, .inr (.inr (.inr closes))⟩
      · rename_i stray
        have amid := within.amid fenced fun found =>
          stray (found ▸ within.isClosedBy fenced)
        have inLine := endsLine_of_isBlockTerminator terminator
        have inside : cursor.kind ≠ .endOfText := by
          intro atEnd
          rw [atEnd] at inLine
          cases inLine
        exact (within.next amid inside).report
          (amid.points rfl (explains_stray terminator))
    · rename_i noTerminator
      have amid := within.amid fenced fun found =>
        noTerminator (found ▸ fenced.isBlockTerminator)
      split
      · rename_i doc
        exact within.next amid (by rw [doc]; nofun)
      · rw [ends_bind, ends_run]
        apply (within_statement fences fenced amid within.openBlocks
          travels).mono
        · intro found after within
          cases found <;> exact within
        · intro diagnostic after reached
          obtain ⟨fails, opened⟩ := reached
          have amid := fails.2.report fails.1
          have skipped := (agrees_synchronize amid).within
            (travels_synchronize _) opened
          show Ends (synchronize >>= fun _ =>
            pure (Step.again statements)) (after.report diagnostic) _
          exact skipped.bind fun _ _ within => within

theorem within_bodyLines (fenced : fork.Fenced closer blocks) (block : Block)
    (within : fork.Within blocks cursor)
    (travels : ∀ block cursor, (body block).Travels cursor) :
    Ends (loop (bodyLine body block) cursor.budget [])
      (cursor.enter block) fun _ after =>
        fork.Within (block :: blocks) after ∧ block.StopsAt after :=
  ends_loop_of_keeps _ (proceeds_bodyLine travels block)
    (fun statements _ within => within_bodyLine fences (fenced.enter block)
      block statements within travels) [] (within.enter block)

end Body

/-- A body ends within the row, however broken it is. -/
theorem within_body (fenced : fork.Fenced closer blocks) (block : Block)
    (within : fork.Within blocks cursor) :
    (Reader.body block).Ends cursor fun _ => fork.Within blocks := by
  have bounded (bound : List Token) : ∀ {blocks : List Block}
      {cursor : Cursor} (block : Block), fork.Fenced closer blocks →
        fork.Within blocks cursor →
          (bodyWithin bound block).Ends cursor
            fun _ => fork.Within blocks := by
    induction bound with
    | nil => exact fun _ _ within => within
    | cons _ bound ih =>
      intro blocks cursor block fenced within
      exact (within_bodyLines ih fenced block within
        (travels_bodyWithin bound)).mono fun _ _ reached => reached.1.leave
  unfold Ends
  rw [run_body_eq]
  exact bounded cursor.budget block fenced within

/-! ## The outermost body -/

/-- A row of tokens that may all stand in a body starts no member. -/
theorem atMemberStart_of_known {block : Block}
    (free : ∀ token, fork.known token → token.kind.IsInside block)
    (amid : fork.Amid cursor cursor) : cursor.atMemberStart = false := by
  have here := free _ amid.known
  unfold atMemberStart
  split
  · rename_i found
    exact absurd found here.2.2.1
  · rename_i found
    exact absurd found here.2.2.2.1
  · rename_i found
    exact absurd found here.2.2.2.2.1
  · rename_i found
    exact absurd found here.2.2.2.2.2.1
  · rename_i found
    exact absurd found here.2.2.2.2.2.2.1
  · rename_i auto
    obtain ⟨token, known, kind⟩ := amid.exists_kindAt 1 fun nearer near => by
      obtain rfl : nearer = 0 := by omega
      show cursor.kind.endsLine = false
      rw [auto]
      rfl
    rw [← kind]
    exact decide_eq_false (free token known).2.2.2.2.1
  · by_cases starts : cursor.atTypeStart = true
    · obtain ⟨token, known, kind⟩ := amid.exists_kindAt cursor.typeLength
        (Fork.inLine_of_atTypeStart starts)
      have inside := free token known
      rw [kind] at inside
      simp [kindAfterType, inside.2.2.1, inside.2.2.2.2.2.2.2]
    · simp [starts]

/-- A function or an event is closed by its terminator alone. -/
theorem kind_of_closedBy
    {block : Block} (fenced : fork.Fenced block.terminator [block])
    {kind : Kind} (closes : block.closedBy kind = true) :
    kind = .keyword block.terminator := by
  have single : block.closers = [block.terminator] := by
    cases block with
    | conditional => exact absurd fenced.callable (by decide)
    | _ => rfl
  cases kind with
  | keyword word =>
    rw [Block.closedBy, single] at closes
    simpa using closes
  | _ => cases closes

/-- Where nothing in the row starts a declaration, ends the text or closes
the block, its body ends right behind the row. -/
theorem ends_body_behind
    {block : Block} (fenced : fork.Fenced block.terminator [block])
    (free : ∀ token, fork.known token → token.kind.IsInside block)
    (within : fork.Within [] cursor) :
    (Reader.body block).Ends cursor fun _ after =>
      after.budget = fork.rest ∧ fork.Within [] after := by
  rw [ends_body]
  have lines := ends_loop_of_keeps _ (proceeds_bodyLine travels_body block)
    (fun statements _ within => within_bodyLine
      (fun block fenced within => within_body fenced block within) fenced
      block statements within travels_body) [] (within.enter block)
  apply lines.mono
  intro statements after reached
  obtain ⟨within, stops⟩ := reached
  refine ⟨?_, within.leave⟩
  rcases within.cases fenced with amid | ⟨here, _⟩
  · exfalso
    have inside := free _ amid.known
    rcases stops with atEnd | closes | member | closes
    · exact inside.1 atEnd
    · exact inside.2.1 (kind_of_closedBy fenced closes)
    · rw [atMemberStart_of_known free amid] at member
      cases member
    · rw [isClosedBy, within.openBlocks, List.any_cons, List.any_nil,
        Bool.or_false] at closes
      exact inside.2.1 (kind_of_closedBy fenced closes)
  · exact here

end Recovery

end Bodies

end PapyrusScript
