import PapyrusScript.Proofs.Isolation.Body
import PapyrusScript.Proofs.Layout.Line

/-!
# Delimited functions and events

A function or an event is delimited if its header is a line of its own, its
terminator stands on a line of its own, and nothing between them starts a
declaration.  Nothing else is asked of its header and of its body.  Such a
function or event is always read, and reading it ends right behind it.  So
between two declarations of a script it is read as one member of its name.
-/

namespace PapyrusScript

variable {α : Type}

/-! ## Passing lines -/

namespace Cursor

variable {source middle target : Cursor}

/-- A line starts at the second cursor that has not started at the first one,
unless the text ends there. -/
def Behind (source target : Cursor) : Prop :=
  target.kind = .endOfText ∨
    ∃ passed line, source.budget = passed ++ line :: target.budget ∧
      line.kind = .newline

theorem Reaches.trans_behind
    (reaches : source.Reaches middle) (behind : middle.Behind target) :
    source.Behind target := by
  obtain ⟨⟨before, path⟩, _⟩ := reaches
  rcases behind with atEnd | ⟨passed, line, shape, breaks⟩
  · exact .inl atEnd
  · refine .inr ⟨before ++ passed, line, ?_, breaks⟩
    rw [path.budget_eq.1, shape, List.append_assoc]

end Cursor

namespace Recovery

variable {cursor : Cursor}

/-- Discarding a line comes to the next one. -/
theorem behind_skipLine (cursor : Cursor) :
    Reader.skipLine.Ends cursor fun _ after => cursor.Behind after := by
  have step (value : Unit) (middle : Cursor)
      (reached : ∃ passed, cursor.budget = passed ++ middle.budget) :
      (Reader.discardInLine value).Ends middle
        (Step.Settles
          (fun _ after => ∃ passed, cursor.budget = passed ++ after.budget)
          fun _ after => cursor.Behind after) := by
    obtain ⟨passed, shape⟩ := reached
    unfold Reader.discardInLine
    rw [ends_bind, ends_get]
    split
    · rename_i atEnd
      exact .inl atEnd
    · rename_i inside
      rw [Cursor.budget_eq_cons_next inside, ← Cursor.budget_discard] at shape
      rw [ends_bind, ends_discard]
      split
      · rename_i breaks
        exact .inr ⟨passed, middle.current, shape, breaks⟩
      · refine ⟨passed ++ [middle.current], ?_⟩
        rw [shape, List.append_assoc]
        rfl
  exact ends_loop_of_keeps _ proceeds_discardInLine step () ⟨[], rfl⟩

theorem behind_skipLineAfter
    (diagnostic : Diagnostic) (value : α) (cursor : Cursor) :
    Ends (Reader.reportAndSkipLine diagnostic >>= fun _ => pure value) cursor
      fun _ after => cursor.Behind after := by
  have told : (Reader.report diagnostic).Ends cursor fun _ after =>
      after = cursor.report diagnostic :=
    rfl
  unfold Reader.reportAndSkipLine
  rw [bind_assoc]
  apply told.bind
  rintro _ _ rfl
  exact (behind_skipLine (cursor.report diagnostic)).bind
    fun _ _ behind => behind

end Recovery

namespace Reader

theorem behind_endOfLine (context : String) (cursor : Cursor) :
    (endOfLine context).Ends cursor (fun _ after => cursor.Behind after)
      fun _ after => cursor.Reaches after := by
  unfold endOfLine
  rw [ends_bind, ends_get]
  split
  · rename_i breaks
    have inside : cursor.kind ≠ .endOfText := by
      rw [breaks]
      nofun
    exact .inr ⟨[], cursor.current, Cursor.budget_eq_cons_next inside, breaks⟩
  · rename_i atEnd
    exact .inl atEnd
  · exact .refl cursor

/-- The end of a declaration comes to the next line. -/
theorem behind_endOfDeclaration (context : String) (cursor : Cursor) :
    (endOfDeclaration context).Ends cursor
      (fun _ after => cursor.Behind after)
      fun _ after => cursor.Reaches after := by
  have commented {cursor : Cursor} (doc : cursor.kind = .docComment) :
      cursor.Reaches cursor.next :=
    (Recovery.advances_of_kind doc rfl).1
  unfold endOfDeclaration
  rw [ends_bind, ends_get]
  split
  · rename_i doc
    rw [ends_bind, ends_lift, Recovery.ends_advance, ends_bind]
    apply (behind_endOfLine context cursor.next).mono
    · exact fun _ _ behind => (commented doc).trans_behind behind
    · exact fun _ _ reaches => (commented doc).trans reaches
  · rw [ends_bind]
    have ended := (behind_endOfLine context cursor).and
      (travels_endOfLine context cursor)
    apply ended.mono
    · intro _ after reached
      obtain ⟨behind, reaches⟩ := reached
      rw [ends_bind, ends_get]
      split
      · rename_i doc
        have further := reaches.trans (commented doc)
        rw [ends_bind, ends_lift, Recovery.ends_advance, ends_bind]
        apply (behind_endOfLine _ after.next).mono
        · exact fun _ _ behind => further.trans_behind behind
        · exact fun _ _ more => further.trans more
      · exact behind
    · exact fun _ _ reached => reached.1

end Reader

namespace Recovery

/-- A header comes to the next line, however broken it is. -/
theorem behind_callableHeader
    (block : Block) (context : String) (cursor : Cursor) :
    (Reader.callableHeader block context).Ends cursor
      fun _ after => cursor.Behind after := by
  apply (Ends.mono (travelsTo_parameters cursor) fun _ _ reached =>
    reached.1).bind
  intro found middle reaches
  obtain ⟨parameters, failure⟩ := found
  cases failure with
  | some diagnostic =>
    exact (behind_skipLineAfter diagnostic _ middle).mono
      fun _ _ behind => reaches.trans_behind behind
  | none =>
    apply Ends.bind (travels_callableFlags block middle)
    intro flags last further
    have reaches := reaches.trans further
    rw [ends_bind, ends_run]
    apply (Reader.behind_endOfDeclaration context last).mono
    · exact fun _ _ behind => reaches.trans_behind behind
    · intro diagnostic after more
      exact (behind_skipLineAfter diagnostic _ after).mono
        fun _ _ behind => (reaches.trans more).trans_behind behind

/-- Only a flag in the row makes a function or an event native. -/
theorem native_callableHeader
    {fork : Fork} {cursor : Cursor} (block : Block) (context : String)
    (amid : fork.Amid cursor cursor) :
    (Reader.callableHeader block context).Ends cursor fun header _ =>
      header.flags.native = true →
        ∃ token, fork.known token ∧ token.kind = .keyword .native := by
  apply (agrees_parameters amid).ends.bind
  intro found middle settled
  obtain ⟨parameters, failure⟩ := found
  cases failure with
  | some diagnostic =>
    exact ends_bind_of_forall fun _ _ native => Bool.noConfusion native
  | none =>
    apply (agrees_callableFlags block settled.2).ends.bind
    intro flags last inside
    apply ends_bind_of_forall
    intro answer after
    cases answer with
    | ok doc => exact inside.1
    | error diagnostic => exact ends_bind_of_forall fun _ _ => inside.1

end Recovery

/-! ## Delimited functions and events -/

/-- The text of a function or an event that is delimited by its header line
and by the line of its terminator. -/
structure Delimited where
  block : Block
  opener : Token
  name : Token
  header : List Token
  headerEnd : Token
  inside : List Token
  insideEnd : Token
  closer : Token
  closerEnd : Token
  callable : block = .function ∨ block = .event
  opens : opener.kind = .keyword block.opener
  named : name.kind = .identifier
  oneLine : ∀ token ∈ header, token.kind ≠ .newline ∧ token.kind ≠ .endOfText
  bodied : ∀ token ∈ header, token.kind ≠ .keyword .native
  headerBreaks : headerEnd.kind = .newline
  undivided : ∀ token ∈ inside, token.kind.IsInside block
  insideBreaks : insideEnd.kind = .newline
  closes : closer.kind = .keyword block.terminator
  closerBreaks : closerEnd.kind = .newline

namespace Delimited

/-- The tokens after the header line and in front of the terminator. -/
def body (text : Delimited) : List Token := text.inside ++ [text.insideEnd]

def interior (text : Delimited) : List Token :=
  text.header ++ text.headerEnd :: text.body

/-- The line of the terminator. -/
def ending (text : Delimited) : List Token := [text.closer, text.closerEnd]

/-- All of the tokens. -/
def tokens (text : Delimited) : List Token :=
  text.opener :: text.name :: (text.interior ++ text.ending)

variable (text : Delimited)

theorem isInside_of_mem_body {token : Token} (member : token ∈ text.body) :
    token.kind.IsInside text.block := by
  rcases List.mem_append.1 member with within | last
  · exact text.undivided token within
  · obtain rfl := List.mem_singleton.1 last
    rw [text.insideBreaks]
    exact ⟨nofun, nofun, nofun, nofun, nofun, nofun, nofun, nofun⟩

theorem isCallable_terminator :
    text.block.terminator = .endFunction ∨
      text.block.terminator = .endEvent := by
  rcases text.callable with block | block <;> rw [block]
  · exact .inl rfl
  · exact .inr rfl

theorem closedBy_terminator :
    text.block.closedBy (.keyword text.block.terminator) = true := by
  rcases text.callable with block | block <;> rw [block] <;> rfl

/-- What is left behind the header line of a cursor that has passed it. -/
theorem exists_suffix {row rest : List Token} {source target : Cursor}
    (here : source.budget = text.interior ++ text.ending ++ rest)
    (there : target.budget = row ++ (text.ending ++ rest))
    (behind : source.Behind target)
    (inside : target.kind ≠ .endOfText) : row <:+ text.body := by
  obtain ⟨passed, line, shape, breaks⟩ := behind.resolve_left inside
  have divided : text.header ++
      text.headerEnd :: (text.body ++ (text.ending ++ rest)) =
        passed ++ line :: (row ++ (text.ending ++ rest)) := by
    rw [← there, ← shape, here, interior]
    simp
  have suffix : row ++ (text.ending ++ rest) <:+
      text.body ++ (text.ending ++ rest) := by
    rcases List.append_eq_append_iff.1 divided with
      ⟨more, rfl, same⟩ | ⟨more, header, same⟩
    · cases more with
      | nil => exact ⟨[], (List.cons.inj same).2.symm⟩
      | cons first more =>
        refine ⟨more ++ [line], ?_⟩
        rw [(List.cons.inj same).2]
        simp
    · cases more with
      | nil => exact ⟨[], (List.cons.inj same).2⟩
      | cons first more =>
        obtain rfl := (List.cons.inj same).1
        exact absurd breaks (text.oneLine line (by simp [header])).1
  obtain ⟨before, same⟩ := suffix
  rw [← List.append_assoc] at same
  exact ⟨before, List.append_cancel_right same⟩

/-- Whatever is reported between two cursors is reported at the text. -/
def Tells (source target : Cursor) : Prop :=
  ∃ news, target.reported = news ++ source.reported ∧
    ∀ diagnostic ∈ news,
      ∃ token ∈ text.tokens, diagnostic.position = token.span.start

variable {text}

theorem Tells.trans
    {source middle target : Cursor} (first : text.Tells source middle)
    (second : text.Tells middle target) : text.Tells source target := by
  obtain ⟨news, told, known⟩ := first
  obtain ⟨more, further, knownToo⟩ := second
  refine ⟨more ++ news, ?_, ?_⟩
  · rw [further, told, List.append_assoc]
  · intro diagnostic member
    rcases List.mem_append.1 member with later | earlier
    · exact knownToo diagnostic later
    · exact known diagnostic earlier

/-- The cursor stands somewhere in the body, at the start of a line, and what
has been reported since another cursor was reported at the text. -/
structure InBody
    (text : Delimited) (rest : List Token) (source cursor : Cursor) :
    Prop where
  here : ∃ row, row <:+ text.body ∧ cursor.budget = row ++ (text.ending ++ rest)
  openBlocks : cursor.openBlocks = []
  tells : text.Tells source cursor

/-- The cursor stands behind the text. -/
structure Passed
    (text : Delimited) (rest : List Token) (source cursor : Cursor) :
    Prop where
  here : cursor.budget = rest
  openBlocks : cursor.openBlocks = []
  tells : text.Tells source cursor

end Delimited

namespace Fork

/-- The fork of a run with itself in front of a row. -/
def around (row rest : List Token) (cursor : Cursor) : Fork where
  rest := rest
  other := rest
  told := cursor.reported
  toldOther := cursor.reported
  known token := token ∈ row

variable {row rest : List Token} {cursor : Cursor}

theorem faces_around (here : cursor.budget = row ++ rest)
    (closed : ∀ token, row.getLast? = some token → token.kind.endsLine = true) :
    (around row rest cursor).Faces row cursor cursor where
  here := here
  there := here
  closed := closed
  known := fun _ member => member
  lastEnd := rfl
  openBlocks := rfl
  lexical := fun _ _ _ => Iff.rfl
  reported := ⟨[], rfl, rfl, List.forall_mem_nil _⟩

theorem Along.tells {text : Delimited} {after : Cursor}
    (along : (around row rest cursor).Along after after)
    (inside : ∀ token ∈ row, token ∈ text.tokens) :
    text.Tells cursor after := by
  obtain ⟨_, faces⟩ := along
  obtain ⟨news, reported, _, known⟩ := faces.reported
  refine ⟨news, reported, fun diagnostic member => ?_⟩
  obtain ⟨token, within, place⟩ := (known diagnostic member).starts
  exact ⟨token, inside token within, place.symm⟩

end Fork

namespace Delimited

open Recovery

variable (text : Delimited) {rest : List Token} {cursor : Cursor}

theorem closed_of_suffix {row : List Token} (suffix : row <:+ text.body) :
    ∀ token, row.getLast? = some token → token.kind.endsLine = true := by
  obtain ⟨before, whole⟩ := suffix
  intro token last
  have same := congrArg List.getLast? whole
  rw [body, List.getLast?_append, last, List.getLast?_concat] at same
  obtain rfl := Option.some.inj same
  rw [text.insideBreaks]
  rfl

theorem kind_ne_endOfText_of_interior
    {token : Token} (member : token ∈ text.interior) :
    token.kind ≠ .endOfText := by
  rcases List.mem_append.1 member with inHeader | member
  · exact (text.oneLine token inHeader).2
  · rcases List.mem_cons.1 member with rfl | inBody
    · rw [text.headerBreaks]
      nofun
    · exact (text.isInside_of_mem_body inBody).1

/-- The header of a delimited function or event takes the cursor to its
body. -/
theorem ends_callableHeader
    (here : cursor.budget = text.interior ++ text.ending ++ rest)
    (nothing : cursor.openBlocks = []) (context : String) :
    (Reader.callableHeader text.block context).Ends cursor
      fun header after =>
        header.flags.native = false ∧ text.InBody rest cursor after := by
  have bodied : (Reader.callableHeader text.block context).Ends cursor
      fun header _ => header.flags.native = false := by
    have line : cursor.budget = (text.header ++ [text.headerEnd]) ++
        (text.body ++ text.ending ++ rest) := by
      rw [here, interior]
      simp
    have faces := Fork.faces_around line fun token last => by
      rw [List.getLast?_concat] at last
      obtain rfl := Option.some.inj last
      rw [text.headerBreaks]
      rfl
    apply (native_callableHeader text.block context
      ⟨_, by simp, faces⟩).mono
    intro header _ native
    rw [Bool.eq_false_iff]
    intro found
    obtain ⟨token, member, kind⟩ := native found
    rcases List.mem_append.1 member with inHeader | last
    · exact text.bodied token inHeader kind
    · obtain rfl := List.mem_singleton.1 last
      rw [text.headerBreaks] at kind
      cases kind
  have whole : cursor.budget = text.interior ++ (text.ending ++ rest) := by
    rw [here, List.append_assoc]
  have ended : text.interior =
      (text.header ++ text.headerEnd :: text.inside) ++ [text.insideEnd] := by
    simp [interior, body]
  have faces := Fork.faces_around whole fun token last => by
    rw [ended, List.getLast?_concat] at last
    obtain rfl := Option.some.inj last
    rw [text.insideBreaks]
    rfl
  have heads : ∀ token more, text.ending ++ rest = token :: more →
      token.kind ≠ .docComment := by
    intro token more same
    obtain rfl := (List.cons.inj same).1
    rw [text.closes]
    nofun
  have agrees := (agreesUnless_callableHeader (.of_ne heads heads) text.block
    context ⟨_, by simp [interior], faces⟩).resolve_left fun lost => by
      obtain ⟨⟨token, more, same, doc⟩, _⟩ := lost
      exact heads token more same doc
  have along := agrees.ends
  have behind := behind_callableHeader text.block context cursor
  have travels := travels_callableHeader text.block context cursor
  apply (bodied.and (along.and (behind.and travels))).mono
  intro header after reached
  obtain ⟨bodied, along, behind, reaches⟩ := reached
  have tells : text.Tells cursor after := along.tells fun token member => by
    simp [tokens, member]
  obtain ⟨row, faces⟩ := along
  have inside : after.kind ≠ .endOfText := by
    cases row with
    | nil =>
      rw [Cursor.kind_of_budget faces.here, text.closes]
      nofun
    | cons token row =>
      rw [Cursor.kind_of_budget faces.here]
      exact text.kind_ne_endOfText_of_interior
        (faces.known token List.mem_cons_self)
  have suffix := text.exists_suffix here faces.here behind inside
  exact ⟨bodied, ⟨row, suffix, faces.here⟩, reaches.openBlocks.trans nothing,
    tells⟩

/-- The body of a delimited function or event takes the cursor behind it. -/
theorem ends_openBody
    {source : Cursor} (within : text.InBody rest source cursor) :
    (Reader.openBody text.block text.opener).Ends cursor
      fun _ after => text.Passed rest source after := by
  obtain ⟨⟨row, suffix, here⟩, nothing, tells⟩ := within
  have faces := Fork.faces_around here (text.closed_of_suffix suffix)
  have fenced : (Fork.around row (text.ending ++ rest) cursor).Fenced
      text.block.terminator [text.block] := by
    refine ⟨text.isCallable_terminator,
      ⟨text.closer, text.closerEnd :: rest, rfl, text.closes⟩, ?_⟩
    rw [List.any_cons, text.closedBy_terminator, Bool.true_or]
  have free : ∀ token,
      (Fork.around row (text.ending ++ rest) cursor).known token →
        token.kind.IsInside text.block :=
    fun token member => text.isInside_of_mem_body (suffix.subset member)
  apply (ends_body_behind fenced free ⟨⟨row, faces⟩, nothing⟩).bind
  intro inside after reached
  obtain ⟨here, within⟩ := reached
  have further : text.Tells cursor after := within.along.tells fun token member => by
    have inBody := suffix.subset member
    simp [tokens, interior, inBody]
  have closes : text.block.closedBy after.kind = true := by
    rw [Cursor.kind_of_budget here, text.closes]
    exact text.closedBy_terminator
  have closing : text.closer.kind ≠ .endOfText := by
    rw [text.closes]
    nofun
  have ended := Reader.takes_finishLine text.closerBreaks "block terminator"
    after.next (Cursor.budget_next_of_budget here closing)
  rw [ends_bind, ends_get, if_pos closes, ends_bind, ends_advance]
  apply Ends.bind ended
  intro _ last reached
  obtain ⟨_, place, quiet⟩ := reached
  show text.Passed rest source last
  refine ⟨place, ?_, ?_⟩
  · rw [quiet.openBlocks, Cursor.openBlocks_next, within.openBlocks]
  · obtain ⟨news, told, known⟩ := tells.trans further
    refine ⟨news, ?_, known⟩
    rw [quiet.reported, Cursor.reported_next, told]

end Delimited

/-! ## Delimited functions and events as members -/

/-- Whether a member is a function or an event, as the block says, of a
name. -/
def Member.Declares (member : Member) (block : Block) (name : Identifier) :
    Prop :=
  match member with
  | .function found => block = .function ∧ found.name = name
  | .event found => block = .event ∧ found.name = name
  | _ => False

namespace Delimited

open Recovery

variable (text : Delimited) {rest : List Token} {cursor : Cursor}

/-- The name as it is found in the tree. -/
def identifier : Identifier := ⟨text.name.text, text.name.span⟩

theorem kind_opener_ne : text.opener.kind ≠ .endOfText ∧
    text.opener.kind ≠ .newline := by
  rw [text.opens]
  exact ⟨nofun, nofun⟩

theorem Passed.of_next {text : Delimited} {after : Cursor}
    (passed : text.Passed rest cursor.next after) :
    text.Passed rest cursor after := by
  obtain ⟨news, told, known⟩ := passed.tells
  rw [Cursor.reported_next] at told
  exact ⟨passed.here, passed.openBlocks, news, told, known⟩

/-- What follows the name of a delimited function or event leads behind it. -/
theorem ends_afterName {α : Type} {block : Block} {context : String}
    {following : Reader.CallableHeader → List Statement → Reader α}
    {accepted : α → Cursor → Prop} {refused : Diagnostic → Cursor → Prop}
    (same : text.block = block)
    (here : cursor.budget = text.interior ++ text.ending ++ rest)
    (nothing : cursor.openBlocks = [])
    (holds : ∀ header inside after, text.Passed rest cursor after →
      (following header inside).Ends after accepted refused) :
    Reader.Ends (do
      let header ← Reader.callableHeader block context
      let inside ← Reader.callableBody block text.opener header.flags
      following header inside) cursor accepted refused := by
  subst same
  rw [Reader.ends_bind, Reader.ends_lift]
  apply (text.ends_callableHeader here nothing context).mono
  intro header middle reached
  obtain ⟨bodied, within⟩ := reached
  rw [Reader.ends_bind, Reader.ends_lift, Reader.callableBody, bodied]
  apply (text.ends_openBody within).mono
  exact fun inside after passed => holds header inside after passed

section Opening

variable (here : cursor.budget = text.tokens ++ rest)

include here

theorem kind_of_opener : cursor.kind = .keyword text.block.opener := by
  rw [Cursor.kind_of_budget here, text.opens]

theorem budget_name :
    cursor.next.budget = text.name :: (text.interior ++ text.ending ++ rest) :=
  Cursor.budget_next_of_budget here text.kind_opener_ne.1

theorem budget_interior :
    cursor.next.next.budget = text.interior ++ text.ending ++ rest :=
  Cursor.budget_next_of_budget (text.budget_name here) (by
    rw [text.named]
    nofun)

variable (nothing : cursor.openBlocks = [])

include nothing

omit here in
theorem openBlocks_interior : cursor.next.next.openBlocks = [] := by
  rw [Cursor.openBlocks_next, Cursor.openBlocks_next, nothing]

/-- A delimited function is read as one of its name, up to its end. -/
theorem ends_function (isFunction : text.block = .function) :
    (Reader.function none).Ends cursor
      (fun found after => found.name = text.identifier ∧
        text.Passed rest cursor after)
      fun _ _ => False := by
  have first : cursor.kind = .keyword .function := by
    rw [text.kind_of_opener here, isFunction]
    rfl
  have second : cursor.next.kind = .identifier := by
    rw [Cursor.kind_of_budget (text.budget_name here), text.named]
  unfold Reader.function
  rw [Reader.ends_bind, Reader.ends_expect first]
  dsimp only
  rw [Reader.ends_bind, Reader.ends_identifier second,
    Cursor.current_of_budget here,
    Cursor.current_of_budget (text.budget_name here)]
  apply text.ends_afterName isFunction (text.budget_interior here)
    (openBlocks_interior nothing)
  exact fun header inside after passed => ⟨rfl, passed.of_next.of_next⟩

/-- A delimited event is read as one of its name, up to its end. -/
theorem ends_event (isEvent : text.block = .event) :
    Reader.event.Ends cursor
      (fun found after => found.name = text.identifier ∧
        text.Passed rest cursor after)
      fun _ _ => False := by
  have first : cursor.kind = .keyword .event := by
    rw [text.kind_of_opener here, isEvent]
    rfl
  have second : cursor.next.kind = .identifier := by
    rw [Cursor.kind_of_budget (text.budget_name here), text.named]
  unfold Reader.event
  rw [Reader.ends_bind, Reader.ends_expect first, Reader.ends_bind,
    Reader.ends_identifier second, Cursor.current_of_budget here,
    Cursor.current_of_budget (text.budget_name here)]
  apply text.ends_afterName isEvent (text.budget_interior here)
    (openBlocks_interior nothing)
  exact fun header inside after passed => ⟨rfl, passed.of_next.of_next⟩

/-- A delimited function or event is read as one member of its name. -/
theorem ends_members :
    Reader.members.Ends cursor
      (fun found after => (∃ member, found = [member] ∧
          member.Declares text.block text.identifier) ∧
        text.Passed rest cursor after)
      fun _ _ => False := by
  have first := text.kind_of_opener here
  unfold Reader.members
  rw [Reader.ends_bind, Reader.ends_get]
  rcases text.callable with block | block
  · rw [first, block]
    show Reader.Ends (Reader.plainMember >>= fun member => pure [member])
      cursor _ _
    unfold Reader.plainMember
    rw [block] at first
    change cursor.kind = .keyword .function at first
    rw [Reader.ends_bind, Reader.ends_bind, Reader.ends_get, if_pos first,
      Reader.ends_map]
    apply (text.ends_function here nothing block).mono
    · exact fun found after reached =>
        ⟨⟨.function found, rfl, rfl, reached.1⟩, reached.2⟩
    · exact fun _ _ never => never
  · rw [first, block]
    show Reader.Ends (Reader.event >>= fun found => pure [Member.event found])
      cursor _ _
    rw [Reader.ends_bind]
    apply (text.ends_event here nothing block).mono
    · exact fun found after reached =>
        ⟨⟨.event found, rfl, rfl, reached.1⟩, reached.2⟩
    · exact fun _ _ never => never

/-- Between two declarations of a script, a delimited function or event is
one more member. -/
theorem ends_nextDeclaration (found : Reader.ScriptBody) :
    (Reader.nextDeclaration found).Ends cursor fun decision after =>
      (∃ member, decision =
          .again { found with members := found.members ++ [member] } ∧
        member.Declares text.block text.identifier) ∧
      text.Passed rest cursor after := by
  have first := text.kind_of_opener here
  have noBreak : cursor.kind ≠ .newline := by
    rw [first]
    nofun
  have declares : cursor.atDeclaration = true := by
    unfold Cursor.atDeclaration Cursor.atMemberStart
    rw [first]
    rcases text.callable with block | block <;> rw [block] <;> rfl
  have start : Reader.skipNewlines.Ends cursor fun _ after =>
      after = cursor := by
    unfold Ends
    rw [run_skipNewlines_of_ne noBreak]
  unfold Reader.nextDeclaration
  apply start.bind
  rintro _ _ rfl
  rw [ends_bind, ends_get]
  split
  · rename_i found
    exact absurd (first.symm.trans found) nofun
  · rename_i found
    exact absurd (first.symm.trans found) nofun
  · rename_i found
    rw [first] at found
    rcases text.callable with block | block <;> rw [block] at found <;>
      cases found
  · rename_i found
    rw [first] at found
    rcases text.callable with block | block <;> rw [block] at found <;>
      cases found
  · rw [if_pos declares, ends_bind, ends_run]
    apply (text.ends_members here nothing).mono
    · rintro _ after ⟨⟨member, rfl, declared⟩, passed⟩
      exact ⟨⟨member, rfl, declared⟩, passed⟩
    · exact fun _ _ never => never.elim

end Opening

end Delimited

end PapyrusScript
