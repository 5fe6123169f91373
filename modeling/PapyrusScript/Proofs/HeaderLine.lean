import PapyrusScript.Proofs.Aloof
import PapyrusScript.Proofs.Declared

/-!
# The header line of a function or event

A line that starts a function or event between two declarations is read up to
its name, and then as what follows the name.  So a member is what its first
line says and what is read behind its name.

A header is read within its line.  One without an error ends with the line,
or with a documentation comment on the line after it.  One with an error is
given up, and the rest of the line is discarded, so the cursor comes to the
next line too.  The error depends on the line alone.
-/

namespace PapyrusScript

open Cursor

section FirstLines

variable {cursor : Cursor} {rest : List Token}

/-! ## The first line of a function or event -/

/-- The first line of a function or event up to its name: documentation
comments, a return type, the keyword and the name. -/
structure CallableStart where
  block : Block
  comments : List Token
  returnType : Option TypeName
  typeTokens : List Token
  opener : Token
  name : Token
  callable : block = .function ∨ block = .event ∧ returnType = none
  commented : ∀ token ∈ comments, token.kind = .docComment
  returned : TypeName.Returned returnType typeTokens
  opens : opener.kind = .keyword block.opener
  named : name.kind = .identifier

namespace CallableStart

open Reader

variable (first : CallableStart)

/-- The tokens of the line up to the name. -/
def tokens : List Token :=
  first.comments ++ (first.typeTokens ++ [first.opener, first.name])

/-- The name as it is found in the tree. -/
def identifier : Identifier := ⟨first.name.text, first.name.span⟩

def context : String :=
  match first.block with
  | .event => "event declaration"
  | _ => "function declaration"

/-- Read what follows the name: the rest of the header, and the body. -/
def behindName : Recovery (Reader.CallableHeader × List Statement) := do
  let header ← callableHeader first.block first.context
  let inside ← callableBody first.block first.opener header.flags
  return (header, inside)

/-- The member that is read. -/
def member (returnType : Option TypeName)
    (found : Reader.CallableHeader × List Statement) (span : Span) : Member :=
  match first.block with
  | .event =>
    .event
      { name := first.identifier
        parameters := found.1.parameters
        body := found.2
        native := found.1.flags.native
        doc := found.1.doc
        span }
  | _ =>
    .function
      { returnType
        name := first.identifier
        parameters := found.1.parameters
        body := found.2
        native := found.1.flags.native
        global := found.1.flags.global
        doc := found.1.doc
        span }

theorem member_of_function
    (isFunction : first.block = .function) (returnType : Option TypeName)
    (header : Reader.CallableHeader) (inside : List Statement) (span : Span) :
    first.member returnType (header, inside) span =
      .function ⟨returnType, first.identifier, header.parameters, inside,
        header.flags.native, header.flags.global, header.doc, span⟩ := by
  unfold member
  rw [isFunction]

theorem member_of_event
    (isEvent : first.block = .event) (returnType : Option TypeName)
    (header : Reader.CallableHeader) (inside : List Statement) (span : Span) :
    first.member returnType (header, inside) span =
      .event ⟨first.identifier, header.parameters, inside,
        header.flags.native, header.doc, span⟩ := by
  unfold member
  rw [isEvent]

/-- The error that breaks a header whose rest is a row of tokens. -/
def headerError? (row : List Token) : Option Diagnostic :=
  ((callableHeader first.block first.context).run
    (start (first.name :: row)).next).2.reported.getLast?

/-! ## Reading the first line -/

/-- The cursor is behind the name that a line starts with. -/
structure BehindName (rest : List Token) (cursor behind : Cursor) : Prop where
  budget : behind.budget = rest
  lastEnd : behind.lastEnd = first.name.span.stop
  reaches : cursor.Reaches behind
  reported : behind.reported = cursor.reported

def Reads
    (rest : List Token) (cursor : Cursor) (found : Member) (after : Cursor) :
    Prop :=
  ∃ behind returnType span inside, first.BehindName rest cursor behind ∧
    returnType.map TypeName.bare = first.returnType.map TypeName.bare ∧
      first.behindName.run behind = (inside, after) ∧
        found = first.member returnType inside span

variable {first}

theorem returned_cases :
    (first.returnType = none ∧ first.typeTokens = []) ∨
      ∃ type, first.returnType = some type ∧ type.Spelled first.typeTokens := by
  have returned := first.returned
  generalize first.returnType = returnType, first.typeTokens = row
    at returned ⊢
  cases returned with
  | nothing => exact .inl ⟨rfl, rfl⟩
  | value spelled => exact .inr ⟨_, rfl, spelled⟩

theorem opener_ne : first.opener.kind ≠ .endOfText ∧
    first.opener.kind ≠ .newline := by
  rw [first.opens]
  exact ⟨nofun, nofun⟩

section Opening

variable (here : cursor.budget = first.opener :: first.name :: rest)

include here

theorem kind_opener : cursor.kind = .keyword first.block.opener :=
  (kind_of_budget here).trans first.opens

theorem budget_name : cursor.next.budget = first.name :: rest :=
  budget_next_of_budget here opener_ne.1

theorem kind_name : cursor.next.kind = .identifier :=
  (kind_of_budget (budget_name here)).trans first.named

theorem behindName_next :
    first.BehindName rest cursor cursor.next.next where
  budget := budget_next_of_budget (budget_name here) (by
    rw [first.named]
    nofun)
  lastEnd := by
    rw [lastEnd_next, if_neg (by rw [kind_name here]; nofun),
      current_of_budget (budget_name here)]
  reaches := by
    have opening : cursor.Reaches cursor.next :=
      (Recovery.advances_of_kind (kind_opener here) rfl).1
    exact opening.trans (Recovery.advances_of_kind (kind_name here) rfl).1
  reported := by rw [reported_next, reported_next]

omit here in
/-- What follows the name is read as the reader behind a name reads it. -/
theorem ends_behindName
    {α : Type} {following : Reader.CallableHeader → List Statement → Reader α}
    {accepted : α → Cursor → Prop} {refused : Diagnostic → Cursor → Prop}
    {behind : Cursor}
    (holds : ∀ header inside after,
      first.behindName.run behind = ((header, inside), after) →
        (following header inside).Ends after accepted refused) :
    Reader.Ends (do
      let header ← callableHeader first.block first.context
      let inside ← callableBody first.block first.opener header.flags
      following header inside) behind accepted refused := by
  generalize outcome : first.behindName.run behind = found at holds
  have known : first.behindName.Ends behind fun value after =>
      (value, after) = found :=
    outcome
  unfold behindName at known
  rw [Recovery.ends_bind] at known
  rw [ends_bind, ends_lift]
  apply known.mono
  intro header middle more
  rw [Recovery.ends_bind] at more
  rw [ends_bind, ends_lift]
  apply more.mono
  exact fun inside after same => holds header inside after same.symm

/-- A function is what its first line says and what follows its name. -/
theorem reads_function
    (isFunction : first.block = .function) (returnType : Option TypeName)
    (same : returnType.map TypeName.bare = first.returnType.map TypeName.bare) :
    (Reader.function returnType).Ends cursor
      (fun found after => first.Reads rest cursor (.function found) after)
      fun _ _ => False := by
  have opening : cursor.kind = .keyword .function := by
    rw [kind_opener here, isFunction]
    rfl
  have context : first.context = "function declaration" := by
    unfold CallableStart.context
    rw [isFunction]
  unfold Reader.function
  rw [ends_bind, ends_expect opening]
  dsimp only
  rw [ends_bind, ends_identifier (kind_name here), current_of_budget here,
    current_of_budget (budget_name here), ← isFunction, ← context]
  apply ends_behindName
  intro header inside after ran
  exact ⟨cursor.next.next, returnType, _, (header, inside),
    behindName_next here, same, ran,
    (first.member_of_function isFunction returnType header inside _).symm⟩

/-- An event is what its first line says and what follows its name. -/
theorem reads_event (isEvent : first.block = .event) :
    Reader.event.Ends cursor
      (fun found after => first.Reads rest cursor (.event found) after)
      fun _ _ => False := by
  have opening : cursor.kind = .keyword .event := by
    rw [kind_opener here, isEvent]
    rfl
  have context : first.context = "event declaration" := by
    unfold CallableStart.context
    rw [isEvent]
  unfold Reader.event
  rw [ends_bind, ends_expect opening, ends_bind,
    ends_identifier (kind_name here), current_of_budget here,
    current_of_budget (budget_name here), ← isEvent, ← context]
  apply ends_behindName
  intro header inside after ran
  exact ⟨cursor.next.next, first.returnType, _, (header, inside),
    behindName_next here, rfl, ran,
    (first.member_of_event isEvent first.returnType header inside _).symm⟩

end Opening

theorem Reads.of_reaches {middle after : Cursor} {found : Member}
    (reads : first.Reads rest middle found after)
    (reaches : cursor.Reaches middle)
    (told : middle.reported = cursor.reported) :
    first.Reads rest cursor found after := by
  obtain ⟨behind, returnType, span, inside, place, more⟩ := reads
  exact ⟨behind, returnType, span, inside,
    ⟨place.budget, place.lastEnd, reaches.trans place.reaches,
      place.reported.trans told⟩, more⟩

section Whole

variable
  (here : cursor.budget =
    first.typeTokens ++ first.opener :: first.name :: rest)

include here

theorem starts_function (isFunction : first.block = .function) :
    cursor.kind = .keyword .function ∨
      cursor.atTypeStart = true ∧
        cursor.kindAfterType = .keyword .function := by
  have follows : first.opener.kind = .keyword .function := by
    rw [first.opens, isFunction]
    rfl
  rcases first.returned_cases with ⟨-, nothing⟩ | ⟨type, -, spelled⟩
  · rw [nothing] at here
    exact .inl ((kind_of_budget here).trans follows)
  · have after := kindAfterType_of_spelled spelled
      (by rw [follows]; nofun) here
    rw [follows] at after
    exact .inr after

/-- The line of an event starts with its keyword. -/
theorem starts_event (isEvent : first.block = .event) :
    cursor.budget = first.opener :: first.name :: rest ∧
      cursor.kind = .keyword .event := by
  have untyped : first.returnType = none := by
    rcases first.callable with isFunction | ⟨-, untyped⟩
    · rw [isFunction] at isEvent
      cases isEvent
    · exact untyped
  have nothing : first.typeTokens = [] := by
    rcases first.returned_cases with ⟨-, nothing⟩ | ⟨type, typed, -⟩
    · exact nothing
    · rw [untyped] at typed
      cases typed
  rw [nothing] at here
  refine ⟨here, ?_⟩
  rw [kind_opener here, isEvent]
  rfl

/-- A member that is a function is read by its first line. -/
theorem reads_plainMember (isFunction : first.block = .function) :
    plainMember.Ends cursor (first.Reads rest cursor)
      fun _ _ => False := by
  have follows : first.opener.kind = .keyword .function := by
    rw [first.opens, isFunction]
    rfl
  unfold plainMember
  rw [ends_bind, ends_get]
  rcases first.returned_cases with
    ⟨untyped, nothing⟩ | ⟨type, typed, spelled⟩
  · rw [nothing] at here
    rw [if_pos ((kind_of_budget here).trans follows), ends_map]
    exact reads_function here isFunction none (by rw [untyped])
  · have apart : first.opener.kind ≠ .symbol .openBracket := by
      rw [follows]
      nofun
    have other : cursor.kind ≠ .keyword .function := by
      intro found
      have starts := (heads_spelled spelled).kind here
      rw [found] at starts
      cases starts
    have read : typeName.Ends cursor
        (fun found after =>
          after.budget = first.opener :: first.name :: rest ∧
            cursor.Quiet after ∧ found.bare = type.bare)
        fun _ _ => False :=
      reads_typeName spelled apart here
        fun after place quiet found same => ⟨place, quiet, same⟩
    rw [if_neg other]
    unfold typedMember
    rw [ends_bind]
    apply (read.and (advances_typeName cursor).travels).mono
    · rintro found middle ⟨⟨place, quiet, same⟩, reaches⟩
      rw [ends_bind, ends_get, kind_of_budget place, follows]
      show Reader.Ends (Member.function <$> Reader.function (some found))
        middle _ _
      rw [ends_map]
      apply (reads_function place isFunction (some found) (by
        rw [typed, Option.map_some, Option.map_some, same])).mono
      · exact fun _ _ reads => reads.of_reaches reaches quiet.reported
      · exact fun _ _ never => never
    · exact fun _ _ never => never.1

/-- What starts with the line is read as one member. -/
theorem reads_members :
    Reader.members.Ends cursor
      (fun found after => ∃ member, found = [member] ∧
        first.Reads rest cursor member after)
      fun _ _ => False := by
  unfold Reader.members
  rw [ends_bind, ends_get]
  have plain (isFunction : first.block = .function) :
      Reader.Ends (plainMember >>= fun member => pure [member]) cursor
        (fun found after => ∃ member, found = [member] ∧
          first.Reads rest cursor member after)
        fun _ _ => False := by
    rw [ends_bind]
    apply (reads_plainMember here isFunction).mono
    · exact fun member _ reads => ⟨member, rfl, reads⟩
    · exact fun _ _ never => never
  rcases first.callable with isFunction | ⟨isEvent, -⟩
  · have starts := starts_function here isFunction
    split
    all_goals first
      | exact plain isFunction
      | simp_all [Cursor.atTypeStart, Kind.isTypeKeyword]
  · obtain ⟨here, kind⟩ := starts_event here isEvent
    rw [kind]
    show Reader.Ends (Reader.event >>= fun found => pure [Member.event found])
      cursor _ _
    rw [ends_bind]
    apply (reads_event here isEvent).mono
    · exact fun found _ reads => ⟨.event found, rfl, reads⟩
    · exact fun _ _ never => never

/-- Between two declarations of a script, the line starts one more member. -/
theorem reads_nextDeclaration (found : Reader.ScriptBody) :
    (nextDeclaration found).Ends cursor fun decision after =>
      ∃ member, decision =
          .again { found with members := found.members ++ [member] } ∧
        first.Reads rest cursor member after := by
  have starts : cursor.kind = .keyword .event ∨
      cursor.kind = .keyword .function ∨
        cursor.atTypeStart = true ∧
          cursor.kindAfterType = .keyword .function := by
    rcases first.callable with isFunction | ⟨isEvent, -⟩
    · exact .inr (starts_function here isFunction)
    · exact .inl (starts_event here isEvent).2
  have declares : cursor.atDeclaration = true := by
    rcases starts with kind | kind | ⟨typed, follows⟩
    · exact atDeclaration_of_word kind rfl
    · exact atDeclaration_of_word kind rfl
    · exact atDeclaration_of_type typed (.inr (.inl follows))
  have plain (kind : Kind) (other : kind ∉ [.keyword .event, .keyword .function])
      (untyped : kind.isTypeKeyword = false ∧ kind ≠ .identifier) :
      cursor.kind ≠ kind := by
    rintro rfl
    simp_all [Cursor.atTypeStart]
  have noBreak : cursor.kind ≠ .newline := plain _ (by decide) (by decide)
  have stays : skipNewlines.Ends cursor fun _ after =>
      after = cursor := by
    unfold Recovery.Ends
    rw [Recovery.run_skipNewlines_of_ne noBreak]
  unfold nextDeclaration
  apply stays.bind
  rintro _ _ rfl
  rw [Recovery.ends_bind, Recovery.ends_get]
  split
  · rename_i found
    exact absurd found (plain _ (by decide) (by decide))
  · rename_i found
    exact absurd found (plain _ (by decide) (by decide))
  · rename_i found
    exact absurd found (plain _ (by decide) (by decide))
  · rename_i found
    exact absurd found (plain _ (by decide) (by decide))
  · rw [if_pos declares, Recovery.ends_bind, Recovery.ends_run]
    apply (reads_members here).mono
    · rintro _ after ⟨member, rfl, reads⟩
      exact ⟨member, rfl, reads⟩
    · exact fun _ _ never => never.elim

end Whole

end CallableStart

end FirstLines

/-! ## The header line of a function or event -/

section HeaderLines

variable {α : Type} {cursor twin : Cursor} {row rest other : List Token}
  {line : Token}

/-- The tokens behind a header line and the documentation comment after it,
if there is one. -/
inductive PastComment : List Token → List Token → Prop
  | plain {rest : List Token} : PastComment rest rest
  | comment {doc line : Token} {rest : List Token}
      (documents : doc.kind = .docComment) (breaks : line.kind = .newline) :
      PastComment (doc :: line :: rest) rest
  | last {doc last : Token} {rest : List Token}
      (documents : doc.kind = .docComment) (ends : last.kind = .endOfText) :
      PastComment (doc :: last :: rest) (last :: rest)

/-! ## Two cursors on one line -/

/-- What is different about two runs from the same line. -/
def Fork.onLine (row : List Token) (line : Token) (rest other : List Token)
    (cursor twin : Cursor) : Fork where
  rest := rest
  other := other
  told := cursor.reported
  toldOther := twin.reported
  known token := token ∈ row ++ [line]

namespace Cursor.OnLine

/-- Two cursors in front of the same line stand on a common row. -/
theorem amid
    (onLine : cursor.OnLine row line rest) (twinOn : twin.OnLine row line other)
    (lastEnd : twin.lastEnd = cursor.lastEnd)
    (openBlocks : twin.openBlocks = cursor.openBlocks)
    (lexical : twin.lastLexical = cursor.lastLexical) :
    (Fork.onLine row line rest other cursor twin).Amid cursor twin := by
  refine ⟨row ++ [line], by simp, ?_⟩
  exact {
    here := by rw [onLine.here, List.append_assoc]; rfl
    there := by rw [twinOn.here, List.append_assoc]; rfl
    closed := by
      intro token last
      rw [List.getLast?_concat] at last
      rw [← Option.some.inj last, onLine.breaks]
      rfl
    known := fun token member => member
    lastEnd
    openBlocks
    lexical := by
      intro token _ _
      rw [lexical]
    reported := ⟨[], rfl, rfl, List.forall_mem_nil _⟩ }

/-- Runs that stay on the common row are still on the line. -/
theorem of_amid {fork : Fork} {after twinAfter : Cursor}
    (onLine : cursor.OnLine row line fork.rest)
    (reaches : cursor.Reaches after) (amid : fork.Amid after twinAfter) :
    ∃ more, more <:+ row ∧ after.OnLine more line fork.rest ∧
      twinAfter.OnLine more line fork.other := by
  obtain ⟨common, nonempty, faces⟩ := amid
  obtain ⟨⟨passed, path⟩, -⟩ := reaches
  have whole : row ++ [line] = passed ++ common := by
    have shape := path.budget_eq.1
    rw [onLine.here, faces.here] at shape
    have same : (row ++ [line]) ++ fork.rest =
        (passed ++ common) ++ fork.rest := by
      rw [List.append_assoc, List.append_assoc]
      exact shape
    exact List.append_cancel_right same
  obtain ⟨more, last, rfl⟩ :=
    (List.eq_nil_or_concat' common).resolve_left nonempty
  rw [← List.append_assoc] at whole
  obtain ⟨rowIs, lastIs⟩ := List.append_inj' whole rfl
  obtain rfl := (List.cons.inj lastIs).1
  have inside : ∀ token ∈ more, token.kind.endsLine = false := by
    intro token member
    exact onLine.inside token (by rw [rowIs]; simp [member])
  refine ⟨more, ⟨passed, rowIs.symm⟩, ⟨?_, inside, onLine.breaks⟩,
    ⟨?_, inside, onLine.breaks⟩⟩
  · rw [faces.here, List.append_assoc]
    rfl
  · rw [faces.there, List.append_assoc]
    rfl

end Cursor.OnLine

/-! ## The end of the line -/

/-- The error at the end of a declaration's line, if more stands there than a
documentation comment. -/
def lineEndError? (context : String) (row : List Token) : Option Diagnostic :=
  match row with
  | [] => none
  | first :: row =>
    let surplus := if first.kind = .docComment then row else first :: row
    surplus.head?.map fun token =>
      Diagnostic.unexpected token ("end of line after " ++ context)

namespace Reader

/-- A line ends where it is expected to, or the first token of what is left
is refused. -/
theorem ends_endOfLine_of_onLine
    (onLine : cursor.OnLine row line rest) (context : String) :
    (endOfLine context).Ends cursor
      (fun _ after => row = [] ∧ after = cursor.next)
      fun diagnostic after =>
        row.head?.map (fun token =>
          Diagnostic.unexpected token ("end of line after " ++ context)) =
            some diagnostic ∧
          after = cursor := by
  unfold endOfLine
  rw [ends_bind, ends_get]
  cases row with
  | nil =>
    rw [onLine.kind_of_nil]
    exact ⟨rfl, rfl⟩
  | cons token row =>
    obtain ⟨goesOn, inside⟩ := onLine.inLine
    split
    · rename_i found
      exact absurd found goesOn
    · rename_i found
      exact absurd found inside
    · rw [ends_reject, onLine.current]
      exact ⟨rfl, rfl⟩

/-- A comment on the line after a declaration is taken with the end of its
line, or the declaration fails. -/
theorem ends_comment (here : cursor.budget = rest) (context : String) :
    Ends (do
      if (← get).kind = .docComment then
        let doc ← advance
        endOfLine context
        return some doc.text
      else
        return none) cursor
      (fun _ after => PastComment rest after.budget)
      fun _ _ => Heads (· = .docComment) rest := by
  rw [ends_bind, ends_get]
  split
  · rename_i documents
    have inside : cursor.kind ≠ .endOfText := by
      rw [documents]
      nofun
    rw [budget_eq_cons_next inside] at here
    subst here
    rw [ends_bind, ends_lift, Recovery.ends_advance, ends_bind]
    unfold endOfLine
    rw [ends_bind, ends_get]
    split
    · rename_i breaks
      show PastComment _ cursor.next.next.budget
      rw [@budget_eq_cons_next cursor.next (by rw [breaks]; nofun)]
      exact .comment documents breaks
    · rename_i ends
      exact .last documents ends
    · exact documents
  · rw [← here]
    exact .plain

/-- The end of a declaration's line: either nothing more than a comment is
left of it, or the first token that is too much is refused. -/
theorem ends_endOfDeclaration_of_onLine
    (onLine : cursor.OnLine row line rest) (context : String) :
    (endOfDeclaration context).Ends cursor
      (fun _ after => lineEndError? context row = none ∧
        PastComment rest after.budget)
      fun diagnostic after =>
        (lineEndError? context row = some diagnostic ∧
          (∃ more, after.OnLine more line rest) ∧
            after.setting = cursor.setting) ∨
        (lineEndError? context row = none ∧ Heads (· = .docComment) rest) := by
  unfold endOfDeclaration
  rw [ends_bind, ends_get]
  split
  · rename_i documents
    cases row with
    | nil =>
      rw [onLine.kind_of_nil] at documents
      cases documents
    | cons first row =>
      have isDoc : first.kind = .docComment := by
        rw [← onLine.current]
        exact documents
      have error : lineEndError? context (first :: row) =
          row.head?.map fun token => Diagnostic.unexpected token
            ("end of line after " ++ context) := by
        simp only [lineEndError?, if_pos isDoc]
      rw [ends_bind, ends_lift, Recovery.ends_advance, ends_bind, error]
      apply (ends_endOfLine_of_onLine onLine.next context).mono
      · rintro _ after ⟨rfl, rfl⟩
        rw [ends_pure, onLine.next.budget_next_of_nil]
        exact ⟨rfl, .plain⟩
      · rintro diagnostic after ⟨refused, rfl⟩
        exact .inl ⟨refused, ⟨row, onLine.next⟩, setting_next cursor⟩
  · rename_i undocumented
    rw [ends_bind]
    apply (ends_endOfLine_of_onLine onLine context).mono
    · rintro _ after ⟨rfl, rfl⟩
      apply (ends_comment onLine.budget_next_of_nil _).mono
      · exact fun _ _ past => ⟨rfl, past⟩
      · exact fun _ _ heads => .inr ⟨rfl, heads⟩
    · rintro diagnostic after ⟨refused, rfl⟩
      refine .inl ⟨?_, ⟨row, onLine⟩, rfl⟩
      cases row with
      | nil => cases refused
      | cons first row =>
        have isOther : first.kind ≠ .docComment := by
          rw [← onLine.current]
          exact undocumented
        simp only [lineEndError?, if_neg isOther]
        exact refused

end Reader

namespace Recovery

open Reader

/-! ## Headers with and without an error -/

/-- An error is reported and the rest of its line discarded. -/
theorem ends_reportAndSkipLine_of_onLine
    (onLine : cursor.OnLine row line rest) (silent : cursor.reported = [])
    (failure : Diagnostic) (value : α) :
    Ends (reportAndSkipLine failure >>= fun _ => pure value) cursor
      fun found after => found = value ∧ after.budget = rest ∧
        FirstReport failure after.reported := by
  unfold reportAndSkipLine
  rw [bind_assoc, ends_bind, ends_report]
  apply Ends.bind (cleared_skipLine (onLine.report failure))
  exact fun _ _ cleared => ⟨rfl, cleared.budget, cleared.firstReport silent⟩

theorem Fork.Settled.amid
    {fork : Fork} {fact : α → Prop} {found : α × Option Diagnostic}
    (settled : fork.Settled fact found cursor twin) :
    fork.Amid cursor twin := by
  obtain ⟨-, settled⟩ := settled
  cases failure : found.2 with
  | none =>
    rw [failure] at settled
    exact settled
  | some diagnostic =>
    rw [failure] at settled
    exact settled.2

/-- Two runs that started on one line are still on it, and so are their
settings. -/
structure StillOn
    (fork : Fork) (line : Token) (cursor twin after twinAfter : Cursor) :
    Prop where
  amid : fork.Amid after twinAfter
  onLine : ∃ more, after.OnLine more line fork.rest ∧
    twinAfter.OnLine more line fork.other
  setting : after.setting = cursor.setting
  twinSetting : twinAfter.setting = twin.setting

/-- An aloof reader leaves two runs on their line if it leaves them on their
row. -/
theorem Agrees.stillOn
    {fork : Fork} {source sourceTwin : Cursor} {reader : Recovery α}
    {post : α → Cursor → Cursor → Prop}
    (still : StillOn fork line source sourceTwin cursor twin)
    (agrees : reader.Agrees cursor twin post)
    (stays : ∀ value after twinAfter, post value after twinAfter →
      fork.Amid after twinAfter)
    (travels : reader.Travels cursor)
    (aloof : ∀ cursor, reader.Aloof (fun _ => True) cursor) :
    reader.Agrees cursor twin fun value after twinAfter =>
      post value after twinAfter ∧
        StillOn fork line source sourceTwin after twinAfter := by
  obtain ⟨same, holds⟩ := agrees
  obtain ⟨row, onLine, -⟩ := still.onLine
  have amid := stays _ _ _ holds
  obtain ⟨more, -, further⟩ := onLine.of_amid travels amid
  exact ⟨same, holds, amid, ⟨more, further⟩,
    (aloof cursor).setting.trans still.setting,
    (aloof twin).setting.trans still.twinSetting⟩

/-- The cursor is behind a line without an error.  The comment on the next
line may have been refused. -/
def CleanEnd (rest : List Token) (cursor : Cursor) : Prop :=
  (cursor.reported = [] ∧ PastComment rest cursor.budget) ∨
    (cursor.reported ≠ [] ∧ Heads (· = .docComment) rest)

/-- Behind the flags of a header its line ends, or it is broken there. -/
theorem ends_afterFlags
    (onLine : cursor.OnLine row line rest) (silent : cursor.reported = [])
    (context : String) (found : List Parameter) (flags : Reader.CallableFlags) :
    Ends (do
      match ← (endOfDeclaration context).run with
      | .ok doc => return (⟨found, flags, doc⟩ : Reader.CallableHeader)
      | .error diagnostic =>
        reportAndSkipLine diagnostic
        return ⟨found, flags, none⟩) cursor
      fun _ after =>
        (∃ failure, lineEndError? context row = some failure ∧
          after.budget = rest ∧ FirstReport failure after.reported) ∨
        (lineEndError? context row = none ∧ CleanEnd rest after) := by
  have setting : (endOfDeclaration context).Ends cursor
      (fun _ after => after.setting = cursor.setting)
      fun _ after => after.setting = cursor.setting :=
    (ends_run _ fun _ after => after.setting = cursor.setting).1
      (aloof_endOfDeclaration _ cursor context).setting
  rw [ends_bind, ends_run]
  apply ((ends_endOfDeclaration_of_onLine onLine context).and
    setting).mono
  · rintro doc after ⟨⟨clean, past⟩, setting⟩
    refine .inr ⟨clean, .inl ⟨?_, past⟩⟩
    exact (congrArg Setting.reported setting).trans silent
  · rintro failure after ⟨refused, setting⟩
    rcases refused with ⟨error, ⟨more, onLine⟩, -⟩ | ⟨clean, heads⟩
    · apply (ends_reportAndSkipLine_of_onLine onLine
        ((congrArg Setting.reported setting).trans silent) failure _).mono
      rintro _ last ⟨-, place, first⟩
      exact .inl ⟨failure, error, place, first⟩
    · apply Ends.bind (tells_reportAndSkipLine failure)
      intro _ last told
      refine .inr ⟨clean, .inr ⟨?_, heads⟩⟩
      intro nothing
      have more := Nat.lt_of_lt_of_eq told (congrArg List.length nothing)
      exact Nat.not_lt_zero _ more

/-- Two headers on the same line are broken by the same error, or neither is
broken on that line. -/
theorem beside_callableHeader (onLine : cursor.OnLine row line rest)
    (twinOn : twin.OnLine row line other)
    (amid : (Fork.onLine row line rest other cursor twin).Amid cursor twin)
    (silent : cursor.reported = []) (silentToo : twin.reported = [])
    (block : Block) (context : String) :
    (callableHeader block context).Beside
      (callableHeader block context) cursor twin
      fun _ _ after twinAfter =>
        (∃ failure, after.budget = rest ∧
          FirstReport failure after.reported ∧ twinAfter.budget = other ∧
            FirstReport failure twinAfter.reported) ∨
        (CleanEnd rest after ∧ CleanEnd other twinAfter) := by
  have still : StillOn (Fork.onLine row line rest other cursor twin) line
      cursor twin cursor twin :=
    ⟨amid, ⟨row, onLine, twinOn⟩, rfl, rfl⟩
  have quiet {after twinAfter : Cursor}
      (still : StillOn (Fork.onLine row line rest other cursor twin) line
        cursor twin after twinAfter) :
      after.reported = [] ∧ twinAfter.reported = [] :=
    ⟨(congrArg Setting.reported still.setting).trans silent,
      (congrArg Setting.reported still.twinSetting).trans silentToo⟩
  have parameters := (agrees_parameters amid).stillOn still
    (fun _ _ _ settled => Fork.Settled.amid settled)
    ((travelsTo_parameters cursor).mono fun _ _ reached => reached.1)
    (aloof_parameters _)
  apply parameters.beside.bind
  rintro ⟨found, failure⟩ _ after twinAfter ⟨rfl, settled, still⟩
  obtain ⟨nothing, nothingToo⟩ := quiet still
  cases failure with
  | some failure =>
    obtain ⟨more, onLine, twinOn⟩ := still.onLine
    apply (ends_reportAndSkipLine_of_onLine onLine nothing failure _).beside
      (ends_reportAndSkipLine_of_onLine twinOn nothingToo failure _)
    rintro _ _ _ _ ⟨-, place, first⟩ ⟨-, twinPlace, twinFirst⟩
    exact .inl ⟨failure, place, first, twinPlace, twinFirst⟩
  | none =>
    have agrees := (agrees_callableFlags block settled.2).stillOn still
      (fun _ _ _ inside => inside.2) (travels_callableFlags block _)
      (aloof_callableFlags _ · block)
    apply agrees.beside.bind
    rintro _ flags after twinAfter ⟨rfl, -, still⟩
    obtain ⟨nothing, nothingToo⟩ := quiet still
    obtain ⟨more, onLine, twinOn⟩ := still.onLine
    apply (ends_afterFlags onLine nothing context found flags).beside
      (ends_afterFlags twinOn nothingToo context found flags)
    rintro _ _ _ _ (⟨failure, error, place, first⟩ | ⟨clean, ended⟩)
      (⟨twinFailure, twinError, twinPlace, twinFirst⟩ |
        ⟨twinClean, twinEnded⟩)
    · obtain rfl := Option.some.inj (error.symm.trans twinError)
      exact .inl ⟨failure, place, first, twinPlace, twinFirst⟩
    · cases error.symm.trans twinClean
    · cases twinError.symm.trans clean
    · exact .inr ⟨ended, twinEnded⟩

end Recovery

end HeaderLines

end PapyrusScript
