import PapyrusScript.Proofs.HeaderLine

/-!
# A broken header costs itself only

Behind its name a function or event says something about itself and then has
a body.  If the header is broken there, its error is reported once and the
body is read as if the header had been in order.  So are the members behind
it.
-/

namespace PapyrusScript

open Cursor

variable {cursor twin : Cursor} {row broken rest : List Token} {line : Token}

/-! ## Bodies behind a comment -/

theorem PastComment.suffix
    {rest budget : List Token} (past : PastComment rest budget) :
    budget <:+ rest := by
  cases past with
  | plain => exact List.suffix_rfl
  | comment => exact ⟨[_, _], rfl⟩
  | last => exact ⟨[_], rfl⟩

theorem Cursor.next_enter (block : Block) :
    (cursor.enter block).next = cursor.next.enter block := by
  show (cursor.inSetting ⟨block :: cursor.openBlocks, cursor.lastLexical,
      cursor.reported⟩).next =
    cursor.next.inSetting ⟨block :: cursor.next.openBlocks,
      cursor.next.lastLexical, cursor.next.reported⟩
  rw [next_inSetting, openBlocks_next, lastLexical_next, reported_next]

namespace Recovery

open Reader

/-- Line breaks and comments in front of a body are passed with it. -/
theorem run_body_next (between : cursor.kind.isBetween = true) (block : Block) :
    (body block).run cursor.next = (body block).run cursor := by
  have entered : (cursor.enter block).kind.isBetween = true := between
  have whole : Ends (body block) cursor fun statements after =>
      (statements, after) = (body block).run cursor :=
    rfl
  rw [ends_body, ← budget_enter,
    ← ends_loop_next (passesGaps_bodyLine block) entered, next_enter] at whole
  show Ends (body block) cursor.next fun statements after =>
    (statements, after) = (body block).run cursor
  rw [ends_body]
  exact whole

theorem run_bind_of_eq
    {α β : Type} {reader : Recovery α} (following : α → Recovery β)
    (same : reader.run cursor = reader.run twin) :
    (reader >>= following).run cursor = (reader >>= following).run twin := by
  show (following (reader.run cursor).1).run (reader.run cursor).2 = _
  rw [same]
  rfl

/-- A comment behind a header is read with the body if it is still left. -/
theorem exists_run_body_of_pastComment
    {budget : List Token} (past : PastComment cursor.budget budget)
    (block : Block) :
    ∃ after, after.budget = budget ∧ after.openBlocks = cursor.openBlocks ∧
      after.reported = cursor.reported ∧
        (body block).run after = (body block).run cursor := by
  have passed {doc : Token} {more : List Token}
      (here : cursor.budget = doc :: more) (documents : doc.kind = .docComment) :
      cursor.next.budget = more ∧
        (body block).run cursor.next = (body block).run cursor :=
    ⟨budget_next_of_budget here (by rw [documents]; nofun),
      run_body_next (by rw [kind_of_budget here, documents]; rfl) block⟩
  generalize here : cursor.budget = whole at past
  cases past with
  | plain => exact ⟨cursor, here, rfl, rfl, rfl⟩
  | comment documents breaks =>
    obtain ⟨behind, same⟩ := passed here documents
    refine ⟨cursor.next.next, budget_next_of_budget behind ?_, ?_, ?_, ?_⟩
    · rw [breaks]
      nofun
    · rw [openBlocks_next, openBlocks_next]
    · rw [reported_next, reported_next]
    · rw [run_body_next (by rw [kind_of_budget behind, breaks]; rfl), same]
  | last documents _ =>
    obtain ⟨behind, same⟩ := passed here documents
    exact ⟨cursor.next, behind, openBlocks_next cursor,
      reported_next cursor, same⟩

end Recovery

/-! ## Broken headers -/

theorem undocumented_missingEnd (tokens : List Token) :
    ¬ Heads (· = .docComment) (missingEnd tokens) := by
  intro heads
  unfold missingEnd at heads
  split at heads
  · cases heads
  · split at heads <;> cases heads

namespace CallableStart

open Reader Recovery

variable {first : CallableStart} {failure : Diagnostic}

theorem onLine_start (inLine : ∀ token ∈ row, token.kind.endsLine = false)
    (breaks : line.kind = .newline) :
    (start (first.name :: (row ++ [line]))).next.OnLine row line
      (missingEnd (first.name :: (row ++ [line]))) where
  here := by
    have whole := budget_start (first.name :: (row ++ [line]))
    rw [List.cons_append, List.append_assoc] at whole
    exact budget_next_of_budget whole (by
      rw [first.named]
      nofun)
  inside := inLine
  breaks := breaks

/-- The error that breaks a header is reported wherever the header stands, and
the rest of the line is discarded. -/
theorem ends_brokenHeader
    (behind : first.BehindName (broken ++ line :: rest) cursor twin)
    (fresh : twin.lastLexical = none) (nothing : twin.openBlocks = [])
    (silent : twin.reported = [])
    (inLine : ∀ token ∈ broken, token.kind.endsLine = false)
    (breaks : line.kind = .newline)
    (rejects : first.headerError? (broken ++ [line]) = some failure) :
    (callableHeader first.block first.context).Ends twin
      fun _ after =>
        after.budget = rest ∧ FirstReport failure after.reported := by
  have onLine := @onLine_start _ _ first inLine breaks
  have twinOn : twin.OnLine broken line rest := ⟨behind.budget, inLine, breaks⟩
  unfold headerError? at rejects
  have silentToo :
      (start (first.name :: (broken ++ [line]))).next.reported = [] := by
    rw [reported_next, reported_start]
  have lastEnd : twin.lastEnd =
      (start (first.name :: (broken ++ [line]))).next.lastEnd := by
    have goesOn : first.name.kind ≠ .newline := by
      rw [first.named]
      nofun
    have current := current_of_budget
      (budget_start (first.name :: (broken ++ [line])))
    rw [behind.lastEnd, lastEnd_next, Cursor.kind, current, if_neg goesOn]
  have amid := onLine.amid twinOn lastEnd
    (by rw [nothing, openBlocks_next, openBlocks_start])
    (by rw [fresh, lastLexical_next, lastLexical_start])
  have both := beside_callableHeader onLine twinOn amid silentToo
    silent first.block first.context
  unfold Recovery.Beside at both
  unfold Recovery.Ends
  rcases both with ⟨error, -, ⟨further, told, -⟩, here, reported⟩ |
    ⟨⟨told, -⟩ | ⟨-, heads⟩, -⟩
  · rw [told, List.getLast?_concat] at rejects
    rw [← Option.some.inj rejects]
    exact ⟨here, reported⟩
  · rw [told] at rejects
    cases rejects
  · exact (undocumented_missingEnd _ heads).elim

/-- A header without an error ends with its line, or with a comment on the
next one. -/
theorem ends_cleanHeader
    (onLine : cursor.OnLine row line rest) (silent : cursor.reported = []) :
    (callableHeader first.block first.context).Ends cursor
      fun _ after => after.reported = [] → PastComment rest after.budget := by
  have both := beside_callableHeader onLine onLine
    (onLine.amid onLine rfl rfl rfl) silent silent first.block first.context
  unfold Recovery.Beside at both
  intro quiet
  rcases both with ⟨_, -, told, -⟩ | ⟨⟨-, past⟩ | ⟨told, -⟩, -⟩
  · exact (FirstReport.ne_nil told quiet).elim
  · exact past
  · exact (told quiet).elim

/-- A row without the word in it makes no function or event native. -/
theorem ends_unnative (onLine : cursor.OnLine row line rest)
    (unnative : ∀ token ∈ row, token.kind ≠ .keyword .native) :
    (callableHeader first.block first.context).Ends cursor
      fun header _ => header.flags.native = false := by
  apply (native_callableHeader first.block first.context
    (onLine.amid onLine rfl rfl rfl)).mono
  intro header _ native
  rw [Bool.eq_false_iff]
  intro found
  obtain ⟨token, member, kind⟩ := native found
  rcases List.mem_append.1 member with inRow | last
  · exact unnative token inRow kind
  · obtain rfl := List.mem_singleton.1 last
    rw [onLine.breaks] at kind
    cases kind

/-- Behind a broken header the body is read as behind one in order. -/
theorem rejoined_behindName
    (onLine : cursor.OnLine row line rest) (nothing : cursor.openBlocks = [])
    (silent : cursor.reported = [])
    (bodied : (first.behindName.run cursor).1.1.flags.native = false)
    (quiet : (first.behindName.run cursor).2.reported = [])
    (valid : invalidTokens rest = []) {source : Cursor}
    (behind : first.BehindName (broken ++ line :: rest) source twin)
    (fresh : twin.lastLexical = none) (nothingToo : twin.openBlocks = [])
    (silentToo : twin.reported = [])
    (inLine : ∀ token ∈ broken,
      token.kind.endsLine = false ∧ token.kind ≠ .keyword .native)
    (rejects : first.headerError? (broken ++ [line]) = some failure) :
    SameBy Statement.bareBody (first.behindName.run cursor).1.2
        (first.behindName.run twin).1.2 ∧
      Rejoined failure (first.behindName.run cursor).2
        (first.behindName.run twin).2 := by
  -- a callable is its header and then its body, as two runs
  have parts (cursor : Cursor) : first.behindName.run cursor =
      (fun header : Reader.CallableHeader × Cursor =>
        (fun inside : List Statement × Cursor =>
          ((header.1, inside.1), inside.2))
          ((callableBody first.block first.opener header.1.flags).run
            header.2))
        ((callableHeader first.block first.context).run cursor) :=
    rfl
  have cleanEnd := @ends_cleanHeader _ _ _ _ first onLine silent
  have closed := travels_callableHeader first.block first.context
    cursor
  have broken := ends_brokenHeader behind fresh nothingToo silentToo
    (fun token member => (inLine token member).1) onLine.breaks rejects
  have unnative := @ends_unnative _ _ _ _ first
    ⟨behind.budget, fun token member => (inLine token member).1,
      onLine.breaks⟩ fun token member => (inLine token member).2
  have closedToo := travels_callableHeader first.block first.context
    twin
  unfold Recovery.Travels Recovery.Ends at closed closedToo
  unfold Recovery.Ends at cleanEnd broken unnative
  rw [parts] at bodied quiet
  rw [parts, parts]
  generalize (callableHeader first.block first.context).run cursor = header at *
  generalize (callableHeader first.block first.context).run twin =
    headerTwin at *
  obtain ⟨header, middle⟩ := header
  obtain ⟨headerTwin, middleTwin⟩ := headerTwin
  dsimp only at *
  -- neither header is native, so both go on with a body
  have opened (header : Reader.CallableHeader)
      (bodied : header.flags.native = false) :
      callableBody first.block first.opener header.flags =
        openBody first.block first.opener := by
    unfold callableBody
    rw [bodied, if_neg (by nofun)]
  rw [opened header bodied] at quiet ⊢
  rw [opened headerTwin unnative]
  have grows := (travels_openBody first.block first.opener
    middle).grows
  have silent : middle.reported = [] := by
    have least := grows.reported
    rw [quiet] at least
    exact List.eq_nil_of_length_eq_zero (Nat.le_zero.1 least)
  obtain ⟨place, told⟩ := broken
  have past := cleanEnd silent
  rw [← place] at past
  obtain ⟨after, budget, openBlocks, reported, same⟩ :=
    exists_run_body_of_pastComment past first.block
  have joined : Rejoined failure middle after := {
    budget
    valid := by
      obtain ⟨passed, shape⟩ := past.suffix
      rw [← place, ← shape, invalidTokens_append] at valid
      exact (List.append_eq_nil_iff.1 valid).2
    openBlocks := by
      rw [openBlocks, closed.openBlocks, closedToo.openBlocks, nothing,
        nothingToo]
    silent
    reported := by rwa [reported] }
  -- the bodies have the same text, in front of the same open blocks
  have both (news : List Diagnostic) :
      (openBody first.block first.opener).Matches (.valid news)
        (openBody first.block first.opener) (SameBy Statement.bareBody) :=
    (matches_openBody first.block False.elim).mono
      fun _ _ same => same.known
  rw [openBody, ← run_bind_of_eq _ same]
  exact Recovery.Matches.rejoined both joined quiet

end CallableStart

/-! ## The script around a broken header -/

/-- Whether a member is a function or event without a body. -/
def Member.isNative : Member → Bool
  | .function found => found.native
  | .event found => found.native
  | _ => false

/-- A member without what the rest of its header line says about it. -/
def Member.headless : Member → Member
  | .function found =>
    .function
      { found with
        parameters := []
        native := false
        global := false
        doc := none }
  | .event found =>
    .event { found with parameters := [], native := false, doc := none }
  | member => member

namespace CallableStart

variable (first : CallableStart)

theorem declares_member (returnType : Option TypeName)
    (inside : Reader.CallableHeader × List Statement) (span : Span) :
    (first.member returnType inside span).Declares first.block
      first.identifier := by
  obtain ⟨header, inside⟩ := inside
  rcases first.callable with isFunction | ⟨isEvent, -⟩
  · rw [first.member_of_function isFunction]
    exact ⟨isFunction, rfl⟩
  · rw [first.member_of_event isEvent]
    exact ⟨isEvent, rfl⟩

theorem isNative_member (returnType : Option TypeName)
    (inside : Reader.CallableHeader × List Statement) (span : Span) :
    (first.member returnType inside span).isNative = inside.1.flags.native := by
  obtain ⟨header, inside⟩ := inside
  rcases first.callable with isFunction | ⟨isEvent, -⟩
  · rw [first.member_of_function isFunction]
    rfl
  · rw [first.member_of_event isEvent]
    rfl

/-- Members with the same body differ only by what their headers say. -/
theorem headless_member {returnType typeTwin : Option TypeName}
    {inside insideTwin : Reader.CallableHeader × List Statement}
    (sameType : returnType.map TypeName.bare = typeTwin.map TypeName.bare)
    (same : SameBy Statement.bareBody inside.2 insideTwin.2)
    (span spanTwin : Span) :
    SameBy Member.bare (first.member returnType inside span).headless
      (first.member typeTwin insideTwin spanTwin).headless := by
  obtain ⟨header, inside⟩ := inside
  obtain ⟨headerTwin, insideTwin⟩ := insideTwin
  rcases first.callable with isFunction | ⟨isEvent, -⟩
  · rw [first.member_of_function isFunction,
      first.member_of_function isFunction]
    unfold SameBy at same ⊢
    simp only [Member.headless, Member.bare, Function.bare, sameType, same]
  · rw [first.member_of_event isEvent, first.member_of_event isEvent]
    unfold SameBy at same ⊢
    simp only [Member.headless, Member.bare, Event.bare, same]

variable {first : CallableStart} {tokens others front header more : List Token}
  {found : Reader.ScriptBody} {failure : Diagnostic}

/-- Behind its comments, the first line starts with a type or a keyword. -/
theorem heads_declaration (rest : List Token) :
    Heads (fun kind => kind ≠ .docComment ∧ kind.endsLine = false)
      (first.typeTokens ++ ([first.opener, first.name] ++ rest)) := by
  rcases first.returned_cases with ⟨-, nothing⟩ | ⟨type, -, spelled⟩
  · rw [nothing]
    show _ ∧ _
    rw [first.opens]
    exact ⟨nofun, rfl⟩
  · apply (Reader.heads_spelled spelled).mono
    intro kind starts
    cases kind <;> simp_all [Kind.startsType, Kind.endsLine, Kind.isTypeKeyword]

/-- Two texts with the same first line differ behind its comments. -/
theorem plain_behind (front rest other : List Token) :
    (Fork.behind front (first.tokens ++ rest)
      (first.tokens ++ other)).Plain := by
  have nonempty : first.tokens ≠ [] := by simp [CallableStart.tokens]
  constructor
  · intro token more same documents
    have heads := first.heads_declaration
      (rest ++ missingEnd (front ++ (first.tokens ++ rest)))
    have shape : first.comments ++ (first.typeTokens ++
        ([first.opener, first.name] ++
          (rest ++ missingEnd (front ++ (first.tokens ++ rest))))) =
        token :: more := by
      rw [← same]
      simp [Fork.behind, CallableStart.tokens]
    have commented := first.commented
    generalize first.comments = comments at shape commented
    cases comments with
    | nil =>
      rw [List.nil_append] at shape
      rw [shape] at heads
      exact absurd documents heads.1
    | cons comment comments =>
      have behind := (List.cons.inj shape).2
      cases comments with
      | nil =>
        change first.typeTokens ++ _ = more at behind
        rw [behind] at heads
        cases more with
        | nil => exact heads.elim
        | cons next others => exact ⟨next, others, rfl, heads.2⟩
      | cons next comments =>
        refine ⟨next, _, behind.symm, ?_⟩
        rw [commented next (by simp)]
        rfl
  · intro token more twin others same twinSame undocumented
    obtain ⟨head, back, shape⟩ := List.exists_cons_of_ne_nil nonempty
    unfold Fork.behind at same twinSame
    rw [shape] at same twinSame
    rw [← (List.cons.inj twinSame).1, (List.cons.inj same).1]
    exact undocumented

/-- Between two declarations, the line and what follows it are one member. -/
theorem exists_reads (upTo : DeclaredUpTo tokens found cursor)
    (here : cursor.budget = first.tokens ++ rest)
    (silent : cursor.reported = []) :
    ∃ source member after, source.reported = [] ∧
      (start tokens).Reaches source ∧ first.Reads rest source member after ∧
        DeclaredUpTo tokens
          { found with members := found.members ++ [member] } after := by
  have shape : first.tokens ++ rest = first.comments ++
      (first.typeTokens ++ first.opener :: first.name :: rest) := by
    simp [CallableStart.tokens]
  rw [shape] at here
  obtain ⟨source, upTo, place, told⟩ :=
    upTo.exists_behind_comments here first.commented
  have ends := reads_nextDeclaration place found
  unfold Recovery.Ends at ends
  obtain ⟨member, decided, reads⟩ := ends
  exact ⟨source, member, _, told.trans silent, upTo.reaches, reads,
    upTo.next (Prod.ext decided rfl)⟩

end CallableStart

/-! ## Another header -/

/-- A function or event in a text, and another header for it. -/
structure HeaderExchange where
  front : List Token
  first : CallableStart
  header : List Token
  broken : List Token
  line : Token
  more : List Token
  starts : ∃ row line, front = row ++ [line] ∧ line.kind = .newline
  inLine : ∀ token ∈ header, token.kind.endsLine = false
  inLineToo : ∀ token ∈ broken,
    token.kind.endsLine = false ∧ token.kind ≠ .keyword .native
  breaks : line.kind = .newline

namespace HeaderExchange

variable (exchange : HeaderExchange)

/-- The text from the function or event on. -/
def onward : List Token :=
  exchange.first.tokens ++ (exchange.header ++ exchange.line :: exchange.more)

def text : List Token := exchange.front ++ exchange.onward

/-- The text with the other header. -/
def brokenText : List Token :=
  exchange.front ++ (exchange.first.tokens ++
    (exchange.broken ++ exchange.line :: exchange.more))

variable {exchange}

/-- The end of the text is still its only one. -/
theorem endsOnce_brokenText (ends : EndsOnce exchange.text) :
    EndsOnce exchange.brokenText := by
  have shape : exchange.text = exchange.front ++ exchange.first.tokens ++
      exchange.header ++ exchange.line :: exchange.more := by
    simp [text, onward]
  have shapeToo : exchange.brokenText = exchange.front ++
      exchange.first.tokens ++ exchange.broken ++
        exchange.line :: exchange.more := by
    simp [brokenText]
  rw [shape, endsOnce_append_cons] at ends
  rw [shapeToo, endsOnce_append_cons]
  refine ⟨fun token member => ?_, ends.2⟩
  rcases List.mem_append.1 member with before | inside
  · exact ends.1 token (List.mem_append_left _ before)
  · intro atEnd
    have inLine := (exchange.inLineToo token inside).1
    rw [atEnd] at inLine
    cases inLine

theorem invalidTokens_brokenText (valid : invalidTokens exchange.text = []) :
    invalidTokens exchange.brokenText = invalidTokens exchange.broken := by
  simp only [text, onward, brokenText, invalidTokens_append,
    List.append_eq_nil_iff] at *
  rw [valid.1, valid.2.1, valid.2.2.2, List.append_nil]
  rfl

/-- A function or event that parses without errors keeps its name and its
body, and the script its other members, if its header is broken.  The error
of the header is reported, and each invalid token of its line that this is
not about. -/
theorem broken_header_keeps_body
    {found : Reader.ScriptBody} {failure : Diagnostic}
    (ends : EndsOnce exchange.text)
    (silent : (Parsed.ofTokens exchange.text).diagnostics = [])
    (upTo : DeclaredUpTo exchange.text found cursor)
    (here : cursor.budget = exchange.onward ++ missingEnd exchange.text)
    (bodied : ∀ member ∈ (Parsed.ofTokens exchange.text).script.members,
      member.Declares exchange.first.block exchange.first.identifier →
        member.isNative = false)
    (own : OwnPlaces exchange.broken)
    (rejects : exchange.first.headerError?
      (exchange.broken ++ [exchange.line]) = some failure) :
    ∃ member other : Member, ∃ back : List Member,
      member.Declares exchange.first.block exchange.first.identifier ∧
        other.Declares exchange.first.block exchange.first.identifier ∧
          SameBy Member.bare member.headless other.headless ∧
            (Parsed.ofTokens exchange.text).script.members =
              found.members ++ member :: back ∧
            (Parsed.ofTokens exchange.brokenText).script.bare =
              { (Parsed.ofTokens exchange.text).script.bare with
                members := (found.members ++ other :: back).map Member.bare } ∧
            (Parsed.ofTokens exchange.brokenText).diagnostics =
              lineReports failure exchange.broken := by
  have told := upTo.reported_of_silent silent
  have valid := invalidTokens_of_silent ends silent
  -- both runs come to the header with the same members behind them
  obtain ⟨top, twin, twinUpTo, twinHere, twinTold⟩ :=
    upTo.exists_twin here told exchange.starts
      (exchange.first.plain_behind exchange.front _
        (exchange.broken ++ exchange.line :: exchange.more))
  have more (before : List Token) :
      missingEnd (before ++ exchange.line :: exchange.more) =
        missingEnd (exchange.line :: exchange.more) :=
    missingEnd_append (List.cons_ne_nil _ _)
  have place : cursor.budget = exchange.first.tokens ++ (exchange.header ++
      exchange.line :: (exchange.more ++
        missingEnd (exchange.line :: exchange.more))) := by
    rw [here, text, onward, ← List.append_assoc, ← List.append_assoc, more]
    simp
  have twinPlace : twin.budget = exchange.first.tokens ++ (exchange.broken ++
      exchange.line :: (exchange.more ++
        missingEnd (exchange.line :: exchange.more))) := by
    rw [twinHere, ← List.append_assoc, ← List.append_assoc, more]
    simp
  obtain ⟨source, member, after, quiet, reaches, reads, upToBehind⟩ :=
    CallableStart.exists_reads upTo place told
  obtain ⟨sourceTwin, other, afterTwin, quietTwin, reachesTwin, readsTwin,
    twinUpToBehind⟩ := CallableStart.exists_reads twinUpTo twinPlace twinTold
  have silentBehind := upToBehind.reported_of_silent silent
  obtain ⟨behind, returnType, span, inside, stands, type, ran, rfl⟩ := reads
  obtain ⟨behindTwin, typeTwin, spanTwin, insideTwin, standsTwin, sameType,
    ranTwin, rfl⟩ := readsTwin
  have validBehind : invalidTokens (exchange.more ++
      missingEnd (exchange.line :: exchange.more)) = [] := by
    have shape : exchange.text = exchange.front ++ exchange.first.tokens ++
        exchange.header ++ [exchange.line] ++ exchange.more := by
      simp [text, onward]
    rw [shape, invalidTokens_append] at valid
    rw [invalidTokens_append, (List.append_eq_nil_iff.1 valid).2,
      invalidTokens_missingEnd, List.append_nil]
  have bodiedHere : inside.1.flags.native = false := by
    rw [← exchange.first.isNative_member returnType inside span]
    obtain ⟨later, members⟩ := upToBehind.exists_members
    apply bodied _ _ (exchange.first.declares_member _ _ _)
    simp [members]
  have freshTwin : behindTwin.lastLexical = none := by
    obtain ⟨⟨passed, path⟩, -⟩ := reachesTwin.trans standsTwin.reaches
    exact (path.lastLexical_of_silent
      (standsTwin.reported.trans quietTwin)).trans (lastLexical_start _)
  -- behind the name the accepted run reads the whole line and the other one
  -- skips it, so they meet again at its end
  have joined := @CallableStart.rejoined_behindName _ _ exchange.header _ _
    exchange.line exchange.first _
    ⟨stands.budget, exchange.inLine, exchange.breaks⟩
    ((reaches.trans stands.reaches).openBlocks.trans (openBlocks_start _))
    (stands.reported.trans quiet) (by rwa [ran]) (by rwa [ran]) validBehind
    _ standsTwin freshTwin
    ((reachesTwin.trans standsTwin.reaches).openBlocks.trans
      (openBlocks_start _))
    (standsTwin.reported.trans quietTwin) exchange.inLineToo rejects
  rw [ran, ranTwin] at joined
  obtain ⟨sameBody, joined⟩ := joined
  -- from there on both read the same text
  obtain ⟨later, laterTwin, whole, wholeTwin, same, script, twinScript,
    reported⟩ := upToBehind.exists_rejoined twinUpToBehind silent joined
  refine ⟨exchange.first.member returnType inside span,
    exchange.first.member typeTwin insideTwin spanTwin, later.members,
    exchange.first.declares_member _ _ _,
    exchange.first.declares_member _ _ _,
    exchange.first.headless_member (type.trans sameType.symm) sameBody _ _,
    ?_, ?_, ?_⟩
  · rw [script]
    show found.members ++ [_] ++ later.members = _
    simp
  · have imports := same.imports
    have members := same.members
    unfold SameBy at imports members
    have twinScript : (Parsed.ofTokens exchange.brokenText).script = _ :=
      twinScript
    rw [script, twinScript, top]
    simp [Script.bare, Reader.Header.over, Reader.ScriptBody.append, imports,
      members, text]
  · exact diagnostics_eq_lineReports (endsOnce_brokenText ends) own
      (invalidTokens_brokenText valid) reported

/-- A function whose parameters are put behind their closing parenthesis. -/
def unopened : HeaderExchange where
  front := Heading.door.tokens
  first := {
    block := .function
    comments := []
    returnType := none
    typeTokens := []
    opener := .onLine 4 (.keyword .function) "function"
    name := .onLine 5 .identifier "Unlock"
    callable := .inl rfl
    commented := by decide
    returned := .nothing
    opens := rfl
    named := rfl }
  header :=
    [.onLine 6 (.symbol .openParen) "(", .onLine 7 (.symbol .closeParen) ")"]
  broken :=
    [.onLine 6 (.symbol .closeParen) ")",
      .onLine 7 (.invalid .unexpectedCharacter) "@"]
  line := .onLine 8 .newline "\n"
  more :=
    [.onLine 9 (.keyword .returnValue) "Return", .onLine 10 .newline "\n",
      .onLine 11 (.keyword .endFunction) "EndFunction"]
  starts :=
    ⟨[Heading.door.keyword, Heading.door.name], Heading.door.line, rfl, rfl⟩
  inLine := by decide
  inLineToo := by decide
  breaks := rfl

/-- The error that breaks the second header. -/
def unopenedError : Diagnostic :=
  .unexpected (.onLine 6 (.symbol .closeParen) ")")
    "'(' to open the parameter list"

/-- The parenthesis is reported, then the invalid token behind it, and the
body is still there. -/
theorem unopened_keeps_body :
    EndsOnce unopened.text ∧
      (Parsed.ofTokens unopened.text).diagnostics = [] ∧
      OwnPlaces unopened.broken ∧
      unopened.first.headerError? (unopened.broken ++ [unopened.line]) =
        some unopenedError ∧
      (Parsed.ofTokens unopened.brokenText).diagnostics =
        [unopenedError,
          (Token.onLine 7 (.invalid .unexpectedCharacter) "@").lexicalReport] ∧
      (∃ other : Member, other.Declares .function unopened.first.identifier ∧
        (Parsed.ofTokens unopened.brokenText).script.bare.members =
          [other.bare]) := by
  have ends : EndsOnce unopened.text := by decide
  have silent : (Parsed.ofTokens unopened.text).diagnostics = [] := by decide
  have own : OwnPlaces unopened.broken := by decide
  have rejects : unopened.first.headerError?
      (unopened.broken ++ [unopened.line]) = some unopenedError := by
    decide
  have here : (Recovery.scriptTop.run (start unopened.text)).2.budget =
      unopened.onward ++ missingEnd unopened.text := by
    decide
  have bodied : ∀ member ∈ (Parsed.ofTokens unopened.text).script.members,
      member.isNative = false := by
    decide
  obtain ⟨member, other, back, declares, declaresToo, same, members, script,
    diagnostics⟩ := @broken_header_keeps_body _ unopened _ _ ends silent
      .top here (fun member found _ => bodied member found) own rejects
  refine ⟨ends, silent, own, rejects, ?_, other, declaresToo, ?_⟩
  · rw [diagnostics]
    decide
  · have single : (Parsed.ofTokens unopened.text).script.members.length =
        1 := by
      decide
    rw [members] at single
    obtain rfl : back = [] :=
      List.eq_nil_of_length_eq_zero (by simpa using single)
    rw [script]
    rfl

end HeaderExchange

end PapyrusScript
