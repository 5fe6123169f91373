import PapyrusScript.Proofs.BrokenLine

/-!
# A broken condition drops its statement

The condition of a conditional or a loop is exchanged for tokens that are no
expression.  The error of the condition is reported once, and each invalid
token of it that this is not about.  The arms and the end of the block are
still found: the script is what it was without the one statement.
-/

namespace PapyrusScript

open Cursor Reader

variable {cursor : Cursor}

/-- One of the conditions of a statement stands behind the keyword at a
place. -/
def Statement.HasConditionAt (place : Position) : Statement → Prop
  | .conditional branches _ _ =>
    ∃ branch ∈ branches, branch.span.start = place
  | .loop _ _ span => span.start = place
  | _ => False

/-- A condition in a body and what it is exchanged for. -/
structure ConditionExchange where
  front : List Token
  comments : List Token
  keyword : Token
  condition : List Token
  line : Token
  more : List Token
  broken : List Token
  starts : ∃ row line, front = row ++ [line] ∧ line.kind = .newline
  commented : ∀ token ∈ comments, token.kind = .docComment
  opens : keyword.kind ∈
    [.keyword .ifThen, .keyword .elseIf, .keyword .whileLoop]
  inLine : ∀ token ∈ condition, token.kind.endsLine = false
  inert : ∀ token ∈ broken, token.Inert
  breaks : line.kind = .newline

def Reader.blockStatement (kind : Kind) : Recovery (Option Statement) :=
  if kind = .keyword .ifThen then
    conditionalStatement body
  else
    loopStatement body

theorem Recovery.run_statement_block (opens : cursor.kind = .keyword .ifThen ∨
      cursor.kind = .keyword .whileLoop) :
    (statement Reader.body).run.run cursor =
      (.ok ((blockStatement cursor.kind).run cursor).1,
        ((blockStatement cursor.kind).run cursor).2) := by
  unfold statement
  rw [run_run_get_bind]
  rcases opens with found | found <;> rw [found] <;> rfl

/-- No declaration starts with the keyword in front of a condition. -/
theorem Cursor.undeclared_of_opens (opens : cursor.kind ∈
      [.keyword .ifThen, .keyword .elseIf, .keyword .whileLoop]) :
    cursor.atMemberStart = false ∧ cursor.atVariableStart = false := by
  simp only [List.mem_cons, List.not_mem_nil, or_false] at opens
  unfold atMemberStart atVariableStart atTypeStart
  rcases opens with found | found | found <;> rw [found] <;> exact ⟨rfl, rfl⟩

/-- A line that starts a block adds its statement, if there is one. -/
theorem Recovery.run_bodyLine_block
    (block : Block) (statements : List Statement)
    (opens : cursor.kind = .keyword .ifThen ∨
      cursor.kind = .keyword .whileLoop) :
    (bodyLine Reader.body block statements).run cursor =
      (.again (statements ++
          ((blockStatement cursor.kind).run cursor).1.toList),
        ((blockStatement cursor.kind).run cursor).2) := by
  have unclosed : block.closedBy cursor.kind = false := by
    rcases opens with found | found <;> rw [found] <;> cases block <;> rfl
  have here : cursor.AtStatement :=
    opens.elim (.of_keyword · rfl) (.of_keyword · rfl)
  unfold bodyLine
  rw [run_skipNewlines_bind_of_ne _ here.line, run_get_bind]
  dsimp only
  rw [if_neg (by simp [here.inside, unclosed, here.member]),
    if_neg (by simp [here.terminator]), if_neg here.doc]
  have taken {following : Except Diagnostic (Option Statement) →
      Recovery (Step (List Statement))} :
      ((statement Reader.body).run >>= following).run cursor =
        (following ((statement Reader.body).run.run cursor).1).run
          ((statement Reader.body).run.run cursor).2 :=
    rfl
  rw [taken, run_statement_block opens]
  cases ((blockStatement cursor.kind).run cursor).1 with
  | none => rw [Option.toList_none, List.append_nil]; rfl
  | some => rfl

theorem Recovery.Joins.take
    {α : Type} {failure : Diagnostic} {cursor twin : Cursor}
    {following twinFollowing : Token → Recovery α} {behind : α → α → Prop}
    (rest : (following cursor.current).Joins (twinFollowing twin.current)
      failure cursor.next twin.next behind) :
    Joins (advance >>= following) (advance >>= twinFollowing)
      failure cursor twin behind :=
  rest

theorem Recovery.Joins.get
    {α : Type} {failure : Diagnostic} {cursor twin : Cursor}
    {following twinFollowing : Cursor → Recovery α} {behind : α → α → Prop}
    (rest : (following cursor).Joins (twinFollowing twin) failure cursor twin
      behind) :
    Joins (MonadState.get >>= following) (MonadState.get >>= twinFollowing)
      failure cursor twin behind :=
  rest

namespace ConditionExchange

variable (exchange : ConditionExchange)

/-- The text in front of the keyword and the keyword. -/
def opening : List Token :=
  exchange.front ++ (exchange.comments ++ [exchange.keyword])

/-- The text from the end of the condition on. -/
def onward : List Token := exchange.line :: exchange.more

def text : List Token :=
  exchange.opening ++ (exchange.condition ++ exchange.onward)

/-- The text with the broken condition. -/
def brokenText : List Token :=
  exchange.opening ++ (exchange.broken ++ exchange.onward)

def behind : List Token := exchange.more ++ missingEnd exchange.text

/-- The statement that the condition belongs to is all that is gone. -/
def Gone (gap : List Statement) : Prop :=
  ∃ statement, gap = [statement] ∧
    statement.HasConditionAt exchange.keyword.span.start

/-- Nothing was reported, and the two runs stand in front of comments and the
keyword of the condition. -/
structure Meets (docs : List Token) (cursor twin : Cursor) : Prop where
  here : cursor.budget = docs ++ exchange.keyword ::
    (exchange.condition ++ exchange.line :: exchange.behind)
  there : twin.budget = docs ++ exchange.keyword ::
    (exchange.broken ++ exchange.line :: exchange.behind)
  lastEnd : twin.lastEnd = cursor.lastEnd
  openBlocks : twin.openBlocks = cursor.openBlocks
  silent : cursor.reported = []
  silentTwin : twin.reported = []

/-- The body in front of an arm with a broken condition ends there in both
texts. -/
def detour (failure : Diagnostic) : Detour where
  docs := exchange.comments
  first := exchange.keyword
  more := exchange.condition ++ exchange.line :: exchange.behind
  other := exchange.comments ++ exchange.keyword ::
    (exchange.broken ++ exchange.line :: exchange.behind)
  failure
  gone := exchange.Gone
  through cursor twin :=
    exchange.keyword.kind = .keyword .elseIf ∧ exchange.Meets [] cursor twin

variable {exchange : ConditionExchange} {failure : Diagnostic}
  {cursor twin : Cursor}

theorem widens
    (branches : List (Branch Statement)) (otherwise : Option (List Statement))
    (span : Span) (gone : exchange.Gone [.conditional branches otherwise span])
    (later : List (Branch Statement)) (last : Option (List Statement))
    (whole : Span) :
    exchange.Gone [.conditional (branches ++ later) last whole] := by
  obtain ⟨_, ⟨⟩, branch, member, place⟩ := gone
  exact ⟨_, rfl, branch, List.mem_append_left _ member, place⟩

theorem lacking_of_gone
    {statement : Statement} (gone : exchange.Gone [statement]) :
    (exchange.detour failure).Lacking [statement] [] := by
  have lacks : Statement.BodyLacks exchange.Gone ([] ++ ([statement] ++ []))
      ([] ++ []) :=
    .here [] [] gone
  exact ⟨[], lacks, rfl⟩

/-! ## The two texts -/

theorem rest_detour : (exchange.detour failure).rest = exchange.comments ++
    exchange.keyword ::
      (exchange.condition ++ exchange.line :: exchange.behind) :=
  rfl

theorem missingEnd_brokenText :
    missingEnd exchange.brokenText = missingEnd exchange.text := by
  have ends (row : List Token) :
      missingEnd (row ++ exchange.onward) = missingEnd exchange.onward :=
    missingEnd_append (List.cons_ne_nil _ _)
  rw [text, brokenText, ← List.append_assoc, ends, ← List.append_assoc, ends]

theorem endsOnce_brokenText (ends : EndsOnce exchange.text) :
    EndsOnce exchange.brokenText := by
  rw [text, ← List.append_assoc, onward, endsOnce_append_cons] at ends
  rw [brokenText, ← List.append_assoc, onward, endsOnce_append_cons]
  refine ⟨fun token member => ?_, ends.2⟩
  rcases List.mem_append.1 member with before | inside
  · exact ends.1 token (List.mem_append_left _ before)
  · intro atEnd
    have inert := (exchange.inert token inside).1
    rw [atEnd] at inert
    cases inert

theorem invalidTokens_onward (valid : invalidTokens exchange.text = []) :
    invalidTokens exchange.opening = [] ∧
      invalidTokens exchange.onward = [] := by
  rw [text, invalidTokens_append, invalidTokens_append, List.append_eq_nil_iff,
    List.append_eq_nil_iff] at valid
  exact ⟨valid.1, valid.2.2⟩

theorem invalidTokens_brokenText (valid : invalidTokens exchange.text = []) :
    invalidTokens exchange.brokenText = invalidTokens exchange.broken := by
  obtain ⟨opening, onward⟩ := invalidTokens_onward valid
  rw [brokenText, invalidTokens_append, invalidTokens_append, opening, onward,
    List.append_nil, List.nil_append]

theorem invalidTokens_behind (valid : invalidTokens exchange.text = []) :
    invalidTokens exchange.behind = [] := by
  have onward := (invalidTokens_onward valid).2
  have split : exchange.onward = [exchange.line] ++ exchange.more := rfl
  rw [split, invalidTokens_append, List.append_eq_nil_iff] at onward
  rw [behind, invalidTokens_append, onward.2, invalidTokens_missingEnd,
    List.append_nil]

theorem kind_cases (exchange : ConditionExchange) :
    exchange.keyword.kind = .keyword .ifThen ∨
      exchange.keyword.kind = .keyword .elseIf ∨
        exchange.keyword.kind = .keyword .whileLoop := by
  have opens := exchange.opens
  simp only [List.mem_cons, List.not_mem_nil, or_false] at opens
  exact opens

theorem inside_keyword : exchange.keyword.kind ≠ .endOfText := by
  rcases exchange.kind_cases with found | found | found <;>
    rw [found] <;> nofun

/-! ## From the keyword on -/

namespace Meets

open Reader Recovery

variable {docs : List Token}

theorem kind (meets : exchange.Meets [] cursor twin) :
    cursor.kind = exchange.keyword.kind :=
  kind_of_budget meets.here

theorem kind_twin (meets : exchange.Meets [] cursor twin) :
    twin.kind = exchange.keyword.kind :=
  kind_of_budget meets.there

theorem current (meets : exchange.Meets [] cursor twin) :
    cursor.current = exchange.keyword :=
  current_of_budget meets.here

theorem leave (meets : exchange.Meets docs cursor twin) :
    exchange.Meets docs cursor.leave twin.leave where
  here := meets.here
  there := meets.there
  lastEnd := meets.lastEnd
  openBlocks := congrArg List.tail meets.openBlocks
  silent := meets.silent
  silentTwin := meets.silentTwin

theorem next
    {token : Token} (meets : exchange.Meets (token :: docs) cursor twin)
    (doc : token.kind = .docComment) :
    exchange.Meets docs cursor.next twin.next where
  here := budget_next_of_budget meets.here (by rw [doc]; nofun)
  there := budget_next_of_budget meets.there (by rw [doc]; nofun)
  lastEnd := by
    have current := current_of_budget meets.here
    have currentTwin := current_of_budget meets.there
    rw [lastEnd_next, lastEnd_next, meets.lastEnd, Cursor.kind, Cursor.kind,
      current, currentTwin]
  openBlocks := by rw [openBlocks_next, openBlocks_next, meets.openBlocks]
  silent := by rw [reported_next, meets.silent]
  silentTwin := by rw [reported_next, meets.silentTwin]

/-- Behind the keyword the condition is found in one text, and its error
reported in the other. -/
theorem joins_condition (meets : exchange.Meets [] cursor twin)
    (valid : invalidTokens exchange.text = [])
    (rejects : expression.errorOn?
      (exchange.broken ++ [exchange.line]) = some failure)
    (context : String) :
    Recovery.Joins (Reader.condition context) (Reader.condition context)
      failure cursor.next twin.next fun found twinFound =>
        (∃ value, found = some value) ∧ twinFound = none := by
  have onLine : cursor.next.OnLine exchange.condition exchange.line
      exchange.behind :=
    ⟨budget_next_of_budget meets.here inside_keyword, exchange.inLine,
      exchange.breaks⟩
  have twinOnLine : twin.next.OnLine exchange.broken exchange.line
      exchange.behind :=
    ⟨budget_next_of_budget meets.there inside_keyword,
      fun token member => (exchange.inert token member).1, exchange.breaks⟩
  have clean := ends_cleanCondition onLine context
  have stays := (travels_condition context cursor.next).openBlocks
  have broken := ends_brokenCondition twinOnLine
    ((reported_next twin).trans meets.silentTwin) exchange.inert context rejects
  intro silent
  obtain ⟨found, budget⟩ := clean silent
  obtain ⟨nothing, past⟩ := broken
  refine ⟨⟨found, nothing⟩, past.rejoined budget (invalidTokens_behind valid) ?_
    silent⟩
  rw [stays, openBlocks_next, openBlocks_next, meets.openBlocks]

/-- The conditional is there in one text and missing in the other. -/
theorem joins_conditionalStatement (meets : exchange.Meets [] cursor twin)
    (valid : invalidTokens exchange.text = [])
    (rejects : expression.errorOn?
      (exchange.broken ++ [exchange.line]) = some failure) :
    Recovery.Joins (conditionalStatement Reader.body)
      (conditionalStatement Reader.body) failure cursor twin
      (exchange.detour failure).LackingIn := by
  have arms (value : Expression) (inside : List Statement) (last : Position)
      (other : List Statement) (span : Span) :
      (exchange.detour failure).Broken
        ((Reader.Arms.mk [] none true).add (some value) inside
          ⟨cursor.current.span.start, last⟩)
        ((Reader.Arms.mk [] none true).add none other span) :=
    ⟨rfl, rfl, fun _ => ⟨_, rfl, _, List.mem_singleton_self _,
      congrArg (·.span.start) meets.current⟩⟩
  rw [conditionalStatement_body]
  apply Recovery.Joins.take
  apply (meets.joins_condition valid rejects "'If' condition").bind
  · intro _ after
    apply (travels_body _ after).grows.bind
    exact fun _ _ => .get (Detour.grows_conditionalArms _ _ _)
  · rintro _ _ ⟨⟨value, rfl⟩, rfl⟩ _
    apply (matches_body _).bind
    intro inside other _
    apply Recovery.Matches.get
    intro after _ _
    exact Detour.matches_conditionalArms
      (@Detour.armsGrow (exchange.detour failure) _ widens) False.elim
      (.inr (arms value inside after.lastEnd other _))

/-- The loop is there in one text and missing in the other. -/
theorem joins_loopStatement (meets : exchange.Meets [] cursor twin)
    (valid : invalidTokens exchange.text = [])
    (rejects : expression.errorOn?
      (exchange.broken ++ [exchange.line]) = some failure) :
    Recovery.Joins (loopStatement Reader.body)
      (loopStatement Reader.body) failure cursor twin
      (exchange.detour failure).LackingIn := by
  apply Recovery.Joins.take
  apply (meets.joins_condition valid rejects "'While' condition").bind
  · intro found after
    apply (travels_body _ after).grows.bind
    intro _ after
    apply (travels_endOfLoop _ after).grows.bind
    intro _ _
    split <;> exact .pure _
  · rintro _ _ ⟨⟨value, rfl⟩, rfl⟩ _
    apply (matches_body _).bind
    intro inside _ _
    apply (matches_endOfLoop False.elim).bind
    intro _ _ _ after twinAfter alike
    refine ⟨?_, alike⟩
    rintro _ ⟨⟩
    have place : cursor.current.span.start = exchange.keyword.span.start := by
      rw [meets.current]
    exact lacking_of_gone ⟨_, rfl, place⟩

/-- The block is there in one text and missing in the other. -/
theorem joins_blockStatement (meets : exchange.Meets [] cursor twin)
    (valid : invalidTokens exchange.text = [])
    (rejects : expression.errorOn?
      (exchange.broken ++ [exchange.line]) = some failure) :
    Recovery.Joins (blockStatement exchange.keyword.kind)
      (blockStatement exchange.keyword.kind) failure cursor twin
      (exchange.detour failure).LackingIn := by
  unfold blockStatement
  split
  · exact meets.joins_conditionalStatement valid rejects
  · exact meets.joins_loopStatement valid rejects

/-- From the broken condition on, both runs stay together behind the line. -/
theorem joins_bodyLine (meets : exchange.Meets [] cursor twin)
    (valid : invalidTokens exchange.text = [])
    (rejects : expression.errorOn?
      (exchange.broken ++ [exchange.line]) = some failure)
    (opens : exchange.keyword.kind = .keyword .ifThen ∨
      exchange.keyword.kind = .keyword .whileLoop)
    (block : Block) (statements : List Statement) :
    (bodyLine Reader.body block statements).Joins
      (bodyLine Reader.body block statements) failure cursor twin
      (Step.Decides (exchange.detour failure).Lacking) := by
  have opensHere : cursor.kind = .keyword .ifThen ∨
      cursor.kind = .keyword .whileLoop := by
    rwa [meets.kind]
  have opensThere : twin.kind = .keyword .ifThen ∨
      twin.kind = .keyword .whileLoop := by
    rwa [meets.kind_twin]
  have clean := isSome_statement cursor
  unfold Reader.Ends Recovery.Ends at clean
  rw [run_statement_block opensHere] at clean
  intro silent
  rw [run_bodyLine_block block statements opensHere] at silent ⊢
  rw [run_bodyLine_block block statements opensThere]
  obtain ⟨statement, found⟩ := clean silent
  rw [meets.kind] at silent found ⊢
  rw [meets.kind_twin]
  obtain ⟨lacking, joined⟩ := meets.joins_blockStatement valid rejects silent
  rw [found]
  exact ⟨(lacking statement found).within statements, joined⟩

/-- An arm with the broken condition is there in one text and missing in the
other. -/
theorem joins_nextArm (meets : exchange.Meets [] cursor twin)
    (valid : invalidTokens exchange.text = [])
    (rejects : expression.errorOn?
      (exchange.broken ++ [exchange.line]) = some failure)
    (arm : exchange.keyword.kind = .keyword .elseIf)
    (opener : Token) (arms : Reader.Arms) :
    (nextArm Reader.body opener arms).Joins
      (nextArm Reader.body opener arms) failure cursor twin
      (Step.Decides (exchange.detour failure).ArmsLacking) := by
  apply Recovery.Joins.get
  rw [meets.kind, meets.kind_twin, arm]
  apply Recovery.Joins.take
  unfold reportElseIfAfterElse
  by_cases closed : arms.otherwise.isSome = true
  · apply Recovery.Tells.joins
    rw [if_pos closed]
    apply (tells_complain _ _).bind
    intro _ after
    apply (travels_condition _ after).grows.bind
    intro _ after
    apply (travels_body _ after).grows.bind
    exact fun _ _ => .pure _
  · have noElse : arms.otherwise = none := by simpa using closed
    rw [if_neg closed, if_neg closed, pure_bind, pure_bind]
    apply (meets.joins_condition valid rejects "'ElseIf' condition").bind
    · intro _ after
      apply (travels_body _ after).grows.bind
      exact fun _ _ => .pure _
    · rintro _ _ ⟨⟨value, rfl⟩, rfl⟩ _
      apply (matches_body _).bind
      intro inside other _
      apply Recovery.Matches.get
      intro after _ _
      apply Recovery.Matches.pure
      refine .inr ⟨rfl, ?_, fun _ => ⟨_, rfl, ?_⟩⟩
      · rw [Reader.Arms.add_of_early noElse]
        rfl
      · rw [Reader.Arms.add_of_early noElse]
        have place : cursor.current.span.start =
            exchange.keyword.span.start := by
          rw [meets.current]
        exact ⟨_, List.mem_append_right _ (List.mem_singleton_self _), place⟩

/-- From the keyword on a body lacks the statement, or it ends in front of the
arm in both texts. -/
theorem crosses_bodyLines (meets : exchange.Meets [] cursor twin)
    (valid : invalidTokens exchange.text = [])
    (rejects : expression.errorOn?
      (exchange.broken ++ [exchange.line]) = some failure)
    (block : Block) (statements : List Statement) :
    (bodyLines block statements).Crosses failure cursor twin
      (fun _ => (exchange.detour failure).through)
      (exchange.detour failure).Lacking := by
  have proceeds := proceeds_bodyLine travels_body block
  refine Recovery.Crosses.loop proceeds
    (fun found here there => statements = found ∧ cursor = here ∧ twin = there)
    ?_ (fun _ _ lacking _ => matches_bodyLine matches_body
      (fun lacking same => lacking.concat same.known) block lacking)
    ⟨rfl, rfl, rfl⟩
  rintro _ _ _ - ⟨rfl, rfl, rfl⟩
  left
  by_cases arm : exchange.keyword.kind = .keyword .elseIf
  · -- the body ends here in both texts, unless nothing is open that it closes
    have goesOn : cursor.kind ≠ .newline := by
      rw [meets.kind, arm]
      nofun
    have goesOnTwin : twin.kind ≠ .newline := by
      rw [meets.kind_twin, arm]
      nofun
    refine Recovery.Crosses.congr ?_
      (run_skipNewlines_bind_of_ne _ goesOn)
      (run_skipNewlines_bind_of_ne _ goesOnTwin)
    have outside : cursor.atMemberStart = false :=
      (undeclared_of_opens (meets.kind ▸ exchange.opens)).1
    have outsideTwin : twin.atMemberStart = false :=
      (undeclared_of_opens (meets.kind_twin ▸ exchange.opens)).1
    have closed : twin.isClosedBy = cursor.isClosedBy := by
      unfold Cursor.isClosedBy
      rw [meets.openBlocks]
    apply Recovery.Crosses.look (by
      simp only [meets.kind, meets.kind_twin, outside, outsideTwin, closed])
    dsimp only
    have through : (exchange.detour failure).through cursor twin := ⟨arm, meets⟩
    split
    · exact .pure through
    · rw [if_pos (by rw [meets.kind, arm]; rfl)]
      split
      · exact .pure through
      · apply Recovery.Tells.crosses
        have advances : advance.Advances cursor :=
          advances_advance (by rw [meets.kind, arm]; rfl)
        apply advances.travels.grows.bind_tells
        intro _ after
        exact (tells_complain _ _).bind fun _ _ => .pure _
  · refine (meets.joins_bodyLine valid rejects ?_ block statements).crosses
    rcases exchange.kind_cases with found | found | found
    · exact .inl found
    · exact absurd found arm
    · exact .inr found

/-- Comments in front of the keyword are passed in both texts. -/
theorem crosses_behindComments (meets : exchange.Meets docs cursor twin)
    (commented : ∀ token ∈ docs, token.kind = .docComment)
    (valid : invalidTokens exchange.text = [])
    (rejects : expression.errorOn?
      (exchange.broken ++ [exchange.line]) = some failure)
    (block : Block) (statements : List Statement) :
    (bodyLines block statements).Crosses failure cursor twin
      (fun _ => (exchange.detour failure).through)
      (exchange.detour failure).Lacking := by
  have proceeds := proceeds_bodyLine travels_body block
  induction docs generalizing cursor twin with
  | nil => exact meets.crosses_bodyLines valid rejects block statements
  | cons token docs ih =>
    have doc := commented token List.mem_cons_self
    have lines := ih (meets.next doc) fun other later =>
      commented other (List.mem_cons_of_mem _ later)
    have passes (cursor : Cursor) (found : cursor.kind = .docComment) :
        (bodyLines block statements).run cursor =
          (bodyLines block statements).run cursor.next := by
      have step := Recovery.run_loop proceeds statements cursor
      rw [run_bodyLine_of_docComment block statements found] at step
      exact step
    exact lines.congr
      (passes cursor ((kind_of_budget meets.here).trans doc))
      (passes twin ((kind_of_budget meets.there).trans doc))

end Meets

/-- The two runs may pass the condition: only its statement is missing. -/
theorem passable (valid : invalidTokens exchange.text = [])
    (rejects : Reader.expression.errorOn?
      (exchange.broken ++ [exchange.line]) = some failure) :
    (exchange.detour failure).Passable where
  commented := exchange.commented
  starts := by
    have kind : (exchange.detour failure).first.kind = exchange.keyword.kind :=
      rfl
    rcases exchange.kind_cases with found | found | found <;>
      rw [kind, found] <;> decide
  undeclared cursor here := by
    have kind : cursor.kind = exchange.keyword.kind := kind_of_budget here
    exact (undeclared_of_opens (kind ▸ exchange.opens)).1
  otherStarts := by
    show Heads _ (exchange.comments ++ _)
    cases docs : exchange.comments with
    | nil =>
      show exchange.keyword.kind ≠ .newline
      rcases exchange.kind_cases with found | found | found <;>
        rw [found] <;> nofun
    | cons token more =>
      show token.kind ≠ .newline
      rw [exchange.commented token (by simp [docs])]
      nofun
  otherPlain docs := by
    change exchange.comments = [] at docs
    show Heads _ (exchange.comments ++ _)
    rw [docs]
    show exchange.keyword.kind ≠ .docComment
    rcases exchange.kind_cases with found | found | found <;>
      rw [found] <;> nofun
  inBody block statements cursor twin silent faces := by
    have meets : exchange.Meets exchange.comments cursor twin :=
      ⟨faces.here, faces.there, faces.lastEnd, faces.openBlocks, silent,
        faces.silent_twin rfl silent⟩
    exact meets.crosses_behindComments exchange.commented valid rejects block
      statements
  elseIf _ _ through := through.2.kind.trans through.1
  lastEnd _ _ through := through.2.lastEnd
  leave _ _ through := ⟨through.1, through.2.leave⟩
  inArms opener arms _ _ _ through :=
    (through.2.joins_nextArm valid rejects through.1 opener arms).crosses
  widens branches otherwise span gone := widens branches otherwise span gone

/-- No declaration ends where the condition stands. -/
theorem ne_rest_of_silent {found : Reader.ScriptBody}
    (silent : (Parsed.ofTokens exchange.text).diagnostics = [])
    (upTo : DeclaredUpTo exchange.text found cursor) :
    cursor.budget ≠ (exchange.detour failure).rest := by
  intro here
  obtain ⟨after, upTo, place, -⟩ :=
    upTo.exists_behind_comments here exchange.commented
  have kind : after.kind = exchange.keyword.kind := kind_of_budget place
  have undeclared : after.atDeclaration = false :=
    Bool.or_eq_false_iff.2 (undeclared_of_opens (kind ▸ exchange.opens))
  apply upTo.not_tells silent
  unfold Reader.nextDeclaration Recovery.Tells Recovery.Ends
  have goesOn : after.kind ≠ .newline := by
    rw [kind]
    rcases exchange.kind_cases with found | found | found <;>
      rw [found] <;> nofun
  rw [Recovery.run_skipNewlines_bind_of_ne _ goesOn, Recovery.run_get_bind,
    kind]
  have tells : Recovery.Tells (do
      Reader.reportAndRecover (← Reader.unexpected "a script member declaration")
      return Step.again found) after := by
    apply Recovery.Tells.unexpected
    exact fun _ => Recovery.tells_recoverAfter _ _
  rcases exchange.kind_cases with found | found | found <;>
    rw [found] <;> dsimp only <;>
    rw [if_neg (by simp [undeclared])] <;> exact tells

/-- A condition in a body of a script without errors is exchanged for tokens
that are no expression.  The statement that the condition belongs to is all
that the script loses.  The error of the condition is reported, and each
invalid token of it that this is not about. -/
theorem broken_condition_drops_statement (ends : EndsOnce exchange.text)
    (silent : (Parsed.ofTokens exchange.text).diagnostics = [])
    (own : OwnPlaces exchange.broken)
    (rejects : Reader.expression.errorOn?
      (exchange.broken ++ [exchange.line]) = some failure) :
    (∃ edited, (Parsed.ofTokens exchange.text).script.Edited
        (Statement.BodyLacks exchange.Gone) edited ∧
      SameBy Script.bare edited
        (Parsed.ofTokens exchange.brokenText).script) ∧
      (Parsed.ofTokens exchange.brokenText).diagnostics =
        lineReports failure exchange.broken := by
  have valid := invalidTokens_of_silent ends silent
  have inside : ∀ token ∈ exchange.front, token.kind ≠ .endOfText := by
    rw [text, ← List.append_assoc, onward, endsOnce_append_cons] at ends
    intro token member
    exact ends.1 token (by simp [opening, member])
  have shape : exchange.text = exchange.front ++ (exchange.comments ++
      exchange.keyword :: (exchange.condition ++ exchange.onward)) := by
    simp [text, opening]
  have shapeToo : exchange.brokenText = exchange.front ++ (exchange.comments ++
      exchange.keyword :: (exchange.broken ++ exchange.onward)) := by
    simp [brokenText, opening]
  have faces : (exchange.detour failure).fork.Faces exchange.front
      (start exchange.text) (start exchange.brokenText) := by
    have sameEnd : missingEnd exchange.brokenText = missingEnd exchange.text :=
      missingEnd_brokenText
    rw [shapeToo] at sameEnd
    have starts : (exchange.detour failure).fork.Faces exchange.front
        (start (exchange.front ++ (exchange.comments ++
          exchange.keyword :: (exchange.condition ++ exchange.onward))))
        (start (exchange.front ++ (exchange.comments ++
          exchange.keyword :: (exchange.broken ++ exchange.onward)))) := by
      refine Fork.faces_start exchange.starts ?_ ?_ rfl rfl inside
      · rw [← shape]
        simp [Detour.fork, rest_detour, behind, onward]
      · rw [sameEnd]
        simp [Detour.fork, detour, behind, onward]
    rwa [← shape, ← shapeToo] at starts
  obtain ⟨edited, changed, same, reported⟩ := Detour.exists_edited
    (passable valid rejects) ⟨_, faces⟩
    (fun found cursor upTo => ne_rest_of_silent silent upTo) silent
  exact ⟨⟨edited, changed, same⟩, diagnostics_eq_lineReports
    (endsOnce_brokenText ends) own (invalidTokens_brokenText valid) reported⟩

/-! ## The second arm of a conditional in a loop -/

/-- The condition of the second arm is exchanged for a parenthesis and an
invalid token. -/
def secondArm : ConditionExchange where
  front := Heading.door.tokens ++
    [.onLine 4 (.keyword .function) "Function", .onLine 5 .identifier "Open",
      .onLine 6 (.symbol .openParen) "(", .onLine 7 (.symbol .closeParen) ")",
      .onLine 8 .newline "\n", .onLine 9 (.keyword .whileLoop) "While",
      .onLine 10 .identifier "going", .onLine 11 .newline "\n",
      .onLine 12 (.keyword .ifThen) "If",
      .onLine 13 (.keyword .trueLiteral) "True", .onLine 14 .newline "\n"]
  comments := [.onLine 25 .docComment "{otherwise}"]
  keyword := .onLine 15 (.keyword .elseIf) "ElseIf"
  condition := [.onLine 16 .identifier "open"]
  line := .onLine 17 .newline "\n"
  more :=
    [.onLine 18 (.keyword .endIf) "EndIf", .onLine 19 .newline "\n",
      .onLine 20 (.keyword .endWhile) "EndWhile", .onLine 21 .newline "\n",
      .onLine 22 (.keyword .endFunction) "EndFunction"]
  broken :=
    [.onLine 23 (.symbol .closeParen) ")",
      .onLine 24 (.invalid .unexpectedCharacter) "@"]
  starts := ⟨Heading.door.tokens ++
    [.onLine 4 (.keyword .function) "Function", .onLine 5 .identifier "Open",
      .onLine 6 (.symbol .openParen) "(", .onLine 7 (.symbol .closeParen) ")",
      .onLine 8 .newline "\n", .onLine 9 (.keyword .whileLoop) "While",
      .onLine 10 .identifier "going", .onLine 11 .newline "\n",
      .onLine 12 (.keyword .ifThen) "If",
      .onLine 13 (.keyword .trueLiteral) "True"], _, rfl, rfl⟩
  commented := by decide
  opens := by decide
  inLine := by decide
  inert := by decide
  breaks := rfl

/-- The error that breaks the condition. -/
def secondArmError : Diagnostic :=
  .unexpected (.onLine 23 (.symbol .closeParen) ")") "an expression"

/-- The loop stays without the conditional in it.  The parenthesis is
reported, then the invalid token behind it. -/
theorem secondArm_drops_conditional :
    EndsOnce secondArm.text ∧
      (Parsed.ofTokens secondArm.text).diagnostics = [] ∧
      OwnPlaces secondArm.broken ∧
      Reader.expression.errorOn? (secondArm.broken ++ [secondArm.line]) =
        some secondArmError ∧
      (∃ edited, (Parsed.ofTokens secondArm.text).script.Edited
          (Statement.BodyLacks secondArm.Gone) edited ∧
        SameBy Script.bare edited
          (Parsed.ofTokens secondArm.brokenText).script) ∧
      (Parsed.ofTokens secondArm.brokenText).diagnostics =
        [secondArmError, (Token.onLine 24 (.invalid .unexpectedCharacter)
          "@").lexicalReport] := by
  have ends : EndsOnce secondArm.text := by decide
  have silent : (Parsed.ofTokens secondArm.text).diagnostics = [] := by decide
  have own : OwnPlaces secondArm.broken := by decide
  have rejects : Reader.expression.errorOn?
      (secondArm.broken ++ [secondArm.line]) = some secondArmError := by
    decide
  obtain ⟨lacks, diagnostics⟩ :=
    broken_condition_drops_statement ends silent own rejects
  refine ⟨ends, silent, own, rejects, lacks, ?_⟩
  rw [diagnostics]
  decide

end ConditionExchange

end PapyrusScript
