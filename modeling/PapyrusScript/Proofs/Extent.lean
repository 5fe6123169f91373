import PapyrusScript.Proofs.Coverage
import PapyrusScript.Proofs.Transcript

/-!
# Rows between cursors and the extent of statements

What a reader covers is joined here with where its cursor stands.  The row
between two cursors tells which tokens were ahead at the first one, and where
the last visible token in front of the second one ends.

Between the statements of a body there are line breaks and documentation
comments, and nothing else.  `Statement.Fills` says which row of tokens is the
text of a statement, from its first token to its last.  The row transcribes
the statement, and the span of the statement runs from its start to its end.

One sort of statement makes an exception.  An expression by itself has the span
of the expression, which leaves out parentheses at either end.
-/

namespace PapyrusScript

section Readers

variable {α β : Type}

namespace Cursor

variable {row : List Token}

/-- The end of the last token that is no line break, or a place in front. -/
def stopBehind (place : Position) (row : List Token) : Position :=
  row.foldl
    (fun stop token =>
      if token.kind = .newline then stop else token.span.stop)
    place

theorem stopBehind_append (place : Position) (row rest : List Token) :
    stopBehind place (row ++ rest) = stopBehind (stopBehind place row) rest :=
  List.foldl_append

theorem stopBehind_of_newlines
    (breaks : ∀ token ∈ row, token.kind = .newline) (place : Position) :
    stopBehind place row = place := by
  induction row generalizing place with
  | nil => rfl
  | cons token rest ih =>
    obtain ⟨first, others⟩ := List.forall_mem_cons.1 breaks
    rw [stopBehind, List.foldl_cons, if_pos first]
    exact ih others place

theorem stopBehind_of_getLast? {token : Token} (last : token ∈ row.getLast?)
    (visible : token.kind ≠ .newline) (place : Position) :
    stopBehind place row = token.span.stop := by
  obtain ⟨front, rfl⟩ := List.getLast?_eq_some_iff.1 last
  rw [stopBehind_append, stopBehind, List.foldl_cons, if_neg visible]
  rfl

variable {source middle target : Cursor} {fact known : List Token → Prop}

theorem Move.lastEnd_eq
    {passed : List Token} (move : Move source passed target) :
    target.lastEnd = stopBehind source.lastEnd passed := by
  cases move with
  | pass => exact lastEnd_next source
  | discard =>
    unfold Cursor.discard
    split
    · exact lastEnd_next source
    · exact lastEnd_next source
  | reject => exact lastEnd_next (source.report _)
  | report => rfl
  | enter => rfl
  | leave => rfl

theorem Path.lastEnd_eq
    {passed : List Token} (path : source.Path passed target) :
    target.lastEnd = stopBehind source.lastEnd passed := by
  induction path with
  | stay => rfl
  | step _ move ih =>
    rw [stopBehind_append, ← ih]
    exact move.lastEnd_eq

/-- The row of tokens between two cursors. -/
structure Reads (source : Cursor) (row : List Token) (target : Cursor) :
    Prop where
  budget : source.budget = row ++ target.budget
  lastEnd : target.lastEnd = stopBehind source.lastEnd row

theorem Reads.append {row rest : List Token} (first : source.Reads row middle)
    (second : middle.Reads rest target) :
    source.Reads (row ++ rest) target where
  budget := by rw [first.budget, second.budget, List.append_assoc]
  lastEnd := by rw [second.lastEnd, first.lastEnd, stopBehind_append]

/-- The first token of a row is the one that was ahead. -/
theorem Reads.head (reads : source.Reads row target) :
    ∀ token ∈ row.head?, token = source.current := by
  intro token first
  cases row with
  | nil => cases first
  | cons head rest =>
    obtain rfl := Option.some.inj first
    exact (List.cons.inj reads.budget).1.symm

theorem Covers.reads
    (covers : source.Covers target fact) (reaches : source.Reaches target) :
    source.Covers target fun row => fact row ∧ source.Reads row target := by
  obtain ⟨⟨passed, path⟩, _⟩ := reaches
  apply covers.budget.mono
  rintro row ⟨holds, same⟩
  have row_eq : row = passed :=
    List.append_cancel_right (same.symm.trans path.budget_eq.1)
  exact ⟨holds, same, row_eq ▸ path.lastEnd_eq⟩

theorem Covers.and
    (first : source.Covers target fact) (second : source.Covers target known) :
    source.Covers target fun row => fact row ∧ known row where
  grows := first.grows
  holds := by
    intro silent
    obtain ⟨one, passes, holds, budget⟩ := first.budget.holds silent
    obtain ⟨other, _, holdsToo, budgetToo⟩ := second.budget.holds silent
    have same : other.tokens = one.tokens :=
      List.append_cancel_right (budgetToo.symm.trans budget)
    exact ⟨one, passes, holds, same ▸ holdsToo⟩

end Cursor

namespace Recovery

variable {cursor : Cursor} {fact : α → List Token → Prop}
  {whole : β → List Token → Prop}
variable {reader : Recovery α}

theorem Covers.reads
    (covers : reader.Covers cursor fact) (travels : reader.Travels cursor) :
    reader.Ends cursor fun value after =>
      cursor.Covers after fun row =>
        fact value row ∧ cursor.Reads row after :=
  (Ends.and covers travels).mono fun _ _ reached =>
    reached.1.reads reached.2

/-- The second part may speak of the place where it starts. -/
theorem Covers.bindReads
    {following : α → Recovery β} (first : reader.Covers cursor fact)
    (travels : reader.Travels cursor)
    (rest : ∀ value after, (following value).Covers after fun result row =>
      ∀ before, fact value before → cursor.Reads before after →
        whole result (before ++ row)) :
    Covers (reader >>= following) cursor whole := by
  unfold Covers
  apply Ends.bind (first.reads travels)
  intro value middle covered
  apply Covers.behind covered
  exact (rest value middle).mono fun _ _ holds before reached =>
    holds before reached.1 reached.2

end Recovery

namespace Reader

variable {cursor : Cursor} {fact known : α → List Token → Prop}
  {whole : β → List Token → Prop}
variable {reader : Reader α}

theorem Covers.reads
    (covers : reader.Covers cursor fact) (travels : reader.Travels cursor) :
    reader.Ends cursor
      (fun value after => cursor.Covers after fun row =>
        fact value row ∧ cursor.Reads row after)
      fun _ after => cursor.reported.length ≤ after.reported.length :=
  (Ends.and covers travels).mono
    (fun _ _ reached => reached.1.reads reached.2)
    fun _ _ reached => reached.1

/-- The second part may speak of the place where it starts. -/
theorem Covers.bindReads
    {following : α → Reader β} (first : reader.Covers cursor fact)
    (travels : reader.Travels cursor)
    (rest : ∀ value after, (following value).Covers after fun result row =>
      ∀ before, fact value before → cursor.Reads before after →
        whole result (before ++ row)) :
    Covers (reader >>= following) cursor whole := by
  unfold Covers
  rw [ends_bind]
  apply Ends.mono (first.reads travels)
  · intro value middle covered
    apply Covers.behind covered
    exact (rest value middle).mono fun _ _ holds before reached =>
      holds before reached.1 reached.2
  · exact fun _ _ grown => grown

theorem Covers.and
    (first : reader.Covers cursor fact) (second : reader.Covers cursor known) :
    reader.Covers cursor fun value row => fact value row ∧ known value row :=
  (Ends.and first second).mono (fun _ _ reached => reached.1.and reached.2)
    fun _ _ reached => reached.1

/-- What the steps of a loop add is covered by the loop. -/
theorem Covers.loop
    {step : α → Reader (Step α)} {invariant post : α → List Token → Prop}
    (proceeds : ∀ value cursor, (step value).Proceeds cursor)
    (adds : ∀ value cursor, (step value).Covers cursor fun decision row =>
      ∀ before, invariant value before →
        Step.Adds invariant post decision (before ++ row))
    (value : α) :
    Covers (PapyrusScript.loop step cursor.budget value) cursor
      fun final row => ∀ before, invariant value before →
        post final (before ++ row) := by
  -- What has been covered up to a step is the invariant.
  apply ends_loop_of_keeps
    (fun next middle => cursor.Covers middle fun row =>
      ∀ before, invariant value before → invariant next (before ++ row))
    proceeds
  · intro next middle covered
    apply Ends.mono (adds next middle)
    · intro decision after further
      have whole := covered.trans further
      cases decision <;> exact whole
    · exact fun _ _ grown => Nat.le_trans covered.grows grown
  · apply Cursor.Covers.nil
    intro before start
    rwa [List.append_nil]

end Reader

end Readers

/-! ## The extent of statements -/

/-! ## Rows -/

def Kind.isBetween (kind : Kind) : Bool := kind = .newline || kind = .docComment

theorem Kind.isBetween_iff {kind : Kind} :
    kind.isBetween = true ↔ kind = .newline ∨ kind = .docComment := by
  simp [Kind.isBetween]

def IsGap (row : List Token) : Prop :=
  ∀ token ∈ row, token.kind.isBetween = true

def IsLine (row : List Token) : Prop :=
  ∀ token ∈ row, token.kind.isBetween = false

/-- The stretch from the first token of a row to its last. -/
def Span.IsOf (span : Span) (row : List Token) : Prop :=
  ∃ first ∈ row.head?, ∃ last ∈ row.getLast?,
    span = first.span.through last.span

instance (span : Span) (row : List Token) : Decidable (span.IsOf row) :=
  inferInstanceAs (Decidable (∃ first ∈ row.head?, ∃ last ∈ row.getLast?,
    span = first.span.through last.span))

/-- The stretch of a row that leaves out parentheses: some that open in front,
all of them that stand there, and some that close behind. -/
def Span.IsInside (span : Span) (row : List Token) : Prop :=
  ∃ opening inside closing, row = opening ++ (inside ++ closing) ∧
    (∀ token ∈ opening, token.kind = .symbol .openParen) ∧
      (∀ token ∈ closing, token.kind = .symbol .closeParen) ∧
        span.IsOf inside ∧
          ∀ token ∈ inside.head?, token.kind ≠ .symbol .openParen

/-- The text of an expression. -/
structure Expression.Fills (tree : Expression) (row : List Token) : Prop where
  line : IsLine row
  inside : tree.span.IsInside row
  transcribes : Transcribes row tree.transcript

/-- A row in one line that transcribes something and has a stretch. -/
structure Span.IsOfLine (span : Span) (marks : List Mark) (row : List Token) :
    Prop where
  span : span.IsOf row
  line : IsLine row
  transcribes : Transcribes row marks

namespace Statement

mutual

def Fills : Statement → List Token → Prop
  | .expression value span, row => span = value.span ∧ value.Fills row
  | .assign target operator value span, row =>
    span.IsOfLine
      (target.transcript ++ .sign operator.symbol :: value.transcript) row
  | .conditional branches otherwise span, row =>
    span.IsOf row ∧ ∃ arms last closer, row = arms ++ (last ++ [closer]) ∧
      ArmsFill .ifThen branches arms ∧ OtherwiseFills otherwise last ∧
        closer.kind = .keyword .endIf
  | .loop condition body span, row =>
    span.IsOf row ∧ ∃ opener line inside closer,
      row = opener :: (line ++ (inside ++ [closer])) ∧
        opener.kind = .keyword .whileLoop ∧ condition.Fills line ∧
          BodyFills body inside ∧ closer.kind = .keyword .endWhile
  | .result value span, row =>
    span.IsOfLine
      (.word .returnValue :: Expression.returnedTranscript value) row
  | .declare type name initial span, row =>
    span.IsOfLine
      (type.transcript ++
        .name name.name :: Expression.initialTranscript initial) row

def BodyFills : List Statement → List Token → Prop
  | [], row => IsGap row
  | statement :: rest, row =>
    ∃ gap here behind, row = gap ++ (here ++ behind) ∧ IsGap gap ∧
      Fills statement here ∧ BodyFills rest behind

/-- The text of the arms of a conditional, the first of which starts with a
keyword of its own. -/
def ArmsFill (opener : Keyword) : List (Branch Statement) → List Token → Prop
  | [], row => row = []
  | branch :: rest, row =>
    ∃ arm behind, row = arm ++ behind ∧ BranchFills opener branch arm ∧
      ArmsFill .elseIf rest behind

def BranchFills (opener : Keyword) : Branch Statement → List Token → Prop
  | ⟨condition, body, _⟩, row =>
    ∃ word line inside, row = word :: (line ++ inside) ∧
      word.kind = .keyword opener ∧ condition.Fills line ∧ BodyFills body inside

def OtherwiseFills : Option (List Statement) → List Token → Prop
  | none, row => row = []
  | some body, row =>
    ∃ word inside, row = word :: inside ∧
      word.kind = .keyword .otherwise ∧ BodyFills body inside

end

end Statement

/-! ## Joining rows -/

namespace IsGap

variable {row rest : List Token}

theorem nil : IsGap [] := List.forall_mem_nil _

theorem append (gap : IsGap row) (more : IsGap rest) : IsGap (row ++ rest) :=
  List.forall_mem_append.2 ⟨gap, more⟩

theorem of_newlines (breaks : ∀ token ∈ row, token.kind = .newline) :
    IsGap row := by
  intro token member
  rw [breaks token member]
  rfl

theorem of_docComment {token : Token} (kind : token.kind = .docComment) :
    IsGap [token] :=
  List.forall_mem_singleton.2 (by rw [kind]; rfl)

/-- A gap leaves no mark. -/
theorem transcribes (gap : IsGap row) : Transcribes row [] := by
  induction row with
  | nil => exact .nil
  | cons token rest ih =>
    obtain ⟨first, others⟩ := List.forall_mem_cons.1 gap
    apply Transcribes.cons_layout _ (ih others)
    rcases Kind.isBetween_iff.1 first with found | found
    · rw [found]
      rfl
    · rw [found]
      rfl

end IsGap

namespace IsLine

variable {row rest : List Token} {token : Token} {kind : Kind}

theorem nil : IsLine [] := List.forall_mem_nil _

theorem append (line : IsLine row) (more : IsLine rest) :
    IsLine (row ++ rest) :=
  List.forall_mem_append.2 ⟨line, more⟩

theorem cons (found : token.kind = kind) (inside : kind.isBetween = false)
    (more : IsLine rest) : IsLine (token :: rest) :=
  List.forall_mem_cons.2 ⟨found ▸ inside, more⟩

theorem single (found : token.kind = kind) (inside : kind.isBetween = false) :
    IsLine [token] :=
  .cons found inside .nil

theorem ne_newline (line : IsLine row) :
    ∀ token ∈ row, token.kind ≠ .newline := by
  intro token member breaks
  have inside := line token member
  rw [breaks] at inside
  cases inside

end IsLine

namespace Span.IsOf

variable {first second : Span} {row rest : List Token} {token : Token}

theorem single : token.span.IsOf [token] := ⟨token, rfl, token, rfl, rfl⟩

/-- The stretch of two rows with something between them. -/
theorem join
    (one : first.IsOf row) (gap : List Token) (other : second.IsOf rest) :
    (first.through second).IsOf (row ++ (gap ++ rest)) := by
  obtain ⟨opening, isFirst, _, _, rfl⟩ := one
  obtain ⟨_, _, closing, isLast, rfl⟩ := other
  refine ⟨opening, ?_, closing, ?_, rfl⟩
  · rw [Option.mem_def, List.head?_append, isFirst]
    rfl
  · rw [Option.mem_def, List.getLast?_append, List.getLast?_append, isLast]
    rfl

end Span.IsOf

namespace Statement

variable {body : List Statement} {row gap here : List Token}

/-! ## What fills a row transcribes it -/

mutual

/-- The row that a statement fills transcribes it, by induction on it. -/
theorem transcribes_of_fills :
    ∀ (statement : Statement) {row : List Token},
      statement.Fills row → Transcribes row statement.transcript
  | .expression _ _, _, ⟨_, fills⟩ => fills.transcribes
  | .assign _ _ _ _, _, line => line.transcribes
  | .result _ _, _, line => line.transcribes
  | .declare _ _ _ _, _, line => line.transcribes
  | .conditional branches otherwise _, _,
      ⟨_, _, _, _, same, arms, last, closes⟩ => by
    rw [same]
    exact (transcribes_of_armsFill branches arms).append <|
      (transcribes_of_otherwiseFills otherwise last).append (.word closes)
  | .loop _ body _, _,
      ⟨_, _, _, _, _, same, opens, condition, inside, closes⟩ => by
    rw [same]
    exact (Transcribes.word opens).cons <| condition.transcribes.append <|
      (transcribes_of_bodyFills body inside).append (.word closes)

theorem transcribes_of_bodyFills :
    ∀ (body : List Statement) {row : List Token},
      BodyFills body row → Transcribes row (bodyTranscript body)
  | [], _, gap => IsGap.transcribes gap
  | statement :: rest, _, ⟨_, _, _, same, gap, first, others⟩ => by
    rw [same]
    exact gap.transcribes.append <|
      (transcribes_of_fills statement first).append
        (transcribes_of_bodyFills rest others)

theorem transcribes_of_armsFill :
    ∀ {opener : Keyword} (branches : List (Branch Statement))
      {row : List Token}, ArmsFill opener branches row →
        Transcribes row (armsTranscript opener branches)
  | _, [], _, nothing => nothing ▸ .nil
  | _, branch :: rest, _, ⟨_, _, same, arm, others⟩ => by
    rw [same]
    exact (transcribes_of_branchFills branch arm).append
      (transcribes_of_armsFill rest others)

theorem transcribes_of_branchFills :
    ∀ {opener : Keyword} (branch : Branch Statement) {row : List Token},
      BranchFills opener branch row →
        Transcribes row (.word opener :: branchTranscript branch)
  | _, ⟨_, body, _⟩, _, ⟨_, _, _, same, opens, condition, inside⟩ => by
    rw [same]
    exact (Transcribes.word opens).cons <| condition.transcribes.append
      (transcribes_of_bodyFills body inside)

theorem transcribes_of_otherwiseFills :
    ∀ (otherwise : Option (List Statement)) {row : List Token},
      OtherwiseFills otherwise row →
        Transcribes row (otherwiseTranscript otherwise)
  | none, _, nothing => nothing ▸ .nil
  | some body, _, ⟨_, _, same, opens, inside⟩ => by
    rw [same]
    exact (Transcribes.word opens).cons (transcribes_of_bodyFills body inside)

end

/-! ## Joining bodies and arms -/

theorem BodyFills.after (gaps : IsGap gap) (fills : BodyFills body row) :
    BodyFills body (gap ++ row) := by
  cases body with
  | nil => exact gaps.append fills
  | cons statement rest =>
    obtain ⟨front, here, behind, rfl, inFront, first, others⟩ := fills
    refine ⟨gap ++ front, here, behind, ?_, gaps.append inFront, first, others⟩
    rw [List.append_assoc]

theorem BodyFills.before (fills : BodyFills body row) (gaps : IsGap gap) :
    BodyFills body (row ++ gap) := by
  induction body generalizing row with
  | nil => exact IsGap.append fills gaps
  | cons statement rest ih =>
    obtain ⟨front, here, behind, rfl, inFront, first, others⟩ := fills
    refine ⟨front, here, behind ++ gap, ?_, inFront, first, ih others⟩
    rw [List.append_assoc, List.append_assoc]

theorem BodyFills.concat
    {statement : Statement} (fills : BodyFills body row) (gaps : IsGap gap)
    (last : statement.Fills here) :
    BodyFills (body ++ [statement]) (row ++ (gap ++ here)) := by
  induction body generalizing row with
  | nil =>
    refine ⟨row ++ gap, here, [], ?_, IsGap.append fills gaps, last, .nil⟩
    rw [List.append_nil, List.append_assoc]
  | cons first rest ih =>
    obtain ⟨front, middle, behind, rfl, inFront, fillsFirst, others⟩ := fills
    refine ⟨front, middle, behind ++ (gap ++ here), ?_, inFront, fillsFirst,
      ih others⟩
    rw [List.append_assoc, List.append_assoc]

/-- An arm more is filled behind the others. -/
theorem ArmsFill.concat
    {branches : List (Branch Statement)} {last : Branch Statement}
    {opener : Keyword} (nonempty : branches ≠ [])
    (fills : ArmsFill opener branches row)
    (arm : BranchFills .elseIf last here) :
    ArmsFill opener (branches ++ [last]) (row ++ here) := by
  induction branches generalizing opener row with
  | nil => exact absurd rfl nonempty
  | cons branch rest ih =>
    obtain ⟨first, behind, rfl, fillsFirst, others⟩ := fills
    rw [List.append_assoc]
    refine ⟨first, behind ++ here, rfl, fillsFirst, ?_⟩
    cases rest with
    | nil =>
      obtain rfl : behind = [] := others
      exact ⟨here, [], (List.append_nil here).symm, arm, rfl⟩
    | cons next rest =>
      exact ih (List.cons_ne_nil _ _) others

end Statement

end PapyrusScript
