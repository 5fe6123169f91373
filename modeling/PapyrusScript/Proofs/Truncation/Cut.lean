import PapyrusScript.Proofs.LexicalReports
import PapyrusScript.Proofs.Omission
import PapyrusScript.Proofs.Transcript.Callable
import PapyrusScript.Proofs.Truncation.Opening

/-!
# A text that is cut

A text is read twice: as a whole, and only up to a cut.  As long as some of
what is kept lies ahead, the two runs do the same, and the blocks that they
have yet to close are those that stand open there.  The run over what is kept
then comes to its end, and every block that it has yet to close is reported.

`Cut.AtLine` says of two cursors that they stand in front of a line that is
kept, and `Cut.Spent` of a cursor that it has come to the end of what is kept.
A reader takes two cursors of the first sort to two such cursors or to one of
the second sort, where the whole text is read without a report.

Blocks that are left open are reported by the readers of these blocks alone:
no such report is made on the paths within a line, and on those on which lines
are discarded.
-/

namespace PapyrusScript

variable {α β : Type}

/-! ## Readers that report no open block -/

def Cause.isUnterminated : Cause → Bool
  | .unterminated _ _ _ => true
  | _ => false

theorem Diagnostic.isUnterminated_unexpected
    (token : Token) (expected : String) :
    (Diagnostic.unexpected token expected).cause.isUnterminated = false := by
  unfold Diagnostic.unexpected
  split <;> rfl

/-- The reports of open blocks, the newest first. -/
def Cursor.unterminated (cursor : Cursor) : List Diagnostic :=
  cursor.reported.filter fun diagnostic => diagnostic.cause.isUnterminated

namespace Cursor

variable (cursor : Cursor)

theorem Reaches.unterminated {source target : Cursor}
    (reaches : source.Reaches target Cause.isUnterminated) :
    target.unterminated = source.unterminated :=
  reaches.reportsOf

theorem unterminated_report
    {diagnostic : Diagnostic} (other : diagnostic.cause.isUnterminated = false) :
    (cursor.report diagnostic).unterminated = cursor.unterminated := by
  rw [unterminated, reported_report, List.filter_cons_of_neg (by simp [other])]
  rfl

end Cursor

/-- Open blocks are found between lines. -/
instance : Cause.Outer Cause.isUnterminated where
  isOuter {cause} isOpen := by
    unfold Cause.isUnterminated at isOpen
    split at isOpen
    · rfl
    · cases isOpen

/-! ## Cuts -/

/-- What is kept of a text, what follows it in the whole text, and the end of
the text that follows it instead. -/
structure Cut where
  kept : List Token
  rest : List Token
  last : Token
  ends : last.kind = .endOfText
  inside : ∀ token ∈ kept, token.kind ≠ .endOfText

namespace Cut

open Cursor

variable {cut : Cut} {stack : List Opening} {row line : List Token}
  {token : Token} {opening : Opening}
variable {first : Token}

def closed (cut : Cut) : Bool := Opening.startsBehindLine cut.rest

def goal (cut : Cut) : List Opening := Opening.openAt cut.kept cut.rest

/-- Some blocks are open in front of a line, and all of their keywords have
been passed. -/
structure Opens (cut : Cut) (stack : List Opening) (row : List Token) :
    Prop where
  scan : Opening.openedIn cut.closed true stack row = cut.goal
  passed : ∃ before, cut.kept = before ++ row ∧
    (stack.map Opening.keyword).reverse.Sublist before

/-! ## Lines -/

theorem Opens.nil (opens : cut.Opens stack []) : cut.goal = stack :=
  opens.scan.symm

theorem Opens.later {before after : List Token} {outer : List Opening}
    (opens : cut.Opens stack (before ++ after))
    (scan : Opening.openedIn cut.closed true outer after = cut.goal)
    (keywords : ∀ earlier,
      (stack.map Opening.keyword).reverse.Sublist earlier →
        (outer.map Opening.keyword).reverse.Sublist (earlier ++ before)) :
    cut.Opens outer after := by
  obtain ⟨earlier, kept, sublist⟩ := opens.passed
  refine ⟨scan, earlier ++ before, ?_, keywords earlier sublist⟩
  rw [kept, List.append_assoc]

theorem sublist_append_of_sublist {before after : List Token}
    (sublist : (stack.map Opening.keyword).reverse.Sublist before) :
    (stack.map Opening.keyword).reverse.Sublist (before ++ after) :=
  sublist.trans (List.sublist_append_left _ _)

theorem Opens.newline
    (opens : cut.Opens stack (token :: row)) (breaks : token.kind = .newline) :
    cut.Opens stack row := by
  have scan := opens.scan
  rw [Opening.openedIn_newline breaks] at scan
  have shape : cut.Opens stack ([token] ++ row) := opens
  exact shape.later scan fun _ => sublist_append_of_sublist

theorem Opens.docComment (opens : cut.Opens stack (token :: row))
    (doc : token.kind = .docComment) : cut.Opens stack row := by
  have scan := opens.scan
  rw [Opening.openedIn_docComment doc] at scan
  have shape : cut.Opens stack ([token] ++ row) := opens
  exact shape.later scan fun _ => sublist_append_of_sublist

/-- A line turns the open blocks into those behind it. -/
theorem Opens.turn {newline : Token} {outer : List Opening}
    (opens : cut.Opens stack (first :: line ++ newline :: row))
    (oneLine : OneLine (first :: line)) (noDoc : first.kind ≠ .docComment)
    (breaks : newline.kind = .newline)
    (turned : Opening.turn cut.closed stack
      (first :: line ++ newline :: row) = outer)
    (keywords : ∀ earlier,
      (stack.map Opening.keyword).reverse.Sublist earlier →
        (outer.map Opening.keyword).reverse.Sublist
          (earlier ++ (first :: line))) :
    cut.Opens outer row := by
  have scan := opens.scan
  rw [Opening.openedIn_cons oneLine noDoc, turned,
    Opening.openedIn_newline breaks] at scan
  have shape : first :: line ++ newline :: row =
      (first :: line ++ [newline]) ++ row := by simp
  rw [shape] at opens
  apply opens.later scan
  intro earlier sublist
  rw [← List.append_assoc]
  exact (keywords earlier sublist).trans (List.sublist_append_left _ _)

theorem Opens.turn_last (opens : cut.Opens stack (first :: line))
    (oneLine : OneLine (first :: line)) (noDoc : first.kind ≠ .docComment) :
    cut.goal = Opening.turn cut.closed stack (first :: line) := by
  have scan := opens.scan
  rw [← List.append_nil (first :: line),
    Opening.openedIn_cons oneLine noDoc, List.append_nil] at scan
  exact scan.symm

theorem ne_docComment_of_ofLine?
    (found : Opening.ofLine? (first :: line) = some opening) :
    first.kind ≠ .docComment := by
  intro doc
  rw [Opening.ofLine?_docComment doc] at found
  cases found

/-- A line that starts a block opens it. -/
theorem Opens.push
    {newline : Token} (opens : cut.Opens stack (line ++ newline :: row))
    (oneLine : OneLine line) (breaks : newline.kind = .newline)
    (found : Opening.ofLine? line = some opening)
    (within : opening.keyword ∈ line) : cut.Opens (opening :: stack) row := by
  cases line with
  | nil => cases found
  | cons first line =>
    apply opens.turn oneLine (ne_docComment_of_ofLine? found) breaks
    · unfold Opening.turn
      rw [Opening.wholeLine?_append oneLine (by rw [breaks]; rfl),
        Option.bind_some, found]
    · intro earlier sublist
      rw [List.map_cons, List.reverse_cons]
      exact sublist.append (List.singleton_sublist.2 within)

theorem Opens.goal_push (opens : cut.Opens stack line) (oneLine : OneLine line)
    (closed : cut.closed = true)
    (found : Opening.ofLine? line = some opening) :
    cut.goal = opening :: stack := by
  cases line with
  | nil => cases found
  | cons first line =>
    rw [opens.turn_last oneLine (ne_docComment_of_ofLine? found)]
    unfold Opening.turn
    rw [Opening.wholeLine?_of_oneLine oneLine, closed, if_pos rfl,
      Option.bind_some, found]

def IsPlain (row : List Token) : Prop :=
  ∀ first more, row = first :: more →
    first.kind ≠ .docComment ∧
      ∀ block : Block, first.kind ≠ .keyword block.terminator

theorem ne_terminator
    {kind : Kind} (inside : kind.isBlockTerminator = false) (block : Block) :
    kind ≠ .keyword block.terminator := by
  rintro rfl
  cases block <;> cases inside

theorem turn_of_isPlain (plain : IsPlain (first :: line))
    (nothing : ∀ whole,
      Opening.wholeLine? cut.closed (first :: line) = some whole →
        Opening.ofLine? whole = none) :
    Opening.turn cut.closed stack (first :: line) = stack :=
  Opening.turn_of_none nothing fun top _ _ =>
    (plain first line rfl).2 top.block

/-- A line that starts no block opens none. -/
theorem Opens.plain
    {newline : Token} (opens : cut.Opens stack (line ++ newline :: row))
    (oneLine : OneLine line) (breaks : newline.kind = .newline)
    (plain : IsPlain line) (nothing : Opening.ofLine? line = none) :
    cut.Opens stack row := by
  cases line with
  | nil => exact opens.newline breaks
  | cons first line =>
    apply opens.turn oneLine (plain first line rfl).1 breaks
    · apply turn_of_isPlain
      · intro _ _ same
        obtain ⟨rfl, _⟩ := List.cons.inj same
        exact plain first line rfl
      · intro whole found
        have ends : newline.kind.endsLine = true := by
          rw [breaks]
          rfl
        have same := (Opening.wholeLine?_append oneLine ends).symm.trans found
        exact Option.some.inj same ▸ nothing
    · exact fun _ => sublist_append_of_sublist

/-- A last line that starts no block opens none. -/
theorem Opens.goal_plain (opens : cut.Opens stack line) (oneLine : OneLine line)
    (plain : IsPlain line)
    (nothing : cut.closed = true → Opening.ofLine? line = none) :
    cut.goal = stack := by
  cases line with
  | nil => exact opens.nil
  | cons first line =>
    rw [opens.turn_last oneLine (plain first line rfl).1]
    apply turn_of_isPlain plain
    intro whole found
    rw [Opening.wholeLine?_of_oneLine oneLine] at found
    split at found
    · rename_i closed
      exact Option.some.inj found ▸ nothing closed
    · cases found

theorem Opens.goal_of_cutOff
    (opens : cut.Opens stack line) (oneLine : OneLine line)
    (plain : IsPlain line) (cutOff : cut.closed = false) :
    cut.goal = stack := by
  apply opens.goal_plain oneLine plain
  rw [cutOff]
  nofun

/-- The terminator of the innermost block closes it. -/
theorem turn_terminator
    (closes : first.kind = .keyword opening.block.terminator)
    (row : List Token) :
    Opening.turn cut.closed (opening :: stack) (first :: row) = stack := by
  have nothing : (Opening.wholeLine? cut.closed (first :: row)).bind
      Opening.ofLine? = none := by
    cases found : Opening.wholeLine? cut.closed (first :: row) with
    | none => rfl
    | some whole =>
      rw [Opening.takeWhile_of_wholeLine? found, List.takeWhile_cons_of_pos
        (by rw [closes]; rfl)]
      obtain ⟨block, keyword⟩ := opening
      cases block <;> simp_all [Opening.ofLine?, Block.terminator,
        Kind.isTypeKeyword]
  unfold Opening.turn
  rw [nothing]
  exact if_pos closes

theorem Opens.pop {newline first : Token}
    (opens : cut.Opens (opening :: stack) (first :: line ++ newline :: row))
    (oneLine : OneLine (first :: line)) (breaks : newline.kind = .newline)
    (closes : first.kind = .keyword opening.block.terminator) :
    cut.Opens stack row := by
  apply opens.turn oneLine (by rw [closes]; nofun) breaks
  · exact turn_terminator closes _
  · intro earlier sublist
    rw [List.map_cons, List.reverse_cons] at sublist
    exact sublist_append_of_sublist
      ((List.sublist_append_left _ _).trans sublist)

theorem Opens.goal_pop (opens : cut.Opens (opening :: stack) (first :: line))
    (oneLine : OneLine (first :: line))
    (closes : first.kind = .keyword opening.block.terminator) :
    cut.goal = stack := by
  rw [opens.turn_last oneLine (by rw [closes]; nofun)]
  exact turn_terminator closes _

/-! ## Two cursors at the same place -/

/-- Two cursors stand in front of the same tokens that are kept.  Nothing has
been reported. -/
structure Abreast
    (cut : Cut) (row : List Token) (cursor twin : Cursor) : Prop where
  here : cursor.budget = row ++ cut.rest
  there : twin.budget = row ++ [cut.last]
  kept : row <:+ cut.kept
  lastEnd : twin.lastEnd = cursor.lastEnd
  openBlocks : twin.openBlocks = cursor.openBlocks
  lexical : cursor.lastLexical = none
  lexicalToo : twin.lastLexical = none
  silent : cursor.reported = []
  silentToo : twin.reported = []

/-- Two cursors stand in front of a line that is kept, with some blocks
open. -/
def AtLine (cut : Cut) (stack : List Opening) (cursor twin : Cursor) : Prop :=
  ∃ row, row ≠ [] ∧ cut.Opens stack row ∧ cut.Abreast row cursor twin

/-- At most one block is reported that is not open at the cut: the last line
may hold its keyword and be cut off. -/
def Extra (cut : Cut) (extra : List Opening) : Prop :=
  extra = [] ∨ ∃ opening before line, extra = [opening] ∧
    cut.kept = before ++ line ∧ OneLine line ∧ opening.keyword ∈ line ∧
      (cut.goal.map Opening.keyword).reverse.Sublist before

/-- The cursor has come to the end of what is kept.  What has been reported of
blocks and what has yet to be is what is open at the cut. -/
structure Spent (cut : Cut) (stack : List Opening) (twin : Cursor) : Prop where
  atEnd : twin.kind = .endOfText
  told : ∃ extra, cut.Extra extra ∧
    twin.unterminated.reverse ++ stack.map Opening.report =
      extra.map Opening.report ++ cut.goal.map Opening.report

/-- The cursor stands in the last line that is kept, and no block has been
reported. -/
structure InLastLine (cut : Cut) (twin : Cursor) : Prop where
  there : ∃ row, OneLine row ∧ twin.budget = row ++ [cut.last]
  silent : twin.unterminated = []

variable {cursor twin after twinAfter : Cursor}

theorem Abreast.ne_endOfText (abreast : cut.Abreast row cursor twin) :
    ∀ token ∈ row, token.kind ≠ .endOfText :=
  fun token member => cut.inside token (abreast.kept.subset member)

theorem Abreast.oneLine (abreast : cut.Abreast row cursor twin)
    (unbroken : ∀ token ∈ row, token.kind ≠ .newline) : OneLine row := by
  intro token member
  simp [Kind.endsLine, unbroken token member, abreast.ne_endOfText token member]

/-- The first line ends within what is kept, or it is the last. -/
theorem Abreast.cases_line (abreast : cut.Abreast row cursor twin) :
    OneLine row ∨ ∃ line newline more, row = line ++ newline :: more ∧
      OneLine line ∧ newline.kind = .newline := by
  by_cases broken : ∃ token ∈ row, token.kind = .newline
  · obtain ⟨token, member, breaks⟩ := broken
    obtain ⟨line, newline, more, rfl, breaks, unbroken⟩ :=
      exists_first_newline member breaks
    refine .inr ⟨line, newline, more, rfl, ?_, breaks⟩
    intro token member
    have inside := abreast.ne_endOfText token (by simp [member])
    simp [Kind.endsLine, unbroken token member, inside]
  · simp only [not_exists, not_and] at broken
    exact .inl (abreast.oneLine broken)

theorem Abreast.inLastLine
    (abreast : cut.Abreast row cursor twin) (oneLine : OneLine row) :
    cut.InLastLine twin where
  there := ⟨row, oneLine, abreast.there⟩
  silent := by
    rw [unterminated, abreast.silentToo]
    rfl

theorem Abreast.current (abreast : cut.Abreast (token :: row) cursor twin) :
    cursor.current = token ∧ twin.current = token :=
  ⟨current_of_budget abreast.here, current_of_budget abreast.there⟩

theorem Abreast.kind (abreast : cut.Abreast (token :: row) cursor twin) :
    cursor.kind = token.kind ∧ twin.kind = token.kind :=
  ⟨kind_of_budget abreast.here, kind_of_budget abreast.there⟩

theorem Abreast.kind_eq
    (abreast : cut.Abreast row cursor twin) (more : row ≠ []) :
    twin.kind = cursor.kind := by
  obtain ⟨token, row, rfl⟩ := List.exists_cons_of_ne_nil more
  rw [abreast.kind.1, abreast.kind.2]

/-- Where nothing is left, the second cursor stands on the end. -/
theorem Abreast.atEnd (abreast : cut.Abreast [] cursor twin) :
    twin.kind = .endOfText := by
  rw [kind_of_budget abreast.there, cut.ends]

theorem Abreast.next (abreast : cut.Abreast (token :: row) cursor twin) :
    cut.Abreast row cursor.next twin.next := by
  have inside := abreast.ne_endOfText token List.mem_cons_self
  refine ⟨budget_next_of_budget abreast.here inside,
    budget_next_of_budget abreast.there inside,
    (List.suffix_cons token row).trans abreast.kept, ?_, ?_, ?_, ?_, ?_, ?_⟩
  · rw [lastEnd_next, lastEnd_next, abreast.kind.1,
      abreast.kind.2, abreast.current.1, abreast.current.2, abreast.lastEnd]
  · rw [openBlocks_next, openBlocks_next, abreast.openBlocks]
  · rw [lastLexical_next, abreast.lexical]
  · rw [lastLexical_next, abreast.lexicalToo]
  · rw [reported_next, abreast.silent]
  · rw [reported_next, abreast.silentToo]

theorem Abreast.enter (abreast : cut.Abreast row cursor twin) (block : Block) :
    cut.Abreast row (cursor.enter block) (twin.enter block) :=
  { abreast with
    openBlocks := congrArg (List.cons block) abreast.openBlocks }

theorem Abreast.leave (abreast : cut.Abreast row cursor twin) :
    cut.Abreast row cursor.leave twin.leave :=
  { abreast with openBlocks := congrArg List.tail abreast.openBlocks }

theorem Abreast.spanFrom
    (abreast : cut.Abreast row cursor twin) (start : Position) :
    twin.spanFrom start = cursor.spanFrom start := by
  rw [Cursor.spanFrom, Cursor.spanFrom, abreast.lastEnd]

theorem AtLine.enter (atLine : cut.AtLine stack cursor twin) (block : Block) :
    cut.AtLine stack (cursor.enter block) (twin.enter block) := by
  obtain ⟨row, more, opens, abreast⟩ := atLine
  exact ⟨row, more, opens, abreast.enter block⟩

theorem AtLine.leave (atLine : cut.AtLine stack cursor twin) :
    cut.AtLine stack cursor.leave twin.leave := by
  obtain ⟨row, more, opens, abreast⟩ := atLine
  exact ⟨row, more, opens, abreast.leave⟩

theorem AtLine.spanFrom
    (atLine : cut.AtLine stack cursor twin) (start : Position) :
    twin.spanFrom start = cursor.spanFrom start := by
  obtain ⟨_, _, _, abreast⟩ := atLine
  exact abreast.spanFrom start

theorem AtLine.kind (atLine : cut.AtLine stack cursor twin) :
    twin.kind = cursor.kind := by
  obtain ⟨_, more, _, abreast⟩ := atLine
  exact abreast.kind_eq more

/-! ## The end of what is kept -/

theorem Spent.of_goal
    (atEnd : twin.kind = .endOfText) (silent : twin.unterminated = [])
    (goal : cut.goal = stack) : cut.Spent stack twin := by
  refine ⟨atEnd, [], .inl rfl, ?_⟩
  rw [silent, goal]
  rfl

/-- The keyword of a block stands in the last line, which is cut off. -/
theorem Spent.of_extra (opens : cut.Opens stack line) (oneLine : OneLine line)
    (within : opening.keyword ∈ line) (atEnd : twin.kind = .endOfText)
    (silent : twin.unterminated = []) (goal : cut.goal = stack) :
    cut.Spent (opening :: stack) twin := by
  obtain ⟨before, kept, sublist⟩ := opens.passed
  refine ⟨atEnd, [opening], .inr ⟨opening, before, line, rfl, kept, oneLine,
    within, goal ▸ sublist⟩, ?_⟩
  rw [silent, goal]
  rfl

theorem Spent.of_opening (opens : cut.Opens stack line) (oneLine : OneLine line)
    (plain : IsPlain line) (found : Opening.ofLine? line = some opening)
    (within : opening.keyword ∈ line) (atEnd : twin.kind = .endOfText)
    (silent : twin.unterminated = []) : cut.Spent (opening :: stack) twin := by
  cases closed : cut.closed with
  | true => exact .of_goal atEnd silent (opens.goal_push oneLine closed found)
  | false =>
    apply Spent.of_extra opens oneLine within atEnd silent
    exact opens.goal_of_cutOff oneLine plain closed

theorem Spent.enter (spent : cut.Spent stack twin) (block : Block) :
    cut.Spent stack (twin.enter block) :=
  ⟨spent.atEnd, spent.told⟩

theorem Spent.leave (spent : cut.Spent stack twin) :
    cut.Spent stack twin.leave :=
  ⟨spent.atEnd, spent.told⟩

theorem Spent.report (spent : cut.Spent (opening :: stack) twin) :
    cut.Spent stack (twin.report opening.report) := by
  obtain ⟨extra, isExtra, told⟩ := spent.told
  refine ⟨spent.atEnd, extra, isExtra, ?_⟩
  have more : (twin.report opening.report).unterminated =
      opening.report :: twin.unterminated := by
    rw [unterminated, reported_report]
    exact List.filter_cons_of_pos rfl
  rw [more, List.reverse_cons, List.append_assoc, ← told]
  rfl

theorem Abreast.spent
    (abreast : cut.Abreast [] cursor twin) (opens : cut.Opens stack []) :
    cut.Spent stack twin :=
  .of_goal abreast.atEnd (abreast.inLastLine (List.forall_mem_nil _)).silent
    opens.nil

/-! ## Outcomes -/

/-- What two runs come to: both give the same answer and stand in front of the
same line, or the second has come to the end of what is kept. -/
def Meets
    (cut : Cut) (stack : α → List Opening) (one other : α × Cursor) : Prop :=
  other.1 = one.1 ∧ cut.AtLine (stack one.1) one.2 other.2 ∨
    cut.Spent (stack other.1) other.2

theorem Meets.of_opens {value : α} {stack : α → List Opening}
    (opens : cut.Opens (stack value) row)
    (abreast : cut.Abreast row after twinAfter) :
    cut.Meets stack (value, after) (value, twinAfter) := by
  cases row with
  | nil => exact .inr (abreast.spent opens)
  | cons token row =>
    exact .inl ⟨rfl, _, List.cons_ne_nil _ _, opens, abreast⟩

end Cut

/-- Where the whole text is read without a report, two runs of the reader meet
with the given blocks open. -/
def Recovery.Tears (reader : Recovery α) (cut : Cut) (stack : α → List Opening)
    (cursor twin : Cursor) : Prop :=
  (reader.run cursor).2.reported = [] →
    cut.Meets stack (reader.run cursor) (reader.run twin)

/-- At the end of what is kept, the reader leaves the given blocks to be
reported. -/
def Recovery.Unwinds
    (reader : Recovery α) (cut : Cut) (stack : α → List Opening)
    (twin : Cursor) : Prop :=
  reader.Ends twin fun value last => cut.Spent (stack value) last

/-- A reader has failed in the last line that is kept, which opens
nothing. -/
structure Cut.Breaks
    (cut : Cut) (stack : List Opening) (diagnostic : Diagnostic)
    (twin : Cursor) : Prop where
  inLastLine : cut.InLastLine twin
  other : diagnostic.cause.isUnterminated = false
  goal : cut.goal = stack

/-- The same for a reader that may fail.  It does not in the whole text. -/
def Reader.Tears (reader : Reader α) (cut : Cut) (stack : α → List Opening)
    (refused : Diagnostic → Cursor → Prop) (cursor twin : Cursor) : Prop :=
  ∀ value after, reader.run.run cursor = (.ok value, after) →
    after.reported = [] →
      reader.Ends twin
        (fun found last => cut.Meets stack (value, after) (found, last)) refused

def Reader.Unwinds (reader : Reader α) (cut : Cut) (stack : α → List Opening)
    (twin : Cursor) : Prop :=
  reader.Ends twin (fun value last => cut.Spent (stack value) last)
    fun _ _ => False

end PapyrusScript
