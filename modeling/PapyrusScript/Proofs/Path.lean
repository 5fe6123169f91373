import PapyrusScript.Proofs.Outcome

/-!
# How the cursor moves, and its path

The cursor passes one token at a time and stays on the first end of the text.
Only `next` moves it: reports and blocks leave it where it is.

Whatever a reader does, the cursor only makes six sorts of move.  A path is a
sequence of moves together with the tokens passed on it, in order.  A lexical
error is reported on a path in exactly two ways: when its token is rejected,
and when it is discarded without having been reported before.

Readers are then described by the paths on which they take the cursor:

* `Travels` says that there is a path, that as many blocks are open at its end
  as at its start, and that a diagnostic blames the token it stopped at;
* `Advances` says in addition that a value is only returned after a token has
  been passed;
* `Proceeds` says of the step of a loop that the loop is only continued after
  a token has been passed.
-/

namespace PapyrusScript

namespace Cursor

variable (cursor : Cursor)

/-- Nothing but the end of the text is added behind a row. -/
theorem kind_of_mem_missingEnd {tokens : List Token} {token : Token}
    (member : token ∈ missingEnd tokens) : token.kind = .endOfText := by
  unfold missingEnd at member
  split at member
  · rw [List.mem_singleton.1 member]
    rfl
  · split at member
    · cases member
    · rw [List.mem_singleton.1 member]
      rfl

/-- A token that is no end of the text stands in front of the one that is
added. -/
theorem exists_of_missingEnd {tokens before after : List Token} {token : Token}
    (row : tokens ++ missingEnd tokens = before ++ token :: after)
    (inside : token.kind ≠ .endOfText) :
    ∃ rest, tokens = before ++ token :: rest := by
  have outside (more : List Token) :
      missingEnd tokens ≠ more ++ token :: after := by
    intro same
    have member : token ∈ missingEnd tokens := by simp [same]
    exact inside (kind_of_mem_missingEnd member)
  rcases List.append_eq_append_iff.1 row with ⟨more, _, same⟩ |
    ⟨more, shape, same⟩
  · exact absurd same (outside more)
  · cases more with
    | nil => exact absurd same.symm (outside [])
    | cons first rest =>
      obtain ⟨rfl, -⟩ := List.cons.inj same
      exact ⟨rest, shape⟩

theorem budget_start (tokens : List Token) :
    (start tokens).budget = tokens ++ missingEnd tokens := by
  unfold start
  split
  · rename_i whole
    obtain ⟨token, member, _⟩ := hasEnd_missingEnd tokens
    simp [whole] at member
  · rename_i first rest whole
    exact whole.symm

@[simp]
theorem openBlocks_start (tokens : List Token) :
    (start tokens).openBlocks = [] := by
  unfold start
  split <;> rfl

@[simp]
theorem lastLexical_start (tokens : List Token) :
    (start tokens).lastLexical = none := by
  unfold start
  split <;> rfl

@[simp]
theorem reported_start (tokens : List Token) :
    (start tokens).reported = [] := by
  unfold start
  split <;> rfl

/-- The first token starts where the cursor has come to. -/
theorem lastEnd_start_eq (tokens : List Token) :
    (start tokens).lastEnd = (start tokens).current.span.start := by
  unfold start
  split <;> rfl

/-! ## Passing a token -/

variable {cursor}

theorem ahead_ne_nil (inside : cursor.kind ≠ .endOfText) :
    cursor.ahead ≠ [] := by
  obtain ⟨token, member, _⟩ := cursor.ended.tail inside
  exact List.ne_nil_of_mem member

/-- Inside the text the cursor moves on to the next token. -/
theorem budget_eq_cons_next (inside : cursor.kind ≠ .endOfText) :
    cursor.budget = cursor.current :: cursor.next.budget := by
  unfold next
  simp only [dif_pos (show cursor.current.kind ≠ .endOfText from inside)]
  split
  · rename_i nothing
    exact absurd nothing (ahead_ne_nil inside)
  · rename_i following rest more
    simp [budget, more]

theorem budget_next_of_endOfText (atEnd : cursor.kind = .endOfText) :
    cursor.next.budget = cursor.budget := by
  have outside : ¬ cursor.current.kind ≠ .endOfText :=
    fun inside => inside atEnd
  unfold next
  simp only [dif_neg outside]
  rfl

variable (cursor)

@[simp]
theorem openBlocks_next : cursor.next.openBlocks = cursor.openBlocks := by
  unfold next
  dsimp only
  split
  · split <;> rfl
  · rfl

@[simp]
theorem lastLexical_next : cursor.next.lastLexical = cursor.lastLexical := by
  unfold next
  dsimp only
  split
  · split <;> rfl
  · rfl

@[simp]
theorem reported_next : cursor.next.reported = cursor.reported := by
  unfold next
  dsimp only
  split
  · split <;> rfl
  · rfl

theorem lastEnd_next :
    cursor.next.lastEnd =
      if cursor.kind = .newline then
        cursor.lastEnd
      else
        cursor.current.span.stop := by
  unfold next
  dsimp only
  split
  · split <;> rfl
  · rfl

variable {cursor}

theorem kindAt_next (inside : cursor.kind ≠ .endOfText) (distance : Nat) :
    cursor.next.kindAt distance = cursor.kindAt (distance + 1) := by
  have shape := budget_eq_cons_next inside
  simp only [budget, List.cons.injEq, true_and] at shape
  cases distance with
  | zero => simp [kindAt, shape]
  | succ distance => simp [kindAt, shape]

theorem kind_next (inside : cursor.kind ≠ .endOfText) :
    cursor.next.kind = cursor.kindAt 1 :=
  kindAt_next inside 0

/-! ## Reports and blocks -/

variable (cursor) (diagnostic : Diagnostic) (block : Block)

@[simp]
theorem budget_report : (cursor.report diagnostic).budget = cursor.budget := rfl

@[simp]
theorem current_report : (cursor.report diagnostic).current = cursor.current :=
  rfl

@[simp]
theorem kind_report : (cursor.report diagnostic).kind = cursor.kind := rfl

@[simp]
theorem position_report :
    (cursor.report diagnostic).position = cursor.position :=
  rfl

@[simp]
theorem openBlocks_report :
    (cursor.report diagnostic).openBlocks = cursor.openBlocks :=
  rfl

@[simp]
theorem reported_report :
    (cursor.report diagnostic).reported = diagnostic :: cursor.reported :=
  rfl

@[simp]
theorem budget_enter : (cursor.enter block).budget = cursor.budget := rfl

@[simp]
theorem budget_leave : cursor.leave.budget = cursor.budget := rfl

@[simp]
theorem openBlocks_enter :
    (cursor.enter block).openBlocks = block :: cursor.openBlocks :=
  rfl

@[simp]
theorem openBlocks_leave : cursor.leave.openBlocks = cursor.openBlocks.tail :=
  rfl

end Cursor

/-! ## The path of the cursor -/

section Paths

variable {α β : Type}
variable {kind : Kind}

/-! ## Sorts of errors

Blocks that are left open and second headers are found between lines, and by
their own readers alone.  What is said of a path is said of the reports of one
sort, too: on the paths within a line, and on those on which lines are
discarded, none of a sort between lines is reported. -/

namespace Cause

/-- Whether the error is found between lines. -/
def isOuter : Cause → Bool
  | .unterminated _ _ _ => true
  | .duplicateHeader => true
  | _ => false

/-- Whether the error is found within a line, though not by the lexer. -/
def isInner (cause : Cause) : Bool := !cause.isLexical && !cause.isOuter

/-- The sort that no error is of. -/
def isNone : Cause → Bool := fun _ => false

/-- A sort of errors that are found between lines only. -/
class Outer (sort : Cause → Bool) : Prop where
  isOuter {cause : Cause} : sort cause = true → cause.isOuter = true

/-- Where nothing is said of the reports, nothing is asked of them. -/
@[default_instance]
instance : Outer isNone where
  isOuter := nofun

theorem Outer.spares {sort : Cause → Bool}
    [Outer sort] {cause : Cause} (within : cause.isOuter = false) :
    sort cause = false := by
  refine Bool.eq_false_iff.2 fun isSort => ?_
  rw [Outer.isOuter isSort] at within
  cases within

theorem isLexical_of_isInner {cause : Cause} (inner : cause.isInner = true) :
    cause.isLexical = false := by
  simp only [isInner, Bool.and_eq_true, Bool.not_eq_true'] at inner
  exact inner.1

theorem Outer.spares_isInner {sort : Cause → Bool}
    [Outer sort] {cause : Cause} (inner : cause.isInner = true) :
    sort cause = false := by
  simp only [isInner, Bool.and_eq_true, Bool.not_eq_true'] at inner
  exact Outer.spares inner.2

end Cause

/-- Whether a token of the kind may simply be passed: it is neither invalid
nor an end of the text. -/
def Kind.isOrdinary (kind : Kind) : Bool := kind ≠ .endOfText && !kind.isInvalid

theorem Kind.ne_endOfText_of_isOrdinary (ordinary : kind.isOrdinary = true) :
    kind ≠ .endOfText := by
  intro equal
  subst equal
  cases ordinary

theorem Kind.ne_endOfText_of_isInvalid (invalid : kind.isInvalid = true) :
    kind ≠ .endOfText := by
  intro equal
  subst equal
  cases invalid

theorem Kind.isOrdinary_of_not_isInvalid
    (inside : kind ≠ .endOfText) (valid : ¬ kind.isInvalid = true) :
    kind.isOrdinary = true := by
  simp [isOrdinary, inside, valid]

theorem Kind.exists_of_isInvalid (invalid : kind.isInvalid = true) :
    ∃ error, kind = .invalid error := by
  cases kind with
  | invalid error => exact ⟨error, rfl⟩
  | _ => cases invalid

/-- The lexical error of an invalid token. -/
def Token.lexicalReport (token : Token) : Diagnostic :=
  Diagnostic.unexpected token ""

theorem Diagnostic.unexpected_of_isInvalid
    {token : Token} (invalid : token.kind.isInvalid = true)
    (expected : String) :
    Diagnostic.unexpected token expected = token.lexicalReport := by
  unfold Token.lexicalReport Diagnostic.unexpected
  split
  · rfl
  · rename_i valid
    cases found : token.kind with
    | invalid error => exact absurd found (valid error)
    | _ => simp [found, Kind.isInvalid] at invalid

theorem Diagnostic.isLexical_unexpected (token : Token) (expected : String) :
    (Diagnostic.unexpected token expected).cause.isLexical =
      token.kind.isInvalid := by
  unfold Diagnostic.unexpected
  split
  · rename_i error found
    rw [found]
    rfl
  · rename_i valid
    cases found : token.kind with
    | invalid error => exact absurd found (valid error)
    | _ => rfl

theorem Diagnostic.isOuter_unexpected (token : Token) (expected : String) :
    (Diagnostic.unexpected token expected).cause.isOuter = false := by
  unfold Diagnostic.unexpected
  split <;> rfl

@[simp]
theorem Diagnostic.position_unexpected (token : Token) (expected : String) :
    (Diagnostic.unexpected token expected).position = token.span.start := by
  unfold Diagnostic.unexpected
  split <;> rfl

theorem Token.isLexical_lexicalReport
    {token : Token} (invalid : token.kind.isInvalid = true) :
    token.lexicalReport.cause.isLexical = true := by
  rw [Token.lexicalReport, Diagnostic.isLexical_unexpected]
  exact invalid

namespace Cursor

variable {passed : List Token} {diagnostic : Diagnostic}
variable {sort : Cause → Bool}

/-- The reports of one sort, the newest first. -/
def reportsOf (cursor : Cursor) (sort : Cause → Bool) : List Diagnostic :=
  cursor.reported.filter fun diagnostic => sort diagnostic.cause

theorem reportsOf_next (cursor : Cursor) (sort : Cause → Bool) :
    cursor.next.reportsOf sort = cursor.reportsOf sort := by
  rw [reportsOf, reportsOf, reported_next]

@[simp]
theorem reportsOf_isNone (cursor : Cursor) :
    cursor.reportsOf Cause.isNone = [] :=
  List.filter_eq_nil_iff.2 fun _ _ => Bool.false_ne_true

theorem reportsOf_report
    (cursor : Cursor) (other : sort diagnostic.cause = false) :
    (cursor.report diagnostic).reportsOf sort = cursor.reportsOf sort := by
  rw [reportsOf, reported_report, List.filter_cons_of_neg (by simp [other])]
  rfl

theorem reportsOf_report_of_sort
    (cursor : Cursor) (isSort : sort diagnostic.cause = true) :
    (cursor.report diagnostic).reportsOf sort =
      diagnostic :: cursor.reportsOf sort := by
  rw [reportsOf, reported_report]
  exact List.filter_cons_of_pos isSort

/-- The cursor after discarding a token.  An invalid one is reported unless
it was the last to be. -/
def discard (cursor : Cursor) : Cursor :=
  if cursor.kind.isInvalid && cursor.lastLexical ≠ some cursor.position then
    cursor.next.report cursor.current.lexicalReport
  else
    cursor.next

theorem lastLexical_report
    (lexical : diagnostic.cause.isLexical = true) (cursor : Cursor) :
    (cursor.report diagnostic).lastLexical = some diagnostic.position := by
  simp [report, lexical]

theorem lastLexical_report_lexicalReport
    {cursor : Cursor} (invalid : cursor.kind.isInvalid = true) :
    (cursor.report cursor.current.lexicalReport).lastLexical =
      some cursor.position := by
  rw [lastLexical_report (Token.isLexical_lexicalReport invalid)]
  exact congrArg some (Diagnostic.position_unexpected _ _)

/-- One move of the cursor, and the tokens passed by it. -/
inductive Move : Cursor → List Token → Cursor → Prop
  | pass (cursor : Cursor) (ordinary : cursor.kind.isOrdinary = true) :
      Move cursor [cursor.current] cursor.next
  | discard (cursor : Cursor) (invalid : cursor.kind.isInvalid = true) :
      Move cursor [cursor.current] cursor.discard
  | reject (cursor : Cursor) (invalid : cursor.kind.isInvalid = true) :
      Move cursor [cursor.current]
        (cursor.report cursor.current.lexicalReport).next
  | report (cursor : Cursor) (diagnostic : Diagnostic)
      (syntactic : diagnostic.cause.isLexical = false) :
      Move cursor [] (cursor.report diagnostic)
  | enter (cursor : Cursor) (block : Block) :
      Move cursor [] (cursor.enter block)
  | leave (cursor : Cursor) : Move cursor [] cursor.leave

/-- A sequence of moves, and the tokens passed on it. -/
inductive Path (source : Cursor) : List Token → Cursor → Prop
  | stay : Path source [] source
  | step {passed more : List Token} {middle target : Cursor}
      (path : Path source passed middle) (move : Move middle more target) :
      Path source (passed ++ more) target

theorem Path.single
    {source target : Cursor} (move : Move source passed target) :
    Path source passed target := by
  simpa using Path.stay.step move

theorem Path.trans {source middle target : Cursor} {first second : List Token}
    (path : Path source first middle) (further : Path middle second target) :
    Path source (first ++ second) target := by
  induction further with
  | stay => simpa using path
  | step _ move ih =>
    simpa [List.append_assoc] using ih.step move

@[simp]
theorem budget_discard (cursor : Cursor) :
    cursor.discard.budget = cursor.next.budget := by
  unfold discard
  split <;> rfl

theorem lastEnd_discard (cursor : Cursor) :
    cursor.discard.lastEnd = cursor.next.lastEnd := by
  unfold discard
  split <;> rfl

@[simp]
theorem openBlocks_discard (cursor : Cursor) :
    cursor.discard.openBlocks = cursor.openBlocks := by
  unfold discard
  split <;> simp

theorem reportsOf_discard [Cause.Outer sort] (cursor : Cursor) :
    cursor.discard.reportsOf sort = cursor.reportsOf sort := by
  unfold discard
  split
  · have other : sort cursor.current.lexicalReport.cause = false :=
      Cause.Outer.spares (Diagnostic.isOuter_unexpected _ _)
    rw [reportsOf_report _ other, reportsOf_next]
  · exact cursor.reportsOf_next sort

/-- A move takes back no report. -/
theorem Move.reported_suffix
    {source target : Cursor} (move : Move source passed target) :
    source.reported <:+ target.reported := by
  cases move with
  | pass => simp only [reported_next, List.suffix_rfl]
  | discard =>
    unfold Cursor.discard
    split
    · rw [reported_report, reported_next]
      exact List.suffix_cons _ _
    · simp only [reported_next, List.suffix_rfl]
  | reject =>
    rw [reported_next, reported_report]
    exact List.suffix_cons _ _
  | report => exact List.suffix_cons _ _
  | enter => exact List.suffix_refl _
  | leave => exact List.suffix_refl _

theorem Path.reported_suffix
    {source target : Cursor} (path : Path source passed target) :
    source.reported <:+ target.reported := by
  induction path with
  | stay => exact List.suffix_refl _
  | step _ move ih =>
    exact ih.trans move.reported_suffix

/-- A move passes the tokens in front of the cursor and no end of the
text. -/
theorem Move.budget_eq
    {source target : Cursor} (move : Move source passed target) :
    source.budget = passed ++ target.budget ∧
      ∀ token ∈ passed, token.kind ≠ .endOfText := by
  cases move with
  | pass ordinary =>
    have inside := Kind.ne_endOfText_of_isOrdinary ordinary
    exact ⟨budget_eq_cons_next inside, List.forall_mem_singleton.2 inside⟩
  | discard invalid =>
    have inside := Kind.ne_endOfText_of_isInvalid invalid
    rw [budget_discard]
    exact ⟨budget_eq_cons_next inside, List.forall_mem_singleton.2 inside⟩
  | reject invalid =>
    have inside := Kind.ne_endOfText_of_isInvalid invalid
    refine ⟨?_, List.forall_mem_singleton.2 inside⟩
    have reported : (source.report source.current.lexicalReport).kind ≠
        .endOfText := inside
    simpa using budget_eq_cons_next reported
  | report => exact ⟨rfl, by simp⟩
  | enter => exact ⟨rfl, by simp⟩
  | leave => exact ⟨rfl, by simp⟩

/-- A path passes the tokens between its ends, none of which ends the text. -/
theorem Path.budget_eq
    {source target : Cursor} (path : Path source passed target) :
    source.budget = passed ++ target.budget ∧
      ∀ token ∈ passed, token.kind ≠ .endOfText := by
  induction path with
  | stay => exact ⟨rfl, by simp⟩
  | step _ move ih =>
    obtain ⟨before, inside⟩ := ih
    obtain ⟨after, insideAfter⟩ := move.budget_eq
    constructor
    · rw [before, after, List.append_assoc]
    · intro token member
      rcases List.mem_append.1 member with earlier | later
      · exact inside token earlier
      · exact insideAfter token later

/-! ## Reaching a cursor -/

/-- There is a path from one cursor to another, the same blocks are open at
both, and no error of the sort is reported on the way.  Where no sort is named,
nothing is said of the reports. -/
structure Reaches (source target : Cursor)
    (sort : Cause → Bool := Cause.isNone) : Prop where
  path : ∃ passed, Path source passed target
  openBlocks : target.openBlocks = source.openBlocks
  reportsOf : target.reportsOf sort = source.reportsOf sort

def Precedes (source target : Cursor) : Prop :=
  target.budget.length < source.budget.length

variable {source middle target : Cursor}

theorem Reaches.refl (cursor : Cursor) : cursor.Reaches cursor sort :=
  ⟨⟨[], .stay⟩, rfl, rfl⟩

theorem Reaches.trans (first : source.Reaches middle sort)
    (second : middle.Reaches target sort) : source.Reaches target sort := by
  obtain ⟨⟨passed, path⟩, blocks, reports⟩ := first
  obtain ⟨⟨more, further⟩, moreBlocks, moreReports⟩ := second
  exact ⟨⟨passed ++ more, path.trans further⟩, moreBlocks.trans blocks,
    moreReports.trans reports⟩

theorem Reaches.of_move (move : Move source passed target)
    (blocks : target.openBlocks = source.openBlocks)
    (reports : target.reportsOf sort = source.reportsOf sort) :
    source.Reaches target sort :=
  ⟨⟨passed, .single move⟩, blocks, reports⟩

/-- What is reached is reached, whatever is reported on the way. -/
theorem Reaches.unsorted (reaches : source.Reaches target sort) :
    source.Reaches target :=
  ⟨reaches.path, reaches.openBlocks, by simp⟩

theorem reaches_next (ordinary : source.kind.isOrdinary = true) :
    source.Reaches source.next sort :=
  .of_move (.pass source ordinary) (openBlocks_next source)
    (reportsOf_next source sort)

theorem reaches_report (syntactic : diagnostic.cause.isLexical = false)
    (other : sort diagnostic.cause = false) :
    source.Reaches (source.report diagnostic) sort :=
  .of_move (.report source diagnostic syntactic) rfl
    (reportsOf_report source other)

theorem reaches_discard
    [Cause.Outer sort] (inside : source.kind ≠ .endOfText) :
    source.Reaches source.discard sort := by
  by_cases invalid : source.kind.isInvalid = true
  · exact .of_move (.discard source invalid) (openBlocks_discard source)
      (reportsOf_discard source)
  · have same : source.discard = source.next := by
      simp [discard, invalid]
    rw [same]
    exact reaches_next (Kind.isOrdinary_of_not_isInvalid inside invalid)

theorem Reaches.inBlock
    {block : Block} (inside : (source.enter block).Reaches target sort) :
    source.Reaches target.leave sort := by
  obtain ⟨⟨passed, path⟩, blocks, reports⟩ := inside
  refine ⟨⟨_, (Path.single (.enter source block)).trans
    (path.step (.leave target))⟩, ?_, reports⟩
  simp [blocks]

theorem Reaches.reported_suffix (reaches : source.Reaches target sort) :
    source.reported <:+ target.reported := by
  obtain ⟨_, path⟩ := reaches.path
  exact path.reported_suffix

theorem Reaches.length_le (reaches : source.Reaches target sort) :
    target.budget.length ≤ source.budget.length := by
  obtain ⟨passed, path⟩ := reaches.path
  simp [path.budget_eq.1]

theorem Precedes.trans_reaches
    (before : source.Precedes middle) (reaches : middle.Reaches target sort) :
    source.Precedes target :=
  Nat.lt_of_le_of_lt reaches.length_le before

theorem Reaches.trans_precedes
    (reaches : source.Reaches middle sort) (before : middle.Precedes target) :
    source.Precedes target :=
  Nat.lt_of_lt_of_le before reaches.length_le

theorem precedes_next (inside : source.kind ≠ .endOfText) :
    source.Precedes source.next := by
  unfold Precedes
  rw [budget_eq_cons_next inside]
  simp

theorem precedes_discard (inside : source.kind ≠ .endOfText) :
    source.Precedes source.discard := by
  unfold Precedes
  rw [budget_discard]
  exact precedes_next inside

/-- A cursor that has passed a token stands behind the first one. -/
theorem Reaches.exists_between
    (reaches : source.Reaches target sort) (before : source.Precedes target) :
    ∃ between,
      source.budget = source.current :: (between ++ target.budget) := by
  obtain ⟨passed, path⟩ := reaches.path
  have shape := path.budget_eq.1
  cases passed with
  | nil => exact absurd before (by simp [Precedes, shape])
  | cons first between =>
    obtain rfl : source.current = first := (List.cons.inj shape).1
    exact ⟨between, shape⟩

theorem Reaches.kind_eq
    (reaches : source.Reaches target sort) (unmoved : ¬ source.Precedes target) :
    target.kind = source.kind := by
  obtain ⟨passed, path⟩ := reaches.path
  have shape := path.budget_eq.1
  have nothing : passed = [] := by
    apply List.eq_nil_of_length_eq_zero
    simp only [Precedes, shape, List.length_append] at unmoved
    omega
  rw [nothing] at shape
  exact congrArg Token.kind (List.cons.inj shape).1.symm

/-- A diagnostic blames a cursor for a lexical error only if it is the error
of the current token.  It is no error of the sort. -/
structure Blames (diagnostic : Diagnostic) (cursor : Cursor)
    (sort : Cause → Bool := Cause.isNone) : Prop where
  lexical : diagnostic.cause.isLexical = true →
    cursor.kind.isInvalid = true ∧ diagnostic = cursor.current.lexicalReport
  other : sort diagnostic.cause = false

theorem blames_unexpected
    [Cause.Outer sort] (cursor : Cursor) (expected : String) :
    Blames (Diagnostic.unexpected cursor.current expected) cursor sort where
  lexical lexical := by
    rw [Diagnostic.isLexical_unexpected] at lexical
    exact ⟨lexical, Diagnostic.unexpected_of_isInvalid lexical expected⟩
  other := Cause.Outer.spares (Diagnostic.isOuter_unexpected _ _)

theorem blames_of_syntactic (cursor : Cursor)
    (syntactic : diagnostic.cause.isLexical = false)
    (other : sort diagnostic.cause = false) :
    Blames diagnostic cursor sort where
  lexical lexical := by
    rw [syntactic] at lexical
    cases lexical
  other := other

theorem blames_of_isInner [Cause.Outer sort]
    (cursor : Cursor) (inner : diagnostic.cause.isInner = true) :
    Blames diagnostic cursor sort :=
  blames_of_syntactic cursor (Cause.isLexical_of_isInner inner)
    (Cause.Outer.spares_isInner inner)

end Cursor

end Paths

end PapyrusScript
