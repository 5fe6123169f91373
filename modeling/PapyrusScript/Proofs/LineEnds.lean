import PapyrusScript.Proofs.Beside
import PapyrusScript.Proofs.Isolation.Body

/-!
# Two texts whose lines end differently

The same lines may be written down with other line breaks, and the last line
with a line break or without one.  Then the tokens of the two texts are the
same but for their ends of lines, and perhaps for what their documentation
comments say.  `Wording.Rows` relates such tokens, and `Wording.Abreast` the
cursors of two runs of the parser that have come to the same place.

Where a line break and the end of the text face each other, the line ends in
both texts.  What starts at such a place is decided by other kinds, so both
runs decide the same.
-/

namespace PapyrusScript

/-- Whether a token of the kind is the same in both texts: it ends no line and
is neither a comment nor invalid. -/
def Kind.isFixed (kind : Kind) : Bool :=
  !(kind.endsLine || kind.isInvalid || kind = .docComment)

theorem Kind.endsLine_of_isFixed {kind : Kind} (fixed : kind.isFixed = true) :
    kind.endsLine = false := by
  cases kind <;> first | rfl | cases fixed

theorem Kind.isInvalid_of_isFixed {kind : Kind} (fixed : kind.isFixed = true) :
    kind.isInvalid = false := by
  cases kind <;> first | rfl | cases fixed

theorem Cursor.isFixed_of_kind
    {cursor : Cursor} {kind : Kind} (found : cursor.kind = kind)
    (fixed : kind.isFixed = true) : cursor.kind.isFixed = true :=
  found ▸ fixed

/-- What is compared of the documentation comments of two texts. -/
structure Wording where
  here : String → String
  there : String → String

namespace Wording

def swap (wording : Wording) : Wording := ⟨wording.there, wording.here⟩

variable (wording : Wording)

/-- Two tokens are of the same kind.  Tokens that the ends of lines do not
touch are the same, and comments stand at the same place. -/
structure Pairs (token twin : Token) : Prop where
  kind : twin.kind = token.kind
  same : token.kind.isFixed = true → twin = token
  span : token.kind = .docComment → twin.span = token.span
  doc : token.kind = .docComment →
    wording.there twin.text = wording.here token.text

/-- Two rows of tokens that stand for each other.  The last line of only one
of them may end with a line break. -/
inductive Rows : List Token → List Token → Prop where
  | nil : Rows [] []
  | cons
      {token twin : Token} {row twinRow : List Token}
      (pair : wording.Pairs token twin) (rows : Rows row twinRow) :
      Rows (token :: row) (twin :: twinRow)
  | breakHere
      {newline last twinLast : Token} (breaks : newline.kind = .newline)
      (ends : last.kind = .endOfText) (twinEnds : twinLast.kind = .endOfText) :
      Rows [newline, last] [twinLast]
  | breakThere
      {newline last twinLast : Token} (breaks : newline.kind = .newline)
      (ends : last.kind = .endOfText) (twinEnds : twinLast.kind = .endOfText) :
      Rows [last] [newline, twinLast]

/-- Two cursors stand at the same place of two texts.  Something has been
reported of both texts so far or of neither. -/
structure Abreast (cursor twin : Cursor) : Prop where
  rows : wording.Rows cursor.budget twin.budget
  lastEnd : twin.lastEnd = cursor.lastEnd
  openBlocks : twin.openBlocks = cursor.openBlocks
  reported : twin.reported = [] ↔ cursor.reported = []

def Keeps {α : Type} (alike : α → α → Prop) (value other : α)
    (after twinAfter : Cursor) : Prop :=
  alike value other ∧ wording.Abreast after twinAfter

/-- Two values are the same once the comments in them have been compared. -/
def Alike
    {α β : Type} (reworded : (String → String) → α → β) (value other : α) :
    Prop :=
  reworded wording.there other = reworded wording.here value

variable {wording} {token twin : Token} {row twinRow : List Token}

theorem Pairs.swap (pair : wording.Pairs token twin) :
    wording.swap.Pairs twin token where
  kind := pair.kind.symm
  same fixed := (pair.same (pair.kind ▸ fixed)).symm
  span documented := (pair.span (pair.kind ▸ documented)).symm
  doc documented := (pair.doc (pair.kind ▸ documented)).symm

theorem Pairs.of_not_isFixed
    (same : twin.kind = token.kind) (loose : token.kind.isFixed = false)
    (undocumented : token.kind ≠ .docComment) : wording.Pairs token twin where
  kind := same
  same fixed := absurd fixed (by simp [loose])
  span documented := absurd documented undocumented
  doc documented := absurd documented undocumented

theorem Rows.swap (rows : wording.Rows row twinRow) :
    wording.swap.Rows twinRow row := by
  induction rows with
  | nil => exact .nil
  | cons pair _ ih => exact .cons pair.swap ih
  | breakHere breaks ends twinEnds => exact .breakThere breaks twinEnds ends
  | breakThere breaks ends twinEnds => exact .breakHere breaks twinEnds ends

/-- Both rows show the same kind at a distance, if it ends no line. -/
theorem Rows.kindAt_iff (rows : wording.Rows row twinRow) {kind : Kind}
    (inLine : kind.endsLine = false) (distance : Nat) :
    (twinRow[distance]?.map Token.kind).getD .endOfText = kind ↔
      (row[distance]?.map Token.kind).getD .endOfText = kind := by
  have noBreak : Kind.newline ≠ kind := by
    rintro rfl
    cases inLine
  have noEnd : Kind.endOfText ≠ kind := by
    rintro rfl
    cases inLine
  induction rows generalizing distance with
  | nil => exact Iff.rfl
  | cons pair _ ih =>
    cases distance with
    | zero => simp [pair.kind]
    | succ distance => simpa using ih distance
  | breakHere breaks ends twinEnds =>
    rcases distance with _ | _ | distance <;>
      simp [breaks, ends, twinEnds, noBreak, noEnd]
  | breakThere breaks ends twinEnds =>
    rcases distance with _ | _ | distance <;>
      simp [breaks, ends, twinEnds, noBreak, noEnd]

theorem Rows.head (rows : wording.Rows (token :: row) (twin :: twinRow))
    (inLine : token.kind.endsLine = false) : wording.Pairs token twin := by
  cases rows with
  | cons pair _ => exact pair
  | breakHere breaks _ _ =>
    rw [breaks] at inLine
    cases inLine
  | breakThere _ ends _ =>
    rw [ends] at inLine
    cases inLine

theorem Rows.tail (rows : wording.Rows (token :: row) (twin :: twinRow))
    (same : twin.kind = token.kind) : wording.Rows row twinRow := by
  cases rows with
  | cons _ rows => exact rows
  | breakHere breaks _ twinEnds =>
    rw [breaks, twinEnds] at same
    cases same
  | breakThere breaks ends _ =>
    rw [breaks, ends] at same
    cases same

/-- A last line break of only one of the texts may be left out. -/
theorem Rows.drop_break (rows : wording.Rows (token :: row) (twin :: twinRow))
    (breaks : token.kind = .newline) (twinEnds : twin.kind = .endOfText) :
    wording.Rows row (twin :: twinRow) := by
  cases rows with
  | cons pair _ =>
    have same := pair.kind
    rw [breaks, twinEnds] at same
    cases same
  | breakHere _ ends _ =>
    refine .cons (.of_not_isFixed (twinEnds.trans ends.symm) ?_ ?_) .nil
    · rw [ends]
      rfl
    · rw [ends]
      nofun
  | breakThere _ ends _ =>
    rw [breaks] at ends
    cases ends

namespace Abreast

open Cursor

variable {cursor twin : Cursor} (abreast : wording.Abreast cursor twin)

include abreast

theorem swap : wording.swap.Abreast twin cursor where
  rows := abreast.rows.swap
  lastEnd := abreast.lastEnd.symm
  openBlocks := abreast.openBlocks.symm
  reported := abreast.reported.symm

/-- The tokens at both cursors stand for each other, or both end the last
line. -/
theorem cases :
    wording.Pairs cursor.current twin.current ∨
      cursor.kind = .newline ∧ twin.kind = .endOfText ∨
        cursor.kind = .endOfText ∧ twin.kind = .newline := by
  have rows := abreast.rows
  generalize here : cursor.budget = row, there : twin.budget = twinRow at rows
  cases rows with
  | nil => cases here
  | cons pair _ =>
    rw [current_of_budget here, current_of_budget there]
    exact .inl pair
  | breakHere breaks _ twinEnds =>
    rw [kind_of_budget here, kind_of_budget there]
    exact .inr (.inl ⟨breaks, twinEnds⟩)
  | breakThere breaks ends _ =>
    rw [kind_of_budget here, kind_of_budget there]
    exact .inr (.inr ⟨ends, breaks⟩)

theorem kinds :
    twin.kind = cursor.kind ∨
      cursor.kind = .newline ∧ twin.kind = .endOfText ∨
        cursor.kind = .endOfText ∧ twin.kind = .newline :=
  abreast.cases.imp_left Pairs.kind

theorem kindAt_iff
    {kind : Kind} (inLine : kind.endsLine = false) (distance : Nat) :
    twin.kindAt distance = kind ↔ cursor.kindAt distance = kind := by
  rw [kindAt_eq, kindAt_eq]
  exact abreast.rows.kindAt_iff inLine distance

theorem kind_iff {kind : Kind} (inLine : kind.endsLine = false) :
    twin.kind = kind ↔ cursor.kind = kind :=
  abreast.kindAt_iff inLine 0

theorem endsLine : twin.kind.endsLine = cursor.kind.endsLine := by
  rcases abreast.kinds with same | ⟨here, there⟩ | ⟨here, there⟩
  · rw [same]
  all_goals
    rw [here, there]
    rfl

theorem isFixed : twin.kind.isFixed = cursor.kind.isFixed := by
  rcases abreast.kinds with same | ⟨here, there⟩ | ⟨here, there⟩
  · rw [same]
  all_goals
    rw [here, there]
    rfl

theorem pairs (inLine : cursor.kind.endsLine = false) :
    wording.Pairs cursor.current twin.current := by
  rcases abreast.cases with pair | ⟨here, _⟩ | ⟨here, _⟩
  · exact pair
  all_goals
    rw [here] at inLine
    cases inLine

theorem kind (inLine : cursor.kind.endsLine = false) :
    twin.kind = cursor.kind :=
  (abreast.pairs inLine).kind

theorem current (fixed : cursor.kind.isFixed = true) :
    twin.current = cursor.current :=
  (abreast.pairs (Kind.endsLine_of_isFixed fixed)).same fixed

/-- Both cursors stand on the same token, or neither of them on one that must
be the same. -/
theorem current_cases :
    cursor.kind.isFixed = true ∧ twin.current = cursor.current ∨
      cursor.current.kind.isFixed = false ∧
        twin.current.kind.isFixed = false := by
  cases fixed : cursor.kind.isFixed with
  | true => exact .inl ⟨rfl, abreast.current fixed⟩
  | false => exact .inr ⟨fixed, abreast.isFixed.trans fixed⟩

theorem position (fixed : cursor.kind.isFixed = true) :
    twin.position = cursor.position :=
  congrArg (fun token => token.span.start) (abreast.current fixed)

theorem spanFrom (start : Position) :
    twin.spanFrom start = cursor.spanFrom start := by
  rw [Cursor.spanFrom, Cursor.spanFrom, abreast.lastEnd]

theorem isClosedBy (kind : Kind) :
    twin.isClosedBy kind = cursor.isClosedBy kind := by
  rw [Cursor.isClosedBy, Cursor.isClosedBy, abreast.openBlocks]

/-! What starts here is decided by kinds that end no line. -/

theorem both {first second : Kind} (inLine : first.endsLine = false)
    (inLineToo : second.endsLine = false) :
    (twin.kind = first && twin.kindAt 1 = second) =
      (cursor.kind = first && cursor.kindAt 1 = second) := by
  simp only [abreast.kind_iff inLine, abreast.kindAt_iff inLineToo]

theorem atTypeStart : twin.atTypeStart = cursor.atTypeStart := by
  unfold Cursor.atTypeStart
  rcases abreast.kinds with same | ⟨here, there⟩ | ⟨here, there⟩
  · rw [same]
  all_goals
    rw [here, there]
    rfl

theorem typeLength : twin.typeLength = cursor.typeLength := by
  have opens := abreast.kindAt_iff (show (Kind.symbol .openBracket).endsLine =
    false from rfl) 1
  have closes := abreast.kindAt_iff (show (Kind.symbol .closeBracket).endsLine =
    false from rfl) 2
  simp only [Cursor.typeLength, opens, closes]

theorem kindAfterType_iff {kind : Kind} (inLine : kind.endsLine = false) :
    twin.kindAfterType = kind ↔ cursor.kindAfterType = kind := by
  rw [kindAfterType, kindAfterType, abreast.typeLength]
  exact abreast.kindAt_iff inLine _

theorem atFunctionStart : twin.atFunctionStart = cursor.atFunctionStart := by
  have function : (Kind.keyword .function).endsLine = false := rfl
  simp only [Cursor.atFunctionStart, abreast.atTypeStart,
    abreast.kind_iff function, abreast.kindAfterType_iff function]

theorem atVariableStart : twin.atVariableStart = cursor.atVariableStart := by
  have name : Kind.identifier.endsLine = false := rfl
  simp only [Cursor.atVariableStart, abreast.atTypeStart,
    abreast.kindAfterType_iff name]

theorem atMemberStart : twin.atMemberStart = cursor.atMemberStart := by
  have state : (Kind.keyword .state).endsLine = false := rfl
  have function : (Kind.keyword .function).endsLine = false := rfl
  have property : (Kind.keyword .property).endsLine = false := rfl
  unfold Cursor.atMemberStart
  simp only [abreast.atTypeStart, abreast.kindAt_iff state,
    abreast.kindAfterType_iff function, abreast.kindAfterType_iff property]
  rcases abreast.kinds with same | ⟨here, there⟩ | ⟨here, there⟩
  · rw [same]
  all_goals rw [here, there]

theorem atDeclaration : twin.atDeclaration = cursor.atDeclaration := by
  rw [Cursor.atDeclaration, Cursor.atDeclaration, abreast.atMemberStart,
    abreast.atVariableStart]

/-! How both cursors move. -/

/-- Both runs pass a token that stands at the same place. -/
theorem next_of_span (inLine : cursor.kind.endsLine = false)
    (span : twin.current.span = cursor.current.span) :
    wording.Abreast cursor.next twin.next := by
  have same := abreast.kind inLine
  have noBreak : cursor.kind ≠ .newline := by
    intro breaks
    rw [breaks] at inLine
    cases inLine
  have inside : cursor.kind ≠ .endOfText := by
    intro atEnd
    rw [atEnd] at inLine
    cases inLine
  have twinNoBreak : twin.kind ≠ .newline := by rwa [same]
  have twinInside : twin.kind ≠ .endOfText := by rwa [same]
  have rows := abreast.rows
  rw [budget_eq_cons_next inside, budget_eq_cons_next twinInside] at rows
  refine ⟨rows.tail same, ?_, ?_, ?_⟩
  · rw [lastEnd_next, lastEnd_next, if_neg noBreak, if_neg twinNoBreak, span]
  · rw [openBlocks_next, openBlocks_next, abreast.openBlocks]
  · rw [reported_next, reported_next]
    exact abreast.reported

theorem next (fixed : cursor.kind.isFixed = true) :
    wording.Abreast cursor.next twin.next :=
  abreast.next_of_span (Kind.endsLine_of_isFixed fixed)
    (congrArg Token.span (abreast.current fixed))

theorem next_of_docComment (doc : cursor.kind = .docComment) :
    wording.Abreast cursor.next twin.next := by
  have inLine : cursor.kind.endsLine = false := by
    rw [doc]
    rfl
  exact abreast.next_of_span inLine ((abreast.pairs inLine).span doc)

/-- Behind a line break in both texts the runs are still abreast. -/
theorem next_of_newline
    (breaks : cursor.kind = .newline) (twinBreaks : twin.kind = .newline) :
    wording.Abreast cursor.next twin.next := by
  have inside : cursor.kind ≠ .endOfText := by
    rw [breaks]
    nofun
  have twinInside : twin.kind ≠ .endOfText := by
    rw [twinBreaks]
    nofun
  have rows := abreast.rows
  rw [budget_eq_cons_next inside, budget_eq_cons_next twinInside] at rows
  refine ⟨rows.tail (twinBreaks.trans breaks.symm), ?_, ?_, ?_⟩
  · rw [lastEnd_next, lastEnd_next, if_pos breaks,
      if_pos twinBreaks, abreast.lastEnd]
  · rw [openBlocks_next, openBlocks_next, abreast.openBlocks]
  · rw [reported_next, reported_next]
    exact abreast.reported

theorem next_left
    (breaks : cursor.kind = .newline) (twinEnds : twin.kind = .endOfText) :
    wording.Abreast cursor.next twin := by
  have inside : cursor.kind ≠ .endOfText := by
    rw [breaks]
    nofun
  have rows := abreast.rows
  rw [budget_eq_cons_next inside] at rows
  refine ⟨rows.drop_break breaks twinEnds, ?_, ?_, ?_⟩
  · rw [lastEnd_next, if_pos breaks, abreast.lastEnd]
  · rw [openBlocks_next, abreast.openBlocks]
  · rw [reported_next]
    exact abreast.reported

theorem next_right
    (ends : cursor.kind = .endOfText) (twinBreaks : twin.kind = .newline) :
    wording.Abreast cursor twin.next :=
  (abreast.swap.next_left twinBreaks ends).swap

theorem report (diagnostic other : Diagnostic) :
    wording.Abreast (cursor.report diagnostic) (twin.report other) where
  rows := abreast.rows
  lastEnd := abreast.lastEnd
  openBlocks := abreast.openBlocks
  reported := by simp

theorem enter (block : Block) :
    wording.Abreast (cursor.enter block) (twin.enter block) where
  rows := abreast.rows
  lastEnd := abreast.lastEnd
  openBlocks := congrArg (block :: ·) abreast.openBlocks
  reported := abreast.reported

theorem leave : wording.Abreast cursor.leave twin.leave where
  rows := abreast.rows
  lastEnd := abreast.lastEnd
  openBlocks := congrArg List.tail abreast.openBlocks
  reported := abreast.reported

end Abreast

end Wording

end PapyrusScript
