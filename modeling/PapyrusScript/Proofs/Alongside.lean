import PapyrusScript.Proofs.Reading

/-!
# Two runs along one row of tokens

A reader that stays inside a row of tokens does the same whatever follows the
row and whatever was reported before.  To say so, two cursors stand in front
of the same row; a `Fork` holds what is different about them.

A row ends with a line break or the end of the text.  No reader within a line
goes past either of them, so such a reader never sees where the rows end.
Others do, and what two runs then have in common ends there: `Fork.Left` says
that a cursor has left the row, and `Fork.Marked` that this shows, by a
further token that was passed or by a report.
-/

namespace PapyrusScript

variable {α β : Type}

/-- What is different about two runs: the tokens behind the common row, and
the errors reported before it.  Of the tokens of the row something may be
known. -/
structure Fork where
  rest : List Token
  other : List Token
  told : List Diagnostic
  toldOther : List Diagnostic
  known : Token → Prop

/-- Whether a token of the kind ends a line. -/
def Kind.endsLine (kind : Kind) : Bool := kind = .newline || kind = .endOfText

/-- What a token has to do with an error that is reported where it starts: it
opens the block that is left open, or it is what was met instead of what was
expected. -/
def Token.Explains (token : Token) : Cause → Prop
  | .unterminated block line _ =>
    token.kind = .keyword block.opener ∧ token.span.start.line = line
  | cause => ∀ kind, cause.found? = some kind →
      kind = token.kind ∧ kind.isInvalid = cause.isLexical

namespace Token

theorem explains_of_silent
    {cause : Cause} (silent : cause.found? = none) (token : Token) :
    token.Explains cause := by
  cases cause with
  | lexical | unexpected | unterminated | strayTerminator | duplicateHeader
  | declarationInState | chainedAssignment => cases silent
  | _ => nofun

theorem explains_unexpected (token : Token) (expected : String) :
    token.Explains (Diagnostic.unexpected token expected).cause := by
  have lexical := Diagnostic.isLexical_unexpected token expected
  unfold Diagnostic.unexpected at *
  split
  · rename_i error found
    rintro kind ⟨⟩
    exact ⟨found.symm, rfl⟩
  · rename_i valid
    rintro kind ⟨⟩
    refine ⟨rfl, ?_⟩
    cases found : token.kind with
    | invalid error => exact absurd found (valid error)
    | _ => rfl

end Token

namespace Fork

open Cursor

variable {fork : Fork}
variable {diagnostic : Diagnostic}

def Knows (fork : Fork) (kind : Kind) (token : Token) : Prop :=
  fork.known token ∧ token.kind = kind

def Starts (fork : Fork) (position : Position) : Prop :=
  ∃ token, fork.known token ∧ token.span.start = position

/-- A token that is known starts where a diagnostic stands and explains it.
What the diagnostic says was met stands in the row or behind it. -/
structure Points (fork : Fork) (diagnostic : Diagnostic) : Prop where
  explained : ∃ token, fork.known token ∧
    token.span.start = diagnostic.position ∧ token.Explains diagnostic.cause
  met : ∀ kind, diagnostic.cause.found? = some kind →
    ∃ token, (fork.known token ∨ token ∈ fork.rest) ∧ token.kind = kind

theorem Points.starts (points : fork.Points diagnostic) :
    fork.Starts diagnostic.position := by
  obtain ⟨token, known, place, _⟩ := points.explained
  exact ⟨token, known, place⟩

/-- An error that meets nothing may stand at any token that is known. -/
theorem Starts.points
    {position : Position} (starts : fork.Starts position) {cause : Cause}
    (silent : cause.found? = none) : fork.Points ⟨position, cause⟩ where
  explained := by
    obtain ⟨token, known, place⟩ := starts
    exact ⟨token, known, place, token.explains_of_silent silent⟩
  met kind found := by
    rw [silent] at found
    cases found

/-- An error at a token that is known and that it has met. -/
theorem points_of_known
    {token : Token} (known : fork.known token) {cause : Cause}
    (explains : token.Explains cause)
    (found : ∀ kind, cause.found? = some kind → token.kind = kind) :
    fork.Points ⟨token.span.start, cause⟩ :=
  ⟨⟨token, known, rfl, explains⟩, fun kind meets =>
    ⟨token, .inl known, found kind meets⟩⟩

/-- Two cursors stand in front of a row.  What has been reported since the
runs met the row is the same, at tokens that are known. -/
structure Faces
    (fork : Fork) (row : List Token) (cursor twin : Cursor) : Prop where
  here : cursor.budget = row ++ fork.rest
  there : twin.budget = row ++ fork.other
  closed : ∀ token, row.getLast? = some token → token.kind.endsLine = true
  known : ∀ token ∈ row, fork.known token
  lastEnd : twin.lastEnd = cursor.lastEnd
  openBlocks : twin.openBlocks = cursor.openBlocks
  lexical : ∀ token ∈ row, token.kind.isInvalid = true →
    (twin.lastLexical = some token.span.start ↔
      cursor.lastLexical = some token.span.start)
  reported : ∃ news, cursor.reported = news ++ fork.told ∧
    twin.reported = news ++ fork.toldOther ∧
      ∀ diagnostic ∈ news, fork.Points diagnostic

/-- Two cursors stand in front of the same row, which may be used up. -/
def Along (fork : Fork) (cursor twin : Cursor) : Prop :=
  ∃ row, fork.Faces row cursor twin

def Documented (fork : Fork) : Prop :=
  ∃ token more, fork.rest = token :: more ∧ token.kind = .docComment

/-- No documentation comment is taken behind the row.  In the first run there
is none, or its line goes on.  In the second run there is none unless there is
one in the first. -/
structure Plain (fork : Fork) : Prop where
  rest : ∀ token more, fork.rest = token :: more → token.kind = .docComment →
    ∃ next others, more = next :: others ∧ next.kind.endsLine = false
  other : ∀ first more token others, fork.rest = first :: more →
    fork.other = token :: others → first.kind ≠ .docComment →
      token.kind ≠ .docComment

theorem Plain.of_ne {fork : Fork}
    (rest : ∀ token more, fork.rest = token :: more → token.kind ≠ .docComment)
    (other : ∀ token more, fork.other = token :: more →
      token.kind ≠ .docComment) : fork.Plain where
  rest token more same doc := absurd doc (rest token more same)
  other _ _ token others _ same _ := other token others same

def Amid (fork : Fork) (cursor twin : Cursor) : Prop :=
  ∃ row, row ≠ [] ∧ fork.Faces row cursor twin

variable {cursor twin : Cursor}

theorem Amid.along (amid : fork.Amid cursor twin) : fork.Along cursor twin := by
  obtain ⟨row, _, faces⟩ := amid
  exact ⟨row, faces⟩

/-- Either some of the row is left, or all of it has been passed. -/
theorem Along.cases (along : fork.Along cursor twin) :
    fork.Amid cursor twin ∨
      cursor.budget = fork.rest ∧ twin.budget = fork.other := by
  obtain ⟨row, faces⟩ := along
  rcases List.eq_nil_or_concat row with rfl | ⟨before, last, rfl⟩
  · exact .inr ⟨faces.here, faces.there⟩
  · exact .inl ⟨_, by simp, faces⟩

section Amid

variable (amid : fork.Amid cursor twin)

include amid

theorem Amid.current : twin.current = cursor.current := by
  obtain ⟨row, more, faces⟩ := amid
  obtain ⟨token, row, rfl⟩ := List.exists_cons_of_ne_nil more
  rw [current_of_budget faces.here, current_of_budget faces.there]

theorem Amid.kind : twin.kind = cursor.kind := congrArg Token.kind amid.current

theorem Amid.position : twin.position = cursor.position :=
  congrArg (fun token => token.span.start) amid.current

theorem Amid.lastEnd : twin.lastEnd = cursor.lastEnd := by
  obtain ⟨_, _, faces⟩ := amid
  exact faces.lastEnd

theorem Amid.spanFrom (start : Position) :
    twin.spanFrom start = cursor.spanFrom start := by
  rw [Cursor.spanFrom, Cursor.spanFrom, amid.lastEnd]

theorem Amid.known : fork.known cursor.current := by
  obtain ⟨row, more, faces⟩ := amid
  obtain ⟨token, row, rfl⟩ := List.exists_cons_of_ne_nil more
  rw [current_of_budget faces.here]
  exact faces.known token List.mem_cons_self

theorem Amid.starts : fork.Starts cursor.position :=
  ⟨cursor.current, amid.known, rfl⟩

theorem Amid.points_unexpected (expected : String) :
    fork.Points (Diagnostic.unexpected cursor.current expected) := by
  have place := Diagnostic.position_unexpected cursor.current expected
  have explains := cursor.current.explains_unexpected expected
  refine ⟨⟨cursor.current, amid.known, place.symm, explains⟩, ?_⟩
  intro kind found
  refine ⟨cursor.current, .inl amid.known, ?_⟩
  unfold Diagnostic.unexpected at found
  split at found
  · rename_i error same
    rw [same]
    exact Option.some.inj found
  · exact Option.some.inj found

theorem Amid.points {cause : Cause} (found : cause.found? = some cursor.kind)
    (explains : cursor.current.Explains cause) :
    fork.Points ⟨cursor.position, cause⟩ :=
  points_of_known amid.known explains fun _ meets =>
    Option.some.inj (found.symm.trans meets)

/-- An invalid token was the last to be reported in both runs or in
neither. -/
theorem Amid.lexical (invalid : cursor.kind.isInvalid = true) :
    twin.lastLexical = some cursor.position ↔
      cursor.lastLexical = some cursor.position := by
  obtain ⟨row, more, faces⟩ := amid
  obtain ⟨token, row, rfl⟩ := List.exists_cons_of_ne_nil more
  have first := current_of_budget faces.here
  rw [Cursor.kind, first] at invalid
  rw [Cursor.position, first]
  exact faces.lexical token List.mem_cons_self invalid

omit amid in
/-- As long as the line goes on, the common row is not used up. -/
theorem Faces.lt_length {row : List Token} (faces : fork.Faces row cursor twin)
    (more : row ≠ []) {distance : Nat}
    (inLine : ∀ nearer < distance, (cursor.kindAt nearer).endsLine = false) :
    distance < row.length := by
  rcases Nat.lt_or_ge distance row.length with inside | behind
  · exact inside
  exfalso
  -- the last token of the row would be nearer, but it ends a line
  have length := List.length_pos_iff.2 more
  have free := inLine (row.length - 1) (by omega)
  rw [kindAt_eq, faces.here, List.getElem?_append_left (by omega)] at free
  have found : row[row.length - 1]? = some row[row.length - 1] :=
    List.getElem?_eq_getElem (by omega)
  have ends := faces.closed row[row.length - 1] (by
    rw [List.getLast?_eq_getElem?, found])
  rw [found] at free
  simp only [Option.map_some, Option.getD_some] at free
  rw [free] at ends
  cases ends

/-- Both cursors see the same kinds up to where the line ends. -/
theorem Amid.kindAt (distance : Nat)
    (inLine : ∀ nearer < distance, (cursor.kindAt nearer).endsLine = false) :
    twin.kindAt distance = cursor.kindAt distance := by
  obtain ⟨row, more, faces⟩ := amid
  have inside := faces.lt_length more inLine
  rw [kindAt_eq, kindAt_eq, faces.here, faces.there,
    List.getElem?_append_left inside, List.getElem?_append_left inside]

theorem Amid.exists_kindAt (distance : Nat)
    (inLine : ∀ nearer < distance, (cursor.kindAt nearer).endsLine = false) :
    ∃ token, fork.known token ∧ token.kind = cursor.kindAt distance := by
  obtain ⟨row, more, faces⟩ := amid
  have inside := faces.lt_length more inLine
  refine ⟨row[distance], faces.known _ (List.getElem_mem inside), ?_⟩
  rw [kindAt_eq, faces.here, List.getElem?_append_left inside,
    List.getElem?_eq_getElem inside]
  rfl

/-- Two kinds, one after the other, stand in front of both cursors or of
neither. -/
theorem Amid.both (first second : Kind) (inLine : first.endsLine = false) :
    (twin.kind = first && twin.kindAt 1 = second) =
      (cursor.kind = first && cursor.kindAt 1 = second) := by
  by_cases found : cursor.kind = first
  · have same := amid.kindAt 1 fun nearer near => by
      obtain rfl : nearer = 0 := by omega
      show cursor.kind.endsLine = false
      rw [found, inLine]
    rw [amid.kind, same]
  · rw [amid.kind]
    simp [found]

/-! What starts here is decided by a few tokens, none of them behind the end
of the line. -/

theorem Amid.atTypeStart : twin.atTypeStart = cursor.atTypeStart := by
  rw [Cursor.atTypeStart, Cursor.atTypeStart, amid.kind]

omit amid in
theorem endsLine_of_atTypeStart (starts : cursor.atTypeStart = true) :
    cursor.kind.endsLine = false := by
  unfold atTypeStart at starts
  cases found : cursor.kind <;>
    simp [found, Kind.isTypeKeyword, Kind.endsLine] at *

omit amid in
/-- No token of a type ends the line. -/
theorem inLine_of_atTypeStart (starts : cursor.atTypeStart = true) :
    ∀ nearer < cursor.typeLength, (cursor.kindAt nearer).endsLine = false := by
  have here : (cursor.kindAt 0).endsLine = false :=
    endsLine_of_atTypeStart starts
  unfold typeLength
  split
  · rename_i array
    simp only [Bool.and_eq_true, decide_eq_true_eq] at array
    intro nearer near
    have cases : nearer = 0 ∨ nearer = 1 ∨ nearer = 2 := by omega
    rcases cases with rfl | rfl | rfl
    · exact here
    · rw [array.1]
      rfl
    · rw [array.2]
      rfl
  · intro nearer near
    obtain rfl : nearer = 0 := by omega
    exact here

/-- Within the row a type has the same length in both runs. -/
theorem Amid.typeLength (starts : cursor.atTypeStart = true) :
    twin.typeLength = cursor.typeLength := by
  have here : (cursor.kindAt 0).endsLine = false :=
    endsLine_of_atTypeStart starts
  have second := amid.kindAt 1 fun nearer near => by
    obtain rfl : nearer = 0 := by omega
    exact here
  unfold Cursor.typeLength
  rw [second]
  by_cases opening : cursor.kindAt 1 = .symbol .openBracket
  · have third := amid.kindAt 2 fun nearer near => by
      have cases : nearer = 0 ∨ nearer = 1 := by omega
      rcases cases with rfl | rfl
      · exact here
      · rw [opening]
        rfl
    rw [third]
  · simp [opening]

theorem Amid.kindAfterType (starts : cursor.atTypeStart = true) :
    twin.kindAfterType = cursor.kindAfterType := by
  rw [Cursor.kindAfterType, Cursor.kindAfterType, amid.typeLength starts]
  exact amid.kindAt _ (inLine_of_atTypeStart starts)

theorem Amid.atFunctionStart :
    twin.atFunctionStart = cursor.atFunctionStart := by
  unfold Cursor.atFunctionStart
  rw [amid.kind, amid.atTypeStart]
  by_cases starts : cursor.atTypeStart = true
  · rw [amid.kindAfterType starts]
  · simp [starts]

theorem Amid.atVariableStart :
    twin.atVariableStart = cursor.atVariableStart := by
  unfold Cursor.atVariableStart
  rw [amid.atTypeStart]
  by_cases starts : cursor.atTypeStart = true
  · rw [amid.kindAfterType starts]
  · simp [starts]

/-- Both runs see the start of a member, or neither does. -/
theorem Amid.atMemberStart : twin.atMemberStart = cursor.atMemberStart := by
  unfold Cursor.atMemberStart
  rw [amid.kind]
  split
  case h_6 auto =>
    rw [amid.kindAt 1 fun nearer near => by
      obtain rfl : nearer = 0 := by omega
      show cursor.kind.endsLine = false
      rw [auto]
      rfl]
  case h_7 =>
    rw [amid.atTypeStart]
    by_cases starts : cursor.atTypeStart = true
    · rw [amid.kindAfterType starts]
    · simp [starts]
  all_goals rfl

theorem Amid.atDeclaration : twin.atDeclaration = cursor.atDeclaration := by
  rw [Cursor.atDeclaration, Cursor.atDeclaration, amid.atMemberStart,
    amid.atVariableStart]

theorem Amid.memberBlock? : twin.memberBlock? = cursor.memberBlock? := by
  unfold Cursor.memberBlock?
  rw [amid.kind, amid.atFunctionStart, amid.atMemberStart]

/-- In the row one token is passed in both runs. -/
theorem Amid.next_along (inside : cursor.kind ≠ .endOfText) :
    fork.Along cursor.next twin.next := by
  have insideToo : twin.kind ≠ .endOfText := by rwa [amid.kind]
  have sameKind := amid.kind
  have sameToken := amid.current
  obtain ⟨row, more, faces⟩ := amid
  obtain ⟨token, row, rfl⟩ := List.exists_cons_of_ne_nil more
  have first := current_of_budget faces.here
  refine ⟨row, ?_, ?_, ?_, ?_, ?_, ?_, ?_, ?_⟩
  · exact budget_next_of_budget faces.here (by rwa [← first])
  · refine budget_next_of_budget faces.there ?_
    rwa [← first, ← sameToken]
  · intro last found
    refine faces.closed last ?_
    rw [List.getLast?_cons, found]
    rfl
  · exact fun other later => faces.known other (List.mem_cons_of_mem _ later)
  · rw [lastEnd_next, lastEnd_next, sameKind, sameToken, faces.lastEnd]
  · rw [openBlocks_next, openBlocks_next, faces.openBlocks]
  · intro other later invalid
    rw [lastLexical_next, lastLexical_next]
    exact faces.lexical other (List.mem_cons_of_mem _ later) invalid
  · rw [reported_next, reported_next]
    exact faces.reported

/-- A token that ends no line does not use up the row. -/
theorem Amid.next (inLine : cursor.kind.endsLine = false) :
    fork.Amid cursor.next twin.next := by
  have inside : cursor.kind ≠ .endOfText := by
    intro atEnd
    rw [atEnd] at inLine
    cases inLine
  obtain ⟨row, faces⟩ := amid.next_along inside
  refine ⟨row, ?_, faces⟩
  rintro rfl
  -- then the token was the last of the row
  obtain ⟨row, more, facesHere⟩ := amid
  have shape := budget_eq_cons_next inside
  rw [faces.here, facesHere.here] at shape
  have single : row = [cursor.current] := by
    rw [← List.cons_append] at shape
    exact List.append_cancel_right shape
  have ends := facesHere.closed cursor.current (by rw [single]; rfl)
  exact Bool.false_ne_true (inLine.symm.trans ends)

end Amid

/-! ## Reports and blocks -/

/-- A report about the row is the same in both runs. -/
theorem Faces.report {row : List Token} (faces : fork.Faces row cursor twin)
    (points : fork.Points diagnostic) :
    fork.Faces row (cursor.report diagnostic) (twin.report diagnostic) where
  here := faces.here
  there := faces.there
  closed := faces.closed
  known := faces.known
  lastEnd := faces.lastEnd
  openBlocks := faces.openBlocks
  lexical := by
    intro token member invalid
    unfold Cursor.report
    split
    · exact Iff.rfl
    · exact faces.lexical token member invalid
  reported := by
    obtain ⟨news, here, there, known⟩ := faces.reported
    refine ⟨diagnostic :: news, ?_, ?_, List.forall_mem_cons.2 ⟨points, known⟩⟩
    · rw [reported_report, here]
      rfl
    · rw [reported_report, there]
      rfl

theorem Amid.report
    (amid : fork.Amid cursor twin) (points : fork.Points diagnostic) :
    fork.Amid (cursor.report diagnostic) (twin.report diagnostic) := by
  obtain ⟨row, more, faces⟩ := amid
  exact ⟨row, more, faces.report points⟩

theorem Along.report
    (along : fork.Along cursor twin) (points : fork.Points diagnostic) :
    fork.Along (cursor.report diagnostic) (twin.report diagnostic) := by
  obtain ⟨row, faces⟩ := along
  exact ⟨row, faces.report points⟩

theorem Along.enter (along : fork.Along cursor twin) (block : Block) :
    fork.Along (cursor.enter block) (twin.enter block) := by
  obtain ⟨row, faces⟩ := along
  refine ⟨row, faces.here, faces.there, faces.closed, faces.known,
    faces.lastEnd, ?_, faces.lexical, faces.reported⟩
  rw [openBlocks_enter, openBlocks_enter, faces.openBlocks]

theorem Faces.leave {row : List Token} (faces : fork.Faces row cursor twin) :
    fork.Faces row cursor.leave twin.leave := by
  refine ⟨faces.here, faces.there, faces.closed, faces.known, faces.lastEnd,
    ?_, faces.lexical, faces.reported⟩
  rw [openBlocks_leave, openBlocks_leave, faces.openBlocks]

theorem Amid.leave (amid : fork.Amid cursor twin) :
    fork.Amid cursor.leave twin.leave := by
  obtain ⟨row, more, faces⟩ := amid
  exact ⟨row, more, faces.leave⟩

theorem Along.leave (along : fork.Along cursor twin) :
    fork.Along cursor.leave twin.leave := by
  obtain ⟨row, faces⟩ := along
  exact ⟨row, faces.leave⟩

theorem Along.lastEnd (along : fork.Along cursor twin) :
    twin.lastEnd = cursor.lastEnd := by
  obtain ⟨_, faces⟩ := along
  exact faces.lastEnd

theorem Along.spanFrom (along : fork.Along cursor twin) (start : Position) :
    twin.spanFrom start = cursor.spanFrom start := by
  rw [Cursor.spanFrom, Cursor.spanFrom, along.lastEnd]

theorem Along.openBlocks (along : fork.Along cursor twin) :
    twin.openBlocks = cursor.openBlocks := by
  obtain ⟨_, faces⟩ := along
  exact faces.openBlocks

theorem Along.isClosedBy (along : fork.Along cursor twin) (kind : Kind) :
    twin.isClosedBy kind = cursor.isClosedBy kind := by
  rw [Cursor.isClosedBy, Cursor.isClosedBy, along.openBlocks]

/-- Behind the row both runs see a comment or neither does. -/
theorem Along.docComment (plain : fork.Plain) (along : fork.Along cursor twin) :
    fork.Amid cursor twin ∨
      (fork.Documented ∧ cursor.budget = fork.rest ∧
          cursor.kind = .docComment) ∨
        (cursor.kind ≠ .docComment ∧ twin.kind ≠ .docComment) := by
  rcases along.cases with amid | ⟨here, there⟩
  · exact .inl amid
  · by_cases doc : cursor.kind = .docComment
    · exact .inr (.inl ⟨⟨_, _, here.symm, doc⟩, here, doc⟩)
    · exact .inr (.inr ⟨doc, plain.other _ _ _ _ here.symm there.symm doc⟩)

end Fork

/-! ## Readers that do the same in both runs -/

/-- What holds of the value of a step and two cursors, if the loop goes on and
if it ends. -/
def Step.Parts (again done : α → Cursor → Cursor → Prop) :
    Step α → Cursor → Cursor → Prop
  | .again value, cursor, twin => again value cursor twin
  | .done value, cursor, twin => done value cursor twin

/-- Both runs answer the same, and what holds of the answer and the two
cursors after it. -/
def Recovery.Agrees (reader : Recovery α) (cursor twin : Cursor)
    (post : α → Cursor → Cursor → Prop) : Prop :=
  (reader.run twin).1 = (reader.run cursor).1 ∧
    post (reader.run cursor).1 (reader.run cursor).2 (reader.run twin).2

/-- What holds if both runs fail: they stand on the same token, and the
diagnostic is about a token that is known. -/
def Fork.Fails
    (fork : Fork) (diagnostic : Diagnostic) (cursor twin : Cursor) : Prop :=
  fork.Points diagnostic ∧ fork.Amid cursor twin

theorem Fork.Amid.fails
    {fork : Fork} {cursor twin : Cursor} (amid : fork.Amid cursor twin)
    (expected : String) :
    fork.Fails (Diagnostic.unexpected cursor.current expected) cursor
      twin :=
  ⟨amid.points_unexpected expected, amid⟩

def Reader.Agrees (reader : Reader α) (fork : Fork) (cursor twin : Cursor)
    (post : α → Cursor → Cursor → Prop) : Prop :=
  Recovery.Agrees reader.run cursor twin fun answer after twinAfter =>
    match answer with
    | .ok value => post value after twinAfter
    | .error diagnostic => fork.Fails diagnostic after twinAfter

/-- The runs stay in the middle of the row, and a fact holds of the answer. -/
def Fork.Inside (fork : Fork) (fact : α → Prop) : α → Cursor → Cursor → Prop :=
  fun value cursor twin => fact value ∧ fork.Amid cursor twin

/-- From the middle of a row, both runs do the same and stay in the row. -/
def Recovery.Steady
    (reader : Recovery α) (fork : Fork) (fact : α → Prop) : Prop :=
  ∀ cursor twin, fork.Amid cursor twin →
    reader.Agrees cursor twin (fork.Inside fact)

def Reader.Steady (reader : Reader α) (fork : Fork) (fact : α → Prop) : Prop :=
  ∀ cursor twin, fork.Amid cursor twin →
    reader.Agrees fork cursor twin (fork.Inside fact)

namespace Recovery

variable {fork : Fork} {cursor twin : Cursor}
  {post weaker : α → Cursor → Cursor → Prop}
variable {reader : Recovery α}

theorem Agrees.mono (agrees : reader.Agrees cursor twin post)
    (implied : ∀ value after twinAfter, post value after twinAfter →
      weaker value after twinAfter) :
    reader.Agrees cursor twin weaker :=
  ⟨agrees.1, implied _ _ _ agrees.2⟩

theorem Agrees.congr {reader other : Recovery α}
    (here : reader.run cursor = other.run cursor)
    (there : reader.run twin = other.run twin)
    (agrees : other.Agrees cursor twin post) :
    reader.Agrees cursor twin post := by
  unfold Agrees at *
  rw [here, there]
  exact agrees

theorem Agrees.ends (agrees : reader.Agrees cursor cursor post) :
    reader.Ends cursor fun value after => post value after after :=
  agrees.2

theorem Agrees.and_ends
    {fact : α → Cursor → Prop} (agrees : reader.Agrees cursor twin post)
    (ends : reader.Ends cursor fact) :
    reader.Agrees cursor twin fun value after twinAfter =>
      post value after twinAfter ∧ fact value after :=
  ⟨agrees.1, agrees.2, ends⟩

theorem Agrees.of_run
    {value : α} {after : Cursor} (agrees : reader.Agrees cursor twin post)
    (ran : reader.run cursor = (value, after)) :
    ∃ twinAfter, reader.run twin = (value, twinAfter) ∧
      post value after twinAfter := by
  obtain ⟨same, holds⟩ := agrees
  rw [ran] at same holds
  exact ⟨(reader.run twin).2, Prod.ext same rfl, holds⟩

theorem Agrees.pure {value : α} (holds : post value cursor twin) :
    Agrees (Pure.pure value) cursor twin post :=
  ⟨rfl, holds⟩

theorem Agrees.bind
    {following : α → Recovery β} {post : β → Cursor → Cursor → Prop}
    {known : α → Cursor → Cursor → Prop}
    (first : reader.Agrees cursor twin known)
    (rest : ∀ value after twinAfter, known value after twinAfter →
      (following value).Agrees after twinAfter post) :
    Agrees (reader >>= following) cursor twin post := by
  obtain ⟨same, holds⟩ := first
  have more := rest _ _ _ holds
  show ((following (reader.run twin).1).run (reader.run twin).2).1 = _ ∧
    post _ _ ((following (reader.run twin).1).run (reader.run twin).2).2
  rw [same]
  exact more

theorem Agrees.look {following : Cursor → Recovery α}
    (same : following twin = following cursor)
    (agrees : (following cursor).Agrees cursor twin post) :
    Agrees (get >>= following) cursor twin post := by
  show ((following twin).run twin).1 = _ ∧
    post _ _ ((following twin).run twin).2
  rw [same]
  exact agrees

/-- What is done depends on the cursor as in another program. -/
theorem Agrees.look_congr
    {following : Cursor → Recovery α} (instead : Cursor → Recovery α)
    (here : following cursor = instead cursor)
    (there : following twin = instead twin)
    (agrees : Agrees (get >>= instead) cursor twin post) :
    Agrees (get >>= following) cursor twin post := by
  refine Agrees.congr ?_ ?_ agrees
  · show (following cursor).run cursor = (instead cursor).run cursor
    rw [here]
  · show (following twin).run twin = (instead twin).run twin
    rw [there]

theorem Agrees.advance
    {post : Token → Cursor → Cursor → Prop} (amid : fork.Amid cursor twin)
    (holds : post cursor.current cursor.next twin.next) :
    Agrees Reader.advance cursor twin post :=
  ⟨amid.current, holds⟩

theorem Agrees.take
    {following : Token → Recovery α} (amid : fork.Amid cursor twin)
    (agrees : (following cursor.current).Agrees cursor.next twin.next post) :
    Agrees (Reader.advance >>= following) cursor twin post := by
  show ((following twin.current).run twin.next).1 = _ ∧
    post _ _ ((following twin.current).run twin.next).2
  rw [amid.current]
  exact agrees

theorem Agrees.report
    {diagnostic : Diagnostic} {post : Unit → Cursor → Cursor → Prop}
    (holds : post () (cursor.report diagnostic) (twin.report diagnostic)) :
    Agrees (Reader.report diagnostic) cursor twin post :=
  ⟨rfl, holds⟩

theorem Agrees.unexpected
    {expected : String} {post : Diagnostic → Cursor → Cursor → Prop}
    (amid : fork.Amid cursor twin)
    (holds : post (Diagnostic.unexpected cursor.current expected) cursor
      twin) :
    Agrees (Reader.unexpected expected) cursor twin post := by
  refine ⟨?_, holds⟩
  show Diagnostic.unexpected twin.current expected = _
  rw [amid.current]
  rfl

/-- Behind a reader that may fail both runs go on alike in either case. -/
theorem Agrees.run_bind
    {reader : Reader α} {following : Except Diagnostic α → Recovery β}
    {post : β → Cursor → Cursor → Prop} {known : α → Cursor → Cursor → Prop}
    (agrees : reader.Agrees fork cursor twin known)
    (onValue : ∀ value after twinAfter, known value after twinAfter →
      (following (.ok value)).Agrees after twinAfter post)
    (onError : ∀ diagnostic after twinAfter,
      fork.Fails diagnostic after twinAfter →
        (following (.error diagnostic)).Agrees after twinAfter post) :
    Agrees (reader.run >>= following) cursor twin post := by
  apply Agrees.bind agrees
  intro answer after twinAfter holds
  cases answer with
  | ok value => exact onValue value after twinAfter holds
  | error diagnostic => exact onError diagnostic after twinAfter holds

/-- The runs of a loop agree as long as those of its steps do, although the
loops are given different numbers of steps. -/
theorem Agrees.loop {step : α → Recovery (Step α)}
    (invariant : α → Cursor → Cursor → Prop)
    (proceeds : ∀ value cursor, (step value).Proceeds cursor)
    (steps : ∀ value cursor twin, invariant value cursor twin →
      (step value).Agrees cursor twin (Step.Parts invariant post))
    {value : α} (holds : invariant value cursor twin) :
    Agrees (get >>= fun cursor => PapyrusScript.loop step cursor.budget value)
      cursor twin post := by
  induction value, cursor using loop_induction proceeds generalizing twin with
  | back value cursor ih =>
    cases here : (step value).run cursor with
    | mk decision between =>
      obtain ⟨twinBetween, there, known⟩ := (steps _ _ _ holds).of_run here
      unfold Agrees
      rw [run_loop proceeds, run_loop proceeds, here, there]
      cases decision with
      | done final => exact ⟨rfl, known⟩
      | again following => exact ih following between here known

end Recovery

namespace Reader

variable {fork : Fork} {cursor twin : Cursor}
  {post weaker : α → Cursor → Cursor → Prop}
variable {reader : Reader α}

theorem Agrees.mono (agrees : reader.Agrees fork cursor twin post)
    (implied : ∀ value after twinAfter, post value after twinAfter →
      weaker value after twinAfter) :
    reader.Agrees fork cursor twin weaker := by
  refine Recovery.Agrees.mono agrees fun answer after twinAfter holds => ?_
  cases answer with
  | ok value => exact implied value after twinAfter holds
  | error diagnostic => exact holds

theorem Agrees.ends (agrees : reader.Agrees fork cursor cursor post) :
    reader.Ends cursor (fun value after => post value after after)
      fun diagnostic after => fork.Fails diagnostic after after := by
  apply (Recovery.Agrees.ends agrees).mono
  intro answer after known
  cases answer <;> exact known

theorem Agrees.pure {value : α} (holds : post value cursor twin) :
    Agrees (Pure.pure value) fork cursor twin post :=
  ⟨rfl, holds⟩

theorem Agrees.throw
    {diagnostic : Diagnostic} (fails : fork.Fails diagnostic cursor twin) :
    Agrees (throw diagnostic) fork cursor twin post :=
  ⟨rfl, fails⟩

theorem Agrees.bind
    {following : α → Reader β} {post : β → Cursor → Cursor → Prop}
    {known : α → Cursor → Cursor → Prop}
    (first : reader.Agrees fork cursor twin known)
    (rest : ∀ value after twinAfter, known value after twinAfter →
      (following value).Agrees fork after twinAfter post) :
    Agrees (reader >>= following) fork cursor twin post := by
  unfold Agrees
  rw [ExceptT.run_bind]
  refine Recovery.Agrees.bind first fun answer after twinAfter holds => ?_
  cases answer with
  | ok value => exact rest value after twinAfter holds
  | error diagnostic => exact ⟨rfl, holds⟩

theorem Agrees.map {change : α → β} {post : β → Cursor → Cursor → Prop}
    (agrees : reader.Agrees fork cursor twin
      fun value after twinAfter => post (change value) after twinAfter) :
    Agrees (change <$> reader) fork cursor twin post := by
  rw [map_eq_pure_bind]
  exact agrees.bind fun _ _ _ holds => .pure holds

theorem Agrees.look {following : Cursor → Reader α}
    (same : following twin = following cursor)
    (agrees : (following cursor).Agrees fork cursor twin post) :
    Agrees (get >>= following) fork cursor twin post :=
  @Recovery.Agrees.look _ _ _ _ (fun cursor => (following cursor).run)
    (congrArg ExceptT.run same) agrees

/-- What is done depends on the cursor as in another program. -/
theorem Agrees.look_congr
    {following : Cursor → Reader α} (instead : Cursor → Reader α)
    (here : following cursor = instead cursor)
    (there : following twin = instead twin)
    (agrees : Agrees (get >>= instead) fork cursor twin post) :
    Agrees (get >>= following) fork cursor twin post :=
  @Recovery.Agrees.look_congr _ _ _ _ (fun cursor => (following cursor).run)
    (fun cursor => (instead cursor).run) (congrArg ExceptT.run here)
    (congrArg ExceptT.run there) agrees

theorem Agrees.take
    {following : Token → Reader α} (amid : fork.Amid cursor twin)
    (agrees :
      (following cursor.current).Agrees fork cursor.next twin.next post) :
    Agrees (liftM Reader.advance >>= following) fork cursor twin post :=
  @Recovery.Agrees.take _ _ _ _ _ (fun token => (following token).run) amid
    agrees

theorem Agrees.lift
    {reader : Recovery α} (agrees : reader.Agrees cursor twin post) :
    Agrees (liftM reader) fork cursor twin post :=
  ⟨congrArg Except.ok agrees.1, agrees.2⟩

theorem Agrees.reject {expected : String} (amid : fork.Amid cursor twin) :
    Agrees (reject expected) fork cursor twin post := by
  have found : Agrees (liftM (unexpected expected)) fork cursor twin
      fork.Fails :=
    .lift (.unexpected amid (amid.fails expected))
  exact found.bind fun _ _ _ fails => .throw fails

/-- The runs of a loop agree as long as those of its steps do, although the
loops are given different numbers of steps. -/
theorem Agrees.loop {step : α → Reader (Step α)}
    (invariant : α → Cursor → Cursor → Prop)
    (proceeds : ∀ value cursor, (step value).Proceeds cursor)
    (steps : ∀ value cursor twin, invariant value cursor twin →
      (step value).Agrees fork cursor twin (Step.Parts invariant post))
    {value : α} (holds : invariant value cursor twin) :
    Agrees (get >>= fun cursor => PapyrusScript.loop step cursor.budget value)
      fork cursor twin post := by
  induction value, cursor using loop_induction proceeds generalizing twin with
  | back value cursor ih =>
    cases here : (step value).run.run cursor with
    | mk answer between =>
      obtain ⟨twinBetween, there, known⟩ :=
        Recovery.Agrees.of_run (steps _ _ _ holds) here
      unfold Agrees Recovery.Agrees
      rw [run_loop proceeds, run_loop proceeds, here, there]
      obtain diagnostic | (following | final) := answer
      · exact ⟨rfl, known⟩
      · exact ih following between here known
      · exact ⟨rfl, known⟩

end Reader

end PapyrusScript
