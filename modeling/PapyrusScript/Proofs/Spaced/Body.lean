import PapyrusScript.Proofs.Consumption
import PapyrusScript.Proofs.Spaced
import PapyrusScript.Proofs.Transcript.Line

/-!
# Lines and bodies that are read are laid out

What a reader of a line has passed in front of more text is a layout of its
answer: a row that is read as an expression wherever it stands, a condition
with the end of its line, or a statement of one line.

What the reader of a body has passed in front of more text is a layout of its
answer with gaps between the lines, unless something was reported.  Such a
layout is taken wherever it stands.  So a row that is read as a body without
errors in front of one end of a block is read as that body in front of any
other: `Statement.BodyFrom.takes`.
-/

namespace PapyrusScript

open Cursor

variable {cursor : Cursor}

def Statement.SpacedLine (statement : Statement) (row : List Token) : Prop :=
  Spaced (.single statement) row ∧ statement.WellFormed

/-- An expression behind a word or a sign, or nothing. -/
inductive Expression.OptionFrom : Option Expression → List Token → Prop
  | none : OptionFrom none []
  | some {value : Expression} {row : List Token} (reads : value.ReadFrom row) :
      OptionFrom (some value) row

namespace Reader

/-! ## Parts of a line -/

theorem consumes_expression :
    expression.Consumes cursor Expression.ReadFrom := by
  have travels := (advances_expression cursor).travels
  have yields : expression.Yields cursor fun value after =>
      cursor.Covers after value.ReadFrom := by
    apply (sound_expression cursor).mono
    intro value after shows
    apply shows.passed.mono
    rintro rendering ⟨passes, read⟩
    exact Expression.readFrom_of_renders read.shaped read.renders passes.shallow
  exact (yields.covers travels.run.grows).consumes travels

theorem consumes_endOfLine (context : String) :
    (endOfLine context).Consumes cursor fun _ row =>
      ∃ line, row = [line] ∧ line.kind = .newline := by
  unfold endOfLine
  apply Consumes.get
  split
  · rename_i found
    apply Consumes.advance (by rw [found]; rfl)
    exact .pure ⟨_, rfl, found⟩
  · rename_i atEnd
    exact ⟨.refl cursor, .nil fun inside => absurd atEnd inside⟩
  · exact (advances_reject _).travels

theorem consumes_expect (kind : Kind) (purpose : String)
    (ordinary : kind.isOrdinary = true) :
    (expect kind purpose).Consumes cursor fun token row =>
      row = [token] ∧ token.kind = kind :=
  (covers_expect kind purpose (Kind.ne_endOfText_of_isOrdinary ordinary)).consumes
    (advances_expect kind purpose cursor ordinary).travels

theorem consumes_identifier (what : String) :
    (identifier what).Consumes cursor fun node row =>
      ∃ token, row = [token] ∧ token.kind = .identifier ∧
        node = ⟨token.text, token.span⟩ :=
  (covers_identifier what).consumes (advances_identifier what cursor).travels

theorem consumes_typeName :
    typeName.Consumes cursor fun type row => type.Spelled row :=
  covers_typeName.consumes (advances_typeName cursor).travels

/-! ## Statements -/

theorem consumes_returnedValue :
    returnedValue.Consumes cursor Expression.OptionFrom := by
  unfold returnedValue
  apply Consumes.get
  dsimp only
  split
  · exact .pure .none
  · apply consumes_expression.bind
    intro value after
    apply Consumes.pure
    intro row reads
    rw [List.append_nil]
    exact .some reads

/-- A result lays out its line. -/
theorem consumes_returnStatement :
    returnStatement.Consumes cursor Statement.SpacedLine := by
  unfold returnStatement
  apply (consumes_expect _ _ rfl).bind
  intro keyword after
  apply consumes_returnedValue.bind
  intro value after
  apply Consumes.get
  apply (consumes_endOfLine _).bind
  intro _ _
  apply Consumes.pure
  rintro _ ⟨line, rfl, ends⟩ row reads _ ⟨rfl, kind⟩
  refine ⟨.line ?_, trivial⟩
  rw [List.append_nil]
  cases reads with
  | none => exact .result kind ends
  | some reads => exact .resultOf kind reads ends

theorem consumes_initialExpression :
    initialExpression.Consumes cursor Expression.InitialFrom := by
  unfold initialExpression
  apply Consumes.get
  split
  · rename_i found
    apply Consumes.advance (by rw [found]; rfl)
    apply consumes_expression.bind
    intro value after
    apply Consumes.pure
    intro row reads
    rw [List.append_nil]
    exact .present found reads
  · exact .pure .absent

/-- A local declaration lays out its line. -/
theorem consumes_declareStatement :
    declareStatement.Consumes cursor Statement.SpacedLine := by
  unfold declareStatement
  apply consumes_typeName.bind
  intro type after
  apply (consumes_identifier _).bind
  intro name after
  apply consumes_initialExpression.bind
  intro initial after
  apply Consumes.get
  apply (consumes_endOfLine _).bind
  intro _ _
  apply Consumes.pure
  rintro _ ⟨line, rfl, ends⟩ row starts _ ⟨token, rfl, named, rfl⟩ before
    spelled
  refine ⟨.line ?_, trivial⟩
  rw [List.append_nil]
  exact .declare spelled named starts ends

def LineOf (statement : Statement) (row : List Token) : Prop :=
  ∀ line, line.kind = .newline → statement.SpacedLine (row ++ [line])

/-- The sign and the value of an assignment follow its target. -/
theorem consumes_assignment {operator : AssignmentOperator}
    (found : cursor.kind.assignmentOperator? = some operator)
    (start : Position) (target : Expression) :
    (assignment start target operator).Consumes cursor fun statement row =>
      ∀ before, target.ReadFrom before → LineOf statement (before ++ row) := by
  unfold assignment
  split
  · rename_i assignable
    apply Consumes.advance (isOrdinary_of_assignmentOperator? found)
    apply consumes_expression.bind
    intro value after
    apply Consumes.get
    split
    · exact ⟨.refl after, blames_of_isInner after rfl⟩
    · apply Consumes.pure
      intro row reads before first line ends
      refine ⟨.line ?_, assignable⟩
      have laid : Statement.LaidOut
          (.single (.assign target operator value (after.spanFrom start)))
          (before ++ cursor.current :: (row ++ [line])) :=
        .assign first found reads ends
      simpa using laid
  · exact ⟨.refl cursor, blames_of_isInner cursor rfl⟩

theorem consumes_assignmentOr (start : Position) (target : Expression) :
    (assignmentOr start target).Consumes cursor fun statement row =>
      ∀ before, target.ReadFrom before → LineOf statement (before ++ row) := by
  unfold assignmentOr
  apply Consumes.get
  split
  · rename_i operator found
    exact consumes_assignment found start target
  · apply Consumes.pure
    intro before reads line ends
    rw [List.append_nil]
    exact ⟨.line (.expression reads ends), trivial⟩

theorem consumes_expressionStatement :
    expressionStatement.Consumes cursor Statement.SpacedLine := by
  unfold expressionStatement
  apply Consumes.get
  apply consumes_expression.bind
  intro value after
  apply (consumes_assignmentOr _ value).bind
  intro statement after
  apply (consumes_endOfLine _).bind
  intro _ _
  apply Consumes.pure
  rintro _ ⟨line, rfl, ends⟩ row assigns before reads
  rw [List.append_nil, ← List.append_assoc]
  exact assigns before reads line ends

end Reader

/-! ## Bodies that are read are laid out -/

namespace Statement

variable {body more : List Statement} {row : List Token}

def SpacedBody (body : List Statement) (row : List Token) : Prop :=
  Spaced (.body body) row ∧ WellFormedBody body

def StartsBody (body : List Statement) (row : List Token) : Prop :=
  ∀ more behind, SpacedBody more behind → SpacedBody (body ++ more)
    (row ++ behind)

theorem StartsBody.nil : StartsBody [] [] := fun _ _ spaced => spaced

theorem StartsBody.after
    {gap : List Token} (starts : StartsBody body row) (gaps : IsGap gap) :
    StartsBody body (row ++ gap) := by
  rintro more behind ⟨spaced, wellFormed⟩
  rw [List.append_assoc]
  exact starts more (gap ++ behind) ⟨spaced.after gaps, wellFormed⟩

theorem StartsBody.concat {statement : Statement} {here : List Token}
    (starts : StartsBody body row) (line : statement.SpacedLine here) :
    StartsBody (body ++ [statement]) (row ++ here) := by
  rintro more behind ⟨spaced, wellFormed⟩
  rw [List.append_assoc, List.append_assoc]
  exact starts (statement :: more) (here ++ behind)
    ⟨.cons .nil line.1 spaced, line.2, wellFormed⟩

theorem StartsBody.whole (starts : StartsBody body row) :
    SpacedBody body row := by
  have whole := starts [] [] ⟨.nil .nil, trivial⟩
  rwa [List.append_nil, List.append_nil] at whole

end Statement

open Statement

/-! ## Arms of a conditional -/

namespace Reader.Arms

variable {body : List Statement} {word line : Token}

/-- A layout of the arms that have been found, all of which are complete,
behind the keyword of the first. -/
structure Start (arms : Arms) (row : List Token) : Prop where
  complete : arms.complete = true
  early : arms.otherwise = none →
    ∀ more otherwise behind span, Spaced (.arms more otherwise) behind →
      WellFormedBranches more → WellFormedOtherwise otherwise →
        SpacedLine (.conditional (arms.branches ++ more) otherwise span)
          (row ++ behind)
  late : ∀ inside, arms.otherwise = some inside →
    ∀ (closer last : Token) span, closer.kind = .keyword .endIf →
      last.kind = .newline →
        SpacedLine (.conditional arms.branches (some inside) span)
          (row ++ [closer, last])

def Whole (arms : Arms) (row : List Token) : Prop :=
  arms.complete = true ∧
    ∀ span, SpacedLine (.conditional arms.branches arms.otherwise span) row

variable {arms : Arms} {row inside here : List Token}

/-- The first arm starts the layout of a conditional. -/
theorem start_first {value : Expression} (kind : word.kind = .keyword .ifThen)
    (reads : value.ReadFrom here) (ends : line.kind = .newline)
    (spaced : SpacedBody body inside) (span : Span) :
    Start ((Arms.mk [] none true).add (some value) body span)
      (word :: (here ++ [line] ++ inside)) where
  complete := rfl
  early _ more otherwise behind whole arms others last := by
    have laid : Spaced
        (.single (.conditional (⟨value, body, span⟩ :: more) otherwise whole))
        (word :: (here ++ [line] ++ (inside ++ behind))) :=
      .conditional kind reads ends spaced.1 arms
    rw [add_of_early rfl]
    refine ⟨?_, List.cons_ne_nil _ _, ⟨spaced.2, others⟩, last⟩
    simpa using laid
  late _ closed := nomatch closed

theorem Start.elseIf {value : Expression} (start : arms.Start row)
    (early : arms.otherwise = none) (kind : word.kind = .keyword .elseIf)
    (reads : value.ReadFrom here) (ends : line.kind = .newline)
    (spaced : SpacedBody body inside) (span : Span) :
    (arms.add (some value) body span).Start
      (row ++ word :: (here ++ [line] ++ inside)) := by
  rw [add_of_early early]
  refine ⟨start.complete, ?_, fun _ closed => ?_⟩
  · intro _ more otherwise behind whole laid others last
    have further := start.early early (⟨value, body, span⟩ :: more) otherwise
      _ whole (.elseIf kind reads ends spaced.1 laid) ⟨spaced.2, others⟩ last
    simpa using further
  · rw [early] at closed
    cases closed

theorem Start.otherwise (start : arms.Start row) (early : arms.otherwise = none)
    (kind : word.kind = .keyword .otherwise) (ends : line.kind = .newline)
    (spaced : SpacedBody body inside) :
    Start { arms with otherwise := some body }
      (row ++ word :: line :: inside) := by
  refine ⟨start.complete, nofun, ?_⟩
  rintro _ ⟨⟩ closer last span closes endsToo
  have whole := start.early early [] (some body) _ span
    (.otherwise kind ends spaced.1 closes endsToo) trivial spaced.2
  simpa using whole

theorem Start.endIf {closer last : Token} (start : arms.Start row)
    (closes : closer.kind = .keyword .endIf) (ends : last.kind = .newline) :
    arms.Whole (row ++ [closer, last]) := by
  refine ⟨start.complete, fun span => ?_⟩
  cases closed : arms.otherwise with
  | none =>
    have whole := start.early closed [] none _ span (.endIf closes ends)
      trivial trivial
    rwa [List.append_nil] at whole
  | some inside => exact start.late inside closed closer last span closes ends

end Reader.Arms

namespace Recovery

open Reader

/-! ## Ends of lines and conditions -/

theorem consumes_finishLine (context : String) :
    (finishLine context).Consumes cursor fun _ row =>
      ∃ line, row = [line] ∧ line.kind = .newline := by
  unfold finishLine
  apply Consumes.run_bind (consumes_endOfLine context)
  · intro _ after
    apply Consumes.pure
    rintro _ ⟨line, rfl, ends⟩
    exact ⟨line, rfl, ends⟩
  · exact fun _ _ blames =>
      ⟨tells_reportAndSkipLine _, travels_reportAndSkipLine blames⟩

/-- A condition lays out an expression and the end of its line. -/
theorem consumes_condition (context : String) :
    (Reader.condition context).Consumes cursor fun found row =>
      ∃ value here line, found = some value ∧ row = here ++ [line] ∧
        value.ReadFrom here ∧ line.kind = .newline := by
  unfold Reader.condition
  apply Consumes.run_bind consumes_expression
  · intro value after
    apply Consumes.run_bind (consumes_endOfLine context)
    · intro _ after
      apply Consumes.pure
      rintro _ ⟨line, rfl, ends⟩ here reads
      exact ⟨value, here, line, rfl, by rw [List.append_nil], reads, ends⟩
    · exact fun _ _ blames =>
        ⟨tells_synchronizeAfter _ _, travels_synchronizeAfter blames _⟩
  · exact fun _ _ blames =>
      ⟨tells_synchronizeAfter _ _, travels_synchronizeAfter blames _⟩

theorem consumes_skipNewlines :
    skipNewlines.Consumes cursor fun _ row => IsGap row :=
  (covers_skipNewlines.mono fun _ _ => .of_newlines).consumes
    (travels_skipNewlines cursor)

section Body

variable {body : Block → Recovery (List Statement)}
  (bodyTravels : ∀ block cursor, (body block).Travels cursor)
  (bodyConsumes : ∀ block cursor, (body block).Consumes cursor SpacedBody)

include bodyTravels bodyConsumes

/-- An arm goes on with the layout of the arms in front. -/
theorem consumes_nextArm (opener : Token) (arms : Reader.Arms) :
    (nextArm body opener arms).Consumes cursor fun decision row =>
      ∀ before, arms.Start before →
        Step.Adds Reader.Arms.Start Reader.Arms.Whole decision
          (before ++ row) := by
  unfold nextArm
  apply Consumes.get
  split
  · rename_i kind
    apply Consumes.advance (by rw [kind]; rfl)
    unfold reportElseIfAfterElse
    split
    · apply Tells.consumes
      · apply (tells_complain _ _).bind
        intro _ cursor
        apply (travels_condition _ cursor).grows.bind
        intro condition after
        apply (bodyTravels _ after).grows.bind
        exact fun _ _ => .pure _
      · apply (travels_complain rfl _).bind
        intro _ cursor
        apply (travels_condition _ cursor).bind
        intro condition after
        apply (bodyTravels _ after).bind
        exact fun _ _ => .get (.pure _)
    · rename_i early
      rw [pure_bind]
      apply (consumes_condition _).bind
      intro condition after
      apply (bodyConsumes _ after).bind
      intro inside after
      apply Consumes.get
      apply Consumes.pure
      rintro row spaced _ ⟨value, here, line, rfl, rfl, reads, ends⟩ before
        start
      have noElse : arms.otherwise = none := by simpa using early
      have added := start.elseIf noElse kind reads ends spaced
        (after.spanFrom cursor.current.span.start)
      rwa [List.append_nil]
  · rename_i kind
    apply Consumes.advance (by rw [kind]; rfl)
    apply (consumes_finishLine _).bind
    intro _ after
    apply (bodyConsumes _ after).bind
    intro inside after
    split
    · apply Tells.consumes
      · exact (tells_complain _ _).bind fun _ _ => .pure _
      · exact (travels_complain rfl _).bind fun _ _ => .pure _
    · rename_i early
      apply Consumes.pure
      rintro row spaced _ ⟨line, rfl, ends⟩ before start
      have noElse : arms.otherwise = none := by simpa using early
      have added := start.otherwise noElse kind ends spaced
      rwa [List.append_nil]
  · rename_i kind
    apply Consumes.advance (by rw [kind]; rfl)
    apply (consumes_finishLine _).bind
    intro _ after
    apply Consumes.pure
    rintro _ ⟨line, rfl, ends⟩ before start
    exact start.endIf kind ends
  · apply Tells.consumes
    · exact (tells_reportUnterminated _ _).bind fun _ _ => .pure _
    · exact (travels_reportUnterminated _ _).bind fun _ _ => .pure _

/-- A conditional lays out its lines. -/
theorem consumes_conditionalStatement (kind : cursor.kind = .keyword .ifThen) :
    (conditionalStatement body).Consumes cursor fun answer row =>
      ∃ statement, answer = some statement ∧ statement.SpacedLine row := by
  unfold conditionalStatement
  apply Consumes.advance (by rw [kind]; rfl)
  apply (consumes_condition _).bind
  intro condition after
  apply (bodyConsumes _ after).bind
  intro inside after
  apply Consumes.get
  apply Consumes.get
  apply (Consumes.loop (proceeds_nextArm bodyTravels cursor.current)
    (fun arms _ => consumes_nextArm bodyTravels bodyConsumes _ arms) _).bind
  intro arms last
  have whole {row middle here : List Token} {line : Token} {value : Expression}
      (closes : ∀ before,
        ((Reader.Arms.mk [] none true).add (some value) inside
          (after.spanFrom cursor.current.span.start)).Start before →
            arms.Whole (before ++ row))
      (spaced : SpacedBody inside middle) (reads : value.ReadFrom here)
      (ends : line.kind = .newline) :
      arms.Whole (cursor.current :: (here ++ [line] ++ (middle ++ row))) := by
    have closed := closes _ (Reader.Arms.start_first kind reads ends spaced _)
    simpa using closed
  split
  · apply Consumes.get
    apply Consumes.pure
    rintro row closes middle spaced _ ⟨value, here, line, rfl, rfl, reads, ends⟩
    rw [List.append_nil]
    exact ⟨_, rfl, (whole closes spaced reads ends).2 _⟩
  · rename_i incomplete
    apply Consumes.pure
    rintro row closes middle spaced _ ⟨value, here, line, rfl, rfl, reads, ends⟩
    exact absurd (whole closes spaced reads ends).1 incomplete

/-! ## Loops -/

omit bodyTravels bodyConsumes in
theorem consumes_endOfLoop (opener : Token) :
    (endOfLoop opener).Consumes cursor fun _ row =>
      ∃ closer last, row = [closer, last] ∧
        closer.kind = .keyword .endWhile ∧ last.kind = .newline := by
  unfold endOfLoop
  apply Consumes.get
  split
  · rename_i kind
    apply Consumes.advance (by rw [kind]; rfl)
    apply (consumes_finishLine _).mono
    rintro _ _ ⟨line, rfl, ends⟩
    exact ⟨_, line, rfl, kind, ends⟩
  · exact (tells_reportUnterminated _ _).consumes
      (travels_reportUnterminated _ _)

omit bodyTravels in
/-- A loop lays out its lines. -/
theorem consumes_loopStatement (kind : cursor.kind = .keyword .whileLoop) :
    (loopStatement body).Consumes cursor fun answer row =>
      ∃ statement, answer = some statement ∧ statement.SpacedLine row := by
  unfold loopStatement
  apply Consumes.advance (by rw [kind]; rfl)
  apply (consumes_condition _).bind
  intro condition after
  apply (bodyConsumes _ after).bind
  intro inside after
  apply (consumes_endOfLoop _).bind
  intro _ after
  cases condition with
  | some found =>
    apply Consumes.get
    apply Consumes.pure
    rintro _ ⟨closer, last, rfl, closes, endsToo⟩ middle spaced _
      ⟨_, here, line, ⟨⟩, rfl, reads, ends⟩
    rw [List.append_nil]
    exact ⟨_, rfl, .loop kind reads ends spaced.1 closes endsToo, spaced.2⟩
  | none =>
    apply Consumes.pure
    rintro _ _ _ _ _ ⟨_, _, _, ⟨⟩, _⟩

/-! ## Lines of a body -/

/-- A statement lays out its lines. -/
theorem consumes_statement :
    (Reader.statement body).Consumes cursor fun answer row =>
      ∃ statement, answer = some statement ∧ statement.SpacedLine row := by
  unfold Reader.statement
  apply Reader.Consumes.get
  split
  · rename_i kind
    exact .lift (consumes_conditionalStatement bodyTravels bodyConsumes kind)
  · rename_i kind
    exact .lift (consumes_loopStatement bodyConsumes kind)
  · apply Reader.Consumes.map
    exact consumes_returnStatement.mono
      fun statement _ spaced => ⟨statement, rfl, spaced⟩
  · split
    · apply Reader.Consumes.map
      exact consumes_declareStatement.mono
        fun statement _ spaced => ⟨statement, rfl, spaced⟩
    · apply Reader.Consumes.map
      exact consumes_expressionStatement.mono
        fun statement _ spaced => ⟨statement, rfl, spaced⟩

/-- A line goes on with the layout of the statements in front. -/
theorem consumes_bodyLine (block : Block) (statements : List Statement) :
    (bodyLine body block statements).Consumes cursor fun decision row =>
      ∀ before, StartsBody statements before →
        Step.Adds StartsBody StartsBody decision (before ++ row) := by
  unfold bodyLine
  apply consumes_skipNewlines.bind
  intro _ after
  apply Consumes.get
  dsimp only
  split
  · apply Consumes.pure
    intro gap gaps before starts
    rw [List.append_nil]
    exact starts.after gaps
  · split
    · rename_i terminator
      split
      · apply Consumes.pure
        intro gap gaps before starts
        rw [List.append_nil]
        exact starts.after gaps
      · have ordinary : after.kind.isOrdinary = true := by
          refine Kind.isOrdinary_of_not_isInvalid ?_ fun invalid => ?_
          · rintro atEnd
            rw [atEnd] at terminator
            cases terminator
          · cases found : after.kind <;>
              simp [found, Kind.isBlockTerminator, Kind.isInvalid] at *
        apply Tells.consumes
        · apply grows_advance.bind_tells
          exact fun _ _ => (tells_complain _ _).bind fun _ _ => .pure _
        · apply (advances_advance ordinary).travels.bind
          exact fun _ _ => (travels_complain rfl _).bind fun _ _ => .pure _
    · split
      · rename_i doc
        apply Consumes.advance (by rw [doc]; rfl)
        apply Consumes.pure
        intro gap gaps before starts
        exact starts.after (gaps.append (.of_docComment doc))
      · apply Consumes.run_bind (consumes_statement bodyTravels bodyConsumes)
        · intro answer last
          cases answer with
          | some statement =>
            apply Consumes.pure
            rintro row ⟨_, ⟨⟩, spaced⟩ gap gaps before starts
            rw [List.append_nil, ← List.append_assoc]
            exact (starts.after gaps).concat spaced
          | none =>
            apply Consumes.pure
            rintro row ⟨_, ⟨⟩, _⟩
        · exact fun _ _ blames =>
            ⟨tells_synchronizeAfter _ _, travels_synchronizeAfter blames _⟩

end Body

theorem consumes_bodyWithin (budget : List Token) (block : Block) :
    (bodyWithin budget block).Consumes cursor SpacedBody := by
  induction budget generalizing block cursor with
  | nil => exact .pure ⟨.nil .nil, trivial⟩
  | cons _ budget ih =>
    unfold bodyWithin
    apply Consumes.inBlock
    apply Consumes.get
    apply (Consumes.loop (proceeds_bodyLine (travels_bodyWithin budget) block)
      (fun statements _ => consumes_bodyLine (travels_bodyWithin budget)
        (fun _ _ => ih _) block statements) []).mono
    intro inside row holds
    exact (holds [] .nil).whole

theorem consumes_body (block : Block) :
    (Reader.body block).Consumes cursor SpacedBody :=
  .get (consumes_bodyWithin _ block)

end Recovery

/-! ## Bodies by themselves -/

namespace Statement

variable {body : List Statement} {row rest : List Token}

/-- A row of tokens by itself is read as a body of a conditional, up to the
places of its parts. -/
def BodyFrom (body : List Statement) (row : List Token) : Prop :=
  Reader.ReadsAlone (liftM (Reader.body .conditional)) row fun found =>
    bareBody found = bareBody body

/-- A body is read as the same wherever it stands in front of something that
closes its block. -/
theorem BodyFrom.takes {block : Block} (reads : BodyFrom body row)
    (closes : Heads (fun kind => block.closedBy kind = true) rest) :
    (Reader.body block).Takes row rest fun found =>
      bareBody found = bareBody body := by
  obtain ⟨value, ⟨spaced, wellFormed⟩, same⟩ :=
    Reader.ReadsAlone.consumed reads fun _ =>
      .lift (Recovery.consumes_body .conditional)
  have taken := Reader.takes_body_of_isTaken (isTaken_of_spaced spaced)
    wellFormed closes
  exact taken.mono fun _ sameToo => sameToo.trans same

end Statement

end PapyrusScript
