import PapyrusScript.Proofs.Extent
import PapyrusScript.Proofs.Isolation.Body
import PapyrusScript.Proofs.Layout.Body
import PapyrusScript.Proofs.Remark

/-!
# Gaps in front of a line

The loops over the lines of a body, of a property, of a state and of a script
pass line breaks and comments in front of whatever they read.  So what such a
loop takes it takes behind a gap too.

A layout has no blank lines and no comments between the lines of a body.
`Statement.Spaced` is a layout that may have them, in front of a line and in
front of what closes the body.  It is taken like any other layout.
-/

namespace PapyrusScript

open Cursor

section Gaps

variable {α β : Type}

namespace Recovery

open Reader

/-- The steps of a reader pass a line break or a comment in front of them. -/
structure PassesGaps (step : α → Recovery (Step α)) : Prop where
  proceeds : ∀ value cursor, (step value).Proceeds cursor
  newline : ∀ (value : α) (cursor : Cursor), cursor.kind = .newline →
    (step value).run cursor.next = (step value).run cursor
  comment : ∀ (value : α) (cursor : Cursor), cursor.kind = .docComment →
    (step value).run cursor = (.again value, cursor.next)

/-- A reader that starts behind line breaks passes one in front of it. -/
theorem run_skipNewlines_bind_next
    {cursor : Cursor} (breaks : cursor.kind = .newline)
    (following : Unit → Recovery β) :
    (skipNewlines >>= following).run cursor.next =
      (skipNewlines >>= following).run cursor := by
  rw [run_skipNewlines_bind _ cursor, run_skipNewlines_next breaks,
    ← run_skipNewlines_bind]

section Gap

variable {step : α → Recovery (Step α)} {value : α} {cursor : Cursor}
  {gap row rest : List Token} {news : List Diagnostic} {fact : α → Prop}
  (passes : PassesGaps step)

include passes

theorem ends_loop_next
    {post : α → Cursor → Prop} (between : cursor.kind.isBetween = true) :
    Ends (loop step cursor.next.budget value) cursor.next post ↔
      Ends (loop step cursor.budget value) cursor post := by
  rcases Kind.isBetween_iff.1 between with breaks | doc
  · rw [ends_loop passes.proceeds, ends_loop passes.proceeds]
    unfold Ends
    rw [passes.newline value cursor breaks]
  · symm
    rw [ends_loop passes.proceeds]
    unfold Ends
    rw [passes.comment value cursor doc]

variable (gaps : IsGap gap)

include gaps

/-- A gap in front of the lines of a loop changes nothing. -/
theorem Remarks.of_gap
    (lines : (Recovery.iterate step value).Remarks row rest news fact) :
    (Recovery.iterate step value).Remarks (gap ++ row) rest news fact := by
  induction gap with
  | nil => exact lines
  | cons token gap ih =>
    obtain ⟨between, gaps⟩ := List.forall_mem_cons.1 gaps
    intro cursor here
    rw [← kind_of_budget here] at between
    have inside : token.kind ≠ .endOfText := by
      intro atEnd
      rw [kind_of_budget here, atEnd] at between
      cases between
    have behind := ih gaps cursor.next
      (budget_next_of_budget here inside)
    rw [ends_bind, ends_get] at behind ⊢
    apply ((ends_loop_next passes between).1 behind).mono
    rintro found after ⟨holds, place, remarked⟩
    exact ⟨holds, place, (quiet_next cursor).remarked.trans remarked⟩

theorem Takes.of_gap
    (lines : (Recovery.iterate step value).Takes row rest fact) :
    (Recovery.iterate step value).Takes (gap ++ row) rest fact :=
  (Remarks.of_gap passes gaps lines.remarks).takes

end Gap

/-! ## The loops that pass gaps -/

variable {cursor : Cursor}

/-- A comment in a body is passed by itself. -/
theorem run_bodyLine_of_docComment (block : Block) (statements : List Statement)
    (doc : cursor.kind = .docComment) :
    (bodyLine body block statements).run cursor =
      (.again statements, cursor.next) := by
  have unclosed : block.closedBy cursor.kind = false := by
    rw [doc]
    cases block <;> rfl
  have outside : cursor.atMemberStart = false := by
    unfold atMemberStart atTypeStart
    rw [doc]
    rfl
  unfold bodyLine
  rw [run_skipNewlines_bind_of_ne _ (by rw [doc]; nofun), run_get_bind]
  dsimp only
  rw [if_neg (by simp [doc, outside, ← unclosed]),
    if_neg (by rw [doc]; nofun), if_pos doc]
  rfl

theorem passesGaps_bodyLine (block : Block) :
    PassesGaps (bodyLine body block) where
  proceeds := proceeds_bodyLine travels_body block
  newline _ _ breaks := by
    unfold bodyLine
    exact run_skipNewlines_bind_next breaks _
  comment statements _ := run_bodyLine_of_docComment block statements

theorem run_nextAccessor_of_docComment
    (keyword : Token) (property : String) (accessors : Reader.Accessors)
    (doc : cursor.kind = .docComment) :
    (nextAccessor keyword property accessors).run cursor =
      (.again accessors, cursor.next) := by
  unfold nextAccessor
  rw [run_skipNewlines_bind_of_ne _ (by rw [doc]; nofun), run_get_bind,
    if_neg (by rw [doc]; nofun), if_pos doc]
  rfl

theorem passesGaps_nextAccessor (keyword : Token) (property : String) :
    PassesGaps (nextAccessor keyword property) where
  proceeds := proceeds_nextAccessor keyword property
  newline _ _ breaks := by
    unfold nextAccessor
    exact run_skipNewlines_bind_next breaks _
  comment accessors _ :=
    run_nextAccessor_of_docComment keyword property accessors

theorem run_nextInState_of_docComment
    (keyword : Token) (state : String) (found : Reader.StateBody)
    (doc : cursor.kind = .docComment) :
    (nextInState keyword state found).run cursor =
      (.again found, cursor.next) := by
  unfold nextInState
  rw [run_skipNewlines_bind_of_ne _ (by rw [doc]; nofun), run_get_bind, doc]
  rfl

theorem passesGaps_nextInState (keyword : Token) (state : String) :
    PassesGaps (nextInState keyword state) where
  proceeds := proceeds_nextInState keyword state
  newline _ _ breaks := by
    unfold nextInState
    exact run_skipNewlines_bind_next breaks _
  comment found _ := run_nextInState_of_docComment keyword state found

theorem passesGaps_nextDeclaration : PassesGaps nextDeclaration where
  proceeds := proceeds_nextDeclaration
  newline _ _ breaks := by
    unfold nextDeclaration
    exact run_skipNewlines_bind_next breaks _
  comment found cursor doc := by
    unfold nextDeclaration
    rw [run_skipNewlines_bind_of_ne _ (by rw [doc]; nofun), run_get_bind, doc]
    rfl

end Recovery

end Gaps

/-! ## Bodies with gaps between their lines -/

/-- A layout of a part of a body with gaps between the lines. -/
inductive Statement.Spaced : Statement.Part → List Token → Prop
  | line {statement : Statement} {row : List Token}
      (laid : LaidOut (.single statement) row) : Spaced (.single statement) row
  | loop {condition : Expression} {body : List Statement} {span : Span}
      {word closer line last : Token} {row inside : List Token}
      (kind : word.kind = .keyword .whileLoop)
      (reads : condition.ReadFrom row) (ends : line.kind = .newline)
      (spaced : Spaced (.body body) inside)
      (closes : closer.kind = .keyword .endWhile)
      (endsToo : last.kind = .newline) :
      Spaced (.single (.loop condition body span))
        (word :: (row ++ [line] ++ (inside ++ [closer, last])))
  | conditional {condition : Expression} {body : List Statement}
      {more : List (Branch Statement)} {otherwise : Option (List Statement)}
      {branchSpan span : Span} {word line : Token}
      {row inside behind : List Token}
      (kind : word.kind = .keyword .ifThen)
      (reads : condition.ReadFrom row) (ends : line.kind = .newline)
      (spaced : Spaced (.body body) inside)
      (rest : Spaced (.arms more otherwise) behind) :
      Spaced
        (.single
          (.conditional (⟨condition, body, branchSpan⟩ :: more) otherwise
            span))
        (word :: (row ++ [line] ++ (inside ++ behind)))
  | nil {gap : List Token} (gaps : IsGap gap) : Spaced (.body []) gap
  | cons {statement : Statement} {body : List Statement}
      {gap row behind : List Token} (gaps : IsGap gap)
      (first : Spaced (.single statement) row)
      (rest : Spaced (.body body) behind) :
      Spaced (.body (statement :: body)) (gap ++ (row ++ behind))
  | elseIf {condition : Expression} {body : List Statement}
      {more : List (Branch Statement)} {otherwise : Option (List Statement)}
      {span : Span} {word line : Token} {row inside behind : List Token}
      (kind : word.kind = .keyword .elseIf)
      (reads : condition.ReadFrom row) (ends : line.kind = .newline)
      (spaced : Spaced (.body body) inside)
      (rest : Spaced (.arms more otherwise) behind) :
      Spaced (.arms (⟨condition, body, span⟩ :: more) otherwise)
        (word :: (row ++ [line] ++ (inside ++ behind)))
  | otherwise {body : List Statement} {word line closer last : Token}
      {inside : List Token} (kind : word.kind = .keyword .otherwise)
      (ends : line.kind = .newline) (spaced : Spaced (.body body) inside)
      (closes : closer.kind = .keyword .endIf)
      (endsToo : last.kind = .newline) :
      Spaced (.arms [] (some body))
        (word :: line :: (inside ++ [closer, last]))
  | endIf {closer last : Token} (closes : closer.kind = .keyword .endIf)
      (ends : last.kind = .newline) : Spaced (.arms [] none) [closer, last]

namespace Statement

variable {body : List Statement} {gap row rest : List Token}

theorem Spaced.after (gaps : IsGap gap) (spaced : Spaced (.body body) row) :
    Spaced (.body body) (gap ++ row) := by
  cases spaced with
  | nil behind => exact .nil (gaps.append behind)
  | cons behind first others =>
    rw [← List.append_assoc]
    exact .cons (gaps.append behind) first others

/-- The arms of a conditional behind a body close the body. -/
theorem Spaced.heads_arms
    {branches : List (Branch Statement)} {otherwise : Option (List Statement)}
    (spaced : Spaced (.arms branches otherwise) row) (rest : List Token) :
    Heads (fun kind => Block.conditional.closedBy kind = true)
      (row ++ rest) := by
  cases spaced with
  | elseIf kind _ _ _ _ | otherwise kind _ _ _ _ | endIf kind _ =>
    exact Reader.heads_closedBy kind rfl

end Statement

/-! ## The induction -/

namespace Statement

variable {row : List Token}

/-- A layout with gaps is taken, by induction on the layout. -/
theorem isTaken_of_spaced
    {part : Part} (spaced : Spaced part row) : part.IsTaken row := by
  induction spaced with
  | line laid => exact isTaken_of_laidOut laid
  | loop kind reads ends _ closes endsToo taken =>
    exact isTaken_loop kind reads ends taken closes endsToo
  | conditional kind reads ends _ more taken arms =>
    exact isTaken_conditional kind reads ends taken arms more.heads_arms
  | nil gaps =>
    intro wellFormed block rest before closes
    have passed := Recovery.Takes.of_gap
      (Recovery.passesGaps_bodyLine block) gaps
      (isTaken_nil wellFormed block rest before closes)
    rwa [List.append_nil] at passed
  | cons gaps _ _ taken others =>
    intro wellFormed block rest before closes
    exact .of_gap (Recovery.passesGaps_bodyLine block) gaps
      (isTaken_cons taken others wellFormed block rest before closes)
  | elseIf kind reads ends _ more taken arms =>
    exact isTaken_elseIf kind reads ends taken arms more.heads_arms
  | otherwise kind ends _ closes endsToo taken =>
    exact isTaken_otherwise kind ends taken closes endsToo
  | endIf closes ends => exact isTaken_endIf closes ends

end Statement

end PapyrusScript
