import PapyrusScript.Proofs.ExpressionRoundTrip
import PapyrusScript.Proofs.Soundness
import PapyrusScript.Proofs.Take

/-!
# Rows of tokens that are read as an expression

`Expression.ReadFrom tree row` says that the tokens of `row`, with nothing
else around them, are read as `tree`.  Then they are read as `tree` in any
place where no token follows that would go on with it: what has been read from
a row renders the answer, and a rendering is read back anywhere.

A line that starts with such a row does not look like a declaration.

No reader passes an end of the text, so there is none in a row that a reader
takes, and the text ends behind such a row.  In particular every rendering of
an expression is a row that is read as the expression.
-/

namespace PapyrusScript

open Cursor

/-- A row of tokens is read as an expression, up to the places of its parts,
to its last token and without a report. -/
def Expression.ReadFrom (tree : Expression) (row : List Token) : Prop :=
  Reader.expression.Ends (Cursor.start row)
    (fun value after =>
      value.bare = tree.bare ∧ after.budget = Cursor.missingEnd row ∧
        after.reported = [])
    (fun _ _ => False)

/-! ## A subscript behind the first token -/

/-- In a rendering that starts with a name and a bracket, an expression is
subscripted, so the bracket is not closed at once. -/
def Rendering.Subscripts (rendering : Rendering) : Prop :=
  ∀ first second rest, rendering = first :: second :: rest →
    first.1.kind = .identifier → second.1.kind = .symbol .openBracket →
      ∃ third more, rest = third :: more ∧ third.1.kind ≠ .symbol .closeBracket

namespace Rendering

variable {before behind : Rendering} {first sign : Token × Nat}

theorem Subscripts.of_kind (named : first.1.kind ≠ .identifier) :
    Subscripts (first :: behind) := by
  intro start second rest shape name
  cases shape
  exact absurd name named

/-- Subscripts behind a rendering do not close a bracket at once. -/
theorem Subscripts.append
    (subscripts : before.Subscripts) (nonempty : before ≠ [])
    (bracket : sign.1.kind = .symbol .openBracket →
      ∃ third more, behind = third :: more ∧
        third.1.kind ≠ .symbol .closeBracket) :
    Subscripts (before ++ sign :: behind) := by
  intro first second rest shape name opens
  cases before with
  | nil => exact absurd rfl nonempty
  | cons start tail =>
    cases tail with
    | nil =>
      cases shape
      exact bracket opens
    | cons next tail =>
      cases shape
      obtain ⟨third, more, rfl, inside⟩ := subscripts _ _ _ rfl name opens
      exact ⟨third, more ++ sign :: behind, rfl, inside⟩

end Rendering

/-- A rendering that starts with a name and a bracket subscripts it. -/
theorem Renders.subscripts
    {level : Nat} {strength : Precedence} {tree : Expression}
    {rendering : Rendering}
    (renders : Renders level (.expression strength tree) rendering) :
    rendering.Subscripts := by
  generalize whole : Part.expression strength tree = part at renders
  induction renders generalizing strength tree with
  | literal _ | name _ =>
    intro first second rest shape
    simp at shape
  | signed sign _ _ => exact .of_kind (by simp [sign])
  | parenthesized opens _ _ _ => exact .of_kind (by simp [opens])
  | weaken _ _ ih =>
    cases whole
    exact ih rfl
  | unary kind _ _ _ => exact .of_kind (by simp [kind])
  | @binary _ operator _ _ _ _ _ _ kind renders _ ih _ =>
    cases whole
    apply (ih rfl).append renders.ne_nil
    intro bracket
    rw [kind] at bracket
    cases operator <;> cases bracket
  | cast kind renders _ ih
  | member kind _ renders ih
  | arrayLength kind _ renders ih
  | call kind _ renders _ ih _ =>
    cases whole
    apply (ih rfl).append renders.ne_nil
    intro bracket
    rw [kind] at bracket
    cases bracket
  | index _ _ renders _ second ih _ =>
    cases whole
    apply (ih rfl).append renders.ne_nil
    intro bracket
    obtain ⟨third, more, rfl, start⟩ := second.starts
    refine ⟨third, _, rfl, ?_⟩
    intro closes
    have starting := start.kind
    rw [closes] at starting
    cases starting
  | createObject kind _ | createArray kind _ _ _ _ _ =>
    exact .of_kind (by simp [kind])
  | noArguments => cases whole
  | lastArgument _ _ _ => cases whole
  | nextArgument _ _ _ _ _ _ => cases whole

/-! ## From a row to a rendering -/

theorem Expression.ReadFrom.rendering
    {tree : Expression} {row : List Token} (reads : tree.ReadFrom row) :
    ∃ value rendering, Rendering.tokens rendering = row ∧
      Reader.Rendered 1 .logicalOr value rendering ∧
        rendering.level ≤ nestingLimit ∧ value.bare = tree.bare := by
  have sound := Reader.sound_expression (Cursor.start row)
  obtain ⟨value, after, shows, same, atEnd, silent⟩ :=
    sound.exists_of_ends reads
  obtain ⟨rendering, passes, read⟩ := shows.holds (by simp [silent])
  have budget := passes.budget
  rw [budget_start, atEnd] at budget
  have tokens := List.append_cancel_right budget
  exact ⟨value, rendering, tokens.symm, read, passes.shallow, same⟩

section Place

variable {tree : Expression} {row rest : List Token} {cursor : Cursor}
  {follow : Token}

/-- A row is read as the same expression wherever it stands. -/
theorem Expression.ReadFrom.ends (reads : tree.ReadFrom row)
    (here : cursor.budget = row ++ follow :: rest)
    (stops : follow.kind.continuation? = none) :
    Reader.expression.Ends cursor
      (fun value after =>
        value.bare = tree.bare ∧ after.budget = follow :: rest ∧
          cursor.Quiet after)
      (fun _ _ => False) := by
  obtain ⟨value, rendering, rfl, read, shallow, same⟩ := reads.rendering
  rw [← same]
  exact Reader.ends_expression_of_level_le read.shaped read.renders here stops
    shallow

/-! ## Lines that start with an expression -/

/-- Whether a token of the kind may stand behind an expression in a line of a
body: it ends the line, or it assigns. -/
def Kind.endsExpression (kind : Kind) : Bool :=
  kind = .newline || kind.assignmentOperator?.isSome

theorem Kind.continuation?_of_endsExpression
    {kind : Kind} (ends : kind.endsExpression = true) :
    kind.continuation? = none := by
  cases kind with
  | symbol sign => cases sign <;> first | rfl | cases ends
  | newline => rfl
  | _ => cases ends

theorem Expression.ReadFrom.starts (reads : tree.ReadFrom row) :
    ∃ first more, row = first :: more ∧ first.kind.startsExpression = true := by
  obtain ⟨value, rendering, rfl, read, _⟩ := reads.rendering
  obtain ⟨⟨first, level⟩, more, rfl, start⟩ := read.renders.starts
  exact ⟨first, _, rfl, start.kind⟩

/-- Behind a name at the start of an expression stands what goes on with it,
or what follows the expression; there is no type in front. -/
theorem Expression.ReadFrom.kindAfterType (reads : tree.ReadFrom row)
    (here : cursor.budget = row ++ follow :: rest)
    (ends : follow.kind.endsExpression = true)
    (named : cursor.kind = .identifier) :
    cursor.kindAfterType.endsExpression = true ∨
      cursor.kindAfterType.continuation?.isSome = true := by
  obtain ⟨value, rendering, rfl, read, _⟩ := reads.rendering
  have continues := read.renders.continues
  have subscripts := read.renders.subscripts
  obtain ⟨⟨first, _⟩, more, rfl, _⟩ := read.renders.starts
  have name : first.kind = .identifier := (kind_of_budget here).symm.trans named
  have shorter : cursor.typeLength = 1 := by
    unfold typeLength
    rw [if_neg]
    simp only [Bool.and_eq_true, decide_eq_true_eq, kindAt_eq, here]
    intro reached
    obtain ⟨opens, closes⟩ := reached
    cases more with
    | nil =>
      have bracket : follow.kind = .symbol .openBracket := by
        simpa using opens
      rw [bracket] at ends
      cases ends
    | cons entry more =>
      obtain ⟨second, _⟩ := entry
      have bracket : second.kind = .symbol .openBracket := by
        simpa using opens
      obtain ⟨⟨third, _⟩, behind, rfl, apart⟩ :=
        subscripts _ _ _ rfl name bracket
      exact apart (by simpa using closes)
  unfold Cursor.kindAfterType
  rw [shorter, kindAt_eq, here]
  cases more with
  | nil =>
    left
    simpa using ends
  | cons entry more =>
    right
    obtain ⟨second, _⟩ := entry
    obtain ⟨bond, found, _⟩ := continues _ _ more rfl (Or.inl name)
    simp [found]

/-- What looks like a type at the start of an expression is a name. -/
theorem Kind.isTypeKeyword_of_startsExpression
    {kind : Kind} (starts : kind.startsExpression = true) :
    kind.isTypeKeyword = false := by
  cases kind with
  | keyword word => cases word <;> first | rfl | cases starts
  | _ => rfl

theorem Expression.ReadFrom.kind (reads : tree.ReadFrom row)
    (here : cursor.budget = row ++ follow :: rest) :
    cursor.kind.startsExpression = true := by
  obtain ⟨first, more, rfl, start⟩ := reads.starts
  rw [kind_of_budget here]
  exact start

/-- A line that starts with an expression declares no variable. -/
theorem Expression.ReadFrom.atVariableStart (reads : tree.ReadFrom row)
    (here : cursor.budget = row ++ follow :: rest)
    (ends : follow.kind.endsExpression = true) :
    cursor.atVariableStart = false := by
  have plain := Kind.isTypeKeyword_of_startsExpression (reads.kind here)
  rw [Bool.eq_false_iff]
  intro declares
  unfold Cursor.atVariableStart atTypeStart at declares
  simp only [plain, Bool.false_or, Bool.and_eq_true, decide_eq_true_eq]
    at declares
  obtain ⟨named, second⟩ := declares
  rcases reads.kindAfterType here ends named with closes | goesOn
  · rw [second] at closes
    cases closes
  · rw [second] at goesOn
    cases goesOn

/-- A line that starts with an expression declares nothing else either. -/
theorem Expression.ReadFrom.atMemberStart (reads : tree.ReadFrom row)
    (here : cursor.budget = row ++ follow :: rest)
    (ends : follow.kind.endsExpression = true) :
    cursor.atMemberStart = false := by
  have start := reads.kind here
  have plain := Kind.isTypeKeyword_of_startsExpression start
  rw [Bool.eq_false_iff]
  intro declares
  unfold Cursor.atMemberStart atTypeStart at declares
  split at declares
  all_goals first
    | (rename_i kind; rw [kind] at start; cases start)
    | skip
  simp only [plain, Bool.false_or, Bool.and_eq_true, Bool.or_eq_true,
    decide_eq_true_eq] at declares
  obtain ⟨named, second⟩ := declares
  rcases reads.kindAfterType here ends named with closes | goesOn
  · rcases second with second | second <;> rw [second] at closes <;>
      cases closes
  · rcases second with second | second <;> rw [second] at goesOn <;>
      cases goesOn

end Place

/-! ## Rows without an end of the text -/

variable {row : List Token}

theorem heads_missingEnd (inside : ∀ token ∈ row, token.kind ≠ .endOfText) :
    Heads (· = .endOfText) (missingEnd row) := by
  unfold missingEnd
  split
  · rfl
  · rename_i last found
    rw [if_neg (inside last (List.mem_of_getLast? found))]
    rfl

/-- No reader that takes a row passes an end of the text. -/
theorem Recovery.Takes.ne_endOfText
    {α : Type} {reader : Recovery α} {fact : α → Prop} {last : Token}
    (takes : reader.Takes row [last] fact)
    (travels : ∀ cursor, reader.Travels cursor)
    (atEnd : last.kind = .endOfText) :
    ∀ token ∈ row, token.kind ≠ .endOfText := by
  have noneMissing : missingEnd (row ++ [last]) = [] := by
    unfold missingEnd
    rw [List.getLast?_concat]
    exact if_pos atEnd
  have here : (start (row ++ [last])).budget = row ++ [last] := by
    rw [budget_start, noneMissing, List.append_nil]
  obtain ⟨_, place, _⟩ := takes _ here
  obtain ⟨passed, path⟩ := (travels (start (row ++ [last]))).path
  obtain ⟨shape, inside⟩ := path.budget_eq
  rw [here, place] at shape
  rw [List.append_cancel_right shape]
  exact inside

section Expression

variable {tree : Expression} {rendering : Rendering}
  (shaped : tree.WellShaped)
  (renders : Renders 1 (.expression .logicalOr tree) rendering)
  (shallow : rendering.level ≤ nestingLimit)

include shaped renders shallow

/-- A rendering is taken in front of what does not go on with it. -/
theorem Rendering.takes_tokens {rest : List Token}
    (stops : Heads (fun kind => kind.continuation? = none) rest) :
    Reader.expression.Takes rendering.tokens rest fun value =>
      value.bare = tree.bare := by
  intro cursor here
  cases rest with
  | nil => exact stops.elim
  | cons follow rest =>
    apply (Reader.ends_expression_of_level_le shaped renders here stops
      shallow).mono
    · intro value after reached
      obtain ⟨same, place, quiet⟩ := reached
      exact ⟨same, place, quiet⟩
    · intro _ _ never
      exact never

/-- A rendering that is not nested too deep is a row that is read as its
tree. -/
theorem Expression.readFrom_of_renders : tree.ReadFrom rendering.tokens := by
  have stops : Heads (fun kind => kind.continuation? = none)
      [Token.endOfText .origin] := rfl
  have taken := rendering.takes_tokens shaped renders shallow stops
  have travels cursor := (Reader.advances_expression cursor).travels.run
  have inside := taken.run.ne_endOfText travels rfl
  have ends : Heads (fun kind => kind.continuation? = none)
      (missingEnd rendering.tokens) := by
    apply (heads_missingEnd inside).mono
    intro _ equal
    subst equal
    rfl
  apply (rendering.takes_tokens shaped renders shallow ends _
    (budget_start _)).mono
  · intro value after reached
    obtain ⟨same, place, quiet⟩ := reached
    refine ⟨same, place, ?_⟩
    rw [quiet.reported, reported_start]
  · intro _ _ never
    exact never

end Expression

end PapyrusScript
