import PapyrusScript.Parsed
import PapyrusScript.Proofs.Nesting

/-!
# Reading a script passes all of its tokens

Reading a script ends on the first end of the text, after passing every token
before it once.  Nothing is assumed about the tokens: the list may be empty,
may not end at all, or may end more than once.

The bounds that make the readers total are shown to play no part in this.
Every loop is ended by one of its own steps, and bodies and operators satisfy
the equations that they would satisfy without bounds.
-/

namespace PapyrusScript

open Cursor Recovery

/-- Every step that lets the loop go on passes a token, and the loop is ended
by one of its steps. -/
structure Recovery.EndsItself
    {α : Type} (step : α → Recovery (Step α)) : Prop where
  proceeds : ∀ value cursor, (step value).Proceeds cursor
  terminates : Recovery.Terminates step

/-- The same for a loop whose steps may fail. -/
structure Reader.EndsItself
    {α : Type} (step : α → Reader (Step α)) : Prop where
  proceeds : ∀ value cursor, (step value).Proceeds cursor
  terminates : Reader.Terminates step

theorem Recovery.endsItself_of_proceeds
    {α : Type} {step : α → Recovery (Step α)}
    (proceeds : ∀ value cursor, (step value).Proceeds cursor) :
    Recovery.EndsItself step :=
  ⟨proceeds, terminates_of_proceeds proceeds⟩

theorem Reader.endsItself_of_proceeds {α : Type} {step : α → Reader (Step α)}
    (proceeds : ∀ value cursor, (step value).Proceeds cursor) :
    Reader.EndsItself step :=
  ⟨proceeds, Reader.terminates_of_proceeds proceeds⟩

/-- No loop of the readers is ever cut short, and neither are nested bodies
and rows of operators. -/
structure Reader.LoopsEnd : Prop where
  newlines : Recovery.EndsItself passNewline
  line : Recovery.EndsItself discardInLine
  statement : Recovery.EndsItself discardInStatement
  toMember : Recovery.EndsItself discardToMember
  skippedBody (block : Block) : Recovery.EndsItself (discardInBody block)
  arguments (levels : Nat) : EndsItself (nextArgument (expressionAt levels))
  chain (levels : Nat) : EndsItself (chainPart (expressionAt levels))
  casts : EndsItself nextCast
  operators (levels : Nat) {operator : BinaryOperator} {level : Precedence}
    {cursor : Cursor}
    (found : cursor.kind.binaryOperator? = some operator)
    (tight : level.rank ≤ operator.precedence.rank) (left : Expression)
    (accepted : Expression → Cursor → Prop)
    (refused : Diagnostic → Cursor → Prop) :
    Ends (operations (unaryAt levels) cursor.budget level left) cursor
        accepted refused ↔
      (unaryAt levels).Ends cursor.next
        (fun first middle =>
          Ends
            (operations (unaryAt levels) middle.budget
              operator.precedence.next first)
            middle
            (fun right after =>
              Ends
                (operations (unaryAt levels) after.budget level
                  (.binary operator left right
                    (left.span.through right.span)))
                after accepted refused)
            refused)
        refused
  parameters : Recovery.EndsItself nextParameter
  callableFlags (block : Block) : Recovery.EndsItself (nextCallableFlag block)
  variableFlags : Recovery.EndsItself nextVariableFlag
  propertyFlags : Recovery.EndsItself propertyFlag
  scriptFlags : Recovery.EndsItself headerFlags
  arms (opener : Token) : Recovery.EndsItself (nextArm body opener)
  body (block : Block) : Recovery.EndsItself (bodyLine body block)
  nestedBody (block : Block) (cursor : Cursor) :
    (Reader.body block).run cursor =
      (inBlock block do
        loop (bodyLine Reader.body block) (← get).budget []).run cursor
  accessors (keyword : Token) (property : String) :
    Recovery.EndsItself (nextAccessor keyword property)
  state (keyword : Token) (name : String) :
    Recovery.EndsItself (nextInState keyword name)
  members : Recovery.EndsItself nextDeclaration

/-- Every loop of the readers ends by itself. -/
theorem Reader.loopsEnd : Reader.LoopsEnd where
  newlines := Recovery.endsItself_of_proceeds proceeds_passNewline
  line := Recovery.endsItself_of_proceeds proceeds_discardInLine
  statement := Recovery.endsItself_of_proceeds proceeds_discardInStatement
  toMember := Recovery.endsItself_of_proceeds proceeds_discardToMember
  skippedBody block :=
    Recovery.endsItself_of_proceeds (proceeds_discardInBody block)
  arguments levels :=
    endsItself_of_proceeds (proceeds_nextArgument (advances_expressionAt levels))
  chain levels :=
    endsItself_of_proceeds (proceeds_chainPart (advances_expressionAt levels))
  casts := endsItself_of_proceeds proceeds_nextCast
  operators levels _ _ _ found tight :=
    ends_operations (advances_unaryAt levels) found tight
  parameters := Recovery.endsItself_of_proceeds fun found cursor =>
    (proceedsTo_nextParameter found cursor).proceeds
  callableFlags block :=
    Recovery.endsItself_of_proceeds (proceeds_nextCallableFlag block)
  variableFlags := Recovery.endsItself_of_proceeds proceeds_nextVariableFlag
  propertyFlags := Recovery.endsItself_of_proceeds fun found cursor =>
    (proceedsTo_propertyFlag found cursor).proceeds
  scriptFlags := Recovery.endsItself_of_proceeds proceeds_headerFlags
  arms opener := Recovery.endsItself_of_proceeds
    (proceeds_nextArm travels_body opener)
  body block := Recovery.endsItself_of_proceeds
    (proceeds_bodyLine travels_body block)
  nestedBody := run_body
  accessors keyword property := Recovery.endsItself_of_proceeds
    (proceeds_nextAccessor keyword property)
  state keyword name := Recovery.endsItself_of_proceeds
    (proceeds_nextInState keyword name)
  members := Recovery.endsItself_of_proceeds proceeds_nextDeclaration

/-! ## The end of the text -/

namespace Recovery

variable {α : Type}

/-- What holds wherever a step ends its loop holds at the end of the loop. -/
theorem Finishes.ends {step : α → Recovery (Step α)} {post : α → Cursor → Prop}
    (stops : ∀ value cursor,
      (step value).Ends cursor fun decision after =>
        ∀ final, decision = .done final → post final after)
    {value final : α} {cursor after : Cursor}
    (finishes : Finishes step value cursor final after) :
    post final after := by
  induction finishes with
  | @done value final cursor after stopped =>
    have reached := stops value cursor
    unfold Ends at reached
    rw [stopped] at reached
    exact reached final rfl
  | again _ _ _ ih => exact ih

/-- Only the end of the text ends the declarations of a script. -/
theorem kind_nextDeclaration (found : Reader.ScriptBody) (cursor : Cursor) :
    (Reader.nextDeclaration found).Ends cursor fun decision after =>
      ∀ final, decision = .done final → after.kind = .endOfText := by
  unfold Reader.nextDeclaration
  rw [ends_bind]
  refine ends_of_forall fun _ after => ?_
  rw [ends_bind, ends_get]
  split
  · rename_i atEnd
    exact fun _ _ => atEnd
  · exact fun final goesOn => by cases goesOn
  · exact fun final goesOn => by cases goesOn
  · rw [ends_bind]
    refine ends_of_forall fun answer after => ?_
    cases answer <;> exact fun final goesOn => by cases goesOn
  · split
    · rw [ends_bind]
      refine ends_of_forall fun answer after => ?_
      cases answer <;> exact fun final goesOn => by cases goesOn
    · exact fun final goesOn => by cases goesOn

theorem kind_script (cursor : Cursor) :
    Reader.script.Ends cursor fun _ after => after.kind = .endOfText := by
  unfold Reader.script
  rw [ends_bind]
  refine ends_of_forall fun _ after => ?_
  rw [ends_bind, ends_get, ends_bind]
  refine ends_of_forall fun top after => ?_
  rw [ends_bind, ends_get, ends_bind]
  have finishes := Reader.loopsEnd.members.terminates ⟨[], []⟩ after
  exact Ends.mono finishes fun _ _ finished =>
    finished.ends kind_nextDeclaration

end Recovery

namespace Cursor

/-- A path to the end of the text passes everything in front of it. -/
theorem Path.eq_takeWhile {source target : Cursor} {passed : List Token}
    (path : source.Path passed target) (atEnd : target.kind = .endOfText) :
    passed = source.budget.takeWhile fun token => token.kind ≠ .endOfText := by
  obtain ⟨shape, inside⟩ := path.budget_eq
  have stops : ¬ target.current.kind ≠ .endOfText :=
    fun outside => outside atEnd
  rw [shape, List.takeWhile_append_of_pos (by simpa using inside)]
  simp [budget, stops]

theorem takeWhile_missingEnd (tokens : List Token) :
    (missingEnd tokens).takeWhile (fun token => token.kind ≠ .endOfText) =
      [] := by
  unfold missingEnd
  split
  · rfl
  · split <;> rfl

/-- A missing end of the text adds nothing in front of the end. -/
theorem takeWhile_append_missingEnd (tokens : List Token) :
    ((tokens ++ missingEnd tokens).takeWhile
        fun token => token.kind ≠ .endOfText) =
      tokens.takeWhile fun token => token.kind ≠ .endOfText := by
  rw [List.takeWhile_append, takeWhile_missingEnd, List.append_nil]
  split
  · rename_i whole
    exact ((List.takeWhile_prefix _).eq_of_length whole).symm
  · rfl

/-- A path from the first token leads to the token whose place in the list is
the number of tokens passed. -/
theorem Path.getElem?_eq
    {tokens : List Token} {cursor : Cursor} {passed : List Token}
    (path : (start tokens).Path passed cursor) :
    (tokens ++ missingEnd tokens)[passed.length]? = some cursor.current ∧
      (tokens ++ missingEnd tokens).take passed.length = passed := by
  have shape := path.budget_eq.1
  rw [budget_start] at shape
  rw [shape]
  simp [budget]

end Cursor

/-- A parsed script is what reading its tokens leaves behind. -/
theorem Parsed.ofTokens_eq (tokens : List Token) :
    ofTokens tokens =
      ⟨(Reader.script.run (start tokens)).1,
        (Reader.script.run (start tokens)).2.reported.reverse⟩ := by
  unfold ofTokens
  -- The run is a variable here, so that nothing evaluates it.
  generalize Reader.script.run (start tokens) = outcome
  rfl

/-- Reading a script passes everything in front of the first end of the
text. -/
theorem path_script (tokens : List Token) :
    (Cursor.start tokens).Path
      ((tokens ++ Cursor.missingEnd tokens).takeWhile
        fun token => token.kind ≠ .endOfText)
      (Reader.script.run (Cursor.start tokens)).2 := by
  obtain ⟨passed, path⟩ := (travels_script (start tokens)).path
  have everything := path.eq_takeWhile (kind_script (start tokens))
  rw [budget_start] at everything
  exact everything ▸ path

/-- Reading the tokens of a script ends on the first end of the text, and on
its way passes each token in front of it once.  At every moment the cursor
stands on the token that follows those passed so far. -/
theorem script_passes_every_token (tokens : List Token) :
    let whole := tokens ++ Cursor.missingEnd tokens
    let first := Cursor.start tokens
    let last := (Reader.script.run first).2
    last.kind = .endOfText ∧
      first.Path (whole.takeWhile fun token => token.kind ≠ .endOfText)
        last ∧
      (∀ passed cursor, first.Path passed cursor →
        whole[passed.length]? = some cursor.current ∧
          whole.take passed.length = passed) ∧
      Reader.LoopsEnd := by
  intro whole first last
  refine ⟨Recovery.kind_script first, path_script tokens, ?_, ?_⟩
  · exact fun _ _ path => path.getElem?_eq
  · exact Reader.loopsEnd

end PapyrusScript
