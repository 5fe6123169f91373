import PapyrusScript.Proofs.LexicalReports
import PapyrusScript.Proofs.ScriptRoundTrip
import PapyrusScript.Proofs.Transcript.Script

/-!
# Accepted bodies keep their tokens

In a script without errors no token of a body is lost, read twice or moved.
The functions and events of the tree stand one after the other in the text,
and what stands between the header and the terminator of one that is not
native spells its body.

In a script without errors the statements of every body fill rows of tokens,
one behind the other, and the span of a statement is that of its row.  For an
expression by itself this holds up to parentheses around it.
-/

namespace PapyrusScript

open Cursor

/-- The functions and events of a script without errors stand in its text one
after the other, each with the tokens of its body. -/
theorem script_transcribes_bodies {tokens : List Token}
    (accepted : (Parsed.ofTokens tokens).diagnostics = []) :
    ∃ callables,
      List.Forall₂ Member.Holds (Parsed.ofTokens tokens).script.members
        callables ∧
      Divided callables.flatten
        (tokens.takeWhile fun token => token.kind ≠ .endOfText) := by
  obtain ⟨callables, holds, placed⟩ :=
    Recovery.covers_script.holds_of_accepted accepted
  exact ⟨callables, holds, placed.divided⟩

/-! ## A chest -/

/-- A script with one function. -/
def Script.chestTokens : List Token :=
  [.word .scriptname, .named "Chest", .line,
    .word .intType, .word .function, .named "Open", .sign .openParen,
    .sign .closeParen, .line,
    .comment "Open the chest.", .line,
    .word .ifThen, .sign .openParen, .named "Locked", .sign .closeParen, .line,
    .word .returnValue, .sign .minus, ⟨.intLiteral, "5", .nowhere⟩, .line,
    .word .endIf, .line,
    .word .endFunction, .line]

/-- The tokens between the header and the terminator spell the body. -/
theorem chest_transcribes_body :
    (Parsed.ofTokens Script.chestTokens).diagnostics = [] ∧
      (Parsed.ofTokens Script.chestTokens).script.members.length = 1 ∧
        ∃ callables,
          List.Forall₂ Member.Holds
            (Parsed.ofTokens Script.chestTokens).script.members callables ∧
          Divided callables.flatten Script.chestTokens := by
  have accepted : (Parsed.ofTokens Script.chestTokens).diagnostics = [] := by
    decide
  exact ⟨accepted, by decide, script_transcribes_bodies accepted⟩

/-! ## Statements run from their first token to their last -/

/-- The functions and events of a member. -/
def Member.callables : Member → List Callable
  | .variable _ => []
  | .property declaration =>
    declaration.source.accessors.map Function.callable
  | .function declaration => [declaration.callable]
  | .event declaration => [declaration.callable]
  | .state declaration => declaration.events.map Event.callable

/-- The functions and events of a script. -/
def Script.callables (script : Script) : List Callable :=
  script.members.flatMap Member.callables

theorem Member.Holds.perm {member : Member} {callables : List Callable}
    (holds : member.Holds callables) : callables.Perm member.callables := by
  cases holds with
  | property order => exact order.map _
  | _ => exact .refl _

theorem Member.perm_flatten {members : List Member}
    {callables : List (List Callable)}
    (holds : List.Forall₂ Holds members callables) :
    callables.flatten.Perm (members.flatMap Member.callables) := by
  induction holds with
  | nil => exact .nil
  | cons first _ ih => exact first.perm.append ih

/-- In a script without errors the bodies of functions and events consist of
the rows of their statements and of gaps between them. -/
theorem bodies_fill_rows {tokens : List Token}
    (accepted : (Parsed.ofTokens tokens).diagnostics = []) :
    AllStandIn (Parsed.ofTokens tokens).script.callables
      (tokens.takeWhile fun token => token.kind ≠ .endOfText) := by
  obtain ⟨callables, holds, placed⟩ :=
    Recovery.covers_script.holds_of_accepted accepted
  have order := Member.perm_flatten holds
  exact fun callable member =>
    placed.stand callable (order.mem_iff.2 member)

/-! ## A call in parentheses -/

/-- A script whose only statement stands in parentheses. -/
def Script.groupedCall : String :=
  "Scriptname X\nFunction F()\n(G())\nEndFunction\n"

/-- The tokens of a line that are no line break. -/
def tokensOfLine (source : String) (line : Nat) : List Token :=
  (tokens source).filter fun token =>
    token.span.start.line = line && token.kind ≠ .newline

/-- The body is found, and its statement fills a row. -/
theorem groupedCall_fills_row :
    (Parsed.ofText Script.groupedCall).diagnostics = [] ∧
      (Parsed.ofText Script.groupedCall).script.callables.length = 1 ∧
        AllStandIn (Parsed.ofText Script.groupedCall).script.callables
          ((tokens Script.groupedCall).takeWhile
            fun token => token.kind ≠ .endOfText) := by
  have accepted : (Parsed.ofText Script.groupedCall).diagnostics = [] := by
    decide
  exact ⟨accepted, by decide, bodies_fill_rows accepted⟩

/-- The statement lacks the parentheses that it starts and ends with. -/
theorem groupedCall_lacks_parentheses :
    (Parsed.ofText Script.groupedCall).diagnostics = [] ∧
      ((Parsed.ofText Script.groupedCall).script.callables.map fun callable =>
        callable.body.map Statement.span) = [[⟨⟨3, 2⟩, ⟨3, 5⟩⟩]] ∧
        ¬ (Span.mk ⟨3, 2⟩ ⟨3, 5⟩).IsOf (tokensOfLine Script.groupedCall 3) :=
  ⟨by decide, by decide, by decide⟩

end PapyrusScript
