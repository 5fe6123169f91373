import PapyrusScript.Proofs.Isolation.Behind
import PapyrusScript.Proofs.Isolation.Callable

/-!
# Errors in one member stay there

A function or an event whose header and terminator stand on lines of their
own keeps its errors to itself, whatever is wrong with its header and its
body.  What stands in front of it and what follows it is read as if it stood
alone.
-/

namespace PapyrusScript

variable {before more : List Token}

/-- Every token starts behind those before it. -/
def StartsAscend (tokens : List Token) : Prop :=
  tokens.Pairwise fun first second => first.span.start < second.span.start

instance (tokens : List Token) : Decidable (StartsAscend tokens) :=
  inferInstanceAs (Decidable (tokens.Pairwise _))

/-- A delimited function or event is found, and nothing of it is left. -/
theorem Delimited.exists_after
    (text : Delimited) {rest : List Token} {cursor : Cursor}
    (here : cursor.budget = text.tokens ++ rest)
    (nothing : cursor.openBlocks = []) (found : Reader.ScriptBody) :
    ∃ member after,
      (Reader.nextDeclaration found).run cursor =
          (.again { found with members := found.members ++ [member] }, after) ∧
        member.Declares text.block text.identifier ∧
          text.Passed rest cursor after ∧ cursor.Reaches after ∧
            cursor.Precedes after := by
  have ends := text.ends_nextDeclaration here nothing found
  have proceeds := Recovery.proceeds_nextDeclaration found cursor
  unfold Recovery.Proceeds at proceeds
  unfold Recovery.Ends at ends proceeds
  obtain ⟨⟨member, decided, declares⟩, passed⟩ := ends
  refine ⟨member, _, Prod.ext decided rfl, declares, passed, proceeds.1,
    proceeds.2 ?_⟩
  rw [decided]
  rfl

namespace Cursor

variable {cursor : Cursor}

theorem path_of_budget (reaches : (start (before ++ more)).Reaches cursor)
    (here : cursor.budget = more ++ missingEnd (before ++ more)) :
    (start (before ++ more)).Path before cursor := by
  obtain ⟨⟨passed, path⟩, _⟩ := reaches
  have shape := path.budget_eq.1
  rw [budget_start, here, List.append_assoc] at shape
  have same := List.append_cancel_right shape
  exact same ▸ path

/-- No lexical error was at a token that is left, if tokens start one after
the other. -/
theorem lastLexical_ne_of_ordered
    (path : (start (before ++ more)).Path before cursor)
    (ordered : StartsAscend (before ++ more)) :
    ∀ token ∈ more, cursor.lastLexical ≠ some token.span.start := by
  intro token member found
  have own : OwnPlaces (start (before ++ more)).budget := by
    rw [budget_start]
    apply OwnPlaces.append_missingEnd
    refine (List.Pairwise.filter _ ordered).imp ?_
    intro first second earlier same
    rw [same] at earlier
    exact Position.lt_irrefl _ earlier
  obtain ⟨other, earlier, same⟩ := (path.accounts own).last _ found
  have less := (List.pairwise_append.1 ordered).2.2 other
    (List.mem_filter.1 earlier).1 token member
  rw [same] at less
  exact Position.lt_irrefl _ less

end Cursor

/-- Between a script without errors and further declarations, a delimited
function or event is one member.  What is in front of it and what follows it
is read as it is without it, and all other errors are reported inside it. -/
theorem delimited_isolates_errors (text : Delimited) (heading : Heading)
    (breaks : ∃ row line, before = row ++ [line] ∧ line.kind = .newline)
    (inside : ∀ token ∈ before, token.kind ≠ .endOfText)
    (silent : (Parsed.ofTokens before).diagnostics = [])
    (plain : ∀ token rest, more = token :: rest → token.kind ≠ .docComment)
    (ordered : StartsAscend (before ++ text.tokens ++ more)) :
    ∃ member news,
      member.Declares text.block text.identifier ∧
        (∀ diagnostic ∈ news,
          ∃ token ∈ text.tokens, diagnostic.position = token.span.start) ∧
          (Parsed.ofTokens (before ++ text.tokens ++ more)).script.members =
            (Parsed.ofTokens before).script.members ++ member ::
              (Parsed.ofTokens (heading.tokens ++ more)).script.members ∧
          (Parsed.ofTokens (before ++ text.tokens ++ more)).script.imports =
            (Parsed.ofTokens before).script.imports ++
              (Parsed.ofTokens (heading.tokens ++ more)).script.imports ∧
          (Parsed.ofTokens (before ++ text.tokens ++ more)).diagnostics =
            news ++ (Parsed.ofTokens (heading.tokens ++ more)).diagnostics := by
  rw [List.append_assoc] at ordered ⊢
  have bounded : Bounded before (text.tokens ++ more) :=
    { breaks
      inside
      plain := by
        intro token rest same
        obtain rfl := (List.cons.inj same).1
        rw [text.opens]
        nofun
      more := by simp [Delimited.tokens] }
  -- what stands in front ends with its line, so the reader comes to the member
  -- with nothing open
  obtain ⟨behind, here, reaches, nothing, resumes⟩ :=
    bounded.exists_boundary silent
  rw [List.append_assoc] at here
  have closed := reaches.openBlocks.trans (Cursor.openBlocks_start _)
  obtain ⟨member, after, goesOn, declares, passed, further, precedes⟩ :=
    text.exists_after here closed
      ⟨(Parsed.ofTokens before).script.imports,
        (Parsed.ofTokens before).script.members⟩
  have place := passed.here
  rw [← List.append_assoc] at ordered place reaches
  have path := Cursor.path_of_budget (reaches.trans further) place
  have fresh := Cursor.lastLexical_ne_of_ordered path ordered
  -- behind the member the text is read as behind a heading
  obtain ⟨last, finished, told⟩ := heading.exists_finishes plain place
    passed.openBlocks path.budget_eq.2 (fun token member _ => fresh token member)
    ⟨(Parsed.ofTokens before).script.imports,
      (Parsed.ofTokens before).script.members ++ [member]⟩
  obtain ⟨imports, members, diagnostics⟩ :=
    resumes _ last (.again goesOn precedes finished)
  obtain ⟨news, reported, known⟩ := passed.tells
  refine ⟨member, news.reverse, declares, ?_, ?_, imports, ?_⟩
  · exact fun diagnostic member => known diagnostic (List.mem_reverse.1 member)
  · rw [members, Reader.ScriptBody.append, List.append_assoc]
    rfl
  · rw [diagnostics, told, reported, nothing, List.append_nil]

/-! ## A broken function between two lines -/

/-- A token of a kind, alone on its line. -/
def Token.onLine (line : Nat) (kind : Kind) (text : String) : Token :=
  ⟨kind, text, .point ⟨line, 1⟩⟩

/-- A function whose header and body are broken, with a foreign terminator in
its body. -/
def Delimited.broken : Delimited where
  block := .function
  opener := .onLine 4 (.keyword .function) "Function"
  name := .onLine 5 .identifier "Open"
  header := [.onLine 6 (.symbol .closeParen) ")"]
  headerEnd := .onLine 7 .newline "\n"
  inside :=
    [.onLine 8 (.keyword .ifThen) "If", .onLine 9 .newline "\n",
      .onLine 10 (.keyword .endWhile) "EndWhile"]
  insideEnd := .onLine 11 .newline "\n"
  closer := .onLine 12 (.keyword .endFunction) "EndFunction"
  closerEnd := .onLine 13 .newline "\n"
  callable := .inl rfl
  opens := rfl
  named := rfl
  oneLine := by decide
  bodied := by decide
  headerBreaks := rfl
  undivided := by
    unfold Kind.IsInside
    decide
  insideBreaks := rfl
  closes := rfl
  closerBreaks := rfl

def Heading.door : Heading where
  keyword := .onLine 1 (.keyword .scriptname) "Scriptname"
  name := .onLine 2 .identifier "Door"
  line := .onLine 3 .newline "\n"
  opens := rfl
  named := rfl
  breaks := rfl

/-- A line that stands nowhere. -/
def Token.stray : List Token := [.onLine 14 (.keyword .endIf) "EndIf"]

/-- The line after the broken function is reported as it would be alone. -/
theorem broken_isolates_errors :
    (∃ row line, Heading.door.tokens = row ++ [line] ∧ line.kind = .newline) ∧
      (∀ token ∈ Heading.door.tokens, token.kind ≠ .endOfText) ∧
      (Parsed.ofTokens Heading.door.tokens).diagnostics = [] ∧
      (∀ token rest, Token.stray = token :: rest → token.kind ≠ .docComment) ∧
      StartsAscend (Heading.door.tokens ++ Delimited.broken.tokens ++
        Token.stray) ∧
      ∃ member news,
        member.Declares .function Delimited.broken.identifier ∧
          (∀ diagnostic ∈ news, ∃ token ∈ Delimited.broken.tokens,
            diagnostic.position = token.span.start) ∧
          (Parsed.ofTokens (Heading.door.tokens ++ Delimited.broken.tokens ++
              Token.stray)).script.members =
            [member] ∧
          (Parsed.ofTokens (Heading.door.tokens ++ Delimited.broken.tokens ++
              Token.stray)).diagnostics =
            news ++ (Parsed.ofTokens (Heading.door.tokens ++
              Token.stray)).diagnostics := by
  have breaks : ∃ row line, Heading.door.tokens = row ++ [line] ∧
      line.kind = .newline :=
    ⟨[Heading.door.keyword, Heading.door.name], Heading.door.line, rfl, rfl⟩
  have inside : ∀ token ∈ Heading.door.tokens, token.kind ≠ .endOfText := by
    decide
  have silent : (Parsed.ofTokens Heading.door.tokens).diagnostics = [] := by
    decide
  have plain : ∀ token rest, Token.stray = token :: rest →
      token.kind ≠ .docComment := by
    intro token rest same
    obtain rfl := (List.cons.inj same).1
    nofun
  have ordered : StartsAscend (Heading.door.tokens ++
      Delimited.broken.tokens ++ Token.stray) := by
    decide
  obtain ⟨member, news, declares, known, members, _, diagnostics⟩ :=
    delimited_isolates_errors .broken .door breaks inside silent plain ordered
  refine ⟨breaks, inside, silent, plain, ordered, member, news, declares,
    known, ?_, diagnostics⟩
  have alone : (Parsed.ofTokens
      (Heading.door.tokens ++ Token.stray)).script.members = [] := by
    decide
  have first : (Parsed.ofTokens Heading.door.tokens).script.members = [] := by
    decide
  rw [members, alone, first]
  rfl

end PapyrusScript
