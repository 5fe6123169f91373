import PapyrusScript.Proofs.ErrorIsolation
import PapyrusScript.Proofs.Spaced

/-!
# A script without errors and further declarations

What follows a script without errors that ends with a line break is read as
if a bare header line stood in front of it.  Nothing the cursor remembers at
the end of the script, and no token it has looked at ahead, changes what is
read of either part.

`Contributes row rest news fact` says of a row of tokens in front of a rest
what it adds to a script, wherever its declarations are read: some members, of
which a fact holds, and exactly the errors `news`.  Rows that contribute
something are joined.  Behind a bare header line, a row contributes to what
follows it and changes nothing else.
-/

namespace PapyrusScript

section CleanBeginning

variable {before more : List Token}

/-- What a script says about itself in its header line. -/
def Script.header (script : Script) : Reader.Header where
  name := script.name
  parent := script.parent
  hidden := script.hidden
  conditional := script.conditional
  native := script.native
  doc := script.doc

/-- The header line is read in front of all declarations. -/
theorem Recovery.header_script (cursor : Cursor) :
    (Reader.script.run cursor).1.header = (scriptTop.run cursor).1 :=
  rfl

/-- What follows a text without errors does not change its header. -/
theorem Bounded.header_append (bounded : Bounded before more)
    (silent : (Parsed.ofTokens before).diagnostics = []) :
    (Parsed.ofTokens (before ++ more)).script.header =
      (Parsed.ofTokens before).script.header := by
  have same := (bounded.agrees_scriptTop silent).1
  rw [← Recovery.header_script, ← Recovery.header_script] at same
  rw [Parsed.ofTokens_eq, Parsed.ofTokens_eq]
  exact same

/-- A bare header line declares nothing and has no errors. -/
theorem Heading.parsed (heading : Heading) :
    (Parsed.ofTokens heading.tokens).script.imports = [] ∧
      (Parsed.ofTokens heading.tokens).script.members = [] ∧
        (Parsed.ofTokens heading.tokens).diagnostics = [] := by
  have plain : ∀ token rest, ([] : List Token) = token :: rest →
      token.kind ≠ .docComment := nofun
  obtain ⟨behind, here, _, _, silent, after, finished, told⟩ :=
    heading.exists_behind plain
  have inside : ∀ token ∈ heading.tokens ++ [], token.kind ≠ .endOfText := by
    simp [Heading.tokens, heading.opens, heading.named, heading.breaks]
  have atEnd := (heads_missingEnd inside).kind here
  obtain ⟨same, rfl⟩ :=
    finished.unique (Recovery.finishes_of_endOfText atEnd ⟨[], []⟩)
  rw [List.append_nil] at same told
  obtain ⟨imports, members⟩ := Reader.ScriptBody.mk.inj same
  rw [silent, List.reverse_nil] at told
  exact ⟨imports, members, told⟩

/-- Nothing that a script without errors has left open or remembered changes
the declarations behind it. -/
theorem Bounded.append_declarations (bounded : Bounded before more)
    (silent : (Parsed.ofTokens before).diagnostics = [])
    (heading : Heading) :
    (Parsed.ofTokens (before ++ more)).script.imports =
        (Parsed.ofTokens before).script.imports ++
          (Parsed.ofTokens (heading.tokens ++ more)).script.imports ∧
      (Parsed.ofTokens (before ++ more)).script.members =
          (Parsed.ofTokens before).script.members ++
            (Parsed.ofTokens (heading.tokens ++ more)).script.members ∧
        (Parsed.ofTokens (before ++ more)).diagnostics =
          (Parsed.ofTokens (heading.tokens ++ more)).diagnostics := by
  obtain ⟨behind, here, reaches, nothing, resumes⟩ :=
    bounded.exists_boundary silent
  obtain ⟨⟨_, path⟩, blocks⟩ := reaches
  -- an error in front would have been reported, so there is none to remember
  have fresh : behind.lastLexical = none :=
    (path.lastLexical_of_silent nothing).trans (Cursor.lastLexical_start _)
  obtain ⟨after, finished, told⟩ :=
    heading.exists_finishes bounded.plain here
      (blocks.trans (Cursor.openBlocks_start _)) bounded.inside
      (fun _ _ _ => by rw [fresh]; nofun) _
  obtain ⟨imports, members, diagnostics⟩ := resumes _ after finished
  refine ⟨imports, members, ?_⟩
  rw [diagnostics, told, nothing, List.reverse_nil, List.nil_append]

/-- A script without errors that ends with a line break keeps its header,
its imports and its members in front of further declarations, and these are
what they are behind a bare header line, with the same errors. -/
theorem clean_prefix_composes (heading : Heading)
    (breaks : ∃ row line, before = row ++ [line] ∧ line.kind = .newline)
    (inside : ∀ token ∈ before, token.kind ≠ .endOfText)
    (silent : (Parsed.ofTokens before).diagnostics = [])
    (plain : ∀ token rest, more = token :: rest → token.kind ≠ .docComment) :
    (Parsed.ofTokens (before ++ more)).script.header =
        (Parsed.ofTokens before).script.header ∧
      (Parsed.ofTokens (before ++ more)).script.imports =
          (Parsed.ofTokens before).script.imports ++
            (Parsed.ofTokens (heading.tokens ++ more)).script.imports ∧
        (Parsed.ofTokens (before ++ more)).script.members =
            (Parsed.ofTokens before).script.members ++
              (Parsed.ofTokens (heading.tokens ++ more)).script.members ∧
          (Parsed.ofTokens (before ++ more)).diagnostics =
            (Parsed.ofTokens (heading.tokens ++ more)).diagnostics := by
  by_cases more = []
  · rename_i nothing
    obtain ⟨imports, members, diagnostics⟩ := heading.parsed
    subst nothing
    simp only [List.append_nil, imports, members, silent, diagnostics]
    exact ⟨trivial, trivial, trivial, trivial⟩
  · rename_i nonempty
    have bounded : Bounded before more := ⟨breaks, inside, plain, nonempty⟩
    exact ⟨bounded.header_append silent,
      bounded.append_declarations silent heading⟩

/-! ## A line that fits nowhere, behind a door -/

/-- A door that uses another script. -/
def Token.importing : List Token :=
  Heading.door.tokens ++
    [.onLine 4 (.keyword .importScript) "Import",
      .onLine 5 .identifier "Tools", .onLine 6 .newline "\n"]

/-- The door keeps its import, and the error behind it is reported as it is
behind another header line. -/
theorem importing_composes :
    (∃ row line, Token.importing = row ++ [line] ∧ line.kind = .newline) ∧
      (∀ token ∈ Token.importing, token.kind ≠ .endOfText) ∧
      (Parsed.ofTokens Token.importing).diagnostics = [] ∧
      (∀ token rest, Token.stray = token :: rest → token.kind ≠ .docComment) ∧
      (Parsed.ofTokens (Token.importing ++ Token.stray)).script.header =
        (Parsed.ofTokens Token.importing).script.header ∧
      (Parsed.ofTokens (Token.importing ++ Token.stray)).script.imports =
        (Parsed.ofTokens Token.importing).script.imports ∧
      (Parsed.ofTokens (Token.importing ++ Token.stray)).diagnostics.length =
        1 := by
  have breaks : ∃ row line, Token.importing = row ++ [line] ∧
      line.kind = .newline :=
    ⟨Heading.door.tokens ++ [.onLine 4 (.keyword .importScript) "Import",
      .onLine 5 .identifier "Tools"], .onLine 6 .newline "\n", rfl, rfl⟩
  have inside : ∀ token ∈ Token.importing, token.kind ≠ .endOfText := by
    decide
  have silent : (Parsed.ofTokens Token.importing).diagnostics = [] := by
    decide
  have plain : ∀ token rest, Token.stray = token :: rest →
      token.kind ≠ .docComment := by
    intro token rest same
    obtain rfl := (List.cons.inj same).1
    nofun
  obtain ⟨header, imports, _, diagnostics⟩ :=
    clean_prefix_composes .door breaks inside silent plain
  have nothing : (Parsed.ofTokens
      (Heading.door.tokens ++ Token.stray)).script.imports = [] := by
    decide
  have alone : (Parsed.ofTokens
      (Heading.door.tokens ++ Token.stray)).diagnostics.length = 1 := by
    decide
  refine ⟨breaks, inside, silent, plain, header, ?_, ?_⟩
  · rw [imports, nothing, List.append_nil]
  · rw [diagnostics, alone]

end CleanBeginning

/-! ## What a row of declarations contributes to a script -/

section Contributions

open Cursor

variable {row behind rest ending : List Token} {news more : List Diagnostic}
  {fact known : List Member → Prop}

/-- The declarations of a script are read up to another cursor, and there are
some members and some errors more. -/
structure Cursor.Gains
    (found : Reader.ScriptBody) (source target : Cursor)
    (added : List Member) (news : List Diagnostic) : Prop where
  reaches : source.Reaches target
  reported : target.reported = news.reverse ++ source.reported
  resumes : ∀ final last,
    Recovery.Finishes Reader.nextDeclaration
        { found with members := found.members ++ added } target final last →
      Recovery.Finishes Reader.nextDeclaration found source final last

namespace Cursor.Gains

variable {found : Reader.ScriptBody} {source middle target : Cursor}
  {added others : List Member}

theorem refl (found : Reader.ScriptBody) (cursor : Cursor) :
    cursor.Gains found cursor [] [] where
  reaches := .refl cursor
  reported := rfl
  resumes := by
    rw [List.append_nil]
    exact fun _ _ finished => finished

theorem trans (first : source.Gains found middle added news)
    (second : middle.Gains { found with members := found.members ++ added }
      target others more) :
    source.Gains found target (added ++ others) (news ++ more) where
  reaches := first.reaches.trans second.reaches
  reported := by
    rw [second.reported, first.reported, List.reverse_append, List.append_assoc]
  resumes final last finished := by
    apply first.resumes
    apply second.resumes
    rwa [List.append_assoc]

theorem of_run (ran : (Reader.nextDeclaration found).run source =
      (.again { found with members := found.members ++ added }, target))
    (reported : target.reported = news.reverse ++ source.reported) :
    source.Gains found target added news := by
  have proceeds := Recovery.proceeds_nextDeclaration found source
  unfold Recovery.Proceeds Recovery.Ends at proceeds
  rw [ran] at proceeds
  exact ⟨proceeds.1, reported, fun _ _ finished =>
    .again ran (proceeds.2 rfl) finished⟩

theorem newline (breaks : source.kind = .newline) :
    source.Gains found source.next [] [] where
  reaches := (Recovery.advances_of_kind breaks rfl).1
  reported := reported_next source
  resumes := by
    rw [List.append_nil]
    exact fun _ _ finished => finished.of_newlines
      (Recovery.advances_of_kind breaks rfl).1
      (Recovery.run_skipNewlines_next breaks)

end Cursor.Gains

/-- Wherever the declarations of a script are read in front of a row, they go
on behind it with some members more, of which a fact holds, and some errors
more. -/
def Contributes (row rest : List Token) (news : List Diagnostic)
    (fact : List Member → Prop) : Prop :=
  ∀ (found : Reader.ScriptBody) (cursor : Cursor), cursor.budget = row ++ rest →
    ∃ added after, fact added ∧ after.budget = rest ∧
      cursor.Gains found after added news

namespace Contributes

theorem mono (contributes : Contributes row rest news known)
    (implied : ∀ added, known added → fact added) :
    Contributes row rest news fact := by
  intro found cursor here
  obtain ⟨added, after, holds, reached⟩ := contributes found cursor here
  exact ⟨added, after, implied added holds, reached⟩

theorem nil (holds : fact []) : Contributes [] rest [] fact :=
  fun found cursor here => ⟨[], cursor, holds, here, .refl found cursor⟩

theorem append (first : Contributes row (behind ++ rest) news known)
    (second : ∀ added, known added → Contributes behind rest more
      fun others => fact (added ++ others)) :
    Contributes (row ++ behind) rest (news ++ more) fact := by
  intro found cursor here
  rw [List.append_assoc] at here
  obtain ⟨added, middle, holds, place, gains⟩ := first found cursor here
  obtain ⟨others, after, holdsToo, placeToo, gainsToo⟩ :=
    second added holds _ middle place
  exact ⟨added ++ others, after, holdsToo, placeToo, gains.trans gainsToo⟩

/-- A gap in front of a row contributes nothing. -/
theorem of_gap {gap : List Token} (gaps : IsGap gap)
    (contributes : Contributes row rest news fact) :
    Contributes (gap ++ row) rest news fact := by
  induction gap with
  | nil => exact contributes
  | cons token gap ih =>
    obtain ⟨between, gaps⟩ := List.forall_mem_cons.1 gaps
    intro found cursor here
    have kind : cursor.kind = token.kind := kind_of_budget here
    have inside : token.kind ≠ .endOfText := by
      intro atEnd
      rw [atEnd] at between
      cases between
    have passed : cursor.Gains found cursor.next [] [] := by
      rw [← kind] at between
      rcases Kind.isBetween_iff.1 between with breaks | doc
      · exact .newline breaks
      · apply Gains.of_run _ (reported_next cursor)
        rw [List.append_nil]
        exact Recovery.passesGaps_nextDeclaration.comment found cursor doc
    obtain ⟨added, after, holds, place, gains⟩ := ih gaps
      { found with members := found.members ++ [] } cursor.next
      (budget_next_of_budget here inside)
    exact ⟨added, after, holds, place, passed.trans gains⟩

/-- What a step of the loop over the declarations adds behind its row. -/
theorem of_remarks (remarks : ∀ found : Reader.ScriptBody,
      (Reader.nextDeclaration found).Remarks row rest news fun decision =>
        ∃ following, decision = .again following ∧
          ∃ next : List Member,
            following = { found with members := found.members ++ next } ∧
              fact next) :
    Contributes row rest news fact := by
  intro found cursor here
  have ends := remarks found cursor here
  unfold Recovery.Ends at ends
  obtain ⟨⟨_, decided, next, rfl, holds⟩, place, remarked⟩ := ends
  exact ⟨next, _, holds, place,
    .of_run (Prod.ext decided rfl) remarked.reported⟩

/-- There is no end of the text in a row that contributes something. -/
theorem ne_endOfText
    {last : Token} (contributes : Contributes row [last] news fact)
    (atEnd : last.kind = .endOfText) :
    ∀ token ∈ row, token.kind ≠ .endOfText := by
  have noneMissing : missingEnd (row ++ [last]) = [] := by
    unfold missingEnd
    rw [List.getLast?_concat]
    exact if_pos atEnd
  have here : (start (row ++ [last])).budget = row ++ [last] := by
    rw [budget_start, noneMissing, List.append_nil]
  obtain ⟨_, after, _, place, gains⟩ := contributes ⟨[], []⟩ _ here
  obtain ⟨passed, path⟩ := gains.reaches.path
  obtain ⟨shape, inside⟩ := path.budget_eq
  rw [here, place] at shape
  rw [List.append_cancel_right shape]
  exact inside

end Contributes

/-! ## Behind a bare header line -/

/-- A line break in front of the declarations that are left may be left out. -/
theorem Recovery.Finishes.behind_newline
    {value final : Reader.ScriptBody} {cursor after : Cursor}
    (finished : Finishes Reader.nextDeclaration value cursor final after)
    (breaks : cursor.kind = .newline) :
    Finishes Reader.nextDeclaration value cursor.next final after := by
  have behind := terminates_of_proceeds proceeds_nextDeclaration value
    cursor.next
  have same := behind.of_newlines (advances_of_kind breaks rfl).1
    (run_skipNewlines_next breaks)
  obtain ⟨rfl, rfl⟩ := same.unique finished
  exact behind

variable {piece before onward : List Token} {cursor : Cursor}

theorem forall_of_heads {allowed : Kind → Prop} (heads : Heads allowed onward) :
    ∀ first others, onward = first :: others → allowed first.kind := by
  rintro first others rfl
  exact heads

/-- What is left of a text ends a line if its first token does, or if nothing
follows. -/
theorem exists_lineEnd (inside : ∀ token ∈ before, token.kind ≠ .endOfText)
    (ends : ∀ token others, onward = token :: others →
      token.kind.endsLine = true) :
    ∃ rest ending, LineEnd rest ending ∧
      onward ++ missingEnd (before ++ onward) = ending ++ rest := by
  cases onward with
  | nil =>
    rw [List.append_nil]
    exact ⟨_, [], .text (heads_missingEnd inside), rfl⟩
  | cons token others =>
    have last := ends token others rfl
    rw [Kind.endsLine, Bool.or_eq_true, decide_eq_true_eq,
      decide_eq_true_eq] at last
    rcases last with breaks | atEnd
    · exact ⟨_, [token], .newline breaks, rfl⟩
    · have heads : Heads (· = .endOfText)
          (token :: (others ++ missingEnd (before ++ token :: others))) :=
        atEnd
      exact ⟨_, [], .text heads, rfl⟩

namespace Heading

variable (heading : Heading)

/-- At the end of the text there is nothing behind a bare header line. -/
theorem parsed_of_endOfText
    (ends : Heads (· = .endOfText) (onward ++ missingEnd (before ++ onward))) :
    (Parsed.ofTokens (heading.tokens ++ onward)).script.imports = [] ∧
      (Parsed.ofTokens (heading.tokens ++ onward)).script.members = [] ∧
        (Parsed.ofTokens (heading.tokens ++ onward)).diagnostics = [] := by
  cases onward with
  | nil =>
    rw [List.append_nil]
    exact heading.parsed
  | cons token onward =>
    have atEnd : token.kind = .endOfText := ends
    have plain : ∀ first others, token :: onward = first :: others →
        first.kind ≠ .docComment := by
      rintro _ _ same
      rw [← (List.cons.inj same).1, atEnd]
      nofun
    obtain ⟨behind, here, _, _, silent, after, finished, told⟩ :=
      heading.exists_behind plain
    have stops := Recovery.finishes_of_endOfText
      ((kind_of_budget here).trans atEnd) ⟨[], []⟩
    obtain ⟨same, rfl⟩ := finished.unique stops
    obtain ⟨imports, members⟩ := Reader.ScriptBody.mk.inj same
    rw [silent, List.reverse_nil] at told
    exact ⟨imports, members, told⟩

/-- What follows the end of a line is read as it is behind a bare header line
and the end of a line. -/
theorem exists_finishes_of_lineEnd (ends : LineEnd rest ending)
    (shape : onward ++ missingEnd (before ++ onward) = ending ++ rest)
    (here : cursor.budget = rest) (nothing : cursor.openBlocks = [])
    (fresh : cursor.lastLexical = none) :
    ∃ last,
      Recovery.Finishes Reader.nextDeclaration ⟨[], []⟩ cursor
        ⟨(Parsed.ofTokens (heading.tokens ++ onward)).script.imports,
          (Parsed.ofTokens (heading.tokens ++ onward)).script.members⟩
        last ∧
      last.reported =
        (Parsed.ofTokens (heading.tokens ++ onward)).diagnostics.reverse ++
          cursor.reported := by
  cases ends with
  | text atEnd =>
    obtain ⟨imports, members, told⟩ := heading.parsed_of_endOfText
      (by rw [shape]; exact atEnd)
    rw [imports, members, told]
    have stops := Recovery.finishes_of_endOfText (atEnd.kind here) ⟨[], []⟩
    exact ⟨cursor, stops, rfl⟩
  | @newline line breaks =>
    have nonempty : onward ≠ [] := by
      rintro rfl
      have member : line ∈ missingEnd (before ++ []) := by
        rw [← List.nil_append (missingEnd _), shape]
        exact List.mem_cons_self
      rw [kind_of_mem_missingEnd member] at breaks
      cases breaks
    have plain : ∀ first others, onward = first :: others →
        first.kind ≠ .docComment := by
      rintro first others rfl
      rw [(List.cons.inj shape).1, breaks]
      nofun
    obtain ⟨behind, place, openBlocks, lexical, silent, after, finished,
      told⟩ := heading.exists_behind plain
    rw [missingEnd_append nonempty] at place shape
    rw [shape] at place
    have isBreak : behind.kind = .newline := (kind_of_budget place).trans breaks
    have next : behind.next.budget = rest :=
      budget_next_of_budget place (by rw [breaks]; nofun)
    obtain ⟨last, finishedToo, reported⟩ :=
      (finished.behind_newline isBreak).elsewhere (here.trans next.symm)
        (by
          intro token found
          apply kind_of_getLast?_missingEnd
          rw [shape, ← found, next, ← here]
          exact List.getLast?_cons_cons)
        (by rw [nothing, openBlocks_next, openBlocks])
        (by rw [fresh, lastLexical_next, lexical]; simp)
        ((reported_next behind).trans silent)
    exact ⟨last, finishedToo, by rw [reported, told, List.reverse_reverse]⟩

/-- A row that contributes something whatever ends its last line is read by
itself behind a bare header line, and changes nothing of what follows it. -/
theorem exists_contribution
    (contributes : ∀ {rest ending : List Token}, LineEnd rest ending →
      Contributes (piece ++ ending) rest news fact)
    (starts : Heads (· ≠ .docComment) piece)
    (syntactic : ∀ diagnostic ∈ news, diagnostic.cause.isLexical = false)
    (ends : ∀ token others, onward = token :: others →
      token.kind.endsLine = true) :
    ∃ added, fact added ∧
      (Parsed.ofTokens (heading.tokens ++ (piece ++ onward))).script.imports =
          (Parsed.ofTokens (heading.tokens ++ onward)).script.imports ∧
        (Parsed.ofTokens (heading.tokens ++ (piece ++ onward))).script.members =
            added ++
              (Parsed.ofTokens (heading.tokens ++ onward)).script.members ∧
          (Parsed.ofTokens (heading.tokens ++ (piece ++ onward))).diagnostics =
            news ++
              (Parsed.ofTokens (heading.tokens ++ onward)).diagnostics := by
  have plain := forall_of_heads (@Heads.append _ piece onward starts)
  obtain ⟨behind, here, openBlocks, lexical, silent, _, finished, told⟩ :=
    heading.exists_behind plain
  have atEnd : LineEnd [Token.endOfText .origin] [] := .text rfl
  have inside : ∀ token ∈ heading.tokens ++ piece, token.kind ≠ .endOfText := by
    rw [← List.append_nil piece]
    apply List.forall_mem_append.2 ⟨?_, (contributes atEnd).ne_endOfText rfl⟩
    simp [tokens, heading.opens, heading.named, heading.breaks]
  obtain ⟨rest, ending, line, shape⟩ := exists_lineEnd inside ends
  rw [← List.append_assoc heading.tokens, List.append_assoc piece, shape,
    ← List.append_assoc] at here
  obtain ⟨added, after, holds, place, gains⟩ :=
    contributes line ⟨[], []⟩ behind here
  have reported : after.reported = news.reverse := by
    rw [gains.reported, silent, List.append_nil]
  obtain ⟨⟨_, path⟩, blocks⟩ := gains.reaches
  -- nothing that was reported is remembered
  have fresh : after.lastLexical = none := by
    rw [path.lastLexical_of_syntactic, lexical]
    rw [reported]
    exact fun diagnostic member => syntactic _ (List.mem_reverse.1 member)
  obtain ⟨last, finishedToo, toldToo⟩ := heading.exists_finishes_of_lineEnd line
    shape place (blocks.trans openBlocks) fresh
  have further := finishedToo.append ⟨[], added⟩
  simp only [Reader.ScriptBody.append, List.append_nil, List.nil_append]
    at further
  obtain ⟨same, rfl⟩ := finished.unique (gains.resumes _ last further)
  obtain ⟨imports, members⟩ := Reader.ScriptBody.mk.inj same
  refine ⟨added, holds, imports, members, ?_⟩
  rw [told, toldToo, reported, List.reverse_append, List.reverse_reverse,
    List.reverse_reverse]

end Heading

/-! ## Behind a script without errors -/

/-- A script has what one script declares, then some members, and then what
another script declares.  Some errors are reported in front of those of the
other script, and nothing else is. -/
structure Parsed.Encloses
    (whole front : Parsed) (added : List Member) (news : List Diagnostic)
    (back : Parsed) : Prop where
  imports : whole.script.imports = front.script.imports ++ back.script.imports
  members : whole.script.members =
    front.script.members ++ (added ++ back.script.members)
  diagnostics : whole.diagnostics = news ++ back.diagnostics

/-- Between a script without errors and the end of a line, a row that
contributes something is read by itself. -/
theorem Heading.exists_encloses (heading : Heading)
    (breaks : ∃ row line, before = row ++ [line] ∧ line.kind = .newline)
    (inside : ∀ token ∈ before, token.kind ≠ .endOfText)
    (silent : (Parsed.ofTokens before).diagnostics = [])
    (contributes : ∀ {rest ending : List Token}, LineEnd rest ending →
      Contributes (piece ++ ending) rest news fact)
    (starts : Heads (· ≠ .docComment) piece)
    (syntactic : ∀ diagnostic ∈ news, diagnostic.cause.isLexical = false)
    (ends : ∀ token others, onward = token :: others →
      token.kind.endsLine = true) :
    ∃ added, fact added ∧
      (Parsed.ofTokens (before ++ (piece ++ onward))).Encloses
        (Parsed.ofTokens before) added news
        (Parsed.ofTokens (heading.tokens ++ onward)) := by
  have bounded : Bounded before (piece ++ onward) :=
    { breaks
      inside
      plain := forall_of_heads (Heads.append starts)
      more := by
        rintro nothing
        rw [(List.append_eq_nil_iff.1 nothing).1] at starts
        exact starts.elim }
  obtain ⟨imports, members, told⟩ := bounded.append_declarations silent heading
  obtain ⟨added, holds, sameImports, sameMembers, same⟩ :=
    heading.exists_contribution contributes starts syntactic ends
  exact ⟨added, holds, by rw [imports, sameImports],
    by rw [members, sameMembers], by rw [told, same]⟩

end Contributions

end PapyrusScript
