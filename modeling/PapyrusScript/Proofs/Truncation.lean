import Mathlib.Data.List.Nodup
import PapyrusScript.Proofs.ErrorIsolation
import PapyrusScript.Proofs.Truncation.Script

/-!
# Every block that a cut leaves open is reported

A script without errors is cut off at any of its tokens.  The blocks that are
open there are reported at their keywords, the innermost first.  The cut may
fall anywhere: into a header, a condition, a type or the arguments of a call.

Where it falls into a line, that line may open one more block.  Whether it
does cannot be told from what is kept of it, so this block may be reported too.
-/

namespace PapyrusScript

open Cursor

variable {kept dropped text : List Token} {last : Token} {cut : Cut}

/-- The reports of blocks that are still open, in the order of their
discovery. -/
def Parsed.unterminated (parsed : Parsed) : List Diagnostic :=
  parsed.diagnostics.filter fun diagnostic => diagnostic.cause.isUnterminated

/-- Where nothing is reported, no block is. -/
theorem Parsed.unterminated_eq_nil {parsed : Parsed}
    (accepted : parsed.diagnostics = []) : parsed.unterminated = [] := by
  rw [unterminated, accepted]
  rfl

theorem Parsed.unterminated_ofTokens (tokens : List Token) :
    (Parsed.ofTokens tokens).unterminated =
      (Reader.script.run (start tokens)).2.unterminated.reverse := by
  rw [unterminated, ofTokens_eq, Cursor.unterminated, List.filter_reverse]

namespace Cursor

/-- Where a list of tokens does not end itself, an end is put behind it. -/
theorem exists_missingEnd (inside : ∀ token ∈ kept, token.kind ≠ .endOfText) :
    ∃ last, missingEnd kept = [last] ∧ last.kind = .endOfText := by
  unfold missingEnd
  split
  · exact ⟨_, rfl, rfl⟩
  · rename_i last found
    rw [if_neg (inside last (List.mem_of_getLast? found))]
    exact ⟨_, rfl, rfl⟩

end Cursor

/-! ## The two runs over a script -/

namespace Cut

open Cursor

variable {whole tokens : List Token}

theorem abreast_start (here : (start whole).budget = cut.kept ++ cut.rest)
    (there : (start tokens).budget = cut.kept ++ [cut.last])
    (more : cut.kept ≠ []) :
    cut.Abreast cut.kept (start whole) (start tokens) := by
  refine ⟨here, there, List.suffix_refl _, ?_, ?_, lastLexical_start _,
    lastLexical_start _, reported_start _,
    reported_start _⟩
  · obtain ⟨first, row, same⟩ := List.exists_cons_of_ne_nil more
    rw [same] at here there
    rw [lastEnd_start_eq, lastEnd_start_eq,
      current_of_budget here, current_of_budget there]
  · rw [openBlocks_start, openBlocks_start]

/-- Where the whole script is read without a report, reading what is kept of
it comes to the end with nothing left to be reported. -/
theorem spent_script (here : (start whole).budget = cut.kept ++ cut.rest)
    (there : (start tokens).budget = cut.kept ++ [cut.last])
    (silent : (Parsed.ofTokens whole).diagnostics = []) :
    cut.Spent [] (Reader.script.run (start tokens)).2 := by
  by_cases nothing : cut.kept = []
  · have goal : cut.goal = [] := by
      rw [Cut.goal, nothing]
      rfl
    rw [nothing] at there
    have unreported : (start tokens).unterminated = [] := by
      rw [unterminated, reported_start]
      rfl
    have atEnd : (start tokens).kind = .endOfText := by
      rw [kind_of_budget there, cut.ends]
    exact Recovery.carries_script.unwinds (.of_goal atEnd unreported goal)
  · rw [Parsed.ofTokens_eq] at silent
    have abreast := abreast_start here there nothing
    have opens : cut.Opens [] cut.kept := ⟨rfl, [], rfl, List.Sublist.refl _⟩
    rcases Recovery.carries_script.tears ⟨_, nothing, opens, abreast⟩
        (List.reverse_eq_nil_iff.1 silent) with ⟨_, atLine⟩ | spent
    · exfalso
      -- a script is read up to the end of the text, which is not kept
      obtain ⟨row, more, _, abreast⟩ := atLine
      obtain ⟨first, row, rfl⟩ := List.exists_cons_of_ne_nil more
      have atEnd : (Reader.script.run (start whole)).2.kind = .endOfText :=
        Recovery.kind_script (start whole)
      rw [abreast.kind.1] at atEnd
      exact abreast.ne_endOfText first List.mem_cons_self atEnd
    · exact spent

end Cut

/-- A list of tokens that is cut off behind some of them. -/
theorem exists_cut (inside : ∀ token ∈ kept, token.kind ≠ .endOfText)
    (silent : (Parsed.ofTokens (kept ++ dropped)).diagnostics = []) :
    ∃ cut : Cut, cut.kept = kept ∧ cut.goal = Opening.openAt kept dropped ∧
      cut.Spent [] (Reader.script.run (start kept)).2 := by
  obtain ⟨last, missing, ends⟩ := exists_missingEnd inside
  let cut : Cut :=
    ⟨kept, dropped ++ missingEnd (kept ++ dropped), last, ends, inside⟩
  have here : (start (kept ++ dropped)).budget = cut.kept ++ cut.rest := by
    rw [budget_start, List.append_assoc]
  have there : (start kept).budget = cut.kept ++ [cut.last] := by
    rw [budget_start, missing]
  refine ⟨cut, rfl, ?_, Cut.spent_script here there silent⟩
  have closed : Opening.startsBehindLine cut.rest =
      Opening.startsBehindLine dropped := by
    cases dropped with
    | nil =>
      show Opening.startsBehindLine (missingEnd (kept ++ [])) = true
      rw [List.append_nil, missing]
      simp [Opening.startsBehindLine, ends, Kind.endsLine]
    | cons token dropped => rfl
  rw [Cut.goal, Opening.openAt, closed]
  rfl

/-- A script without errors closes every block that it opens. -/
theorem openAt_of_accepted (inside : ∀ token ∈ text, token.kind ≠ .endOfText)
    (ends : last.kind = .endOfText)
    (silent : (Parsed.ofTokens (text ++ [last])).diagnostics = []) :
    Opening.openAt text [] = [] := by
  let cut : Cut := ⟨text, [last], last, ends, inside⟩
  have noneMissing : missingEnd (text ++ [last]) = [] := by
    unfold missingEnd
    rw [List.getLast?_concat]
    exact if_pos ends
  have here : (start (text ++ [last])).budget = text ++ [last] := by
    rw [budget_start, noneMissing, List.append_nil]
  obtain ⟨extra, _, told⟩ := (@Cut.spent_script cut _ _ here here silent).told
  rw [← Parsed.unterminated_ofTokens, Parsed.unterminated_eq_nil silent] at told
  have unopened := (List.append_eq_nil_iff.1 told.symm).2
  have closed : Opening.startsBehindLine cut.rest = true := by
    simp [cut, Opening.startsBehindLine, ends, Kind.endsLine]
  have goal : cut.goal = Opening.openAt text [] := by
    rw [Cut.goal, Opening.openAt, closed]
    rfl
  rw [← goal]
  exact List.map_eq_nil_iff.1 unopened

/-! ## The reports -/

/-- No two of the blocks that are reported have the same keyword. -/
theorem Cut.Extra.keywords_sublist
    {extra : List Opening} (isExtra : cut.Extra extra) :
    ((extra ++ cut.goal).map Opening.keyword).reverse.Sublist cut.kept := by
  rcases isExtra with rfl | ⟨opening, before, line, rfl, kept, _, within,
    sublist⟩
  · exact Opening.openAt_sublist _ _
  · rw [kept, List.singleton_append, List.map_cons, List.reverse_cons]
    exact sublist.append (List.singleton_sublist.2 within)

/-- Each of several blocks is reported once at its keyword, where the keywords
stand in different places. -/
theorem count_report
    {openings : List Opening} {opening : Opening} (ordered : StartsAscend kept)
    (sublist : (openings.map Opening.keyword).reverse.Sublist kept)
    (within : opening ∈ openings) :
    ((openings.map Opening.report).map Diagnostic.position).count
      opening.keyword.span.start = 1 := by
  have ascend := List.Pairwise.sublist sublist ordered
  have differ : (openings.map fun opening =>
      opening.keyword.span.start).Nodup := by
    rw [← List.nodup_reverse, ← List.map_reverse]
    rw [← List.map_reverse, List.pairwise_map] at ascend
    rw [List.Nodup, List.pairwise_map]
    apply ascend.imp
    intro first second less same
    rw [same] at less
    exact Position.lt_irrefl _ less
  rw [List.map_map]
  exact List.count_eq_one_of_mem differ (List.mem_map_of_mem within)

/-- The keyword of a block stands in the last line of some tokens. -/
def Opening.InLastLine (opening : Opening) (tokens : List Token) : Prop :=
  ∃ before line, tokens = before ++ line ∧ OneLine line ∧ opening.keyword ∈ line

/-- A script without errors is cut off.  Of the reports of open blocks the
last ones are those of the blocks that are open at the cut, the innermost
first.  Each of them is the only one at its keyword.  At most one more block
is reported, which is opened by the last line.  So the errors of a script that
is cut off inside a block are never missed. -/
theorem truncation_reports_open_blocks
    (silent : (Parsed.ofTokens (kept ++ dropped)).diagnostics = []) :
    ∃ further : List Diagnostic,
      (Parsed.ofTokens kept).unterminated =
          further ++ (Opening.openAt kept dropped).map Opening.report ∧
        (StartsAscend kept → ∀ opening ∈ Opening.openAt kept dropped,
          ((Parsed.ofTokens kept).unterminated.map Diagnostic.position).count
            opening.keyword.span.start = 1) ∧
        ((∀ token ∈ kept, token.kind ≠ .endOfText) → further = [] ∨
          ∃ opening : Opening, opening.InLastLine kept ∧
            further = [opening.report]) ∧
        (Opening.openAt kept dropped ≠ [] →
          (Parsed.ofTokens kept).diagnostics ≠ []) := by
  by_cases ended : ∃ token ∈ kept, token.kind = .endOfText
  · have nothing : Opening.openAt kept dropped = [] :=
      Opening.openedIn_of_endOfText ended
    rw [nothing]
    refine ⟨(Parsed.ofTokens kept).unterminated, by simp, by simp, ?_, by simp⟩
    intro inside
    obtain ⟨token, member, atEnd⟩ := ended
    exact absurd atEnd (inside token member)
  have inside : ∀ token ∈ kept, token.kind ≠ .endOfText :=
    fun token member atEnd => ended ⟨token, member, atEnd⟩
  obtain ⟨cut, same, goal, spent⟩ := exists_cut inside silent
  obtain ⟨extra, isExtra, told⟩ := spent.told
  have sublist := isExtra.keywords_sublist
  rw [← Parsed.unterminated_ofTokens, List.map_nil, List.append_nil, goal]
    at told
  rw [goal, same] at sublist
  refine ⟨extra.map Opening.report, told, ?_, fun _ => ?_, ?_⟩
  · intro ordered opening within
    rw [told, ← List.map_append]
    exact count_report ordered sublist (List.mem_append_right _ within)
  · rcases isExtra with rfl | ⟨opening, before, line, rfl, parts, oneLine,
      within, _⟩
    · exact .inl rfl
    · exact .inr ⟨opening, ⟨before, line, same ▸ parts, oneLine, within⟩, rfl⟩
  · intro unclosed accepted
    rw [Parsed.unterminated_eq_nil accepted] at told
    exact unclosed (List.map_eq_nil_iff.1 (List.append_eq_nil_iff.1 told.symm).2)

/-! ## A loop that is cut off in a function -/

/-- A function whose text stops in the condition of a loop. -/
def Token.cutOff : List Token :=
  Heading.door.tokens ++
    [.onLine 4 (.keyword .function) "Function",
      .onLine 5 .identifier "Open", .onLine 6 (.symbol .openParen) "(",
      .onLine 7 (.symbol .closeParen) ")", .onLine 8 .newline "\n",
      .onLine 9 (.keyword .ifThen) "If", .onLine 10 .identifier "Ready",
      .onLine 11 .newline "\n", .onLine 12 (.keyword .whileLoop) "While",
      .onLine 13 .identifier "Closed"]

/-- The rest of the loop and of what is around it. -/
def Token.cutAway : List Token :=
  [.onLine 14 (.symbol .andAnd) "&&", .onLine 15 .identifier "Ready",
    .onLine 16 .newline "\n", .onLine 17 (.keyword .endWhile) "EndWhile",
    .onLine 18 .newline "\n", .onLine 19 (.keyword .endIf) "EndIf",
    .onLine 20 .newline "\n",
    .onLine 21 (.keyword .endFunction) "EndFunction"]

/-- The condition and the function around the loop are reported once each, the
condition first. -/
theorem cutOff_reports_open_blocks :
    (Parsed.ofTokens (Token.cutOff ++ Token.cutAway)).diagnostics = [] ∧
      (Parsed.ofTokens Token.cutOff).diagnostics ≠ [] ∧
      (∃ further, (Parsed.ofTokens Token.cutOff).unterminated = further ++
        [⟨⟨9, 1⟩, .unterminated .conditional 9 .endOfText⟩,
          ⟨⟨4, 1⟩, .unterminated .function 4 .endOfText⟩]) ∧
      ∀ place ∈ [(⟨9, 1⟩ : Position), ⟨4, 1⟩],
        ((Parsed.ofTokens Token.cutOff).unterminated.map
          Diagnostic.position).count place = 1 := by
  have silent : (Parsed.ofTokens
      (Token.cutOff ++ Token.cutAway)).diagnostics = [] := by
    decide +kernel
  have ordered : StartsAscend Token.cutOff := by
    decide
  have unclosed : Opening.openAt Token.cutOff Token.cutAway =
      [⟨.conditional, .onLine 9 (.keyword .ifThen) "If"⟩,
        ⟨.function, .onLine 4 (.keyword .function) "Function"⟩] := by
    decide
  obtain ⟨further, told, once, _, reported⟩ :=
    truncation_reports_open_blocks silent
  rw [unclosed] at told once reported
  refine ⟨silent, reported (List.cons_ne_nil _ _), ⟨further, told⟩, ?_⟩
  rw [List.forall_mem_cons, List.forall_mem_singleton]
  exact ⟨once ordered _ List.mem_cons_self,
    once ordered _ (List.mem_cons_of_mem _ List.mem_cons_self)⟩

end PapyrusScript
