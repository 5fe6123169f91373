import PapyrusScript.Proofs.OpenBlocks

/-!
# What stands in front of a second header

Whether the header of a script has been read is stored nowhere.  A second one
is reported wherever a declaration may start and `Scriptname` stands, and
nowhere else: the readers of members and of their bodies report open blocks
as well as errors within lines, but no header.

So each such report follows the first token of the script that is no line
break.  That token is another `Scriptname`, or a header is reported missing
there.
-/

namespace PapyrusScript

variable {α : Type}

def Cause.isSecondHeader : Cause → Bool
  | .duplicateHeader => true
  | _ => false

/-- Second headers are found between lines, and no open block is one. -/
instance : Cause.Discerning Cause.isSecondHeader where
  isOuter {cause} isSecond := by
    unfold Cause.isSecondHeader at isSecond
    split at isSecond
    · rfl
    · cases isSecond
  spares _ := rfl

/-! ## The message of a second header -/

section

variable {first letter : Char} {rest : List Char}

/-- The first letter of a literal is read off without unfolding the rest. -/
theorem letter_of_literal
    (starts : (String.ofList (first :: rest)).toList.head? = some letter) :
    first = letter := by
  simpa using starts

theorem letter_of_literal_append {tail : String}
    (starts : (String.ofList (first :: rest) ++ tail).toList.head? =
      some letter) : first = letter := by
  simpa using starts

end

theorem LexicalError.head?_describe (error : LexicalError) (lexeme : String) :
    (error.describe lexeme).toList.head? ≠ some 'd' := by
  intro starts
  unfold describe at starts
  cases error with
  | unterminatedString | unterminatedComment | unterminatedDocComment =>
    exact absurd (letter_of_literal starts) (by decide)
  | _ =>
    simp only [String.append_assoc] at starts
    exact absurd (letter_of_literal_append starts) (by decide)

/-- Only one cause is told with the message about a second header. -/
theorem Cause.eq_duplicateHeader_of_message
    {cause : Cause} (same : cause.message = Cause.duplicateHeader.message) :
    cause = .duplicateHeader := by
  have starts : cause.message.toList.head? = some 'd' := by
    rw [same]
    decide
  clear same
  unfold message at starts
  cases cause with
  | duplicateHeader => rfl
  | lexical error lexeme => exact absurd starts (error.head?_describe lexeme)
  | invalidAssignmentTarget | chainedAssignment | notCallable
  | getterWithParameters | setterArity | elseIfAfterElse | repeatedElse =>
    exact absurd (letter_of_literal starts) (by decide)
  | _ =>
    simp only [String.append_assoc] at starts
    exact absurd (letter_of_literal_append starts) (by decide)

/-! ## Declarations -/

namespace Cursor

/-- At most one second header is reported on the way, and on a
`Scriptname`. -/
def MeetsHeader (source target : Cursor) : Prop :=
  target.reportsOf Cause.isSecondHeader =
      source.reportsOf Cause.isSecondHeader ∨
    ∃ place, source.Reaches place ∧ place.kind = .keyword .scriptname ∧
      target.reportsOf Cause.isSecondHeader =
        ⟨place.position, .duplicateHeader⟩ ::
          source.reportsOf Cause.isSecondHeader

end Cursor

/-- A step of the loop over declarations reports at most one second header. -/
theorem Recovery.ends_nextDeclaration_meetsHeader
    (found : Reader.ScriptBody) (cursor : Cursor) :
    (Reader.nextDeclaration found).Ends cursor fun _ after =>
      cursor.MeetsHeader after := by
  have breaks : Reader.skipNewlines.Travels cursor Cause.isSecondHeader :=
    travels_skipNewlines cursor
  apply Ends.bind breaks
  intro _ place reaches
  have quiet {reader : Recovery (Step Reader.ScriptBody)}
      (omits : reader.Omits Cause.isSecondHeader) :
      reader.Ends place fun _ after => cursor.MeetsHeader after :=
    (omits place).mono fun _ _ held => .inl (held.trans reaches.reportsOf)
  rw [ends_bind, ends_get]
  split
  · exact quiet (.pure _)
  · exact quiet (.take fun _ => .pure _)
  · rename_i word
    have recovers : Reader.recoverToMember.Omits Cause.isSecondHeader :=
      omits_recoverToMember
    refine .inr ⟨place, reaches.unsorted, word, (recovers _).trans ?_⟩
    rw [Cursor.reportsOf_report_of_sort _ rfl, reaches.reportsOf]
  · apply quiet
    apply Omits.run_bind (.of_travels fun cursor =>
      (Reader.advances_importLine cursor).travels)
    · exact fun _ => .pure _
    · exact fun _ other => (omits_reportAndRecover other).bind fun _ => .pure _
  · apply quiet
    split
    · apply Omits.run_bind Reader.omits_members
      · exact fun _ => .pure _
      · intro diagnostic other
        apply (omits_report other).bind
        exact fun _ => (omits_skipMember _).bind fun _ => .pure _
    · exact .unexpected fun _ other =>
        (omits_reportAndRecover other).bind fun _ => .pure _

/-! ## Scripts -/

/-- The report stands on a `Scriptname` behind the first token of a row. -/
def Diagnostic.Trails (diagnostic : Diagnostic) (row : List Token) : Prop :=
  ∃ first between token after, row = first :: (between ++ token :: after) ∧
    token.kind = .keyword .scriptname ∧
    token.span.start = diagnostic.position

namespace Cursor

/-- A header that stands at the first cursor has been passed, or a header has
been reported missing there. -/
def Headed (opening cursor : Cursor) : Prop :=
  opening.kind = .keyword .scriptname ∧ opening.Precedes cursor ∨
    opening.kind ≠ .keyword .scriptname ∧
      Diagnostic.unexpected opening.current "'Scriptname' header" ∈
        cursor.reported

/-- What holds in front of each declaration of a script whose header has been
looked for at `opening`. -/
structure PastHeader (opening cursor : Cursor) : Prop where
  reaches : opening.Reaches cursor
  headed : opening.Headed cursor
  trails : ∀ diagnostic ∈ cursor.reportsOf Cause.isSecondHeader,
    diagnostic.Trails opening.budget

/-- The second cursor stands behind the line breaks at the first one. -/
structure Opens (source opening : Cursor) : Prop where
  breaks : ∃ breaks, source.budget = breaks ++ opening.budget ∧
    ∀ token ∈ breaks, token.kind = .newline
  visible : opening.kind ≠ .newline

variable {opening cursor place after : Cursor}

theorem Headed.trans_reaches
    (headed : opening.Headed cursor) (reaches : cursor.Reaches after) :
    opening.Headed after := by
  rcases headed with ⟨word, before⟩ | ⟨other, reported⟩
  · exact .inl ⟨word, before.trans_reaches reaches⟩
  · exact .inr ⟨other, reaches.reported_suffix.subset reported⟩

namespace PastHeader

variable (past : opening.PastHeader cursor)

include past

/-- A `Scriptname` that is met later on is not the one at the opening. -/
theorem trails_of_scriptname (reaches : cursor.Reaches place)
    (word : place.kind = .keyword .scriptname) :
    Diagnostic.Trails ⟨place.position, .duplicateHeader⟩ opening.budget := by
  have along := past.reaches.trans reaches
  have before : opening.Precedes place := by
    rcases past.headed with ⟨_, before⟩ | ⟨other, _⟩
    · exact before.trans_reaches reaches
    · by_cases moved : opening.Precedes place
      · exact moved
      · exact absurd ((along.kind_eq moved).symm.trans word) other
  obtain ⟨between, shape⟩ := along.exists_between before
  exact ⟨opening.current, between, place.current, place.ahead, shape, word, rfl⟩

theorem step
    (reaches : cursor.Reaches after) (meets : cursor.MeetsHeader after) :
    opening.PastHeader after where
  reaches := past.reaches.trans reaches
  headed := past.headed.trans_reaches reaches
  trails := by
    rcases meets with same | ⟨place, reached, word, reported⟩
    · rw [same]
      exact past.trails
    · rw [reported, List.forall_mem_cons]
      exact ⟨past.trails_of_scriptname reached word, past.trails⟩

/-- Behind a header, so is everything that is declared next. -/
theorem of_finishes {found final : Reader.ScriptBody}
    (finished : Recovery.Finishes Reader.nextDeclaration found cursor final
      after) : opening.PastHeader after := by
  have steps (value : Reader.ScriptBody) {cursor : Cursor}
      (past : opening.PastHeader cursor) :
      (Reader.nextDeclaration value).Ends cursor fun _ after =>
        opening.PastHeader after :=
    past.step (Recovery.proceeds_nextDeclaration value cursor).travels
      (Recovery.ends_nextDeclaration_meetsHeader value cursor)
  induction finished with
  | @done value _ cursor _ stops =>
    have stepped := steps value past
    unfold Recovery.Ends at stepped
    rwa [stops] at stepped
  | @again value _ _ cursor _ _ goesOn _ _ ih =>
    have stepped := steps value past
    unfold Recovery.Ends at stepped
    rw [goesOn] at stepped
    exact ih stepped

end PastHeader

end Cursor

namespace Recovery

/-- A missing header is reported on the token in its place. -/
theorem ends_missingHeader (cursor : Cursor) :
    Reader.missingHeader.Ends cursor fun _ after =>
      Diagnostic.unexpected cursor.current "'Scriptname' header" ∈
        after.reported := by
  unfold Reader.missingHeader
  rw [ends_bind, ends_get, ends_bind, ends_unexpected, ends_bind, ends_report]
  split
  · apply Ends.mono (travels_recoverToMember _)
    intro _ after reaches
    exact reaches.reported_suffix.subset List.mem_cons_self
  · exact List.mem_cons_self

theorem ends_header (cursor : Cursor) :
    Reader.header.Ends cursor fun _ after => cursor.Headed after := by
  unfold Reader.header
  rw [ends_bind, ends_get]
  dsimp only
  split
  · rename_i word
    have inside : cursor.kind ≠ .endOfText := by simp [word]
    exact .inl ⟨word, (advances_headerLine _ inside).2⟩
  · rename_i other
    exact .inr ⟨other, ends_missingHeader cursor⟩

/-- No second header is reported up to the first declaration. -/
theorem ends_scriptTop (cursor : Cursor) (silent : cursor.reported = []) :
    scriptTop.Ends cursor fun _ after => ∃ opening,
      cursor.Opens opening ∧ opening.PastHeader after := by
  have breaks : Reader.skipNewlines.Ends cursor fun _ opening =>
      cursor.Opens opening ∧ opening.reportsOf Cause.isSecondHeader =
        cursor.reportsOf Cause.isSecondHeader :=
    ⟨⟨ends_skipNewlines_passed cursor, ends_skipNewlines cursor⟩,
      omits_skipNewlines cursor⟩
  apply breaks.bind
  rintro _ opening ⟨opens, same⟩
  have top : Reader.header.Travels opening Cause.isSecondHeader :=
    travels_header opening
  apply (Ends.and top (ends_header opening)).mono
  rintro _ after ⟨reaches, headed⟩
  have nothing : after.reportsOf Cause.isSecondHeader = [] := by
    rw [reaches.reportsOf, same, Cursor.reportsOf, silent]
    rfl
  refine ⟨opening, opens, reaches.unsorted, headed, ?_⟩
  rw [nothing]
  exact List.forall_mem_nil _

theorem ends_script_pastHeader
    (cursor : Cursor) (silent : cursor.reported = []) :
    Reader.script.Ends cursor fun _ after => ∃ opening,
      cursor.Opens opening ∧ opening.PastHeader after := by
  obtain ⟨opening, opens, past⟩ := ends_scriptTop cursor silent
  apply (ends_script cursor).mono
  rintro _ after ⟨found, finished, -, -⟩
  exact ⟨opening, opens, past.of_finishes finished⟩

end Recovery

/-- The first token that is no line break stands behind the line breaks. -/
theorem find?_behind_newlines {breaks : List Token} {token : Token}
    (newlines : ∀ token ∈ breaks, token.kind = .newline)
    (visible : token.kind ≠ .newline) (rest : List Token) :
    (breaks ++ token :: rest).find? (·.kind ≠ .newline) = some token := by
  have hidden : breaks.find? (·.kind ≠ .newline) = none := by
    refine List.find?_eq_none.2 fun token member => ?_
    simp [newlines token member]
  have found : (token :: rest).find? (·.kind ≠ .newline) = some token :=
    List.find?_cons_of_pos (decide_eq_true visible)
  rw [List.find?_append, hidden, found, Option.none_or]

/-- The message of a second header is given on a `Scriptname` only.  The first
token of the script that is no line break stands in front of it.  It is
another `Scriptname`, or a header has been reported missing there. -/
theorem duplicate_header_has_forerunner
    {tokens : List Token} {diagnostic : Diagnostic}
    (member : diagnostic ∈ (Parsed.ofTokens tokens).diagnostics)
    (duplicate : diagnostic.message = Cause.duplicateHeader.message) :
    ∃ before token after first, tokens = before ++ token :: after ∧
      token.kind = .keyword .scriptname ∧
      token.span.start = diagnostic.position ∧
      before.find? (·.kind ≠ .newline) = some first ∧
      (first.kind = .keyword .scriptname ∨
        Diagnostic.unexpected first "'Scriptname' header" ∈
          (Parsed.ofTokens tokens).diagnostics) := by
  rw [Parsed.ofTokens_eq] at member ⊢
  rw [List.mem_reverse] at member
  have cause := Cause.eq_duplicateHeader_of_message duplicate
  have ends := Recovery.ends_script_pastHeader (Cursor.start tokens)
    (Cursor.reported_start tokens)
  obtain ⟨opening, ⟨⟨breaks, whole, newlines⟩, visible⟩, past⟩ := ends
  have counted : diagnostic ∈
      (Reader.script.run (Cursor.start tokens)).2.reportsOf
        Cause.isSecondHeader :=
    List.mem_filter.2 ⟨member, by rw [cause]; rfl⟩
  obtain ⟨first, between, token, after, row, word, place⟩ :=
    past.trails diagnostic counted
  obtain rfl : opening.current = first := (List.cons.inj row).1
  have everything : tokens ++ Cursor.missingEnd tokens =
      (breaks ++ opening.current :: between) ++ token :: after := by
    rw [← Cursor.budget_start, whole, row, List.append_assoc]
    rfl
  obtain ⟨rest, shape⟩ :=
    Cursor.exists_of_missingEnd everything (by rw [word]; nofun)
  refine ⟨_, token, rest, opening.current, shape, word, place,
    find?_behind_newlines newlines visible between, ?_⟩
  rcases past.headed with ⟨word, _⟩ | ⟨_, reported⟩
  · exact .inl word
  · exact .inr (List.mem_reverse.2 reported)

/-- A script with two header lines behind an empty line. -/
def Script.namedTwice : String := "\nScriptname Door\nScriptname Window\n"

/-- The first header line stands in front of the second one. -/
theorem namedTwice_has_forerunner :
    ⟨⟨3, 1⟩, .duplicateHeader⟩ ∈
        (Parsed.ofTokens (tokens Script.namedTwice)).diagnostics ∧
      ∃ before token after first,
        tokens Script.namedTwice = before ++ token :: after ∧
          token.kind = .keyword .scriptname ∧
          token.span.start = ⟨3, 1⟩ ∧
          before.find? (·.kind ≠ .newline) = some first ∧
          (first.kind = .keyword .scriptname ∨
            Diagnostic.unexpected first "'Scriptname' header" ∈
              (Parsed.ofTokens (tokens Script.namedTwice)).diagnostics) := by
  have reported : ⟨⟨3, 1⟩, .duplicateHeader⟩ ∈
      (Parsed.ofTokens (tokens Script.namedTwice)).diagnostics := by
    decide
  exact ⟨reported, duplicate_header_has_forerunner reported rfl⟩

/-- A script with a comment in front of its only header line. -/
def Script.lateHeader : String := "{A door.}\nScriptname Door\n"

/-- The only header line is reported as a second one. -/
theorem lateHeader_called_duplicate :
    (tokens Script.lateHeader).countP (·.kind = .keyword .scriptname) = 1 ∧
      ⟨⟨2, 1⟩, .duplicateHeader⟩ ∈
        (Parsed.ofTokens (tokens Script.lateHeader)).diagnostics :=
  ⟨by decide, by decide⟩

end PapyrusScript
