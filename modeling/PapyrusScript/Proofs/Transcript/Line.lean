import PapyrusScript.Proofs.Coverage
import PapyrusScript.Proofs.Transcript

/-!
# Parts of a line cover their transcripts

Every token of a rendering that is not a parenthesis is a mark of its
expression, and there are no others.  So the reader of an expression passes the
tokens of its transcript and parentheses, and nothing else.
-/

namespace PapyrusScript

variable {row : List Token}

/-! ## Renderings -/

def Part.transcript : Part → List Mark
  | .expression _ tree => tree.transcript
  | .arguments list => Expression.argumentsTranscript list

/-- The token of a type is its mark. -/
theorem transcribes_of_dataType? {token : Token} {dataType : DataType}
    (names : Reader.dataType? token = some dataType) :
    Transcribes [token] [dataType.mark] := by
  unfold Reader.dataType? at names
  split at names
  · rename_i kind
    cases names
    exact .word kind
  · rename_i kind
    cases names
    exact .word kind
  · rename_i kind
    cases names
    exact .word kind
  · rename_i kind
    cases names
    exact .word kind
  · rename_i kind
    cases names
    exact .name kind
  · cases names

theorem TypeName.Spelled.transcribes
    {type : TypeName} (spelled : type.Spelled row) :
    Transcribes row type.transcript := by
  cases spelled with
  | plain names => exact transcribes_of_dataType? names
  | array names opens closes =>
    exact (transcribes_of_dataType? names).cons <|
      (Transcribes.sign opens rfl).cons (.sign closes rfl)

theorem Token.Spells.transcribes
    {token : Token} {value : Value} (spells : token.Spells value) :
    Transcribes [token] [.value value] := by
  apply Transcribes.single _ (.value spells)
  cases spells with
  | bool value kind => rw [kind]; rfl
  | int kind => rw [kind]; rfl
  | float kind => rw [kind]; rfl
  | string kind => rw [kind]; rfl
  | none kind => rw [kind]; rfl
  | selfReference kind => rw [kind]; rfl
  | parentReference kind => rw [kind]; rfl

/-- A minus in front of an integer, which belongs to its value. -/
theorem transcribes_negative {minus token : Token} {number : Int32}
    (sign : minus.kind = .symbol .minus) (kind : token.kind = .intLiteral)
    (reads : Number.integer? true token.text.toList = some number) :
    Transcribes [minus, token] [.value (.int number)] := by
  have kept : withoutLayout [minus, token] = [minus, token] := by
    unfold withoutLayout
    rw [List.filter_cons_of_pos (by rw [sign]; rfl),
      List.filter_cons_of_pos (by rw [kind]; rfl)]
    rfl
  unfold Transcribes
  rw [kept]
  exact (Mark.Spelled.negative sign kind reads).inTurn

theorem Identifier.SpelledAs.transcribes
    {called : Option Identifier} (named : Identifier.SpelledAs called row) :
    Transcribes row (Identifier.argumentTranscript called) := by
  cases named with
  | unnamed => exact .nil
  | named kind assigns => exact (Transcribes.name kind).cons (.sign assigns rfl)

namespace Transcribes

variable {opening closing : Token} {row : List Token} {marks : List Mark}

theorem parenthesized (opens : opening.kind = .symbol .openParen)
    (closes : closing.kind = .symbol .closeParen)
    (inside : Transcribes row marks) :
    Transcribes (opening :: (row ++ [closing])) marks := by
  have last : Transcribes [closing] [] := .layout (by rw [closes]; rfl)
  exact cons_layout (by rw [opens]; rfl) (inside.append_bare last)

theorem bracketed (opens : opening.kind = .symbol .openBracket)
    (closes : closing.kind = .symbol .closeBracket)
    (inside : Transcribes row marks) :
    Transcribes (opening :: (row ++ [closing]))
      (.sign .openBracket :: (marks ++ [.sign .closeBracket])) :=
  cons (.sign opens rfl) (inside.append (.sign closes rfl))

end Transcribes

theorem BinaryOperator.isLayout_symbol (operator : BinaryOperator) :
    (Kind.symbol operator.symbol).isLayout = false := by
  cases operator <;> rfl

theorem UnaryOperator.isLayout_symbol (operator : UnaryOperator) :
    (Kind.symbol operator.symbol).isLayout = false := by
  cases operator <;> rfl

/-- A rendering transcribes its expression, by induction on it. -/
theorem Renders.transcribes {level : Nat} {part : Part} {rendering : Rendering}
    (renders : Renders level part rendering) :
    Transcribes rendering.tokens part.transcript := by
  induction renders with
  | literal spells => exact spells.transcribes
  | signed sign kind reads => exact transcribes_negative sign kind reads
  | name kind => exact .name kind
  | parenthesized opens closes _ ih =>
    simp only [Rendering.tokens_cons, Rendering.tokens_append,
      Rendering.tokens_nil]
    exact ih.parenthesized opens closes
  | weaken _ _ ih => exact ih
  | @unary _ operator _ _ _ _ kind _ _ ih =>
    exact .cons (.sign kind operator.isLayout_symbol) ih
  | @binary _ operator _ _ _ _ _ _ kind _ _ first second =>
    rw [Rendering.tokens_append]
    exact first.append (.cons (.sign kind operator.isLayout_symbol) second)
  | cast kind _ spelled ih =>
    rw [Rendering.tokens_append, Rendering.tokens_cons, Rendering.tokens_flat]
    exact ih.append (.cons (.word kind) spelled.transcribes)
  | member kind named _ ih =>
    rw [Rendering.tokens_append]
    exact ih.append (.cons (.sign kind rfl) (.name named))
  | arrayLength kind length _ ih =>
    rw [Rendering.tokens_append]
    exact ih.append (.cons (.sign kind rfl) (.word length))
  | index opens closes _ _ _ first second =>
    simp only [Rendering.tokens_cons, Rendering.tokens_append,
      Rendering.tokens_nil]
    exact first.append (second.bracketed opens closes)
  | call opens closes _ _ first second =>
    simp only [Rendering.tokens_cons, Rendering.tokens_append,
      Rendering.tokens_nil]
    exact first.append (second.parenthesized opens closes)
  | createObject kind names =>
    exact .cons (.word kind) (transcribes_of_dataType? names)
  | createArray kind names opens closes _ ih =>
    simp only [Rendering.tokens_cons, Rendering.tokens_append,
      Rendering.tokens_nil]
    exact .cons (.word kind) <| (transcribes_of_dataType? names).cons <|
      ih.bracketed opens closes
  | noArguments => exact .nil
  | @lastArgument _ argument _ _ named _ ih =>
    obtain ⟨called, value, span⟩ := argument
    rw [Rendering.tokens_append, Rendering.tokens_flat]
    have marks := named.transcribes.append ih
    rw [Part.transcript, Expression.argumentsTranscript,
      Expression.furtherTranscript.eq_def, List.append_nil]
    exact marks
  | @nextArgument _ _ argument following more _ _ _ kind named _ _
      first second =>
    obtain ⟨called, value, span⟩ := argument
    rw [Rendering.tokens_append, Rendering.tokens_flat,
      Rendering.tokens_append, Rendering.tokens_cons, ← List.append_assoc]
    have marks := named.transcribes.append first
    exact marks.append (.cons (.sign kind rfl) second)

open Cursor

variable {cursor : Cursor}

namespace Reader

/-! ## Parts of a line -/

theorem covers_expect (kind : Kind) (purpose : String)
    (inside : kind ≠ .endOfText) :
    (expect kind purpose).Covers cursor fun token row =>
      row = [token] ∧ token.kind = kind := by
  unfold expect
  apply Covers.get
  split
  · rename_i found
    have here : cursor.kind ≠ .endOfText := by rwa [found]
    apply Covers.lift
    show cursor.Covers cursor.next fun row =>
      row = [cursor.current] ∧ cursor.current.kind = kind
    exact .next here ⟨rfl, found⟩
  · split <;> exact covers_reject _

theorem covers_identifier (what : String) :
    (identifier what).Covers cursor fun node row =>
      ∃ token, row = [token] ∧ token.kind = .identifier ∧
        node = ⟨token.text, token.span⟩ := by
  unfold identifier
  apply Covers.get
  split
  · rename_i found
    apply Covers.advance (by simp [found])
    exact .pure ⟨_, rfl, found, rfl⟩
  · exact covers_reject _

theorem covers_endOfLine (context : String) :
    (endOfLine context).Covers cursor fun _ row =>
      ∀ token ∈ row, token.kind = .newline := by
  unfold endOfLine
  apply Covers.get
  split
  · rename_i found
    apply Covers.advance (by simp [found])
    exact .pure (List.forall_mem_singleton.2 found)
  · exact .pure (List.forall_mem_nil _)
  · exact covers_reject _

theorem covers_typeName :
    typeName.Covers cursor fun type row => type.Spelled row := by
  have yields : typeName.Yields cursor fun type after =>
      cursor.Covers after fun row => type.Spelled row := by
    apply (@yields_typeName cursor 0 (Nat.zero_le _)).mono
    intro type after shows
    apply shows.mono
    rintro _ ⟨row, rfl, spelled⟩
    rwa [Rendering.tokens_flat]
  exact yields.covers (advances_typeName cursor).travels.run.grows

theorem covers_expression :
    expression.Covers cursor fun value row =>
      Transcribes row value.transcript := by
  have yields : expression.Yields cursor fun value after =>
      cursor.Covers after fun row => Transcribes row value.transcript := by
    apply (sound_expression cursor).mono
    intro value after shows
    exact shows.mono fun _ read => read.renders.transcribes
  exact yields.covers (advances_expression cursor).travels.run.grows

theorem isLayout_of_assignmentOperator?
    {kind : Kind} {operator : AssignmentOperator}
    (found : kind.assignmentOperator? = some operator) :
    ∃ symbol, kind = .symbol symbol ∧ symbol = operator.symbol ∧
      (Kind.symbol symbol).isLayout = false := by
  unfold Kind.assignmentOperator? at found
  split at found
  all_goals cases found
  all_goals exact ⟨_, rfl, rfl, rfl⟩

end Reader

namespace Recovery

open Reader

/-! ## Ends of lines -/

/-- Reporting a broken line and skipping the rest of it tells. -/
theorem tells_synchronizeAfter
    {α : Type} (diagnostic : Diagnostic) (value : α) :
    Tells
      (do
        Reader.report diagnostic
        synchronize
        return value) cursor :=
  .report fun cursor =>
    (travels_synchronize cursor).grows.bind fun _ _ => .pure _

/-- Only line breaks are passed in front of a line. -/
theorem covers_skipNewlines :
    skipNewlines.Covers cursor fun _ row =>
      ∀ token ∈ row, token.kind = .newline := by
  have adds (value : Unit) (cursor : Cursor) :
      (passNewline value).Covers cursor fun decision row =>
        ∀ before, (∀ token ∈ before, token.kind = .newline) →
          Step.Adds (fun _ row => ∀ token ∈ row, token.kind = .newline)
            (fun _ row => ∀ token ∈ row, token.kind = .newline) decision
            (before ++ row) := by
    unfold passNewline
    apply Covers.get
    split
    · rename_i found
      apply Covers.advance (by simp [found])
      apply Covers.pure
      intro before breaks
      exact List.forall_mem_append.2
        ⟨breaks, List.forall_mem_singleton.2 found⟩
    · apply Covers.pure
      intro before breaks
      rwa [List.append_nil]
  unfold skipNewlines
  apply Covers.get
  apply (Covers.loop proceeds_passNewline adds ()).mono
  exact fun _ row holds => holds [] (List.forall_mem_nil _)

theorem covers_finishLine (context : String) :
    (finishLine context).Covers cursor fun _ row =>
      ∀ token ∈ row, token.kind = .newline := by
  unfold finishLine
  apply Covers.run_bind (covers_endOfLine context)
  · intro _ after
    apply Covers.pure
    intro before breaks
    rwa [List.append_nil]
  · exact fun _ _ => tells_reportAndSkipLine _

end Recovery

theorem Reader.Arms.add_of_early
    {arms : Reader.Arms} (early : arms.otherwise = none) (value : Expression)
    (inside : List Statement) (span : Span) :
    arms.add (some value) inside span =
      { arms with branches := arms.branches ++ [⟨value, inside, span⟩] } := by
  unfold Reader.Arms.add
  rw [early]
  rfl

end PapyrusScript
