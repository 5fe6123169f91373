import PapyrusScript.Proofs.OpenBlocks
import PapyrusScript.Proofs.Spans.Script

/-!
# Errors stand at tokens

Every error stands where a token starts.  A lexical error is one that has met
an invalid token, and any other has met what stands at its own place.  Only a
block that is left open is reported at one token and met at another: it
stands at the keyword that opened the block, and the token where the block
could no longer be closed is not invalid.

A run of the parser stays in the row of all tokens, so what is known of two
runs along a row says where its reports point.  That an open block never
meets an invalid token is known of the places where bodies end.
-/

namespace PapyrusScript

variable {fork : Fork} {cursor twin : Cursor}
variable {diagnostic : Diagnostic} {row : List Token}

def Cause.isAstray : Cause → Bool
  | .unterminated _ _ found => found.isInvalid
  | _ => false

instance : Cause.Discerning Cause.isAstray where
  isOuter {cause} astray := by
    unfold Cause.isAstray at astray
    split at astray
    · rfl
    · cases astray
  spares readable := readable

/-! ## No block is left open in front of an invalid token -/

namespace Recovery

/-- A declaration of a script reports nothing that is astray. -/
theorem omits_nextDeclaration (found : Reader.ScriptBody) :
    (Reader.nextDeclaration found).Omits Cause.isAstray := by
  have recovered {diagnostic : Diagnostic}
      (other : diagnostic.cause.isAstray = false) :
      Omits Cause.isAstray (do
        Reader.reportAndRecover diagnostic
        return Step.again found) :=
    (omits_reportAndRecover other).bind fun _ => .pure _
  apply omits_skipNewlines.bind
  intro _
  apply Omits.get
  intro cursor
  split
  · exact .pure _
  · exact .take fun _ => .pure _
  · exact recovered rfl
  · apply Omits.run_bind (.of_travels fun cursor =>
      (Reader.advances_importLine cursor).travels)
    · exact fun _ => .pure _
    · exact fun _ other => recovered other
  · split
    · apply Omits.run_bind Reader.omits_members
      · exact fun _ => .pure _
      · intro diagnostic other
        apply (omits_report other).bind
        exact fun _ => (omits_skipMember _).bind fun _ => .pure _
    · exact .unexpected fun _ other => recovered other

theorem omits_script : Reader.script.Omits Cause.isAstray := by
  apply omits_skipNewlines.bind
  intro _
  apply Omits.get
  intro _
  apply (Omits.of_travels travels_header).bind
  intro top
  apply Omits.get
  intro _
  apply (omits_loop omits_nextDeclaration _ _).bind
  exact fun _ => .get fun _ => .pure _

/-! ## Errors point at tokens of the row -/

/-- A script is read the same if nothing stands behind the row. -/
theorem agreesUnless_script
    (ends : fork.rest = []) (along : fork.Along cursor twin) :
    Reader.script.AgreesUnless (fun _ _ => False) cursor twin
      fun _ => fork.Along := by
  have never {after : Cursor} (left : fork.Left after) : False := by
    have none := left.budget
    rw [ends] at none
    exact Nat.not_succ_le_zero _ none
  have plain : fork.Plain := by
    constructor
    · intro token more same
      rw [ends] at same
      cases same
    · intro first more token others same
      rw [ends] at same
      cases same
  apply agreesUnless_afterNewlines along
  · intro cursor twin amid
    apply AgreesUnless.look (by simp only [amid.position])
    apply (agreesUnless_header plain amid).bind
    · intro top cursor twin along
      apply AgreesUnless.loop_bind (AgreesUnless.loop (fun _ => fork.Along)
        (fun _ => False) proceeds_nextDeclaration
        (fun found _ _ along =>
          (agreesUnless_nextDeclaration plain found along).mono ?_ ?_)
        (fun _ _ => False.elim) along)
      · intro body cursor twin along
        exact .look (by simp only [along.spanFrom]) (.inr (.pure along))
      · exact fun _ _ => False.elim
      · intro decision after lost
        cases decision with
        | again => exact never lost.toLeft
        | done => exact never lost.2
      · intro decision after twinAfter kept
        cases decision with
        | again => exact kept
        | done => exact kept.2.2.along
    · exact fun _ _ marked => (never marked.toLeft).elim
  · exact fun _ left => (never left).elim

end Recovery

namespace Fork

/-- A row of which every token is known, with nothing behind it. -/
def whole (row : List Token) : Fork where
  rest := []
  other := []
  told := []
  toldOther := []
  known token := token ∈ row

theorem along_whole {row : List Token} (here : cursor.budget = row)
    (silent : cursor.reported = [])
    (closed : ∀ token, row.getLast? = some token → token.kind.endsLine = true) :
    (whole row).Along cursor cursor := by
  have shape : cursor.budget = row ++ [] := by rw [here, List.append_nil]
  exact ⟨row, shape, shape, closed, fun _ member => member, rfl, rfl,
    fun _ _ _ => Iff.rfl, [], silent, silent, List.forall_mem_nil _⟩

end Fork

/-- Every report of a run points at a token of the row. -/
theorem points_of_mem_reported
    (here : cursor.budget = row) (silent : cursor.reported = [])
    (closed : ∀ token, row.getLast? = some token → token.kind.endsLine = true)
    (member : diagnostic ∈ (Reader.script.run cursor).2.reported) :
    (Fork.whole row).Points diagnostic := by
  have along := Fork.along_whole here silent closed
  rcases Recovery.agreesUnless_script rfl along with never | agrees
  · exact never.elim
  · obtain ⟨_, last⟩ := agrees.2
    obtain ⟨news, told, _, points⟩ := last.reported
    rw [told] at member
    exact points diagnostic (by simpa [Fork.whole] using member)

/-! ## Diagnostics of a text -/

/-- How a diagnostic stands to the tokens of a text. -/
structure Diagnostic.PointsInto
    (diagnostic : Diagnostic) (row : List Token) : Prop where
  /-- It stands at the start of a token. -/
  starts : ∃ token ∈ row, token.span.start = diagnostic.position
  /-- It is lexical if and only if it has met an invalid token. -/
  lexical : diagnostic.cause.isLexical = true ↔
    ∃ kind, diagnostic.cause.found? = some kind ∧ kind.isInvalid = true
  /-- What it has met is a token. -/
  met : ∀ kind, diagnostic.cause.found? = some kind →
    ∃ token ∈ row, token.kind = kind
  /-- What it has met stands at its own place, unless a block is left
  open. -/
  here : (∀ block line found,
      diagnostic.cause ≠ .unterminated block line found) →
    ∀ kind, diagnostic.cause.found? = some kind →
      ∀ token ∈ row, token.span.start = diagnostic.position → token.kind = kind
  /-- A block that is left open is reported where it was opened. -/
  opener : ∀ block line found,
    diagnostic.cause = .unterminated block line found →
      ∀ token ∈ row, token.span.start = diagnostic.position →
        token.kind = .keyword block.opener ∧ token.span.start.line = line

/-- A token of a text is known by the place where it starts. -/
theorem Ascends.eq_of_start_eq
    {start : Position} (ascends : Ascends start row) {token other : Token}
    (member : token ∈ row) (memberToo : other ∈ row)
    (same : token.span.start = other.span.start) : token = other := by
  have apart {first second : Token}
      (before : first.span.start < second.span.start) :
      first.span.start ≠ second.span.start := by
    intro equal
    rw [equal] at before
    exact Position.lt_irrefl _ before
  exact List.Pairwise.forall_of_forall_of_flip
    (R := fun first second =>
      first.span.start = second.span.start → first = second)
    (fun _ _ _ => rfl)
    (ascends.sorted.imp fun before equal => absurd equal (apart before))
    (ascends.sorted.imp fun before equal => absurd equal.symm (apart before))
    member memberToo same

/-- What is reported of some tokens is what the parser has reported at their
end. -/
theorem Parsed.mem_diagnostics_iff {tokens : List Token} :
    diagnostic ∈ (ofTokens tokens).diagnostics ↔
      diagnostic ∈ (Reader.script.run (Cursor.start tokens)).2.reported := by
  rw [ofTokens_eq]
  exact List.mem_reverse

/-- No block of a text is reported as left open in front of an invalid
token. -/
theorem isInvalid_of_mem_diagnostics {tokens : List Token}
    (member : diagnostic ∈ (Parsed.ofTokens tokens).diagnostics)
    {block : Block} {line : Nat} {found : Kind}
    (cause : diagnostic.cause = .unterminated block line found) :
    found.isInvalid = false := by
  rw [Parsed.mem_diagnostics_iff] at member
  have none : (Reader.script.run (Cursor.start tokens)).2.reportsOf
      Cause.isAstray = [] := by
    rw [Recovery.omits_script (Cursor.start tokens), Cursor.reportsOf,
      Cursor.reported_start, List.filter_nil]
  have spared := List.filter_eq_nil_iff.1 none diagnostic member
  rw [cause] at spared
  exact eq_false_of_ne_true spared

/-- What points at a token of all tokens points into the text. -/
theorem Fork.Points.into {start : Position} (ascends : Ascends start row)
    (points : (Fork.whole row).Points diagnostic)
    (spared : ∀ block line found,
      diagnostic.cause = .unterminated block line found →
        found.isInvalid = false) :
    diagnostic.PointsInto row := by
  obtain ⟨token, member, place, explains⟩ := points.explained
  have only {other : Token} (memberToo : other ∈ row)
      (same : other.span.start = diagnostic.position) : other = token :=
    ascends.eq_of_start_eq memberToo member (same.trans place.symm)
  refine ⟨⟨token, member, place⟩, ?_, ?_, ?_, ?_⟩
  · constructor
    · intro lexical
      cases same : diagnostic.cause with
      | lexical error lexeme => exact ⟨_, rfl, rfl⟩
      | _ =>
        rw [same] at lexical
        cases lexical
    · rintro ⟨kind, found, invalid⟩
      cases same : diagnostic.cause with
      | unterminated block line met =>
        rw [same] at found
        obtain rfl := Option.some.inj found
        rw [spared block line met same] at invalid
        cases invalid
      | _ =>
        rw [same] at found explains
        exact (explains kind found).2.symm.trans invalid
  · intro kind found
    obtain ⟨other, known | behind, same⟩ := points.met kind found
    · exact ⟨other, known, same⟩
    · cases behind
  · intro closed kind found other memberToo same
    rw [only memberToo same]
    cases cause : diagnostic.cause with
    | unterminated block line met => exact absurd cause (closed block line met)
    | _ =>
      rw [cause] at found explains
      exact (explains kind found).1.symm
  · intro block line found cause other memberToo same
    rw [only memberToo same]
    rw [cause] at explains
    exact explains

/-- Every diagnostic of a text points at tokens of the text. -/
theorem pointsInto_of_mem_diagnostics
    {source : String} {diagnostic : Diagnostic}
    (member : diagnostic ∈ (Parsed.ofText source).diagnostics) :
    diagnostic.PointsInto (tokens source) := by
  have reported := Parsed.mem_diagnostics_iff.1 member
  have closed : ∀ token, (tokens source).getLast? = some token →
      token.kind.endsLine = true := by
    intro token last
    rw [getLast?_tokens] at last
    obtain rfl := Option.some.inj last
    rfl
  have points := points_of_mem_reported (budget_start_tokens source)
    (Cursor.reported_start _) closed reported
  exact points.into (ascends_tokens source) fun _ _ _ =>
    isInvalid_of_mem_diagnostics member

/-- A script with a loop that its function ends in. -/
def Script.unendedLoop : String :=
  "Scriptname Door\nFunction Knock()\nWhile True\nEndFunction\n"

/-- The loop is reported at its keyword, and the token that was met is the
function's terminator. -/
theorem unendedLoop_points : let report : Diagnostic :=
      ⟨⟨3, 1⟩, .unterminated .loop 3 (.keyword .endFunction)⟩
    report ∈ (Parsed.ofText Script.unendedLoop).diagnostics ∧
      report.PointsInto (tokens Script.unendedLoop) := by
  intro report
  have reported : report ∈ (Parsed.ofText Script.unendedLoop).diagnostics := by
    decide +kernel
  exact ⟨reported, pointsInto_of_mem_diagnostics reported⟩

end PapyrusScript
