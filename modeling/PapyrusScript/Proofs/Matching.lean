import Mathlib.Data.List.Forall2
import PapyrusScript.Proofs.Layout.Script

/-!
# Two runs over tokens that stand for each other

A `Pairing` tells which tokens of two rows stand for each other.  They are of
the same kind and have the same text, unless they are keywords, of which no
reader looks at the text.  They may stand at different places.  Two runs of
the parser along the rows then stay together: `Resembles` relates their
cursors, and `Matches` says of two readers that from related cursors they come
to related cursors, with answers that are related too.

What is read along both rows is the same up to places.  It is the same with
all places if places count, and the reports quote the same if the keywords are
written the same.

Places decide only one thing in the parser, whether an invalid token has been
reported already.  So the reports of both runs are compared only if in each
row no two invalid tokens share a place.
-/

namespace PapyrusScript

variable {α β : Type}

/-- Two values are the same once their places are left out. -/
def SameBy (bare : α → β) (value twin : α) : Prop := bare twin = bare value

theorem SameBy.concat {bare : α → β} {values twins : List α} {value twin : α}
    (front : SameBy (List.map bare) values twins)
    (last : SameBy bare value twin) :
    SameBy (List.map bare) (values ++ [value]) (twins ++ [twin]) := by
  unfold SameBy at *
  rw [List.map_append, List.map_append, front, List.map_singleton,
    List.map_singleton, last]

theorem SameBy.append
    {bare : α → β} {first firstTwin second secondTwin : List α}
    (front : SameBy (List.map bare) first firstTwin)
    (back : SameBy (List.map bare) second secondTwin) :
    SameBy (List.map bare) (first ++ second) (firstTwin ++ secondTwin) := by
  unfold SameBy at *
  rw [List.map_append, List.map_append, front, back]

theorem SameBy.some
    {bare : α → β} {value twin : α} (same : SameBy bare value twin) :
    SameBy (Option.map bare) (Option.some value) (Option.some twin) :=
  congrArg Option.some same

theorem exists_of_optionRel {related : α → β → Prop} {found : Option α}
    {other : Option β} (rel : Option.Rel related found other) :
    (found = none ∧ other = none) ∨
      ∃ value twin, found = some value ∧ other = some twin ∧
        related value twin := by
  cases rel with
  | none => exact .inl ⟨rfl, rfl⟩
  | some holds => exact .inr ⟨_, _, rfl, rfl, holds⟩

/-! ## Bare trees -/

theorem Identifier.sameBy_iff {name twin : Identifier} :
    SameBy bare name twin ↔ twin.name = name.name := by
  simp [SameBy, bare]

theorem TypeName.sameBy_iff {type twin : TypeName} :
    SameBy bare type twin ↔
      twin.dataType = type.dataType ∧ twin.isArray = type.isArray := by
  simp [SameBy, bare]

theorem Expression.bareArguments_eq_map (found : List (Argument Expression)) :
    bareArguments found = found.map bareArgument := by
  induction found with
  | nil => rfl
  | cons argument rest ih =>
    rw [bareArguments, List.map_cons, ih]

theorem Expression.isCallable_of_sameBy
    {tree twin : Expression} (same : SameBy bare tree twin) :
    twin.isCallable = tree.isCallable := by
  rw [← isCallable_bare, same, isCallable_bare]

theorem Expression.isAssignable_of_sameBy
    {tree twin : Expression} (same : SameBy bare tree twin) :
    twin.isAssignable = tree.isAssignable := by
  rw [← isAssignable_bare, same, isAssignable_bare]

/-! ## Reports without places -/

/-- A cause without the line that it quotes. -/
def Cause.bare : Cause → Cause
  | .unterminated block _ found => .unterminated block 0 found
  | cause => cause

/-- A diagnostic without its place and the line that it quotes. -/
def Diagnostic.bare (diagnostic : Diagnostic) : Diagnostic :=
  ⟨.origin, diagnostic.cause.bare⟩

/-- What a diagnostic shows: where the error is, its message, whether it is
lexical, and the kind of token that was met. -/
def Diagnostic.shown
    (diagnostic : Diagnostic) : Position × String × Bool × Option Kind :=
  (diagnostic.position, diagnostic.message, diagnostic.cause.isLexical,
    diagnostic.cause.found?)

/-! ## Tokens in pairs -/

def Kind.isKeyword : Kind → Bool
  | .keyword _ => true
  | _ => false

/-- Which tokens of two rows stand for each other.  They say the same, though
a keyword may be written in two ways.  What was reported in front of the rows
may differ. -/
structure Pairing where
  pairs : Token → Token → Prop
  kind : ∀ {token twin}, pairs token twin → twin.kind = token.kind
  text : ∀ {token twin}, pairs token twin → token.kind.isKeyword = false →
    twin.text = token.text
  /-- Whether places count.  Then no token has moved. -/
  Still : Prop
  span : Still → ∀ {token twin}, pairs token twin → twin.span = token.span
  told : List Diagnostic
  toldTwin : List Diagnostic

namespace Pairing

variable (pairing : Pairing)

/-- Tokens that stand for each other are written the same. -/
def Verbatim : Prop :=
  ∀ token twin : Token, pairing.pairs token twin → twin.text = token.text

/-- A relation of two values holds, and they are the same if places count. -/
structure Same (same : α → α → Prop) (value twin : α) : Prop where
  known : same value twin
  equal : pairing.Still → twin = value

/-- Two values are the same up to places, and altogether the same if places
count. -/
abbrev Twins (bare : α → β) : α → α → Prop := pairing.Same (SameBy bare)

/-- Invalid tokens share a place in the one row where they do in the other. -/
def Distinct : Prop :=
  ∀ token twin other otherTwin : Token,
    pairing.pairs token twin → pairing.pairs other otherTwin →
    token.kind.isInvalid = true → other.kind.isInvalid = true →
      (token.span.start = other.span.start ↔
        twin.span.start = otherTwin.span.start)

def SamePlace (place twin : Option Position) : Prop :=
  ∀ token other : Token, pairing.pairs token other →
    token.kind.isInvalid = true →
      (place = some token.span.start ↔ twin = some other.span.start)

/-- Two diagnostics are the same up to places and to the text of keywords.  If
they are about a lexical error, they are about tokens that stand for each
other. -/
structure Tells (diagnostic twin : Diagnostic) : Prop where
  lexical : twin.cause.isLexical = diagnostic.cause.isLexical
  bare : pairing.Verbatim → twin.bare = diagnostic.bare
  shown : pairing.Still → twin.shown = diagnostic.shown
  place : diagnostic.cause.isLexical = true → pairing.Distinct →
    pairing.SamePlace (some diagnostic.position) (some twin.position)

/-- What was reported along two rows is the same up to places and to the text
of keywords. -/
structure TellSame (reported twin : List Diagnostic) : Prop where
  news : ∃ news newsTwin, reported = news ++ pairing.told ∧
    twin = newsTwin ++ pairing.toldTwin ∧
      List.Forall₂ pairing.Tells news newsTwin

/-- Two cursors stand on tokens that stand for each other, and so do those
ahead of them. -/
structure Resembles (cursor twin : Cursor) : Prop where
  budget : List.Forall₂ pairing.pairs cursor.budget twin.budget
  lastEnd : pairing.Still → twin.lastEnd = cursor.lastEnd
  openBlocks : twin.openBlocks = cursor.openBlocks
  lexical : pairing.Distinct →
    pairing.SamePlace cursor.lastLexical twin.lastLexical
  reported : pairing.Distinct → pairing.TellSame cursor.reported twin.reported

variable {pairing} {token tokenTwin : Token}

/-! ### Values -/

section Twins

variable {bare : α → β} {value twin : α}

theorem Twins.refl (bare : α → β) (value : α) :
    pairing.Twins bare value value :=
  ⟨rfl, fun _ => rfl⟩

/-- A node without a place of its own around nodes that are the same. -/
theorem Twins.wrap {bare : α → α} {bareWhole : β → β}
    (same : pairing.Twins bare value twin) (wrap : α → β)
    (commutes : ∀ node, bareWhole (wrap node) = wrap (bare node)) :
    pairing.Twins bareWhole (wrap value) (wrap twin) where
  known := by
    rw [SameBy, commutes, commutes, same.known]
  equal still := congrArg wrap (same.equal still)

/-- A part of nodes that are the same. -/
theorem Twins.part {bare : α → α} {barePart : β → β}
    (same : pairing.Twins bare value twin) (part : α → β)
    (commutes : ∀ node, part (bare node) = barePart (part node)) :
    pairing.Twins barePart (part value) (part twin) where
  known := by
    rw [SameBy, ← commutes, ← commutes, same.known]
  equal still := congrArg part (same.equal still)

theorem Twins.some (same : pairing.Twins bare value twin) :
    pairing.Twins (Option.map bare) (Option.some value)
      (Option.some twin) :=
  ⟨same.known.some, fun still => congrArg Option.some (same.equal still)⟩

theorem Twins.singleton (same : pairing.Twins bare value twin) :
    pairing.Twins (List.map bare) [value] [twin] :=
  ⟨congrArg (fun node => [node]) same.known,
    fun still => congrArg (fun node => [node]) (same.equal still)⟩

theorem Twins.append {values twins more moreTwins : List α}
    (front : pairing.Twins (List.map bare) values twins)
    (back : pairing.Twins (List.map bare) more moreTwins) :
    pairing.Twins (List.map bare) (values ++ more)
      (twins ++ moreTwins) :=
  ⟨front.known.append back.known, fun still =>
    congrArg₂ (· ++ ·) (front.equal still) (back.equal still)⟩

theorem Twins.concat {values twins : List α}
    (front : pairing.Twins (List.map bare) values twins)
    (last : pairing.Twins bare value twin) :
    pairing.Twins (List.map bare) (values ++ [value])
      (twins ++ [twin]) :=
  front.append last.singleton

theorem Twins.option {found other : Option α}
    (same : pairing.Twins (Option.map bare) found other) :
    Option.Rel (pairing.Twins bare) found other := by
  have known := same.known
  cases found with
  | none =>
    obtain rfl : other = none := by simpa [SameBy] using known
    exact .none
  | some value =>
    cases other with
    | none => cases known
    | some twin =>
      exact .some ⟨Option.some.inj known,
        fun still => Option.some.inj (same.equal still)⟩

end Twins

/-- A name is known from its token. -/
theorem same_identifier (pair : pairing.pairs token tokenTwin)
    (named : token.kind = .identifier) :
    pairing.Twins Identifier.bare ⟨token.text, token.span⟩
      ⟨tokenTwin.text, tokenTwin.span⟩ := by
  have text := pairing.text pair (by rw [named]; rfl)
  refine ⟨Identifier.sameBy_iff.2 text, fun still => ?_⟩
  rw [text, pairing.span still pair]

/-! ### Reports -/

/-- Where nothing was reported in front of the rows, all reports have in common
what diagnostics that tell the same have. -/
theorem TellSame.map_eq {look : Diagnostic → β} {reported twin : List Diagnostic}
    (same : pairing.TellSame reported twin)
    (shared : ∀ {diagnostic other}, pairing.Tells diagnostic other →
      look other = look diagnostic)
    (nothing : pairing.told = []) (nothingTwin : pairing.toldTwin = []) :
    twin.map look = reported.map look := by
  obtain ⟨news, newsTwin, rfl, rfl, tells⟩ := same.news
  rw [nothing, nothingTwin, List.append_nil, List.append_nil]
  clear same
  induction tells with
  | nil => rfl
  | cons tells _ ih => rw [List.map_cons, List.map_cons, shared tells, ih]

/-- Where nothing was reported along the one row, nothing was along the
other. -/
theorem TellSame.eq_toldTwin
    {reported twin : List Diagnostic} (same : pairing.TellSame reported twin)
    (silent : reported = pairing.told) : twin = pairing.toldTwin := by
  obtain ⟨news, newsTwin, told, rfl, tells⟩ := same.news
  rw [silent, List.self_eq_append_left] at told
  subst told
  rw [List.forall₂_nil_left_iff.1 tells, List.nil_append]

/-- An error that is not lexical may be told of two places. -/
theorem tells_of_syntactic {cause : Cause} (syntactic : cause.isLexical = false)
    {place twin : Position} (still : pairing.Still → twin = place) :
    pairing.Tells ⟨place, cause⟩ ⟨twin, cause⟩ where
  lexical := rfl
  bare _ := rfl
  shown unmoved := by rw [still unmoved]
  place lexical := by
    rw [syntactic] at lexical
    cases lexical

/-- A block that is left open is told of the places where it was opened. -/
theorem tells_unterminated (block : Block) (found : Kind)
    (pair : pairing.Still → tokenTwin.span = token.span) :
    pairing.Tells
      ⟨token.span.start, .unterminated block token.span.start.line found⟩
      ⟨tokenTwin.span.start,
        .unterminated block tokenTwin.span.start.line found⟩ where
  lexical := rfl
  bare _ := rfl
  shown still := by rw [pair still]
  place lexical := nomatch lexical

/-- Two tokens that stand for each other are unexpected in the same way. -/
theorem tells_unexpected
    (pair : pairing.pairs token tokenTwin) (expected : String) :
    pairing.Tells (Diagnostic.unexpected token expected)
      (Diagnostic.unexpected tokenTwin expected) := by
  have kind := pairing.kind pair
  have isInvalid := congrArg Kind.isInvalid kind
  refine ⟨?_, fun verbatim => ?_, fun still => ?_, fun lexical distinct => ?_⟩
  · rw [Diagnostic.isLexical_unexpected, Diagnostic.isLexical_unexpected,
      isInvalid]
  · unfold Diagnostic.unexpected
    rw [kind, verbatim _ _ pair]
    split <;> rfl
  · have span := pairing.span still pair
    by_cases keyword : token.kind.isKeyword = true
    · -- the text of a keyword is not part of the message
      rcases token with ⟨found, text, place⟩
      rcases tokenTwin with ⟨foundTwin, textTwin, placeTwin⟩
      obtain rfl : foundTwin = found := kind
      obtain rfl : placeTwin = place := span
      cases foundTwin with
      | keyword word => rfl
      | _ => cases keyword
    · rw [Bool.not_eq_true] at keyword
      have text := pairing.text pair keyword
      unfold Diagnostic.unexpected
      rw [kind, text, span]
  · intro other twin others invalid
    rw [Diagnostic.isLexical_unexpected] at lexical
    rw [Diagnostic.position_unexpected, Diagnostic.position_unexpected]
    simpa using distinct _ _ _ _ pair others lexical invalid

namespace Resembles

open Cursor

variable {cursor twin : Cursor} (alike : pairing.Resembles cursor twin)

include alike

theorem current : pairing.pairs cursor.current twin.current := by
  have first := alike.budget
  rw [Cursor.budget, Cursor.budget, List.forall₂_cons] at first
  exact first.1

theorem kind : twin.kind = cursor.kind := pairing.kind alike.current

theorem position (still : pairing.Still) : twin.position = cursor.position :=
  congrArg Span.start (pairing.span still alike.current)

theorem spanFrom (still : pairing.Still) (start : Position) :
    twin.spanFrom start = cursor.spanFrom start := by
  rw [Cursor.spanFrom, Cursor.spanFrom, alike.lastEnd still]

theorem length : twin.budget.length = cursor.budget.length :=
  alike.budget.length_eq.symm

theorem kindAt (distance : Nat) :
    twin.kindAt distance = cursor.kindAt distance := by
  have kinds : twin.budget.map Token.kind = cursor.budget.map Token.kind := by
    have rows := alike.budget
    generalize cursor.budget = row at rows
    generalize twin.budget = twinRow at rows
    induction rows with
    | nil => rfl
    | cons pair _ ih =>
      rw [List.map_cons, List.map_cons, ih, pairing.kind pair]
  rw [kindAt_eq, kindAt_eq, ← List.getElem?_map, ← List.getElem?_map, kinds]

theorem isClosedBy (kind : Kind) :
    twin.isClosedBy kind = cursor.isClosedBy kind := by
  rw [Cursor.isClosedBy, Cursor.isClosedBy, alike.openBlocks]

theorem atTypeStart : twin.atTypeStart = cursor.atTypeStart := by
  rw [Cursor.atTypeStart, Cursor.atTypeStart, alike.kind]

theorem kindAfterType : twin.kindAfterType = cursor.kindAfterType := by
  simp only [Cursor.kindAfterType, Cursor.typeLength, alike.kindAt]

theorem atFunctionStart : twin.atFunctionStart = cursor.atFunctionStart := by
  rw [Cursor.atFunctionStart, Cursor.atFunctionStart, alike.kind,
    alike.atTypeStart, alike.kindAfterType]

theorem atVariableStart : twin.atVariableStart = cursor.atVariableStart := by
  rw [Cursor.atVariableStart, Cursor.atVariableStart, alike.atTypeStart,
    alike.kindAfterType]

theorem atMemberStart : twin.atMemberStart = cursor.atMemberStart := by
  unfold Cursor.atMemberStart
  rw [alike.kind, alike.kindAt, alike.atTypeStart, alike.kindAfterType]

theorem atDeclaration : twin.atDeclaration = cursor.atDeclaration := by
  rw [Cursor.atDeclaration, Cursor.atDeclaration, alike.atMemberStart,
    alike.atVariableStart]

theorem memberBlock? : twin.memberBlock? = cursor.memberBlock? := by
  unfold Cursor.memberBlock?
  rw [alike.kind, alike.atFunctionStart, alike.atMemberStart]

/-! How both cursors move. -/

/-- The cursors still resemble each other behind one token more. -/
theorem next : pairing.Resembles cursor.next twin.next where
  budget := by
    by_cases atEnd : cursor.kind = .endOfText
    · rw [budget_next_of_endOfText atEnd,
        budget_next_of_endOfText (alike.kind.trans atEnd)]
      exact alike.budget
    · have twinInside : twin.kind ≠ .endOfText := by rwa [alike.kind]
      have rows := alike.budget
      rw [budget_eq_cons_next atEnd, budget_eq_cons_next twinInside] at rows
      exact (List.forall₂_cons.1 rows).2
  lastEnd := by
    intro still
    rw [lastEnd_next, lastEnd_next, alike.kind, alike.lastEnd still,
      pairing.span still alike.current]
  openBlocks := by
    rw [openBlocks_next, openBlocks_next, alike.openBlocks]
  lexical := by
    rw [lastLexical_next, lastLexical_next]
    exact alike.lexical
  reported := by
    rw [reported_next, reported_next]
    exact alike.reported

/-- The cursors still resemble each other behind reports that tell the same. -/
theorem report
    {diagnostic other : Diagnostic} (tells : pairing.Tells diagnostic other) :
    pairing.Resembles (cursor.report diagnostic) (twin.report other) where
  budget := alike.budget
  lastEnd := alike.lastEnd
  openBlocks := alike.openBlocks
  lexical := by
    intro distinct
    simp only [Cursor.report, tells.lexical]
    by_cases lexical : diagnostic.cause.isLexical = true
    · rw [if_pos lexical, if_pos lexical]
      exact tells.place lexical distinct
    · rw [if_neg lexical, if_neg lexical]
      exact alike.lexical distinct
  reported := by
    intro distinct
    obtain ⟨news, newsTwin, here, there, same⟩ := (alike.reported distinct).news
    refine ⟨diagnostic :: news, other :: newsTwin, ?_, ?_, .cons tells same⟩
    · rw [reported_report, here, List.cons_append]
    · rw [reported_report, there, List.cons_append]

theorem enter (block : Block) :
    pairing.Resembles (cursor.enter block) (twin.enter block) where
  budget := alike.budget
  lastEnd := alike.lastEnd
  openBlocks := congrArg (block :: ·) alike.openBlocks
  lexical := alike.lexical
  reported := alike.reported

theorem leave : pairing.Resembles cursor.leave twin.leave where
  budget := alike.budget
  lastEnd := alike.lastEnd
  openBlocks := congrArg List.tail alike.openBlocks
  lexical := alike.lexical
  reported := alike.reported

end Resembles

/-- Two answers of readers that may fail: values that are related, or
diagnostics that tell the same. -/
def Answers (pairing : Pairing) (same : α → α → Prop) :
    Except Diagnostic α → Except Diagnostic α → Prop
  | .ok value, .ok twin => same value twin
  | .error diagnostic, .error twin => pairing.Tells diagnostic twin
  | _, _ => False

end Pairing

/-! ## Readers in pairs -/

/-- From two cursors two readers come to cursors that resemble each other, with
answers that are related. -/
def Recovery.MatchesAt (cursor cursorTwin : Cursor) (reader : Recovery α)
    (pairing : Pairing) (twin : Recovery α) (same : α → α → Prop) : Prop :=
  same (reader.run cursor).1 (twin.run cursorTwin).1 ∧
    pairing.Resembles (reader.run cursor).2 (twin.run cursorTwin).2

/-- From cursors that resemble each other two readers come to such cursors
again, with answers that are related. -/
def Recovery.Matches
    (reader : Recovery α) (pairing : Pairing) (twin : Recovery α)
    (same : α → α → Prop) : Prop :=
  ∀ cursor cursorTwin, pairing.Resembles cursor cursorTwin →
    MatchesAt cursor cursorTwin reader pairing twin same

def Reader.MatchesAt (cursor cursorTwin : Cursor) (reader : Reader α)
    (pairing : Pairing) (twin : Reader α) (same : α → α → Prop) : Prop :=
  Recovery.MatchesAt cursor cursorTwin reader.run pairing twin.run
    (pairing.Answers same)

def Reader.Matches (reader : Reader α) (pairing : Pairing) (twin : Reader α)
    (same : α → α → Prop) : Prop :=
  Recovery.Matches reader.run pairing twin.run (pairing.Answers same)

def Step.Decides (same : α → α → Prop) : Step α → Step α → Prop
  | .again value, .again twin => same value twin
  | .done value, .done twin => same value twin
  | _, _ => False

namespace Recovery

open Reader

variable {pairing : Pairing} {same known : α → α → Prop}
  {whole : β → β → Prop}

theorem Matches.mono {reader : Recovery α} {twin : Recovery α}
    (both : reader.Matches pairing twin known)
    (implied : ∀ value other, known value other → same value other) :
    reader.Matches pairing twin same :=
  fun cursor cursorTwin alike =>
    ⟨implied _ _ (both cursor cursorTwin alike).1,
      (both cursor cursorTwin alike).2⟩

theorem Matches.pure {value twin : α} (holds : same value twin) :
    Matches (Pure.pure value) pairing (Pure.pure twin) same :=
  fun _ _ alike => ⟨holds, alike⟩

theorem Matches.bind
    {reader : Recovery α} {twin : Recovery α} {following : α → Recovery β}
    {twinFollowing : α → Recovery β} (first : reader.Matches pairing twin known)
    (rest : ∀ value other, known value other →
      (following value).Matches pairing (twinFollowing other) whole) :
    Matches (reader >>= following) pairing (twin >>= twinFollowing) whole := by
  intro cursor cursorTwin alike
  obtain ⟨answers, further⟩ := first cursor cursorTwin alike
  exact rest _ _ answers _ _ further

theorem Matches.get {following twinFollowing : Cursor → Recovery β}
    (rest : ∀ cursor twin, pairing.Resembles cursor twin →
      (following cursor).Matches pairing (twinFollowing twin) whole) :
    Matches (MonadState.get >>= following) pairing
      (MonadState.get >>= twinFollowing) whole :=
  fun cursor twin alike => rest cursor twin alike cursor twin alike

theorem Matches.ite {condition twinCondition : Prop} [Decidable condition]
    [Decidable twinCondition] {first second firstTwin secondTwin : Recovery β}
    (agree : twinCondition ↔ condition)
    (onTrue : condition → first.Matches pairing firstTwin whole)
    (onFalse : ¬ condition → second.Matches pairing secondTwin whole) :
    Matches (if condition then first else second) pairing
      (if twinCondition then firstTwin else secondTwin) whole := by
  by_cases holds : condition
  · rw [if_pos holds, if_pos (agree.2 holds)]
    exact onTrue holds
  · rw [if_neg holds, if_neg (mt agree.1 holds)]
    exact onFalse holds

theorem matches_advance : advance.Matches pairing advance pairing.pairs :=
  fun _ _ alike => ⟨alike.current, alike.next⟩

theorem Matches.take {following twinFollowing : Token → Recovery β}
    (rest : ∀ token twin, pairing.pairs token twin →
      (following token).Matches pairing (twinFollowing twin) whole) :
    Matches (advance >>= following) pairing
      (advance >>= twinFollowing) whole :=
  matches_advance.bind rest

theorem matches_report
    {diagnostic twin : Diagnostic} (tells : pairing.Tells diagnostic twin) :
    (report diagnostic).Matches pairing (report twin)
      fun _ _ => True :=
  fun _ _ alike => ⟨trivial, alike.report tells⟩

/-- What is known of the cursors is used behind a look at them. -/
theorem Matches.look {following twinFollowing : Cursor → Recovery β}
    (rest : ∀ cursor twin, pairing.Resembles cursor twin →
      MatchesAt cursor twin (following cursor) pairing (twinFollowing twin)
        whole) :
    Matches (MonadState.get >>= following) pairing
      (MonadState.get >>= twinFollowing) whole :=
  rest

theorem MatchesAt.take
    {cursor twin : Cursor} {following twinFollowing : Token → Recovery β}
    (alike : pairing.Resembles cursor twin)
    (rest : (following cursor.current).Matches pairing
      (twinFollowing twin.current) whole) :
    MatchesAt cursor twin (advance >>= following) pairing
      (advance >>= twinFollowing) whole :=
  rest _ _ alike.next

theorem Matches.report
    {diagnostic twin : Diagnostic} (tells : pairing.Tells diagnostic twin)
    {following twinFollowing : Recovery β}
    (rest : following.Matches pairing twinFollowing whole) :
    Matches (Reader.report diagnostic >>= fun _ => following) pairing
      (Reader.report twin >>= fun _ => twinFollowing) whole :=
  (matches_report tells).bind fun _ _ _ => rest

/-- An error that is not lexical is reported at two places. -/
theorem matches_complain
    {cause : Cause} (syntactic : cause.isLexical = false)
    {place twin : Position} (still : pairing.Still → twin = place) :
    (complain place cause).Matches pairing (complain twin cause)
      fun _ _ => True :=
  matches_report (Pairing.tells_of_syntactic syntactic still)

theorem matches_unexpected (expected : String) :
    (unexpected expected).Matches pairing (unexpected expected)
      pairing.Tells :=
  fun _ _ alike =>
    ⟨Pairing.tells_unexpected alike.current expected, alike⟩

/-- A failure of both runs is followed like an answer of both. -/
theorem Matches.run_bind {reader : Reader α} {twin : Reader α}
    {following : Except Diagnostic α → Recovery β}
    {twinFollowing : Except Diagnostic α → Recovery β}
    (first : reader.Matches pairing twin known)
    (onValue : ∀ value other, known value other →
      (following (.ok value)).Matches pairing (twinFollowing (.ok other))
        whole)
    (onError : ∀ diagnostic other, pairing.Tells diagnostic other →
      (following (.error diagnostic)).Matches pairing
        (twinFollowing (.error other)) whole) :
    Matches (reader.run >>= following) pairing (twin.run >>= twinFollowing)
      whole := by
  apply Matches.bind first
  intro answer other answers
  cases answer with
  | ok value =>
    cases other with
    | ok otherValue => exact onValue value otherValue answers
    | error diagnostic => exact answers.elim
  | error diagnostic =>
    cases other with
    | ok otherValue => exact answers.elim
    | error otherDiagnostic => exact onError _ _ answers

/-- What the steps keep related is related at the end of the loops. -/
theorem Matches.loop
    {step : α → Recovery (Step α)} {twinStep : α → Recovery (Step α)}
    (steps : ∀ value other, same value other →
      (step value).Matches pairing (twinStep other) (Step.Decides same))
    {budget twinBudget : List Token}
    (length : twinBudget.length = budget.length)
    {value other : α} (holds : same value other) :
    Matches (PapyrusScript.loop step budget value) pairing
      (PapyrusScript.loop twinStep twinBudget other) same := by
  induction budget generalizing twinBudget value other with
  | nil =>
    obtain rfl := List.eq_nil_of_length_eq_zero length
    exact .pure holds
  | cons _ budget ih =>
    cases twinBudget with
    | nil => cases length
    | cons _ twinBudget =>
      rw [List.length_cons, List.length_cons, Nat.succ.injEq] at length
      apply (steps value other holds).bind
      intro decision otherDecision decides
      cases decision with
      | again following =>
        cases otherDecision with
        | again otherFollowing =>
          exact ih length decides
        | done _ => exact decides.elim
      | done final =>
        cases otherDecision with
        | again _ => exact decides.elim
        | done otherFinal => exact .pure decides

theorem Matches.inBlock
    {block : Block} {body : Recovery α} {twinBody : Recovery α}
    (both : body.Matches pairing twinBody same) :
    Matches (Reader.inBlock block body) pairing
      (Reader.inBlock block twinBody) same := by
  intro cursor cursorTwin alike
  obtain ⟨answers, further⟩ := both _ _ (alike.enter block)
  exact ⟨answers, further.leave⟩

end Recovery

namespace Reader

variable {pairing : Pairing} {same known : α → α → Prop}
  {whole : β → β → Prop}
variable {reader : Reader α} {twin : Reader α}

theorem Matches.mono (both : reader.Matches pairing twin known)
    (implied : ∀ value other, known value other → same value other) :
    reader.Matches pairing twin same := by
  apply Recovery.Matches.mono both
  intro answer other answers
  cases answer with
  | ok value =>
    cases other with
    | ok otherValue => exact implied value otherValue answers
    | error _ => exact answers
  | error _ =>
    cases other with
    | ok _ => exact answers
    | error _ => exact answers

theorem Matches.pure {value twin : α} (holds : same value twin) :
    Matches (Pure.pure value) pairing (Pure.pure twin) same :=
  fun _ _ alike => ⟨holds, alike⟩

theorem matches_throw
    {diagnostic twin : Diagnostic} (tells : pairing.Tells diagnostic twin) :
    Matches (throw diagnostic : Reader α) pairing (throw twin : Reader α)
      same :=
  fun _ _ alike => ⟨tells, alike⟩

/-- An error that is not lexical is raised at two places. -/
theorem matches_throw_of_syntactic
    {cause : Cause} (syntactic : cause.isLexical = false)
    {place twin : Position} (still : pairing.Still → twin = place) :
    Matches (throw ⟨place, cause⟩ : Reader α) pairing
      (throw ⟨twin, cause⟩ : Reader α) same :=
  matches_throw (Pairing.tells_of_syntactic syntactic still)

theorem matches_reject (expected : String) :
    Matches (reject expected : Reader α) pairing
      (reject expected : Reader α) same :=
  fun _ _ alike => ⟨Pairing.tells_unexpected alike.current expected, alike⟩

/-- Readers that match are followed by readers that match. -/
theorem Matches.bind {following : α → Reader β} {twinFollowing : α → Reader β}
    (first : reader.Matches pairing twin known)
    (rest : ∀ value other, known value other →
      (following value).Matches pairing (twinFollowing other) whole) :
    Matches (reader >>= following) pairing (twin >>= twinFollowing) whole := by
  unfold Matches
  rw [ExceptT.run_bind, ExceptT.run_bind]
  apply Recovery.Matches.bind first
  intro answer other answers
  cases answer with
  | ok value =>
    cases other with
    | ok otherValue => exact rest value otherValue answers
    | error _ => exact answers.elim
  | error _ =>
    cases other with
    | ok _ => exact answers.elim
    | error _ => exact fun _ _ alike => ⟨answers, alike⟩

theorem Matches.map {change : α → β} {twinChange : α → β}
    (both : reader.Matches pairing twin fun value other =>
      whole (change value) (twinChange other)) :
    Matches (change <$> reader) pairing (twinChange <$> twin) whole := by
  rw [map_eq_pure_bind, map_eq_pure_bind]
  exact both.bind fun _ _ holds => .pure holds

theorem Matches.get {following twinFollowing : Cursor → Reader β}
    (rest : ∀ cursor twin, pairing.Resembles cursor twin →
      (following cursor).Matches pairing (twinFollowing twin) whole) :
    Matches (MonadState.get >>= following) pairing
      (MonadState.get >>= twinFollowing) whole :=
  fun cursor twin alike => rest cursor twin alike cursor twin alike

theorem Matches.ite {condition twinCondition : Prop} [Decidable condition]
    [Decidable twinCondition] {first second firstTwin secondTwin : Reader β}
    (agree : twinCondition ↔ condition)
    (onTrue : condition → first.Matches pairing firstTwin whole)
    (onFalse : ¬ condition → second.Matches pairing secondTwin whole) :
    Matches (if condition then first else second) pairing
      (if twinCondition then firstTwin else secondTwin) whole := by
  by_cases holds : condition
  · rw [if_pos holds, if_pos (agree.2 holds)]
    exact onTrue holds
  · rw [if_neg holds, if_neg (mt agree.1 holds)]
    exact onFalse holds

theorem Matches.lift {reader : Recovery α} {twin : Recovery α}
    (both : reader.Matches pairing twin same) :
    Reader.Matches (liftM reader) pairing (liftM twin) same :=
  both

theorem Matches.take {following twinFollowing : Token → Reader β}
    (rest : ∀ token twin, pairing.pairs token twin →
      (following token).Matches pairing (twinFollowing twin) whole) :
    Matches (liftM advance >>= following) pairing
      (liftM advance >>= twinFollowing) whole :=
  (Matches.lift Recovery.matches_advance).bind rest

theorem Matches.look {following twinFollowing : Cursor → Reader β}
    (rest : ∀ cursor twin, pairing.Resembles cursor twin →
      MatchesAt cursor twin (following cursor) pairing (twinFollowing twin)
        whole) :
    Matches (MonadState.get >>= following) pairing
      (MonadState.get >>= twinFollowing) whole :=
  rest

theorem MatchesAt.take
    {cursor twin : Cursor} {following twinFollowing : Token → Reader β}
    (alike : pairing.Resembles cursor twin)
    (rest : (following cursor.current).Matches pairing
      (twinFollowing twin.current) whole) :
    MatchesAt cursor twin (liftM advance >>= following) pairing
      (liftM advance >>= twinFollowing) whole :=
  rest _ _ alike.next

/-- What the steps keep related is related at the end of the loops. -/
theorem Matches.loop
    {step : α → Reader (Step α)} {twinStep : α → Reader (Step α)}
    (steps : ∀ value other, same value other →
      (step value).Matches pairing (twinStep other) (Step.Decides same))
    {budget twinBudget : List Token}
    (length : twinBudget.length = budget.length)
    {value other : α} (holds : same value other) :
    Matches (PapyrusScript.loop step budget value) pairing
      (PapyrusScript.loop twinStep twinBudget other) same := by
  induction budget generalizing twinBudget value other with
  | nil =>
    obtain rfl := List.eq_nil_of_length_eq_zero length
    exact .pure holds
  | cons _ budget ih =>
    cases twinBudget with
    | nil => cases length
    | cons _ twinBudget =>
      rw [List.length_cons, List.length_cons, Nat.succ.injEq] at length
      apply (steps value other holds).bind
      intro decision otherDecision decides
      cases decision with
      | again following =>
        cases otherDecision with
        | again otherFollowing =>
          exact ih length decides
        | done _ => exact decides.elim
      | done final =>
        cases otherDecision with
        | again _ => exact decides.elim
        | done otherFinal => exact .pure decides

end Reader

end PapyrusScript
