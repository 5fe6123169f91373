import PapyrusScript.Proofs.Nesting
import PapyrusScript.Proofs.Rendering

/-!
# Reading along a rendering

A reader that meets a rendering passes its tokens one by one.  Either it
passes all of them, or it fails at the first one that is nested too deep.
`Rendering.Leads` states both outcomes at once, and is taken apart along the
rendering.

`Reader.Yields reader cursor post` says what holds if the reader answers with
a value.  Nothing is said about failures.

When an answer has cost no report, the tokens that were passed for it are a
rendering.  `Cursor.Shows` says so of two cursors, and is put together along
the steps of a reader.  A report on the way takes all of it back, so it also
says that reports only grow.
-/

namespace PapyrusScript

/-- Nothing has been reported between two cursors, and the same blocks are
open. -/
structure Cursor.Quiet (source target : Cursor) : Prop where
  reported : target.reported = source.reported
  openBlocks : target.openBlocks = source.openBlocks

namespace Cursor

variable {source middle target cursor : Cursor} {token : Token}
  {rest : List Token}

theorem Quiet.refl (cursor : Cursor) : cursor.Quiet cursor := ⟨rfl, rfl⟩

theorem Quiet.trans
    (first : source.Quiet middle) (second : middle.Quiet target) :
    source.Quiet target :=
  ⟨second.reported.trans first.reported,
    second.openBlocks.trans first.openBlocks⟩

theorem quiet_next (cursor : Cursor) : cursor.Quiet cursor.next :=
  ⟨reported_next cursor, openBlocks_next cursor⟩

theorem current_of_budget (here : cursor.budget = token :: rest) :
    cursor.current = token :=
  (List.cons.inj here).1

theorem kind_of_budget (here : cursor.budget = token :: rest) :
    cursor.kind = token.kind :=
  congrArg Token.kind (current_of_budget here)

theorem budget_next_of_budget (here : cursor.budget = token :: rest)
    (inside : token.kind ≠ .endOfText) : cursor.next.budget = rest := by
  have kind : cursor.kind ≠ .endOfText := kind_of_budget here ▸ inside
  exact (List.cons.inj ((budget_eq_cons_next kind).symm.trans here)).2

theorem kindAt_eq (cursor : Cursor) (distance : Nat) :
    cursor.kindAt distance =
      (cursor.budget[distance]?.map Token.kind).getD .endOfText := by
  cases distance with
  | zero => rfl
  | succ distance =>
    simp only [kindAt, budget, List.getElem?_cons_succ]
    cases cursor.ahead[distance]? <;> rfl

end Cursor

namespace Rendering

/-- The first token that is nested too deep. -/
def tooDeep? (rendering : Rendering) : Option Token :=
  (rendering.find? fun entry => nestingLimit < entry.2).map Prod.fst

/-- What becomes of a cursor in front of a rendering and some more tokens:
it passes the rendering, or stops at a token that is nested too deep. -/
def Leads (rendering : Rendering) (rest : List Token) (cursor : Cursor)
    (passed : Cursor → Prop) (failed : Diagnostic → Cursor → Prop) : Prop :=
  match rendering.tooDeep? with
  | none =>
    ∀ after : Cursor, after.budget = rest → cursor.Quiet after → passed after
  | some token =>
    ∀ after : Cursor, cursor.Quiet after →
      failed ⟨token.span.start, .nestedTooDeep nestingLimit⟩ after

variable {rendering before behind : Rendering} {rest : List Token}
  {cursor middle : Cursor} {passed passedToo : Cursor → Prop}
  {failed : Diagnostic → Cursor → Prop} {token : Token} {level : Nat}

theorem tooDeep?_cons_of_le (shallow : level ≤ nestingLimit) :
    tooDeep? ((token, level) :: rendering) = rendering.tooDeep? := by
  simp [tooDeep?, Nat.not_lt.2 shallow]

theorem tooDeep?_cons_of_lt (deep : nestingLimit < level) :
    tooDeep? ((token, level) :: rendering) = some token := by
  simp [tooDeep?, deep]

theorem tooDeep?_append :
    (before ++ behind).tooDeep? = before.tooDeep?.or behind.tooDeep? := by
  unfold tooDeep?
  rw [List.find?_append]
  cases before.find? _ <;> rfl

theorem Leads.mono (leads : rendering.Leads rest cursor passed failed)
    (implied : ∀ after : Cursor, after.budget = rest → cursor.Quiet after →
      passed after → passedToo after) :
    rendering.Leads rest cursor passedToo failed := by
  unfold Leads at *
  split at leads
  · exact fun after place quiet => implied after place quiet
      (leads after place quiet)
  · exact leads

theorem Leads.of_quiet (leads : rendering.Leads rest cursor passed failed)
    (quiet : cursor.Quiet middle) :
    rendering.Leads rest middle passed failed := by
  unfold Leads at *
  split at leads
  · exact fun after place more => leads after place (quiet.trans more)
  · exact fun after more => leads after (quiet.trans more)

theorem Leads.nil (leads : Leads [] rest cursor passed failed)
    (here : cursor.budget = rest) : passed cursor :=
  leads cursor here (.refl cursor)

theorem tooDeep?_flat (shallow : level ≤ nestingLimit) (row : List Token) :
    (flat level row).tooDeep? = none := by
  unfold tooDeep? flat
  rw [List.find?_map]
  simp [Function.comp_def, Nat.not_lt.2 shallow]

/-- The cursor passes a token that is not nested too deep. -/
theorem Leads.next
    (leads : Leads ((token, level) :: rendering) rest cursor passed failed)
    (shallow : level ≤ nestingLimit) :
    rendering.Leads rest cursor.next passed failed := by
  refine Leads.of_quiet ?_ (Cursor.quiet_next cursor)
  unfold Leads at *
  rw [tooDeep?_cons_of_le shallow] at leads
  exact leads

theorem Leads.tooDeep
    (leads : Leads ((token, level) :: rendering) rest cursor passed failed)
    (deep : nestingLimit < level) :
    failed ⟨token.span.start, .nestedTooDeep nestingLimit⟩ cursor := by
  unfold Leads at leads
  rw [tooDeep?_cons_of_lt deep] at leads
  exact leads cursor (.refl cursor)

theorem Leads.append {between : List Token}
    (leads : (before ++ behind).Leads rest cursor passed failed) :
    before.Leads between cursor
      (fun middle => behind.Leads rest middle passed failed) failed := by
  unfold Leads at *
  rw [tooDeep?_append] at leads
  cases found : before.tooDeep? with
  | some token =>
    rw [found] at leads
    exact leads
  | none =>
    rw [found] at leads
    intro middle _ quiet
    exact Leads.of_quiet leads quiet

end Rendering

/-! ## Single tokens -/

namespace Reader

open Cursor

variable {cursor : Cursor} {refused : Diagnostic → Cursor → Prop}

theorem ends_expect
    {kind : Kind} (found : cursor.kind = kind) (purpose : String)
    (accepted : Token → Cursor → Prop) :
    Ends (expect kind purpose) cursor accepted refused ↔
      accepted cursor.current cursor.next := by
  unfold expect
  rw [ends_bind, ends_get, if_pos found]
  rfl

theorem ends_identifier (found : cursor.kind = .identifier) (what : String)
    (accepted : Identifier → Cursor → Prop) :
    Ends (identifier what) cursor accepted refused ↔
      accepted ⟨cursor.current.text, cursor.current.span⟩ cursor.next := by
  unfold identifier
  rw [ends_bind, ends_get, if_pos found]
  rfl

theorem ends_elementType
    {dataType : DataType} (names : dataType? cursor.current = some dataType)
    (accepted : TypeName → Cursor → Prop) :
    Ends elementType cursor accepted refused ↔
      accepted ⟨dataType, false, cursor.current.span⟩ cursor.next := by
  unfold elementType
  rw [ends_bind, ends_get, names]
  rfl

theorem ne_endOfText_of_dataType? {token : Token} {dataType : DataType}
    (names : dataType? token = some dataType) : token.kind ≠ .endOfText := by
  intro atEnd
  simp [dataType?, atEnd] at names

theorem literalValue_of_spells
    {token : Token} {value : Value} (spells : token.Spells value) :
    literalValue token = .ok value := by
  unfold literalValue
  cases spells with
  | bool value kind => cases value <;> rw [kind] <;> rfl
  | int kind reads => simp only [kind, integerValue, reads]
  | float kind reads bounded =>
    simp [kind, floatValue, reads, bounded]
  | string kind | none kind | selfReference kind | parentReference kind =>
    rw [kind]

theorem ends_literal {value : Value} (spells : cursor.current.Spells value)
    (accepted : Literal → Cursor → Prop) :
    Ends literal cursor accepted refused ↔
      accepted ⟨value, cursor.current.span⟩ cursor.next := by
  unfold literal
  rw [ends_bind, ends_get, literalValue_of_spells spells]
  rfl

/-- A type is read from its tokens, unless a bracket follows that could be
its suffix. -/
theorem reads_typeName
    {type : TypeName} {row rest : List Token} {follow : Token}
    {accepted : TypeName → Cursor → Prop} (spelled : type.Spelled row)
    (apart : follow.kind ≠ .symbol .openBracket)
    (here : cursor.budget = row ++ follow :: rest)
    (holds : ∀ after : Cursor, after.budget = follow :: rest →
      cursor.Quiet after →
        ∀ found, found.bare = type.bare → accepted found after) :
    Ends typeName cursor accepted refused := by
  unfold typeName
  cases spelled with
  | plain names =>
    have next := budget_next_of_budget here
      (ne_endOfText_of_dataType? names)
    rw [← current_of_budget here] at names
    rw [← kind_of_budget next] at apart
    rw [ends_bind, ends_elementType names, ends_bind, ends_get,
      if_neg (by simp [apart])]
    exact holds cursor.next next (quiet_next cursor) _ rfl
  | array names opens closes =>
    have next := budget_next_of_budget here
      (ne_endOfText_of_dataType? names)
    have second := budget_next_of_budget next (by simp [opens])
    have third := budget_next_of_budget second (by simp [closes])
    have suffix : cursor.next.kindAt 1 = .symbol .closeBracket := by
      rw [kindAt_eq, next]
      simpa using closes
    rw [← current_of_budget here] at names
    rw [ends_bind, ends_elementType names, ends_bind, ends_get, if_pos]
    · refine holds cursor.next.next.next third ?_ _ rfl
      exact ((quiet_next _).trans (quiet_next _)).trans
        (quiet_next _)
    · simp [suffix, kind_of_budget next, opens]

end Reader

/-! ## What an answer tells about the tokens -/

variable {α β : Type}

namespace Reader

variable {reader : Reader α} {following : α → Reader β} {cursor : Cursor}
  {post known : α → Cursor → Prop}

/-- If the reader answers, its value and the cursor after it satisfy `post`. -/
def Yields
    (reader : Reader α) (cursor : Cursor) (post : α → Cursor → Prop) : Prop :=
  reader.Ends cursor post fun _ _ => True

theorem Yields.mono (yields : reader.Yields cursor known)
    (implied : ∀ value after, known value after → post value after) :
    reader.Yields cursor post :=
  Ends.mono yields implied fun _ _ trivially => trivially

theorem Yields.also {refused : Diagnostic → Cursor → Prop}
    (yields : reader.Yields cursor post)
    (ends : reader.Ends cursor known refused) :
    reader.Yields cursor fun value after =>
      post value after ∧ known value after := by
  unfold Yields Ends at *
  apply (yields.and ends).mono
  intro answer after holds
  cases answer with
  | ok value => exact holds
  | error diagnostic => trivial

theorem Yields.exists_of_ends (yields : reader.Yields cursor post)
    (ends : reader.Ends cursor known fun _ _ => False) :
    ∃ value after, post value after ∧ known value after := by
  unfold Yields Ends Recovery.Ends at *
  cases answered : (reader.run.run cursor).1 with
  | ok value =>
    rw [answered] at yields ends
    exact ⟨value, _, yields, ends⟩
  | error diagnostic =>
    rw [answered] at ends
    exact ends.elim

theorem Yields.pure {value : α} (holds : post value cursor) :
    Yields (Pure.pure value) cursor post :=
  holds

theorem Yields.get {following : Cursor → Reader β} {post : β → Cursor → Prop}
    (yields : (following cursor).Yields cursor post) :
    Yields (MonadState.get >>= following) cursor post :=
  yields

theorem Yields.bind
    {post : β → Cursor → Prop} (first : reader.Yields cursor known)
    (rest : ∀ value after, known value after →
      (following value).Yields after post) :
    Yields (reader >>= following) cursor post := by
  unfold Yields
  rw [ends_bind]
  exact first.mono rest

theorem Yields.lift {reader : Recovery α} (ends : reader.Ends cursor post) :
    Yields (liftM reader) cursor post :=
  ends

theorem Yields.advance {following : Token → Reader β} {post : β → Cursor → Prop}
    (yields : (following cursor.current).Yields cursor.next post) :
    Yields (liftM advance >>= following) cursor post := by
  unfold Yields
  rw [ends_bind]
  exact yields

theorem yields_throw (diagnostic : Diagnostic) :
    Yields (throw diagnostic : Reader α) cursor post :=
  trivial

theorem yields_reject (expected : String) :
    Yields (reject expected : Reader α) cursor post :=
  trivial

theorem Yields.loop {step : α → Reader (Step α)}
    (proceeds : ∀ value cursor, (step value).Proceeds cursor)
    {invariant : α → Cursor → Prop}
    (preserves : ∀ value cursor, invariant value cursor →
      (step value).Yields cursor (Step.Settles invariant post))
    {value : α} (holds : invariant value cursor) :
    Yields (loop step cursor.budget value) cursor post :=
  ends_loop_of_keeps invariant proceeds preserves value holds

end Reader

/-! ## Tokens that render something -/

namespace Rendering

variable {first second : Rendering} {token : Token} {level : Nat}

theorem level_cons :
    Rendering.level ((token, level) :: first) =
      max level (Rendering.level first) :=
  rfl

theorem level_append :
    Rendering.level (first ++ second) =
      max (Rendering.level first) (Rendering.level second) := by
  induction first with
  | nil => exact (Nat.zero_max _).symm
  | cons entry first ih =>
    obtain ⟨token, level⟩ := entry
    rw [List.cons_append, level_cons, level_cons, ih]
    omega

end Rendering

namespace Cursor

variable {source middle target cursor : Cursor} {fact : Rendering → Prop}
  {level : Nat}

/-- The cursor has passed a rendering, and nothing else has happened. -/
structure Passes
    (source : Cursor) (rendering : Rendering) (target : Cursor) : Prop where
  quiet : source.Quiet target
  budget : source.budget = rendering.tokens ++ target.budget
  shallow : rendering.level ≤ nestingLimit

/-- Unless something has been reported between two cursors, the first has
passed a rendering for which a fact holds. -/
structure Shows
    (source target : Cursor) (fact : Rendering → Prop) : Prop where
  grows : source.reported.length ≤ target.reported.length
  holds : target.reported.length ≤ source.reported.length →
    ∃ rendering, source.Passes rendering target ∧ fact rendering

theorem Passes.append
    {first second : Rendering} (one : source.Passes first middle)
    (other : middle.Passes second target) :
    source.Passes (first ++ second) target where
  quiet := one.quiet.trans other.quiet
  budget := by
    rw [one.budget, other.budget, Rendering.tokens_append, List.append_assoc]
  shallow := by
    have left := one.shallow
    have right := other.shallow
    rw [Rendering.level_append]
    omega

theorem Shows.mono
    {weaker : Rendering → Prop} (shows : source.Shows target fact)
    (implied : ∀ rendering, fact rendering → weaker rendering) :
    source.Shows target weaker where
  grows := shows.grows
  holds := by
    intro silent
    obtain ⟨rendering, passes, known⟩ := shows.holds silent
    exact ⟨rendering, passes, implied rendering known⟩

theorem Shows.passed (shows : source.Shows target fact) :
    source.Shows target fun rendering =>
      source.Passes rendering target ∧ fact rendering where
  grows := shows.grows
  holds := by
    intro silent
    obtain ⟨rendering, passes, known⟩ := shows.holds silent
    exact ⟨rendering, passes, passes, known⟩

theorem Shows.nil (known : fact []) : cursor.Shows cursor fact where
  grows := Nat.le_refl _
  holds := fun _ => ⟨[], ⟨.refl cursor, rfl, Nat.zero_le _⟩, known⟩

/-- Renderings of two readers are joined. -/
theorem Shows.append
    {second whole : Rendering → Prop} (one : source.Shows middle fact)
    (other : middle.Shows target second)
    (both : ∀ before behind,
      fact before → second behind → whole (before ++ behind)) :
    source.Shows target whole where
  grows := Nat.le_trans one.grows other.grows
  holds := by
    intro silent
    have growsFirst := one.grows
    have growsSecond := other.grows
    obtain ⟨before, passes, known⟩ := one.holds (by omega)
    obtain ⟨behind, passesToo, knownToo⟩ := other.holds (by omega)
    exact ⟨before ++ behind, passes.append passesToo,
      both before behind known knownToo⟩

theorem Shows.next
    (inside : cursor.kind ≠ .endOfText) (shallow : level ≤ nestingLimit)
    (known : fact [(cursor.current, level)]) :
    cursor.Shows cursor.next fact where
  grows := Nat.le_of_eq (congrArg List.length (reported_next cursor).symm)
  holds := by
    intro silent
    have flat : Rendering.level [(cursor.current, level)] ≤ nestingLimit := by
      rw [Rendering.level_cons]
      exact Nat.max_le.2 ⟨shallow, Nat.zero_le _⟩
    have passes := budget_eq_cons_next inside
    exact ⟨[(cursor.current, level)], ⟨quiet_next cursor, passes, flat⟩, known⟩

theorem Shows.cons
    (inside : cursor.kind ≠ .endOfText) (shallow : level ≤ nestingLimit)
    (shows : cursor.next.Shows target fact) :
    cursor.Shows target fun rendering =>
      ∃ behind, rendering = (cursor.current, level) :: behind ∧
        fact behind := by
  have first : cursor.Shows cursor.next
      fun rendering => rendering = [(cursor.current, level)] :=
    .next inside shallow rfl
  apply first.append shows
  intro before behind equal known
  subst equal
  exact ⟨behind, rfl, known⟩

theorem Shows.snoc
    (inside : cursor.kind ≠ .endOfText) (shallow : level ≤ nestingLimit)
    (shows : source.Shows cursor fact) :
    source.Shows cursor.next fun rendering =>
      ∃ before, rendering = before ++ [(cursor.current, level)] ∧
        fact before := by
  have last : cursor.Shows cursor.next
      fun rendering => rendering = [(cursor.current, level)] :=
    .next inside shallow rfl
  apply shows.append last
  intro before behind known equal
  subst equal
  exact ⟨before, rfl, known⟩

theorem Shows.enclose
    (opens : cursor.kind ≠ .endOfText) (closes : target.kind ≠ .endOfText)
    (shallow : level ≤ nestingLimit) (shows : cursor.next.Shows target fact) :
    cursor.Shows target.next fun rendering =>
      ∃ inside, rendering =
          (cursor.current, level) :: (inside ++ [(target.current, level)]) ∧
        fact inside := by
  apply ((shows.snoc closes shallow).cons opens shallow).mono
  intro rendering reached
  obtain ⟨_, rfl, inside, rfl, known⟩ := reached
  exact ⟨inside, rfl, known⟩

end Cursor

end PapyrusScript
