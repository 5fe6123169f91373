import PapyrusScript.Proofs.Isolation.Body
import PapyrusScript.Proofs.Omission

/-!
# Blocks are missed at tokens that can be read

A block is reported as left open where its body has ended without a closer.
A body ends at the end of the text, in front of a member, or in front of a
terminator, and the blocks of properties and states are left in front of such
tokens too.  None of them is invalid.

So a sort of errors that spares blocks left open in front of a token that can
be read is omitted by all readers of members, whatever is in their bodies.
-/

namespace PapyrusScript

variable {α β : Type} {sort : Cause → Bool} {cursor : Cursor} {size : Nat}

/-- A sort of errors between lines that a block is not of if it is left open
in front of a token that can be read. -/
class Cause.Discerning (sort : Cause → Bool) : Prop extends
    Cause.Outer sort where
  spares {block : Block} {line : Nat} {found : Kind} :
    found.isInvalid = false → sort (.unterminated block line found) = false

/-! ## Where bodies end -/

theorem Kind.not_isInvalid_of_atMemberStart
    (member : cursor.atMemberStart = true) :
    cursor.kind.isInvalid = false := by
  cases found : cursor.kind with
  | invalid error =>
    simp [Cursor.atMemberStart, Cursor.atTypeStart, found,
      Kind.isTypeKeyword] at member
  | _ => rfl

theorem Kind.not_isInvalid_of_closedBy
    {block : Block} {kind : Kind} (closes : block.closedBy kind = true) :
    kind.isInvalid = false := by
  cases kind with
  | invalid error => cases closes
  | _ => rfl

theorem Block.StopsAt.not_isInvalid
    {block : Block} (stops : block.StopsAt cursor) :
    cursor.kind.isInvalid = false := by
  rcases stops with atEnd | closes | member | closes
  · rw [atEnd]
    rfl
  · exact Kind.not_isInvalid_of_closedBy closes
  · exact Kind.not_isInvalid_of_atMemberStart member
  · obtain ⟨outer, _, closes⟩ := List.any_eq_true.1 closes
    exact Kind.not_isInvalid_of_closedBy closes

namespace Recovery

open Reader

variable {reader : Recovery α}

/-- Whatever a line of a body is, the last one is none but what stops the
body. -/
theorem ends_bodyLine_stopsAt
    (block : Block) (statements : List Statement) (cursor : Cursor) :
    (bodyLine Reader.body block statements).Ends cursor
      (Step.Settles (fun _ _ => True) fun _ after =>
        block.StopsAt after) := by
  apply ends_bind_of_forall
  intro _ after
  rw [ends_bind, ends_get]
  dsimp only
  split
  · rename_i stops
    simp only [Bool.or_eq_true, decide_eq_true_eq, or_assoc] at stops
    exact stops.imp_right fun stops => stops.imp_right .inl
  · split
    · split
      · rename_i closes
        exact .inr (.inr (.inr closes))
      · exact ends_bind_of_forall fun _ _ =>
          ends_bind_of_forall fun _ _ => trivial
    · split
      · exact ends_bind_of_forall fun _ _ => trivial
      · apply ends_bind_of_forall
        intro answer _
        cases answer with
        | ok found => cases found <;> exact trivial
        | error diagnostic =>
          exact ends_bind_of_forall fun _ _ =>
            ends_bind_of_forall fun _ _ => trivial

theorem ends_body_readable (block : Block) (cursor : Cursor) :
    (Reader.body block).Ends cursor fun _ after =>
      after.kind.isInvalid = false := by
  rw [ends_body]
  have lines :
      Ends (loop (bodyLine Reader.body block) cursor.budget [])
        (cursor.enter block) fun _ after => block.StopsAt after :=
    ends_loop_of_keeps _ (proceeds_bodyLine travels_body block)
      (fun statements cursor (_ : True) =>
        ends_bodyLine_stopsAt block statements cursor) [] trivial
  exact lines.mono fun _ _ stops => stops.not_isInvalid

/-! ## Statements -/

/-- From a cursor on, the reader reports no error of a sort, and something
holds where it ends. -/
def OmitsAt (sort : Cause → Bool) (reader : Recovery α) (cursor : Cursor)
    (post : α → Cursor → Prop) : Prop :=
  reader.Ends cursor fun value after =>
    after.reportsOf sort = cursor.reportsOf sort ∧ post value after

theorem OmitsAt.bind {following : α → Recovery β} {known : α → Cursor → Prop}
    {post : β → Cursor → Prop} (first : OmitsAt sort reader cursor known)
    (rest : ∀ value after, known value after →
      OmitsAt sort (following value) after post) :
    OmitsAt sort (reader >>= following) cursor post := by
  apply Ends.bind first
  intro value middle reached
  apply (rest value middle reached.2).mono
  exact fun _ _ further => ⟨further.1.trans reached.1, further.2⟩

theorem OmitsAt.pure
    {value : α} {post : α → Cursor → Prop} (holds : post value cursor) :
    OmitsAt sort (Pure.pure value) cursor post :=
  ⟨rfl, holds⟩

theorem OmitsAt.get {following : Cursor → Recovery β} {post : β → Cursor → Prop}
    (rest : OmitsAt sort (following cursor) cursor post) :
    OmitsAt sort (MonadState.get >>= following) cursor post :=
  rest

theorem OmitsAt.mono {known post : α → Cursor → Prop}
    (omits : OmitsAt sort reader cursor known)
    (implied : ∀ value after, known value after → post value after) :
    OmitsAt sort reader cursor post :=
  Ends.mono omits fun value after holds =>
    ⟨holds.1, implied value after holds.2⟩

theorem OmitsAt.of_travels
    (travels : reader.Travels cursor sort) (fits : cursor.budget.length ≤ size) :
    OmitsAt sort reader cursor fun _ after => after.budget.length ≤ size :=
  ⟨travels.reportsOf, Nat.le_trans travels.length_le fits⟩

theorem omitsAt_advance (inside : cursor.kind ≠ .endOfText)
    (fits : cursor.budget.length ≤ size + 1) :
    OmitsAt sort advance cursor fun _ after =>
      after.budget.length ≤ size := by
  have fewer := Cursor.precedes_next inside
  have left : cursor.next.budget.length ≤ size :=
    Nat.le_of_lt_succ (Nat.lt_of_lt_of_le fewer fits)
  exact ⟨cursor.reportsOf_next sort, left⟩

/-- A block may be left open in front of what can be read. -/
theorem omitsAt_reportUnterminated
    [Cause.Discerning sort] (block : Block) (opener : Token)
    (readable : cursor.kind.isInvalid = false) :
    OmitsAt sort (reportUnterminated block opener) cursor
      fun _ after => after.budget = cursor.budget :=
  ⟨cursor.reportsOf_report (Cause.Discerning.spares readable), rfl⟩

theorem OmitsAt.ends {post : α → Cursor → Prop}
    (omits : OmitsAt sort reader cursor post) :
    reader.Ends cursor fun _ after =>
      after.reportsOf sort = cursor.reportsOf sort :=
  Ends.mono omits fun _ _ held => held.1

theorem Omits.omitsAt (omits : reader.Omits sort) (cursor : Cursor) :
    OmitsAt sort reader cursor fun _ _ => True :=
  ⟨omits cursor, trivial⟩

theorem Omits.inBlock {block : Block} {body : Recovery α}
    (omits : body.Omits sort) : (Reader.inBlock block body).Omits sort :=
  fun cursor => omits (cursor.enter block)

def BodiesOmit (sort : Cause → Bool) (size : Nat) : Prop :=
  ∀ block cursor, cursor.budget.length ≤ size →
    OmitsAt sort (Reader.body block) cursor fun _ _ => True

theorem BodiesOmit.readable (bodies : BodiesOmit sort size) (block : Block)
    (fits : cursor.budget.length ≤ size) :
    OmitsAt sort (Reader.body block) cursor fun _ after =>
      after.budget.length ≤ size ∧ after.kind.isInvalid = false :=
  ⟨(bodies block cursor fits).1,
    Nat.le_trans (travels_body block cursor).length_le fits,
    ends_body_readable block cursor⟩

section Bodies

variable [Cause.Discerning sort] (bodies : BodiesOmit sort size)

include bodies

/-- An arm omits the sort, and ends in front of what can be read. -/
theorem omitsAt_nextArm (opener : Token) (arms : Reader.Arms)
    (fits : cursor.budget.length ≤ size + 1)
    (readable : cursor.kind.isInvalid = false) :
    OmitsAt sort (nextArm Reader.body opener arms) cursor
      (Step.Settles (fun _ after => after.budget.length ≤ size ∧
        after.kind.isInvalid = false) fun _ _ => True) := by
  apply OmitsAt.get
  split
  · rename_i found
    apply (omitsAt_advance (by rw [found]; nofun) fits).bind
    intro token after fits
    apply (OmitsAt.of_travels
      (travels_reportElseIfAfterElse _ _ after) fits).bind
    intro _ after fits
    apply (OmitsAt.of_travels (travels_condition _ after) fits).bind
    intro found after fits
    apply (bodies.readable _ fits).bind
    exact fun _ _ left => .get (.pure left)
  · rename_i found
    apply (omitsAt_advance (by rw [found]; nofun) fits).bind
    intro token after fits
    apply (OmitsAt.of_travels (travels_finishLine _ after) fits).bind
    intro _ after fits
    apply (bodies.readable _ fits).bind
    intro _ after left
    split
    · exact ⟨after.reportsOf_report (Cause.Outer.spares rfl), left⟩
    · exact .pure left
  · rename_i found
    apply (omitsAt_advance (by rw [found]; nofun) fits).bind
    intro _ after fits
    apply (OmitsAt.of_travels (travels_finishLine _ after) fits).bind
    exact fun _ _ _ => .pure trivial
  · apply (omitsAt_reportUnterminated _ _ readable).bind
    exact fun _ _ _ => .pure trivial

/-- The arms of a conditional are read as long as there are any. -/
theorem omitsAt_arms (opener : Token) (arms : Reader.Arms)
    (fits : cursor.budget.length ≤ size)
    (readable : cursor.kind.isInvalid = false) :
    OmitsAt sort
      (loop (nextArm Reader.body opener) cursor.budget arms) cursor
      fun _ _ => True := by
  have steps (arms : Reader.Arms) (after : Cursor)
      (left : after.reportsOf sort = cursor.reportsOf sort ∧
        after.budget.length ≤ size ∧ after.kind.isInvalid = false) :
      (nextArm Reader.body opener arms).Ends after
        (Step.Settles (fun _ last =>
          last.reportsOf sort = cursor.reportsOf sort ∧
            last.budget.length ≤ size ∧ last.kind.isInvalid = false)
          fun _ last => last.reportsOf sort = cursor.reportsOf sort ∧
            True) := by
    apply Ends.mono (omitsAt_nextArm bodies opener arms
      (Nat.le_succ_of_le left.2.1) left.2.2)
    rintro decision last ⟨same, reached⟩
    cases decision with
    | again => exact ⟨same.trans left.1, reached⟩
    | done => exact ⟨same.trans left.1, trivial⟩
  exact ends_loop_of_keeps _ (proceeds_nextArm travels_body opener) steps arms
    ⟨rfl, fits, readable⟩

/-- A conditional omits the sort if the bodies in it do. -/
theorem omitsAt_conditionalStatement (found : cursor.kind = .keyword .ifThen)
    (fits : cursor.budget.length ≤ size + 1) :
    OmitsAt sort (conditionalStatement Reader.body) cursor
      fun _ _ => True := by
  apply (omitsAt_advance (by rw [found]; nofun) fits).bind
  intro keyword after fits
  apply (OmitsAt.of_travels (travels_condition _ after) fits).bind
  intro condition after fits
  apply (bodies.readable _ fits).bind
  intro inside after left
  apply OmitsAt.get
  apply OmitsAt.get
  apply (omitsAt_arms bodies keyword _ left.1 left.2).bind
  intro arms after _
  split
  · exact .get (.pure trivial)
  · exact .pure trivial

/-- A loop omits the sort if its body does. -/
theorem omitsAt_loopStatement (found : cursor.kind = .keyword .whileLoop)
    (fits : cursor.budget.length ≤ size + 1) :
    OmitsAt sort (loopStatement Reader.body) cursor
      fun _ _ => True := by
  apply (omitsAt_advance (by rw [found]; nofun) fits).bind
  intro keyword after fits
  apply (OmitsAt.of_travels (travels_condition _ after) fits).bind
  intro condition after fits
  apply (bodies.readable _ fits).bind
  intro inside after left
  have closing : OmitsAt sort (endOfLoop keyword) after
      fun _ _ => True := by
    apply OmitsAt.get
    split
    · exact (Omits.take fun _ => omits_finishLine _).omitsAt after
    · exact (omitsAt_reportUnterminated _ _ left.2).mono
        fun _ _ _ => trivial
  apply closing.bind
  intro _ after _
  split
  · exact .get (.pure trivial)
  · exact .pure trivial

/-- A statement omits the sort if the bodies in it do. -/
theorem omitsAt_statement (fits : cursor.budget.length ≤ size + 1) :
    (statement Reader.body).Ends cursor
      (fun _ after => after.reportsOf sort = cursor.reportsOf sort)
      fun diagnostic after => after.reportsOf sort = cursor.reportsOf sort ∧
        sort diagnostic.cause = false := by
  unfold statement
  rw [Reader.ends_bind, Reader.ends_get]
  split
  · rename_i found
    rw [ends_lift]
    exact (omitsAt_conditionalStatement bodies found fits).1
  · rename_i found
    rw [ends_lift]
    exact (omitsAt_loopStatement bodies found fits).1
  · have read : returnStatement.Omits sort :=
      .of_travels fun cursor => (advances_returnStatement cursor).travels
    exact read.map some cursor
  · split
    · have read : declareStatement.Omits sort :=
        .of_travels fun cursor => (advances_declareStatement cursor).travels
      exact read.map some cursor
    · have read : expressionStatement.Omits sort :=
        .of_travels fun cursor => (advances_expressionStatement cursor).travels
      exact read.map some cursor

/-- A line omits the sort if the bodies in it do. -/
theorem omitsAt_bodyLine (block : Block) (statements : List Statement)
    (fits : cursor.budget.length ≤ size + 1) :
    OmitsAt sort (bodyLine Reader.body block statements) cursor
      fun _ _ => True := by
  apply (OmitsAt.of_travels (travels_skipNewlines cursor) fits).bind
  intro _ after fits
  apply OmitsAt.get
  dsimp only
  split
  · exact .pure trivial
  · split
    · split
      · exact .pure trivial
      · have stray (token : Token) : Omits sort (do
            complain token.span.start (.strayTerminator after.kind)
            return Step.again statements) :=
          (omits_complain _ (Cause.Outer.spares rfl)).bind fun _ => .pure _
        exact (Omits.take stray).omitsAt after
    · split
      · exact (Omits.take fun _ => .pure _).omitsAt after
      · unfold OmitsAt
        rw [ends_bind, ends_run]
        apply (omitsAt_statement bodies fits).mono
        · intro found last same
          cases found <;> exact ⟨same, trivial⟩
        · rintro diagnostic last ⟨same, other⟩
          have told : Omits sort (do
              report diagnostic
              synchronize
              return Step.again statements) :=
            (omits_report other).bind fun _ =>
              (Omits.of_travels travels_synchronize).bind fun _ => .pure _
          exact ⟨(told last).trans same, trivial⟩

end Bodies

/-- Bodies omit the sort, by induction on the tokens that are left. -/
theorem bodiesOmit [Cause.Discerning sort] (size : Nat) :
    BodiesOmit sort size := by
  induction size with
  | zero =>
    intro block cursor none
    exact absurd none (Nat.not_succ_le_zero _)
  | succ size bodies =>
    intro block cursor fits
    have steps (statements : List Statement) (after : Cursor)
        (left : after.reportsOf sort = cursor.reportsOf sort ∧
          after.budget.length ≤ size + 1) :
        (bodyLine Reader.body block statements).Ends after
          (Step.Settles (fun _ last =>
            last.reportsOf sort = cursor.reportsOf sort ∧
              last.budget.length ≤ size + 1)
            fun _ last => last.reportsOf sort = cursor.reportsOf sort ∧
              True) := by
      have passed : (bodyLine Reader.body block statements).Ends
          after fun _ last => last.budget.length ≤ size + 1 :=
        Nat.le_trans (proceeds_bodyLine travels_body block statements
          after).travels.length_le left.2
      apply Ends.mono (Ends.and
        (omitsAt_bodyLine bodies block statements left.2) passed)
      rintro decision last ⟨⟨same, _⟩, fits⟩
      cases decision with
      | again => exact ⟨same.trans left.1, fits⟩
      | done => exact ⟨same.trans left.1, trivial⟩
    have lines : Ends
        (loop (bodyLine Reader.body block) cursor.budget [])
        (cursor.enter block) fun _ last =>
          last.reportsOf sort = cursor.reportsOf sort ∧ True :=
      ends_loop_of_keeps _ (proceeds_bodyLine travels_body block) steps []
        ⟨rfl, fits⟩
    unfold OmitsAt
    rw [ends_body]
    exact lines

end Recovery

section Members

variable [Cause.Discerning sort]

/-! ## Functions and events -/

namespace Recovery

/-- The body of a function or event omits the sort. -/
theorem omits_callableBody
    (block : Block) (opener : Token) (flags : Reader.CallableFlags) :
    (Reader.callableBody block opener flags).Omits sort := by
  unfold Reader.callableBody
  split
  · exact .pure _
  · intro cursor
    apply OmitsAt.ends
    apply (bodiesOmit _ |>.readable block (Nat.le_refl _)).bind
    intro inside after left
    apply OmitsAt.get
    dsimp only
    split
    · have finished : Omits sort (do
          let _ ← Reader.advance
          Reader.finishLine "block terminator"
          return inside) :=
        .take fun _ => (omits_finishLine _).bind fun _ => .pure _
      exact finished.omitsAt after
    · apply (omitsAt_reportUnterminated block opener left.2).bind
      exact fun _ _ _ => .pure trivial

end Recovery

namespace Reader

theorem omits_function (returnType : Option TypeName) :
    (function returnType).Omits sort := by
  apply (omits_expect rfl _).bind
  intro keyword
  apply (omits_identifier _).bind
  intro name
  apply (Omits.lift (Recovery.omits_callableHeader _ _)).bind
  intro header
  apply (Omits.lift (Recovery.omits_callableBody _ _ _)).bind
  exact fun _ => .get fun _ => .pure _

theorem omits_event : event.Omits sort := by
  apply (omits_expect rfl _).bind
  intro keyword
  apply (omits_identifier _).bind
  intro name
  apply (Omits.lift (Recovery.omits_callableHeader _ _)).bind
  intro header
  apply (Omits.lift (Recovery.omits_callableBody _ _ _)).bind
  exact fun _ => .get fun _ => .pure _

end Reader

/-! ## Properties -/

namespace Recovery

open Reader

theorem omits_accessor : accessor.Omits sort := by
  apply Reader.Omits.get
  intro cursor
  split
  · exact omits_function none
  · exact omits_typeName.bind fun _ => omits_function _

/-- A function of a property omits the sort. -/
theorem omits_nextAccessor
    (keyword : Token) (property : String) (accessors : Reader.Accessors) :
    (nextAccessor keyword property accessors).Omits sort := by
  apply omits_skipNewlines.bind
  intro _ cursor
  rw [ends_bind, ends_get]
  split
  · exact Omits.take (fun _ => (omits_finishLine _).bind fun _ => .pure _)
      cursor
  · split
    · exact Omits.take (fun _ => .pure _) cursor
    · split
      · refine Omits.run_bind omits_accessor (fun found => ?_)
          (fun _ other => ?_) cursor
        · exact (Omits.of_travels (travels_placeAccessor _ _ found)).bind
            fun _ => .pure _
        · exact (omits_reportAndSkipLine other).bind fun _ => .pure _
      · split
        · rename_i stops
          have readable : cursor.kind.isInvalid = false := by
            simp only [Bool.or_eq_true, decide_eq_true_eq] at stops
            rcases stops with atEnd | member
            · rw [atEnd]
              rfl
            · exact Kind.not_isInvalid_of_atMemberStart member
          exact (omitsAt_reportUnterminated _ _ readable).ends
        · exact Omits.unexpected (fun _ other =>
            (omits_reportAndSkipLine other).bind fun _ => .pure _) cursor

theorem omits_propertyBlock (keyword : Token) (property : String) :
    (propertyBlock keyword property).Omits sort := by
  have listOmits : (accessorList keyword property).Omits sort :=
    .inBlock (.get fun _ =>
      omits_loop (omits_nextAccessor keyword property) _ _)
  apply listOmits.bind
  intro accessors
  exact (Omits.of_travels (travels_reportNoAccessor keyword property
    accessors)).bind fun _ => .pure _

theorem omits_fullSource
    (property : String) (keyword : Token) (line : Reader.PropertyLine) :
    (fullSource property keyword line).Omits sort := by
  apply (Omits.of_travels (travels_reportInitialValue property
    line.header.initial)).bind
  intro _
  exact (omits_propertyBlock _ _).bind fun _ => .pure _

end Recovery

namespace Reader

/-- A property omits the sort. -/
theorem omits_propertyAfter (type : TypeName) :
    (propertyAfter type).Omits sort := by
  apply (omits_expect rfl _).bind
  intro keyword
  apply (omits_identifier _).bind
  intro name
  apply (Omits.of_travels fun cursor =>
    (Recovery.travels_propertyLine cursor).lift).bind
  intro line
  apply (Omits.of_travels fun cursor =>
    (Recovery.travels_standsAlone line cursor).lift).bind
  intro alone
  split
  · exact .pure _
  · split
    · rename_i automatic _
      apply (Omits.of_travels fun cursor =>
        (Recovery.travels_automaticSource name.name automatic line
          cursor).lift).bind
      exact fun _ => .pure _
    · apply (Omits.lift (Recovery.omits_fullSource _ _ _)).bind
      exact fun _ => .get fun _ => .pure _

/-! ## Members -/

/-- A variable, property or function omits the sort. -/
theorem omits_plainMember : plainMember.Omits sort := by
  have typedOmits : typedMember.Omits sort := by
    apply omits_typeName.bind
    intro type
    apply Omits.get
    intro cursor
    split
    · exact .map _ (omits_function _)
    · exact .map _ (omits_propertyAfter type)
    · have read : (variableAfter type).Omits sort :=
        .of_travels fun cursor => (advances_variableAfter type cursor).travels
      exact read.map _
    · exact omits_reject _
  apply Omits.get
  intro cursor
  split
  · exact .map _ (omits_function _)
  · exact typedOmits

end Reader

namespace Recovery

theorem omits_hoistedMember (state : String) (found : Reader.StateBody) :
    (Reader.hoistedMember state found).Omits sort := by
  apply Omits.get
  intro cursor
  apply (omits_complain _ (Cause.Outer.spares rfl)).bind
  intro _
  apply Omits.run_bind Reader.omits_plainMember
  · exact fun _ => .pure _
  · intro diagnostic other
    apply (omits_report other).bind
    exact fun _ => (omits_skipMember _).bind fun _ => .pure _

/-- A line of a state omits the sort. -/
theorem omits_nextInState
    (keyword : Token) (state : String) (found : Reader.StateBody) :
    (Reader.nextInState keyword state found).Omits sort := by
  apply omits_skipNewlines.bind
  intro _ cursor
  have unfinished {kind : Kind} (here : cursor.kind = kind)
      (readable : kind.isInvalid = false) :
      (Reader.unfinishedState keyword found).Ends cursor fun _ after =>
        after.reportsOf sort = cursor.reportsOf sort :=
    (omitsAt_reportUnterminated _ _ (here ▸ readable)).ends
  rw [ends_bind, ends_get]
  split
  · exact Omits.take (fun _ => (omits_finishLine _).bind fun _ => .pure _)
      cursor
  · exact Omits.take (fun _ => .pure _) cursor
  · refine Omits.run_bind Reader.omits_event (fun _ => ?_)
      (fun _ other => ?_) cursor
    · exact .pure _
    · exact (omits_reportAndSkipLine other).bind fun _ => .pure _
  · exact unfinished (by assumption) rfl
  · exact unfinished (by assumption) rfl
  · exact unfinished (by assumption) rfl
  · exact unfinished (by assumption) rfl
  · split
    · rename_i marked
      simp only [Bool.and_eq_true, decide_eq_true_eq] at marked
      exact unfinished marked.1 rfl
    · split
      · exact ((omits_hoistedMember _ _).bind fun _ => .pure _) cursor
      · exact Omits.unexpected (fun _ other =>
          (omits_reportAndSkipLine other).bind fun _ => .pure _) cursor

end Recovery

namespace Reader

/-- A state omits the sort. -/
theorem omits_stateMembers : stateMembers.Omits sort := by
  have bodyOmits (keyword : Token) (state : String) :
      Recovery.Omits sort (stateBody keyword state) :=
    .inBlock (.get fun _ =>
      Recovery.omits_loop (Recovery.omits_nextInState keyword state) _ _)
  apply Omits.get
  intro cursor
  apply (Omits.of_travels fun cursor =>
    (Recovery.travels_autoMark cursor).lift).bind
  intro auto
  apply (omits_expect rfl _).bind
  intro keyword
  apply (omits_identifier _).bind
  intro name
  apply (Omits.of_travels (travels_endOfLine _)).bind
  intro _
  exact (Omits.lift (bodyOmits _ _)).bind fun _ => .get fun _ => .pure _

theorem omits_members : members.Omits sort := by
  apply Omits.get
  intro cursor
  split
  · exact omits_event.bind fun _ => .pure _
  · exact omits_stateMembers
  · exact omits_stateMembers
  · exact omits_plainMember.bind fun _ => .pure _

end Reader

end Members

end PapyrusScript
