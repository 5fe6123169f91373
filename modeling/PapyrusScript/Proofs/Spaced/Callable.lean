import PapyrusScript.Proofs.Layout.Property
import PapyrusScript.Proofs.Transcript.Callable

/-!
# Functions and events that are read are laid out

What the reader of a function or event has passed in front of more text is a
layout of its answer, with gaps between the lines of the body, unless
something was reported.  A comment right behind the header belongs to it, so
no other one starts the body.  Such a layout is taken wherever it stands.
-/

namespace PapyrusScript

open Cursor

variable {cursor : Cursor} {row rest : List Token}

/-- What follows the header of a function or event, with gaps between the
lines. -/
inductive SpacedCallable (block : Block) :
    List Statement → Bool → List Token → Prop
  | native : SpacedCallable block [] true []
  | intro {body : List Statement} {inside : List Token}
      {closer line : Token} (spaced : Statement.SpacedBody body inside)
      (closes : closer.kind = .keyword block.terminator)
      (ends : line.kind = .newline) :
      SpacedCallable block body false (inside ++ [closer, line])

/-- A layout of a well-formed function with gaps between its lines. -/
inductive Function.Spaced : Function → List Token → Prop
  | intro {returnType : Option TypeName} {parameters : List Parameter}
      {body : List Statement} {native global : Bool} {doc : Option String}
      {span : Span} {word token : Token}
      {type row flags docs inside : List Token}
      (returns : TypeName.Returned returnType type)
      (kind : word.kind = .keyword .function)
      (named : token.kind = .identifier)
      (listed : Parameter.Parenthesized parameters row)
      (flagged : CallableFlagged .function native global flags)
      (documented : DocumentedEnd doc docs)
      (apart : doc = none → inside ≠ [] → Heads (· ≠ .docComment) inside)
      (spaced : SpacedCallable .function body native inside) :
      Spaced
        { returnType, name := ⟨token.text, token.span⟩, parameters, body,
          native, global, doc, span }
        (type ++ word :: token :: (row ++ (flags ++ docs) ++ inside))

/-- A layout of a well-formed event with gaps between its lines. -/
inductive Event.Spaced : Event → List Token → Prop
  | intro {parameters : List Parameter} {body : List Statement}
      {native : Bool} {doc : Option String} {span : Span}
      {word token : Token} {row flags docs inside : List Token}
      (kind : word.kind = .keyword .event) (named : token.kind = .identifier)
      (listed : Parameter.Parenthesized parameters row)
      (flagged : CallableFlagged .event native false flags)
      (documented : DocumentedEnd doc docs)
      (apart : doc = none → inside ≠ [] → Heads (· ≠ .docComment) inside)
      (spaced : SpacedCallable .event body native inside) :
      Spaced
        { name := ⟨token.text, token.span⟩, parameters, body, native, doc,
          span }
        (word :: token :: (row ++ (flags ++ docs) ++ inside))

def Function.TakesComment (tree : Function) : Prop :=
  tree.native = true ∧ tree.doc = none

def Event.TakesComment (tree : Event) : Prop :=
  tree.native = true ∧ tree.doc = none

theorem Function.Spaced.starts {tree : Function} (spaced : tree.Spaced row)
    (here : cursor.budget = row ++ rest) : cursor.AtFunction := by
  cases spaced with
  | intro returns kind _ _ _ _ _ _ =>
    rw [List.append_assoc] at here
    exact returns.starts kind here

theorem Event.Spaced.heads {tree : Event} (spaced : tree.Spaced row) :
    Heads (· = .keyword .event) (row ++ rest) := by
  cases spaced with
  | intro kind _ _ _ _ _ _ => exact kind

theorem Function.Spaced.heads {tree : Function} (spaced : tree.Spaced row) :
    Heads Kind.startsPlainMember (row ++ rest) := by
  cases spaced with
  | intro returns kind _ _ _ _ _ _ =>
    rw [List.append_assoc]
    exact returns.heads kind

/-! ## Layouts are taken -/

/-- The first tokens that are left start with the current one. -/
theorem heads_of_prefix {allowed : Kind → Prop} (starts : row <+: cursor.budget)
    (more : row ≠ []) (holds : allowed cursor.kind) : Heads allowed row := by
  obtain ⟨behind, shape⟩ := starts
  cases row with
  | nil => exact absurd rfl more
  | cons token row =>
    rw [kind_of_budget shape.symm] at holds
    exact holds

/-- No comment stands between an undocumented header and what follows. -/
theorem apart_of_spaced {block : Block} {body : List Statement} {native : Bool}
    {doc : Option String} {inside : List Token}
    (spaced : SpacedCallable block body native inside)
    (apart : doc = none → inside ≠ [] → Heads (· ≠ .docComment) inside)
    (heads : native = true ∧ doc = none → Heads (· ≠ .docComment) rest)
    (undocumented : doc = none) :
    Heads (· ≠ .docComment) (inside ++ rest) := by
  cases spaced with
  | native => exact heads ⟨rfl, undocumented⟩
  | intro _ _ _ => exact (apart undocumented (by simp)).append

namespace Reader

theorem takes_callableBody_of_spaced
    {list : List Statement} {block : Block} {native global : Bool}
    (spaced : SpacedCallable block list native row)
    (closed : block.closedBy (.keyword block.terminator) = true)
    (opener : Token) :
    (callableBody block opener ⟨native, global⟩).Takes row rest fun found =>
      Statement.bareBody found = Statement.bareBody list := by
  unfold callableBody
  cases spaced with
  | native => exact .pure rfl
  | intro spaced closes ends =>
    apply takes_openBody _ closes closed ends opener
    exact takes_body_of_isTaken (Statement.isTaken_of_spaced spaced.1)
      spaced.2 (heads_closedBy closes closed)

theorem takes_accessor_of_spaced {tree : Function} (spaced : tree.Spaced row)
    (heads : tree.TakesComment → Heads (· ≠ .docComment) rest) :
    accessor.Takes row rest fun found =>
      found.bare = tree.bare ∧ found.name = tree.name := by
  cases spaced with
  | intro returns kind named listed flagged documented apart spaced =>
    exact takes_accessor_of_parts returns kind named listed flagged
      documented (apart_of_spaced spaced apart heads)
      (takes_callableBody_of_spaced spaced rfl _)

theorem takes_event_of_spaced {tree : Event} (spaced : tree.Spaced row)
    (heads : tree.TakesComment → Heads (· ≠ .docComment) rest) :
    event.Takes row rest fun found => found.bare = tree.bare := by
  cases spaced with
  | intro kind named listed flagged documented apart spaced =>
    exact takes_event kind named listed flagged documented
      (apart_of_spaced spaced apart heads)
      (takes_callableBody_of_spaced spaced rfl _)

end Reader

/-! ## Ends of headers -/

namespace Reader

/-- The end of a declaration lays out its comment. -/
theorem documentedEnd_endOfDeclaration (context : String) :
    (endOfDeclaration context).Consumes cursor DocumentedEnd := by
  unfold endOfDeclaration
  apply Consumes.get
  split
  · rename_i doc
    apply Consumes.advance (by rw [doc]; rfl)
    apply (consumes_endOfLine _).bind
    intro _ after
    apply Consumes.pure
    rintro _ ⟨line, rfl, ends⟩
    exact .inline doc ends
  · apply (consumes_endOfLine _).bind
    intro _ after
    apply Consumes.get
    split
    · rename_i doc
      apply Consumes.advance (by rw [doc]; rfl)
      apply (consumes_endOfLine _).bind
      intro _ last
      apply Consumes.pure
      rintro _ ⟨last, rfl, endsToo⟩ _ ⟨line, rfl, ends⟩
      exact .below ends doc endsToo
    · apply Consumes.pure
      rintro _ ⟨line, rfl, ends⟩
      exact .absent ends

/-- A comment that stands where the declaration ends has been taken. -/
theorem undocumented_endOfDeclaration (context : String) :
    (endOfDeclaration context).Ends cursor
      (fun doc after => doc = none → after.kind ≠ .docComment)
      fun _ _ => True := by
  unfold endOfDeclaration
  rw [ends_bind, ends_get]
  split
  · rw [ends_bind, ends_lift, Recovery.ends_advance, ends_bind]
    apply Ends.mono (travels_endOfLine context _)
    · intro _ after _ never
      cases never
    · exact fun _ _ _ => trivial
  · rw [ends_bind]
    apply Ends.mono (travels_endOfLine context _)
    · intro _ after _
      rw [ends_bind, ends_get]
      split
      · rw [ends_bind, ends_lift, Recovery.ends_advance, ends_bind]
        apply Ends.mono (travels_endOfLine _ _)
        · intro _ last _ never
          cases never
        · exact fun _ _ _ => trivial
      · rename_i other
        exact fun _ => other
    · exact fun _ _ _ => trivial

theorem consumes_endOfDeclaration (context : String) :
    (endOfDeclaration context).ConsumesTo cursor fun doc after row =>
      DocumentedEnd doc row ∧ (doc = none → after.kind ≠ .docComment) := by
  apply (Ends.and (documentedEnd_endOfDeclaration context)
    (undocumented_endOfDeclaration context)).mono
  · rintro doc after ⟨consumed, undocumented⟩
    exact consumed.mono fun _ documented => ⟨documented, undocumented⟩
  · exact fun _ _ failed => failed.1

end Reader

namespace Recovery

/-- A reader that keeps its error for later, and what comes after it in either
case. -/
theorem TravelsTo.bind_consumes
    {α β : Type} {reader : Recovery (α × Option Diagnostic)}
    {following : α × Option Diagnostic → Recovery β}
    {fact : α → List Token → Prop} {whole : β → Cursor → List Token → Prop}
    (travels : reader.TravelsTo cursor)
    (covers : reader.Covers cursor fun found row =>
      found.2 = none → fact found.1 row)
    (onValue : ∀ value middle,
      (following (value, none)).ConsumesTo middle fun result after row =>
        ∀ before, fact value before → whole result after (before ++ row))
    (onError : ∀ value diagnostic after, Blames diagnostic after →
      (following (value, some diagnostic)).Tells after ∧
        (following (value, some diagnostic)).Travels after) :
    ConsumesTo (reader >>= following) cursor whole := by
  apply Ends.bind (Ends.and travels covers)
  rintro ⟨value, failure⟩ middle ⟨⟨reaches, blames⟩, covered⟩
  cases failure with
  | none =>
    have consumed : cursor.Consumes middle (fact value) :=
      ⟨reaches, covered.mono fun _ holds _ => holds rfl⟩
    apply Ends.mono (onValue value middle)
    intro result after further
    exact consumed.append further fun before row known holds =>
      holds before known
  | some diagnostic =>
    obtain ⟨tells, further⟩ := onError value diagnostic middle
      (blames diagnostic rfl)
    apply (Ends.and tells further).mono
    rintro _ after ⟨told, reachesToo⟩
    exact .of_told (reaches.trans reachesToo)
      (Nat.lt_of_le_of_lt reaches.grows.reported told)

/-- A header lays out its parameters, its flags and its comment. -/
theorem consumes_callableHeader (block : Block) (context : String) :
    (Reader.callableHeader block context).ConsumesTo cursor
      fun header after row =>
        (∃ list flags docs, row = list ++ (flags ++ docs) ∧
          Parameter.Parenthesized header.parameters list ∧
          CallableFlagged block header.flags.native header.flags.global
            flags ∧
          DocumentedEnd header.doc docs) ∧
        (header.doc = none → after.kind ≠ .docComment) := by
  unfold Reader.callableHeader
  apply (travelsTo_parameters cursor).bind_consumes parenthesized_parameters
  · intro found middle
    apply ConsumesTo.bind ((flagged_callableFlags block).consumes
      (travels_callableFlags block middle))
    intro flags after
    apply ConsumesTo.run_bind (Reader.consumes_endOfDeclaration context)
    · intro doc last
      apply Cursor.Consumes.nil
      rintro docs ⟨documented, undocumented⟩ flagged isFlagged list listed
      rw [List.append_nil]
      exact ⟨⟨list, flagged, docs, rfl, listed, isFlagged, documented⟩,
        undocumented⟩
    · exact fun _ _ blames =>
        ⟨(tells_reportAndSkipLine _).bind fun _ _ => .pure _,
          travels_skipLineAfter blames _⟩
  · exact fun _ _ _ blames =>
      ⟨(tells_reportAndSkipLine _).bind fun _ _ => .pure _,
        travels_skipLineAfter blames _⟩

/-! ## Bodies -/

/-- A body lays out its lines up to the keyword that ends it. -/
theorem consumes_openBody
    {block : Block} (callable : block = .function ∨ block = .event)
    (opener : Token) :
    (Reader.openBody block opener).Consumes cursor fun body row =>
      SpacedCallable block body false row := by
  unfold Reader.openBody
  apply (consumes_body block).bind
  intro inside after
  apply Consumes.get
  split
  · rename_i closes
    have found := eq_terminator_of_closedBy callable closes
    apply Consumes.advance (isOrdinary_of_closedBy closes)
    apply (consumes_finishLine _).bind
    intro _ last
    apply Consumes.pure
    rintro _ ⟨line, rfl, ends⟩ row spaced
    exact .intro spaced found ends
  · exact Tells.consumes
      ((tells_reportUnterminated _ _).bind fun _ _ => .pure _)
      ((travels_reportUnterminated _ _).bind fun _ _ => .pure _)

/-- Nothing is laid out of a body that is native. -/
theorem consumes_callableBody
    {block : Block} (callable : block = .function ∨ block = .event)
    (opener : Token) (flags : Reader.CallableFlags) :
    (Reader.callableBody block opener flags).ConsumesTo cursor
      fun body after row => SpacedCallable block body flags.native row ∧
        (flags.native = true → after.kind = cursor.kind) := by
  unfold Reader.callableBody
  split
  · rename_i native
    rw [native]
    exact Cursor.Consumes.nil ⟨.native, fun _ => rfl⟩
  · rename_i bodied
    apply Ends.mono (consumes_openBody callable opener)
    intro body after consumed
    apply consumed.mono
    intro row spaced
    rw [Bool.not_eq_true] at bodied
    rw [bodied]
    exact ⟨spaced, nofun⟩

end Recovery

/-! ## Functions and events -/

namespace Reader

/-- What follows the name of a function or event is a header and what belongs
to it. -/
theorem consumes_behindName
    {α : Type} {block : Block} (callable : block = .function ∨ block = .event)
    (context : String) (opener : Token)
    {following : CallableHeader → List Statement → Reader α}
    {whole : α → Cursor → List Token → Prop}
    (rest : ∀ header body middle,
      (following header body).ConsumesTo middle fun result after behind =>
        ∀ list flags docs inside,
          Parameter.Parenthesized header.parameters list →
          CallableFlagged block header.flags.native header.flags.global
            flags →
          DocumentedEnd header.doc docs →
          (header.doc = none → inside ≠ [] → Heads (· ≠ .docComment) inside) →
          SpacedCallable block body header.flags.native inside →
          (header.flags.native = true → header.doc = none →
            middle.kind ≠ .docComment) →
          whole result after (list ++ (flags ++ docs) ++ inside ++ behind)) :
    ConsumesTo (do
      let header ← callableHeader block context
      let body ← callableBody block opener header.flags
      following header body) cursor whole := by
  apply ConsumesTo.bind_lift (Recovery.consumes_callableHeader block context)
  intro header middle
  apply ConsumesTo.bind_lift
    (Recovery.consumes_callableBody callable opener header.flags).budget
  intro body after
  apply (rest header body after).mono
  rintro result last behind holds inside ⟨⟨spaced, unmoved⟩, shape⟩ _
    ⟨⟨list, flags, docs, rfl, listed, flagged, documented⟩, undocumented⟩
  rw [← List.append_assoc]
  apply holds _ _ _ _ listed flagged documented _ spaced
  · intro native none
    rw [unmoved native]
    exact undocumented none
  · intro none more
    exact heads_of_prefix ⟨after.budget, shape.symm⟩ more (undocumented none)

/-- A function lays out its header and its body behind its type. -/
theorem consumes_function (returned : Option TypeName) :
    (function returned).ConsumesTo cursor fun found after row =>
      (∀ type, TypeName.Returned returned type →
        found.Spaced (type ++ row)) ∧
        (found.TakesComment → after.kind ≠ .docComment) := by
  unfold function
  apply ConsumesTo.bind (consumes_expect _ _ rfl)
  intro keyword after
  dsimp only
  apply ConsumesTo.bind (consumes_identifier _)
  intro name after
  apply consumes_behindName (.inl rfl)
  intro header body after
  apply Cursor.Consumes.nil
  rintro list flags docs inside listed flagged documented apart spaced
    undocumented _ ⟨token, rfl, named, rfl⟩ _ ⟨rfl, kind⟩
  refine ⟨fun type returns => ?_, fun takes => undocumented takes.1 takes.2⟩
  rw [List.append_nil]
  exact .intro returns kind named listed flagged documented apart spaced

theorem consumes_accessor :
    accessor.ConsumesTo cursor fun found after row =>
      found.Spaced row ∧ (found.TakesComment → after.kind ≠ .docComment) := by
  unfold accessor ConsumesTo
  rw [ends_bind, ends_get]
  split
  · apply (consumes_function none).mono
    rintro found after row ⟨spaced, undocumented⟩
    exact ⟨spaced [] .nothing, undocumented⟩
  · apply ConsumesTo.bind consumes_typeName
    intro type after
    apply (consumes_function (some type)).mono
    rintro found last row ⟨spaced, undocumented⟩ _ spelled
    exact ⟨spaced _ (.value spelled), undocumented⟩

theorem global_of_flagged
    {block : Block} {native global : Bool} (other : block ≠ .function)
    (flagged : CallableFlagged block native global row) : global = false := by
  induction flagged with
  | nil => rfl
  | native _ _ ih => exact ih
  | global isFunction _ _ _ => exact absurd isFunction other

/-- An event lays out its header and its body. -/
theorem consumes_event :
    event.Consumes cursor fun found row => found.Spaced row := by
  unfold event
  apply (consumes_expect _ _ rfl).bind
  intro keyword after
  apply (consumes_identifier _).bind
  intro name after
  apply consumes_behindName (.inr rfl)
  intro header body after
  apply Cursor.Consumes.nil
  rintro list flags docs inside listed flagged documented apart spaced _ _
    ⟨token, rfl, named, rfl⟩ _ ⟨rfl, kind⟩
  rw [List.append_nil]
  rw [global_of_flagged (by nofun) flagged] at flagged
  exact .intro kind named listed flagged documented apart spaced

end Reader

/-! ## Declarations by themselves -/

/-- The tokens of a declaration, which is read from them without a report, and
of the gap behind it.  No comment in the gap belongs to the declaration. -/
structure Lines
    {α : Type} (reader : Reader α) (takesComment : α → Prop) where
  tree : α
  row : List Token
  gap : List Token
  reads : reader.ReadsAlone row (· = tree)
  gaps : IsGap gap
  apart : takesComment tree → gap ≠ [] → Heads (· ≠ .docComment) gap

abbrev FunctionLines := Lines Reader.accessor Function.TakesComment

abbrev EventLines := Lines Reader.event Event.TakesComment

def Lines.tokens {α : Type} {reader : Reader α} {takesComment : α → Prop}
    (lines : Lines reader takesComment) : List Token :=
  lines.row ++ lines.gap

theorem FunctionLines.spaced (lines : FunctionLines) :
    lines.tree.Spaced lines.row := by
  have consumes (cursor : Cursor) :
      Reader.accessor.Consumes cursor fun found row => found.Spaced row :=
    Reader.consumes_accessor.mono fun _ _ _ known => known.1
  obtain ⟨_, spaced, rfl⟩ := lines.reads.consumed consumes
  exact spaced

theorem EventLines.spaced (lines : EventLines) :
    lines.tree.Spaced lines.row := by
  obtain ⟨_, spaced, rfl⟩ := lines.reads.consumed fun _ => Reader.consumes_event
  exact spaced

end PapyrusScript
