import PapyrusScript.Proofs.Isolation.Callable
import PapyrusScript.Proofs.Spaced.Body
import PapyrusScript.Proofs.Transcript.Division

/-!
# Functions, events and properties cover their division

The header of a function or event stays in its line.  If the text goes on
behind it, the line has been broken, and the body starts there.

The functions of a property stand in its block in either order.  All of them
are kept: one that is not is reported.
-/

namespace PapyrusScript

open Cursor

section Callables

variable {cursor : Cursor}
variable {row : List Token}

/-! ## The tokens of a function or event -/

def IsHeader (row : List Token) : Prop :=
  ∃ front ending, row = front ++ ending ∧ InLine front ∧ Paired front ∧
    IsGap ending

theorem IsHeader.aside (header : IsHeader row) : Aside row := by
  obtain ⟨front, ending, rfl, inLine, paired, ends⟩ := header
  exact Aside.append ⟨inLine.apart, paired⟩ (.of_gap ends)

/-- A row with a line break has a first one. -/
theorem exists_first_newline
    {token : Token} (member : token ∈ row) (breaks : token.kind = .newline) :
    ∃ before line behind, row = before ++ line :: behind ∧
      line.kind = .newline ∧ ∀ other ∈ before, other.kind ≠ .newline := by
  induction row with
  | nil => cases member
  | cons first rest ih =>
    by_cases found : first.kind = .newline
    · exact ⟨[], first, rest, rfl, found, List.forall_mem_nil _⟩
    · have later : token ∈ rest := by
        rcases List.mem_cons.1 member with rfl | later
        · exact absurd breaks found
        · exact later
      obtain ⟨before, line, behind, rfl, breaks, plain⟩ := ih later
      exact ⟨first :: before, line, behind, rfl, breaks,
        List.forall_mem_cons.2 ⟨found, plain⟩⟩

/-- A header with a line break ends there, but for its comment. -/
theorem IsHeader.exists_line
    {token : Token} (header : IsHeader row) (member : token ∈ row)
    (breaks : token.kind = .newline) :
    ∃ front line docs, row = front ++ line :: docs ∧ Aside front ∧
      (∀ other ∈ front, other.kind ≠ .newline) ∧ line.kind = .newline ∧
        IsGap docs := by
  obtain ⟨front, ending, rfl, inLine, paired, ends⟩ := header
  have within : token ∈ ending := by
    rcases List.mem_append.1 member with earlier | within
    · exact absurd breaks (inLine.ne_newline token earlier)
    · exact within
  obtain ⟨before, line, docs, rfl, breaksToo, plain⟩ :=
    exists_first_newline within breaks
  obtain ⟨earlier, later⟩ := List.forall_mem_append.1 ends
  have aside := Aside.append ⟨inLine.apart, paired⟩ (.of_gap earlier)
  refine ⟨front ++ before, line, docs, ?_, aside, ?_, breaksToo,
    (List.forall_mem_cons.1 later).2⟩
  · rw [List.append_assoc]
  · exact List.forall_mem_append.2 ⟨inLine.ne_newline, plain⟩

def IsBody (block : Block) (inside : List Statement) (row : List Token) :
    Prop :=
  ∃ text closer tail, row = text ++ closer :: tail ∧
    Statement.BodyFills inside text ∧ Paired text ∧
      closer.kind = .keyword block.terminator ∧ Aside tail

/-- No body holds a token that ends a function or event. -/
theorem Transcribes.ne_terminator
    {block : Block} (callable : block = .function ∨ block = .event)
    {inside : List Statement}
    (transcribes : Transcribes row (Statement.bodyTranscript inside)) :
    ∀ token ∈ row, token.kind ≠ .keyword block.terminator := by
  intro token member ends
  have ofBody := transcribes.isOfBody token member
  rw [ends] at ofBody
  rcases callable with rfl | rfl <;> cases ofBody

/-- The tokens behind the name of a function or event. -/
inductive IsRemainder (block : Block) :
    Bool → List Statement → List Token → Prop
  | native {row : List Token} (aside : Aside row) :
      IsRemainder block true [] row
  | bodied {inside : List Statement} {front docs row : List Token}
      {line : Token} (plain : Aside front)
      (oneLine : ∀ token ∈ front, token.kind ≠ .newline)
      (breaks : line.kind = .newline) (gap : IsGap docs)
      (body : IsBody block inside row) :
      IsRemainder block false inside (front ++ line :: docs ++ row)

/-- A keyword, a name and what remains are a function or an event. -/
theorem IsRemainder.placed {callable : Callable} {opener name : Token}
    (remainder : IsRemainder callable.block callable.native callable.body row)
    (blocks : callable.block = .function ∨ callable.block = .event)
    (opens : opener.kind = .keyword callable.block.opener)
    (named : name.kind = .identifier)
    (same : callable.name = ⟨name.text, name.span⟩) :
    Placed [callable] (opener :: name :: row) := by
  obtain ⟨block, called, native, inside⟩ := callable
  cases remainder with
  | native aside =>
    refine ⟨.native .nil opens named same rfl (.between aside.apart),
      List.forall_mem_singleton.2 nofun, ?_⟩
    exact .cons opens rfl (.cons named rfl aside.paired)
  | @bodied _ front docs _ line plain oneLine breaks gap body =>
    obtain ⟨text, closer, tail, rfl, fills, paired, closes, aside⟩ := body
    have whole := fills.after gap
    have transcribes := Statement.transcribes_of_bodyFills _ whole
    constructor
    · have divided := Divided.bodied Apart.nil opens named same rfl plain.apart
        oneLine breaks transcribes (transcribes.ne_terminator blocks) closes
        (.between aside.apart)
      simpa only [List.nil_append, List.append_assoc, List.cons_append]
        using divided
    · refine List.forall_mem_singleton.2 fun _ => ?_
      refine ⟨opener :: name :: front, line, docs ++ text, closer, tail, ?_,
        breaks, whole, closes⟩
      simp only [List.append_assoc, List.cons_append]
    · have header := plain.paired.append (.cons breaks rfl gap.paired)
      have last := paired.append (.cons closes rfl aside.paired)
      exact .cons opens rfl (.cons named rfl (header.append last))

/-! ## Headers -/

namespace Recovery

open Reader

/-- A header is a line with a comment at most on the next one. -/
theorem covers_callableHeader (block : Block) (context : String) :
    (callableHeader block context).Covers cursor fun _ row =>
      IsHeader row := by
  unfold callableHeader
  apply parenthesized_parameters.bind
  intro found middle
  obtain ⟨parameters, failure⟩ := found
  cases failure with
  | some diagnostic =>
    apply Tells.covers
    exact (tells_reportAndSkipLine _).bind fun _ _ => .pure _
  | none =>
    apply (flagged_callableFlags block).bind
    intro flags after
    apply Covers.run_bind (covers_endOfDeclaration context)
    · intro doc last
      apply Covers.pure
      intro ending ends row flagged before intact
      have listed := intact rfl
      refine ⟨before ++ row, ending, ?_,
        listed.ofValue.inLine.append flagged.inLine,
        listed.enclosed.paired.append flagged.enclosed.paired, ends⟩
      rw [List.append_nil, List.append_assoc]
    · exact fun _ _ =>
        (tells_reportAndSkipLine _).bind fun _ _ => .pure _

/-! ## Bodies -/

theorem kind_of_travels
    {α : Type} {reader : Recovery α} (travels : reader.Travels cursor)
    (atEnd : cursor.kind = .endOfText) :
    reader.Ends cursor fun _ after => after.kind = .endOfText := by
  apply Ends.mono travels
  rintro _ after ⟨⟨passed, path⟩, _⟩
  obtain ⟨shape, inside⟩ := path.budget_eq
  cases passed with
  | nil => exact (congrArg Token.kind (List.cons.inj shape).1).symm.trans atEnd
  | cons token passed =>
    have first : cursor.current = token := (List.cons.inj shape).1
    exact absurd (first ▸ atEnd) (inside token List.mem_cons_self)

theorem eq_terminator_of_closedBy
    {block : Block} (callable : block = .function ∨ block = .event)
    {kind : Kind} (closes : block.closedBy kind = true) :
    kind = .keyword block.terminator := by
  cases kind with
  | keyword word =>
    rcases callable with rfl | rfl <;>
      simpa [Block.closedBy, Block.closers] using closes
  | _ => cases closes

/-- A body at the end of the text is reported. -/
theorem tells_openBody_of_endOfText
    {block : Block} (callable : block = .function ∨ block = .event)
    (opener : Token) (atEnd : cursor.kind = .endOfText) :
    (openBody block opener).Tells cursor := by
  have stays := kind_of_travels (travels_body block cursor) atEnd
  unfold openBody Tells
  apply (Ends.and stays (travels_body block cursor)).bind
  intro inside after reached
  rw [ends_bind, ends_get]
  rw [if_neg]
  · apply Ends.mono ((tells_reportUnterminated block opener).bind
      fun _ _ => .pure _)
    exact fun _ _ told => Nat.lt_of_le_of_lt reached.2.grows.reported told
  · intro closes
    have found := eq_terminator_of_closedBy callable closes
    cases found.symm.trans reached.1

/-- A body ends with the first terminator behind it. -/
theorem covers_openBody
    {block : Block} (callable : block = .function ∨ block = .event)
    (opener : Token) :
    (openBody block opener).Covers cursor (IsBody block) := by
  unfold openBody
  apply Ends.bind (Ends.and (fills_body block) (consumes_body block))
  rintro inside middle ⟨filled, consumed⟩
  rw [ends_bind, ends_get]
  split
  · rename_i closes
    have found := eq_terminator_of_closedBy callable closes
    have text : cursor.Covers middle fun row =>
        Statement.BodyFills inside row ∧ Paired row := by
      apply (filled.and consumed.covers).mono
      rintro row ⟨fills, spaced⟩
      exact ⟨fills, (spaced (by rw [found]; nofun)).1.paired⟩
    apply Covers.behind text
    apply Covers.advance (by simp [found])
    apply (covers_finishLine _).bind
    intro _ last
    apply Covers.pure
    rintro line breaks row ⟨fills, paired⟩
    rw [List.append_nil]
    exact ⟨row, middle.current, line, rfl, fills, paired, found,
      .of_newlines breaks⟩
  · apply Covers.behind filled
    apply Tells.covers
    exact (tells_reportUnterminated _ _).bind fun _ _ => .pure _

end Recovery

/-! ## Functions and events -/

namespace Reader

/-- What follows the name is a header and, unless there is none, a body. -/
theorem covers_afterName
    {α : Type} {block : Block} (callable : block = .function ∨ block = .event)
    (context : String) (opener : Token)
    {following : CallableHeader → List Statement → Reader α}
    {whole : α → List Token → Prop}
    (rest : ∀ header inside after,
      (following header inside).Covers after fun result row =>
        ∀ before, IsRemainder block header.flags.native inside before →
          whole result (before ++ row)) :
    Covers (do
      let header ← callableHeader block context
      let inside ← callableBody block opener header.flags
      following header inside) cursor whole := by
  unfold Covers
  rw [ends_bind, ends_lift]
  apply Recovery.Ends.mono <| Recovery.Ends.and
    (Recovery.covers_callableHeader block context)
    (Recovery.behind_callableHeader block context cursor)
  intro header middle reached
  obtain ⟨covered, behind⟩ := reached
  have further (inside : List Statement) (after : Cursor) :=
    rest header inside after
  unfold callableBody
  cases isNative : header.flags.native with
  | true =>
    -- a native one has no body, and its header starts nothing else
    apply Covers.behind covered
    show (following header []).Covers middle _
    apply (rest header [] middle).mono
    intro result row holds before isHeader
    exact holds before (isNative ▸ .native isHeader.aside)
  | false =>
    rw [if_neg (by nofun)]
    by_cases atEnd : middle.kind = .endOfText
    · rw [ends_bind, ends_lift]
      apply Recovery.Ends.mono
        (Recovery.tells_openBody_of_endOfText callable opener atEnd)
      intro inside after told
      have more := Nat.lt_of_le_of_lt covered.grows told
      apply Ends.mono (further inside after)
      · exact fun _ _ last => .of_told (Nat.lt_of_lt_of_le more last.grows)
      · exact fun _ _ grown => Nat.le_trans (Nat.le_of_lt more) grown
    · obtain ⟨passed, line, shape, breaks⟩ := behind.resolve_left atEnd
      have divided : cursor.Covers middle fun row =>
          ∃ front line docs, row = front ++ line :: docs ∧ Aside front ∧
            (∀ other ∈ front, other.kind ≠ .newline) ∧
              line.kind = .newline ∧ IsGap docs := by
        apply covered.budget.mono
        rintro row ⟨isHeader, same⟩
        have row_eq : passed ++ [line] = row := by
          rw [shape, ← List.singleton_append, ← List.append_assoc] at same
          exact List.append_cancel_right same
        exact isHeader.exists_line (row_eq ▸ by simp) breaks
      apply Covers.behind divided
      apply (Covers.lift (Recovery.covers_openBody callable opener)).bind
      intro inside after
      apply (further inside after).mono
      rintro result row holds body isBody _
        ⟨front, line, docs, rfl, plain, oneLine, breaks, gap⟩
      rw [← List.append_assoc]
      apply holds
      rw [isNative]
      exact .bodied plain oneLine breaks gap isBody

/-- A function is the one callable of its row. -/
theorem covers_function (returnType : Option TypeName) :
    (function returnType).Covers cursor fun found row =>
      Placed [found.callable] row := by
  unfold function
  apply (covers_expect _ _ (by nofun)).bind
  intro keyword after
  dsimp only
  apply (covers_identifier _).bind
  intro name after
  apply covers_afterName (.inl rfl)
  intro header inside after
  apply Covers.get
  apply Covers.pure
  rintro remainder isRemainder _ ⟨token, rfl, named, rfl⟩ _ ⟨rfl, opens⟩
  rw [List.append_nil]
  exact isRemainder.placed (.inl rfl) opens named rfl

theorem covers_event :
    event.Covers cursor fun found row => Placed [found.callable] row := by
  unfold event
  apply (covers_expect _ _ (by nofun)).bind
  intro keyword after
  apply (covers_identifier _).bind
  intro name after
  apply covers_afterName (.inr rfl)
  intro header inside after
  apply Covers.get
  apply Covers.pure
  rintro remainder isRemainder _ ⟨token, rfl, named, rfl⟩ _ ⟨rfl, opens⟩
  rw [List.append_nil]
  exact isRemainder.placed (.inr rfl) opens named rfl

end Reader

end Callables

/-! ## Properties cover their functions -/

section Properties

variable {cursor : Cursor}

/-! ## Header lines -/

namespace Recovery

open Reader

/-- No function starts in the header line of a property. -/
theorem covers_propertyLine :
    propertyLine.Covers cursor fun line row =>
      line.intact = true ∧ Aside row := by
  unfold propertyLine
  apply spelled_propertyHeader.bind
  intro found after
  obtain ⟨header, failure⟩ := found
  apply Covers.get
  cases failure with
  | some diagnostic =>
    apply Tells.covers
    exact (tells_reportAndSkipLine _).bind fun _ _ => .pure _
  | none =>
    apply Covers.run_bind (covers_endOfDeclaration _)
    · intro doc last
      apply Covers.pure
      intro ending ends before intact
      have spelled := intact rfl
      rw [List.append_nil]
      exact ⟨rfl, Aside.append ⟨spelled.inLine.apart, spelled.paired⟩
        (.of_gap ends)⟩
    · intro diagnostic last
      exact (tells_reportAndSkipLine _).bind fun _ _ => .pure _

end Recovery

/-! ## Blocks -/

/-- The functions of a property that are kept are those of a list. -/
def Reader.Accessors.Holds
    (accessors : Reader.Accessors) (functions : List Function) : Prop :=
  functions.Perm (accessors.getter.toList ++ accessors.setter.toList)

def Reader.Accessors.Row
    (accessors : Reader.Accessors) (row : List Token) : Prop :=
  ∃ functions, accessors.Holds functions ∧
    Placed (functions.map Function.callable) row

theorem Reader.Accessors.Row.after
    {accessors : Reader.Accessors} {row gap : List Token}
    (holds : accessors.Row row) (aside : Aside gap) :
    accessors.Row (row ++ gap) := by
  obtain ⟨functions, kept, placed⟩ := holds
  exact ⟨functions, kept, placed.before aside⟩

theorem covers_accessor :
    Reader.accessor.Covers cursor fun found row =>
      Placed [found.callable] row := by
  unfold Reader.accessor
  apply Reader.Covers.get
  split
  · exact Reader.covers_function none
  · apply Reader.covers_typeName.bind
    intro type after
    apply (Reader.covers_function (some type)).mono
    exact fun _ _ placed _ spelled => placed.after spelled.aside

namespace Recovery

open Reader

theorem covers_complainIf (applies : Bool) (found : Function) (cause : Cause) :
    (complainIf applies found cause).Covers cursor fun _ row =>
      row = [] ∧ applies = false := by
  unfold complainIf
  split
  · exact (tells_complain _ _).covers
  · rename_i fits
    exact .pure ⟨rfl, by simpa using fits⟩

/-- A function of a property that is not reported is kept. -/
theorem covers_placeAccessor
    (property : String) (accessors : Reader.Accessors) (found : Function) :
    (placeAccessor property accessors found).Covers cursor
      fun placed row => row = [] ∧ ∀ functions, accessors.Holds functions →
        placed.Holds (functions ++ [found]) := by
  unfold placeAccessor
  dsimp only
  split
  · apply (covers_complainIf _ _ _).bind
    intro _ after
    apply (covers_complainIf _ _ _).bind
    intro _ last
    apply Covers.pure
    rintro _ ⟨rfl, free⟩ _ ⟨rfl, _⟩
    refine ⟨rfl, fun functions holds => ?_⟩
    have nothing : accessors.getter = none := by simpa using free
    unfold Reader.Accessors.Holds at holds ⊢
    rw [nothing] at holds ⊢
    exact (holds.append_right [found]).trans List.perm_append_comm
  · split
    · apply (covers_complainIf _ _ _).bind
      intro _ after
      apply (covers_complainIf _ _ _).bind
      intro _ last
      apply Covers.pure
      rintro _ ⟨rfl, free⟩ _ ⟨rfl, _⟩
      refine ⟨rfl, fun functions holds => ?_⟩
      have nothing : accessors.setter = none := by simpa using free
      unfold Reader.Accessors.Holds at holds ⊢
      rw [nothing, Option.toList_none, List.append_nil] at holds
      rw [nothing]
      exact holds.append_right [found]
    · apply (covers_complainIf _ _ _).bind
      intro _ after
      apply Covers.pure
      rintro _ ⟨rfl, never⟩
      cases never

/-- The functions of a property stand in the tokens passed so far. -/
theorem covers_nextAccessor
    (keyword : Token) (property : String) (accessors : Reader.Accessors) :
    (nextAccessor keyword property accessors).Covers cursor
      fun decision row => ∀ before, accessors.Row before →
        Step.Adds Reader.Accessors.Row Reader.Accessors.Row decision
          (before ++ row) := by
  unfold nextAccessor
  apply covers_skipNewlines.bind
  intro _ after
  apply Covers.get
  split
  · rename_i word
    apply Covers.advance (by simp [word])
    apply (covers_finishLine _).bind
    intro _ last
    apply Covers.pure
    intro line breaks before newlines row holds
    rw [List.append_nil]
    apply holds.after
    exact (Aside.of_newlines newlines).append <|
      (Aside.of_kind word rfl rfl).append (.of_newlines breaks)
  · split
    · rename_i doc
      apply Covers.advance (by simp [doc])
      apply Covers.pure
      intro before newlines row holds
      apply holds.after
      exact (Aside.of_newlines newlines).append (.of_kind doc rfl rfl)
    · split
      · apply Covers.run_bind covers_accessor
        · intro found last
          apply (covers_placeAccessor property accessors found).bind
          intro placed last
          apply Covers.pure
          rintro _ ⟨rfl, keeps⟩ row inRow before newlines whole
            ⟨functions, kept, inWhole⟩
          refine ⟨functions ++ [found], keeps functions kept, ?_⟩
          rw [List.append_nil, List.append_nil, List.map_append]
          exact inWhole.append (inRow.after (.of_newlines newlines))
        · exact fun _ _ =>
            (tells_reportAndSkipLine _).bind fun _ _ => .pure _
      · split
        · apply Tells.covers
          exact (tells_reportUnterminated _ _).bind fun _ _ => .pure _
        · apply Covers.unexpected
          intro diagnostic
          apply Tells.covers
          exact (tells_reportAndSkipLine _).bind fun _ _ => .pure _

/-- The block of a property holds its functions and nothing else. -/
theorem covers_propertyBlock (keyword : Token) (property : String) :
    (propertyBlock keyword property).Covers cursor
      Reader.Accessors.Row := by
  unfold propertyBlock accessorList
  have nothing : (Reader.Accessors.mk none none).Row [] :=
    ⟨[], .nil, .between .nil⟩
  have list : (inBlock .property
      (MonadState.get >>= fun cursor =>
        loop (nextAccessor keyword property) cursor.budget
          ⟨none, none⟩)).Covers cursor Reader.Accessors.Row := by
    apply Covers.inBlock
    apply Covers.get
    apply (Covers.loop (proceeds_nextAccessor keyword property)
      (fun accessors _ => covers_nextAccessor keyword property accessors)
      _).mono
    exact fun _ _ holds => holds [] nothing
  apply list.bind
  intro accessors after
  unfold reportNoAccessor
  split
  · apply Tells.covers
    exact (tells_complain _ _).bind fun _ _ => .pure _
  · apply Covers.pure
    intro row holds
    rwa [List.append_nil]

/-! ## Properties -/

/-- A header line that is not broken does not stand alone. -/
theorem covers_standsAlone (line : Reader.PropertyLine) :
    (standsAlone line).Covers cursor fun alone row =>
      line.intact = true → alone = false ∧ row = [] := by
  unfold standsAlone
  split
  · exact .pure fun _ => ⟨rfl, rfl⟩
  · rename_i broken
    simp only [Bool.or_eq_true, not_or] at broken
    apply covers_skipNewlines.bind
    intro _ after
    apply Covers.get
    apply Covers.pure
    exact fun _ _ intact => absurd intact broken.1

/-- An automatic property has no functions. -/
theorem covers_automaticSource
    (property : String) (keyword : Token) (line : Reader.PropertyLine) :
    (automaticSource property keyword line).Covers cursor
      fun source row => line.intact = true →
        source.accessors = [] ∧ row = [] := by
  unfold automaticSource
  split
  · split
    · exact .pure fun _ => ⟨rfl, rfl⟩
    · unfold reportMissingValue
      split
      · apply Tells.covers
        exact (tells_complain _ _).bind fun _ _ => .pure _
      · rename_i broken
        exact .pure fun intact => absurd intact broken
  · exact .pure fun _ => ⟨rfl, rfl⟩

/-- The functions of a property are those in its block, in some order. -/
theorem covers_fullSource
    (property : String) (keyword : Token) (line : Reader.PropertyLine) :
    (fullSource property keyword line).Covers cursor
      fun source row => ∃ functions : List Function,
        functions.Perm source.accessors ∧
        Placed (functions.map Function.callable) row := by
  unfold fullSource reportInitialValue
  split
  · apply Tells.covers
    apply (tells_complain _ _).bind
    intro _ after
    exact (travels_propertyBlock _ _ after).grows.bind fun _ _ => .pure _
  · rw [pure_bind]
    apply (covers_propertyBlock _ _).bind
    intro accessors after
    apply Covers.pure
    rintro row ⟨functions, kept, placed⟩
    rw [List.append_nil]
    exact ⟨functions, kept, placed⟩

end Recovery

/-- The functions of a property are placed in its tokens. -/
theorem Reader.covers_propertyAfter (type : TypeName) :
    (propertyAfter type).Covers cursor fun found row =>
      ∃ callables, (Member.property found).Holds callables ∧
        Placed callables row := by
  unfold propertyAfter
  apply (covers_expect _ _ (by nofun)).bind
  intro keyword after
  apply (covers_identifier _).bind
  intro name after
  apply (Covers.lift Recovery.covers_propertyLine).bind
  intro line after
  apply (Covers.lift (Recovery.covers_standsAlone line)).bind
  intro alone after
  split
  · rename_i stands
    apply Covers.pure
    rintro _ apart _ ⟨intact, _⟩
    cases stands.symm.trans (apart intact).1
  · split
    · rename_i automatic _
      apply (Covers.lift
        (Recovery.covers_automaticSource _ automatic line)).bind
      intro source last
      apply Covers.pure
      rintro _ automatic _ apart header ⟨intact, aside⟩ _
        ⟨token, rfl, named, _⟩ _ ⟨rfl, opens⟩
      obtain ⟨none, rfl⟩ := automatic intact
      obtain ⟨_, rfl⟩ := apart intact
      have kept : List.Perm [] source.accessors := by rw [none]
      refine ⟨_, .property kept, .between ?_⟩
      simp only [List.append_nil]
      exact (Aside.of_kind opens rfl rfl).append <|
        (Aside.of_kind named rfl rfl).append aside
    · apply (Covers.lift (Recovery.covers_fullSource _ _ line)).bind
      intro source last
      apply Covers.get
      apply Covers.pure
      rintro block ⟨functions, kept, placed⟩ _ apart header
        ⟨intact, aside⟩ _ ⟨token, rfl, named, _⟩ _ ⟨rfl, opens⟩
      obtain ⟨_, rfl⟩ := apart intact
      refine ⟨_, .property kept, ?_⟩
      rw [List.append_nil, List.nil_append]
      exact ((placed.after aside).after (.of_kind named rfl rfl)).after
        (.of_kind opens rfl rfl)

end Properties

end PapyrusScript
