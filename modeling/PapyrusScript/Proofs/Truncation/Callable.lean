import PapyrusScript.Proofs.Truncation.Body

/-!
# Functions and events of a text that is cut

A function or an event has a body unless its header makes it native.  The
header does so if its line says so: neither the parameters nor a comment
contain the keyword.
-/

namespace PapyrusScript

open Cursor Cut

variable {cut : Cut} {cursor twin : Cursor} {outer : List Opening}
  {row line more before left : List Token} {keyword newline name : Token}
  {block : Block}

/-! ## What the line of a header says -/

namespace Opening

theorem mentions_append (word : Keyword) (first second : List Token) :
    mentions word (first ++ second) = (mentions word first || mentions word second) :=
  List.any_append

theorem mentions_eq_false
    {word : Keyword} (other : ∀ token ∈ row, token.kind ≠ .keyword word) :
    mentions word row = false :=
  List.any_eq_false.2 fun token member =>
    by simpa using other token member

theorem mentions_of_ofValue {word : Keyword} (ofValue : OfValue row)
    (flag : (Kind.keyword word).isOfValue = false) : mentions word row = false := by
  apply mentions_eq_false
  intro token member found
  have inside := ofValue token member
  rw [found, flag] at inside
  cases inside

theorem mentions_of_isGap (word : Keyword) (gaps : IsGap row) :
    mentions word row = false := by
  apply mentions_eq_false
  intro token member found
  have between := gaps token member
  rw [found] at between
  cases between

end Opening

/-- Flags make a function native exactly if the keyword is among them. -/
theorem CallableFlagged.mentions_native {native global : Bool}
    (flagged : CallableFlagged block native global row) :
    Opening.mentions .native row = native := by
  induction flagged with
  | nil => rfl
  | native kind _ _ => simp [Opening.mentions, kind]
  | global _ kind _ ih =>
    rw [← ih]
    simp [Opening.mentions, kind]

/-- Only the flags of a header say whether it is native. -/
theorem mentions_native_of_header
    {name : Token} {list flags ending : List Token}
    {parameters : List Parameter} {native global : Bool}
    (named : name.kind = .identifier)
    (listed : Parameter.Parenthesized parameters list)
    (flagged : CallableFlagged block native global flags)
    (gaps : IsGap ending) :
    Opening.mentions .native (name :: (list ++ (flags ++ ending))) =
      native := by
  have noName : Opening.mentions .native [name] = false :=
    Opening.mentions_of_ofValue (.cons named rfl .nil) rfl
  rw [← List.singleton_append, Opening.mentions_append,
    Opening.mentions_append, Opening.mentions_append, noName,
    Opening.mentions_of_ofValue listed.ofValue rfl,
    Opening.mentions_of_isGap _ gaps, flagged.mentions_native]
  simp

/-! ## In front of a keyword -/

namespace Cut

/-- What a line may hold in front of the keyword that opens a block, and the
block that it opens then. -/
structure Leads
    (block : Block) (found : List Token → Option Opening)
    (before : List Token) (keyword : Token) : Prop where
  kind : keyword.kind = .keyword block.opener
  oneLine : OneLine before
  plain : IsPlain before
  opens : ∀ line, Opening.ofLine? (before ++ keyword :: line) = found line
  names : ∀ line opening, found line = some opening → opening.keyword = keyword

section Leads

variable {found : List Token → Option Opening}
  (leads : Leads block found before keyword)

include leads

theorem Leads.oneLine_append (oneLine : OneLine line) :
    OneLine (before ++ keyword :: line) := by
  refine List.forall_mem_append.2
    ⟨leads.oneLine, List.forall_mem_cons.2 ⟨?_, oneLine⟩⟩
  rw [leads.kind]
  rfl

theorem Leads.isPlain_append : IsPlain (before ++ keyword :: line) := by
  intro first rest same
  cases before with
  | nil =>
    obtain ⟨rfl, _⟩ := List.cons.inj same
    rw [leads.kind]
    refine ⟨nofun, fun other => ?_⟩
    cases block <;> cases other <;> nofun
  | cons token before =>
    obtain ⟨rfl, _⟩ := List.cons.inj same
    exact leads.plain token before rfl

/-- A line that leads to a block opens it if it is kept as a whole. -/
theorem Leads.behind
    (opens : cut.Opens outer (before ++ keyword :: (line ++ newline :: more)))
    (oneLine : OneLine line) (breaks : newline.kind = .newline) :
    cut.Opens ((found line).toList ++ outer) more := by
  have shape : cut.Opens outer
      ((before ++ keyword :: line) ++ newline :: more) := by
    rwa [List.append_assoc, List.cons_append]
  have same := leads.opens line
  cases isFound : found line with
  | none =>
    rw [isFound] at same
    exact shape.plain (leads.oneLine_append oneLine) breaks
      leads.isPlain_append same
  | some opening =>
    rw [isFound] at same
    apply shape.push (leads.oneLine_append oneLine) breaks same
    rw [leads.names line opening isFound]
    simp

/-- A last line that leads to a block opens it if it is closed. -/
theorem Leads.goal (opens : cut.Opens outer (before ++ keyword :: line))
    (oneLine : OneLine line) :
    cut.goal = if cut.closed then (found line).toList ++ outer else outer := by
  have whole := leads.oneLine_append oneLine
  have same := leads.opens line
  cases closed : cut.closed with
  | false => exact opens.goal_of_cutOff whole leads.isPlain_append closed
  | true =>
    cases isFound : found line with
    | none =>
      rw [isFound] at same
      exact opens.goal_plain whole leads.isPlain_append fun _ => same
    | some opening =>
      rw [isFound] at same
      exact opens.goal_push whole closed same

end Leads

end Cut

/-! ## Headers -/

/-- The blocks that are open behind the header of a function or an event. -/
def Opening.behindHeader (opening : Opening) (outer : List Opening)
    (header : Reader.CallableHeader) : List Opening :=
  if header.flags.native then outer else opening :: outer

namespace Recovery

open Reader

theorem toList_ofCallable? (keyword : Token) (line : List Token) :
    (Opening.ofCallable? block keyword line).toList ++ outer =
      if Opening.mentions .native line then outer
      else ⟨block, keyword⟩ :: outer := by
  unfold Opening.ofCallable?
  split <;> rfl

/-- A header in the last line is only native if its line says so. -/
theorem native_of_oneLine
    (there : twin.budget = row ++ [cut.last]) (context : String) :
    (callableHeader block context).Ends twin fun header _ =>
      header.flags.native = true → Opening.mentions .native row = true := by
  have shape : twin.budget = (row ++ [cut.last]) ++ [] := by
    rw [there, List.append_nil]
  have faces := Fork.faces_around shape fun token last => by
    rw [List.getLast?_concat] at last
    rw [← Option.some.inj last, cut.ends]
    rfl
  apply (native_callableHeader block context ⟨_, by simp, faces⟩).mono
  intro header _ native isNative
  obtain ⟨token, member, word⟩ := native isNative
  rcases List.mem_append.1 member with within | last
  · exact List.any_eq_true.2 ⟨token, within, by simp [word]⟩
  · rw [List.mem_singleton.1 last, cut.ends] at word
    cases word

/-- The header of a function or an event in the last line. -/
theorem unwinds_callableHeader
    (leads : Leads block (Opening.ofCallable? block keyword) before keyword)
    (opens : cut.Opens outer (before ++ keyword :: name :: row))
    (named : name.kind = .identifier) (abreast : cut.Abreast row cursor twin)
    (oneLine : OneLine row) (context : String) :
    (callableHeader block context).Unwinds cut
      (Opening.behindHeader ⟨block, keyword⟩ outer) twin := by
  have within := abreast.inLastLine oneLine
  have passes := within.ends (travels_callableHeader block context twin)
    (behind_callableHeader block context twin)
  apply Ends.mono (passes.and (native_of_oneLine abreast.there context))
  rintro header last ⟨⟨atEnd, silent⟩, native⟩
  have nameInLine : OneLine (name :: row) :=
    List.forall_mem_cons.2 ⟨by rw [named]; rfl, oneLine⟩
  have goal := leads.goal opens nameInLine
  have mentions : Opening.mentions .native (name :: row) =
      Opening.mentions .native row := by
    simp [Opening.mentions, named]
  unfold Opening.ofCallable? at goal
  rw [mentions] at goal
  unfold Opening.behindHeader
  split
  · rename_i isNative
    rw [native isNative, if_pos rfl, Option.toList_none, List.nil_append,
      ite_self] at goal
    exact .of_goal atEnd silent goal
  · by_cases counts : cut.closed = true ∧ Opening.mentions .native row = false
    · rw [counts.1, counts.2, if_pos rfl, if_neg Bool.false_ne_true] at goal
      exact .of_goal atEnd silent goal
    · apply Spent.of_extra opens (leads.oneLine_append nameInLine) (by simp)
        atEnd silent
      rw [goal]
      cases closed : cut.closed <;>
        cases native : Opening.mentions .native row <;> simp_all

def callableEnd (context : String) (parameters : List Parameter)
    (flags : Reader.CallableFlags) : Recovery Reader.CallableHeader := do
  match ← (endOfDeclaration context).run with
  | .ok doc => return ⟨parameters, flags, doc⟩
  | .error diagnostic =>
    reportAndSkipLine diagnostic
    return ⟨parameters, flags, none⟩

theorem grows_callableEnd (context : String) (parameters : List Parameter)
    (flags : Reader.CallableFlags) (cursor : Cursor) :
    (callableEnd context parameters flags).Grows cursor := by
  apply Grows.run_bind (travels_endOfDeclaration context cursor)
  intro answer middle
  split
  · exact .pure _
  · exact (grows_reportAndSkipLine _).bind fun _ _ => .pure _

/-- Behind a header its block is open, unless it is native. -/
theorem tears_callableHeader
    (leads : Leads block (Opening.ofCallable? block keyword) before keyword)
    (opens : cut.Opens outer (before ++ keyword :: name :: row))
    (named : name.kind = .identifier) (abreast : cut.Abreast row cursor twin)
    (context : String) :
    (callableHeader block context).Tears cut
      (Opening.behindHeader ⟨block, keyword⟩ outer) cursor twin := by
  rcases abreast.cases_line with
    oneLine | ⟨line, newline, more, rfl, oneLine, breaks⟩
  -- the cut falls in the line of the header itself
  · exact (unwinds_callableHeader leads opens named abreast oneLine
      context).tears
  -- the line is whole, so its flags say whether a block is open behind it
  have nameInLine : OneLine (name :: line) :=
    List.forall_mem_cons.2 ⟨by rw [named]; rfl, oneLine⟩
  have behind := leads.behind opens nameInLine breaks
  have travelsParameters (cursor : Cursor) : Reader.parameters.Travels cursor :=
    Ends.mono (travelsTo_parameters cursor) fun _ _ reached => reached.1
  unfold callableHeader
  apply Tears.along abreast (agrees_parameters (abreast.amid breaks)) ?_
    travelsParameters
  · rintro ⟨parameters, failure⟩ middle
    cases failure with
    | some diagnostic =>
      exact (grows_reportAndSkipLine _).bind fun _ _ => .pure _
    | none =>
      exact (travels_callableFlags block middle).grows.bind fun flags _ =>
        grows_callableEnd context parameters flags _
  · rintro ⟨parameters, failure⟩ left after twinAfter ran _ settled abreastAfter
    cases failure with
    | some diagnostic =>
      exact Tells.tears ((tells_reportAndSkipLine _).bind fun _ _ => .pure _)
    | none =>
      obtain ⟨params, split, listed⟩ :=
        parenthesized_parameters.exists_row ran abreastAfter.silent
      apply Tears.along abreastAfter (agrees_callableFlags block settled.2)
        (fun _ _ _ inside _ _ => inside.2) (travels_callableFlags block)
        (grows_callableEnd context parameters)
      intro flags remains last twinLast ranFlags _ _ abreastLast
      obtain ⟨flagRow, splitToo, flagged⟩ :=
        (flagged_callableFlags block).exists_row ranFlags abreastLast.silent
      -- parameters, flags and the end of the line make up the line
      have whole : line = params ++ (flagRow ++ remains) := by
        rw [abreast.here, splitToo, abreastLast.here] at split
        apply List.append_cancel_right
        simpa using split
      have ended : (endOfDeclaration context).Tears cut
          (fun _ => Opening.behindHeader ⟨block, keyword⟩ outer
            ⟨parameters, flags, none⟩) (fun _ _ => False) last twinLast := by
        intro doc final ranEnd silent
        have remainsInLine : OneLine remains := by
          rw [whole] at oneLine
          exact fun token member => oneLine token (by simp [member])
        have passed := behind_endOfDeclaration context last
        unfold Reader.Ends Ends at passed
        rw [ranEnd] at passed
        obtain ⟨ending, splitEnd, ends⟩ :=
          (covers_endOfDeclaration context).exists_row ranEnd silent
        have here := abreastLast.here
        rw [List.append_assoc] at here
        obtain ⟨_, rfl⟩ := isPrefix_of_behind here remainsInLine passed splitEnd
        have gaps : IsGap remains := fun token member =>
          ends token (List.mem_append_left _ member)
        rw [toList_ofCallable?, whole,
          mentions_native_of_header named (listed rfl) flagged gaps] at behind
        exact tears_endOfDeclaration context abreastLast remainsInLine
          breaks behind doc final ranEnd silent
      apply Tears.run_bind ended
      · exact fun _ _ => .pure _
      · exact fun _ _ => (tells_reportAndSkipLine _).bind fun _ _ => .pure _
      · exact fun _ _ _ atLine => .pure atLine
      · exact fun _ _ spent => .pure spent
      · exact fun _ _ never => never.elim
  · rintro ⟨parameters, failure⟩ after twinAfter settled _ _
    cases failure with
    | none => exact settled.2
    | some diagnostic => exact settled.2.2

/-! ## Bodies -/

/-- The body of a function or an event carries the runs behind its
terminator. -/
theorem carries_openBody
    (callable : block = .function ∨ block = .event) (keyword : Token) :
    (openBody block keyword).Carries cut (⟨block, keyword⟩ :: outer)
      fun _ => outer := by
  apply (carries_body block _).bind
  intro inside
  constructor
  · intro cursor
    apply Grows.get
    split
    · apply grows_advance.bind
      exact fun _ _ => (travels_finishLine _ _).grows.bind fun _ _ => .pure _
    · exact (travels_reportUnterminated _ _).grows.bind fun _ _ => .pure _
  · intro cursor twin atLine
    apply Tears.look (by simp only [atLine.kind])
    obtain ⟨row, more, opens, abreast⟩ := atLine
    obtain ⟨first, row, rfl⟩ := List.exists_cons_of_ne_nil more
    split
    · rename_i closes
      have closer := eq_terminator_of_closedBy callable closes
      apply Tears.take abreast
      exact (tears_terminator _ opens abreast.next
        (abreast.kind.1.symm.trans closer)).carry fun _ => .pure _
    · exact Tells.tears ((tells_reportUnterminated _ _).bind fun _ _ => .pure _)
  · intro twin spent
    apply Unwinds.get
    rw [spent.atEnd, if_neg (by rcases callable with rfl | rfl <;> nofun)]
    exact (unwinds_reportUnterminated spent).bind fun _ _ spent => .pure spent

theorem carries_callableBody
    (callable : block = .function ∨ block = .event) (keyword : Token)
    (header : Reader.CallableHeader) :
    (callableBody block keyword header.flags).Carries cut
      (Opening.behindHeader ⟨block, keyword⟩ outer header)
      fun _ => outer := by
  unfold callableBody Opening.behindHeader
  split
  · exact .pure _
  · exact carries_openBody callable keyword

end Recovery

/-! ## Functions and events -/

/-- A function or an event whose line starts with its keyword. -/
theorem leads_callable (callable : block = .function ∨ block = .event)
    (kind : keyword.kind = .keyword block.opener) :
    Leads block (Opening.ofCallable? block keyword) [] keyword where
  kind := kind
  oneLine := List.forall_mem_nil _
  plain := by rintro first more ⟨⟩
  opens line := by
    rcases callable with rfl | rfl
    · simp [Opening.ofLine?, kind, Block.opener]
    · simp [Opening.ofLine?, kind, Block.opener]
  names _ _ found := Opening.keyword_of_ofCallable? found

namespace Reader

/-- A function leaves open what was open in front of it. -/
theorem tears_function (returnType : Option TypeName) (oneLine : OneLine before)
    (plain : IsPlain before) (opens : cut.Opens outer (before ++ row))
    (leads : ∀ keyword : Token, keyword.kind = .keyword .function →
      Leads .function (Opening.ofCallable? .function keyword) before keyword)
    (abreast : cut.Abreast row cursor twin) :
    (function returnType).Tears cut (fun _ => outer) (cut.Breaks outer) cursor
      twin := by
  unfold function
  apply Tears.expect abreast rfl
  · rintro keyword row rfl kind abreast
    have leads := leads keyword kind
    apply Tears.identifier abreast
    · rintro name row rfl named abreast
      apply (Tears.lift (Recovery.tears_callableHeader leads opens named
        abreast _)).carry
      intro header
      apply (Carries.lift (Recovery.carries_callableBody (.inl rfl) keyword
        header)).bind
      intro inside
      exact .look (fun atLine => by simp only [atLine.spanFrom])
        fun _ => .pure _
    · rintro rfl cutOff
      exact opens.goal_of_cutOff (leads.oneLine_append (List.forall_mem_nil _))
        leads.isPlain_append cutOff
  · rintro rfl cutOff
    rw [List.append_nil] at opens
    exact opens.goal_of_cutOff oneLine plain cutOff

/-- An event leaves open what was open in front of it. -/
theorem tears_event
    (opens : cut.Opens outer row) (abreast : cut.Abreast row cursor twin)
    (more : row ≠ []) :
    event.Tears cut (fun _ => outer) (cut.Breaks outer) cursor twin := by
  unfold event
  apply Tears.expect abreast rfl
  · rintro keyword row rfl kind abreast
    have leads := leads_callable (.inr rfl) kind
    apply Tears.identifier abreast
    · rintro name row rfl named abreast
      apply (Tears.lift (Recovery.tears_callableHeader leads opens named
        abreast _)).carry
      intro header
      apply (Carries.lift (Recovery.carries_callableBody (.inr rfl) keyword
        header)).bind
      intro inside
      exact .look (fun atLine => by simp only [atLine.spanFrom])
        fun _ => .pure _
    · rintro rfl cutOff
      exact opens.goal_of_cutOff (leads.oneLine_append (List.forall_mem_nil _))
        leads.isPlain_append cutOff
  · exact fun nothing => absurd nothing more

end Reader

end PapyrusScript
