import PapyrusScript.Proofs.Truncation.Callable

/-!
# Properties of a text that is cut

A property has a block unless its header line makes it automatic.  In the last
line this takes the whole header to be fine, so what the first run makes of it
is used: a property with a block has no initial value, and only flags and a
comment stand behind its name.
-/

namespace PapyrusScript

open Cursor Cut

variable {cut : Cut} {cursor twin after : Cursor} {outer : List Opening}
  {row line more before left tail rest : List Token}
  {keyword newline name last : Token}

/-! ## What the line of a header says -/

/-- What a header says of a property stands in its line. -/
structure Reader.PropertyHeader.Matches
    (header : Reader.PropertyHeader) (row : List Token) : Prop where
  automatic : (Opening.mentions .auto row ||
    Opening.mentions .autoReadOnly row) = header.automatic.isSome
  flags : header.initial = none → header.automatic = none →
    ∀ token ∈ row, token.kind = .keyword .hidden ∨
      token.kind = .keyword .conditional

/-- A property is automatic exactly if one of two flags makes it so. -/
theorem PropertyFlagged.mentions
    {automatic : Option Keyword} {hidden conditional : Bool}
    (flagged : PropertyFlagged automatic hidden conditional row) :
    (Opening.mentions .auto row || Opening.mentions .autoReadOnly row) =
      automatic.isSome := by
  induction flagged with
  | nil => rfl
  | hidden kind _ ih | conditional kind _ ih =>
    rw [← ih]
    simp [Opening.mentions, kind]
  | auto kind _ _ | autoReadOnly kind _ _ => simp [Opening.mentions, kind]

theorem PropertyFlagged.manual
    {automatic : Option Keyword} {hidden conditional : Bool}
    (flagged : PropertyFlagged automatic hidden conditional row)
    (manual : automatic = none) :
    ∀ token ∈ row, token.kind = .keyword .hidden ∨
      token.kind = .keyword .conditional := by
  induction flagged with
  | nil => exact List.forall_mem_nil _
  | hidden kind _ ih => exact List.forall_mem_cons.2 ⟨.inl kind, ih manual⟩
  | conditional kind _ ih => exact List.forall_mem_cons.2 ⟨.inr kind, ih manual⟩
  | auto _ _ _ | autoReadOnly _ _ _ => cases manual

/-- What a header of a property says stands in its line. -/
theorem Reader.PropertyHeader.Spelled.told {header : Reader.PropertyHeader}
    (spelled : header.Spelled row) : header.Matches row := by
  cases spelled with
  | intro starts same flagged =>
    constructor
    · have isSome := congrArg Option.isSome same
      rw [Option.isSome_map, Option.isSome_map] at isSome
      rw [Opening.mentions_append, Opening.mentions_append,
        Opening.mentions_of_ofValue starts.ofValue rfl,
        Opening.mentions_of_ofValue starts.ofValue rfl, Bool.false_or,
        Bool.false_or, flagged.mentions, isSome]
    · intro noInitial noAutomatic
      rw [noInitial] at starts
      cases starts
      rw [noAutomatic] at same
      exact flagged.manual (Option.map_eq_none_iff.1 same.symm)

/-! ## The last line -/

/-- What has been passed of a whole last line is part of what is kept. -/
theorem Cut.Abreast.exists_tail
    (abreast : cut.Abreast row cursor twin) (closed : cut.closed = true)
    (shape : cursor.budget = before ++ after.budget)
    (oneLine : OneLine before) :
    ∃ tail, row = before ++ tail ∧ after.budget = tail ++ cut.rest := by
  rw [abreast.here] at shape
  rcases List.append_eq_append_iff.1 shape with
    ⟨more, rfl, left⟩ | ⟨more, rfl, left⟩
  · cases more with
    | nil => exact ⟨[], by simp, left.symm⟩
    | cons token more =>
      -- the line would end in front of the cut
      have inLine := oneLine token (by simp)
      unfold Cut.closed at closed
      rw [left] at closed
      rw [show token.kind.endsLine = true from closed] at inLine
      cases inLine
  · exact ⟨more, rfl, left⟩

namespace Reader

theorem ends_endOfLine (context : String) (cursor : Cursor) :
    (endOfLine context).Ends cursor (fun _ _ => cursor.kind.endsLine = true)
      fun _ _ => True := by
  unfold endOfLine
  rw [ends_bind, ends_get]
  split
  · rename_i breaks
    rw [breaks]
    exact rfl
  · rename_i atEnd
    rw [atEnd]
    exact rfl
  · exact trivial

/-- At most one comment stands in front of the end of a line. -/
theorem documented_endOfDeclaration
    (context : String) (here : cursor.budget = tail ++ rest)
    (oneLine : OneLine tail) :
    (endOfDeclaration context).Ends cursor
      (fun _ _ => tail = [] ∨
        ∃ comment, tail = [comment] ∧ comment.kind = .docComment)
      fun _ _ => True := by
  cases tail with
  | nil =>
    exact Ends.mono (travels_endOfDeclaration context cursor)
      (fun _ _ _ => .inl rfl) fun _ _ _ => trivial
  | cons token tail =>
    have kind : cursor.kind = token.kind := kind_of_budget here
    obtain ⟨inLine, others⟩ := List.forall_mem_cons.1 oneLine
    unfold endOfDeclaration
    rw [ends_bind, ends_get]
    split
    · rename_i doc
      rw [ends_bind, ends_lift, Recovery.ends_advance, ends_bind]
      apply (ends_endOfLine context cursor.next).mono ?_ fun _ _ _ => trivial
      intro _ _ ends
      right
      refine ⟨token, ?_, kind.symm.trans doc⟩
      cases tail with
      | nil => rfl
      | cons second tail =>
        have next := budget_next_of_budget here (by rw [← kind, doc]; nofun)
        rw [kind_of_budget next, others second List.mem_cons_self] at ends
        cases ends
    · rw [ends_bind]
      apply (ends_endOfLine context cursor).mono ?_ fun _ _ _ => trivial
      intro _ _ ends
      rw [kind, inLine] at ends
      cases ends

/-- At the end of the text a declaration may end with its comment. -/
theorem takes_endOfDeclaration_last
    (context : String) (ends : last.kind = .endOfText)
    (documented : row = [] ∨
      ∃ comment, row = [comment] ∧ comment.kind = .docComment) :
    (endOfDeclaration context).Takes row [last] fun _ => True := by
  have ended (context : String) :
      (endOfLine context).Takes [] [last] fun _ => True := by
    unfold endOfLine
    apply Takes.get
    intro cursor here
    rw [(kind_of_budget here).trans ends]
    exact .pure trivial
  unfold endOfDeclaration
  apply Takes.get
  intro cursor here
  rcases documented with rfl | ⟨comment, rfl, doc⟩
  · rw [if_neg (by rw [kind_of_budget here, ends]; nofun)]
    apply Takes.bind_nil (ended _)
    intro _ _
    apply Takes.get
    intro after place
    rw [if_neg (by rw [kind_of_budget place, ends]; nofun)]
    exact .pure trivial
  · rw [if_pos ((kind_of_budget here).trans doc)]
    apply Takes.advance (by simp [doc])
    apply Takes.bind_nil (ended _)
    exact fun _ _ => .pure trivial

/-- Flags alone make no property automatic. -/
theorem takes_flags (flags : ∀ token ∈ row, token.kind = .keyword .hidden ∨
      token.kind = .keyword .conditional)
    (stops : Heads (fun kind => kind = .endOfText ∨ kind = .docComment) rest)
    (header : PropertyHeader) :
    (Recovery.iterate propertyFlag (header, none)).Takes row rest
      fun found => found.2 = none ∧ found.1.automatic = header.automatic := by
  have proceeds found cursor :=
    (Recovery.proceedsTo_propertyFlag found cursor).proceeds
  induction row generalizing header with
  | nil =>
    apply Recovery.Takes.done proceeds
    unfold propertyFlag
    apply Recovery.Takes.get
    intro cursor here
    rcases stops.kind here with stop | stop
    · rw [stop]
      exact .pure ⟨_, rfl, rfl, rfl⟩
    · rw [stop]
      exact .pure ⟨_, rfl, rfl, rfl⟩
  | cons token row ih =>
    obtain ⟨first, others⟩ := List.forall_mem_cons.1 flags
    rcases first with word | word
    · apply Recovery.Takes.again proceeds
        (takes_propertyFlag_hidden word header)
      rintro _ rfl
      exact ih others { header with hidden := true }
    · apply Recovery.Takes.again proceeds
        (takes_propertyFlag_conditional word header)
      rintro _ rfl
      exact ih others { header with conditional := true }

/-- A header line without a value that ends with the text. -/
theorem takes_propertyLine_last (ends : last.kind = .endOfText)
    (flags : ∀ token ∈ row, token.kind = .keyword .hidden ∨
      token.kind = .keyword .conditional)
    (documented : tail = [] ∨
      ∃ comment, tail = [comment] ∧ comment.kind = .docComment) :
    propertyLine.Takes (row ++ tail) [last] fun line =>
      line.intact = true ∧ line.header.automatic = none := by
  have stops : Heads (fun kind => kind = .endOfText ∨ kind = .docComment)
      (tail ++ [last]) := by
    rcases documented with rfl | ⟨comment, rfl, doc⟩
    · exact .inl ends
    · exact .inr doc
  have apart : Heads (· ≠ .symbol .assign) (row ++ (tail ++ [last])) := by
    cases row with
    | nil =>
      apply stops.mono
      rintro _ (rfl | rfl) <;> nofun
    | cons token row =>
      rcases flags token List.mem_cons_self with word | word
      · exact heads_ne word nofun
      · exact heads_ne word nofun
  have header : propertyHeader.Takes row (tail ++ [last])
      fun found => found.2 = none ∧ found.1.automatic = none := by
    unfold propertyHeader
    apply Recovery.Takes.after (takes_initialConstant .absent apart).run
    rintro _ ⟨initial, rfl, _⟩
    exact takes_flags flags stops _
  unfold propertyLine
  apply Recovery.Takes.bind header
  rintro ⟨header, failure⟩ ⟨rfl, automatic⟩
  apply Recovery.Takes.get
  intro cursor here
  apply Recovery.Takes.bind_nil
    (takes_endOfDeclaration_last _ ends documented).run
  rintro _ ⟨_, rfl, _⟩
  exact .pure ⟨rfl, automatic⟩

end Reader

/-! ## Header lines -/

def Opening.behindProperty
    (opening : Opening) (outer : List Opening) (line : Reader.PropertyLine) :
    List Opening :=
  if line.intact && line.header.automatic.isNone then opening :: outer
  else outer

namespace Recovery

open Reader

theorem toList_ofProperty? (keyword : Token) (line : List Token) :
    (Opening.ofProperty? keyword line).toList ++ outer =
      if Opening.mentions .auto line || Opening.mentions .autoReadOnly line then
        outer
      else ⟨.property, keyword⟩ :: outer := by
  unfold Opening.ofProperty?
  split <;> rfl

theorem Ends.bind_of_run
    {α β : Type} {reader : Recovery α} {following : α → Recovery β}
    {post : β → Cursor → Prop}
    (rest : ∀ value after, reader.run cursor = (value, after) →
      (following value).Ends after post) :
    Ends (reader >>= following) cursor post :=
  rest _ _ rfl

/-- What has been passed without a line break is part of a line. -/
theorem oneLine_of_reaches (reaches : cursor.Reaches after)
    (shape : cursor.budget = row ++ after.budget)
    (unbroken : ∀ token ∈ row, token.kind ≠ .newline) : OneLine row := by
  obtain ⟨⟨passed, path⟩, _⟩ := reaches
  obtain ⟨same, inside⟩ := path.budget_eq
  obtain rfl : row = passed := List.append_cancel_right (shape.symm.trans same)
  intro token member
  simp [Kind.endsLine, unbroken token member, inside token member]

/-- A header line without a report is one line, and a comment at most. -/
theorem ends_propertyLine (cursor : Cursor) :
    propertyLine.Ends cursor fun line after => after.reported = [] →
      line.intact = true ∧ ∃ middle passed doc,
        cursor.budget = passed ++ middle.budget ∧ OneLine passed ∧
          line.header.Matches passed ∧
            (endOfDeclaration "property declaration").run.run middle =
              (.ok doc, after) := by
  have travels : propertyHeader.Travels cursor :=
    Ends.mono (travelsTo_propertyHeader cursor) fun _ _ reached => reached.1
  have broken (header : Reader.PropertyHeader) (diagnostic : Diagnostic)
      (stop : Position) (cursor : Cursor) : Tells (do
        reportAndSkipLine diagnostic
        return (⟨header, none, stop, false⟩ : Reader.PropertyLine)) cursor :=
    (tells_reportAndSkipLine _).bind fun _ _ => .pure _
  unfold propertyLine
  apply Ends.bind (spelled_propertyHeader.and travels)
  rintro ⟨header, failure⟩ middle ⟨covered, reaches⟩
  apply Ends.bind_of_run
  rintro _ _ ⟨⟩
  cases failure with
  | some diagnostic =>
    exact fun silent => absurd silent (broken _ _ _ _).reported_ne_nil
  | none =>
    apply Ends.bind_of_run
    intro answer after ran
    cases answer with
    | error diagnostic =>
      exact fun silent => absurd silent (broken _ _ _ _).reported_ne_nil
    | ok doc =>
      intro silent
      have grows := (travels_endOfDeclaration "property declaration"
        middle).run.grows
      have quiet := grows.reported_eq_nil (by rw [ran]; exact silent)
      obtain ⟨row, split, spelled⟩ := Cursor.Covers.exists_row covered quiet
      have header := spelled rfl
      exact ⟨rfl, middle, row, doc, split,
        oneLine_of_reaches reaches split header.inLine.ne_newline, header.told,
        ran⟩

theorem mentions_of_documented (word : Keyword)
    (documented : tail = [] ∨
      ∃ comment, tail = [comment] ∧ comment.kind = .docComment) :
    Opening.mentions word tail = false := by
  rcases documented with rfl | ⟨comment, rfl, doc⟩
  · rfl
  · simp [Opening.mentions, doc]

/-- Neither the name nor the comment of a header line counts as a flag. -/
theorem mentions_of_line (word : Keyword) (named : name.kind = .identifier)
    (documented : tail = [] ∨
      ∃ comment, tail = [comment] ∧ comment.kind = .docComment) :
    Opening.mentions word (name :: (line ++ tail)) =
      Opening.mentions word line := by
  have noName : Opening.mentions word [name] = false := by
    simp [Opening.mentions, named]
  rw [← List.singleton_append, Opening.mentions_append, Opening.mentions_append,
    noName, mentions_of_documented word documented, Bool.false_or,
    Bool.or_false]

/-- A header line that is kept as a whole opens its block in both runs. -/
theorem tears_propertyLine_within
    (leads : Leads .property (Opening.ofProperty? keyword) before keyword)
    (opens : cut.Opens outer
      (before ++ keyword :: name :: (line ++ newline :: more)))
    (named : name.kind = .identifier)
    (abreast : cut.Abreast (line ++ newline :: more) cursor twin)
    (oneLine : OneLine line) (breaks : newline.kind = .newline) :
    propertyLine.Tears cut
      (Opening.behindProperty ⟨.property, keyword⟩ outer) cursor twin := by
  have nameInLine : OneLine (name :: line) :=
    List.forall_mem_cons.2 ⟨by rw [named]; rfl, oneLine⟩
  have behind := leads.behind opens nameInLine breaks
  have growsBroken (header : Reader.PropertyHeader) (diagnostic : Diagnostic)
      (stop : Position) (cursor : Cursor) : Grows (do
        reportAndSkipLine diagnostic
        return (⟨header, none, stop, false⟩ : Reader.PropertyLine)) cursor :=
    (grows_reportAndSkipLine _).bind fun _ _ => .pure _
  unfold propertyLine
  apply Tears.along abreast (agrees_propertyHeader (abreast.amid breaks)) ?_
    fun cursor => Ends.mono (travelsTo_propertyHeader cursor)
      fun _ _ reached => reached.1
  · rintro ⟨header, failure⟩ middle
    apply Grows.get
    cases failure with
    | some diagnostic => exact growsBroken _ _ _ _
    | none =>
      apply Grows.run_bind (travels_endOfDeclaration _ middle)
      intro answer after
      cases answer with
      | ok doc => exact .pure _
      | error diagnostic => exact growsBroken _ _ _ _
  -- the header ends inside the line, so its flags are the words of the line
  · rintro ⟨header, failure⟩ left after twinAfter ran _ settled abreastAfter
    apply Tears.look (by rw [abreastAfter.lastEnd])
    cases failure with
    | some diagnostic =>
      exact Tells.tears ((tells_reportAndSkipLine _).bind fun _ _ => .pure _)
    | none =>
      obtain ⟨passed, split, said⟩ :=
        spelled_propertyHeader.exists_row ran abreastAfter.silent
      have whole : line = passed ++ left := by
        rw [abreast.here, abreastAfter.here] at split
        apply List.append_cancel_right
        simpa using split
      have leftInLine : OneLine left := by
        rw [whole] at oneLine
        exact fun token member => oneLine token (by simp [member])
      have ended : (endOfDeclaration "property declaration").Tears cut
          (fun _ => Opening.behindProperty ⟨.property, keyword⟩ outer
            ⟨header, none, after.lastEnd, true⟩) (fun _ _ => False) after
          twinAfter := by
        intro doc final ranEnd silent
        have here := abreastAfter.here
        rw [List.append_assoc] at here
        have documented := documented_endOfDeclaration
          "property declaration" here leftInLine
        unfold Reader.Ends Ends at documented
        rw [ranEnd] at documented
        have automatic : (Opening.mentions .auto (name :: line) ||
            Opening.mentions .autoReadOnly (name :: line)) =
              header.automatic.isSome := by
          rw [whole, mentions_of_line _ named documented,
            mentions_of_line _ named documented, (said rfl).told.automatic]
        rw [toList_ofProperty?, automatic] at behind
        have same : Opening.behindProperty ⟨.property, keyword⟩ outer
            ⟨header, none, after.lastEnd, true⟩ =
              if header.automatic.isSome = true then outer
              else ⟨.property, keyword⟩ :: outer := by
          unfold Opening.behindProperty
          cases header.automatic <;> rfl
        rw [same]
        exact tears_endOfDeclaration _ abreastAfter leftInLine breaks
          behind doc final ranEnd silent
      apply Tears.run_bind ended
      · exact fun _ _ => .pure _
      · exact fun _ _ => (tells_reportAndSkipLine _).bind fun _ _ => .pure _
      · exact fun _ _ _ atLine => .pure atLine
      · exact fun _ _ spent => .pure spent
      · exact fun _ _ never => never.elim
  · rintro ⟨header, failure⟩ after twinAfter settled _ _
    cases failure with
    | none => exact settled.2
    | some diagnostic => exact settled.2.2

/-- A header line leads to the next line. -/
theorem behind_propertyLine (cursor : Cursor) :
    propertyLine.Ends cursor fun _ after => cursor.Behind after := by
  apply Ends.bind (travelsTo_propertyHeader cursor)
  rintro ⟨header, failure⟩ middle ⟨reaches, _⟩
  rw [ends_bind, ends_get]
  cases failure with
  | some diagnostic =>
    exact (behind_skipLineAfter diagnostic _ middle).mono
      fun _ _ behind => reaches.trans_behind behind
  | none =>
    rw [ends_bind, ends_run]
    apply (behind_endOfDeclaration _ middle).mono
    · exact fun _ _ behind => reaches.trans_behind behind
    · intro diagnostic after more
      exact (behind_skipLineAfter diagnostic _ after).mono
        fun _ _ behind => (reaches.trans more).trans_behind behind

/-- Where nothing but the blocks around the property is open at the cut, the
keyword of the property may be one too many. -/
theorem spent_behindProperty
    (leads : Leads .property (Opening.ofProperty? keyword) before keyword)
    (opens : cut.Opens outer (before ++ keyword :: row)) (oneLine : OneLine row)
    (atEnd : after.kind = .endOfText) (silent : after.unterminated = [])
    (goal : cut.goal = outer) (line : Reader.PropertyLine) :
    cut.Spent (Opening.behindProperty ⟨.property, keyword⟩ outer line)
      after := by
  unfold Opening.behindProperty
  split
  · exact .of_extra opens (leads.oneLine_append oneLine) (by simp) atEnd silent
      goal
  · exact .of_goal atEnd silent goal

/-- In the last line a header opens its block if the property has one. -/
theorem unwinds_propertyLine
    (leads : Leads .property (Opening.ofProperty? keyword) before keyword)
    (opens : cut.Opens outer (before ++ keyword :: name :: row))
    (named : name.kind = .identifier) (abreast : cut.Abreast row cursor twin)
    (oneLine : OneLine row) (silent : (propertyLine.run cursor).2.reported = [])
    (valueless : (propertyLine.run cursor).1.header.automatic = none →
      (propertyLine.run cursor).1.header.initial = none) :
    propertyLine.Unwinds cut
      (Opening.behindProperty ⟨.property, keyword⟩ outer) twin := by
  have passes := (abreast.inLastLine oneLine).ends
    (travels_propertyLine twin) (behind_propertyLine twin)
  have nameInLine : OneLine (name :: row) :=
    List.forall_mem_cons.2 ⟨by rw [named]; rfl, oneLine⟩
  have goal := leads.goal opens nameInLine
  have noName (word : Keyword) :
      Opening.mentions word (name :: row) = Opening.mentions word row := by
    simp [Opening.mentions, named]
  rw [toList_ofProperty?, noName, noName] at goal
  by_cases others : cut.goal = outer
  · apply Ends.mono passes
    rintro line last ⟨atEnd, silent⟩
    exact spent_behindProperty leads opens nameInLine atEnd silent others line
  -- the whole line is kept, and the first run makes a block of it
  have closed : cut.closed = true := by
    by_contra cutOff
    rw [if_neg cutOff] at goal
    exact others goal
  rw [if_pos closed] at goal
  obtain ⟨_, middle, passed, doc, split, inLine, told, ended⟩ :=
    ends_propertyLine cursor silent
  obtain ⟨tail, rfl, here⟩ := abreast.exists_tail closed split inLine
  have documented := documented_endOfDeclaration "property declaration"
    here (List.forall_mem_append.1 oneLine).2
  unfold Reader.Ends Ends at documented
  rw [ended] at documented
  have same := told.automatic
  rw [Opening.mentions_append, Opening.mentions_append,
    mentions_of_documented _ documented, mentions_of_documented _ documented,
    Bool.or_false, Bool.or_false, same] at goal
  have automatic : (propertyLine.run cursor).1.header.automatic = none := by
    by_contra found
    rw [if_pos (Option.isSome_iff_ne_none.2 found)] at goal
    exact others goal
  rw [automatic] at goal
  have flags := told.flags (valueless automatic) automatic
  have fine := takes_propertyLine_last cut.ends flags documented twin
    abreast.there
  apply Ends.mono (passes.and fine)
  rintro line last ⟨⟨atEnd, silent⟩, ⟨intact, isFull⟩, _⟩
  have full : Opening.behindProperty ⟨.property, keyword⟩ outer line =
      ⟨.property, keyword⟩ :: outer := by
    simp [Opening.behindProperty, intact, isFull]
  rw [full]
  exact .of_goal atEnd silent goal

theorem tears_propertyLine
    (leads : Leads .property (Opening.ofProperty? keyword) before keyword)
    (opens : cut.Opens outer (before ++ keyword :: name :: row))
    (named : name.kind = .identifier) (abreast : cut.Abreast row cursor twin)
    (valueless : (propertyLine.run cursor).1.header.automatic = none →
      (propertyLine.run cursor).1.header.initial = none) :
    propertyLine.Tears cut
      (Opening.behindProperty ⟨.property, keyword⟩ outer) cursor twin := by
  rcases abreast.cases_line with
    oneLine | ⟨line, newline, more, rfl, oneLine, breaks⟩
  · exact fun silent => .inr
      (unwinds_propertyLine leads opens named abreast oneLine silent valueless)
  · exact tears_propertyLine_within leads opens named abreast oneLine breaks

end Recovery

end PapyrusScript
