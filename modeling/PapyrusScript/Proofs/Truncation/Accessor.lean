import PapyrusScript.Proofs.Truncation.Property

/-!
# Properties with functions in a text that is cut

A type in front of a keyword is read in both runs, or too little of the line is
kept to tell what starts there.  The functions of a property are carried to its
end, and each of them leaves open what was open in front of it.
-/

namespace PapyrusScript

open Cursor Cut

variable {β : Type} {cut : Cut} {cursor twin after : Cursor}
  {outer : List Opening} {row line before tail : List Token}
  {keyword : Token} {type : TypeName}
  {refused : Diagnostic → Cursor → Prop} {stack : β → List Opening}

/-! ## Types -/

theorem TypeName.Spelled.oneLine (spelled : type.Spelled row) : OneLine row := by
  intro token member
  have ofValue := spelled.ofValue token member
  revert ofValue
  cases token.kind with
  | keyword word => cases word <;> decide
  | _ => simp [Kind.isOfValue, Kind.isOfBody, Kind.endsLine]

/-- A type is one token, and brackets that are skipped as such. -/
theorem TypeName.Spelled.exists_first (spelled : type.Spelled row) :
    ∃ first brackets, row = first :: brackets ∧
      (first.kind.isTypeKeyword = true ∨ first.kind = .identifier) ∧
        ∀ tail, ¬ Heads (· = .symbol .openBracket) tail →
          Opening.behindBrackets (brackets ++ tail) = tail := by
  have starts {token : Token} {dataType : DataType}
      (names : Reader.dataType? token = some dataType) :
      token.kind.isTypeKeyword = true ∨ token.kind = .identifier := by
    unfold Reader.dataType? at names
    split at names
    all_goals first
      | (rename_i kind; rw [kind]; simp [Kind.isTypeKeyword])
      | cases names
  cases spelled with
  | plain names =>
    refine ⟨_, [], rfl, starts names, ?_⟩
    intro tail apart
    rcases tail with _ | ⟨first, _ | ⟨second, tail⟩⟩
    · rfl
    · rfl
    · have other : first.kind ≠ .symbol .openBracket := apart
      simp [Opening.behindBrackets, other]
  | array names opens closes =>
    refine ⟨_, _, rfl, starts names, fun tail _ => ?_⟩
    simp [Opening.behindBrackets, opens, closes]

theorem TypeName.Spelled.isPlain (spelled : type.Spelled row) :
    IsPlain row := by
  obtain ⟨first, brackets, rfl, starts, _⟩ := spelled.exists_first
  apply isPlain_of_kind
  · rcases starts with word | named
    · intro doc
      rw [doc] at word
      cases word
    · rw [named]
      nofun
  · exact spelled.closesNothing first List.mem_cons_self

/-- A line that starts with a type opens what its keyword says. -/
theorem TypeName.Spelled.ofLine? (spelled : type.Spelled before)
    (apart : keyword.kind ≠ .symbol .openBracket) :
    Opening.ofLine? (before ++ keyword :: line) =
      Opening.ofTyped? (keyword :: line) := by
  obtain ⟨first, brackets, rfl, starts, behind⟩ := spelled.exists_first
  have apart : ¬ Heads (· = .symbol .openBracket) (keyword :: line) := apart
  unfold Opening.ofLine?
  dsimp only [List.cons_append]
  rw [behind _ apart]
  rcases starts with typed | named
  · split <;> simp_all [Kind.isTypeKeyword]
  · rw [named]
    rfl

theorem TypeName.Spelled.leads_function
    (spelled : type.Spelled before) (kind : keyword.kind = .keyword .function) :
    Leads .function (Opening.ofCallable? .function keyword) before keyword where
  kind := kind
  oneLine := spelled.oneLine
  plain := spelled.isPlain
  opens line := by
    rw [spelled.ofLine? (by rw [kind]; nofun)]
    simp [Opening.ofTyped?, kind]
  names _ _ found := Opening.keyword_of_ofCallable? found

theorem TypeName.Spelled.leads_property
    (spelled : type.Spelled before) (kind : keyword.kind = .keyword .property) :
    Leads .property (Opening.ofProperty? keyword) before keyword where
  kind := kind
  oneLine := spelled.oneLine
  plain := spelled.isPlain
  opens line := by
    rw [spelled.ofLine? (by rw [kind]; nofun)]
    simp [Opening.ofTyped?, kind]
  names line opening found := by
    unfold Opening.ofProperty? at found
    split at found
    · cases found
    · exact Option.some.inj found ▸ rfl

/-! ## Type names -/

namespace Reader

/-- A type that is seen in front of something is read in both runs. -/
theorem Tears.typeName
    {following : TypeName → Reader β} (abreast : cut.Abreast row cursor twin)
    (typed : twin.atTypeStart = true) (seen : twin.kindAfterType ≠ .endOfText)
    (apart : twin.kindAfterType ≠ .symbol .openBracket)
    (rest : ∀ found before first tail after twinAfter,
      row = before ++ first :: tail → found.Spelled before →
        first.kind = twin.kindAfterType →
          cut.Abreast (first :: tail) after twinAfter →
            (following found).Tears cut stack refused after twinAfter) :
    Tears (Reader.typeName >>= following) cut stack refused cursor twin := by
  have present : twin.kindAt 0 ≠ .endOfText := by
    intro (atEnd : twin.kind = .endOfText)
    rw [atTypeStart, atEnd] at typed
    cases typed
  obtain ⟨first, row, rfl⟩ := List.exists_cons_of_ne_nil
    (List.ne_nil_of_length_pos (abreast.lt_of_kindAt present))
  have next := abreast.next
  have names : ∃ dataType, dataType? first = some dataType := by
    rw [atTypeStart, abreast.kind.2] at typed
    unfold dataType?
    cases found : first.kind with
    | keyword word => cases word <;> simp_all [Kind.isTypeKeyword]
    | _ => simp_all [Kind.isTypeKeyword]
  obtain ⟨dataType, names⟩ := names
  obtain ⟨here, there⟩ := abreast.current
  unfold Reader.typeName elementType
  rw [bind_assoc, bind_assoc]
  apply Tears.look (by rw [here, there])
  rw [here, names, bind_assoc]
  apply Tears.take abreast
  rw [pure_bind]
  have after (distance : Nat) (inside : distance < row.length) :
      cursor.next.kindAt distance = row[distance].kind ∧
        twin.next.kindAt distance = row[distance].kind ∧
          twin.kindAt (distance + 1) = row[distance].kind := by
    have further : distance + 1 < (first :: row).length :=
      Nat.succ_lt_succ inside
    have ahead := next.kindAt_of_lt inside
    have behind := abreast.kindAt_of_lt further
    exact ⟨ahead.2.symm, ahead.1.trans ahead.2.symm,
      behind.1.trans behind.2.symm⟩
  have longer (distance : Nat) (length : twin.typeLength = distance) :
      distance < (first :: row).length := by
    apply abreast.lt_of_kindAt
    rw [← length]
    exact seen
  -- the brackets of an array must stand on the cut side as well, since the
  -- kind behind them is seen there
  by_cases array : twin.kindAt 1 = .symbol .openBracket ∧
      twin.kindAt 2 = .symbol .closeBracket
  · have length : twin.typeLength = 3 := by
      simp [typeLength, array]
    obtain ⟨opening, closing, keyword, tail, rfl⟩ :
        ∃ opening closing keyword tail,
          row = opening :: closing :: keyword :: tail := by
      have long := longer 3 length
      rcases row with _ | ⟨opening, _ | ⟨closing, _ | ⟨keyword, tail⟩⟩⟩
      · simp at long
      · simp at long
      · simp at long
      · exact ⟨opening, closing, keyword, tail, rfl⟩
    have one := after 0 (by simp)
    have two := after 1 (by simp)
    have opens : opening.kind = .symbol .openBracket :=
      one.2.2.symm.trans array.1
    have closes : closing.kind = .symbol .closeBracket :=
      two.2.2.symm.trans array.2
    have here : (cursor.next.kind = .symbol .openBracket &&
        cursor.next.kindAt 1 = .symbol .closeBracket) = true := by
      simp [show cursor.next.kind = _ from one.1, two.1, opens, closes]
    have there : (twin.next.kind = .symbol .openBracket &&
        twin.next.kindAt 1 = .symbol .closeBracket) = true := by
      simp [show twin.next.kind = _ from one.2.1, two.2.1, opens, closes]
    rw [bind_assoc]
    apply Tears.look (by rw [here, there])
    rw [if_pos here, bind_assoc]
    apply Tears.take next
    rw [bind_assoc]
    apply Tears.take next.next
    rw [pure_bind]
    refine rest _ [first, opening, closing] keyword tail _ _ rfl
      (.array names opens closes) ?_ next.next.next
    rw [kindAfterType, length, (after 2 (by simp)).2.2]
    rfl
  · have length : twin.typeLength = 1 := by
      simp only [typeLength, Bool.and_eq_true, decide_eq_true_eq, array,
        if_false]
    obtain ⟨keyword, tail, rfl⟩ :=
      List.exists_cons_of_length_pos (by simpa using longer 1 length)
    have one := after 0 (by simp)
    have same : keyword.kind = twin.kindAfterType := by
      rw [kindAfterType, length, one.2.2]
      rfl
    rw [← same] at apart
    have here : (cursor.next.kind = .symbol .openBracket &&
        cursor.next.kindAt 1 = .symbol .closeBracket) = false := by
      simp [show cursor.next.kind = _ from one.1, apart]
    have there : (twin.next.kind = .symbol .openBracket &&
        twin.next.kindAt 1 = .symbol .closeBracket) = false := by
      simp [show twin.next.kind = _ from one.2.1, apart]
    rw [bind_assoc]
    apply Tears.look (by rw [here, there])
    rw [if_neg (by simp [here]), pure_bind]
    exact rest _ [first] keyword tail _ _ rfl (.plain names) same next

/-! ## Functions of a property -/

theorem tears_untypedFunction
    (opens : cut.Opens outer row) (abreast : cut.Abreast row cursor twin) :
    (function none).Tears cut (fun _ => outer) (cut.Breaks outer) cursor
      twin := by
  have shape : cut.Opens outer ([] ++ row) := opens
  exact tears_function none (List.forall_mem_nil _) (by rintro _ _ ⟨⟩) shape
    (fun _ kind => leads_callable (.inl rfl) kind) abreast

/-- A function of a property is read in both runs, or its line is the last. -/
theorem tears_accessor
    (opens : cut.Opens outer row) (abreast : cut.Abreast row cursor twin)
    (more : row ≠ []) (starts : twin.atFunctionStart = true) :
    accessor.Tears cut (fun _ => outer) (cut.Breaks outer) cursor twin := by
  unfold accessor
  apply Tears.look (by rw [abreast.kind_eq more])
  split
  · exact tears_untypedFunction opens abreast
  · rename_i typed
    rw [← abreast.kind_eq more] at typed
    simp only [atFunctionStart, Bool.or_eq_true, Bool.and_eq_true,
      decide_eq_true_eq, typed, false_or] at starts
    obtain ⟨typed, follows⟩ := starts
    apply Tears.typeName abreast typed
    · simp [follows]
    · simp [follows]
    · rintro found before first tail after twinAfter rfl spelled _ abreast
      exact tears_function (some found) spelled.oneLine spelled.isPlain opens
        (fun _ kind => spelled.leads_function kind) abreast

end Reader

namespace Recovery

open Reader

theorem carries_complainIf (applies : Bool) (found : Function) {cause : Cause}
    (inner : cause.isInner = true) :
    (complainIf applies found cause).Carries cut outer
      fun _ => outer := by
  unfold complainIf
  split
  · exact .of_tells (fun _ => tells_complain _ _)
      fun _ => travels_complain inner _
  · exact .pure _

/-- Placing a function of a property opens no block. -/
theorem carries_placeAccessor
    (property : String) (accessors : Reader.Accessors) (found : Function) :
    (placeAccessor property accessors found).Carries cut outer
      fun _ => outer := by
  unfold placeAccessor
  dsimp only
  split
  · apply (carries_complainIf _ _ rfl).bind
    intro _
    exact (carries_complainIf _ _ rfl).bind fun _ => .pure _
  · split
    · apply (carries_complainIf _ _ rfl).bind
      intro _
      exact (carries_complainIf _ _ rfl).bind fun _ => .pure _
    · exact (carries_complainIf _ _ rfl).bind fun _ => .pure _

/-- What is kept of a function that cannot be told is discarded. -/
theorem unwinds_unseenAccessor
    {α : Type} {stack : α → List Opening} (value : α) (diagnostic : Diagnostic)
    (opens : cut.Opens (stack value) row) (abreast : cut.Abreast row cursor twin)
    (more : row ≠ []) (starts : cursor.atMemberStart = true)
    (unseen : twin.atMemberStart = false)
    (other : diagnostic.cause.isUnterminated = false) :
    Unwinds (do
      reportAndSkipLine diagnostic
      return value) cut stack twin := by
  obtain ⟨oneLine, closes⟩ := abreast.short_of_atMemberStart more starts unseen
  have goal := goal_of_unseen opens abreast more oneLine closes
    (atDeclaration_of_atMemberStart starts) unseen
  have breaks : cut.Breaks (stack value) diagnostic twin :=
    ⟨abreast.inLastLine oneLine, other, goal⟩
  exact breaks.unwinds_skipLine.bind fun _ _ spent => .pure spent

/-- A step leaves the property open, and its last keyword closes it. -/
theorem carries_nextAccessor
    (keyword : Token) (property : String) (accessors : Reader.Accessors) :
    (nextAccessor keyword property accessors).Carries cut
      (⟨.property, keyword⟩ :: outer)
      (Step.opened (⟨.property, keyword⟩ :: outer) outer) := by
  have growsSkip (diagnostic : Diagnostic) (cursor : Cursor) : Grows (do
      reportAndSkipLine diagnostic
      return (Step.again accessors)) cursor :=
    (grows_reportAndSkipLine _).bind fun _ _ => .pure _
  have placed (found : Function) (stack : List Opening) : Carries (do
      return Step.again (← placeAccessor property accessors found)) cut
      stack (Step.opened stack outer) :=
    (carries_placeAccessor property accessors found).bind fun _ => .again _
  apply carries_skipNewlines.bind
  intro _
  constructor
  · intro cursor
    apply Grows.get
    split
    · apply grows_advance.bind
      exact fun _ _ => (travels_finishLine _ _).grows.bind fun _ _ => .pure _
    · split
      · exact grows_advance.bind fun _ _ => .pure _
      · split
        · apply Grows.run_bind (advances_accessor cursor).travels
          intro answer middle
          cases answer with
          | ok found => exact (placed found outer).grows middle
          | error diagnostic => exact growsSkip _ _
        · split
          · exact (travels_reportUnterminated _ _).grows.bind fun _ _ => .pure _
          · exact .unexpected fun _ => growsSkip _ _
  -- on the cut line, by what the whole run finds first
  · intro cursor twin atLine
    obtain ⟨row, more, opens, abreast⟩ := id atLine
    have same := atLine.kind
    by_cases closes : cursor.kind = .keyword .endProperty
    · obtain ⟨first, row, rfl⟩ := List.exists_cons_of_ne_nil more
      apply Tears.look (by rw [same, if_pos closes, if_pos closes])
      rw [if_pos closes]
      apply Tears.take abreast
      exact (tears_terminator _ opens abreast.next
        (abreast.kind.1.symm.trans closes)).carry fun _ => .done _
    by_cases doc : cursor.kind = .docComment
    · obtain ⟨first, row, rfl⟩ := List.exists_cons_of_ne_nil more
      apply Tears.look (by rw [same, if_neg closes, if_neg closes, if_pos doc,
        if_pos doc])
      rw [if_neg closes, if_pos doc]
      apply Tears.take abreast
      exact fun _ => .of_opens
        (opens.docComment (abreast.kind.1.symm.trans doc)) abreast.next
    by_cases seen : twin.atFunctionStart = true
    · have starts := abreast.atFunctionStart_of_twin seen
      apply Tears.look (by rw [same, if_neg closes, if_neg closes, if_neg doc,
        if_neg doc, if_pos seen, if_pos starts])
      rw [if_neg closes, if_neg doc, if_pos starts]
      apply Tears.run_bind (tears_accessor opens abreast more seen)
      · exact fun found middle => (placed found outer).grows middle
      · exact fun _ _ => (tells_reportAndSkipLine _).bind fun _ _ => .pure _
      · exact fun found _ _ atLine => (placed found _).tears atLine
      · exact fun found _ spent => (placed found _).unwinds spent
      · intro diagnostic twin breaks
        exact breaks.unwinds_skipLine.bind fun _ _ spent => .pure spent
    -- a function that only the whole run sees is what the cut run unwinds for
    by_cases starts : cursor.atFunctionStart = true
    · obtain ⟨member, unseen⟩ := abreast.atMemberStart_of_atFunctionStart more
        starts (Bool.eq_false_iff.2 seen)
      have notEnd : cursor.kind ≠ .endOfText :=
        ne_endOfText_of_atFunctionStart starts
      apply Unwinds.tears
      apply Unwinds.get
      rw [same, if_neg closes, if_neg doc, if_neg seen,
        if_neg (by simp [notEnd, unseen])]
      apply Unwinds.unexpected
      exact fun diagnostic => unwinds_unseenAccessor _ diagnostic opens abreast
        more member unseen
    · apply Tells.tears
      apply Tells.get
      rw [if_neg closes, if_neg doc, if_neg starts]
      split
      · exact (tells_reportUnterminated _ _).bind fun _ _ => .pure _
      · exact .unexpected fun _ =>
          (tells_reportAndSkipLine _).bind fun _ _ => .pure _
  · intro twin spent
    apply Unwinds.get
    have noFunction : twin.atFunctionStart = false := by
      simp [Cursor.atFunctionStart, Cursor.atTypeStart, spent.atEnd,
        Kind.isTypeKeyword]
    rw [spent.atEnd, noFunction]
    exact (unwinds_reportUnterminated spent).bind fun _ _ spent => .pure spent

theorem carries_propertyBlock (keyword : Token) (property : String) :
    (propertyBlock keyword property).Carries cut
      (⟨.property, keyword⟩ :: outer) fun _ => outer := by
  have list : (accessorList keyword property).Carries cut
      (⟨.property, keyword⟩ :: outer) fun _ => outer :=
    .inBlock (.loop (proceeds_nextAccessor keyword property)
      (carries_nextAccessor keyword property) _)
  apply list.bind
  intro accessors
  unfold reportNoAccessor
  split
  · exact (Carries.of_tells (fun _ => tells_complain _ _)
      fun _ => travels_complain rfl _).bind fun _ => .pure _
  · exact .pure _

/-! ## Sources of values -/

/-- A property with functions is closed behind its block. -/
theorem carries_fullSource
    (property : String) (keyword : Token) (line : Reader.PropertyLine) :
    (fullSource property keyword line).Carries cut
      (⟨.property, keyword⟩ :: outer) fun _ => outer := by
  have initial : (reportInitialValue property
      line.header.initial).Carries cut (⟨.property, keyword⟩ :: outer)
      fun _ => ⟨.property, keyword⟩ :: outer := by
    unfold reportInitialValue
    split
    · exact .of_tells (fun _ => tells_complain _ _)
        fun _ => travels_complain rfl _
    · exact .pure _
  apply initial.bind
  intro _
  exact (carries_propertyBlock keyword property).bind fun _ => .pure _

theorem carries_automaticSource
    (property : String) (keyword : Token) (line : Reader.PropertyLine) :
    (automaticSource property keyword line).Carries cut outer
      fun _ => outer := by
  unfold automaticSource
  split
  · split
    · exact .pure _
    · unfold reportMissingValue
      split
      · exact (Carries.of_tells (fun _ => tells_complain _ _)
          fun _ => travels_complain rfl _).bind fun _ => .pure _
      · exact .pure _
  · exact .pure _

/-- A value of a property with functions of its own is reported. -/
theorem valueless_fullSource
    (property : String) (keyword : Token) (line : Reader.PropertyLine) :
    (fullSource property keyword line).Covers cursor
      fun _ _ => line.header.initial = none := by
  unfold fullSource reportInitialValue
  split
  · apply Tells.covers
    apply (tells_complain _ _).bind
    intro _ after
    exact (travels_propertyBlock _ _ after).grows.bind fun _ _ => .pure _
  · rename_i absent
    rw [pure_bind]
    apply (covers_propertyBlock _ _).bind
    intro accessors after
    exact .pure fun _ _ => absent

/-- At the end of what is kept no function follows a header line. -/
theorem ends_standsAlone
    {line : Reader.PropertyLine} (spent : cut.Spent outer twin)
    (alone : (line.intact || line.header.automatic.isSome) = false) :
    (standsAlone line).Ends twin fun stands last =>
      stands = true ∧ cut.Spent outer last := by
  unfold standsAlone
  rw [if_neg (by rw [alone]; nofun)]
  apply Ends.bind
    (ends_of_travels (travels_skipNewlines twin) spent)
  intro _ last spent
  refine ⟨?_, spent⟩
  show (!last.atFunctionStart) = true
  simp [Cursor.atFunctionStart, Cursor.atTypeStart, spent.atEnd,
    Kind.isTypeKeyword]

end Recovery

/-! ## Whole properties -/

namespace Reader

open Recovery

def afterPropertyLine
    (build : PropertySource → Position → Property) (keyword : Token)
    (property : String) (line : PropertyLine) : Reader Property := do
  if ← standsAlone line then
    return build (.auto line.header.initial) line.stop
  else
    match line.header.automatic with
    | some automatic =>
      let source ← automaticSource property automatic line
      return build source line.stop
    | none =>
      let source ← fullSource property keyword line
      return build source (← get).lastEnd

/-- What follows the header line is a reader by itself. -/
theorem propertyAfter_eq (type : TypeName) :
    propertyAfter type = (do
      let keyword ← expect (.keyword .property) ""
      let name ← identifier "property name"
      let line ← propertyLine
      let build (source : PropertySource) (stop : Position) : Property :=
        { type
          name
          source
          hidden := line.header.hidden
          conditional := line.header.conditional
          doc := line.doc
          span := ⟨type.span.start, stop⟩ }
      afterPropertyLine build keyword name.name line) :=
  rfl

section AfterLine

variable {build : PropertySource → Position → Property} {property : String}
  {line : PropertyLine}

/-- Behind its header line a property takes no report back. -/
theorem grows_afterPropertyLine (cursor : Cursor) :
    (afterPropertyLine build keyword property line).run.Grows cursor := by
  have travels : (afterPropertyLine build keyword property line).Travels
      cursor := by
    unfold afterPropertyLine
    apply (travels_standsAlone line cursor).lift.bind
    intro alone after
    split
    · exact .pure _
    · split
      · exact (travels_automaticSource _ _ _ after).lift.bind
          fun _ _ => .pure _
      · exact (travels_fullSource _ _ _ after).lift.bind
          fun _ _ => .get (.pure _)
  exact travels.run.grows

/-- A property with a block that is read without a report has no initial
value. -/
theorem valueless_afterPropertyLine (intact : line.intact = true) :
    (afterPropertyLine build keyword property line).Covers cursor fun _ _ =>
      line.header.automatic = none → line.header.initial = none := by
  unfold afterPropertyLine
  apply (Covers.lift (covers_standsAlone line)).bind
  intro alone after
  split
  · rename_i stands
    apply Covers.pure
    intro _ apart
    cases stands.symm.trans (apart intact).1
  · split
    · rename_i automatic isAutomatic
      apply (Covers.lift
        (covers_automaticSource _ automatic line)).bind
      intro source last
      apply Covers.pure
      intro _ _ _ _ full
      rw [isAutomatic] at full
      cases full
    · apply (Covers.lift (valueless_fullSource _ _ line)).bind
      intro source last
      apply Covers.get
      apply Covers.pure
      exact fun _ absent _ _ _ => absent

/-- Behind a header line that goes on, the property is carried to its end. -/
theorem carries_afterPropertyLine
    (goesOn : (line.intact || line.header.automatic.isSome) = true) :
    (afterPropertyLine build keyword property line).Carries cut
      (Opening.behindProperty ⟨.property, keyword⟩ outer line)
      fun _ => outer := by
  have follows : (liftM (standsAlone line) : Reader Bool) = pure false := by
    unfold standsAlone
    rw [if_pos goesOn]
    rfl
  unfold afterPropertyLine Opening.behindProperty
  rw [follows, pure_bind, if_neg Bool.false_ne_true]
  cases automatic : line.header.automatic with
  | some automatic =>
    rw [Option.isNone_some, Bool.and_false, if_neg Bool.false_ne_true]
    exact (Carries.lift (carries_automaticSource _ _ _)).bind
      fun _ => .pure _
  | none =>
    rw [automatic, Option.isSome_none, Bool.or_false] at goesOn
    rw [goesOn, Option.isNone_none, Bool.true_and, if_pos rfl]
    apply (Carries.lift (carries_fullSource _ _ _)).bind
    intro source
    exact .look (fun atLine => by
      obtain ⟨_, _, _, abreast⟩ := atLine
      rw [abreast.lastEnd]) fun _ => .pure _

/-- At the end of what is kept, an open property is reported. -/
theorem unwinds_afterPropertyLine
    (spent : cut.Spent (Opening.behindProperty ⟨.property, keyword⟩ outer line)
      twin) :
    (afterPropertyLine build keyword property line).Unwinds cut
      (fun _ => outer) twin := by
  by_cases goesOn : (line.intact || line.header.automatic.isSome) = true
  · exact (carries_afterPropertyLine goesOn).unwinds spent
  · rw [Bool.not_eq_true] at goesOn
    have broken : line.intact = false := (Bool.or_eq_false_iff.1 goesOn).1
    have same : Opening.behindProperty ⟨.property, keyword⟩ outer line =
        outer := by
      simp [Opening.behindProperty, broken]
    rw [same] at spent
    unfold afterPropertyLine Unwinds
    rw [ends_bind, ends_lift]
    apply (ends_standsAlone spent goesOn).mono
    rintro _ last ⟨rfl, spent⟩
    rw [if_pos rfl]
    exact spent

end AfterLine

/-- A property is read in both runs, or its line is the last. -/
theorem tears_propertyAfter
    (spelled : type.Spelled before) (opens : cut.Opens outer (before ++ row))
    (abreast : cut.Abreast row cursor twin) :
    (propertyAfter type).Tears cut (fun _ => outer) (cut.Breaks outer) cursor
      twin := by
  rw [propertyAfter_eq]
  apply Tears.expect abreast rfl
  · rintro keyword row rfl kind abreast
    have leads := spelled.leads_property kind
    apply Tears.identifier abreast
    · rintro name row rfl named abreast
      apply Tears.bind_run
      · exact fun line middle => grows_afterPropertyLine middle
      · intro line middle result after ran quiet ranRest silent
        rw [run_lift] at ran
        obtain ⟨same, rfl⟩ := Prod.mk.inj ran
        obtain rfl := Except.ok.inj same
        have intact := (ends_propertyLine cursor.next.next quiet).1
        obtain ⟨_, _, valueless⟩ :=
          (valueless_afterPropertyLine intact).exists_row ranRest silent
        exact Tears.lift (tears_propertyLine leads opens named abreast
          valueless) _ _ (run_lift _ _) quiet
      · intro line middle twin ran quiet atLine
        rw [run_lift] at ran
        obtain ⟨same, rfl⟩ := Prod.mk.inj ran
        obtain rfl := Except.ok.inj same
        have intact := (ends_propertyLine cursor.next.next quiet).1
        exact (carries_afterPropertyLine (by rw [intact, Bool.true_or])).tears
          atLine
      · exact fun line twin spent => unwinds_afterPropertyLine spent
    · rintro rfl cutOff
      exact opens.goal_of_cutOff (leads.oneLine_append (List.forall_mem_nil _))
        leads.isPlain_append cutOff
  · rintro rfl cutOff
    rw [List.append_nil] at opens
    exact opens.goal_of_cutOff spelled.oneLine spelled.isPlain cutOff

end Reader

end PapyrusScript
