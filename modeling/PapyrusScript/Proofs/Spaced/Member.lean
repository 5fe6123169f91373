import PapyrusScript.Proofs.Accessors

/-!
# Properties and members that are read are laid out

What the reader of a property has passed in front of more text is a layout of
its answer, unless something was reported: a header line, and for a property
with functions of its own a block of functions, in either order and with gaps,
of which nothing is reported.

A declaration that may stand anywhere is read from its row wherever it stands,
once it has been read from it without a report.  Only a comment behind it may
count as its documentation.
-/

namespace PapyrusScript

open Cursor

variable {cursor : Cursor} {row rest : List Token}

/-- A layout of a well-formed property with gaps in its block. -/
inductive Property.Spaced : Property → List Token → Prop
  | automatic {type : TypeName} {source : PropertySource} {flag : Keyword}
      {hidden conditional : Bool} {doc : Option String} {span : Span}
      {initial : Option Literal} {word token : Token}
      {row behind flags docs : List Token} (spelled : type.Spelled row)
      (kind : word.kind = .keyword .property)
      (named : token.kind = .identifier)
      (starts : Literal.InitialSpelled initial behind)
      (flagged : PropertyFlagged (some flag) hidden conditional flags)
      (documented : DocumentedEnd doc docs)
      (laid : source.LaidOut initial (some flag) []) :
      Spaced
        ⟨type, ⟨token.text, token.span⟩, source, hidden, conditional, doc, span⟩
        (row ++ word :: token :: (behind ++ flags ++ docs))
  | full {type : TypeName} {hidden conditional : Bool} {doc : Option String}
      {span : Span} {functions : List Function} {slots : Reader.Accessors}
      {word token closer line : Token}
      {row flags docs gap block : List Token} (spelled : type.Spelled row)
      (kind : word.kind = .keyword .property)
      (named : token.kind = .identifier)
      (flagged : PropertyFlagged none hidden conditional flags)
      (documented : DocumentedEnd doc docs) (gaps : IsGap gap)
      (apart : doc = none → gap ≠ [] → Heads (· ≠ .docComment) gap)
      (spaced : Function.SpacedInTurn functions block)
      (keeps : slots.OfFirst functions)
      (silent : Function.blockNews token.text word functions = [])
      (closes : closer.kind = .keyword .endProperty)
      (ends : line.kind = .newline) :
      Spaced
        ⟨type, ⟨token.text, token.span⟩, .full slots.getter slots.setter,
          hidden, conditional, doc, span⟩
        (row ++ word :: token ::
          (flags ++ docs ++ (gap ++ (block ++ [closer, line]))))

def Property.TakesComment (tree : Property) : Prop :=
  tree.doc = none ∧ ∀ getter setter, tree.source ≠ .full getter setter

namespace Reader

theorem takes_automaticSource
    {initial : Option Literal} {flag : Keyword} {hidden conditional : Bool}
    {doc : Option String} {source : PropertySource} {line : PropertyLine}
    {word : Token} (laid : source.LaidOut initial (some flag) [])
    (told : line.Says initial (some flag) hidden conditional doc)
    (kind : word.kind = .keyword flag) (property : String) :
    (automaticSource property word line).Takes [] rest fun one =>
      one.bare = source.bare := by
  cases laid with
  | auto => exact takes_automaticSource_auto told kind property
  | readOnly => exact takes_automaticSource_readOnly told kind property

/-- A property with gaps in its block is taken as one member. -/
theorem takes_property_of_spaced {tree : Property} (spaced : tree.Spaced row)
    (heads : tree.TakesComment → Heads (· ≠ .docComment) rest) :
    plainMember.Takes row rest fun found =>
      found.bare = (Member.property tree).bare := by
  cases spaced with
  | @automatic _ _ _ _ _ doc _ _ _ _ _ _ _ _ spelled kind named starts flagged
      documented laid =>
    have apart (undocumented : doc = none) : Heads (· ≠ .docComment) rest := by
      refine heads ⟨undocumented, ?_⟩
      rintro getter setter ⟨⟩
      cases laid
    apply (remarks_plainMember_of_property spelled kind fun _ same =>
      (takes_propertyAfter_automatic same kind named starts flagged
        documented apart fun _ _ told kind =>
          takes_automaticSource laid told kind _).remarks).takes.mono
    rintro _ ⟨found, rfl, same⟩
    exact congrArg Member.property same
  | @full _ _ _ _ _ _ _ _ _ _ line _ _ _ _ _ spelled kind named flagged
      documented gaps apart spaced keeps silent closes ends =>
    have newline : LineEnd rest [line] := .newline ends
    have remarks := remarks_plainMember_of_full spelled kind named flagged
      documented gaps apart spaced closes newline
    rw [silent] at remarks
    apply remarks.takes.mono
    rintro _ ⟨found, rfl, same, -⟩
    refine congrArg Member.property (same.trans ?_)
    unfold Property.bare
    rw [keeps.bare]

end Reader

open PapyrusScript.Function

/-! ## Blocks -/

/-- A layout of the rest of a property's block, which fills the slots up. -/
inductive Reader.Accessors.BlockFrom
    (property : String) (slots final : Accessors) : List Token → Prop
  | intro {functions : List Function} {gap rows : List Token}
      {closer line : Token} (gaps : IsGap gap)
      (spaced : SpacedInTurn functions rows)
      (closes : closer.kind = .keyword .endProperty)
      (ends : line.kind = .newline)
      (fills : ∀ before, slots.OfFirst before →
        final.OfFirst (before ++ functions) ∧
          accessorsNews property before functions = []) :
      BlockFrom property slots final (gap ++ (rows ++ [closer, line]))

namespace Reader.Accessors.BlockFrom

variable {property : String} {slots next final : Accessors}
  {gap behind : List Token}

theorem after (gaps : IsGap gap) (block : BlockFrom property slots final row) :
    BlockFrom property slots final (gap ++ row) := by
  cases block with
  | intro more spaced closes ends fills =>
    rw [← List.append_assoc]
    exact .intro (gaps.append more) spaced closes ends fills

/-- A function goes in front of the layout of the rest of a block. -/
theorem cons {tree : Function} (spaced : tree.Spaced row)
    (apart : tree.TakesComment → cursor.kind ≠ .docComment)
    (placed : ∀ before, slots.OfFirst before →
      next.OfFirst (before ++ [tree]) ∧ tree.accessorNews property before = [])
    (starts : behind <+: cursor.budget)
    (block : BlockFrom property next final behind) :
    BlockFrom property slots final (row ++ behind) := by
  cases block with
  | @intro functions gap rows closer line gaps others closes ends fills =>
    have front : gap <+: cursor.budget :=
      (List.prefix_append gap _).trans starts
    have listed : SpacedInTurn (tree :: functions) (row ++ (gap ++ rows)) :=
      .cons spaced gaps
        (fun takes more => heads_of_prefix front more (apart takes)) others
    have whole : BlockFrom property slots final
        ([] ++ (row ++ (gap ++ rows) ++ [closer, line])) := by
      refine .intro .nil listed closes ends fun before ofFirst => ?_
      obtain ⟨free, silent⟩ := placed before ofFirst
      obtain ⟨filled, others⟩ := fills _ free
      rw [List.append_assoc] at filled
      refine ⟨filled, ?_⟩
      rw [accessorsNews, silent, others, List.append_nil]
    simpa using whole

end Reader.Accessors.BlockFrom

namespace Recovery

variable {property : String} {keyword : Token} {slots : Reader.Accessors}

theorem consumes_placeAccessor (tree : Function) :
    (Reader.placeAccessor property slots tree).Consumes cursor
      fun placed row => row = [] ∧ ∀ before, slots.OfFirst before →
        placed.OfFirst (before ++ [tree]) ∧
          tree.accessorNews property before = [] := by
  apply Remarks.consumes
  · exact fun before ofFirst => Reader.remarks_placeAccessor ofFirst rfl rfl
  · exact (covers_placeAccessor property slots tree).mono
      fun _ _ known => known.1
  · exact travels_placeAccessor property slots tree cursor

/-- A step lays out a function in front of the rest of the block. -/
theorem consumes_nextAccessor :
    (Reader.nextAccessor keyword property slots).ConsumesTo cursor
      (Step.Unwinds (Reader.Accessors.BlockFrom property) slots) := by
  unfold Reader.nextAccessor
  apply ConsumesTo.bind consumes_skipNewlines
  intro _ middle
  apply ConsumesTo.get
  split
  · rename_i word
    apply ConsumesTo.advance (by rw [word]; rfl)
    apply ConsumesTo.bind (consumes_finishLine _)
    intro _ last
    apply Cursor.Consumes.nil
    rintro _ ⟨line, rfl, ends⟩ gap gaps
    refine .intro gaps .nil word ends fun before ofFirst => ⟨?_, rfl⟩
    rwa [List.append_nil]
  · split
    · rename_i doc
      apply ConsumesTo.advance (by rw [doc]; rfl)
      apply Cursor.Consumes.nil
      intro gap gaps final behind _ block
      rw [List.append_assoc]
      exact (block.after (.of_docComment doc)).after gaps
    · split
      · apply ConsumesTo.run_bind Reader.consumes_accessor
        · intro tree after
          apply ConsumesTo.bind
            (ConsumesTo.budget (consumes_placeAccessor tree))
          intro next last
          apply Cursor.Consumes.nil
          rintro _ ⟨⟨rfl, placed⟩, shape⟩ row ⟨spaced, apart⟩ gap gaps final
            behind starts block
          have front : behind <+: after.budget := by
            rw [shape]
            exact starts
          rw [List.append_nil, List.append_nil, List.append_assoc]
          exact (block.cons spaced apart placed front).after gaps
        · exact fun _ _ blames =>
            ⟨(tells_reportAndSkipLine _).bind fun _ _ => .pure _,
              travels_skipLineAfter blames _⟩
      · split
        · exact Tells.consumesTo
            ((tells_reportUnterminated _ _).bind fun _ _ => .pure _)
            ((travels_reportUnterminated _ _).bind fun _ _ => .pure _)
        · exact Tells.consumesTo
            ((tells_reportAndSkipLine _).bind fun _ _ => .pure _)
            ((travels_skipLineAfter (blames_unexpected middle _) _))

end Recovery

/-- A layout of the block of a property, of which nothing is reported. -/
inductive Reader.Accessors.Block
    (property : String) (keyword : Token) (slots : Accessors) :
    List Token → Prop
  | intro {functions : List Function} {gap rows : List Token}
      {closer line : Token} (gaps : IsGap gap)
      (spaced : SpacedInTurn functions rows) (keeps : slots.OfFirst functions)
      (silent : blockNews property keyword functions = [])
      (closes : closer.kind = .keyword .endProperty)
      (ends : line.kind = .newline) :
      Block property keyword slots (gap ++ (rows ++ [closer, line]))

namespace Recovery

open Reader

theorem consumes_accessorList (keyword : Token) (property : String) :
    (accessorList keyword property).Consumes cursor
      (Reader.Accessors.BlockFrom property ⟨none, none⟩) := by
  unfold accessorList
  apply Consumes.inBlock
  apply Consumes.get
  exact Consumes.unwind (proceeds_nextAccessor keyword property)
    (fun _ _ => consumes_nextAccessor) _

/-- If nothing is reported, the block has a getter or a setter. -/
theorem consumes_reportNoAccessor
    (keyword : Token) (property : String) (slots : Reader.Accessors) :
    (reportNoAccessor keyword property slots).Consumes cursor
      fun _ row => row = [] ∧ ∀ functions, slots.OfFirst functions →
        missingNews property keyword functions = [] := by
  have covers : (reportNoAccessor keyword property slots).Covers cursor
      fun _ row => row = [] := by
    unfold reportNoAccessor
    split
    · exact (tells_complain _ _).covers
    · exact .pure rfl
  apply (Remarks.consumes
    (fun functions keeps => remarks_reportNoAccessor keeps) covers
    (travels_reportNoAccessor _ _ _ _)).mono
  rintro _ row ⟨rfl, silent⟩
  exact ⟨rfl, fun functions keeps => (silent functions keeps).2⟩

/-- The block of a property is laid out, and nothing is wrong with it. -/
theorem consumes_propertyBlock (keyword : Token) (property : String) :
    (propertyBlock keyword property).Consumes cursor
      (Reader.Accessors.Block property keyword) := by
  unfold propertyBlock
  apply (consumes_accessorList keyword property).bind
  intro slots after
  apply (consumes_reportNoAccessor keyword property slots).bind
  intro _ last
  apply Consumes.pure
  rintro _ ⟨rfl, missing⟩ row block
  rw [List.append_nil, List.append_nil]
  cases block with
  | intro gaps spaced closes ends fills =>
    obtain ⟨keeps, silent⟩ := fills [] ⟨rfl, rfl⟩
    rw [List.nil_append] at keeps
    refine .intro gaps spaced keeps ?_ closes ends
    rw [blockNews, silent, missing _ keeps]
    rfl

/-! ## Header lines -/

/-- The header line of a property lays out what it says. -/
theorem consumes_propertyLine :
    propertyLine.ConsumesTo cursor fun line after row =>
      line.intact = true ∧
        (∃ front docs, row = front ++ docs ∧ line.header.Spelled front ∧
          DocumentedEnd line.doc docs) ∧
        (line.doc = none → after.kind ≠ .docComment) := by
  unfold propertyLine
  apply (travelsTo_propertyHeader cursor).bind_consumes spelled_propertyHeader
  · intro header middle
    apply ConsumesTo.get
    apply ConsumesTo.run_bind (consumes_endOfDeclaration _)
    · intro doc after
      apply Cursor.Consumes.nil
      rintro docs ⟨documented, undocumented⟩ front spelled
      rw [List.append_nil]
      exact ⟨rfl, ⟨front, docs, rfl, spelled, documented⟩, undocumented⟩
    · exact fun _ after blames =>
        ⟨(tells_reportAndSkipLine _).bind fun _ _ => .pure _,
          travels_skipLineAfter blames _⟩
  · exact fun _ _ _ blames =>
      ⟨(tells_reportAndSkipLine _).bind fun _ _ => .pure _,
        travels_skipLineAfter blames _⟩

/-! ## Sources of values -/

/-- A header line that is not broken does not stand alone. -/
theorem consumes_standsAlone (line : Reader.PropertyLine) :
    (standsAlone line).ConsumesTo cursor fun alone after row =>
      line.intact = true →
        alone = false ∧ row = [] ∧ after.budget = cursor.budget := by
  apply (ConsumesTo.budget ((covers_standsAlone line).consumes
    (travels_standsAlone line cursor))).mono
  rintro alone after consumed
  apply consumed.mono
  rintro row ⟨holds, shape⟩ intact
  obtain ⟨rfl, rfl⟩ := holds intact
  exact ⟨rfl, rfl, shape.symm⟩

/-- An automatic property has nothing behind its header line. -/
theorem consumes_automaticSource
    (property : String) (word : Token) (line : Reader.PropertyLine) :
    (automaticSource property word line).Consumes cursor
      fun source row => line.intact = true → row = [] ∧
        ∀ flag, word.kind = .keyword flag →
          (flag = .auto ∨ flag = .autoReadOnly) →
            source.LaidOut line.header.initial (some flag) [] := by
  unfold automaticSource
  split
  · rename_i readOnly
    split
    · rename_i initial found
      apply Consumes.pure
      intro intact
      refine ⟨rfl, fun flag kind _ => ?_⟩
      obtain rfl : Keyword.autoReadOnly = flag := by
        rw [readOnly] at kind
        exact Kind.keyword.inj kind
      rw [found]
      exact .readOnly
    · unfold reportMissingValue
      split
      · exact Tells.consumes ((tells_complain _ _).bind fun _ _ => .pure _)
          ((travels_complain rfl _).bind fun _ _ => .pure _)
      · rename_i broken
        exact .pure fun intact => absurd intact broken
  · rename_i other
    apply Consumes.pure
    intro intact
    refine ⟨rfl, fun flag kind automatic => ?_⟩
    rcases automatic with rfl | rfl
    · exact .auto
    · exact absurd kind other

/-- A property with functions lays out its block and has no value. -/
theorem consumes_fullSource
    (property : String) (keyword : Token) (line : Reader.PropertyLine) :
    (fullSource property keyword line).Consumes cursor
      fun source row => line.header.initial = none ∧
        ∃ slots : Reader.Accessors, source = .full slots.getter slots.setter ∧
          slots.Block property keyword row := by
  unfold fullSource reportInitialValue
  split
  · apply Tells.consumes
    · apply (tells_complain _ _).bind
      intro _ after
      exact (travels_propertyBlock _ _ after).grows.bind fun _ _ => .pure _
    · apply (travels_complain rfl _).bind
      intro _ after
      exact (travels_propertyBlock _ _ after).bind fun _ _ => .pure _
  · rename_i absent
    rw [pure_bind]
    apply (consumes_propertyBlock _ _).bind
    intro slots after
    apply Consumes.pure
    intro row block
    rw [List.append_nil]
    exact ⟨absent, slots, rfl, block⟩

end Recovery

/-! ## Whole properties -/

theorem automatic_of_flagged
    {automatic : Option Keyword} {flag : Keyword} {hidden conditional : Bool}
    (flagged : PropertyFlagged automatic hidden conditional row)
    (isFlag : automatic = some flag) :
    flag = .auto ∨ flag = .autoReadOnly := by
  induction flagged with
  | nil => cases isFlag
  | hidden _ _ ih => exact ih isFlag
  | conditional _ _ ih => exact ih isFlag
  | auto _ _ _ => exact .inl (Option.some.inj isFlag).symm
  | autoReadOnly _ _ _ => exact .inr (Option.some.inj isFlag).symm

namespace Reader

/-- A property is laid out behind its type. -/
theorem consumes_propertyAfter (type : TypeName) :
    (propertyAfter type).Consumes cursor fun found row =>
      ∀ before, type.Spelled before → found.Spaced (before ++ row) := by
  unfold propertyAfter
  apply (consumes_expect _ _ rfl).bind
  intro keyword after
  apply (consumes_identifier _).bind
  intro name after
  apply ConsumesTo.bind_lift Recovery.consumes_propertyLine
  intro line middle
  apply ConsumesTo.bind_lift (Recovery.consumes_standsAlone line)
  intro alone after
  split
  · apply Cursor.Consumes.nil
    rename_i stands
    rintro _ whole _ ⟨intact, -⟩
    cases stands.symm.trans (whole intact).1
  · split
    · rename_i word isWord
      apply ConsumesTo.bind_lift (Recovery.consumes_automaticSource _ word line)
      intro source last
      apply Cursor.Consumes.nil
      rintro _ automatic _ stands _
        ⟨intact, ⟨front, docs, rfl, spelled, documented⟩, -⟩
        _ ⟨token, rfl, named, rfl⟩ _ ⟨rfl, kind⟩ before typed
      obtain ⟨rfl, laid⟩ := automatic intact
      obtain ⟨-, rfl, -⟩ := stands intact
      cases spelled with
      | @intro automatic starts flags initial same flagged =>
        rw [isWord] at same
        cases automatic with
        | none => cases same
        | some flag =>
          have flags := laid flag (Option.some.inj same)
            (automatic_of_flagged flagged rfl)
          rw [List.append_nil, List.append_nil, List.append_nil]
          exact .automatic typed kind named initial flagged documented flags
    · rename_i manual
      apply ConsumesTo.bind_lift
        (Recovery.ConsumesTo.budget
          (Recovery.consumes_fullSource name.name keyword line))
      intro source last
      apply Cursor.Consumes.nil
      rintro _ ⟨⟨absent, slots, rfl, block⟩, shape⟩ _ stands _
        ⟨intact, ⟨front, docs, rfl, spelled, documented⟩, undocumented⟩
        _ ⟨token, rfl, named, rfl⟩ _ ⟨rfl, kind⟩ before typed
      obtain ⟨-, rfl, unmoved⟩ := stands intact
      cases spelled with
      | @intro automatic starts flags initial same flagged =>
        rw [absent] at initial
        cases initial
        rw [manual] at same
        obtain rfl := Option.map_eq_none_iff.1 same.symm
        cases block with
        | @intro functions gap rows closer last gaps spaced keeps silent closes
            ends =>
          rw [unmoved, List.append_assoc] at shape
          have apart (none : line.doc = none) (more : gap ≠ []) :
              Heads (· ≠ .docComment) gap :=
            heads_of_prefix ⟨_, shape.symm⟩ more (undocumented none)
          rw [List.append_nil]
          exact .full typed kind named flagged documented gaps apart spaced
            keeps silent closes ends

end Reader

/-! ## Declarations that are read are laid out -/

/-- A layout of a member that is neither an event nor a state, with gaps
between its lines. -/
inductive Member.Spaced : Member → List Token → Prop
  | declared {tree : Variable} {row : List Token} (laid : tree.LaidOut row) :
      Spaced (.variable tree) row
  | property {tree : Property} {row : List Token} (spaced : tree.Spaced row) :
      Spaced (.property tree) row
  | function {tree : Function} {row : List Token} (spaced : tree.Spaced row) :
      Spaced (.function tree) row

def Member.TakesComment : Member → Prop
  | .property tree => tree.TakesComment
  | .function tree => tree.TakesComment
  | .event tree => tree.TakesComment
  | .variable _ | .state _ => False

/-! ## Where a declaration starts -/

theorem Property.Spaced.starts {tree : Property} (spaced : tree.Spaced row)
    (here : cursor.budget = row ++ rest) :
    cursor.atTypeStart = true ∧ cursor.kindAfterType = .keyword .property := by
  cases spaced with
  | automatic spelled kind _ _ _ _ _ | full spelled kind _ _ _ _ _ _ _ _ _ _ =>
    rw [List.append_assoc] at here
    have after := Reader.kindAfterType_of_spelled spelled
      (by rw [kind]; exact nofun) here
    rwa [kind] at after

theorem Property.Spaced.heads {tree : Property} (spaced : tree.Spaced row) :
    Heads Kind.startsType (row ++ rest) := by
  cases spaced with
  | automatic spelled _ _ _ _ _ _ | full spelled _ _ _ _ _ _ _ _ _ _ _ =>
    rw [List.append_assoc]
    exact Reader.heads_spelled spelled

namespace Member.Spaced

variable {tree : Member}

theorem atDeclaration
    (spaced : tree.Spaced row) (here : cursor.budget = row ++ rest) :
    cursor.atDeclaration = true := by
  cases spaced with
  | declared laid => exact (Member.LaidOut.declared laid).atDeclaration here
  | property spaced =>
    obtain ⟨typed, follows⟩ := spaced.starts here
    exact atDeclaration_of_type typed (.inr (.inr follows))
  | function spaced =>
    rcases spaced.starts here with isFunction | ⟨typed, follows⟩
    · exact atDeclaration_of_word isFunction rfl
    · exact atDeclaration_of_type typed (.inr (.inl follows))

theorem heads (spaced : tree.Spaced row) :
    Heads Kind.startsPlainMember (row ++ rest) := by
  cases spaced with
  | declared laid =>
    cases laid with
    | intro spelled _ _ _ _ =>
      rw [List.append_assoc]
      exact (Reader.heads_spelled spelled).mono fun _ => Or.inr
  | property spaced => exact spaced.heads.mono fun _ => Or.inr
  | function spaced => exact spaced.heads

end Member.Spaced

namespace Reader

/-! ## Layouts are taken -/

theorem takes_plainMember_of_spaced {tree : Member} (spaced : tree.Spaced row)
    (heads : tree.TakesComment → Heads (· ≠ .docComment) rest) :
    plainMember.Takes row rest fun found => found.bare = tree.bare := by
  cases spaced with
  | declared laid => exact takes_plainMember_variable laid
  | property spaced => exact takes_property_of_spaced spaced heads
  | function spaced =>
    apply (takes_plainMember_of_accessor
      (takes_accessor_of_spaced spaced heads)).mono
    rintro _ ⟨found, rfl, same, -⟩
    exact congrArg Member.function same

/-! ## Readers consume layouts -/

/-- A variable is laid out behind its type. -/
theorem consumes_variableAfter (type : TypeName) :
    (variableAfter type).Consumes cursor fun found row =>
      ∀ before, type.Spelled before → found.LaidOut (before ++ row) := by
  unfold variableAfter
  apply (consumes_identifier _).bind
  intro name after
  apply (spelled_initialConstant.consumes
    (travels_initialConstant after)).bind
  intro initial middle
  apply Consumes.bind (.lift (Recovery.flagged_variableFlags.consumes
    (travels_variableFlags middle)))
  intro conditional last
  apply Consumes.get
  apply (consumes_endOfLine _).bind
  intro _ _
  apply Consumes.pure
  rintro _ ⟨line, rfl, ends⟩ flags flagged starts spelled _
    ⟨token, rfl, named, rfl⟩ before typed
  rw [List.append_nil]
  exact .intro typed named spelled flagged ends

/-- A variable, property or function is laid out with its type. -/
theorem consumes_typedMember :
    typedMember.Consumes cursor fun member row => member.Spaced row := by
  unfold typedMember
  apply consumes_typeName.bind
  intro type after
  apply Consumes.get
  split
  · apply Consumes.map
    apply (consumes_function (some type)).mono
    rintro found last row ⟨spaced, -⟩ before spelled
    exact .function (spaced before (.value spelled))
  · apply Consumes.map
    apply (consumes_propertyAfter type).mono
    exact fun found row spaced before spelled =>
      .property (spaced before spelled)
  · apply Consumes.map
    apply (consumes_variableAfter type).mono
    exact fun found row laid before spelled => .declared (laid before spelled)
  · exact (advances_reject _).travels

theorem consumes_plainMember :
    plainMember.Consumes cursor fun member row => member.Spaced row := by
  unfold plainMember
  apply Consumes.get
  split
  · apply Consumes.map
    apply (consumes_function none).mono
    exact fun found _ row known => .function (known.1 [] .nothing)
  · exact consumes_typedMember

end Reader

end PapyrusScript
