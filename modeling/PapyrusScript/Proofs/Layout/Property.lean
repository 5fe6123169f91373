import PapyrusScript.Proofs.Layout.Callable
import PapyrusScript.Proofs.Remark

/-!
# Properties are read as they are laid out

The flags in the header of a property say whether functions of its own follow.
They are read until the end of the property, the getter first: a function of a
property is told from the end of the property by its first tokens, and goes
into its slot by its name.
-/

namespace PapyrusScript

open Cursor

variable {row rest : List Token}

/-! ## Where a function starts -/

/-- A member that is neither an event nor a state may start with a token of
the kind. -/
def Kind.startsPlainMember (kind : Kind) : Prop :=
  kind = .keyword .function ∨ kind.startsType

instance (kind : Kind) : Decidable kind.startsPlainMember :=
  inferInstanceAs (Decidable (_ ∨ _))

theorem Kind.isVisible_of_startsPlainMember
    {kind : Kind} (starts : kind.startsPlainMember) : kind.isVisible := by
  rcases starts with rfl | typed
  · exact Kind.isVisible_keyword _
  · exact Kind.isVisible_of_startsType typed

def Cursor.AtFunction (cursor : Cursor) : Prop :=
  cursor.kind = .keyword .function ∨
    cursor.atTypeStart = true ∧ cursor.kindAfterType = .keyword .function

namespace TypeName.Returned

variable {returnType : Option TypeName} {type : List Token} {word : Token}

theorem starts {cursor : Cursor} (returns : Returned returnType type)
    (kind : word.kind = .keyword .function)
    (here : cursor.budget = type ++ word :: rest) : cursor.AtFunction := by
  cases returns with
  | nothing => exact Or.inl ((kind_of_budget here).trans kind)
  | value spelled =>
    have after := Reader.kindAfterType_of_spelled spelled
      (by rw [kind]; exact nofun) here
    rw [kind] at after
    exact Or.inr after

theorem heads (returns : Returned returnType type)
    (kind : word.kind = .keyword .function) :
    Heads Kind.startsPlainMember (type ++ word :: rest) := by
  cases returns with
  | nothing => exact Or.inl kind
  | value spelled =>
    exact (Reader.heads_spelled spelled).mono fun _ => Or.inr

end TypeName.Returned

namespace Function

variable {tree : Function}

theorem LaidOut.starts {cursor : Cursor} (laid : tree.LaidOut row)
    (here : cursor.budget = row ++ rest) : cursor.AtFunction := by
  cases laid with
  | intro returns kind _ _ _ _ _ =>
    rw [List.append_assoc] at here
    exact returns.starts kind here

theorem LaidOut.heads (laid : tree.LaidOut row) :
    Heads Kind.startsPlainMember (row ++ rest) := by
  cases laid with
  | intro returns kind _ _ _ _ _ =>
    rw [List.append_assoc]
    exact returns.heads kind

theorem LaidOut.visible (laid : tree.LaidOut row) :
    Heads Kind.isVisible (row ++ rest) :=
  laid.heads.mono fun _ => Kind.isVisible_of_startsPlainMember

end Function

namespace Reader

variable {accessors : Accessors}

/-- A function with or without a return type, from its parts. -/
theorem takes_accessor_of_parts
    {returnType : Option TypeName} {parameters : List Parameter}
    {list : List Statement} {native global : Bool} {doc : Option String}
    {nameSpan span : Span} {word token : Token}
    {type row flags docs inside : List Token}
    (returns : TypeName.Returned returnType type)
    (kind : word.kind = .keyword .function) (named : token.kind = .identifier)
    (listed : Parameter.Parenthesized parameters row)
    (flagged : CallableFlagged .function native global flags)
    (documented : DocumentedEnd doc docs)
    (apart : doc = none → Heads (· ≠ .docComment) (inside ++ rest))
    (taken : (callableBody .function word ⟨native, global⟩).Takes inside rest
      fun found => Statement.bareBody found = Statement.bareBody list) :
    accessor.Takes
      (type ++ word :: token :: (row ++ (flags ++ docs) ++ inside)) rest
      fun found =>
        found.bare =
          Function.bare
            { returnType, name := ⟨token.text, nameSpan⟩, parameters,
              body := list, native, global, doc, span } ∧
          found.name = ⟨token.text, token.span⟩ := by
  unfold accessor
  apply Takes.get
  intro cursor here
  cases returns with
  | nothing =>
    rw [if_pos ((kind_of_budget here).trans kind)]
    exact takes_function rfl kind named listed flagged documented apart taken
  | value spelled =>
    have bracket : Heads (· ≠ .symbol .openBracket)
        (word :: token :: (row ++ (flags ++ docs) ++ inside) ++ rest) :=
      heads_ne kind nofun
    have typed : cursor.kind ≠ .keyword .function := by
      rw [List.append_assoc] at here
      have starts := (heads_spelled spelled).kind here
      intro found
      rw [found] at starts
      cases starts
    rw [if_neg typed]
    apply Takes.bind (takes_typeName spelled bracket)
    intro found same
    exact takes_function (congrArg some same) kind named listed flagged
      documented apart taken

theorem takes_accessor
    {tree : Function} (laid : tree.LaidOut row) (wellFormed : tree.WellFormed)
    (heads : Heads Kind.isVisible rest) :
    accessor.Takes row rest fun found => found.bare = tree.bare := by
  cases laid with
  | intro returns kind named listed flagged documented laid =>
    exact (takes_accessor_of_parts returns kind named listed flagged
      documented (apart_of_callableBody laid heads)
      (takes_callableBody laid wellFormed.native wellFormed.body rfl
        _)).mono fun _ known => known.1

/-! ## Slots -/

theorem isNamed_of_bare_eq
    {first second : Function} (same : first.bare = second.bare)
    (name : String) :
    first.name.isNamed name = second.name.isNamed name := by
  have names := congrArg (fun tree => tree.name.isNamed name) same
  exact names

theorem length_parameters_of_bare_eq
    {first second : Function} (same : first.bare = second.bare) :
    first.parameters.length = second.parameters.length := by
  have parameters := congrArg (fun tree => tree.parameters.length) same
  simpa only [Function.bare, List.length_map] using parameters

theorem isNamed_get_of_isNamed_set
    {name : Identifier} (isSet : name.isNamed "Set" = true) :
    name.isNamed "Get" = false := by
  unfold Identifier.isNamed Text.sameLetters at *
  rw [decide_eq_true_eq] at isSet
  rw [isSet]
  decide

/-- A getter is put into its slot without a report. -/
theorem takes_placeAccessor_getter
    {tree found : Function} (property : String) (isGetter : tree.IsGetter)
    (same : found.bare = tree.bare) (free : accessors.getter = none) :
    (placeAccessor property accessors found).Takes [] rest fun placed =>
      placed = { accessors with getter := some found } := by
  have named : found.name.isNamed "Get" = true :=
    (isNamed_of_bare_eq same "Get").trans isGetter.named
  have empty : found.parameters = [] := by
    have length := length_parameters_of_bare_eq same
    rw [isGetter.parameters] at length
    exact List.length_eq_zero_iff.1 length
  unfold placeAccessor complainIf
  simp only [named, empty, free, if_true, List.isEmpty_nil, Bool.not_true,
    Option.isSome_none, Bool.false_eq_true, if_false]
  exact .pure rfl

theorem takes_placeAccessor_setter
    {tree found : Function} (property : String) (isSetter : tree.IsSetter)
    (same : found.bare = tree.bare) (free : accessors.setter = none) :
    (placeAccessor property accessors found).Takes [] rest fun placed =>
      placed = { accessors with setter := some found } := by
  have named : found.name.isNamed "Set" = true :=
    (isNamed_of_bare_eq same "Set").trans isSetter.named
  have other := isNamed_get_of_isNamed_set named
  have single : found.parameters.length = 1 :=
    (length_parameters_of_bare_eq same).trans isSetter.parameters
  unfold placeAccessor complainIf
  simp only [named, other, single, free, if_true, Option.isSome_none,
    Bool.false_eq_true, if_false, ne_eq, not_true_eq_false, decide_false]
  exact .pure rfl

/-! ## The block of a property -/

variable {behind : List Token} {keyword : Token} {property : String}

/-- A function is read and placed.  What is placed may be reported. -/
theorem remarks_nextAccessor_of_accessor
    {news : List Diagnostic} {known : Function → Prop} {fact : Accessors → Prop}
    (starts : ∀ cursor : Cursor, cursor.budget = row ++ rest →
      cursor.AtFunction)
    (visible : Heads Kind.isVisible (row ++ rest))
    (reads : accessor.Takes row rest known)
    (placed : ∀ found, known found →
      (placeAccessor property accessors found).Remarks [] rest news fact) :
    (nextAccessor keyword property accessors).Remarks row rest news
      fun decision =>
        ∃ following, decision = .again following ∧ fact following := by
  have line : Heads (· ≠ .newline) (row ++ rest) :=
    visible.mono fun _ visible => visible.1
  unfold nextAccessor
  apply Recovery.Takes.afterRemarks (takes_skipNewlines line)
  intro _ _
  apply Recovery.Remarks.get
  intro cursor here
  have noComment : cursor.kind ≠ .docComment := (visible.kind here).2
  have function : cursor.atFunctionStart = true := by
    unfold atFunctionStart
    rcases starts cursor here with isFunction | ⟨type, isFunction⟩
    · simp [isFunction]
    · simp [type, isFunction]
  have opened : cursor.kind ≠ .keyword .endProperty := by
    intro found
    rcases starts cursor here with isFunction | ⟨type, _⟩
    · rw [found] at isFunction
      cases isFunction
    · unfold atTypeStart at type
      rw [found] at type
      cases type
  rw [if_neg opened, if_neg noComment, if_pos function, ← List.append_nil row]
  apply Recovery.Takes.bindRemarks reads.run
  rintro _ ⟨found, rfl, holds⟩
  apply (placed found holds).bind_nil
  exact fun following holds => .pure ⟨following, rfl, holds⟩

/-- A function goes into the slot that its name asks for. -/
theorem takes_nextAccessor
    {tree : Function} {slot : Function → Accessors} (laid : tree.LaidOut row)
    (wellFormed : tree.WellFormed) (heads : Heads Kind.isVisible rest)
    (placed : ∀ found : Function, found.bare = tree.bare →
      (placeAccessor property accessors found).Takes [] rest fun after =>
        after = slot found) :
    (nextAccessor keyword property accessors).Takes row rest fun decision =>
      ∃ following, decision = .again following ∧
        ∃ found : Function, following = slot found ∧
          found.bare = tree.bare := by
  apply Recovery.Remarks.takes
  apply remarks_nextAccessor_of_accessor (fun _ => laid.starts) laid.visible
    (takes_accessor laid wellFormed heads)
  intro found same
  apply (placed found same).remarks.mono
  rintro _ rfl
  exact ⟨found, rfl, same⟩

/-- The end of a property is taken with the end of its line. -/
theorem takes_nextAccessor_end
    {closer : Token} {ending : List Token} (accessors : Accessors)
    (closes : closer.kind = .keyword .endProperty)
    (ends : LineEnd rest ending) :
    (nextAccessor keyword property accessors).Takes (closer :: ending) rest
      fun decision =>
        ∃ final, decision = .done final ∧ final = accessors := by
  have begins : Heads (· ≠ .newline) (closer :: ending ++ rest) :=
    heads_ne closes nofun
  unfold nextAccessor
  apply Recovery.Takes.after (takes_skipNewlines begins)
  intro _ _
  apply Recovery.Takes.get
  intro cursor here
  rw [if_pos ((kind_of_budget here).trans closes)]
  apply Recovery.Takes.advance (by simp [closes])
  apply Recovery.Takes.bind_nil (takes_finishLine_of_lineEnd ends _)
  intro _ _
  exact .pure ⟨_, rfl, rfl⟩

section Block

variable {getter setter : Option Function} {first second : List Token}
  {closer line : Token} (sets : Function.LaidOutIfAny setter second)
  (closes : closer.kind = .keyword .endProperty)
  (ends : line.kind = .newline)
  (isSetter : ∀ tree ∈ setter, tree.IsSetter)

include sets closes ends isSetter

/-- A setter and the end of the property are taken behind the getter. -/
theorem takes_setter (accessors : Accessors) (free : accessors.setter = none) :
    (Recovery.iterate (nextAccessor keyword property) accessors).Takes
      (second ++ [closer, line]) rest fun final =>
        final.getter = accessors.getter ∧
          final.setter.map Function.bare = setter.map Function.bare := by
  have proceeds := Recovery.proceeds_nextAccessor keyword property
  cases sets with
  | absent =>
    apply Recovery.Takes.done proceeds
    apply (takes_nextAccessor_end accessors closes (.newline ends)).mono
    intro _ reached
    obtain ⟨_, rfl, rfl⟩ := reached
    refine ⟨_, rfl, rfl, ?_⟩
    rw [free]
  | @present tree _ laid =>
    have own := isSetter tree rfl
    have heads : Heads Kind.isVisible ([closer, line] ++ rest) :=
      heads_of_keyword closes
    apply Recovery.Takes.again proceeds
      (takes_nextAccessor laid own.wellFormed heads fun found same =>
        takes_placeAccessor_setter property own same free)
    intro _ reached
    obtain ⟨found, rfl, same⟩ := reached
    apply Recovery.Takes.done proceeds
    apply (takes_nextAccessor_end _ closes (.newline ends)).mono
    intro _ reached
    obtain ⟨_, rfl, rfl⟩ := reached
    exact ⟨_, rfl, rfl, congrArg some same⟩

/-- The functions of a property are taken, the getter first. -/
theorem takes_accessors (gets : Function.LaidOutIfAny getter first)
    (isGetter : ∀ tree ∈ getter, tree.IsGetter) :
    (Recovery.iterate (nextAccessor keyword property) ⟨none, none⟩).Takes
      (first ++ (second ++ [closer, line])) rest fun final =>
        final.getter.map Function.bare = getter.map Function.bare ∧
          final.setter.map Function.bare = setter.map Function.bare := by
  have proceeds := Recovery.proceeds_nextAccessor keyword property
  cases gets with
  | absent =>
    apply (takes_setter sets closes ends isSetter _ rfl).mono
    intro final reached
    obtain ⟨unchanged, same⟩ := reached
    exact ⟨congrArg _ unchanged, same⟩
  | @present tree _ laid =>
    have own := isGetter tree rfl
    have heads : Heads Kind.isVisible
        (second ++ [closer, line] ++ rest) := by
      rw [List.append_assoc]
      cases sets with
      | absent => exact heads_of_keyword closes
      | present laid => exact laid.visible
    apply Recovery.Takes.again proceeds
      (takes_nextAccessor laid own.wellFormed heads fun found same =>
        takes_placeAccessor_getter property own same rfl)
    intro _ reached
    obtain ⟨found, rfl, same⟩ := reached
    apply (takes_setter sets closes ends isSetter _ rfl).mono
    intro final reached
    obtain ⟨unchanged, sameToo⟩ := reached
    refine ⟨?_, sameToo⟩
    rw [unchanged]
    exact congrArg some same

/-- The block of a property is taken if it has at least one function. -/
theorem takes_propertyBlock (gets : Function.LaidOutIfAny getter first)
    (isGetter : ∀ tree ∈ getter, tree.IsGetter)
    (several : getter.isSome = true ∨ setter.isSome = true) :
    (propertyBlock keyword property).Takes
      (first ++ (second ++ [closer, line])) rest fun final =>
        final.getter.map Function.bare = getter.map Function.bare ∧
          final.setter.map Function.bare = setter.map Function.bare := by
  unfold propertyBlock accessorList
  apply Recovery.Takes.bind_nil
    (takes_accessors sets closes ends isSetter gets isGetter).inBlock
  intro final reached
  obtain ⟨sameGetter, sameSetter⟩ := reached
  have getterToo := congrArg Option.isSome sameGetter
  have setterToo := congrArg Option.isSome sameSetter
  rw [Option.isSome_map, Option.isSome_map] at getterToo setterToo
  have found : ¬ (final.getter.isNone && final.setter.isNone) = true := by
    rw [← getterToo, ← setterToo] at several
    rw [Bool.and_eq_true, Option.isNone_iff_eq_none, Option.isNone_iff_eq_none]
    intro reached
    obtain ⟨noGetter, noSetter⟩ := reached
    rw [noGetter, noSetter] at several
    rcases several with never | never
    · cases never
    · cases never
  unfold reportNoAccessor
  rw [if_neg found]
  exact .pure ⟨sameGetter, sameSetter⟩

end Block

end Reader

namespace Reader

variable {word : Token}
variable {hidden conditional : Bool} {initial : Option Literal}
  {automatic : Option Keyword} {source : PropertySource}
  {type found : TypeName} {doc : Option String} {token : Token}
  {nameSpan span : Span}

/-! ## Flags -/

/-- What a header says after some more flags. -/
structure PropertyHeader.Extends
    (found header : PropertyHeader) (automatic : Option Keyword)
    (hidden conditional : Bool) : Prop where
  initial : found.initial = header.initial
  automatic : found.automatic.map Token.kind =
    (header.automatic.map Token.kind).or (automatic.map Kind.keyword)
  hidden : found.hidden = (header.hidden || hidden)
  conditional : found.conditional = (header.conditional || conditional)

theorem takes_propertyFlag_hidden
    (kind : word.kind = .keyword .hidden) (header : PropertyHeader) :
    (propertyFlag (header, none)).Takes [word] rest fun decision =>
      ∃ following, decision = .again following ∧
        following = ({ header with hidden := true }, none) := by
  unfold propertyFlag
  apply Recovery.Takes.get
  intro cursor here
  rw [(kind_of_budget here).trans kind]
  apply Recovery.Takes.advance (by simp [kind])
  exact .pure ⟨_, rfl, rfl⟩

theorem takes_propertyFlag_conditional
    (kind : word.kind = .keyword .conditional) (header : PropertyHeader) :
    (propertyFlag (header, none)).Takes [word] rest fun decision =>
      ∃ following, decision = .again following ∧
        following = ({ header with conditional := true }, none) := by
  unfold propertyFlag
  apply Recovery.Takes.get
  intro cursor here
  rw [(kind_of_budget here).trans kind]
  apply Recovery.Takes.advance (by simp [kind])
  exact .pure ⟨_, rfl, rfl⟩

/-- A property is made automatic once. -/
theorem takes_propertyFlag_automatic
    {header : PropertyHeader} (free : header.automatic = none)
    (kind : word.kind = .keyword .auto ∨ word.kind = .keyword .autoReadOnly) :
    (propertyFlag (header, none)).Takes [word] rest fun decision =>
      ∃ following, decision = .again following ∧
        following = ({ header with automatic := some word }, none) := by
  have flag : (automaticFlag header).Takes [word] rest fun decision =>
      ∃ following, decision = .again following ∧
        following = ({ header with automatic := some word }, none) := by
    unfold automaticFlag
    rw [if_neg (by rw [free]; exact nofun)]
    apply Recovery.Takes.advance
    · rcases kind with kind | kind
      · simp [kind]
      · simp [kind]
    · exact .pure ⟨_, rfl, rfl⟩
  unfold propertyFlag
  apply Recovery.Takes.get
  intro cursor here
  rcases kind with kind | kind
  · rw [(kind_of_budget here).trans kind]
    exact flag
  · rw [(kind_of_budget here).trans kind]
    exact flag

theorem takes_propertyFlag_end
    (stops : Heads Kind.endsHeader rest) (header : PropertyHeader) :
    (propertyFlag (header, none)).Takes [] rest fun decision =>
      ∃ final, decision = .done final ∧ final = (header, none) := by
  unfold propertyFlag
  apply Recovery.Takes.get
  intro cursor here
  have stop := stops.kind here
  rcases stop with stop | stop
  · rw [stop]
    exact .pure ⟨_, rfl, rfl⟩
  · rw [stop]
    exact .pure ⟨_, rfl, rfl⟩

/-- The flags of a property are taken in any order. -/
theorem takes_propertyFlags
    (flagged : PropertyFlagged automatic hidden conditional row)
    (stops : Heads Kind.endsHeader rest) (header : PropertyHeader)
    (free : automatic.isSome = true → header.automatic = none) :
    (Recovery.iterate propertyFlag (header, none)).Takes row rest
      fun found =>
        found.2 = none ∧
          found.1.Extends header automatic hidden conditional := by
  have proceeds found cursor :=
    (Recovery.proceedsTo_propertyFlag found cursor).proceeds
  induction flagged generalizing header with
  | nil =>
    apply Recovery.Takes.done proceeds
    apply (takes_propertyFlag_end stops header).mono
    intro _ reached
    obtain ⟨_, rfl, rfl⟩ := reached
    exact ⟨_, rfl, rfl, rfl, Option.or_none.symm,
      (Bool.or_false _).symm, (Bool.or_false _).symm⟩
  | hidden kind _ ih =>
    apply Recovery.Takes.again proceeds
      (takes_propertyFlag_hidden kind header)
    intro _ equal
    subst equal
    apply (ih { header with hidden := true } free).mono
    intro final reached
    obtain ⟨unbroken, told⟩ := reached
    refine ⟨unbroken, { told with hidden := ?_ }⟩
    rw [told.hidden, Bool.or_true, Bool.true_or]
  | conditional kind _ ih =>
    apply Recovery.Takes.again proceeds
      (takes_propertyFlag_conditional kind header)
    intro _ equal
    subst equal
    apply
      (ih { header with conditional := true } free).mono
    intro final reached
    obtain ⟨unbroken, told⟩ := reached
    refine ⟨unbroken, { told with conditional := ?_ }⟩
    rw [told.conditional, Bool.or_true, Bool.true_or]
  | auto kind _ ih =>
    apply Recovery.Takes.again proceeds
      (takes_propertyFlag_automatic (free rfl) (.inl kind))
    intro _ equal
    subst equal
    apply (ih _ nofun).mono
    intro final reached
    obtain ⟨unbroken, told⟩ := reached
    refine ⟨unbroken, { told with automatic := ?_ }⟩
    rw [told.automatic, free rfl]
    exact congrArg some kind
  | autoReadOnly kind _ ih =>
    apply Recovery.Takes.again proceeds
      (takes_propertyFlag_automatic (free rfl) (.inr kind))
    intro _ equal
    subst equal
    apply (ih _ nofun).mono
    intro final reached
    obtain ⟨unbroken, told⟩ := reached
    refine ⟨unbroken, { told with automatic := ?_ }⟩
    rw [told.automatic, free rfl]
    exact congrArg some kind

/-! ## Header lines -/

/-- What the header line of a property says, and that nothing is wrong with
it. -/
structure PropertyLine.Says
    (line : PropertyLine) (initial : Option Literal)
    (automatic : Option Keyword) (hidden conditional : Bool)
    (doc : Option String) : Prop where
  intact : line.intact = true
  initial : line.header.initial.map Literal.bare = initial.map Literal.bare
  automatic : line.header.automatic.map Token.kind = automatic.map Kind.keyword
  hidden : line.header.hidden = hidden
  conditional : line.header.conditional = conditional
  doc : line.doc = doc

section Line

variable {initial : Option Literal} {automatic : Option Keyword}
  {hidden conditional : Bool} {doc : Option String}
  {behind flags docs : List Token}

theorem heads_propertyFlagged
    (flagged : PropertyFlagged automatic hidden conditional row)
    (heads : Heads (· ≠ .symbol .assign) rest) :
    Heads (· ≠ .symbol .assign) (row ++ rest) := by
  cases flagged with
  | nil => exact heads
  | hidden kind _ | conditional kind _ | auto kind _ | autoReadOnly kind _ =>
    exact heads_ne kind nofun

/-- The initial value and the flags of a property are taken. -/
theorem takes_propertyHeader (starts : Literal.InitialSpelled initial behind)
    (flagged : PropertyFlagged automatic hidden conditional flags)
    (stops : Heads Kind.endsHeader rest) :
    propertyHeader.Takes (behind ++ flags) rest fun found =>
      found.2 = none ∧
        ∃ initialFound : Option Literal,
          initialFound.map Literal.bare = initial.map Literal.bare ∧
            found.1.Extends ⟨initialFound, none, false, false⟩ automatic
              hidden conditional := by
  have apart : Heads (· ≠ .symbol .assign) (flags ++ rest) := by
    apply heads_propertyFlagged flagged
    apply stops.mono
    intro kind stop equal
    subst equal
    rcases stop with never | never
    · cases never
    · cases never
  unfold propertyHeader
  apply Recovery.Takes.bind (takes_initialConstant starts apart).run
  intro _ reached
  obtain ⟨initialFound, rfl, same⟩ := reached
  apply (takes_propertyFlags flagged stops _ fun _ => rfl).mono
  intro final reached
  obtain ⟨unbroken, told⟩ := reached
  exact ⟨unbroken, initialFound, same, told⟩

/-- The header line of a property is taken with all that it says. -/
theorem takes_propertyLine (starts : Literal.InitialSpelled initial behind)
    (flagged : PropertyFlagged automatic hidden conditional flags)
    (documented : DocumentedEnd doc docs)
    (apart : doc = none → Heads (· ≠ .docComment) rest) :
    propertyLine.Takes (behind ++ flags ++ docs) rest fun line =>
      line.Says initial automatic hidden conditional doc := by
  unfold propertyLine
  apply Recovery.Takes.bind
    (takes_propertyHeader starts flagged (heads_documentedEnd documented))
  intro reached reachedToo
  obtain ⟨header, _⟩ := reached
  obtain ⟨rfl, initialFound, same, told⟩ := reachedToo
  apply Recovery.Takes.get
  intro cursor here
  apply Recovery.Takes.bind_nil
    (takes_endOfDeclaration documented apart _).run
  intro _ reached
  obtain ⟨_, rfl, rfl⟩ := reached
  apply Recovery.Takes.pure
  exact
    { intact := rfl
      initial := (congrArg _ told.initial).trans same
      automatic := told.automatic
      hidden := told.hidden
      conditional := told.conditional
      doc := rfl }

end Line

/-! ## Whole properties -/

theorem takes_standsAlone {line : PropertyLine} (intact : line.intact = true) :
    (standsAlone line).Takes [] rest fun alone => alone = false := by
  unfold standsAlone
  rw [intact, Bool.true_or, if_pos rfl]
  exact .pure rfl

section Source

variable {initial : Option Literal} {automatic : Option Keyword}
  {hidden conditional : Bool} {doc : Option String} {line : PropertyLine}

theorem takes_automaticSource_auto
    (told : line.Says initial automatic hidden conditional doc)
    (kind : word.kind = .keyword .auto) (property : String) :
    (automaticSource property word line).Takes [] rest fun source =>
      source.bare = (PropertySource.auto initial).bare := by
  unfold automaticSource
  rw [if_neg (by rw [kind]; exact nofun)]
  exact .pure (congrArg PropertySource.auto told.initial)

theorem takes_automaticSource_readOnly {value : Literal}
    (told : line.Says (some value) automatic hidden conditional doc)
    (kind : word.kind = .keyword .autoReadOnly) (property : String) :
    (automaticSource property word line).Takes [] rest fun source =>
      source.bare = (PropertySource.readOnly value).bare := by
  obtain ⟨found, isFound, same⟩ := Option.map_eq_some_iff.1 told.initial
  unfold automaticSource
  rw [if_pos kind, isFound]
  exact .pure (congrArg PropertySource.readOnly same)

/-- The source of a property with functions is taken with its block. -/
theorem takes_fullSource {getter setter : Option Function} {block : List Token}
    (told : line.Says initial none hidden conditional doc)
    (laid : (PropertySource.full getter setter).LaidOut initial none block)
    (wellFormed : (PropertySource.full getter setter).WellFormed)
    (property : String) :
    (fullSource property word line).Takes block rest fun source =>
      source.bare = (PropertySource.full getter setter).bare := by
  cases laid with
  | full gets sets closes ends =>
    obtain ⟨several, isGetter, isSetter⟩ := wellFormed
    have noInitial : line.header.initial = none :=
      Option.map_eq_none_iff.1 told.initial
    have reported {more : List Token} :
        (reportInitialValue property line.header.initial).Takes [] more
          fun _ => True := by
      unfold reportInitialValue
      rw [noInitial]
      exact .pure trivial
    unfold fullSource
    apply Recovery.Takes.after reported
    intro _ _
    apply Recovery.Takes.bind_nil
      (takes_propertyBlock sets closes ends isSetter gets isGetter several)
    intro accessors reached
    obtain ⟨sameGetter, sameSetter⟩ := reached
    apply Recovery.Takes.pure
    show PropertySource.full _ _ = PropertySource.full _ _
    rw [sameGetter, sameSetter]

end Source

/-- The functions of a property start with no documentation comment. -/
theorem heads_of_propertySource (laid : source.LaidOut initial automatic row)
    (heads : Heads Kind.isVisible rest) :
    Heads Kind.isVisible (row ++ rest) := by
  cases laid with
  | auto | readOnly => exact heads
  | full gets sets closes _ =>
    rw [List.append_assoc]
    cases gets with
    | present laid => exact laid.visible
    | absent =>
      rw [List.nil_append, List.append_assoc]
      cases sets with
      | present laid => exact laid.visible
      | absent => exact heads_of_keyword closes

/-- The property that a header and a source are read as. -/
theorem bare_property {source one : PropertySource} {nameSpan span place : Span}
    {line : PropertyLine} (same : found.bare = type.bare)
    (sameSource : one.bare = source.bare)
    (told : line.Says initial automatic hidden conditional doc) :
    (Property.mk found ⟨token.text, token.span⟩ one line.header.hidden
        line.header.conditional line.doc place).bare =
      (Property.mk type ⟨token.text, nameSpan⟩ source hidden conditional doc
        span).bare := by
  unfold Property.bare
  simp only [same, sameSource, told.hidden, told.conditional, told.doc]
  rfl

/-- A property with functions of its own, from its keyword on.  What is read
behind the header line may be reported. -/
theorem remarks_propertyAfter_full
    {behind flags docs block : List Token} {news : List Diagnostic}
    {known : PropertySource → Prop} (same : found.bare = type.bare)
    (kind : word.kind = .keyword .property) (named : token.kind = .identifier)
    (starts : Literal.InitialSpelled initial behind)
    (flagged : PropertyFlagged none hidden conditional flags)
    (documented : DocumentedEnd doc docs)
    (apart : doc = none → Heads (· ≠ .docComment) (block ++ rest))
    (fits : ∀ one, known one → one.bare = source.bare)
    (reads : ∀ line : PropertyLine,
      line.Says initial none hidden conditional doc →
        (fullSource token.text word line).Remarks block rest news known) :
    (propertyAfter found).Remarks
      (word :: token :: (behind ++ flags ++ docs ++ block)) rest news
      fun tree =>
        tree.bare =
          (Property.mk type ⟨token.text, nameSpan⟩ source hidden conditional
            doc span).bare ∧
          known tree.source := by
  unfold propertyAfter
  apply Remarks.expect kind (by simp [kind])
  apply Remarks.identifier named
  apply Takes.bindRemarks
    (.lift (takes_propertyLine starts flagged documented apart))
  intro line told
  apply Takes.afterRemarks (.lift (takes_standsAlone told.intact))
  rintro _ rfl
  rw [if_neg Bool.false_ne_true, Option.map_eq_none_iff.1 told.automatic]
  apply Remarks.bind_nil (.lift (reads line told))
  intro one holds
  apply Takes.get
  intro cursor here
  exact .pure ⟨bare_property same (fits one holds) told, holds⟩

/-- A property without functions of its own, from its keyword on. -/
theorem takes_propertyAfter_automatic
    {flag : Keyword} {behind flags docs : List Token}
    (same : found.bare = type.bare) (kind : word.kind = .keyword .property)
    (named : token.kind = .identifier)
    (starts : Literal.InitialSpelled initial behind)
    (flagged : PropertyFlagged (some flag) hidden conditional flags)
    (documented : DocumentedEnd doc docs)
    (apart : doc = none → Heads (· ≠ .docComment) rest)
    (reads : ∀ (line : PropertyLine) (automatic : Token),
      line.Says initial (some flag) hidden conditional doc →
        automatic.kind = .keyword flag →
          (automaticSource token.text automatic line).Takes [] rest
            fun one => one.bare = source.bare) :
    (propertyAfter found).Takes
      (word :: token :: (behind ++ flags ++ docs)) rest fun tree =>
        tree.bare =
          (Property.mk type ⟨token.text, nameSpan⟩ source hidden conditional
            doc span).bare := by
  unfold propertyAfter
  apply Takes.expect kind (by simp [kind])
  apply Takes.identifier named
  apply Takes.bind_nil
    (.lift (takes_propertyLine starts flagged documented apart))
  intro line told
  apply Takes.after (.lift (takes_standsAlone told.intact))
  rintro _ rfl
  obtain ⟨automatic, isAutomatic, kind⟩ :=
    Option.map_eq_some_iff.1 told.automatic
  rw [if_neg Bool.false_ne_true, isAutomatic]
  apply Takes.bind_nil (.lift (reads line automatic told kind))
  intro one sameSource
  exact .pure (bare_property same sameSource told)

/-- What follows the type of a property is taken up to its end. -/
theorem takes_propertyAfter
    {behind flags docs block : List Token} (same : found.bare = type.bare)
    (kind : word.kind = .keyword .property) (named : token.kind = .identifier)
    (starts : Literal.InitialSpelled initial behind)
    (flagged : PropertyFlagged automatic hidden conditional flags)
    (documented : DocumentedEnd doc docs)
    (laid : source.LaidOut initial automatic block)
    (wellFormed : source.WellFormed) (heads : Heads Kind.isVisible rest) :
    (propertyAfter found).Takes
      (word :: token :: (behind ++ flags ++ docs ++ block)) rest fun tree =>
        tree.bare =
          (Property.mk type ⟨token.text, nameSpan⟩ source hidden conditional
            doc span).bare := by
  have apart : doc = none → Heads (· ≠ .docComment) (block ++ rest) :=
    fun _ => (heads_of_propertySource laid heads).mono fun _ visible =>
      visible.2
  cases laid with
  | auto =>
    rw [List.append_nil]
    exact takes_propertyAfter_automatic same kind named starts flagged
      documented apart fun line word told kind =>
        takes_automaticSource_auto told kind _
  | readOnly =>
    rw [List.append_nil]
    exact takes_propertyAfter_automatic same kind named starts flagged
      documented apart fun line word told kind =>
        takes_automaticSource_readOnly told kind _
  | full gets sets closes ends =>
    apply Remarks.takes
    apply (remarks_propertyAfter_full same kind named starts flagged
      documented apart (fun _ same => same) fun line told =>
        (takes_fullSource told (.full gets sets closes ends) wellFormed
          _).remarks).mono
    exact fun _ known => known.1

end Reader

end PapyrusScript
