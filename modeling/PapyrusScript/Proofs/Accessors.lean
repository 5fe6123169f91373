import Mathlib
import PapyrusScript.Proofs.ErrorIsolation
import PapyrusScript.Proofs.Spaced.Callable

/-!
# The functions of a property in any order

The block of a property may hold any functions, in any order.  The first one of
each of the two names is kept.  What is wrong with a function is reported at
its name, and depends on the functions in front of it only by their names.

The block of a property may hold any functions that are read without a report,
in any order, with gaps between them.  The property has the first one named
`Get` and the first one named `Set`, and what is reported of it are a wrong
name, a wrong number of parameters and a slot that is taken, function by
function, and at the end that there is no function of either name.
-/

namespace PapyrusScript

open Cursor

section Blocks

variable {row rest ending gap : List Token} {property : String}

/-! ## What is kept and what is reported -/

namespace Function

def anyNamed (functions : List Function) (name : String) : Bool :=
  functions.any fun tree => tree.name.isNamed name

def firstNamed (functions : List Function) (name : String) : Option Function :=
  functions.find? fun tree => tree.name.isNamed name

def complaint
    (tree : Function) (applies : Bool) (cause : Cause) : List Diagnostic :=
  if applies then [⟨tree.name.span.start, cause⟩] else []

/-- What is reported of a function of a property, behind some others: a name
that is that of neither function of a property, or else a wrong number of
parameters and then a slot that is taken. -/
def accessorNews
    (property : String) (before : List Function) (tree : Function) :
    List Diagnostic :=
  let taken (name : String) :=
    tree.complaint (anyNamed before name)
      (.duplicateAccessor property tree.name.name)
  if tree.name.isNamed "Get" then
    tree.complaint (!tree.parameters.isEmpty) .getterWithParameters ++
      taken "Get"
  else if tree.name.isNamed "Set" then
    tree.complaint (tree.parameters.length ≠ 1) .setterArity ++ taken "Set"
  else
    tree.complaint true (.accessorName tree.name.name)

/-- What is reported of the functions of a property, one after the other. -/
def accessorsNews (property : String) (before : List Function) :
    List Function → List Diagnostic
  | [] => []
  | tree :: more =>
    tree.accessorNews property before ++
      accessorsNews property (before ++ [tree]) more

/-- What is reported of a property none of whose functions has one of the two
names. -/
def missingNews
    (property : String) (keyword : Token) (functions : List Function) :
    List Diagnostic :=
  if anyNamed functions "Get" || anyNamed functions "Set" then []
  else [⟨keyword.span.start, .noAccessor property⟩]

def blockNews
    (property : String) (keyword : Token) (functions : List Function) :
    List Diagnostic :=
  accessorsNews property [] functions ++ missingNews property keyword functions

theorem isSome_firstNamed (functions : List Function) (name : String) :
    (firstNamed functions name).isSome = anyNamed functions name := by
  unfold firstNamed anyNamed
  induction functions with
  | nil => rfl
  | cons tree more ih =>
    cases named : tree.name.isNamed name with
    | true => simp [named]
    | false => simp [named, ih]

theorem firstNamed_concat
    (functions : List Function) (name : String) (tree : Function) :
    firstNamed (functions ++ [tree]) name =
      (firstNamed functions name).or
        (if tree.name.isNamed name then some tree else none) := by
  unfold firstNamed
  rw [List.find?_append, List.find?_singleton]

end Function

open PapyrusScript.Function

/-- What there is of a function apart from its places, and the place of its
name, which tells it from its like. -/
def Function.signed (tree : Function) : Function × Identifier :=
  (tree.bare, tree.name)

/-- The slots hold the first functions of a list with the two names. -/
structure Reader.Accessors.OfFirst
    (accessors : Accessors) (functions : List Function) : Prop where
  getter : accessors.getter.map Function.signed =
    (firstNamed functions "Get").map Function.signed
  setter : accessors.setter.map Function.signed =
    (firstNamed functions "Set").map Function.signed

/-- The functions of a property are the first ones of a list with the two
names. -/
def PropertySource.KeepsFirst
    (functions : List Function) (source : PropertySource) : Prop :=
  ∃ slots : Reader.Accessors, slots.OfFirst functions ∧
    source = .full slots.getter slots.setter

namespace Reader

variable {accessors : Accessors} {functions before : List Function}

namespace Accessors.OfFirst

theorem bare (slots : accessors.OfFirst functions) :
    (PropertySource.full accessors.getter accessors.setter).bare =
      (PropertySource.full (firstNamed functions "Get")
        (firstNamed functions "Set")).bare := by
  have unsigned {first second : Option Function}
      (same : first.map Function.signed = second.map Function.signed) :
      first.map Function.bare = second.map Function.bare := by
    have firsts := congrArg (Option.map Prod.fst) same
    rwa [Option.map_map, Option.map_map] at firsts
  show PropertySource.full _ _ = PropertySource.full _ _
  rw [unsigned slots.getter, unsigned slots.setter]

theorem isSome_getter (slots : accessors.OfFirst functions) :
    accessors.getter.isSome = anyNamed functions "Get" := by
  have same := congrArg Option.isSome slots.getter
  rwa [Option.isSome_map, Option.isSome_map, isSome_firstNamed] at same

theorem isSome_setter (slots : accessors.OfFirst functions) :
    accessors.setter.isSome = anyNamed functions "Set" := by
  have same := congrArg Option.isSome slots.setter
  rwa [Option.isSome_map, Option.isSome_map, isSome_firstNamed] at same

/-- A further function fills the slot of its name if that is free. -/
theorem concat {tree : Function} (slots : accessors.OfFirst before)
    (getter setter : Option Function)
    (gets : getter.map Function.signed =
      if tree.name.isNamed "Get" then some tree.signed else none)
    (sets : setter.map Function.signed =
      if tree.name.isNamed "Set" then some tree.signed else none) :
    OfFirst ⟨accessors.getter.or getter, accessors.setter.or setter⟩
      (before ++ [tree]) where
  getter := by
    rw [firstNamed_concat, Option.map_or, Option.map_or, slots.getter, gets]
    split
    · rfl
    · rfl
  setter := by
    rw [firstNamed_concat, Option.map_or, Option.map_or, slots.setter, sets]
    split
    · rfl
    · rfl

end Accessors.OfFirst

/-! ## One function -/

theorem remarks_complainIf
    {found tree : Function} (same : found.name = tree.name) (applies : Bool)
    (cause : Cause) :
    (complainIf applies found cause).Remarks [] rest
      (tree.complaint applies cause) fun _ => True := by
  unfold complainIf complaint
  rw [same]
  cases applies with
  | true => exact Recovery.remarks_complain _ _
  | false => exact (Recovery.Takes.pure trivial).remarks

/-- A function is put in its slot, and what is wrong with it is reported. -/
theorem remarks_placeAccessor
    {found tree : Function} (slots : accessors.OfFirst before)
    (bare : found.bare = tree.bare) (name : found.name = tree.name) :
    (placeAccessor property accessors found).Remarks [] rest
      (tree.accessorNews property before) fun placed =>
        placed.OfFirst (before ++ [tree]) := by
  have parameters := length_parameters_of_bare_eq bare
  have same : found.signed = tree.signed := Prod.ext bare name
  have empty : found.parameters.isEmpty = tree.parameters.isEmpty := by
    rw [Bool.eq_iff_iff, List.isEmpty_iff_length_eq_zero,
      List.isEmpty_iff_length_eq_zero, parameters]
  unfold placeAccessor accessorNews
  dsimp only
  rw [name, empty, parameters, slots.isSome_getter, slots.isSome_setter]
  by_cases isGet : tree.name.isNamed "Get" = true
  · have other : tree.name.isNamed "Set" = false := by
      by_cases isSet : tree.name.isNamed "Set" = true
      · rw [isNamed_get_of_isNamed_set isSet] at isGet
        cases isGet
      · rwa [Bool.not_eq_true] at isSet
    rw [if_pos isGet, if_pos isGet]
    apply (remarks_complainIf name _ _).after
    intro _ _
    apply (remarks_complainIf name _ _).bind_nil
    intro _ _
    apply Recovery.Takes.pure
    have placed := slots.concat (some found) none (by rw [if_pos isGet]; exact congrArg some same)
      (by rw [other]; rfl)
    rwa [Option.or_none] at placed
  · rw [if_neg isGet, if_neg isGet]
    by_cases isSet : tree.name.isNamed "Set" = true
    · rw [if_pos isSet, if_pos isSet]
      apply (remarks_complainIf name _ _).after
      intro _ _
      apply (remarks_complainIf name _ _).bind_nil
      intro _ _
      apply Recovery.Takes.pure
      have placed := slots.concat none (some found) (by rw [if_neg isGet]; rfl)
        (by rw [if_pos isSet]; exact congrArg some same)
      rwa [Option.or_none] at placed
    · rw [if_neg isSet, if_neg isSet]
      apply (remarks_complainIf name _ _).bind_nil
      intro _ _
      apply Recovery.Takes.pure
      have placed := slots.concat none none (by rw [if_neg isGet]; rfl)
        (by rw [if_neg isSet]; rfl)
      rwa [Option.or_none, Option.or_none] at placed

end Reader

/-! ## All functions -/

/-- A layout of the functions of a property, with a gap behind each. -/
inductive Function.SpacedInTurn : List Function → List Token → Prop
  | nil : SpacedInTurn [] []
  | cons {tree : Function} {more : List Function}
      {row gap behind : List Token} (spaced : tree.Spaced row)
      (gaps : IsGap gap)
      (apart : tree.TakesComment → gap ≠ [] → Heads (· ≠ .docComment) gap)
      (rest : SpacedInTurn more behind) :
      SpacedInTurn (tree :: more) (row ++ (gap ++ behind))

theorem Function.SpacedInTurn.heads
    {functions : List Function} (spaced : SpacedInTurn functions row)
    (heads : Heads Kind.isVisible rest) :
    Heads Kind.isVisible (row ++ rest) := by
  cases spaced with
  | nil => exact heads
  | cons spaced _ _ _ =>
    rw [List.append_assoc]
    exact spaced.heads.mono fun _ => Kind.isVisible_of_startsPlainMember

/-- What stands behind a gap that is apart from what is in front of it. -/
theorem heads_of_gap
    {applies : Prop} (apart : applies → gap ≠ [] → Heads (· ≠ .docComment) gap)
    (heads : Heads Kind.isVisible rest) (holds : applies) :
    Heads (· ≠ .docComment) (gap ++ rest) := by
  by_cases more : gap = []
  · rw [more]
    exact heads.mono fun _ visible => visible.2
  · exact (apart holds more).append

namespace Reader

variable {accessors : Accessors} {functions before : List Function}
  {keyword closer : Token}

theorem remarks_nextAccessor
    {tree : Function} (slots : accessors.OfFirst before)
    (spaced : tree.Spaced row)
    (heads : tree.TakesComment → Heads (· ≠ .docComment) rest) :
    (nextAccessor keyword property accessors).Remarks row rest
      (tree.accessorNews property before) fun decision =>
        ∃ following, decision = .again following ∧
          following.OfFirst (before ++ [tree]) :=
  remarks_nextAccessor_of_accessor (fun _ => spaced.starts)
    (spaced.heads.mono fun _ => Kind.isVisible_of_startsPlainMember)
    (takes_accessor_of_spaced spaced heads)
    fun _ known => remarks_placeAccessor slots known.1 known.2

/-- The functions of a property are placed one after the other. -/
theorem remarks_accessors (spaced : Function.SpacedInTurn functions row)
    (closes : closer.kind = .keyword .endProperty) (ends : LineEnd rest ending)
    (slots : accessors.OfFirst before) :
    (Recovery.iterate (nextAccessor keyword property) accessors).Remarks
      (row ++ closer :: ending) rest (accessorsNews property before functions)
      fun final => final.OfFirst (before ++ functions) := by
  have passes := Recovery.passesGaps_nextAccessor keyword property
  have close : Heads Kind.isVisible (closer :: ending ++ rest) :=
    heads_of_keyword closes
  induction spaced generalizing accessors before with
  | nil =>
    apply Recovery.Takes.remarks
    apply Recovery.Takes.done passes.proceeds
    apply (takes_nextAccessor_end accessors closes ends).mono
    rintro _ ⟨_, rfl, rfl⟩
    rw [List.append_nil]
    exact ⟨_, rfl, slots⟩
  | @cons tree more row gap behind spaced gaps apart others
      ih =>
    have heads : tree.TakesComment → Heads (· ≠ .docComment)
        (gap ++ (behind ++ closer :: ending) ++ rest) := by
      rw [List.append_assoc, List.append_assoc]
      exact heads_of_gap apart (others.heads close)
    rw [List.append_assoc, List.append_assoc]
    apply Recovery.Remarks.again passes.proceeds
      (remarks_nextAccessor slots spaced heads)
    intro following placed
    apply Recovery.Remarks.of_gap passes gaps
    apply (ih placed).mono
    intro final last
    rwa [List.append_assoc] at last

theorem remarks_reportNoAccessor (slots : accessors.OfFirst functions) :
    (reportNoAccessor keyword property accessors).Remarks [] rest
      (missingNews property keyword functions) fun _ => True := by
  unfold reportNoAccessor missingNews
  rw [← Option.not_isSome, ← Option.not_isSome, slots.isSome_getter,
    slots.isSome_setter, ← Bool.not_or]
  cases anyNamed functions "Get" || anyNamed functions "Set" with
  | true => exact (Recovery.Takes.pure trivial).remarks
  | false => exact Recovery.remarks_complain _ _

/-- The block of a property, from the end of its header line on. -/
theorem remarks_propertyBlock
    (gaps : IsGap gap) (spaced : Function.SpacedInTurn functions row)
    (closes : closer.kind = .keyword .endProperty)
    (ends : LineEnd rest ending) :
    (propertyBlock keyword property).Remarks
      (gap ++ (row ++ closer :: ending)) rest
      (blockNews property keyword functions) fun final => final.OfFirst functions := by
  have passes := Recovery.passesGaps_nextAccessor keyword property
  have nothing : (Accessors.mk none none).OfFirst [] := ⟨rfl, rfl⟩
  have list := Recovery.Remarks.of_gap passes gaps
    (remarks_accessors spaced closes ends nothing)
  unfold propertyBlock accessorList blockNews
  rw [← List.append_nil (gap ++ (row ++ closer :: ending))]
  apply Recovery.Remarks.bind list.inBlock
  intro final slots
  apply (remarks_reportNoAccessor slots).bind_nil
  exact fun _ _ => .pure slots

/-- The block of a property is taken whole, whatever its functions are. -/
theorem remarks_fullSource {line : PropertyLine} (gaps : IsGap gap)
    (spaced : Function.SpacedInTurn functions row)
    (closes : closer.kind = .keyword .endProperty) (ends : LineEnd rest ending)
    (free : line.header.initial = none) :
    (fullSource property keyword line).Remarks
      (gap ++ (row ++ closer :: ending)) rest
      (blockNews property keyword functions)
      (PropertySource.KeepsFirst functions) := by
  have silent {more : List Token} :
      (reportInitialValue property line.header.initial).Takes [] more
        fun _ => True := by
    unfold reportInitialValue
    rw [free]
    exact .pure trivial
  unfold fullSource
  apply Recovery.Takes.afterRemarks silent
  intro _ _
  apply (remarks_propertyBlock gaps spaced closes ends).bind_nil
  exact fun accessors slots => .pure ⟨accessors, slots, rfl⟩

/-- A property without an initial value, with any functions in its block. -/
theorem remarks_plainMember_of_full
    {type : TypeName} {hidden conditional : Bool} {doc : Option String}
    {name : Token} {typeRow flags docs : List Token}
    (spelled : type.Spelled typeRow) (kind : keyword.kind = .keyword .property)
    (named : name.kind = .identifier)
    (flagged : PropertyFlagged none hidden conditional flags)
    (documented : DocumentedEnd doc docs) (gaps : IsGap gap)
    (apart : doc = none → gap ≠ [] → Heads (· ≠ .docComment) gap)
    (spaced : Function.SpacedInTurn functions row)
    (closes : closer.kind = .keyword .endProperty)
    (ends : LineEnd rest ending) :
    plainMember.Remarks
      (typeRow ++ keyword :: name ::
        (flags ++ docs ++ (gap ++ (row ++ closer :: ending))))
      rest (blockNews name.text keyword functions)
      fun found => ∃ tree : Property, found = .property tree ∧
        tree.bare = (Property.mk type ⟨name.text, name.span⟩
          (.full (firstNamed functions "Get") (firstNamed functions "Set"))
          hidden conditional doc .nowhere).bare ∧
        tree.source.KeepsFirst functions := by
  have close : Heads Kind.isVisible (closer :: ending ++ rest) :=
    heads_of_keyword closes
  have undocumented : doc = none → Heads (· ≠ .docComment)
      (gap ++ (row ++ closer :: ending) ++ rest) := by
    rw [List.append_assoc, List.append_assoc]
    exact heads_of_gap apart (spaced.heads close)
  apply remarks_plainMember_of_property spelled kind
  intro found same
  have behind (line : PropertyLine)
      (told : line.Says none none hidden conditional doc) :
      (fullSource name.text keyword line).Remarks
        (gap ++ (row ++ closer :: ending)) rest
        (blockNews name.text keyword functions)
        (PropertySource.KeepsFirst functions) :=
    remarks_fullSource gaps spaced closes ends
      (Option.map_eq_none_iff.1 told.initial)
  apply remarks_propertyAfter_full same kind named .absent flagged documented
    undocumented _ behind
  rintro _ ⟨slots, ofFirst, rfl⟩
  exact ofFirst.bare

end Reader

end Blocks

/-! ## Properties with any functions -/

section FullProperties

/-- The tokens of a property without an initial value, up to the keyword that
ends it. -/
structure FullProperty where
  type : TypeName
  typeRow : List Token
  keyword : Token
  name : Token
  hidden : Bool
  conditional : Bool
  flags : List Token
  doc : Option String
  docs : List Token
  gap : List Token
  functions : List FunctionLines
  closer : Token
  spelled : type.Spelled typeRow
  kind : keyword.kind = .keyword .property
  named : name.kind = .identifier
  flagged : PropertyFlagged none hidden conditional flags
  documented : DocumentedEnd doc docs
  gaps : IsGap gap
  apart : doc = none → gap ≠ [] → Heads (· ≠ .docComment) gap
  closes : closer.kind = .keyword .endProperty

theorem FunctionLines.spacedInTurn (list : List FunctionLines) :
    Function.SpacedInTurn (list.map Lines.tree) (list.flatMap Lines.tokens) := by
  induction list with
  | nil => exact .nil
  | cons lines list ih =>
    rw [List.map_cons, List.flatMap_cons, Lines.tokens, List.append_assoc]
    exact .cons lines.spaced lines.gaps lines.apart ih

namespace FullProperty

/-- The functions in the block of a property. -/
def trees (text : FullProperty) : List Function := text.functions.map Lines.tree

/-- The tokens between the header line of a property and its last keyword. -/
def block (text : FullProperty) : List Token :=
  text.gap ++ text.functions.flatMap Lines.tokens

def tokens (text : FullProperty) : List Token :=
  text.typeRow ++ text.keyword :: text.name ::
    (text.flags ++ text.docs ++ (text.block ++ [text.closer]))

/-- The property with the first functions of the two names, apart from its
places. -/
def property (text : FullProperty) : Property where
  type := text.type
  name := ⟨text.name.text, text.name.span⟩
  source := .full (Function.firstNamed text.trees "Get")
    (Function.firstNamed text.trees "Set")
  hidden := text.hidden
  conditional := text.conditional
  doc := text.doc
  span := .nowhere

/-- What is reported of a property. -/
def news (text : FullProperty) : List Diagnostic :=
  Function.blockNews text.name.text text.keyword text.trees

end FullProperty

variable {rest ending : List Token}

/-- The functions of a property are the first ones of the two names, and what
is wrong with those in its block is reported, function by function. -/
theorem Reader.property_keeps_first_functions
    (text : FullProperty) (ends : LineEnd rest ending) :
    plainMember.Remarks (text.tokens ++ ending) rest text.news fun found =>
      ∃ tree : Property, found = .property tree ∧
        tree.bare = text.property.bare ∧
        tree.source.KeepsFirst text.trees := by
  have shape : text.tokens ++ ending = text.typeRow ++ text.keyword ::
      text.name :: (text.flags ++ text.docs ++ (text.gap ++
        (text.functions.flatMap Lines.tokens ++ text.closer :: ending))) := by
    simp [FullProperty.tokens, FullProperty.block]
  rw [shape]
  exact remarks_plainMember_of_full text.spelled text.kind text.named
    text.flagged text.documented text.gaps text.apart
    (FunctionLines.spacedInTurn text.functions) text.closes ends

/-! ## A crowded property -/

/-- A native function without parameters, on one line. -/
def FunctionLines.plain (line : Nat) (name : String) : FunctionLines where
  tree :=
    { returnType := none, name := ⟨name, .point ⟨line, 1⟩⟩, parameters := [],
      body := [], native := true, global := false, doc := none,
      span := .point ⟨line, 1⟩ }
  row :=
    [.onLine line (.keyword .function) "Function",
      .onLine line .identifier name, .onLine line (.symbol .openParen) "(",
      .onLine line (.symbol .closeParen) ")",
      .onLine line (.keyword .native) "Native", .onLine line .newline "\n"]
  gap := []
  reads := .of_run (.onLine line (.keyword .endProperty) "EndProperty") nofun
    rfl (by rfl) (by rfl) (by rfl)
  gaps := .nil
  apart := fun _ more => absurd rfl more

/-- A function with a body, on three lines. -/
def FunctionLines.withBody (line : Nat) (name : String) : FunctionLines where
  tree :=
    { returnType := some ⟨.int, false, .point ⟨line, 1⟩⟩,
      name := ⟨name, .point ⟨line, 1⟩⟩, parameters := [],
      body := [.result (some (.name ⟨"total", .point ⟨line + 1, 1⟩⟩))
        (.point ⟨line + 1, 1⟩)],
      native := false, global := false, doc := none,
      span := ⟨⟨line, 1⟩, ⟨line + 2, 1⟩⟩ }
  row :=
    [.onLine line (.keyword .intType) "Int",
      .onLine line (.keyword .function) "Function",
      .onLine line .identifier name, .onLine line (.symbol .openParen) "(",
      .onLine line (.symbol .closeParen) ")", .onLine line .newline "\n",
      .onLine (line + 1) (.keyword .returnValue) "Return",
      .onLine (line + 1) .identifier "total",
      .onLine (line + 1) .newline "\n",
      .onLine (line + 2) (.keyword .endFunction) "EndFunction",
      .onLine (line + 2) .newline "\n"]
  gap := []
  reads := .of_run (.onLine line (.keyword .endProperty) "EndProperty") nofun
    rfl (by cbv) (by cbv) (by cbv)
  gaps := .nil
  apart := fun _ more => absurd rfl more

/-- A property with a wrong name, wrong parameters and slots that are taken. -/
def FullProperty.crowded : FullProperty where
  type := ⟨.int, false, .nowhere⟩
  typeRow := [.onLine 1 (.keyword .intType) "Int"]
  keyword := .onLine 1 (.keyword .property) "Property"
  name := .onLine 1 .identifier "Count"
  hidden := false
  conditional := false
  flags := []
  doc := none
  docs := [.onLine 1 .newline "\n"]
  gap := []
  functions :=
    [.withBody 2 "Get", .plain 5 "Reset", .withBody 6 "GET", .plain 9 "set",
      .plain 10 "Set"]
  closer := .onLine 11 (.keyword .endProperty) "EndProperty"
  spelled := .plain rfl
  kind := rfl
  named := rfl
  flagged := .nil
  documented := .absent rfl
  gaps := .nil
  apart := fun _ more => absurd rfl more
  closes := rfl

/-- The first functions of the two names are kept of it. -/
theorem FullProperty.crowded_keeps_first_functions :
    LineEnd [] [Token.onLine 11 .newline "\n"] ∧
      Reader.plainMember.Ends
        (start (crowded.tokens ++ [.onLine 11 .newline "\n"]))
        (fun found after =>
          (∃ tree, found = .property tree ∧ tree.source.KeepsFirst
            [(FunctionLines.withBody 2 "Get").tree,
              (FunctionLines.plain 9 "set").tree]) ∧
          after.reported =
            [⟨⟨10, 1⟩, .duplicateAccessor "Count" "Set"⟩,
              ⟨⟨10, 1⟩, .setterArity⟩, ⟨⟨9, 1⟩, .setterArity⟩,
              ⟨⟨6, 1⟩, .duplicateAccessor "Count" "GET"⟩,
              ⟨⟨5, 1⟩, .accessorName "Reset"⟩])
        fun _ _ => False := by
  have ends {rest : List Token} :
      LineEnd rest [Token.onLine 11 .newline "\n"] := .newline rfl
  refine ⟨ends, ?_⟩
  have read (rest : List Token) :=
    Reader.property_keeps_first_functions crowded (@ends rest)
  -- with a variable for the row nothing runs the reader on it
  generalize crowded.tokens ++ [Token.onLine 11 .newline "\n"] = row at read ⊢
  apply (read (missingEnd row)).ends_start.mono
  · rintro found after ⟨⟨tree, isFound, -, slots, first, same⟩, told⟩
    exact ⟨⟨tree, isFound, slots, ⟨first.getter, first.setter⟩, same⟩, told⟩
  · exact fun _ _ never => never

/-! ## The terminator of a block around a property -/

/-- No declaration starts with the terminator of a block. -/
theorem Cursor.starts_nothing (cursor : Cursor)
    (terminator : cursor.kind.isBlockTerminator = true) :
    cursor.atFunctionStart = false ∧ cursor.atMemberStart = false ∧
      cursor.kind ≠ .docComment ∧ cursor.kind ≠ .endOfText := by
  unfold atFunctionStart atMemberStart atTypeStart
  generalize cursor.kind = kind at terminator ⊢
  cases kind with
  | keyword word =>
    cases word <;>
      first
      | exact ⟨rfl, rfl, nofun, nofun⟩
      | cases terminator
  | _ => cases terminator

namespace Reader

variable {row : List Token} {token line : Token}

theorem takes_discardInLine
    (valid : token.kind.isInvalid = false) (inside : token.kind ≠ .endOfText) :
    (discardInLine ()).Takes [token] rest
      (· = if token.kind = .newline then .done () else .again ()) := by
  unfold discardInLine discard
  apply Recovery.Takes.get
  intro cursor here
  rw [if_neg (by rw [kind_of_budget here]; exact inside), bind_assoc]
  apply Recovery.Takes.advance inside
  rw [valid, bind_assoc]
  apply Recovery.Takes.get
  intro after _
  exact .pure rfl

/-- A line without invalid tokens is left out without a report. -/
theorem takes_skipLine (inLine : ∀ token ∈ row, token.kind.endsLine = false)
    (valid : ∀ token ∈ row, token.kind.isInvalid = false)
    (breaks : line.kind = .newline) :
    skipLine.Takes (row ++ [line]) rest fun _ => True := by
  have proceeds := Recovery.proceeds_discardInLine
  unfold skipLine
  induction row with
  | nil =>
    apply Recovery.Takes.done proceeds
    apply (takes_discardInLine (by rw [breaks]; rfl)
      (by rw [breaks]; nofun)).mono
    rintro _ rfl
    exact ⟨(), if_pos breaks, trivial⟩
  | cons token row ih =>
    obtain ⟨tokenInLine, rowInLine⟩ := List.forall_mem_cons.1 inLine
    obtain ⟨tokenValid, rowValid⟩ := List.forall_mem_cons.1 valid
    simp only [Kind.endsLine, Bool.or_eq_false_iff, decide_eq_false_iff_not]
      at tokenInLine
    have first : (discardInLine ()).Takes [token] (row ++ [line] ++ rest)
        fun decision => ∃ following, decision = .again following ∧ True := by
      apply (takes_discardInLine tokenValid tokenInLine.2).mono
      rintro _ rfl
      exact ⟨(), if_neg tokenInLine.1, trivial⟩
    apply Recovery.Takes.again proceeds first
    exact fun _ _ => ih rowInLine rowValid

/-- A line that is left out for an error is all that the error costs. -/
theorem remarks_reportAndSkipLine {diagnostic : Diagnostic}
    (inLine : ∀ token ∈ row, token.kind.endsLine = false)
    (valid : ∀ token ∈ row, token.kind.isInvalid = false)
    (breaks : line.kind = .newline) :
    (reportAndSkipLine diagnostic).Remarks (row ++ [line]) rest [diagnostic]
      fun _ => True :=
  (Recovery.remarks_report _).beforeTakes fun _ _ =>
    takes_skipLine inLine valid breaks

/-- The block of a property does not know of the blocks around it: the line of
their terminator is reported and left out, and the block goes on. -/
theorem remarks_nextAccessor_of_terminator {keyword : Token} {property : String}
    (terminator : token.kind.isBlockTerminator = true)
    (foreign : token.kind ≠ .keyword .endProperty)
    (inLine : ∀ other ∈ token :: row, other.kind.endsLine = false)
    (valid : ∀ other ∈ token :: row, other.kind.isInvalid = false)
    (breaks : line.kind = .newline) (accessors : Accessors) :
    (nextAccessor keyword property accessors).Remarks
      (token :: row ++ [line]) rest
      [.unexpected token "a 'Get' or 'Set' function or 'EndProperty'"]
      (· = .again accessors) := by
  have visible : Heads (· ≠ .newline) (token :: row ++ [line] ++ rest) := by
    intro isLine
    rw [isLine] at terminator
    cases terminator
  unfold nextAccessor
  apply Recovery.Takes.afterRemarks (takes_skipNewlines visible)
  intro _ _
  apply Recovery.Remarks.get
  intro cursor here
  have kind := kind_of_budget here
  rw [← kind] at terminator foreign
  obtain ⟨noFunction, noMember, noComment, inText⟩ :=
    cursor.starts_nothing terminator
  rw [if_neg foreign, if_neg noComment, noFunction, if_neg Bool.false_ne_true,
    noMember, Bool.or_false, decide_eq_false inText,
    if_neg Bool.false_ne_true]
  unfold unexpected
  rw [bind_assoc]
  apply Recovery.Remarks.get
  intro cursor here
  rw [current_of_budget here, pure_bind]
  exact (remarks_reportAndSkipLine inLine valid breaks).bind_nil fun _ _ =>
    .pure rfl

end Reader

def Script.unclosedProperty : String :=
  "Scriptname X\nState S\nInt Property P\nInt Function Get()\nreturn 1\nEndFunction\nEndState\nInt y\n"

/-- A property in a state lacks its terminator.  That of the state is reported
and left out, as is the variable behind the state, and nothing closes the
state. -/
theorem unclosedProperty_discards_terminator :
    (Parsed.ofText Script.unclosedProperty).diagnostics.map
        Diagnostic.position = [⟨3, 1⟩, ⟨7, 1⟩, ⟨8, 1⟩, ⟨3, 5⟩, ⟨2, 1⟩] ∧
      ⟨⟨7, 1⟩, .unexpected "a 'Get' or 'Set' function or 'EndProperty'"
          (.keyword .endState) "EndState"⟩ ∈
        (Parsed.ofText Script.unclosedProperty).diagnostics ∧
      (Parsed.ofText Script.unclosedProperty).script.members.length = 2 := by
  refine ⟨?_, ?_, ?_⟩
  · decide +kernel
  · decide +kernel
  · decide +kernel

end FullProperties

end PapyrusScript
