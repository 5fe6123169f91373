import PapyrusScript.Proofs.Detour.Statement
import PapyrusScript.Proofs.Transcript.Script

/-!
# Functions, events and properties around a broken line

A function, an event or a property in which two texts differ crosses the
line: its header is the same in both, and of its bodies one lacks something.

The block of a property holds functions, and one of them may be where two
texts differ.  Between the functions there is no body, so a place there is
reported in the first text.
-/

namespace PapyrusScript

open Cursor

variable {α : Type} {detour : Detour} {cursor twin : Cursor}

namespace Detour

open Recovery

def FunctionLacking (detour : Detour) : Function → Function → Prop :=
  EditedUpTo (Function.Edited detour.change) Function.bare

def EventLacking (detour : Detour) : Event → Event → Prop :=
  EditedUpTo (Event.Edited detour.change) Event.bare

/-! ## Bodies of functions and events -/

section Passable

variable (passable : detour.Passable)

include passable

/-- The body of a function or event crosses the line or ends behind it. -/
theorem crosses_openBody
    {block : Block} (callable : block = .function ∨ block = .event)
    (opener : Token) (along : detour.fork.Along cursor twin) :
    (Reader.openBody block opener).Crosses detour.failure cursor twin
      (fun _ => detour.fork.Along) detour.Lacking := by
  have whole := crosses_body passable (cursor.budget.length + 1) block cursor
    twin (Nat.lt_succ_self _) along
  apply whole.bind
  · intro inside after
    exact (stirs_afterBody block opener inside after).mono
      fun _ _ stirs => stirs.toGrows
  · rintro inside after twinAfter _ (amid | through)
    · apply Crosses.look (by simp only [amid.kind])
      split
      · rename_i closed
        have next := amid.next (endsLine_of_closedBy closed)
        apply Crosses.take amid
        apply (agrees_finishLine next _).bindCrosses
        exact fun _ _ _ along => .pure along
      · apply Tells.crosses
        exact (tells_reportUnterminated _ _).bind fun _ _ => .pure _
    · have open_ : ¬ block.closedBy after.kind = true := by
        rw [passable.elseIf after twinAfter through]
        rcases callable with rfl | rfl <;> decide
      apply Tells.crosses
      apply Tells.get
      rw [if_neg open_]
      exact (tells_reportUnterminated _ _).bind fun _ _ => .pure _
  · intro inside other lacking news
    apply Matches.get
    intro cursor twin alike
    apply Matches.ite (by rw [alike.kind])
    · intro _
      apply Matches.take
      intro _ _ _
      apply (matches_finishLine _).bind
      exact fun _ _ _ => .pure lacking
    · intro _
      apply (matches_reportUnterminated _ False.elim).bind
      exact fun _ _ _ => .pure lacking

theorem crosses_callableBody
    {block : Block} (callable : block = .function ∨ block = .event)
    (opener : Token) (flags : Reader.CallableFlags)
    (along : detour.fork.Along cursor twin) :
    (Reader.callableBody block opener flags).Crosses detour.failure cursor twin
      (fun _ => detour.fork.Along) detour.Lacking := by
  unfold Reader.callableBody
  split
  · exact .pure along
  · exact crosses_openBody passable callable opener along

theorem crosses_callableHeader
    (block : Block) (context : String) (amid : detour.fork.Amid cursor twin) :
    (Reader.callableHeader block context).Crosses detour.failure cursor twin
      (fun _ => detour.fork.Along) fun _ _ => False := by
  apply (agreesUnless_callableHeader passable.plain block context
    amid).crosses
  rintro _ after ⟨-, -, told⟩ nothing
  unfold Fork.Told at told
  rw [nothing] at told
  exact Nat.not_lt_zero _ told

/-- What follows a name crosses the line in the header or in the body. -/
theorem crosses_afterName
    {block : Block} (callable : block = .function ∨ block = .event)
    (context : String) (opener : Token)
    {following : Reader.CallableHeader → List Statement → Reader α}
    {before : α → Cursor → Cursor → Prop} {behind : α → α → Prop}
    (travels : ∀ header inside after, (following header inside).Travels after)
    (onBefore : ∀ header inside after twinAfter,
      detour.fork.Along after twinAfter →
        (following header inside).Crosses detour.failure after twinAfter
          before behind)
    (onBehind : ∀ header inside other, detour.Lacking inside other →
      ∀ news, (following header inside).Matches (.valid news)
        (following header other) behind)
    (amid : detour.fork.Amid cursor twin) :
    Reader.Crosses (do
      let header ← Reader.callableHeader block context
      let inside ← Reader.callableBody block opener header.flags
      following header inside) detour.failure cursor twin before behind := by
  apply (Reader.Crosses.lift
    (crosses_callableHeader passable block context amid)).bind
  · intro header after
    have body := (travels_callableBody block opener header.flags after).lift
    exact (body.bind fun inside after => travels header inside after).run.grows
  · intro header after twinAfter _ along
    apply (Reader.Crosses.lift
      (crosses_callableBody passable callable opener header.flags along)).bind
    · exact fun inside after => (travels header inside after).run.grows
    · exact fun inside _ _ _ along => onBefore header inside _ _ along
    · exact fun inside other lacking => onBehind header inside other lacking
  · exact fun _ _ behind => behind.elim

/-! ## Functions and events -/

/-- The name of the function is one of the tokens in front of the place. -/
theorem crosses_function
    (returnType : Option TypeName) (amid : detour.fork.Amid cursor twin) :
    (Reader.function returnType).Crosses detour.failure cursor twin
      (fun found cursor twin =>
        detour.fork.Starts found.name.span.start ∧
          detour.fork.Along cursor twin)
      detour.FunctionLacking := by
  apply (Reader.steady_expect _ _ rfl cursor twin amid).bindCrosses
  intro keyword cursor twin inside
  apply (Reader.steady_identifier _ cursor twin inside.2).bindCrosses
  intro name cursor twin inside
  obtain ⟨starts, amid⟩ := inside
  apply crosses_afterName passable (.inl rfl) _ keyword ?_ ?_ ?_ amid
  · exact fun _ _ _ => .get (.pure _)
  · intro header inside after twinAfter along
    exact .look (by simp only [along.spanFrom]) (.pure ⟨starts, along⟩)
  · rintro header inside other ⟨rest, lacks, same⟩ news
    apply Reader.Matches.get
    intro after twinAfter _
    apply Reader.Matches.pure
    refine ⟨_, ⟨rest, lacks, rfl⟩, ?_⟩
    unfold SameBy at same
    simp only [SameBy, Function.bare, same]

/-- An event crosses the line, and lacks something in its body. -/
theorem crosses_event (amid : detour.fork.Amid cursor twin) :
    Reader.event.Crosses detour.failure cursor twin
      (fun _ => detour.fork.Along) detour.EventLacking := by
  apply (Reader.steady_expect _ _ rfl cursor twin amid).bindCrosses
  intro keyword cursor twin inside
  apply (Reader.steady_identifier _ cursor twin inside.2).bindCrosses
  intro name cursor twin inside
  apply crosses_afterName passable (.inr rfl) _ keyword ?_ ?_ ?_ inside.2
  · exact fun _ _ _ => .get (.pure _)
  · intro header inside after twinAfter along
    exact .look (by simp only [along.spanFrom]) (.pure along)
  · rintro header inside other ⟨rest, lacks, same⟩ news
    apply Reader.Matches.get
    intro after twinAfter _
    apply Reader.Matches.pure
    refine ⟨_, ⟨rest, lacks, rfl⟩, ?_⟩
    unfold SameBy at same
    simp only [SameBy, Event.bare, same]

theorem crosses_accessor (amid : detour.fork.Amid cursor twin) :
    Reader.accessor.Crosses detour.failure cursor twin
      (fun found cursor twin =>
        detour.fork.Starts found.name.span.start ∧
          detour.fork.Along cursor twin)
      detour.FunctionLacking := by
  apply Reader.Crosses.look (by simp only [amid.kind])
  split
  · exact crosses_function passable none amid
  · apply (Reader.steady_typeName cursor twin amid).bindCrosses
    intro type cursor twin inside
    exact crosses_function passable (some type) inside.2

/-! ## Outside of bodies -/

/-- Where no body is read, comments are passed, and what comes then is
reported. -/
theorem tells_outside {step : α → Recovery (Step α)}
    (proceeds : ∀ value cursor, (step value).Proceeds cursor)
    (passes : ∀ value cursor, cursor.kind = .docComment →
      (step value).run cursor = (.again value, cursor.next))
    (stops : ∀ value cursor,
      cursor.budget = detour.first :: detour.more → (step value).Tells cursor)
    (value : α) (faces : detour.fork.Faces [] cursor twin) :
    Tells (get >>= fun cursor => loop step cursor.budget value) cursor := by
  have behind (docs : List Token) : (∀ token ∈ docs, token.kind = .docComment) →
      ∀ cursor : Cursor, cursor.budget = docs ++ detour.first :: detour.more →
        Ends (loop step cursor.budget value) cursor fun _ after =>
          cursor.reported.length < after.reported.length := by
    induction docs with
    | nil =>
      intro _ cursor here
      rw [ends_loop proceeds]
      apply Ends.mono (stops value cursor here)
      intro decision after more
      cases decision with
      | done => exact more
      | again following =>
        apply (travels_loop proceeds _ following after).grows.mono
        exact fun _ _ grows => Nat.lt_of_lt_of_le more grows.reported
    | cons token docs ih =>
      intro commented cursor here
      have doc := commented token List.mem_cons_self
      have passed := passes value cursor ((kind_of_budget here).trans doc)
      have next := budget_next_of_budget here (by rw [doc]; nofun)
      rw [ends_loop proceeds]
      unfold Ends
      rw [passed]
      have rest := ih (fun other later =>
        commented other (List.mem_cons_of_mem _ later)) cursor.next next
      rw [reported_next] at rest
      exact rest
  exact behind detour.docs passable.commented cursor faces.here

end Passable

end Detour

/-! ## Properties around a broken line -/

/-- One of the functions of a property has been exchanged. -/
inductive Reader.Accessors.Edited
    (change : List Statement → List Statement → Prop) :
    Accessors → Accessors → Prop
  | getter {tree edited : Function} (setter : Option Function)
      (inside : tree.Edited change edited) :
      Edited change ⟨some tree, setter⟩ ⟨some edited, setter⟩
  | setter {tree edited : Function} (getter : Option Function)
      (inside : tree.Edited change edited) :
      Edited change ⟨getter, some tree⟩ ⟨getter, some edited⟩

theorem Cursor.atMemberStart_of_atFunctionStart
    (starts : cursor.atFunctionStart = true) : cursor.atMemberStart = true := by
  unfold atFunctionStart at starts
  unfold atMemberStart
  split <;> simp_all [atTypeStart, Kind.isTypeKeyword]

namespace Detour

open Recovery

def AccessorsLacking (detour : Detour) (accessors twin : Reader.Accessors) :
    Prop :=
  ∃ edited, accessors.Edited detour.change edited ∧ edited.Same twin

/-- What is missing in the functions of a property stays missing. -/
theorem accessorsGrow (detour : Detour) {pairing : Pairing} :
    AccessorsGrow pairing detour.AccessorsLacking where
  getterIsSome := by
    rintro accessors twin ⟨edited, changed, same⟩
    rw [same.getterIsSome]
    cases changed <;> rfl
  setterIsSome := by
    rintro accessors twin ⟨edited, changed, same⟩
    rw [same.setterIsSome]
    cases changed <;> rfl
  getter := by
    rintro accessors twin ⟨edited, changed, same⟩ found other sameFound
    have grown := same.withGetter sameFound.known
    cases changed with
    | getter setter inside => exact ⟨_, .getter setter inside, grown⟩
    | setter getter inside =>
      exact ⟨_, .setter (getter.or (some found)) inside, grown⟩
  setter := by
    rintro accessors twin ⟨edited, changed, same⟩ found other sameFound
    have grown := same.withSetter sameFound.known
    cases changed with
    | getter setter inside =>
      exact ⟨_, .getter (setter.or (some found)) inside, grown⟩
    | setter getter inside => exact ⟨_, .setter getter inside, grown⟩

/-- Where the values of a property come from, without what the second text
lacks. -/
def SourceLacking (detour : Detour) : PropertySource → PropertySource → Prop :=
  EditedUpTo (PropertySource.Edited detour.change) PropertySource.bare

def PropertyLacking (detour : Detour) (tree twin : Property) : Prop :=
  ∃ source, tree.source.Edited detour.change source ∧
    SameBy Property.bare { tree with source } twin

/-! ## Placing a function that lacks something -/

theorem tells_complainIf
    {applies : Bool} (holds : applies = true) (found : Function)
    (cause : Cause) : (Reader.complainIf applies found cause).Tells cursor := by
  unfold Reader.complainIf
  rw [if_pos holds]
  exact tells_complain _ _

/-- A slot takes one function, so the function that lacks something is the
one that is kept. -/
theorem joins_placeAccessor (property : String) (accessors : Reader.Accessors)
    {found twinFound : Function}
    (lacking : detour.FunctionLacking found twinFound)
    (joined : Rejoined detour.failure cursor twin) :
    (Reader.placeAccessor property accessors found).Joins
      (Reader.placeAccessor property accessors twinFound) detour.failure cursor
      twin detour.AccessorsLacking := by
  obtain ⟨edited, ⟨body, lacks, rfl⟩, same⟩ := lacking
  have sameName (news : List Diagnostic) :
      (Pairing.valid news).Twins Identifier.bare found.name twinFound.name :=
    ⟨congrArg Function.name same, nofun⟩
  have arity := Reader.length_parameters_of_bare_eq same
  have inside : found.Edited detour.change { found with body } :=
    ⟨body, lacks, rfl⟩
  have looks (applies : Bool) {cause : Cause}
      (inner : cause.isInner = true) :
      (Reader.complainIf applies found cause).Grows cursor :=
    (travels_complainIf inner applies found cursor).grows
  by_cases get : found.name.isNamed "Get" = true
  · by_cases taken : accessors.getter.isSome = true
    · apply Tells.joins
      unfold Reader.placeAccessor
      simp only [if_pos get]
      apply (looks _ rfl).bind_tells
      intro _ after
      exact (tells_complainIf taken _ _).bind fun _ _ => .pure _
    · have free : accessors.getter = none := by simpa using taken
      refine Matches.joins (fun news => matches_placeAccessor property
        (sameName news) arity rfl rfl ?_ ?_ ?_) joined
      · intro _
        rw [free]
        exact ⟨_, .getter accessors.setter inside, same.some, rfl⟩
      · intro set
        rw [Reader.isNamed_get_of_isNamed_set set] at get
        cases get
      · intro notGet
        rw [notGet] at get
        cases get
  by_cases set : found.name.isNamed "Set" = true
  · by_cases taken : accessors.setter.isSome = true
    · apply Tells.joins
      unfold Reader.placeAccessor
      simp only [if_neg get, if_pos set]
      apply (looks _ rfl).bind_tells
      intro _ after
      exact (tells_complainIf taken _ _).bind fun _ _ => .pure _
    · have free : accessors.setter = none := by simpa using taken
      refine Matches.joins (fun news => matches_placeAccessor property
        (sameName news) arity rfl rfl ?_ ?_ ?_) joined
      · exact fun isGet => absurd isGet get
      · intro _
        rw [free]
        exact ⟨_, .setter accessors.getter inside, rfl, same.some⟩
      · intro _ notSet
        rw [notSet] at set
        cases set
  · apply Tells.joins
    unfold Reader.placeAccessor
    simp only [if_neg get, if_neg set]
    exact (tells_complainIf rfl _ _).bind fun _ _ => .pure _

/-! ## Blocks of functions -/

section Passable

variable (passable : detour.Passable)

include passable

/-- Between the functions of a property nothing else may stand. -/
theorem tells_nextAccessor
    (keyword : Token) (property : String) (accessors : Reader.Accessors)
    (here : cursor.budget = detour.first :: detour.more) :
    (Reader.nextAccessor keyword property accessors).Tells cursor := by
  have kind := kind_of_budget here
  have starts := passable.starts
  rw [← kind] at starts
  simp only [List.mem_cons, List.not_mem_nil, or_false, not_or] at starts
  obtain ⟨noBreak, _, noDoc, _, noEnd⟩ := starts
  have noFunction : ¬ cursor.atFunctionStart = true := by
    intro function
    have member := atMemberStart_of_atFunctionStart function
    rw [passable.undeclared cursor here] at member
    cases member
  unfold Reader.nextAccessor Tells Ends
  rw [run_skipNewlines_bind_of_ne _ noBreak, run_get_bind, if_neg noEnd,
    if_neg noDoc, if_neg noFunction]
  split
  · exact (tells_reportUnterminated _ _).bind fun _ _ => .pure _
  · apply Tells.unexpected
    intro diagnostic
    exact (tells_reportAndSkipLine _).bind fun _ _ => .pure _

/-- A function of a property crosses the line, or is reported. -/
theorem crosses_nextAccessor
    (keyword : Token) (property : String) (accessors : Reader.Accessors)
    (amid : detour.fork.Amid cursor twin) (other : cursor.kind ≠ .newline) :
    (Reader.nextAccessor keyword property accessors).Crosses detour.failure
      cursor twin
      (Step.Parts (fun _ => detour.fork.Along) fun _ => detour.fork.Along)
      (Step.Decides detour.AccessorsLacking) := by
  have otherToo : twin.kind ≠ .newline := by rwa [amid.kind]
  refine Crosses.congr ?_ (run_skipNewlines_bind_of_ne _ other)
    (run_skipNewlines_bind_of_ne _ otherToo)
  apply Crosses.look (by
    simp only [amid.kind, amid.atFunctionStart, amid.atMemberStart])
  split
  · rename_i word
    apply Crosses.take amid
    apply (agrees_finishLine (amid.next (by rw [word]; rfl)) _).bindCrosses
    exact fun _ _ _ along => .pure along
  split
  · rename_i doc
    exact .take amid (.pure (amid.next (by rw [doc]; rfl)).along)
  split
  · apply Crosses.run_bindJoins (crosses_accessor passable amid)
    · intro answer after
      cases answer with
      | ok found =>
        have placed := travels_placeAccessor property accessors found after
        exact placed.grows.bind fun _ _ => .pure _
      | error diagnostic =>
        exact (grows_reportAndSkipLine _).bind fun _ _ => .pure _
    · rintro found after twinAfter _ ⟨starts, along⟩
      apply (agrees_placeAccessor starts property accessors along).bindCrosses
      exact fun _ _ _ along => .pure along
    · intro found twinFound after twinAfter lacking joined
      apply (joins_placeAccessor property accessors lacking joined).bind
      · exact fun _ _ => .pure _
      · exact fun _ _ placed _ => .pure placed
    · exact fun _ _ => (tells_reportAndSkipLine _).bind fun _ _ => .pure _
  split
  · apply Tells.crosses
    exact (tells_reportUnterminated _ _).bind fun _ _ => .pure _
  · apply Tells.crosses
    apply Tells.unexpected
    intro diagnostic
    exact (tells_reportAndSkipLine _).bind fun _ _ => .pure _

/-- Of the functions of a property one may lack something in its body. -/
theorem crosses_accessorList (keyword : Token) (property : String)
    (along : detour.fork.Along cursor twin) :
    (Reader.accessorList keyword property).Crosses detour.failure cursor twin
      (fun _ => detour.fork.Along) detour.AccessorsLacking := by
  have proceeds := proceeds_nextAccessor keyword property
  have lines := crosses_lines passable proceeds
    (fun _ cursor => run_skipNewlines_bind _ cursor) (kept_nothing _)
    (fun accessors _ _ _ amid other =>
      crosses_nextAccessor passable keyword property accessors amid other)
    (fun accessors _ _ _ _ faces =>
      (tells_outside passable proceeds
        (fun accessors _ => run_nextAccessor_of_docComment keyword property
          accessors)
        (fun accessors _ => tells_nextAccessor passable keyword property
          accessors) accessors faces).crosses)
    (fun _ _ lacking _ => matches_nextAccessor detour.accessorsGrow False.elim
      property lacking) ⟨none, none⟩ trivial (along.enter .property)
  apply Crosses.inBlock
  apply lines.mono
  · exact fun _ _ _ _ along => along.leave
  · exact fun _ _ holds => holds

/-- The block of a property crosses the line in one of its functions. -/
theorem crosses_propertyBlock
    {keyword : Token} (opens : detour.fork.known keyword) (property : String)
    (along : detour.fork.Along cursor twin) :
    (Reader.propertyBlock keyword property).Crosses detour.failure cursor twin
      (fun _ => detour.fork.Along) detour.AccessorsLacking := by
  apply (crosses_accessorList passable keyword property along).bind
  · intro accessors after
    apply (travels_reportNoAccessor _ _ accessors after).grows.bind
    exact fun _ _ => .pure _
  · intro accessors after twinAfter _ along
    apply (agrees_reportNoAccessor opens property accessors along).bindCrosses
    exact fun _ _ _ along => .pure along
  · intro accessors twin lacking news
    apply (matches_reportNoAccessor detour.accessorsGrow False.elim property
      lacking).bind
    exact fun _ _ _ => .pure lacking

/-! ## Whole properties -/

/-- A property with functions crosses the line in one of them. -/
theorem crosses_fullSource
    (property : String) {keyword : Token} (opens : detour.fork.known keyword)
    {line : Reader.PropertyLine} (describes : detour.fork.Describes line.header)
    (along : detour.fork.Along cursor twin) :
    (Reader.fullSource property keyword line).Crosses detour.failure cursor
      twin (fun _ => detour.fork.Along) detour.SourceLacking := by
  apply (agrees_reportInitialValue property describes.initial
    along).bindCrosses
  intro _ cursor twin along
  apply (crosses_propertyBlock passable opens property along).bind
  · exact fun _ _ => .pure _
  · exact fun _ _ _ _ along => .pure along
  · rintro accessors twin ⟨edited, changed, same⟩ news
    apply Matches.pure
    refine ⟨.full edited.getter edited.setter, ?_,
      congrArg₂ PropertySource.full same.getter same.setter⟩
    cases changed with
    | getter setter inside => exact .getter setter inside
    | setter getter inside => exact .setter getter inside

/-- The header line of a property is the same in both texts. -/
theorem crosses_propertyLine (amid : detour.fork.Amid cursor twin) :
    Reader.propertyLine.Crosses detour.failure cursor twin
      (fun line after twinAfter => line.intact = true ∧
        detour.fork.Lined line after twinAfter)
      fun _ _ => False := by
  intro silent
  have untold {after : Cursor} (told : detour.fork.Told after) :
      after.reported ≠ [] := by
    intro nothing
    unfold Fork.Told at told
    rw [nothing] at told
    exact Nat.not_lt_zero _ told
  rcases agreesUnless_propertyLine passable.plain amid with lost | agrees
  · exact absurd silent (untold lost.2.2)
  · refine .inl ⟨agrees.1, ?_, agrees.2⟩
    by_contra broken
    exact untold (agrees.2.told (by simpa using broken)) silent

/-- A property crosses the line in one of its functions. -/
theorem crosses_propertyAfter
    (type : TypeName) (amid : detour.fork.Amid cursor twin) :
    (Reader.propertyAfter type).Crosses detour.failure cursor twin
      (fun _ => detour.fork.Along) detour.PropertyLacking := by
  apply (Reader.steady_expect _ _ rfl cursor twin amid).bindCrosses
  intro keyword cursor twin inside
  obtain ⟨⟨opens, _⟩, amid⟩ := inside
  apply (Reader.steady_identifier _ cursor twin amid).bindCrosses
  intro name cursor twin inside
  apply (Reader.Crosses.lift (crosses_propertyLine passable inside.2)).bind
  · intro line after
    have alone := (travels_standsAlone line after).lift
    have rest := alone.bind fun alone after =>
      Reader.travels_propertySource type name keyword line alone after
    exact (Reader.Travels.run rest).grows
  · rintro line cursor twin _ ⟨intact, lined⟩
    have describes := lined.describes
    have stands : Reader.Agrees (liftM (Reader.standsAlone line)) detour.fork
        cursor twin fun alone after twinAfter =>
          alone = false ∧ detour.fork.Along after twinAfter := by
      unfold Reader.standsAlone
      rw [if_pos (by rw [intact]; rfl)]
      exact .pure ⟨rfl, lined.along⟩
    apply stands.bindCrosses
    rintro _ cursor twin ⟨rfl, along⟩
    simp only [Bool.false_eq_true, if_false]
    split
    · rename_i automatic found
      have opens := describes.automatic automatic found
      have source : Reader.Agrees
          (liftM (Reader.automaticSource name.name automatic line))
          detour.fork cursor twin fun _ => detour.fork.Along :=
        .lift (agrees_automaticSource _ opens line along)
      apply source.bindCrosses
      exact fun _ _ _ along => .pure along
    · apply (Reader.Crosses.lift (crosses_fullSource passable name.name opens
        describes along)).bind
      · exact fun _ _ => .pure _
      · intro source after twinAfter _ along
        exact .look (by simp only [along.lastEnd]) (.pure along)
      · rintro source twinSource ⟨edited, changed, same⟩ news
        apply Reader.Matches.get
        intro _ _ _
        apply Reader.Matches.pure
        refine ⟨edited, changed, ?_⟩
        unfold SameBy at *
        simp only [Property.bare, same]
  · exact fun _ _ behind => behind.elim

end Passable

end Detour

end PapyrusScript
