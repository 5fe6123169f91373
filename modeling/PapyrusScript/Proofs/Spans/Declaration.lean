import PapyrusScript.Proofs.Spans.Statement

/-!
# Spans of functions, events, variables and properties

A function stands between the start of its type, which has been read before,
and the last token that has been passed.  A broken header keeps the parameters
in front of the error, and the body is read behind whatever is discarded.

A property that is one line ends in front of its documentation comment, or in
front of the error of its header.  One with functions of its own ends behind
the last token that has been passed.  In both cases its type and name and its
initial value or functions stand in front of that place.
-/

namespace PapyrusScript

variable {cursor : Cursor}

/-! ## Parameters -/

namespace Reader

/-- A parameter stands from its type to the last token of its default. -/
theorem places_parameter :
    parameter.Places cursor fun tree after =>
      tree.span.NestsIn (after.spanFrom cursor.position) ∧ tree.Arranged := by
  unfold parameter
  apply Places.get
  split
  · apply places_typeName.bind
    intro type second typed placed
    apply (places_identifier _).bind
    intro name third named placedName
    apply places_initialConstant.bind
    intro default after defaulted placedDefault
    apply Places.get
    apply Places.pure
    intro _
    refine ⟨?_, ⟨?_, ?_, fun node member => ?_⟩, fun node member => ?_⟩ <;>
      grind
  · exact places_reject _

end Reader

namespace Recovery

open Reader

/-- The parameters in front of an error stand where they were read. -/
theorem places_nextParameter
    {start : Position} {found : List Parameter × Option Diagnostic}
    (begins : start ≤ cursor.position)
    (holds : (cursor.spanFrom start).Holds Parameter.span Parameter.Arranged
      found.1) :
    (nextParameter found).Places cursor fun decision after =>
      (after.spanFrom start).Holds Parameter.span Parameter.Arranged
        decision.value.1 := by
  unfold nextParameter
  apply Places.run_bind places_parameter
  · intro next middle moves placed
    have longer := holds.concat moves begins placed.1 placed.2
    apply Places.get
    split
    · apply Places.take
      exact fun _ _ taken _ =>
        .pure fun _ => longer.mono (le_refl _) taken.lastEnd
    · apply Places.take
      exact fun _ _ taken _ =>
        .pure fun _ => longer.mono (le_refl _) taken.lastEnd
    · exact .unexpected fun _ => .pure fun _ => longer
  · exact fun _ _ moves => .pure fun _ => holds.mono (le_refl _) moves.lastEnd

/-- Parameters stand one behind the other. -/
theorem places_parameters :
    parameters.Places cursor fun found after =>
      (after.spanFrom cursor.position).Holds Parameter.span Parameter.Arranged
        found.1 := by
  unfold parameters
  apply Places.run_bind (places_symbol _ _)
  · intro _ middle moves _
    apply Places.get
    split
    · apply Places.take
      exact fun _ _ _ _ => .pure fun _ => .nil
    · apply Places.loop
      · exact fun _ _ further holds =>
          places_nextParameter (moves.trans further).position holds
      · exact fun _ => .nil
  · exact fun _ _ _ => .pure fun _ => .nil

/-! ## Headers and bodies -/

/-- A broken header keeps the parameters in front of the error. -/
theorem places_callableHeader (block : Block) (context : String) :
    (callableHeader block context).Places cursor fun header after =>
      (after.spanFrom cursor.position).Holds Parameter.span Parameter.Arranged
        header.parameters := by
  unfold callableHeader
  apply places_parameters.bind
  rintro ⟨found, failure⟩ middle moves holds
  have kept (after : Cursor) (further : middle.MovesTo after) :
      (after.spanFrom cursor.position).Holds Parameter.span Parameter.Arranged
        found :=
    holds.mono (le_refl _) further.lastEnd
  cases failure with
  | some diagnostic => exact places_skipLineAfter diagnostic kept
  | none =>
    apply Places.skip (travels_callableFlags block middle)
    intro flags third flagged
    apply Places.run_bind (travels_endOfDeclaration context third).places
    · exact fun _ after ended _ =>
        .pure fun _ => kept after (flagged.trans ended)
    · intro diagnostic after ended
      apply places_skipLineAfter
      exact fun last more => kept last (flagged.trans (ended.trans more))

/-- The statements of a body stand between its header and its end. -/
theorem places_openBody (block : Block) (opener : Token) :
    (openBody block opener).Places cursor fun found after =>
      (after.spanFrom cursor.position).Holds Statement.span Statement.Arranged
        found := by
  unfold openBody
  apply (places_body block cursor).bind
  intro inside middle moves holds
  apply Places.get
  split
  · apply Places.take
    intro _ third taken _
    apply Places.skip (travels_finishLine _ third)
    exact fun _ after finished =>
      .pure fun _ => holds.mono (le_refl _) (taken.trans finished).lastEnd
  · apply Places.skip (travels_reportUnterminated block opener)
    exact fun _ after told =>
      .pure fun _ => holds.mono (le_refl _) told.lastEnd

theorem places_callableBody
    (block : Block) (opener : Token) (flags : CallableFlags) :
    (callableBody block opener flags).Places cursor fun found after =>
      (after.spanFrom cursor.position).Holds Statement.span Statement.Arranged
        found := by
  unfold callableBody
  split
  · exact .pure fun _ => .nil
  · exact places_openBody block opener

end Recovery

/-! ## Functions, events and variables -/

/-- The header of a function or event stands in front of its body. -/
theorem partsOrdered_of_holds {source middle target : Cursor}
    {parameters : List Parameter} {body : List Statement}
    (moves : source.MovesTo middle)
    (holdsParameters : (middle.spanFrom source.position).Holds Parameter.span
      Parameter.Arranged parameters)
    (holds : (target.spanFrom middle.position).Holds Statement.span
      Statement.Arranged body) :
    PartsOrdered source.position parameters body := by
  refine ⟨middle.position, fun node member => ?_, moves.position,
    Statement.bodyOrdered_of_holds holds (le_refl _)⟩
  obtain ⟨nests, arranged⟩ := holdsParameters.each node member
  refine ⟨arranged.ordered, ?_, ?_⟩ <;> grind

theorem PartsOrdered.earlier {first place : Position}
    {parameters : List Parameter} {body : List Statement}
    (ordered : PartsOrdered place parameters body) (before : first ≤ place) :
    PartsOrdered first parameters body := by
  obtain ⟨behind, each, later, inside⟩ := ordered
  exact ⟨behind, fun node member => ⟨(each node member).1,
    le_trans before (each node member).2.1, (each node member).2.2⟩,
    le_trans before later, inside⟩

namespace Reader

/-- A function stands behind its type and in front of what is next. -/
theorem places_function {returnType : Option TypeName} {start : Position}
    (begins : start ≤ cursor.position)
    (typed : ∀ type ∈ returnType, type.span.NestsIn (cursor.spanFrom start)) :
    (function returnType).Places cursor fun tree after =>
      tree.StandsIn (after.spanFrom start) ∧
        tree.span.start ≤ cursor.position := by
  unfold function
  apply (places_keyword _ _).bind
  intro keyword second opened placed
  apply (places_identifier _).bind
  intro name third named placedName
  apply (Places.lift (Recovery.places_callableHeader _ _)).bind
  intro header fourth headed holdsParameters
  apply (Places.lift (Recovery.places_callableBody _ _ _)).bind
  intro inside after read holds
  apply Places.get
  apply Places.pure
  intro _
  have ordered := partsOrdered_of_holds headed holdsParameters holds
  have parameters := holdsParameters.imp fun _ => Parameter.Arranged.nested
  have body := holds.imp fun _ => Statement.Arranged.nested
  cases returnType with
  | none =>
    refine ⟨⟨?_, ⟨nofun, ?_, ?_, ?_⟩, third.position, ?_, nofun, ordered⟩,
      ?_⟩
    · grind
    · grind
    · apply parameters.mono <;> grind
    · apply body.mono <;> grind
    · grind
    · grind
  | some type =>
    have nests := typed type rfl
    refine ⟨⟨?_, ⟨forall_mem_some ?_, ?_, ?_, ?_⟩, third.position, ?_,
      forall_mem_some ?_, ordered⟩, ?_⟩
    · grind
    · grind
    · grind
    · apply parameters.mono <;> grind
    · apply body.mono <;> grind
    · grind
    · grind
    · grind

/-- An event stands from its keyword to the last token passed. -/
theorem places_event :
    event.Places cursor fun tree after =>
      tree.span.NestsIn (after.spanFrom cursor.position) ∧ tree.Arranged := by
  unfold event
  apply (places_keyword _ _).bind
  intro keyword second opened placed
  apply (places_identifier _).bind
  intro name third named placedName
  apply (Places.lift (Recovery.places_callableHeader _ _)).bind
  intro header fourth headed holdsParameters
  apply (Places.lift (Recovery.places_callableBody _ _ _)).bind
  intro inside after read holds
  apply Places.get
  apply Places.pure
  intro _
  have ordered := partsOrdered_of_holds headed holdsParameters holds
  have parameters := holdsParameters.imp fun _ => Parameter.Arranged.nested
  have body := holds.imp fun _ => Statement.Arranged.nested
  refine ⟨?_, ⟨?_, ?_, ?_⟩, ordered.earlier ?_⟩
  · grind
  · grind
  · apply parameters.mono <;> grind
  · apply body.mono <;> grind
  · grind

/-- A variable stands from its type to the end of its line. -/
theorem places_variableAfter {type : TypeName} {start : Position}
    (typed : type.span.NestsIn (cursor.spanFrom start)) :
    (variableAfter type).Places cursor fun tree after =>
      tree.span.NestsIn (after.spanFrom start) ∧
        tree.Nested ∧ tree.Ordered := by
  unfold variableAfter
  apply (places_identifier _).bind
  intro name second named placedName
  apply places_initialConstant.bind
  intro initial third assigned placed
  apply Places.skip (travels_variableFlags third).lift
  intro conditional fourth flagged
  apply Places.get
  apply Places.skip (travels_endOfLine _ fourth)
  intro _ after ended
  apply Places.pure
  intro _
  refine ⟨?_, ⟨?_, ?_, fun node member => ?_⟩, fun node member => ?_⟩ <;> grind

end Reader

namespace Recovery

open Reader

/-! ## Header lines of properties -/

theorem places_automaticFlag (header : PropertyHeader) :
    (automaticFlag header).Places cursor fun decision _ =>
      decision.value.1.initial = header.initial := by
  unfold automaticFlag
  split
  · exact .unexpected fun _ => .pure fun _ => rfl
  · apply Places.take
    exact fun _ _ _ _ => .pure fun _ => rfl

theorem places_propertyFlag (found : PropertyHeader × Option Diagnostic) :
    (propertyFlag found).Places cursor fun decision _ =>
      decision.value.1.initial = found.1.initial := by
  unfold propertyFlag
  apply Places.get
  split
  · exact places_automaticFlag _
  · exact places_automaticFlag _
  · apply Places.take
    exact fun _ _ _ _ => .pure fun _ => rfl
  · apply Places.take
    exact fun _ _ _ _ => .pure fun _ => rfl
  · exact .pure fun _ => rfl

/-- The initial value of a property stands behind its name. -/
theorem places_propertyHeader :
    propertyHeader.Places cursor fun found after =>
      ∀ node ∈ found.1.initial,
        node.span.NestsIn (after.spanFrom cursor.position) := by
  unfold propertyHeader
  apply Places.run_bind places_initialConstant
  · intro initial middle moves placed
    have flags : Places
        (loop propertyFlag middle.budget
          (⟨initial, none, false, false⟩, none)) middle
        fun found _ => found.1.initial = initial := by
      apply Places.loop
      · intro found _ _ kept
        exact (places_propertyFlag found).mono fun _ _ _ same => same.trans kept
      · exact fun _ => rfl
    apply Places.get
    apply flags.mono
    intro found after further kept
    rw [kept]
    grind
  · exact fun _ _ _ => .pure fun _ => nofun

/-- The header line ends behind its initial value. -/
structure LinePlaced
    (source target : Cursor) (line : PropertyLine) : Prop where
  initial : ∀ node ∈ line.header.initial,
    node.span.NestsIn ⟨source.position, line.stop⟩
  behind : source.lastEnd ≤ line.stop
  before : line.stop ≤ target.lastEnd

/-- The header line of a property ends behind its initial value. -/
theorem places_propertyLine :
    propertyLine.Places cursor fun line after =>
      LinePlaced cursor after line := by
  unfold propertyLine
  apply places_propertyHeader.bind
  rintro ⟨header, failure⟩ middle moves nests
  apply Places.get
  cases failure with
  | some diagnostic =>
    apply places_skipLineAfter
    exact fun after further => ⟨nests, moves.lastEnd, further.lastEnd⟩
  | none =>
    apply Places.run_bind (travels_endOfDeclaration _ middle).places
    · exact fun _ after ended _ =>
        .pure fun _ => ⟨nests, moves.lastEnd, ended.lastEnd⟩
    · intro diagnostic third ended
      apply Places.get
      apply places_skipLineAfter
      intro after further
      have behind := (moves.trans ended).lastEnd
      refine ⟨fun node member => ?_, behind, further.lastEnd⟩
      have inside := nests node member
      grind

end Recovery

/-! ## Functions of a property -/

/-- A function that has been read for a property up to a cursor. -/
structure Function.Stands
    (tree : Function) (start : Position) (cursor : Cursor) : Prop where
  standsIn : tree.StandsIn (cursor.spanFrom start)
  before : tree.span.start < cursor.position

attribute [grind cases] Function.Stands

theorem Function.Stands.later
    {tree : Function} {start : Position} {source target : Cursor}
    (stands : tree.Stands start source) (moves : source.MovesTo target) :
    tree.Stands start target := by
  refine ⟨?_, Position.lt_of_lt_of_le stands.before moves.position⟩
  grind

namespace Reader

/-- A function of a property starts in front of where it ends. -/
theorem places_accessor :
    accessor.Places cursor fun tree after =>
      tree.Stands cursor.position after := by
  unfold accessor
  apply Places.get
  split
  · have read := @places_function cursor none _ (le_refl _) nofun
    apply (read.passes (advances_function none cursor)).mono
    rintro tree after moves ⟨passed, stands, starts⟩
    exact ⟨stands, lt_of_le_of_lt starts passed⟩
  · apply places_typeName.bind
    intro type middle moves placed
    have read := places_function moves.position (forall_mem_some placed)
    apply (read.passes (advances_function _ middle)).mono
    rintro tree after further ⟨passed, stands, starts⟩
    exact ⟨stands, lt_of_le_of_lt starts passed⟩

end Reader

namespace Recovery

open Reader

variable {accessors : Accessors} {start : Position}

/-- The functions that have been found stand up to a cursor, the setter behind
the getter or in front of it. -/
structure AccessorsStand
    (accessors : Accessors) (start : Position) (cursor : Cursor) : Prop where
  getter : ∀ tree ∈ accessors.getter, tree.Stands start cursor
  setter : ∀ tree ∈ accessors.setter, tree.Stands start cursor
  apart : ∀ getter ∈ accessors.getter, ∀ setter ∈ accessors.setter,
    getter.span.stop ≤ setter.span.start ∨ setter.span.start < getter.span.start

theorem AccessorsStand.later
    {source target : Cursor} (stand : AccessorsStand accessors start source)
    (moves : source.MovesTo target) :
    AccessorsStand accessors start target where
  getter tree member := (stand.getter tree member).later moves
  setter tree member := (stand.setter tree member).later moves
  apart := stand.apart

/-- A function that is kept stands behind the others. -/
theorem places_placeAccessor
    (property : String) {found : Function} {source : Cursor}
    (moves : source.MovesTo cursor) (begins : start ≤ source.position)
    (stand : AccessorsStand accessors start source)
    (stands : found.Stands source.position cursor) :
    (placeAccessor property accessors found).Places cursor
      fun accessors after => AccessorsStand accessors start after := by
  have kept := stand.later moves
  have here : found.Stands start cursor := by
    refine ⟨?_, stands.before⟩
    grind
  have getter : AccessorsStand
      { accessors with getter := accessors.getter.or (some found) }
      start cursor := by
    refine ⟨forall_mem_or kept.getter here, kept.setter, ?_⟩
    apply forall_mem_or kept.apart
    intro setter member
    have before := (stand.setter setter member).before
    exact .inr (Position.lt_of_lt_of_le before stands.standsIn.span.start)
  have setter : AccessorsStand
      { accessors with setter := accessors.setter.or (some found) }
      start cursor := by
    refine ⟨kept.getter, forall_mem_or kept.setter here, ?_⟩
    intro getter member
    apply forall_mem_or (kept.apart getter member)
    have nests := (stand.getter getter member).standsIn
    left
    grind
  unfold placeAccessor
  split
  · apply Places.skip (travels_complainIf rfl _ found cursor)
    intro _ middle told
    apply Places.skip (travels_complainIf rfl _ found middle)
    exact fun _ after further =>
      .pure fun _ => getter.later (told.trans further)
  · split
    · apply Places.skip (travels_complainIf rfl _ found cursor)
      intro _ middle told
      apply Places.skip (travels_complainIf rfl _ found middle)
      exact fun _ after further =>
        .pure fun _ => setter.later (told.trans further)
    · apply Places.skip (travels_complainIf rfl _ found cursor)
      exact fun _ after told => .pure fun _ => kept.later told

/-- A function of a property is placed behind those in front of it. -/
theorem places_nextAccessor
    (keyword : Token) (property : String) (begins : start ≤ cursor.position)
    (stand : AccessorsStand accessors start cursor) :
    (nextAccessor keyword property accessors).Places cursor
      fun decision after => AccessorsStand decision.value start after := by
  unfold nextAccessor
  apply Places.skip (travels_skipNewlines cursor)
  intro _ middle skipped
  have kept := stand.later skipped
  have beginsHere := le_trans begins skipped.position
  apply Places.get
  split
  · apply Places.take
    intro _ third taken _
    apply Places.skip (travels_finishLine _ third)
    exact fun _ after finished =>
      .pure fun _ => kept.later (taken.trans finished)
  split
  · apply Places.take
    exact fun _ after taken _ => .pure fun _ => kept.later taken
  split
  · apply Places.run_bind places_accessor
    · intro found third read stands
      apply (places_placeAccessor property read beginsHere kept stands).bind
      exact fun _ _ _ placed => .pure fun _ => placed
    · intro diagnostic third read
      apply places_skipLineAfter
      exact fun after further => kept.later (read.trans further)
  split
  · apply Places.skip (travels_reportUnterminated _ _)
    exact fun _ after told => .pure fun _ => kept.later told
  · apply Places.unexpected
    intro diagnostic
    apply places_skipLineAfter
    exact fun after further => kept.later further

/-- The functions of a property stand in its block. -/
theorem places_propertyBlock (keyword : Token) (property : String) :
    (propertyBlock keyword property).Places cursor fun accessors after =>
      AccessorsStand accessors cursor.position after := by
  have accessors : (accessorList keyword property).Places cursor
      fun accessors after =>
        AccessorsStand accessors cursor.position after := by
    apply Places.inBlock
    apply Places.get
    have along : Places
        (loop (nextAccessor keyword property)
          (cursor.enter .property).budget ⟨none, none⟩)
        (cursor.enter .property)
        fun accessors after =>
          AccessorsStand accessors cursor.position after := by
      apply Places.loop
      · exact fun _ _ moves stand =>
          places_nextAccessor keyword property moves.position stand
      · exact fun _ => ⟨nofun, nofun, nofun⟩
    apply along.mono
    exact fun _ _ moves stand => stand.later moves.orderlyTarget.leave
  apply accessors.bind
  intro accessors middle moves stand
  apply Places.skip (travels_reportNoAccessor keyword property accessors middle)
  exact fun _ after told => .pure fun _ => stand.later told

/-! ## Where the values of a property come from -/

/-- The value of an automatic property is its initial value. -/
theorem places_automaticSource
    (property : String) (keyword : Token) (line : PropertyLine) :
    (automaticSource property keyword line).Places cursor fun source _ =>
      ∀ (outer : Span) (place : Position),
        (∀ node ∈ line.header.initial,
          node.span.NestsIn outer ∧ place ≤ node.span.start) →
            source.NestsIn outer ∧ source.Ordered place := by
  unfold automaticSource
  split
  · split
    · rename_i initial found
      exact .pure fun _ outer place nests => nests initial found
    · apply Places.skip
        (travels_reportMissingValue property keyword line cursor)
      exact fun _ _ _ => .pure fun _ _ _ _ => ⟨nofun, nofun⟩
  · exact .pure fun _ outer place nests =>
      ⟨fun node member => (nests node member).1,
        fun node member => (nests node member).2⟩

/-- The functions of a property stand behind its header line. -/
theorem places_fullSource
    (property : String) (keyword : Token) (line : PropertyLine) :
    (fullSource property keyword line).Places cursor fun source after =>
      source.NestsIn (after.spanFrom cursor.position) ∧
        source.Ordered cursor.position := by
  unfold fullSource
  apply Places.skip (travels_reportInitialValue property _ cursor)
  intro _ middle told
  apply (places_propertyBlock keyword property).bind
  intro accessors after read stand
  apply Places.pure
  intro _
  refine ⟨⟨fun tree member => ?_, fun tree member => ?_⟩,
    fun tree member => ?_, fun tree member => ?_, stand.apart⟩
  · have inside := stand.getter tree member
    grind
  · have inside := stand.setter tree member
    grind
  · have inside := stand.getter tree member
    grind
  · have inside := stand.setter tree member
    grind

end Recovery

namespace Reader

/-- A property stands from its type to the end of its line or block. -/
theorem places_propertyAfter {type : TypeName} {start : Position}
    (typed : type.span.NestsIn (cursor.spanFrom start)) :
    (propertyAfter type).Places cursor fun tree after =>
      tree.span.NestsIn (after.spanFrom start) ∧
        tree.Nested ∧ tree.Ordered := by
  unfold propertyAfter
  apply (places_keyword _ _).bind
  intro keyword second opened placed
  apply (places_identifier _).bind
  intro name third named placedName
  apply (Places.lift Recovery.places_propertyLine).bind
  intro line fourth lined linePlaced
  have initial : ∀ node ∈ line.header.initial,
      node.span.NestsIn ⟨type.span.start, line.stop⟩ ∧
        third.position ≤ node.span.start := by
    intro node member
    have inside := linePlaced.initial node member
    grind
  have behind := linePlaced.behind
  have before := linePlaced.before
  have typeFirst : type.span.stop ≤ third.position := by grind
  dsimp only
  apply Places.skip (Recovery.travels_standsAlone line fourth).lift
  intro alone fifth looked
  split
  · apply Places.pure
    intro _
    refine ⟨?_, ⟨?_, ?_, fun node member => (initial node member).1⟩,
      third.position, typeFirst, fun node member => (initial node member).2⟩ <;>
      grind
  · split
    · apply (Places.lift (Recovery.places_automaticSource _ _ line)).bind
      intro source after sourced nests
      obtain ⟨nestsSource, ordered⟩ := nests _ _ initial
      apply Places.pure
      intro _
      refine ⟨?_, ⟨?_, ?_, nestsSource⟩, third.position, typeFirst, ordered⟩ <;>
        grind
    · apply (Places.lift (Recovery.places_fullSource _ _ line)).bind
      intro source after sourced ⟨nests, ordered⟩
      apply Places.get
      apply Places.pure
      intro _
      refine ⟨?_, ⟨?_, ?_, nests.mono ?_ ?_⟩, fifth.position, ?_, ordered⟩ <;>
        grind

end Reader

end PapyrusScript
