import PapyrusScript.Proofs.Spans.Declaration

/-!
# Spans of scripts

What a state hoists counts as declared in front of the state, though it stands
inside.  Each such declaration is reported, so members that were found without
a report stand one behind the other.

Whatever the text, every node of the tree runs forwards and stands inside the
node above it, and the nodes of a list stand one behind the other.  The members
of a script do so if the script has no errors.
-/

namespace PapyrusScript

section Readers

variable {cursor : Cursor}
variable {middle target : Cursor} {start : Position}

/-! ## Members -/

namespace Reader

/-- A member stands from its type on. -/
theorem places_typedMember :
    typedMember.Places cursor fun member after =>
      member.StandsIn (after.spanFrom cursor.position) := by
  unfold typedMember
  apply places_typeName.bind
  intro type middle moves placed
  apply Places.get
  split
  · apply Places.map
    exact (places_function moves.position (forall_mem_some placed)).mono
      fun _ _ _ stands => ⟨stands.1.span, stands.1.nested, stands.1.ordered⟩
  · apply Places.map
    exact (places_propertyAfter placed).mono
      fun _ _ _ stands => ⟨stands.1, stands.2.1, stands.2.2⟩
  · apply Places.map
    exact (places_variableAfter placed).mono
      fun _ _ _ stands => ⟨stands.1, stands.2.1, stands.2.2⟩
  · exact places_reject _

theorem places_plainMember :
    plainMember.Places cursor fun member after =>
      member.StandsIn (after.spanFrom cursor.position) := by
  unfold plainMember
  apply Places.get
  split
  · apply Places.map
    exact (@places_function cursor none _ (le_refl _) nofun).mono
      fun _ _ _ stands => ⟨stands.1.span, stands.1.nested, stands.1.ordered⟩
  · exact places_typedMember

end Reader

/-- Members that have been found up to a cursor.  They stand in a stretch, and
if nothing has been reported, one behind the other. -/
structure MembersPlaced
    (start : Position) (cursor : Cursor) (found : List Member) : Prop where
  stands : ∀ member ∈ found, member.StandsIn (cursor.spanFrom start)
  inOrder : cursor.reported = [] → Span.InOrder (found.map Member.span)

/-- Nothing has been reported at a cursor if nothing is at a later one. -/
theorem Cursor.MovesTo.silent
    {source target : Cursor} (moves : source.MovesTo target)
    (silent : target.reported = []) : source.reported = [] := by
  have suffix := moves.reported
  rw [silent] at suffix
  exact List.suffix_nil.1 suffix

namespace MembersPlaced

variable {middle target : Cursor} {start : Position} {found : List Member}

theorem later (placed : MembersPlaced start middle found)
    (moves : middle.MovesTo target) : MembersPlaced start target found where
  stands member isFound := by
    have stands := placed.stands member isFound
    grind
  inOrder silent := placed.inOrder (moves.silent silent)

/-- Members stand behind those that were found in front of them. -/
theorem append {more : List Member} (placed : MembersPlaced start middle found)
    (moves : middle.MovesTo target) (begins : start ≤ middle.position)
    (further : MembersPlaced middle.position target more) :
    MembersPlaced start target (found ++ more) where
  stands := by
    intro member isFound
    rcases List.mem_append.1 isFound with earlier | later
    · exact (placed.later moves).stands member earlier
    · have stands := further.stands member later
      grind
  inOrder := by
    intro silent
    have first := placed.inOrder (moves.silent silent)
    have second := further.inOrder silent
    rw [Span.InOrder, List.map_append, List.pairwise_append]
    refine ⟨first, second, ?_⟩
    simp only [List.forall_mem_map]
    intro one isOne other isOther
    have stands := placed.stands one isOne
    have standsOther := further.stands other isOther
    grind

theorem single
    {member : Member} (stands : member.StandsIn (target.spanFrom start)) :
    MembersPlaced start target [member] where
  stands := List.forall_mem_singleton.2 stands
  inOrder _ := List.pairwise_singleton _ _

end MembersPlaced

/-! ## States -/

/-- What has been found of a state up to a cursor.  What it hoists has been
reported. -/
structure StatePlaced
    (start : Position) (cursor : Cursor) (found : Reader.StateBody) :
    Prop where
  events : (cursor.spanFrom start).Holds Event.span Event.Arranged found.events
  hoisted : ∀ member ∈ found.hoisted, member.StandsIn (cursor.spanFrom start)
  nothing : cursor.reported = [] → found.hoisted = []

theorem StatePlaced.later
    {found : Reader.StateBody} (placed : StatePlaced start middle found)
    (moves : middle.MovesTo target) :
    StatePlaced start target found where
  events := placed.events.mono (le_refl _) moves.lastEnd
  hoisted member isHoisted := by
    have stands := placed.hoisted member isHoisted
    grind
  nothing silent := placed.nothing (moves.silent silent)

namespace Recovery

open Reader

section States

variable {start : Position} {found : StateBody}
  (begins : start ≤ cursor.position) (placed : StatePlaced start cursor found)
include begins placed

/-- A declaration in a state stands in it, and has been reported. -/
theorem places_hoistedMember (state : String) :
    (hoistedMember state found).Places cursor fun found after =>
      StatePlaced start after found := by
  unfold hoistedMember
  apply Places.get
  apply (places_report _).bind
  intro _ second told loud
  apply Places.run_bind places_plainMember
  · intro member after read stands
    apply Places.pure
    intro _
    have kept := placed.later (told.trans read)
    refine ⟨kept.events, ?_, fun silent => ?_⟩
    · rw [List.forall_mem_append, List.forall_mem_singleton]
      refine ⟨kept.hoisted, ?_⟩
      grind
    · exact absurd (read.silent silent) loud
  · intro diagnostic third read
    apply Places.report
    intro fourth reported
    apply Places.skip (travels_skipMember _ fourth)
    exact fun _ after skipped => .pure fun _ =>
      placed.later (told.trans (read.trans (reported.trans skipped)))

omit begins in
theorem places_unfinishedState (keyword : Token) :
    (unfinishedState keyword found).Places cursor fun decision after =>
      StatePlaced start after decision.value := by
  unfold unfinishedState
  apply Places.skip (travels_reportUnterminated _ _)
  exact fun _ after told => .pure fun _ => placed.later told

/-- A line of a state keeps its events one behind the other. -/
theorem places_nextInState (keyword : Token) (state : String) :
    (nextInState keyword state found).Places cursor fun decision after =>
      StatePlaced start after decision.value := by
  unfold nextInState
  apply Places.skip (travels_skipNewlines cursor)
  intro _ middle skipped
  have kept := placed.later skipped
  apply Places.get
  split
  · apply Places.take
    intro _ third taken _
    apply Places.skip (travels_finishLine _ third)
    exact fun _ after finished =>
      .pure fun _ => kept.later (taken.trans finished)
  · apply Places.take
    exact fun _ after taken _ => .pure fun _ => kept.later taken
  · apply Places.run_bind places_event
    · intro next after read nests
      apply Places.pure
      intro _
      have last := kept.later read
      refine ⟨?_, last.hoisted, last.nothing⟩
      exact kept.events.concat read (le_trans begins skipped.position)
        nests.1 nests.2
    · intro diagnostic third read
      apply places_skipLineAfter
      exact fun after further => kept.later (read.trans further)
  · exact places_unfinishedState kept keyword
  · exact places_unfinishedState kept keyword
  · exact places_unfinishedState kept keyword
  · exact places_unfinishedState kept keyword
  · split
    · exact places_unfinishedState kept keyword
    split
    · apply (places_hoistedMember (le_trans begins skipped.position) kept
        state).bind
      exact fun _ _ _ placed => .pure fun _ => placed
    · apply Places.unexpected
      intro diagnostic
      apply places_skipLineAfter
      exact fun after further => kept.later further

end States

/-- Events of a state stand one behind the other. -/
theorem places_stateBody (keyword : Token) (state : String) :
    (stateBody keyword state).Places cursor fun found after =>
      StatePlaced cursor.position after found := by
  unfold stateBody
  apply Places.inBlock
  have inside : Places
      (loop (nextInState keyword state) (cursor.enter .state).budget ⟨[], []⟩)
      (cursor.enter .state)
      fun found after => StatePlaced cursor.position after found := by
    apply Places.loop
    · exact fun _ _ moves placed =>
        places_nextInState moves.position placed keyword state
    · exact fun _ => ⟨.nil, List.forall_mem_nil _, fun _ => rfl⟩
  apply Places.get
  apply inside.mono
  exact fun _ _ _ placed => ⟨placed.events, placed.hoisted, placed.nothing⟩

end Recovery

namespace Reader

/-- The hoisted members stand inside the state, and have been reported. -/
theorem places_stateMembers :
    stateMembers.Places cursor fun found after =>
      MembersPlaced cursor.position after found := by
  unfold stateMembers
  apply Places.get
  apply Places.skip (Recovery.travels_autoMark cursor).lift
  intro auto second marked
  apply (places_keyword _ _).bind
  intro keyword third opened _
  apply (places_identifier _).bind
  intro name fourth named placed
  apply Places.skip (travels_endOfLine _ fourth)
  intro _ fifth ended
  apply (Places.lift (Recovery.places_stateBody _ _)).bind
  intro found after read inside
  apply Places.get
  apply Places.pure
  intro _
  have events : (after.spanFrom cursor.position).Holds Event.span
      Event.Arranged found.events := by
    apply inside.events.mono <;> grind
  have state : (Member.state ⟨name, auto, found.events,
      after.spanFrom cursor.position⟩).StandsIn
        (after.spanFrom cursor.position) := by
    refine ⟨?_, ⟨?_, events.imp fun _ => Event.Arranged.nested⟩,
      fun event member => (events.each event member).2.ordered⟩
    · show (after.spanFrom cursor.position).NestsIn _
      grind
    · show name.span.NestsIn (after.spanFrom cursor.position)
      grind
  refine ⟨?_, fun silent => ?_⟩
  · rw [List.forall_mem_append, List.forall_mem_singleton]
    refine ⟨fun member isHoisted => ?_, state⟩
    have stands := inside.hoisted member isHoisted
    grind
  · rw [inside.nothing silent]
    exact List.pairwise_singleton _ _

theorem places_members :
    members.Places cursor fun found after =>
      MembersPlaced cursor.position after found := by
  unfold members
  apply Places.get
  split
  · apply places_event.bind
    intro event after moves stands
    exact .pure fun _ => .single
      ⟨stands.1, stands.2.nested, stands.2.ordered⟩
  · exact places_stateMembers
  · exact places_stateMembers
  · apply places_plainMember.bind
    exact fun _ _ _ stands => .pure fun _ => .single stands

/-- An import stands in front of the end of its line. -/
theorem places_importLine :
    importLine.Places cursor fun tree after =>
      tree.span.NestsIn (after.spanFrom cursor.position) ∧ tree.Nested := by
  unfold importLine
  apply (places_keyword _ _).bind
  intro keyword second opened placed
  apply (places_identifier _).bind
  intro name third named placedName
  apply Places.get
  apply Places.skip (travels_endOfLine _ third)
  intro _ after ended
  apply Places.pure
  intro _
  constructor
  · grind
  · show name.span.NestsIn (third.spanFrom keyword.span.start)
    grind

theorem places_parentName :
    parentName.Places cursor fun parent after =>
      ∀ node ∈ parent, node.span.NestsIn (after.spanFrom cursor.position) := by
  unfold parentName
  apply Places.get
  split
  · apply Places.take
    intro _ middle moves _
    apply (places_identifier _).bind
    intro name after named placed
    apply Places.pure
    grind
  · exact .pure fun _ => nofun

theorem places_scriptName :
    scriptName.Places cursor fun name after =>
      name.span.NestsIn (after.spanFrom cursor.position) := by
  unfold scriptName
  apply (places_keyword _ _).bind
  intro _ middle moves _
  apply (places_identifier _).mono
  intro name after named placed
  grind

end Reader

/-! ## Scripts -/

/-- What has been found of a script up to a cursor. -/
structure ScriptPlaced
    (start : Position) (cursor : Cursor) (found : Reader.ScriptBody) :
    Prop where
  imports :
    (cursor.spanFrom start).Holds Import.span Import.Nested found.imports
  members : MembersPlaced start cursor found.members

theorem ScriptPlaced.later
    {found : Reader.ScriptBody} (placed : ScriptPlaced start middle found)
    (moves : middle.MovesTo target) : ScriptPlaced start target found where
  imports := placed.imports.mono (le_refl _) moves.lastEnd
  members := placed.members.later moves

/-- The names in the header of a script stand in a stretch. -/
structure HeaderNestsIn (header : Reader.Header) (outer : Span) : Prop where
  name : header.name.span.NestsIn outer
  parent : ∀ node ∈ header.parent, node.span.NestsIn outer

theorem HeaderNestsIn.later {header : Reader.Header}
    (nests : HeaderNestsIn header (middle.spanFrom start))
    (moves : middle.MovesTo target) :
    HeaderNestsIn header (target.spanFrom start) where
  name := by
    have inside := nests.name
    grind
  parent node member := by
    have inside := nests.parent node member
    grind

namespace Recovery

open Reader

theorem places_reportAndRecover (diagnostic : Diagnostic) :
    (reportAndRecover diagnostic).Places cursor fun _ _ => True :=
  .report diagnostic fun middle _ => (travels_recoverToMember middle).places

/-- An error is reported, the reading goes on at the next declaration, and
what has been found before is left. -/
theorem places_recoverAfter {α : Type} {post : α → Cursor → Prop} {value : α}
    (diagnostic : Diagnostic)
    (holds : ∀ after, cursor.MovesTo after → post value after) :
    Places
      (do
        reportAndRecover diagnostic
        return value) cursor post := by
  apply (places_reportAndRecover diagnostic).bind
  exact fun _ after moves _ => .pure fun _ => holds after moves

/-- A declaration stands behind those in front of it. -/
theorem places_nextDeclaration
    {start : Position} {found : ScriptBody} (begins : start ≤ cursor.position)
    (placed : ScriptPlaced start cursor found) :
    (nextDeclaration found).Places cursor fun decision after =>
      ScriptPlaced start after decision.value := by
  unfold nextDeclaration
  apply Places.skip (travels_skipNewlines cursor)
  intro _ middle skipped
  have kept := placed.later skipped
  have beginsHere := le_trans begins skipped.position
  apply Places.get
  split
  · exact .pure fun _ => kept
  · apply Places.take
    exact fun _ after taken _ => .pure fun _ => kept.later taken
  · apply places_recoverAfter
    exact fun after moves => kept.later moves
  · apply Places.run_bind places_importLine
    · intro next after read nests
      apply Places.pure
      intro _
      refine ⟨?_, (kept.later read).members⟩
      exact kept.imports.concat read beginsHere nests.1 nests.2
    · intro diagnostic third read
      apply places_recoverAfter
      exact fun after further => kept.later (read.trans further)
  · split
    · apply Places.run_bind places_members
      · intro next after read nests
        apply Places.pure
        intro _
        refine ⟨(kept.later read).imports, ?_⟩
        exact kept.members.append read beginsHere nests
      · intro diagnostic third read
        apply Places.report
        intro fourth reported
        apply Places.skip (travels_skipMember _ fourth)
        exact fun _ after skipped => .pure fun _ =>
          kept.later (read.trans (reported.trans skipped))
    · apply Places.unexpected
      intro diagnostic
      apply places_recoverAfter
      exact fun after moves => kept.later moves

theorem places_headerFlags (header : Header) :
    (headerFlags header).Places cursor fun decision _ =>
      decision.value.name = header.name ∧
        decision.value.parent = header.parent := by
  unfold headerFlags
  apply Places.get
  split
  · apply Places.take
    exact fun _ _ _ _ => .pure fun _ => ⟨rfl, rfl⟩
  · apply Places.take
    exact fun _ _ _ _ => .pure fun _ => ⟨rfl, rfl⟩
  · apply Places.take
    exact fun _ _ _ _ => .pure fun _ => ⟨rfl, rfl⟩
  · exact .pure fun _ => ⟨rfl, rfl⟩

/-- The names in a header line stand behind its start. -/
theorem places_headerLine
    {blank : Header} {start : Position} (begins : start ≤ cursor.position)
    (nests : HeaderNestsIn blank (cursor.spanFrom start))
    (orphan : blank.parent = none) :
    (headerLine blank).Places cursor fun header after =>
      HeaderNestsIn header (after.spanFrom start) := by
  unfold headerLine
  apply Places.run_bind places_scriptName
  · intro name second named placed
    have withName (after : Cursor) (moves : second.MovesTo after) :
        HeaderNestsIn { blank with name } (after.spanFrom start) := by
      refine ⟨?_, ?_⟩
      · show name.span.NestsIn _
        grind
      · show ∀ node ∈ blank.parent, _
        rw [orphan]
        exact nofun
    apply Places.run_bind places_parentName
    · intro parent third extended placedParent
      have withParent : HeaderNestsIn { blank with name, parent }
          (third.spanFrom start) := by
        refine ⟨(withName third extended).name, fun node member => ?_⟩
        have inside := placedParent node member
        grind
      have flags : Places
          (loop headerFlags third.budget { blank with name, parent }) third
          fun header after =>
            HeaderNestsIn header (after.spanFrom start) := by
        apply Places.loop
        · intro header middle moves inside
          apply (places_headerFlags header).mono
          intro decision after further same
          have last := inside.later further
          refine ⟨?_, ?_⟩
          · rw [same.1]
            exact last.name
          · rw [same.2]
            exact last.parent
        · exact fun _ => withParent
      apply Places.get
      apply flags.bind
      intro header fourth flagged inside
      apply Places.run_bind (travels_endOfDeclaration _ fourth).places
      · intro doc after ended _
        apply Places.pure
        intro _
        exact ⟨(inside.later ended).name, (inside.later ended).parent⟩
      · intro diagnostic fifth ended
        apply places_recoverAfter
        exact fun after further => inside.later (ended.trans further)
    · intro diagnostic third extended
      apply places_recoverAfter
      exact fun after further => withName after (extended.trans further)
  · intro diagnostic second named
    apply places_recoverAfter
    exact fun after further => nests.later (named.trans further)

section Fresh

variable (fresh : cursor.lastEnd = cursor.position)
include fresh

/-- Where nothing has been passed yet, the place that stands for the name of a
script without a header stands inside the script. -/
theorem places_header :
    header.Places cursor fun header after =>
      HeaderNestsIn header (after.spanFrom cursor.position) := by
  have blank : HeaderNestsIn (blankHeader cursor.position)
      (cursor.spanFrom cursor.position) := by
    refine ⟨⟨le_refl _, le_refl _, ?_⟩, nofun⟩
    exact le_of_eq fresh.symm
  unfold header
  apply Places.get
  split
  · exact places_headerLine (le_refl _) blank rfl
  · apply Places.skip (travels_missingHeader cursor)
    exact fun _ after moves => .pure fun _ => blank.later moves

/-- A script stands between its first token and the last one, and so does
everything that has been found of it. -/
theorem places_script (visible : cursor.kind ≠ .newline) :
    script.Places cursor fun tree after =>
      tree.span.start ≤ tree.span.stop ∧ tree.Nested ∧
        (after.reported = [] →
          Span.InOrder (tree.members.map Member.span)) ∧
          ∀ member ∈ tree.members, member.Ordered := by
  have still : skipNewlines.Places cursor fun _ after => cursor = after := by
    intro orderly
    unfold Ends
    rw [run_skipNewlines_of_ne visible]
    exact ⟨orderly.movesTo, rfl⟩
  unfold script
  apply still.bind
  rintro _ _ _ rfl
  apply Places.get
  apply (places_header fresh).bind
  intro top second headed nests
  have body : Places (loop nextDeclaration second.budget ⟨[], []⟩) second
      fun found after => ScriptPlaced cursor.position after found := by
    apply Places.loop
    · exact fun _ _ moves placed =>
        places_nextDeclaration (headed.trans moves).position placed
    · exact fun _ => ⟨.nil, List.forall_mem_nil _, fun _ => .nil⟩
  apply Places.get
  apply body.bind
  intro found after read placed
  apply Places.get
  apply Places.pure
  intro _
  have names := nests.later read
  refine ⟨?_, ⟨names.name, names.parent, placed.imports, ?_⟩,
    placed.members.inOrder, ?_⟩
  · show cursor.position ≤ after.lastEnd
    grind
  · intro member isMember
    have stands := placed.members.stands member isMember
    exact ⟨stands.span, stands.nested⟩
  · exact fun member isMember =>
      (placed.members.stands member isMember).ordered

end Fresh

end Recovery

end Readers

/-! ## The spans of a parsed script nest -/

open Cursor

theorem Tile.AllFit.forward
    {before : List Char} {tiles : List Tile} (fit : AllFit before tiles) :
    ∀ found ∈ tiles.filterMap token?, found.span.start ≤ found.span.stop := by
  induction tiles generalizing before with
  | nil => exact List.forall_mem_nil _
  | cons tile rest ih =>
    obtain ⟨here, fit⟩ := fit
    cases tile with
    | filler piece => exact ih fit
    | token found text =>
      simp only [List.filterMap_cons, token?, List.forall_mem_cons]
      refine ⟨?_, ih fit⟩
      rw [here.1, ← advance_origin, ← advance_origin, Position.advance_append]
      exact Position.le_advance _ _

theorem getLast?_tokens (source : String) :
    (tokens source).getLast? =
      some (.endOfText (Position.origin.advance source.toList)) := by
  apply getLast?_tokensUpTo
  rw [String.length_toList]
  exact Nat.lt_succ_self _

theorem missingEnd_tokens (source : String) :
    missingEnd (tokens source) = [] := by
  rw [missingEnd, getLast?_tokens]
  rfl

theorem budget_start_tokens (source : String) :
    (start (tokens source)).budget = tokens source := by
  rw [budget_start, missingEnd_tokens, List.append_nil]

/-- The tokens of a text run forwards, one behind the other. -/
theorem tokensInOrder_tokens (source : String) :
    TokensInOrder (tokens source) := by
  have room : source.toList.length < source.length + 1 := by
    rw [String.length_toList]
    exact Nat.lt_succ_self _
  obtain ⟨tiles, _, found, fit⟩ :=
    Tile.exists_tiles (source.length + 1) .initial [] source.toList room
  have forward := fit.forward
  have inOrder := fit.places.2
  rw [found] at forward inOrder
  refine ⟨forward, inOrder, (ascends_tokens source).sorted,
    fun token member atEnd => ?_⟩
  obtain ⟨front, whole⟩ := List.getLast?_eq_some_iff.1 (getLast?_tokens source)
  have ends := (ascends_tokens source).ends
  rw [whole] at ends member
  rcases List.mem_append.1 member with earlier | last
  · exact absurd atEnd ((List.pairwise_append.1 ends).2.2 token earlier _
      (List.mem_singleton_self _))
  · rw [List.mem_singleton.1 last]
    exact le_refl _

theorem kind_start_ne_newline (source : String) :
    (start (tokens source)).kind ≠ .newline := by
  obtain ⟨rest, cut⟩ : ∃ rest,
      tokens source = (Stretch.first source.toList).token .origin :: rest := by
    rw [tokens_eq_layOut, stretches]
    exact ⟨_, rfl⟩
  have shape := budget_start (tokens source)
  rw [cut, List.cons_append] at shape
  rw [kind, cut, (List.cons.inj shape).1]
  exact Lexeme.kind_read_ne_newline _

theorem orderly_start (source : String) : (start (tokens source)).Orderly where
  tokens := by
    rw [budget_start_tokens]
    exact tokensInOrder_tokens source
  lastEnd := le_of_eq (lastEnd_start_eq _)

/-- Every node of a parsed script stands inside the node above it, and what is
below a member stands in order. -/
theorem script_ofText_arranged (source : String) :
    (Parsed.ofText source).script.span.start ≤
        (Parsed.ofText source).script.span.stop ∧
      (Parsed.ofText source).script.Nested ∧
        ((Parsed.ofText source).diagnostics = [] →
          Span.InOrder
            ((Parsed.ofText source).script.members.map Member.span)) ∧
          ∀ member ∈ (Parsed.ofText source).script.members,
            member.Ordered := by
  have placed := Recovery.places_script (lastEnd_start_eq (tokens source))
    (kind_start_ne_newline source) (orderly_start source)
  unfold Recovery.Ends at placed
  rw [Parsed.ofText, Parsed.ofTokens_eq]
  -- The run is a variable here, so that nothing evaluates it.
  generalize Reader.script.run (start (tokens source)) = outcome at placed ⊢
  obtain ⟨_, forward, nested, inOrder, ordered⟩ := placed
  exact ⟨forward, nested,
    fun silent => inOrder (List.reverse_eq_nil_iff.1 silent), ordered⟩

/-- Every node of a parsed script runs forwards and stands inside the node
above it.  Parameters, statements, branches, arguments, the events of a state
and imports stand one behind the other, and so do the members of a script
without errors. -/
theorem script_ofText_nested (source : String) :
    (Parsed.ofText source).script.span.start ≤
        (Parsed.ofText source).script.span.stop ∧
      (Parsed.ofText source).script.Nested ∧
        ((Parsed.ofText source).diagnostics = [] →
          Span.InOrder
            ((Parsed.ofText source).script.members.map Member.span)) := by
  obtain ⟨forward, nested, inOrder, _⟩ := script_ofText_arranged source
  exact ⟨forward, nested, inOrder⟩

end PapyrusScript
