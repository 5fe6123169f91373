import PapyrusScript.Proofs.Layout.Property

/-!
# States and members are read as they are laid out

A state takes its events one after the other, and nothing is declared in front
of it.  The first tokens of a member say what it declares: a keyword, or what
stands behind a type.
-/

namespace PapyrusScript

open Cursor

theorem Event.LaidOut.heads
    {tree : Event} {row rest : List Token} (laid : tree.LaidOut row) :
    Heads (· = .keyword .event) (row ++ rest) := by
  cases laid with
  | intro kind _ _ _ _ _ => exact kind

/-- A state starts with its keyword, or with the mark in front of it. -/
theorem AutoMarked.heads {auto : Bool} {mark behind : List Token} {word : Token}
    (marked : AutoMarked auto mark) (kind : word.kind = .keyword .state) :
    Heads (fun kind => kind = .keyword .state ∨ kind = .keyword .auto)
      (mark ++ word :: behind) := by
  cases marked with
  | plain => exact Or.inl kind
  | auto isAuto => exact Or.inr isAuto

/-- A state starts a declaration, marked or not. -/
theorem AutoMarked.atDeclaration
    {auto : Bool} {mark behind : List Token} {word : Token} {cursor : Cursor}
    (marked : AutoMarked auto mark) (kind : word.kind = .keyword .state)
    (here : cursor.budget = mark ++ word :: behind) :
    cursor.atDeclaration = true := by
  unfold Cursor.atDeclaration atMemberStart
  cases marked with
  | plain =>
    rw [kind_of_budget here, kind]
    rfl
  | auto isAuto =>
    have second : cursor.kindAt 1 = .keyword .state := by
      rw [kindAt_eq, here]
      exact kind
    rw [kind_of_budget here, isAuto, second]
    rfl

namespace Reader

variable {row rest : List Token} {keyword : Token} {state : String}

/-! ## The events of a state -/

/-- What is read of an event is one more event of the state. -/
theorem takes_nextInState_of_event
    {tree : Event} (isEvent : Heads (· = .keyword .event) (row ++ rest))
    (takes : event.Takes row rest fun found => found.bare = tree.bare)
    (found : StateBody) :
    (nextInState keyword state found).Takes row rest fun decision =>
      ∃ following, decision = .again following ∧
        ∃ next : Event,
          following = { found with events := found.events ++ [next] } ∧
            next.bare = tree.bare := by
  have line : Heads (· ≠ .newline) (row ++ rest) := by
    apply isEvent.mono
    intro _ equal
    subst equal
    exact nofun
  unfold nextInState
  apply Recovery.Takes.after (takes_skipNewlines line)
  intro _ _
  apply Recovery.Takes.get
  intro cursor here
  rw [isEvent.kind here]
  apply Recovery.Takes.bind_nil takes.run
  intro _ reached
  obtain ⟨next, rfl, same⟩ := reached
  exact .pure ⟨_, rfl, next, rfl, same⟩

/-- The end of a state is taken with the end of its line. -/
theorem takes_nextInState_end {closer : Token} {ending : List Token}
    (closes : closer.kind = .keyword .endState) (ends : LineEnd rest ending)
    (found : StateBody) :
    (nextInState keyword state found).Takes (closer :: ending) rest
      fun decision =>
        ∃ final, decision = .done final ∧ final = found := by
  have line : Heads (· ≠ .newline) (closer :: ending ++ rest) :=
    heads_ne closes nofun
  unfold nextInState
  apply Recovery.Takes.after (takes_skipNewlines line)
  intro _ _
  apply Recovery.Takes.get
  intro cursor here
  rw [(kind_of_budget here).trans closes]
  apply Recovery.Takes.advance (by simp [closes])
  apply Recovery.Takes.bind_nil (takes_finishLine_of_lineEnd ends _)
  intro _ _
  exact .pure ⟨_, rfl, rfl⟩

/-- A state with its events, behind what has been read of it. -/
theorem takes_stateEvents {events : List Event} {closer last : Token}
    (laid : LaidOutInTurn Event.LaidOut events row)
    (wellFormed : ∀ event ∈ events, event.WellFormed)
    (closes : closer.kind = .keyword .endState)
    (ends : last.kind = .newline) (found : StateBody) :
    (Recovery.iterate (nextInState keyword state) found).Takes
      (row ++ [closer, last]) rest fun final =>
        final.hoisted = found.hoisted ∧
          ∃ more, final.events = found.events ++ more ∧
            more.map Event.bare = events.map Event.bare := by
  have proceeds := Recovery.proceeds_nextInState keyword state
  induction laid generalizing found with
  | nil =>
    apply Recovery.Takes.done proceeds
    have line : LineEnd rest [last] := .newline ends
    apply (takes_nextInState_end closes line found).mono
    intro _ reached
    obtain ⟨_, rfl, rfl⟩ := reached
    exact ⟨_, rfl, rfl, [], (List.append_nil _).symm, rfl⟩
  | @cons first more row behind laid tail ih =>
    have heads : Heads Kind.isVisible (behind ++ [closer, last] ++ rest) := by
      rw [List.append_assoc]
      cases tail with
      | nil => exact heads_of_keyword closes
      | cons laid _ =>
        rw [List.append_assoc]
        apply laid.heads.mono
        intro _ equal
        subst equal
        exact Kind.isVisible_keyword _
    rw [List.append_assoc]
    apply Recovery.Takes.again proceeds
      (takes_nextInState_of_event laid.heads
        (takes_event_of_laidOut laid (wellFormed first List.mem_cons_self)
          heads) found)
    intro _ reached
    obtain ⟨next, rfl, same⟩ := reached
    apply (ih
      (fun event member => wellFormed event (List.mem_cons_of_mem _ member))
      _).mono
    intro final reached
    obtain ⟨unchanged, others, split, sameOthers⟩ := reached
    refine ⟨unchanged, next :: others, ?_, ?_⟩
    · rw [split, List.append_assoc]
      rfl
    · rw [List.map_cons, List.map_cons, same, sameOthers]

/-! ## Whole states -/

theorem takes_autoMark {auto : Bool} (marked : AutoMarked auto row)
    (apart : Heads (· ≠ .keyword .auto) rest) :
    autoMark.Takes row rest fun found => found = auto := by
  unfold autoMark
  apply Recovery.Takes.get
  intro cursor here
  cases marked with
  | plain =>
    rw [if_neg (apart.kind here)]
    exact .pure rfl
  | auto kind =>
    rw [if_pos ((kind_of_budget here).trans kind)]
    apply Recovery.Takes.advance (by simp [kind])
    exact .pure rfl

/-- A state is what has been read in its block, behind what it hoists. -/
theorem remarks_stateMembers
    {auto : Bool} {mark behind : List Token} {word token line : Token}
    {news : List Diagnostic} {fact : StateBody → Prop}
    (marked : AutoMarked auto mark) (kind : word.kind = .keyword .state)
    (named : token.kind = .identifier) (ends : line.kind = .newline)
    (reads : (Recovery.iterate (nextInState word token.text) ⟨[], []⟩).Remarks
      behind rest news fact) :
    stateMembers.Remarks (mark ++ word :: token :: line :: behind) rest news
      fun found => ∃ (body : StateBody) (span : Span), fact body ∧
        found = body.hoisted ++
          [.state ⟨⟨token.text, token.span⟩, auto, body.events, span⟩] := by
  have apart : Heads (· ≠ .keyword .auto)
      (word :: token :: line :: behind ++ rest) :=
    heads_ne kind nofun
  unfold stateMembers
  apply Remarks.get
  intro cursor here
  apply Takes.bindRemarks (.lift (takes_autoMark marked apart))
  rintro _ rfl
  apply Remarks.expect kind (by simp [kind])
  apply Remarks.identifier named
  have first : (endOfLine "state declaration").Takes [line]
      (behind ++ rest) fun _ => True :=
    takes_endOfLine ends _
  apply first.bindRemarks
  intro _ _
  apply Remarks.bind_nil (.lift reads.inBlock)
  intro body holds
  apply Takes.get
  intro after _
  exact .pure ⟨body, _, holds, rfl⟩

/-- A state starts with its keyword, or with the mark in front of it. -/
theorem remarks_members_of_state
    {news : List Diagnostic} {fact : List Member → Prop}
    (remarks : stateMembers.Remarks row rest news fact)
    (isState : Heads (fun kind => kind = .keyword .state ∨
      kind = .keyword .auto) (row ++ rest)) :
    members.Remarks row rest news fact := by
  unfold members
  apply Remarks.get
  intro cursor here
  rcases isState.kind here with kind | kind
  · rw [kind]
    exact remarks
  · rw [kind]
    exact remarks

theorem takes_stateMembers {tree : ScriptState} (laid : tree.LaidOut row)
    (wellFormed : ∀ event ∈ tree.events, event.WellFormed) :
    stateMembers.Takes row rest fun found =>
      found.map Member.bare = [(Member.state tree).bare] := by
  cases laid with
  | intro marked kind named ends laid closes endsToo =>
    apply (remarks_stateMembers marked kind named ends
      (takes_stateEvents laid wellFormed closes endsToo _).remarks).takes.mono
    rintro _ ⟨body, span, ⟨nothing, more, split, same⟩, rfl⟩
    rw [List.nil_append] at split
    rw [nothing, split]
    show [Member.state _] = [Member.state _]
    simp only [ScriptState.bare, same]
    rfl

end Reader

/-! ## Members -/

namespace Reader

variable {row rest : List Token}

/-! ## Variables -/

/-- The flags of a variable are taken in any number. -/
theorem takes_variableFlags
    {conditional : Bool} (flagged : VariableFlagged conditional row)
    (stops : Heads (· = .newline) rest) (seen : Bool) :
    (Recovery.iterate nextVariableFlag seen).Takes row rest fun found =>
      found = (seen || conditional) := by
  have proceeds := proceeds_nextVariableFlag
  induction flagged generalizing seen with
  | nil =>
    apply Recovery.Takes.done proceeds
    unfold nextVariableFlag
    apply Recovery.Takes.get
    intro cursor here
    rw [if_neg (by rw [stops.kind here]; exact nofun)]
    exact .pure ⟨seen, rfl, (Bool.or_false seen).symm⟩
  | @conditional word flag row kind _ ih =>
    have first : (nextVariableFlag seen).Takes [word] (row ++ rest)
        fun decision =>
          ∃ following, decision = .again following ∧ following = true := by
      unfold nextVariableFlag
      apply Recovery.Takes.get
      intro cursor here
      rw [if_pos ((kind_of_budget here).trans kind)]
      apply Recovery.Takes.advance (by simp [kind])
      exact .pure ⟨_, rfl, rfl⟩
    apply Recovery.Takes.again proceeds first
    intro _ equal
    subst equal
    apply (ih true).mono
    intro _ equal
    subst equal
    rw [Bool.true_or, Bool.or_true]

/-- What follows the type of a variable is taken up to the end of its line. -/
theorem takes_variableAfter
    {type found : TypeName} {initial : Option Literal} {conditional : Bool}
    {nameSpan span : Span} {token line : Token} {behind flags : List Token}
    (same : found.bare = type.bare) (named : token.kind = .identifier)
    (starts : Literal.InitialSpelled initial behind)
    (flagged : VariableFlagged conditional flags)
    (ends : line.kind = .newline) :
    (variableAfter found).Takes (token :: (behind ++ (flags ++ [line]))) rest
      fun tree =>
        tree.bare =
          (Variable.mk type ⟨token.text, nameSpan⟩ initial conditional
            span).bare := by
  have apart : Heads (· ≠ .symbol .assign) (flags ++ [line] ++ rest) := by
    rw [List.append_assoc]
    cases flagged with
    | nil => exact heads_ne ends nofun
    | conditional kind _ => exact heads_ne kind nofun
  have stops : Heads (· = .newline) ([line] ++ rest) := ends
  unfold variableAfter
  apply Takes.identifier named
  apply Takes.bind (takes_initialConstant starts apart)
  intro initialFound sameInitial
  apply Takes.bind (.lift (takes_variableFlags flagged stops false))
  intro _ equal
  subst equal
  apply Takes.get
  intro cursor here
  apply Takes.bind_nil (takes_endOfLine ends _)
  intro _ _
  apply Takes.pure
  simp only [Variable.bare, same, sameInitial]
  rfl

/-! ## Members with a type -/

/-- A variable is taken as a member behind its type. -/
theorem takes_typedMember_variable {tree : Variable} (laid : tree.LaidOut row) :
    typedMember.Takes row rest fun found =>
      found.bare = (Member.variable tree).bare := by
  cases laid with
  | @intro type initial conditional _ _ token line row behind flags spelled
      named starts flagged ends =>
    have bracket : Heads (· ≠ .symbol .openBracket)
        (token :: (behind ++ (flags ++ [line])) ++ rest) :=
      heads_ne named nofun
    unfold typedMember
    apply Takes.bind (takes_typeName spelled bracket)
    intro found same
    apply Takes.get
    intro cursor here
    rw [(kind_of_budget here).trans named]
    apply Takes.map
    simp only [Member.bare, Member.variable.injEq]
    exact takes_variableAfter same named starts flagged ends

/-! ## Members anywhere -/

/-- A member with a type in front does not start as a function. -/
theorem remarks_plainMember_of_typedMember
    {news : List Diagnostic} {fact : Member → Prop}
    (remarks : typedMember.Remarks row rest news fact)
    (typed : Heads Kind.startsType (row ++ rest)) :
    plainMember.Remarks row rest news fact := by
  unfold plainMember
  apply Remarks.get
  intro cursor here
  have starts := typed.kind here
  rw [if_neg]
  · exact remarks
  · intro found
    rw [found] at starts
    cases starts

theorem takes_plainMember_variable {tree : Variable} (laid : tree.LaidOut row) :
    plainMember.Takes row rest fun found =>
      found.bare = (Member.variable tree).bare := by
  have typed : Heads Kind.startsType (row ++ rest) := by
    cases laid with
    | intro spelled _ _ _ _ =>
      rw [List.append_assoc]
      exact heads_spelled spelled
  exact (remarks_plainMember_of_typedMember
    (takes_typedMember_variable laid).remarks typed).takes

/-- A property is read as a member, whatever is reported of it. -/
theorem remarks_plainMember_of_property
    {type : TypeName} {word : Token} {behind : List Token}
    {news : List Diagnostic} {fact : Property → Prop}
    (spelled : type.Spelled row) (kind : word.kind = .keyword .property)
    (reads : ∀ found : TypeName, found.bare = type.bare →
      (propertyAfter found).Remarks (word :: behind) rest news fact) :
    plainMember.Remarks (row ++ word :: behind) rest news fun found =>
      ∃ tree, found = .property tree ∧ fact tree := by
  have bracket : Heads (· ≠ .symbol .openBracket) (word :: behind ++ rest) :=
    heads_ne kind nofun
  apply remarks_plainMember_of_typedMember
  · unfold typedMember
    apply Takes.bindRemarks (takes_typeName spelled bracket)
    intro found same
    apply Remarks.get
    intro cursor here
    rw [(kind_of_budget here).trans kind]
    apply Remarks.map
    exact (reads found same).mono fun tree holds => ⟨tree, rfl, holds⟩
  · rw [List.append_assoc]
    exact heads_spelled spelled

theorem takes_plainMember_property {tree : Property} (laid : tree.LaidOut row)
    (wellFormed : tree.source.WellFormed)
    (heads : Heads Kind.isVisible rest) :
    plainMember.Takes row rest fun found =>
      found.bare = (Member.property tree).bare := by
  cases laid with
  | intro spelled kind named starts flagged documented laid =>
    apply (remarks_plainMember_of_property spelled kind fun found same =>
      (takes_propertyAfter same kind named starts flagged documented laid
        wellFormed heads).remarks).takes.mono
    rintro _ ⟨found, rfl, same⟩
    exact congrArg Member.property same

theorem kind_of_ends_function {returned : Option TypeName} {cursor : Cursor}
    {post : Function → Cursor → Prop}
    (ends : (function returned).Ends cursor post fun _ _ => False) :
    cursor.kind = .keyword .function := by
  by_cases found : cursor.kind = .keyword .function
  · exact found
  · unfold function expect at ends
    rw [ends_bind, ends_bind, ends_get, if_neg found] at ends
    exact ends.elim

/-- What the reader of a property's functions takes as a function, a member is
taken as too. -/
theorem takes_plainMember_of_accessor
    {fact : Function → Prop} (takes : accessor.Takes row rest fact) :
    plainMember.Takes row rest fun found =>
      ∃ tree, found = .function tree ∧ fact tree := by
  have wrapped {returned : Option TypeName} {cursor : Cursor}
      {post : Function → Cursor → Prop}
      (ends : (function returned).Ends cursor post fun _ _ => False) :
      Ends (Member.function <$> function returned) cursor
        (fun found after => ∃ tree, found = .function tree ∧ post tree after)
        fun _ _ => False := by
    rw [ends_map]
    exact ends.mono (fun tree _ holds => ⟨tree, rfl, holds⟩) fun _ _ never =>
      never
  intro cursor here
  have ends := takes cursor here
  have found : plainMember.Ends cursor
      (fun found after => ∃ tree, found = .function tree ∧ fact tree ∧
        after.budget = rest ∧ cursor.Quiet after) fun _ _ => False := by
    unfold accessor at ends
    unfold plainMember
    rw [ends_bind, ends_get] at ends ⊢
    split at ends
    · rename_i kind
      rw [if_pos kind]
      exact wrapped ends
    · rename_i typed
      rw [if_neg typed]
      unfold typedMember
      rw [ends_bind] at ends ⊢
      apply ends.mono
      · intro type middle ends
        rw [ends_bind, ends_get]
        have kind := kind_of_ends_function ends
        rw [kind]
        exact wrapped ends
      · exact fun _ _ never => never
  apply found.mono
  · rintro _ after ⟨tree, rfl, holds, reached⟩
    exact ⟨⟨tree, rfl, holds⟩, reached⟩
  · exact fun _ _ never => never

theorem takes_plainMember_function
    {tree : Function} (laid : tree.LaidOut row) (wellFormed : tree.WellFormed)
    (heads : Heads Kind.isVisible rest) :
    plainMember.Takes row rest fun found =>
      found.bare = (Member.function tree).bare := by
  apply (takes_plainMember_of_accessor
    (takes_accessor laid wellFormed heads)).mono
  rintro _ ⟨found, rfl, same⟩
  exact congrArg Member.function same

/-! ## Any member -/

/-- A member that is neither an event nor a state is the only one. -/
theorem takes_members_of_plainMember {tree : Member}
    (takes : plainMember.Takes row rest fun found => found.bare = tree.bare)
    (plain : Heads Kind.startsPlainMember (row ++ rest)) :
    members.Takes row rest fun found =>
      found.map Member.bare = [tree.bare] := by
  have only : Takes (do return [← plainMember]) row rest fun found =>
      found.map Member.bare = [tree.bare] := by
    apply Takes.bind_nil takes
    intro found same
    apply Takes.pure
    rw [List.map_cons, same]
    rfl
  unfold members
  apply Takes.get
  intro cursor here
  rcases plain.kind here with isFunction | typed
  · rw [isFunction]
    exact only
  · split
    · rename_i other
      rw [other] at typed
      cases typed
    · rename_i other
      rw [other] at typed
      cases typed
    · rename_i other
      rw [other] at typed
      cases typed
    · exact only

/-- A member is taken, whatever it declares. -/
theorem takes_members
    {tree : Member} (laid : tree.LaidOut row) (wellFormed : tree.WellFormed)
    (heads : Heads Kind.isVisible rest) :
    members.Takes row rest fun found =>
      found.map Member.bare = [tree.bare] := by
  cases laid with
  | declared laid =>
    have typed : Heads Kind.startsType (row ++ rest) := by
      cases laid with
      | intro spelled _ _ _ _ =>
        rw [List.append_assoc]
        exact heads_spelled spelled
    exact takes_members_of_plainMember (takes_plainMember_variable laid)
      (typed.mono fun _ => Or.inr)
  | property laid =>
    have typed : Heads Kind.startsType (row ++ rest) := by
      cases laid with
      | intro spelled _ _ _ _ _ _ =>
        rw [List.append_assoc]
        exact heads_spelled spelled
    exact takes_members_of_plainMember
      (takes_plainMember_property laid wellFormed heads)
      (typed.mono fun _ => Or.inr)
  | function laid =>
    exact takes_members_of_plainMember
      (takes_plainMember_function laid wellFormed heads)
      laid.heads
  | @event tree _ laid =>
    have isEvent : Heads (· = .keyword .event) (row ++ rest) := laid.heads
    unfold members
    apply Takes.get
    intro cursor here
    rw [isEvent.kind here]
    apply Takes.bind_nil (takes_event_of_laidOut laid wellFormed heads)
    intro found same
    exact .pure (congrArg (fun event => [Member.event event]) same)
  | state laid =>
    have isState : Heads (fun kind => kind = .keyword .state ∨
        kind = .keyword .auto) (row ++ rest) := by
      cases laid with
      | intro marked kind _ _ _ _ _ =>
        rw [List.append_assoc]
        exact marked.heads kind
    exact (remarks_members_of_state
      (takes_stateMembers laid wellFormed).remarks isState).takes

end Reader

/-! ## Where members start -/

def Kind.startsMember (kind : Kind) : Prop :=
  kind.startsType ∨
    kind ∈ [.keyword .function, .keyword .event, .keyword .state,
      .keyword .auto]

instance (kind : Kind) : Decidable kind.startsMember :=
  inferInstanceAs (Decidable (_ ∨ _))

theorem Kind.startsMember_of_state
    {kind : Kind} (isState : kind = .keyword .state ∨ kind = .keyword .auto) :
    kind.startsMember := by
  rcases isState with rfl | rfl
  · exact Or.inr (by decide)
  · exact Or.inr (by decide)

theorem Kind.startsMember_of_plain
    {kind : Kind} (starts : kind.startsPlainMember) : kind.startsMember := by
  rcases starts with rfl | typed
  · exact Or.inr (by decide)
  · exact Or.inl typed

section Start

variable {row rest : List Token} {cursor : Cursor}

theorem atDeclaration_of_word
    {word : Keyword} (kind : cursor.kind = .keyword word)
    (isFirst : (word == .function || word == .event || word == .state) =
      true) : cursor.atDeclaration = true := by
  unfold atDeclaration atMemberStart
  rw [kind]
  cases word
  all_goals first | rfl | cases isFirst

/-- A type starts a declaration if a name or a keyword of a member follows. -/
theorem atDeclaration_of_type (starts : cursor.atTypeStart = true)
    (follows : cursor.kindAfterType = .identifier ∨
      cursor.kindAfterType = .keyword .function ∨
        cursor.kindAfterType = .keyword .property) :
    cursor.atDeclaration = true := by
  unfold atDeclaration
  rw [Bool.or_eq_true]
  rcases follows with isName | isFunction | isProperty
  · right
    unfold atVariableStart
    rw [starts, isName]
    rfl
  · left
    unfold atMemberStart
    split
    all_goals simp_all [atTypeStart, Kind.isTypeKeyword]
  · left
    unfold atMemberStart
    split
    all_goals simp_all [atTypeStart, Kind.isTypeKeyword]

/-- The layout of a member starts a declaration. -/
theorem Member.LaidOut.atDeclaration {tree : Member} (laid : tree.LaidOut row)
    (here : cursor.budget = row ++ rest) : cursor.atDeclaration = true := by
  cases laid with
  | declared laid =>
    cases laid with
    | @intro _ _ _ _ _ token line row behind flags spelled named _ _ _ =>
      rw [List.append_assoc] at here
      have type := Reader.kindAfterType_of_spelled spelled
        (by rw [named]; exact nofun) here
      exact atDeclaration_of_type type.1 (.inl (type.2.trans named))
  | property laid =>
    cases laid with
    | intro spelled kind _ _ _ _ _ =>
      rw [List.append_assoc] at here
      have type := Reader.kindAfterType_of_spelled spelled
        (by rw [kind]; exact nofun) here
      exact atDeclaration_of_type type.1
        (.inr (.inr (type.2.trans kind)))
  | function laid =>
    rcases laid.starts here with isFunction | ⟨type, follows⟩
    · exact atDeclaration_of_word isFunction rfl
    · exact atDeclaration_of_type type (.inr (.inl follows))
  | event laid =>
    have isEvent : Heads (· = .keyword .event) (row ++ rest) := laid.heads
    exact atDeclaration_of_word (isEvent.kind here) rfl
  | state laid =>
    cases laid with
    | intro marked kind _ _ _ _ _ =>
      rw [List.append_assoc] at here
      exact marked.atDeclaration kind here

/-- The layout of a member starts with a token that only starts members. -/
theorem Member.LaidOut.heads {tree : Member} (laid : tree.LaidOut row) :
    Heads Kind.startsMember (row ++ rest) := by
  cases laid with
  | declared laid =>
    cases laid with
    | intro spelled _ _ _ _ =>
      rw [List.append_assoc]
      exact (Reader.heads_spelled spelled).mono fun _ => Or.inl
  | property laid =>
    cases laid with
    | intro spelled _ _ _ _ _ _ =>
      rw [List.append_assoc]
      exact (Reader.heads_spelled spelled).mono fun _ => Or.inl
  | function laid =>
    exact laid.heads.mono fun _ => Kind.startsMember_of_plain
  | event laid =>
    apply laid.heads.mono
    intro _ equal
    subst equal
    exact Or.inr (by decide)
  | state laid =>
    cases laid with
    | intro marked kind _ _ _ _ _ =>
      rw [List.append_assoc]
      exact (marked.heads kind).mono fun _ =>
        Kind.startsMember_of_state

theorem Kind.isVisible_of_startsMember
    {kind : Kind} (starts : kind.startsMember) : kind.isVisible := by
  rcases starts with typed | word
  · exact Kind.isVisible_of_startsType typed
  · constructor
    · intro equal
      subst equal
      simp at word
    · intro equal
      subst equal
      simp at word

end Start

end PapyrusScript
