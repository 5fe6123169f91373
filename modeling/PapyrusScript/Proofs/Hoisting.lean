import PapyrusScript.Proofs.Composition
import PapyrusScript.Proofs.Spaced.Member

/-!
# States that declare more than events

The block of a state may hold any events, variables, properties and functions
that are read without a report, in any order, with gaps between them.  The
state has the events.  Every other declaration is reported at its first token,
and the script has it in front of the state, as if it stood there.
-/

namespace PapyrusScript

open Cursor

/-- The tokens of a declaration that is neither an event nor a state. -/
abbrev MemberLines := Lines Reader.plainMember Member.TakesComment

/-- A declaration in the block of a state. -/
inductive StateItem
  | event (lines : EventLines)
  | other (lines : MemberLines)

/-- The tokens of a state up to the keyword that ends it. -/
structure StateText where
  auto : Bool
  mark : List Token
  keyword : Token
  name : Token
  line : Token
  gap : List Token
  items : List StateItem
  closer : Token
  marked : AutoMarked auto mark
  kind : keyword.kind = .keyword .state
  named : name.kind = .identifier
  breaks : line.kind = .newline
  gaps : IsGap gap
  closes : closer.kind = .keyword .endState

namespace MemberLines

theorem spaced (lines : MemberLines) : lines.tree.Spaced lines.row := by
  obtain ⟨_, spaced, rfl⟩ :=
    lines.reads.consumed fun _ => Reader.consumes_plainMember
  exact spaced

theorem row_ne_nil (lines : MemberLines) : lines.row ≠ [] := by
  intro nothing
  have heads : Heads Kind.startsPlainMember (lines.row ++ []) :=
    lines.spaced.heads
  rw [nothing] at heads
  exact heads.elim

/-- The first token of a declaration. -/
def first (lines : MemberLines) : Token := lines.row.head lines.row_ne_nil

def complaint (state : String) (lines : MemberLines) : Diagnostic :=
  ⟨lines.first.span.start, .declarationInState state lines.first.kind⟩

end MemberLines

namespace StateItem

def tokens : StateItem → List Token
  | .event lines => lines.tokens
  | .other lines => lines.tokens

def event? : StateItem → Option EventLines
  | .event lines => some lines
  | .other _ => none

def other? : StateItem → Option MemberLines
  | .event _ => none
  | .other lines => some lines

end StateItem

namespace StateText

variable (text : StateText)

def events : List EventLines := text.items.filterMap StateItem.event?

def hoisted : List MemberLines := text.items.filterMap StateItem.other?

/-- The state with some tokens in its block. -/
def around (inside : List Token) : List Token :=
  text.mark ++ text.keyword :: text.name :: text.line ::
    (text.gap ++ (inside ++ [text.closer]))

def tokens : List Token := text.around (text.items.flatMap StateItem.tokens)

/-- The state with other declarations in its block. -/
def withItems (items : List StateItem) : StateText := { text with items }

def eventsOnly : StateText := text.withItems (text.events.map .event)

/-- The declarations that a state hoists, and the state with nothing but its
events behind them. -/
def apart : List Token :=
  text.hoisted.flatMap Lines.tokens ++ text.eventsOnly.tokens

/-- What is read of a state, apart from its places. -/
def state : ScriptState where
  name := ⟨text.name.text, text.name.span⟩
  auto := text.auto
  events := text.events.map Lines.tree
  span := .nowhere

/-- The members of a script that a state stands for. -/
def members : List Member := text.hoisted.map Lines.tree ++ [.state text.state]

/-- What is reported of a state: each declaration that it hoists. -/
def news : List Diagnostic :=
  text.hoisted.map (MemberLines.complaint text.name.text)

end StateText

/-- Some events and some hoisted members have been added to what has been read
of a state, apart from their places. -/
structure Reader.StateBody.Adds
    (found final : StateBody) (events : List EventLines)
    (hoisted : List MemberLines) : Prop where
  events : final.events.map Event.bare =
    (found.events ++ events.map Lines.tree).map Event.bare
  hoisted : final.hoisted.map Member.bare =
    (found.hoisted ++ hoisted.map Lines.tree).map Member.bare

namespace Reader

variable {row behind rest ending : List Token} {keyword closer first : Token}
  {state : String} {tree : Member}

/-! ## One declaration -/

/-- A declaration that is no event is reported and hoisted. -/
theorem remarks_hoistedMember
    (takes : plainMember.Takes row rest fun found => found.bare = tree.bare)
    (shape : row = first :: behind) (found : StateBody) :
    (hoistedMember state found).Remarks row rest
      [⟨first.span.start, .declarationInState state first.kind⟩]
      fun following => ∃ next : Member,
        following = { found with hoisted := found.hoisted ++ [next] } ∧
          next.bare = tree.bare := by
  unfold hoistedMember
  apply Recovery.Remarks.get
  intro cursor here
  have current : cursor.current = first := by
    rw [shape] at here
    exact current_of_budget here
  unfold Cursor.position Cursor.kind
  rw [current]
  apply (Recovery.remarks_complain _ _).beforeTakes
  intro _ _
  apply Recovery.Takes.bind_nil takes.run
  rintro _ ⟨next, rfl, same⟩
  exact .pure ⟨next, rfl, same⟩

/-- A declaration in a state is hoisted and reported at its first token. -/
theorem remarks_nextInState_of_plainMember
    (takes : plainMember.Takes row rest fun found => found.bare = tree.bare)
    (shape : row = first :: behind)
    (starts : Heads Kind.startsPlainMember (row ++ rest))
    (declares : ∀ cursor : Cursor, cursor.budget = row ++ rest →
      cursor.atDeclaration = true)
    (found : StateBody) :
    (nextInState keyword state found).Remarks row rest
      [⟨first.span.start, .declarationInState state first.kind⟩]
      fun decision => ∃ following, decision = .again following ∧
        ∃ next : Member,
          following = { found with hoisted := found.hoisted ++ [next] } ∧
            next.bare = tree.bare := by
  have line : Heads (· ≠ .newline) (row ++ rest) :=
    starts.mono fun _ starts => (Kind.isVisible_of_startsPlainMember starts).1
  unfold nextInState
  apply Recovery.Takes.afterRemarks (takes_skipNewlines line)
  intro _ _
  apply Recovery.Remarks.get
  intro cursor here
  have start := starts.kind here
  have differs {kind : Kind} (other : ¬ kind.startsPlainMember) :
      cursor.kind ≠ kind := by
    rintro rfl
    exact other start
  split
  iterate 7
    · rename_i kind
      exact absurd kind (differs (by decide))
  · rw [if_neg, if_pos (declares cursor here)]
    · apply (remarks_hoistedMember takes shape found).bind_nil
      rintro _ ⟨next, rfl, same⟩
      exact .pure ⟨_, rfl, next, rfl, same⟩
    · intro isAuto
      rw [Bool.and_eq_true, decide_eq_true_eq] at isAuto
      exact differs (by decide) isAuto.1

/-! ## The block of a state -/

namespace StateBody.Adds

variable {found middle final : StateBody} {events moreEvents : List EventLines}
  {hoisted moreHoisted : List MemberLines}

theorem refl (found : StateBody) : found.Adds found [] [] := ⟨by simp, by simp⟩

theorem trans (first : found.Adds middle events hoisted)
    (second : middle.Adds final moreEvents moreHoisted) :
    found.Adds final (events ++ moreEvents) (hoisted ++ moreHoisted) where
  events := by
    rw [second.events, List.map_append, first.events]
    simp
  hoisted := by
    rw [second.hoisted, List.map_append, first.hoisted]
    simp

end StateBody.Adds

/-- No comment that belongs to a declaration stands behind its lines. -/
theorem heads_behindLines
    {α : Type} {reader : Reader α} {takesComment : α → Prop}
    (lines : Lines reader takesComment)
    (visible : Heads Kind.isVisible (behind ++ rest)) :
    takesComment lines.tree →
      Heads (· ≠ .docComment) (lines.gap ++ behind ++ rest) := by
  rw [List.append_assoc]
  exact heads_of_gap lines.apart visible

theorem heads_stateItem (item : StateItem) :
    Heads Kind.isVisible (item.tokens ++ rest) := by
  cases item with
  | event lines =>
    rw [StateItem.tokens, Lines.tokens, List.append_assoc]
    apply lines.spaced.heads.mono
    rintro _ rfl
    exact Kind.isVisible_keyword _
  | other lines =>
    rw [StateItem.tokens, Lines.tokens, List.append_assoc]
    exact lines.spaced.heads.mono fun _ =>
      Kind.isVisible_of_startsPlainMember

theorem heads_stateItems
    (list : List StateItem) (heads : Heads Kind.isVisible rest) :
    Heads Kind.isVisible (list.flatMap StateItem.tokens ++ rest) := by
  cases list with
  | nil => exact heads
  | cons item list =>
    rw [List.flatMap_cons, List.append_assoc]
    exact heads_stateItem item

/-- The events are added to the state, every other declaration is reported and
hoisted, and the loop goes on behind them. -/
theorem remarks_stateItems {news : List Diagnostic} {fact : StateBody → Prop}
    (list : List StateItem) (found : StateBody)
    (visible : Heads Kind.isVisible (behind ++ rest))
    (others : ∀ middle, found.Adds middle (list.filterMap StateItem.event?)
        (list.filterMap StateItem.other?) →
      (Recovery.iterate (nextInState keyword state) middle).Remarks behind rest
        news fact) :
    (Recovery.iterate (nextInState keyword state) found).Remarks
      (list.flatMap StateItem.tokens ++ behind) rest
      ((list.filterMap StateItem.other?).map (MemberLines.complaint state) ++
        news) fact := by
  have passes := Recovery.passesGaps_nextInState keyword state
  induction list generalizing found with
  | nil => exact others found (.refl found)
  | cons item list ih =>
    have close : Heads Kind.isVisible
        (list.flatMap StateItem.tokens ++ behind ++ rest) := by
      rw [List.append_assoc]
      exact heads_stateItems list visible
    rw [List.flatMap_cons, List.append_assoc]
    cases item with
    | event lines =>
      rw [StateItem.tokens, Lines.tokens, List.append_assoc]
      have heads := heads_behindLines lines close
      apply Recovery.Takes.againRemarks passes.proceeds
        (takes_nextInState_of_event lines.spaced.heads
          (takes_event_of_spaced lines.spaced heads) found)
      rintro _ ⟨next, rfl, same⟩
      apply Recovery.Remarks.of_gap passes lines.gaps
      apply ih
      intro middle adds
      have added : found.Adds
          { found with events := found.events ++ [next] } [lines] [] :=
        ⟨by simp [same], by simp⟩
      exact others middle (added.trans adds)
    | other lines =>
      rw [StateItem.tokens, Lines.tokens, List.append_assoc]
      have heads := heads_behindLines lines close
      have first : (nextInState keyword state found).Remarks lines.row _ _
          _ :=
        remarks_nextInState_of_plainMember
          (takes_plainMember_of_spaced lines.spaced heads)
          (List.cons_head_tail lines.row_ne_nil).symm lines.spaced.heads
          (fun _ => lines.spaced.atDeclaration) found
      apply Recovery.Remarks.again passes.proceeds first
      rintro _ ⟨next, rfl, same⟩
      apply Recovery.Remarks.of_gap passes lines.gaps
      apply ih
      intro middle adds
      have added : found.Adds
          { found with hoisted := found.hoisted ++ [next] } [] [lines] :=
        ⟨by simp, by simp [same]⟩
      exact others middle (added.trans adds)

/-- Up to its end, the block of a state consists of declarations. -/
theorem remarks_stateBlock
    (list : List StateItem) (closes : closer.kind = .keyword .endState)
    (ends : LineEnd rest ending) (found : StateBody) :
    (Recovery.iterate (nextInState keyword state) found).Remarks
      (list.flatMap StateItem.tokens ++ closer :: ending) rest
      ((list.filterMap StateItem.other?).map (MemberLines.complaint state))
      fun final => found.Adds final (list.filterMap StateItem.event?)
        (list.filterMap StateItem.other?) := by
  have proceeds := Recovery.proceeds_nextInState keyword state
  rw [← List.append_nil (List.map _ _)]
  apply remarks_stateItems list found (heads_of_keyword closes)
  intro middle adds
  apply Recovery.Takes.remarks
  apply Recovery.Takes.done proceeds
  apply (takes_nextInState_end closes ends middle).mono
  rintro _ ⟨_, rfl, rfl⟩
  exact ⟨_, rfl, adds⟩

end Reader

/-! ## What declarations contribute -/

variable {rest ending : List Token}

/-- Declarations one after the other contribute themselves. -/
theorem contributes_lines
    (list : List MemberLines) (heads : Heads Kind.isVisible rest) :
    Contributes (list.flatMap Lines.tokens) rest [] fun added =>
      added.map Member.bare = (list.map Lines.tree).map Member.bare := by
  induction list with
  | nil => exact .nil rfl
  | cons lines list ih =>
    have behind : Heads Kind.isVisible
        (list.flatMap Lines.tokens ++ rest) := by
      cases list with
      | nil => exact heads
      | cons next list =>
        rw [List.flatMap_cons, List.append_assoc]
        exact Reader.heads_stateItem (.other next)
    have apart := Reader.heads_behindLines lines behind
    have starts : Heads Kind.startsPlainMember (lines.row ++
        (lines.gap ++ list.flatMap Lines.tokens ++ rest)) :=
      lines.spaced.heads
    have members := Reader.takes_members_of_plainMember
      (Reader.takes_plainMember_of_spaced lines.spaced apart) starts
    have first : Contributes lines.row _ [] fun added =>
        added.map Member.bare = [lines.tree.bare] :=
      .of_remarks (Reader.remarks_nextDeclaration_of_members
        members.remarks (starts.mono fun _ => Kind.startsMember_of_plain)
        fun _ => lines.spaced.atDeclaration)
    rw [List.flatMap_cons, Lines.tokens, List.append_assoc]
    apply Contributes.append first
    intro added same
    apply Contributes.of_gap lines.gaps
    apply ih.mono
    intro others sameOthers
    rw [List.map_append, same, sameOthers]
    rfl

namespace StateText

variable (text : StateText)

/-- A state stands for the members that its block says. -/
theorem remarks_stateMembers {inside : List Token} {news : List Diagnostic}
    (block : (Recovery.iterate
        (Reader.nextInState text.keyword text.name.text) ⟨[], []⟩).Remarks
      (inside ++ text.closer :: ending) rest news fun final =>
        Reader.StateBody.Adds ⟨[], []⟩ final text.events text.hoisted) :
    Reader.stateMembers.Remarks (text.around inside ++ ending) rest news
      fun found => found.map Member.bare = text.members.map Member.bare := by
  have shape : text.around inside ++ ending = text.mark ++ text.keyword ::
      text.name :: text.line ::
        (text.gap ++ (inside ++ text.closer :: ending)) := by
    simp [around]
  have lines := Recovery.Remarks.of_gap
    (Recovery.passesGaps_nextInState text.keyword text.name.text) text.gaps
    block
  rw [shape]
  apply (Reader.remarks_stateMembers text.marked text.kind text.named
    text.breaks lines).mono
  rintro _ ⟨body, span, adds, rfl⟩
  have events : body.events.map Event.bare =
      (text.events.map Lines.tree).map Event.bare := adds.events
  have hoisted : body.hoisted.map Member.bare =
      (text.hoisted.map Lines.tree).map Member.bare := adds.hoisted
  rw [members, List.map_append, List.map_append, hoisted]
  simp only [List.map_cons, List.map_nil, Member.bare, ScriptState.bare, state,
    events]

theorem heads_around (inside : List Token) :
    Heads Kind.isVisible (text.around inside) := by
  apply (text.marked.heads text.kind).mono
  rintro _ (rfl | rfl)
  · exact Kind.isVisible_keyword _
  · exact Kind.isVisible_keyword _

/-- The block of a state contributes the state behind what it hoists. -/
theorem contributes_around {inside : List Token} {news : List Diagnostic}
    (block : (Recovery.iterate
        (Reader.nextInState text.keyword text.name.text) ⟨[], []⟩).Remarks
      (inside ++ text.closer :: ending) rest news fun final =>
        Reader.StateBody.Adds ⟨[], []⟩ final text.events text.hoisted) :
    Contributes (text.around inside ++ ending) rest news fun added =>
      added.map Member.bare = text.members.map Member.bare := by
  have shape : text.around inside ++ ending ++ rest =
      text.mark ++ text.keyword :: (text.name :: text.line ::
        (text.gap ++ (inside ++ [text.closer])) ++ ending ++ rest) := by
    simp [around]
  have isState : Heads (fun kind => kind = .keyword .state ∨
      kind = .keyword .auto) (text.around inside ++ ending ++ rest) := by
    rw [shape]
    exact text.marked.heads text.kind
  apply Contributes.of_remarks
  apply Reader.remarks_nextDeclaration_of_members
    (Reader.remarks_members_of_state (text.remarks_stateMembers block) isState)
    (isState.mono fun _ => Kind.startsMember_of_state)
  intro cursor here
  exact text.marked.atDeclaration text.kind (here.trans shape)

theorem contributes (ends : LineEnd rest ending) :
    Contributes (text.tokens ++ ending) rest text.news fun added =>
      added.map Member.bare = text.members.map Member.bare :=
  text.contributes_around
    (Reader.remarks_stateBlock text.items text.closes ends ⟨[], []⟩)

theorem events_eventsOnly : text.eventsOnly.events = text.events := by
  unfold eventsOnly withItems
  rw [events, List.filterMap_map]
  exact List.filterMap_some

theorem hoisted_eventsOnly : text.eventsOnly.hoisted = [] := by
  unfold eventsOnly withItems
  rw [hoisted, List.filterMap_map]
  exact List.filterMap_eq_nil_iff.2 fun _ _ => rfl

/-- The declarations contribute the same where they stand in front of the
state, and nothing is reported. -/
theorem contributes_apart (ends : LineEnd rest ending) :
    Contributes (text.apart ++ ending) rest [] fun added =>
      added.map Member.bare = text.members.map Member.bare := by
  have silent : text.eventsOnly.news = [] := by
    rw [news, hoisted_eventsOnly]
    rfl
  have only : text.eventsOnly.members = [.state text.state] := by
    rw [members, hoisted_eventsOnly, state, events_eventsOnly]
    rfl
  have last := text.eventsOnly.contributes ends
  rw [silent, only] at last
  have heads : Heads Kind.isVisible
      (text.eventsOnly.tokens ++ ending ++ rest) := by
    rw [List.append_assoc]
    exact (text.eventsOnly.heads_around _).append
  rw [apart, List.append_assoc]
  apply (contributes_lines text.hoisted heads).append
  intro added same
  apply last.mono
  intro others sameOthers
  rw [List.map_append, same, sameOthers, ← List.map_append]
  rfl

/-- Only what a state hoists is reported, and no token of it is wrong. -/
theorem syntactic_news :
    ∀ diagnostic ∈ text.news, diagnostic.cause.isLexical = false := by
  intro diagnostic member
  obtain ⟨lines, -, rfl⟩ := List.mem_map.1 member
  rfl

theorem heads_apart : Heads Kind.isVisible text.apart := by
  unfold apart
  cases text.hoisted with
  | nil => exact text.eventsOnly.heads_around _
  | cons lines list =>
    rw [List.flatMap_cons, List.append_assoc]
    exact Reader.heads_stateItem (.other lines)

end StateText

/-! ## Whole scripts -/

/-- A state has the events of its block, and the script has the other
declarations in front of it, in their order.  Each of these is reported at its
first token, and nothing else is.  Up to places the members are those of the
script in which these declarations stand in front of the state. -/
theorem state_hoists_declarations
    {before onward : List Token} (text : StateText) (heading : Heading)
    (breaks : ∃ row line, before = row ++ [line] ∧ line.kind = .newline)
    (inside : ∀ token ∈ before, token.kind ≠ .endOfText)
    (silent : (Parsed.ofTokens before).diagnostics = [])
    (ends : ∀ token others, onward = token :: others →
      token.kind.endsLine = true) :
    ∃ added others : List Member,
      added.map Member.bare = text.members.map Member.bare ∧
        (Parsed.ofTokens (before ++ (text.tokens ++ onward))).Encloses
          (Parsed.ofTokens before) added text.news
          (Parsed.ofTokens (heading.tokens ++ onward)) ∧
        (Parsed.ofTokens (before ++ (text.apart ++ onward))).Encloses
          (Parsed.ofTokens before) others []
          (Parsed.ofTokens (heading.tokens ++ onward)) ∧
        (Parsed.ofTokens (before ++
            (text.tokens ++ onward))).script.members.map Member.bare =
          (Parsed.ofTokens (before ++
            (text.apart ++ onward))).script.members.map Member.bare := by
  have plain {row : List Token} (heads : Heads Kind.isVisible row) :
      Heads (· ≠ .docComment) row :=
    heads.mono fun _ visible => visible.2
  obtain ⟨added, same, whole⟩ := heading.exists_encloses breaks inside silent
    text.contributes (plain (text.heads_around _)) text.syntactic_news ends
  obtain ⟨others, sameToo, apart⟩ := heading.exists_encloses breaks inside
    silent text.contributes_apart (plain text.heads_apart)
    (List.forall_mem_nil _) ends
  refine ⟨added, others, same, whole, apart, ?_⟩
  rw [whole.members, apart.members]
  simp only [List.map_append, same, sameToo]

/-! ## A crowded state -/

/-- A variable on a line of its own. -/
def MemberLines.variable (line : Nat) (name : String) : MemberLines where
  tree := .variable
    { type := ⟨.int, false, .point ⟨line, 1⟩⟩, name := ⟨name, .point ⟨line, 1⟩⟩,
      initial := none, conditional := false, span := .point ⟨line, 1⟩ }
  row :=
    [.onLine line (.keyword .intType) "Int", .onLine line .identifier name,
      .onLine line .newline "\n"]
  gap := []
  reads := .of_run (.onLine line (.keyword .endState) "EndState") nofun rfl
    (by rfl) (by rfl) (by rfl)
  gaps := .nil
  apart := fun _ more => absurd rfl more

/-- A function with a body, on three lines. -/
def MemberLines.function (line : Nat) (name : String) : MemberLines where
  tree := .function
    { returnType := none, name := ⟨name, .point ⟨line, 1⟩⟩, parameters := [],
      body := [.expression
        (.call (.name ⟨"Close", .point ⟨line + 1, 1⟩⟩) []
          (.point ⟨line + 1, 1⟩))
        (.point ⟨line + 1, 1⟩)],
      native := false, global := false, doc := none,
      span := ⟨⟨line, 1⟩, ⟨line + 2, 1⟩⟩ }
  row :=
    [.onLine line (.keyword .function) "Function",
      .onLine line .identifier name, .onLine line (.symbol .openParen) "(",
      .onLine line (.symbol .closeParen) ")", .onLine line .newline "\n",
      .onLine (line + 1) .identifier "Close",
      .onLine (line + 1) (.symbol .openParen) "(",
      .onLine (line + 1) (.symbol .closeParen) ")",
      .onLine (line + 1) .newline "\n",
      .onLine (line + 2) (.keyword .endFunction) "EndFunction",
      .onLine (line + 2) .newline "\n"]
  gap := []
  reads := .of_run (.onLine line (.keyword .endState) "EndState") nofun rfl
    (by cbv) (by cbv) (by cbv)
  gaps := .nil
  apart := fun _ more => absurd rfl more

/-- A native event without parameters, on one line. -/
def EventLines.plain (line : Nat) (name : String) : EventLines where
  tree :=
    { name := ⟨name, .point ⟨line, 1⟩⟩, parameters := [], body := [],
      native := true, doc := none, span := .point ⟨line, 1⟩ }
  row :=
    [.onLine line (.keyword .event) "Event", .onLine line .identifier name,
      .onLine line (.symbol .openParen) "(",
      .onLine line (.symbol .closeParen) ")",
      .onLine line (.keyword .native) "Native", .onLine line .newline "\n"]
  gap := []
  reads := .of_run (.onLine line (.keyword .endState) "EndState") nofun rfl
    (by rfl) (by rfl) (by rfl)
  gaps := .nil
  apart := fun _ more => absurd rfl more

/-- An event with a body, on three lines. -/
def EventLines.withBody (line : Nat) (name : String) : EventLines where
  tree :=
    { name := ⟨name, .point ⟨line, 1⟩⟩, parameters := [],
      body := [.result none (.point ⟨line + 1, 1⟩)],
      native := false, doc := none, span := ⟨⟨line, 1⟩, ⟨line + 2, 1⟩⟩ }
  row :=
    [.onLine line (.keyword .event) "Event", .onLine line .identifier name,
      .onLine line (.symbol .openParen) "(",
      .onLine line (.symbol .closeParen) ")", .onLine line .newline "\n",
      .onLine (line + 1) (.keyword .returnValue) "Return",
      .onLine (line + 1) .newline "\n",
      .onLine (line + 2) (.keyword .endEvent) "EndEvent",
      .onLine (line + 2) .newline "\n"]
  gap := []
  reads := .of_run (.onLine line (.keyword .endState) "EndState") nofun rfl
    (by cbv) (by cbv) (by cbv)
  gaps := .nil
  apart := fun _ more => absurd rfl more

def StateText.crowded : StateText where
  auto := true
  mark := [.onLine 4 (.keyword .auto) "Auto"]
  keyword := .onLine 4 (.keyword .state) "State"
  name := .onLine 4 .identifier "Open"
  line := .onLine 4 .newline "\n"
  gap := []
  items :=
    [.other (.variable 5 "first"), .event (.withBody 6 "OnInit"),
      .other (.function 9 "second")]
  closer := .onLine 12 (.keyword .endState) "EndState"
  marked := .auto rfl
  kind := rfl
  named := rfl
  breaks := rfl
  gaps := .nil
  closes := rfl

/-- The variable and the function are reported, and stand in front of the state. -/
theorem StateText.crowded_hoists_declarations :
    (∃ row line, Heading.door.tokens = row ++ [line] ∧ line.kind = .newline) ∧
      (∀ token ∈ Heading.door.tokens, token.kind ≠ .endOfText) ∧
      (Parsed.ofTokens Heading.door.tokens).diagnostics = [] ∧
      (∀ token others, [Token.onLine 12 .newline "\n"] = token :: others →
        token.kind.endsLine = true) ∧
      (Parsed.ofTokens (Heading.door.tokens ++ (crowded.tokens ++
          [Token.onLine 12 .newline "\n"]))).diagnostics =
        [⟨⟨5, 1⟩, .declarationInState "Open" (.keyword .intType)⟩,
          ⟨⟨9, 1⟩, .declarationInState "Open" (.keyword .function)⟩] ∧
      (Parsed.ofTokens (Heading.door.tokens ++ (crowded.tokens ++
          [Token.onLine 12 .newline "\n"]))).script.members.map Member.bare =
        [(MemberLines.variable 5 "first").tree.bare,
          (MemberLines.function 9 "second").tree.bare,
          (Member.state crowded.state).bare] := by
  have breaks : ∃ row line, Heading.door.tokens = row ++ [line] ∧
      line.kind = .newline :=
    ⟨[Heading.door.keyword, Heading.door.name], Heading.door.line, rfl, rfl⟩
  have inside : ∀ token ∈ Heading.door.tokens, token.kind ≠ .endOfText := by
    decide
  have ends : ∀ token others,
      [Token.onLine 12 .newline "\n"] = token :: others →
        token.kind.endsLine = true := by
    rintro _ _ same
    rw [← (List.cons.inj same).1]
    rfl
  obtain ⟨added, others, same, whole, -, -⟩ :=
    state_hoists_declarations crowded Heading.door breaks inside rfl ends
  refine ⟨breaks, inside, rfl, ends, whole.diagnostics, ?_⟩
  rw [whole.members, List.map_append, List.map_append, same]
  rfl

end PapyrusScript
