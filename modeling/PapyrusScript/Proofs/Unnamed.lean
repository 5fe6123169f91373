import PapyrusScript.Proofs.Hoisting

/-!
# Declarations that lost their name

Where the name of a declaration should stand there may be another token.  That
is reported, and the line is left out.

An event of a state on a single line is thereby left out as a whole, and
everything else of the script stays what it was.  Of a longer event the lines
behind the first one are read as further declarations of the state.

Of a property the lines behind the first one are left out with it if a function
starts there.  They are not if a documentation comment stands in front of it.
-/

namespace PapyrusScript

open Cursor

/-- An event of a state, and another token for its name.  Behind the line of
the name there is only a gap. -/
structure UnnamedEvent where
  lines : EventLines
  keyword : Token
  name : Token
  token : Token
  row : List Token
  line : Token
  gap : List Token
  shape : lines.tokens = keyword :: name :: (row ++ line :: gap)
  unnamed : token.kind ≠ .identifier
  inLine : ∀ other ∈ token :: row, other.kind.endsLine = false
  valid : ∀ other ∈ token :: row, other.kind.isInvalid = false
  breaks : line.kind = .newline
  gaps : IsGap gap

namespace Reader

variable {row rest : List Token} {keyword word token line : Token}
  {state : String}

/-! ## The line of an event -/

/-- An event without its name is reported at the token in its place. -/
theorem takes_event_unnamed
    (kind : word.kind = .keyword .event) (unnamed : token.kind ≠ .identifier) :
    Recovery.Takes event.run [word] (token :: rest)
      (· = .error (.unexpected token "a event name")) := by
  intro cursor here
  have behind := budget_next_of_budget here (by rw [kind]; nofun)
  rw [Recovery.ends_run]
  unfold event
  rw [ends_bind, ends_expect ((kind_of_budget here).trans kind), ends_bind]
  unfold identifier
  rw [ends_bind, ends_get, if_neg (by rw [kind_of_budget behind]; exact unnamed),
    ends_reject, current_of_budget behind]
  exact ⟨rfl, behind, quiet_next cursor⟩

/-- An event without its name is reported, and its line is left out. -/
theorem remarks_nextInState_unnamed
    (kind : word.kind = .keyword .event) (unnamed : token.kind ≠ .identifier)
    (inLine : ∀ other ∈ token :: row, other.kind.endsLine = false)
    (valid : ∀ other ∈ token :: row, other.kind.isInvalid = false)
    (breaks : line.kind = .newline) (found : StateBody) :
    (nextInState keyword state found).Remarks
      (word :: token :: (row ++ [line])) rest
      [.unexpected token "a event name"] (· = .again found) := by
  have lineStarts : Heads (· ≠ .newline)
      (word :: token :: (row ++ [line]) ++ rest) :=
    heads_ne kind nofun
  unfold nextInState
  apply Recovery.Takes.afterRemarks (takes_skipNewlines lineStarts)
  intro _ _
  apply Recovery.Remarks.get
  intro cursor here
  rw [(kind_of_budget here).trans kind]
  have name : Recovery.Takes event.run [word]
      (token :: (row ++ [line]) ++ rest) _ :=
    takes_event_unnamed kind unnamed
  apply name.bindRemarks
  rintro _ rfl
  exact (remarks_reportAndSkipLine inLine valid breaks).bind_nil fun _ _ =>
    .pure rfl

end Reader

/-! ## Whole scripts -/

namespace UnnamedEvent

variable (event : UnnamedEvent)

/-- The event with the other token in the place of its name. -/
def tokens : List Token :=
  event.keyword :: event.token :: (event.row ++ event.line :: event.gap)

/-- What is reported of the event. -/
def failure : Diagnostic := .unexpected event.token "a event name"

theorem kind : event.keyword.kind = .keyword .event := by
  have heads : Heads (· = .keyword .event) event.lines.tokens :=
    event.lines.spaced.heads
  rw [event.shape] at heads
  exact heads

/-- The block of a state with the event between other declarations. -/
theorem remarks_stateBlock
    {rest ending : List Token} {text : StateText} {front back : List StateItem}
    (items : text.items = front ++ back) (ends : LineEnd rest ending) :
    (Recovery.iterate (Reader.nextInState text.keyword text.name.text)
        ⟨[], []⟩).Remarks
      (front.flatMap StateItem.tokens ++
        (event.tokens ++ back.flatMap StateItem.tokens) ++
          text.closer :: ending) rest
      ((text.withItems front).news ++
        event.failure :: (text.withItems back).news) fun final =>
          Reader.StateBody.Adds ⟨[], []⟩ final text.events text.hoisted := by
  have passes := Recovery.passesGaps_nextInState text.keyword text.name.text
  have shape : event.tokens ++ back.flatMap StateItem.tokens ++
      text.closer :: ending = event.keyword :: event.token ::
        (event.row ++ [event.line]) ++ (event.gap ++
          (back.flatMap StateItem.tokens ++ text.closer :: ending)) := by
    simp [tokens]
  have visible : Heads Kind.isVisible (event.tokens ++
      back.flatMap StateItem.tokens ++ text.closer :: ending ++ rest) :=
    heads_of_keyword event.kind
  rw [List.append_assoc]
  apply Reader.remarks_stateItems front _ visible
  intro middle adds
  rw [shape]
  apply Recovery.Remarks.again passes.proceeds
    ((Reader.remarks_nextInState_unnamed event.kind event.unnamed event.inLine
      event.valid event.breaks middle).mono fun _ same => ⟨middle, same, rfl⟩)
  rintro _ rfl
  apply Recovery.Remarks.of_gap passes event.gaps
  apply (Reader.remarks_stateBlock back text.closes ends middle).mono
  intro final further
  rw [StateText.events, StateText.hoisted, items, List.filterMap_append,
    List.filterMap_append]
  exact adds.trans further

end UnnamedEvent

/-- An event on a single line of a state that loses its name costs one error,
at the token that stands there instead, and is left out.  Its script keeps
everything else. -/
theorem unnamed_event_costs_itself
    {before onward : List Token} {front back : List StateItem}
    (text : StateText) (event : UnnamedEvent) (heading : Heading)
    (items : text.items = front ++ .event event.lines :: back)
    (breaks : ∃ row line, before = row ++ [line] ∧ line.kind = .newline)
    (inside : ∀ token ∈ before, token.kind ≠ .endOfText)
    (silent : (Parsed.ofTokens before).diagnostics = [])
    (ends : ∀ token others, onward = token :: others →
      token.kind.endsLine = true) :
    ∃ added others : List Member,
      added.map Member.bare = text.members.map Member.bare ∧
        others.map Member.bare =
          (text.withItems (front ++ back)).members.map Member.bare ∧
        (Parsed.ofTokens (before ++ (text.tokens ++ onward))).Encloses
          (Parsed.ofTokens before) added
          ((text.withItems front).news ++ (text.withItems back).news)
          (Parsed.ofTokens (heading.tokens ++ onward)) ∧
        (Parsed.ofTokens (before ++ (text.around
            (front.flatMap StateItem.tokens ++
              (event.tokens ++ back.flatMap StateItem.tokens)) ++
            onward))).Encloses
          (Parsed.ofTokens before) others
          ((text.withItems front).news ++
            event.failure :: (text.withItems back).news)
          (Parsed.ofTokens (heading.tokens ++ onward)) := by
  have plain (inside : List Token) :
      Heads (· ≠ .docComment) (text.around inside) :=
    (text.heads_around inside).mono fun _ visible => visible.2
  have syntactic := (text.withItems front).syntactic_news
  have syntacticToo := (text.withItems back).syntactic_news
  have news : text.news =
      (text.withItems front).news ++ (text.withItems back).news := by
    simp only [StateText.news, StateText.hoisted, items, List.filterMap_append,
      List.map_append]
    rfl
  have notLexical : event.failure.cause.isLexical = false := by
    rw [UnnamedEvent.failure, Diagnostic.isLexical_unexpected]
    exact event.valid event.token List.mem_cons_self
  -- the state with the event in order, and the one whose event has lost its
  -- name, each add what they contribute
  obtain ⟨added, same, whole⟩ := heading.exists_encloses breaks inside silent
    text.contributes (plain _) text.syntactic_news ends
  have contributes {rest ending : List Token} (line : LineEnd rest ending) :=
    (text.withItems (front ++ back)).contributes_around
      (event.remarks_stateBlock rfl line)
  obtain ⟨others, sameToo, without⟩ := heading.exists_encloses breaks inside
    silent contributes (plain _)
    (List.forall_mem_append.2 ⟨syntactic,
      List.forall_mem_cons.2 ⟨notLexical, syntacticToo⟩⟩) ends
  rw [news] at whole
  exact ⟨added, others, same, sameToo, whole, without⟩

/-! ## An event with a number for its name -/

def UnnamedEvent.numbered : UnnamedEvent where
  lines := .plain 5 "OnInit"
  keyword := .onLine 5 (.keyword .event) "Event"
  name := .onLine 5 .identifier "OnInit"
  token := .onLine 5 .intLiteral "5"
  row :=
    [.onLine 5 (.symbol .openParen) "(", .onLine 5 (.symbol .closeParen) ")",
      .onLine 5 (.keyword .native) "Native"]
  line := .onLine 5 .newline "\n"
  gap := []
  shape := rfl
  unnamed := nofun
  inLine := by decide
  valid := by decide
  breaks := rfl
  gaps := .nil

def StateText.eventful : StateText :=
  StateText.crowded.withItems
    [.event UnnamedEvent.numbered.lines, .event (.plain 6 "OnClose")]

/-- The number is reported, and the state keeps the other event. -/
theorem UnnamedEvent.numbered_costs_itself :
    StateText.eventful.items =
        [] ++ .event numbered.lines :: [.event (.plain 6 "OnClose")] ∧
      (∃ row line, Heading.door.tokens = row ++ [line] ∧ line.kind = .newline) ∧
      (∀ token ∈ Heading.door.tokens, token.kind ≠ .endOfText) ∧
      (Parsed.ofTokens Heading.door.tokens).diagnostics = [] ∧
      (∀ token others, ([] : List Token) = token :: others →
        token.kind.endsLine = true) ∧
      (Parsed.ofTokens (Heading.door.tokens ++ (StateText.eventful.around
          ([] ++ (numbered.tokens ++
            [StateItem.event (.plain 6 "OnClose")].flatMap
              StateItem.tokens)) ++ []))).diagnostics =
        [.unexpected (.onLine 5 .intLiteral "5") "a event name"] ∧
      (Parsed.ofTokens (Heading.door.tokens ++ (StateText.eventful.around
          ([] ++ (numbered.tokens ++
            [StateItem.event (.plain 6 "OnClose")].flatMap
              StateItem.tokens)) ++ []))).script.members.map Member.bare =
        [(Member.state { StateText.eventful.state with
          events := [(EventLines.plain 6 "OnClose").tree] }).bare] := by
  have breaks : ∃ row line, Heading.door.tokens = row ++ [line] ∧
      line.kind = .newline :=
    ⟨[Heading.door.keyword, Heading.door.name], Heading.door.line, rfl, rfl⟩
  have inside : ∀ token ∈ Heading.door.tokens, token.kind ≠ .endOfText := by
    decide
  have ends : ∀ token others, ([] : List Token) = token :: others →
      token.kind.endsLine = true :=
    nofun
  have items : StateText.eventful.items =
      [] ++ .event numbered.lines :: [.event (.plain 6 "OnClose")] :=
    rfl
  obtain ⟨_, others, -, same, -, without⟩ := unnamed_event_costs_itself
    StateText.eventful numbered Heading.door items breaks inside rfl ends
  refine ⟨items, breaks, inside, rfl, ends, without.diagnostics, ?_⟩
  rw [List.flatMap_nil] at without
  rw [without.members, List.map_append, List.map_append, same]
  rfl

/-- A state with an event on several lines that has a name or something else in
its place. -/
def Script.eventCalled (name : String) : String :=
  "Scriptname X\nState S\nEvent " ++ name ++ "()\nreturn\nEndEvent\nEndState\n"

/-- The lines behind the first one of such an event are reported too, as they
stand in the state. -/
theorem unnamed_event_leaves_body :
    (Parsed.ofText (Script.eventCalled "F")).diagnostics = [] ∧
      (Parsed.ofText (Script.eventCalled "5")).diagnostics.map
          Diagnostic.position = [⟨3, 7⟩, ⟨4, 1⟩, ⟨5, 1⟩] :=
  ⟨by decide, by decide⟩

/-! ## A property without a name -/

section Property

open Reader

variable {row rest : List Token} {line : Token}

/-- In front of a documentation comment nothing more of a property is left out
than the rest of its first line. -/
theorem Reader.takes_skipMember_of_comment
    (inLine : ∀ token ∈ row, token.kind.endsLine = false)
    (valid : ∀ token ∈ row, token.kind.isInvalid = false)
    (breaks : line.kind = .newline) (comment : Heads (· = .docComment) rest) :
    (skipMember (some .property)).Takes (row ++ [line]) rest fun _ => True := by
  unfold skipMember
  apply (takes_skipLine inLine valid breaks).bind_nil
  intro _ _
  have visible : Heads (· ≠ .newline) ([] ++ rest) :=
    comment.mono fun _ isComment => by rw [isComment]; nofun
  apply Recovery.Takes.after (takes_skipNewlines visible)
  intro _ _
  apply Recovery.Takes.get
  intro cursor here
  have noFunction : cursor.atFunctionStart = false := by
    unfold atFunctionStart atTypeStart
    rw [comment.kind here]
    rfl
  rw [noFunction, if_pos (by rfl)]
  exact .pure trivial

end Property

/-- A property with a documentation comment in front of its function.  It has
a name, or something else in its place. -/
def Script.propertyCalled (name : String) : String :=
  "Scriptname X\nInt Property " ++ name ++
    "\n{doc}\nInt Function Get()\nreturn 1\nEndFunction\nEndProperty\n"

/-- Skipping the property stops in front of the comment.  So its function is
read as one of the script, and its terminator is reported too. -/
theorem unnamed_property_leaves_function :
    (Parsed.ofText (Script.propertyCalled "P")).diagnostics = [] ∧
      (Parsed.ofText (Script.propertyCalled "P")).script.members.length = 1 ∧
      (Parsed.ofText (Script.propertyCalled "5")).diagnostics.map
          Diagnostic.position = [⟨2, 14⟩, ⟨7, 1⟩] ∧
      (Parsed.ofText (Script.propertyCalled "5")).script.functions.map
          (·.name.name) = ["Get"] := by
  refine ⟨?_, ?_, ?_, ?_⟩
  · decide +kernel
  · decide +kernel
  · decide +kernel
  · decide +kernel

end PapyrusScript
