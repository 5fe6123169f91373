import PapyrusScript.Proofs.Alongside

/-!
# Open blocks, line by line

Which blocks are open behind some tokens can be told without reading them.  A
line that starts with the keyword of a block opens it, and a line that starts
with the terminator of the innermost one closes it.  A return type or `Auto`
may stand in front of the keyword.  A function or event is no block if its
line says `Native`, and a property is none if its line makes it automatic.

A line counts once all of it is there.  The last line may be cut off, so it
only counts if something ends it behind the cut.
-/

namespace PapyrusScript

/-- A block, and the keyword that opened it. -/
structure Opening where
  block : Block
  keyword : Token
  deriving DecidableEq, Repr

namespace Opening

/-- The report of a block in which the text ends. -/
def report (opening : Opening) : Diagnostic :=
  ⟨opening.keyword.span.start,
    .unterminated opening.block opening.keyword.span.start.line .endOfText⟩

def mentions (word : Keyword) (line : List Token) : Bool :=
  line.any fun token => token.kind = .keyword word

/-- The tokens behind the brackets of an array type, if they come first. -/
def behindBrackets : List Token → List Token
  | first :: second :: line =>
    if first.kind = .symbol .openBracket &&
        second.kind = .symbol .closeBracket then
      line
    else
      first :: second :: line
  | line => line

/-- The body of a function or event, unless its line makes it native. -/
def ofCallable? (block : Block) (keyword : Token) (line : List Token) :
    Option Opening :=
  if mentions .native line then none else some ⟨block, keyword⟩

def ofProperty? (keyword : Token) (line : List Token) : Option Opening :=
  if mentions .auto line || mentions .autoReadOnly line then none
  else some ⟨.property, keyword⟩

def ofTyped? : List Token → Option Opening
  | [] => none
  | keyword :: line =>
    match keyword.kind with
    | .keyword .function => ofCallable? .function keyword line
    | .keyword .property => ofProperty? keyword line
    | _ => none

def ofAuto? : List Token → Option Opening
  | [] => none
  | keyword :: _ =>
    if keyword.kind = .keyword .state then some ⟨.state, keyword⟩ else none

def ofLine? : List Token → Option Opening
  | [] => none
  | first :: line =>
    match first.kind with
    | .keyword .ifThen => some ⟨.conditional, first⟩
    | .keyword .whileLoop => some ⟨.loop, first⟩
    | .keyword .function => ofCallable? .function first line
    | .keyword .event => ofCallable? .event first line
    | .keyword .state => some ⟨.state, first⟩
    | .keyword .auto => ofAuto? line
    | kind =>
      if kind.isTypeKeyword || kind = .identifier then
        ofTyped? (behindBrackets line)
      else
        none

/-- The first line of some tokens if all of it is there.  The last line only
is if it is `closed`. -/
def wholeLine? (closed : Bool) (tokens : List Token) : Option (List Token) :=
  if closed || tokens.any fun token => token.kind.endsLine then
    some (tokens.takeWhile fun token => !token.kind.endsLine)
  else
    none

/-- The open blocks behind the start of a line, the innermost first. -/
def turn (closed : Bool) (stack : List Opening) (tokens : List Token) :
    List Opening :=
  match (wholeLine? closed tokens).bind ofLine?, stack, tokens with
  | some opening, _, _ => opening :: stack
  | none, top :: below, first :: _ =>
    if first.kind = .keyword top.block.terminator then below
    else top :: below
  | none, _, _ => stack

/-- The open blocks behind some tokens, the innermost first.  A line starts
where nothing but documentation comments has come since the last line break.
Behind an end of the text nothing is open. -/
def openedIn (closed : Bool) :
    Bool → List Opening → List Token → List Opening
  | _, stack, [] => stack
  | fresh, stack, token :: rest =>
    if token.kind = .endOfText then
      []
    else
      openedIn closed
        (token.kind = .newline || fresh && token.kind = .docComment)
        (if fresh then turn closed stack (token :: rest) else stack) rest

def startsBehindLine : List Token → Bool
  | [] => true
  | token :: _ => token.kind.endsLine

/-- The blocks that are open where a text is cut in two. -/
def openAt (kept dropped : List Token) : List Opening :=
  openedIn (startsBehindLine dropped) true [] kept

end Opening

def OneLine (row : List Token) : Prop :=
  ∀ token ∈ row, token.kind.endsLine = false

namespace Opening

variable {closed : Bool} {stack : List Opening} {token : Token}
  {line row rest more : List Token}

/-! ## Lines -/

theorem wholeLine?_append
    (oneLine : OneLine line) (ends : token.kind.endsLine = true) :
    wholeLine? closed (line ++ token :: rest) = some line := by
  have found : (line ++ token :: rest).any
      (fun token => token.kind.endsLine) = true :=
    List.any_eq_true.2 ⟨token, by simp, ends⟩
  unfold wholeLine?
  rw [found, Bool.or_true, if_pos rfl]
  congr 1
  rw [List.takeWhile_append_of_pos]
  · simp [ends]
  · intro other member
    simp [oneLine other member]

theorem wholeLine?_of_oneLine (oneLine : OneLine row) :
    wholeLine? closed row = if closed then some row else none := by
  have nothing : row.any (fun token => token.kind.endsLine) = false := by
    rw [List.any_eq_false]
    intro token member ends
    rw [oneLine token member] at ends
    cases ends
  have whole : (row ++ []).takeWhile (fun token => !token.kind.endsLine) =
      row ++ [] :=
    List.takeWhile_append_of_pos fun token member => by
      simp [oneLine token member]
  rw [List.append_nil] at whole
  unfold wholeLine?
  rw [nothing, Bool.or_false, whole]

theorem openedIn_newline (breaks : token.kind = .newline) (fresh : Bool) :
    openedIn closed fresh stack (token :: rest) =
      openedIn closed true stack rest := by
  have same : turn closed stack (token :: rest) = stack := by
    have line := @wholeLine?_append closed token [] rest
      (List.forall_mem_nil _) (by rw [breaks]; rfl)
    unfold turn
    rw [show token :: rest = [] ++ token :: rest from rfl, line]
    cases stack with
    | nil => rfl
    | cons top below => simp [ofLine?, breaks]
  simp [openedIn, breaks, same]

theorem ofLine?_docComment (doc : token.kind = .docComment) :
    ofLine? (token :: line) = none := by
  simp [ofLine?, doc, Kind.isTypeKeyword]

/-- What starts with a token that opens and closes nothing leaves the open
blocks as they are. -/
theorem turn_of_none
    (opens : ∀ line, wholeLine? closed (token :: rest) = some line →
      ofLine? line = none)
    (closes : ∀ top below, stack = top :: below →
      token.kind ≠ .keyword top.block.terminator) :
    turn closed stack (token :: rest) = stack := by
  have nothing : (wholeLine? closed (token :: rest)).bind ofLine? = none := by
    cases found : wholeLine? closed (token :: rest) with
    | none => rfl
    | some line => exact opens line found
  unfold turn
  rw [nothing]
  cases stack with
  | nil => rfl
  | cons top below => exact if_neg (closes top below rfl)

theorem takeWhile_of_wholeLine? (found : wholeLine? closed row = some line) :
    line = row.takeWhile fun token => !token.kind.endsLine := by
  unfold wholeLine? at found
  split at found
  · exact (Option.some.inj found).symm
  · cases found

theorem openedIn_docComment (doc : token.kind = .docComment) :
    openedIn closed true stack (token :: rest) =
      openedIn closed true stack rest := by
  have same : turn closed stack (token :: rest) = stack := by
    apply turn_of_none
    · intro line found
      rw [takeWhile_of_wholeLine? found, List.takeWhile_cons_of_pos
        (by simp [doc, Kind.endsLine])]
      exact ofLine?_docComment doc
    · intro top below _
      simp [doc]
  simp [openedIn, doc, same]

theorem openedIn_inLine (oneLine : OneLine line) :
    openedIn closed false stack (line ++ more) =
      openedIn closed false stack more := by
  induction line with
  | nil => rfl
  | cons first line ih =>
    obtain ⟨inLine, others⟩ := List.forall_mem_cons.1 oneLine
    simp only [Kind.endsLine, Bool.or_eq_false_iff, decide_eq_false_iff_not]
      at inLine
    simp only [List.cons_append, openedIn, inLine, if_false, decide_false,
      Bool.false_and, Bool.or_false, Bool.false_eq_true]
    exact ih others

/-- The first token of a line decides what it opens and closes. -/
theorem openedIn_cons
    (oneLine : OneLine (token :: line)) (first : token.kind ≠ .docComment) :
    openedIn closed true stack (token :: line ++ more) =
      openedIn closed false (turn closed stack (token :: line ++ more))
        more := by
  obtain ⟨inLine, others⟩ := List.forall_mem_cons.1 oneLine
  simp only [Kind.endsLine, Bool.or_eq_false_iff, decide_eq_false_iff_not]
    at inLine
  rw [← openedIn_inLine others]
  simp [openedIn, inLine, first]

/-! ## Where the keywords stand -/

variable {block : Block} {keyword : Token} {opening : Opening}

theorem keyword_of_ofCallable?
    (found : ofCallable? block keyword line = some opening) :
    opening.keyword = keyword := by
  unfold ofCallable? at found
  split at found
  · cases found
  · cases found
    rfl

theorem keyword_of_ofProperty?
    (found : ofProperty? keyword line = some opening) :
    opening.keyword = keyword := by
  unfold ofProperty? at found
  split at found
  · cases found
  · cases found
    rfl

theorem keyword_mem_of_ofTyped? (found : ofTyped? line = some opening) :
    opening.keyword ∈ line := by
  cases line with
  | nil => cases found
  | cons keyword line =>
    unfold ofTyped? at found
    dsimp only at found
    split at found
    · rw [keyword_of_ofCallable? found]
      exact List.mem_cons_self
    · rw [keyword_of_ofProperty? found]
      exact List.mem_cons_self
    · cases found

theorem keyword_mem_of_ofAuto? (found : ofAuto? line = some opening) :
    opening.keyword ∈ line := by
  cases line with
  | nil => cases found
  | cons keyword line =>
    unfold ofAuto? at found
    dsimp only at found
    split at found
    · cases found
      exact List.mem_cons_self
    · cases found

theorem behindBrackets_suffix (line : List Token) :
    behindBrackets line <:+ line := by
  unfold behindBrackets
  split
  · split
    · exact ⟨[_, _], rfl⟩
    · exact List.suffix_refl _
  · exact List.suffix_refl _

/-- The keyword that a line opens a block with stands in it. -/
theorem keyword_mem_of_ofLine? (found : ofLine? line = some opening) :
    opening.keyword ∈ line := by
  cases line with
  | nil => cases found
  | cons first line =>
    unfold ofLine? at found
    dsimp only at found
    split at found
    · cases found
      exact List.mem_cons_self
    · cases found
      exact List.mem_cons_self
    · rw [keyword_of_ofCallable? found]
      exact List.mem_cons_self
    · rw [keyword_of_ofCallable? found]
      exact List.mem_cons_self
    · cases found
      exact List.mem_cons_self
    · exact List.mem_cons_of_mem _ (keyword_mem_of_ofAuto? found)
    · split at found
      · have within := keyword_mem_of_ofTyped? found
        exact List.mem_cons_of_mem _
          ((behindBrackets_suffix line).subset within)
      · cases found

/-- The first line opens a block, or it closes one or none. -/
theorem turn_cases (tokens : List Token) :
    (∃ opening, turn closed stack tokens = opening :: stack ∧
        opening.keyword ∈ tokens.takeWhile fun token => !token.kind.endsLine) ∨
      turn closed stack tokens <:+ stack := by
  unfold turn
  split
  · rename_i opening found
    obtain ⟨line, whole, opens⟩ := Option.bind_eq_some_iff.1 found
    refine .inl ⟨opening, rfl, ?_⟩
    rw [← takeWhile_of_wholeLine? whole]
    exact keyword_mem_of_ofLine? opens
  · right
    split
    · exact List.suffix_cons _ _
    · exact List.suffix_refl _
  · exact .inr (List.suffix_refl _)

/-- The keyword of a block stands behind those of the blocks around it. -/
theorem turn_sublist {before tokens : List Token}
    (sublist : (stack.map Opening.keyword).reverse.Sublist before) :
    ((turn closed stack tokens).map Opening.keyword).reverse.Sublist
      (before ++ tokens.takeWhile fun token => !token.kind.endsLine) := by
  rcases @turn_cases closed stack tokens with
    ⟨opening, turned, within⟩ | suffix
  · rw [turned, List.map_cons, List.reverse_cons]
    exact sublist.append (List.singleton_sublist.2 within)
  · have fewer := (suffix.sublist.map Opening.keyword).reverse
    exact (fewer.trans sublist).trans (List.sublist_append_left _ _)

/-- The keywords of the blocks that are open behind some tokens stand among
them, in the order of the blocks. -/
theorem openedIn_sublist
    {row before : List Token} {fresh : Bool} {stack : List Opening}
    (sublist : (stack.map Opening.keyword).reverse.Sublist
      (before ++ if fresh then []
        else row.takeWhile fun token => !token.kind.endsLine)) :
    ((openedIn closed fresh stack row).map Opening.keyword).reverse.Sublist
      (before ++ row) := by
  induction row generalizing before fresh stack with
  | nil => simpa [openedIn] using sublist
  | cons token row ih =>
    have known : ((if fresh then turn closed stack (token :: row)
        else stack).map Opening.keyword).reverse.Sublist
        (before ++
          (token :: row).takeWhile fun token => !token.kind.endsLine) := by
      cases fresh with
      | false => exact sublist
      | true =>
        apply turn_sublist
        simpa using sublist
    by_cases atEnd : token.kind = .endOfText
    · simp [openedIn, atEnd]
    by_cases doc : fresh = true ∧ token.kind = .docComment
    · obtain ⟨rfl, doc⟩ := doc
      rw [openedIn_docComment doc, List.append_cons]
      apply ih
      simpa using sublist.trans (List.sublist_append_left _ [token])
    simp only [openedIn, if_neg atEnd]
    rw [List.append_cons]
    apply ih
    by_cases breaks : token.kind = .newline
    · simp only [List.takeWhile_cons, Kind.endsLine, breaks, decide_true,
        Bool.true_or, Bool.not_true, if_neg Bool.false_ne_true,
        List.append_nil] at known
      simpa [breaks] using known.trans (List.sublist_append_left _ [token])
    · have goesOn : (decide (token.kind = .newline) ||
          fresh && decide (token.kind = .docComment)) = false := by
        simp only [breaks, decide_false, Bool.false_or, Bool.and_eq_false_iff,
          decide_eq_false_iff_not]
        cases fresh <;> simp_all
      rw [goesOn]
      simpa [Kind.endsLine, breaks, atEnd] using known

theorem openAt_sublist (kept dropped : List Token) :
    ((openAt kept dropped).map Opening.keyword).reverse.Sublist kept :=
  @openedIn_sublist _ kept [] true [] (List.Sublist.refl _)

/-- Behind an end of the text nothing is open. -/
theorem openedIn_of_endOfText {fresh : Bool} {stack : List Opening}
    (ended : ∃ token ∈ row, token.kind = .endOfText) :
    openedIn closed fresh stack row = [] := by
  induction row generalizing fresh stack with
  | nil =>
    obtain ⟨_, member, _⟩ := ended
    cases member
  | cons token row ih =>
    by_cases here : token.kind = .endOfText
    · simp [openedIn, here]
    · simp only [openedIn, if_neg here]
      apply ih
      obtain ⟨last, member, atEnd⟩ := ended
      rcases List.mem_cons.1 member with rfl | later
      · exact absurd atEnd here
      · exact ⟨last, later, atEnd⟩

/-! ## What a cursor sees of a line -/

section Cursor

variable {cursor : Cursor} {stop : Token}

open Cursor

/-- The kind behind a type is told by its line. -/
theorem kindAfterType_of_line {first keyword : Token} {tail : List Token}
    (here : cursor.budget = first :: line ++ stop :: rest)
    (ends : stop.kind.endsLine = true)
    (behind : behindBrackets line = keyword :: tail) :
    cursor.kindAfterType = keyword.kind := by
  have other : stop.kind ≠ .symbol .closeBracket := by
    intro found
    rw [found] at ends
    cases ends
  unfold Cursor.kindAfterType Cursor.typeLength
  simp only [Cursor.kindAt_eq, here]
  match line, behind with
  | [only], behind =>
    obtain ⟨rfl, _⟩ := List.cons.inj behind
    simp [other]
  | second :: third :: line, behind =>
    simp only [behindBrackets] at behind
    split at behind
    · rename_i array
      simp only [Bool.and_eq_true, decide_eq_true_eq] at array
      simp [array, behind]
    · rename_i plain
      obtain ⟨rfl, _⟩ := List.cons.inj behind
      simp only [Bool.and_eq_true, decide_eq_true_eq] at plain
      simp [plain]

/-- A line that starts no member and no statement with a block opens
nothing. -/
theorem ofLine?_eq_none (here : cursor.budget = line ++ stop :: rest)
    (ends : stop.kind.endsLine = true)
    (notIf : cursor.kind ≠ .keyword .ifThen)
    (notWhile : cursor.kind ≠ .keyword .whileLoop)
    (noMember : cursor.atMemberStart = false) : ofLine? line = none := by
  cases line with
  | nil => rfl
  | cons first line =>
    have kind : cursor.kind = first.kind := kind_of_budget here
    unfold Cursor.atMemberStart at noMember
    simp only [ofLine?]
    rw [kind] at notIf notWhile noMember
    split
    · contradiction
    · contradiction
    · rename_i found
      simp [found] at noMember
    · rename_i found
      simp [found] at noMember
    · rename_i found
      simp [found] at noMember
    · rename_i found
      cases line with
      | nil => rfl
      | cons second line =>
        have same : cursor.kindAt 1 = second.kind := by
          rw [kindAt_eq, here]
          rfl
        simp only [found, same, decide_eq_false_iff_not] at noMember
        exact if_neg noMember
    · split
      · rename_i typed
        cases behind : behindBrackets line with
        | nil => rfl
        | cons keyword tail =>
          have after := kindAfterType_of_line here ends behind
          have starts : cursor.atTypeStart = true := by
            rw [Cursor.atTypeStart, kind]
            exact typed
          unfold ofTyped?
          dsimp only
          split
          · rename_i found
            split at noMember
            all_goals simp_all
          · rename_i found
            split at noMember
            all_goals simp_all
          · rfl
      · rfl

end Cursor

end Opening

end PapyrusScript
