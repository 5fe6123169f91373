import PapyrusScript.Proofs.Truncation.Statement

/-!
# Bodies of a text that is cut

A cursor in a text that is cut sees what the other one sees, up to the cut,
and nothing behind it.  So a declaration that starts in front of one starts in
front of the other too, unless too little of it is kept to tell.

A conditional or a loop is carried to its own end, or what is kept ends within
it.  Then its keyword has been read, and its block is reported once the bodies
in it have come to the end.
-/

namespace PapyrusScript

/-! ## What two cursors see ahead -/

open Cursor

variable {cut : Cut} {cursor twin : Cursor} {row : List Token}

/-- No token of a type closes a block. -/
theorem closesNothing_of_atTypeStart
    (typed : cursor.atTypeStart = true) {distance : Nat}
    (inside : distance < cursor.typeLength) :
    (cursor.kindAt distance).isBlockTerminator = false := by
  have here : (cursor.kindAt 0).isBlockTerminator = false := by
    show cursor.kind.isBlockTerminator = false
    unfold Cursor.atTypeStart at typed
    cases found : cursor.kind with
    | keyword word =>
      rw [found] at typed
      cases word <;> first | rfl | cases typed
    | _ => rfl
  unfold Cursor.typeLength at inside
  split at inside
  · rename_i array
    simp only [Bool.and_eq_true, decide_eq_true_eq] at array
    have cases : distance = 0 ∨ distance = 1 ∨ distance = 2 := by omega
    rcases cases with rfl | rfl | rfl
    · exact here
    · rw [array.1]
      rfl
    · rw [array.2]
      rfl
  · obtain rfl : distance = 0 := by omega
    exact here

namespace Cut

section Abreast

variable (abreast : cut.Abreast row cursor twin)
variable {distance : Nat}

include abreast

theorem Abreast.kindAt_of_lt (inside : distance < row.length) :
    twin.kindAt distance = cursor.kindAt distance ∧
      row[distance].kind = cursor.kindAt distance := by
  rw [kindAt_eq, kindAt_eq, abreast.here, abreast.there,
    List.getElem?_append_left inside, List.getElem?_append_left inside,
    List.getElem?_eq_getElem inside]
  exact ⟨rfl, rfl⟩

theorem Abreast.lt_of_kindAt (inside : twin.kindAt distance ≠ .endOfText) :
    distance < row.length := by
  by_contra behind
  apply inside
  rw [kindAt_eq, abreast.there,
    List.getElem?_append_right (Nat.le_of_not_lt behind)]
  cases found : distance - row.length with
  | zero => simp [cut.ends]
  | succ => simp

theorem Abreast.kindAt_eq_of_ne
    {kind : Kind} (found : twin.kindAt distance = kind)
    (inside : kind ≠ .endOfText) : cursor.kindAt distance = kind := by
  rw [← found] at inside
  rw [← (abreast.kindAt_of_lt (abreast.lt_of_kindAt inside)).1, found]

theorem Abreast.kindAfterType_of_ne
    {kind : Kind} (found : twin.kindAfterType = kind)
    (inside : kind ≠ .endOfText) (other : kind ≠ .symbol .openBracket) :
    cursor.kindAfterType = kind := by
  unfold kindAfterType typeLength at found ⊢
  split at found
  · rename_i array
    simp only [Bool.and_eq_true, decide_eq_true_eq] at array
    rw [abreast.kindAt_eq_of_ne array.1 nofun,
      abreast.kindAt_eq_of_ne array.2 nofun]
    exact abreast.kindAt_eq_of_ne found inside
  · have second := abreast.kindAt_eq_of_ne found inside
    rw [if_neg (by simp [second, other])]
    exact second

theorem Abreast.kind_eq_of_ne
    (inside : twin.kind ≠ .endOfText) : cursor.kind = twin.kind :=
  abreast.kindAt_eq_of_ne (rfl : twin.kindAt 0 = twin.kind) inside

/-- What starts in front of the cut starts there in the whole text. -/
theorem Abreast.atMemberStart_of_twin :
    twin.atMemberStart = true → cursor.atMemberStart = true := by
  by_cases atEnd : twin.kind = .endOfText
  · intro starts
    simp [atMemberStart, atTypeStart, atEnd, Kind.isTypeKeyword] at starts
  unfold atMemberStart atTypeStart
  rw [abreast.kind_eq_of_ne atEnd]
  split
  case h_6 =>
    simp only [decide_eq_true_eq]
    exact fun found => abreast.kindAt_eq_of_ne found (by decide)
  case h_7 =>
    simp only [Bool.and_eq_true, Bool.or_eq_true, decide_eq_true_eq]
    rintro ⟨typed, found | found⟩
    · have same := abreast.kindAfterType_of_ne found (by decide) (by decide)
      exact ⟨typed, .inl same⟩
    · have same := abreast.kindAfterType_of_ne found (by decide) (by decide)
      exact ⟨typed, .inr same⟩
  all_goals exact fun starts => starts

theorem Abreast.atFunctionStart_of_twin
    (starts : twin.atFunctionStart = true) : cursor.atFunctionStart = true := by
  have inside := Recovery.ne_endOfText_of_atFunctionStart starts
  simp only [atFunctionStart, atTypeStart, Bool.or_eq_true,
    Bool.and_eq_true, decide_eq_true_eq] at starts ⊢
  rw [abreast.kind_eq_of_ne inside]
  rcases starts with word | ⟨typed, follows⟩
  · exact .inl word
  · have same := abreast.kindAfterType_of_ne follows (by decide) (by decide)
    exact .inr ⟨typed, same⟩

/-- If more than the type is kept, what follows it is seen in both runs. -/
theorem Abreast.kindAfterType_of_lt (inside : cursor.typeLength < row.length) :
    twin.kindAfterType = cursor.kindAfterType := by
  have length : twin.typeLength = cursor.typeLength := by
    unfold typeLength at inside ⊢
    split at inside
    · rw [(abreast.kindAt_of_lt (by omega : 1 < row.length)).1,
        (abreast.kindAt_of_lt (by omega : 2 < row.length)).1]
    · rename_i plain
      rw [if_neg plain, if_neg]
      intro array
      simp only [Bool.and_eq_true, decide_eq_true_eq] at array
      apply plain
      rw [abreast.kindAt_eq_of_ne array.1 nofun,
        abreast.kindAt_eq_of_ne array.2 nofun]
      rfl
  unfold kindAfterType
  rw [length, (abreast.kindAt_of_lt inside).1]

/-- Where too little is kept to tell that a member starts, no more than its
type is. -/
theorem Abreast.kinds_of_atMemberStart
    (more : row ≠ []) (starts : cursor.atMemberStart = true)
    (unseen : twin.atMemberStart = false) :
    (cursor.kind = .keyword .auto ∧ row.length = 1) ∨
      cursor.atTypeStart = true ∧ row.length ≤ cursor.typeLength := by
  have same := abreast.kind_eq more
  have inside := List.length_pos_iff.2 more
  unfold atMemberStart at starts unseen
  rw [same] at unseen
  split at starts
  case h_6 auto =>
    left
    refine ⟨auto, ?_⟩
    by_contra long
    simp only [auto, decide_eq_true_eq, decide_eq_false_iff_not] at starts unseen
    apply unseen
    rw [(abreast.kindAt_of_lt (by omega : 1 < row.length)).1, starts]
  case h_7 =>
    right
    simp only [Bool.and_eq_true] at starts
    refine ⟨starts.1, ?_⟩
    by_contra long
    have typed : twin.atTypeStart = true := by
      rw [atTypeStart, same]
      exact starts.1
    split at unseen
    case h_7 =>
      rw [typed, abreast.kindAfterType_of_lt (by omega), starts.2] at unseen
      cases unseen
    all_goals simp_all
  all_goals simp_all

theorem Abreast.length_le_of_atVariableStart
    (more : row ≠ []) (starts : cursor.atVariableStart = true)
    (unseen : twin.atVariableStart = false) :
    cursor.atTypeStart = true ∧ row.length ≤ cursor.typeLength := by
  unfold atVariableStart at starts unseen
  rw [Bool.and_eq_true] at starts
  refine ⟨starts.1, ?_⟩
  by_contra long
  have typed : twin.atTypeStart = true := by
    rw [atTypeStart, abreast.kind_eq more]
    exact starts.1
  rw [typed, abreast.kindAfterType_of_lt (by omega), starts.2] at unseen
  cases unseen

/-- No more than a type or a mark is part of a line, and closes nothing. -/
theorem Abreast.short_of_kinds
    (kinds : (cursor.kind = .keyword .auto ∧ row.length = 1) ∨
      cursor.atTypeStart = true ∧ row.length ≤ cursor.typeLength) :
    OneLine row ∧ ClosesNothing row := by
  have each {token : Token} (member : token ∈ row) :
      token.kind.endsLine = false ∧ token.kind.isBlockTerminator = false := by
    obtain ⟨distance, inside, rfl⟩ := List.getElem_of_mem member
    rw [(abreast.kindAt_of_lt inside).2]
    rcases kinds with ⟨auto, single⟩ | ⟨typed, short⟩
    · obtain rfl : distance = 0 := by omega
      rw [show cursor.kindAt 0 = _ from auto]
      exact ⟨rfl, rfl⟩
    · refine ⟨Fork.inLine_of_atTypeStart typed distance (by omega), ?_⟩
      exact closesNothing_of_atTypeStart typed (by omega)
  exact ⟨fun token member => (each member).1, fun token member => (each member).2⟩

/-- What is kept of a member that cannot be told is part of a line, and closes
nothing. -/
theorem Abreast.short_of_atMemberStart
    (more : row ≠ []) (starts : cursor.atMemberStart = true)
    (unseen : twin.atMemberStart = false) :
    OneLine row ∧ ClosesNothing row :=
  abreast.short_of_kinds (abreast.kinds_of_atMemberStart more starts unseen)

theorem Abreast.short_of_atDeclaration
    (more : row ≠ []) (starts : cursor.atDeclaration = true)
    (unseen : twin.atDeclaration = false) :
    OneLine row ∧ ClosesNothing row := by
  unfold atDeclaration at starts unseen
  rw [Bool.or_eq_true] at starts
  rw [Bool.or_eq_false_iff] at unseen
  rcases starts with member | declared
  · exact abreast.short_of_atMemberStart more member unseen.1
  · exact abreast.short_of_kinds
      (.inr (abreast.length_le_of_atVariableStart more declared unseen.2))

/-- Where too little is kept to tell that a function starts, no member is
seen at all. -/
theorem Abreast.atMemberStart_of_atFunctionStart
    (more : row ≠ []) (starts : cursor.atFunctionStart = true)
    (unseen : twin.atFunctionStart = false) :
    cursor.atMemberStart = true ∧ twin.atMemberStart = false := by
  have same := abreast.kind_eq more
  simp only [atFunctionStart, Bool.or_eq_true, Bool.and_eq_true,
    decide_eq_true_eq] at starts
  simp only [atFunctionStart, same, Bool.or_eq_false_iff,
    decide_eq_false_iff_not] at unseen
  obtain ⟨typed, follows⟩ := starts.resolve_left unseen.1
  have typedToo : twin.atTypeStart = true := by
    rw [atTypeStart, same]
    exact typed
  rw [typedToo, Bool.true_and, decide_eq_false_iff_not] at unseen
  have other : twin.kindAfterType ≠ .keyword .property := by
    intro found
    have again := abreast.kindAfterType_of_ne found (by decide) (by decide)
    rw [follows] at again
    cases again
  unfold atMemberStart
  rw [same, typed, typedToo]
  constructor
  · split <;> simp_all [atTypeStart, Kind.isTypeKeyword]
  · split <;> simp_all [atTypeStart, Kind.isTypeKeyword]

/-- What closes a declaration that is seen is the same. -/
theorem Abreast.memberBlock?_of_twin (starts : twin.atDeclaration = true) :
    twin.memberBlock? = cursor.memberBlock? := by
  have inside : twin.kind ≠ .endOfText := by
    intro atEnd
    simp [atDeclaration, atMemberStart, atVariableStart,
      atTypeStart, atEnd, Kind.isTypeKeyword] at starts
  have same := abreast.kind_eq_of_ne inside
  have variableStart (unseen : twin.atMemberStart = false) :
      cursor.atTypeStart = true ∧ cursor.kindAfterType = .identifier := by
    rw [atDeclaration, unseen, Bool.false_or, atVariableStart,
      Bool.and_eq_true, decide_eq_true_eq] at starts
    have named := abreast.kindAfterType_of_ne starts.2 (by decide) (by decide)
    refine ⟨?_, named⟩
    rw [atTypeStart, same]
    exact starts.1
  have member : twin.atMemberStart = cursor.atMemberStart := by
    cases seen : twin.atMemberStart with
    | true => exact (abreast.atMemberStart_of_twin seen).symm
    | false =>
      obtain ⟨typed, named⟩ := variableStart seen
      unfold atMemberStart
      rw [typed, named]
      unfold atTypeStart at typed
      split
      case h_7 => rfl
      all_goals
        rename_i found
        rw [found] at typed
        cases typed
  have function : twin.atFunctionStart = cursor.atFunctionStart := by
    cases seen : twin.atFunctionStart with
    | true => exact (abreast.atFunctionStart_of_twin seen).symm
    | false =>
      symm
      rw [Bool.eq_false_iff]
      intro starts
      have more : row ≠ [] :=
        List.ne_nil_of_length_pos (abreast.lt_of_kindAt inside)
      obtain ⟨_, unseen⟩ :=
        abreast.atMemberStart_of_atFunctionStart more starts seen
      obtain ⟨_, named⟩ := variableStart unseen
      rw [atFunctionStart, same, named] at starts
      rw [atFunctionStart, Bool.or_eq_false_iff] at seen
      simp [seen.1] at starts
  unfold memberBlock?
  rw [same, member, function]

end Abreast

end Cut

open Cut

variable {outer : List Opening}

/-! ## The parts of a line -/

def Reader.keepStatement (statements : List Statement) :
    Except Diagnostic (Option Statement) → Recovery (Step (List Statement))
  | .ok (some found) => return .again (statements ++ [found])
  | .ok none => return .again statements
  | .error diagnostic => do
      report diagnostic
      synchronize
      return .again statements

def Reader.lineOfBody (body : Block → Recovery (List Statement)) (block : Block)
    (statements : List Statement) : Recovery (Step (List Statement)) := do
  let cursor ← get
  let kind := cursor.kind
  if kind = .endOfText || block.closedBy kind || cursor.atMemberStart then
    return .done statements
  else if kind.isBlockTerminator then
    if cursor.isClosedBy kind then
      return .done statements
    else
      let token ← advance
      complain token.span.start (.strayTerminator kind)
      return .again statements
  else if kind = .docComment then
    let _ ← advance
    return .again statements
  else
    keepStatement statements (← (statement body).run)

namespace Recovery

open Reader

/-! ## Reports of open blocks -/

/-- At the end of what is kept, the innermost open block is reported. -/
theorem unwinds_reportUnterminated
    {opening : Opening} (spent : cut.Spent (opening :: outer) twin) :
    (reportUnterminated opening.block opening.keyword).Unwinds cut
      (fun _ => outer) twin := by
  show cut.Spent outer (twin.report ⟨opening.keyword.span.start,
    .unterminated opening.block opening.keyword.span.start.line twin.kind⟩)
  rw [spent.atEnd]
  exact spent.report

/-- The line of a further arm opens and closes nothing. -/
theorem behind_arm {first : Token} (opens : cut.Opens outer (first :: row))
    (arm : first.kind = .keyword .elseIf ∨ first.kind = .keyword .otherwise) :
    (∀ line newline more, row = line ++ newline :: more → OneLine line →
      newline.kind = .newline → cut.Opens outer more) ∧
      (OneLine row → cut.goal = outer) := by
  have shape : cut.Opens outer ([first] ++ row) := opens
  have inLine : first.kind.endsLine = false := by
    rcases arm with found | found <;> rw [found] <;> rfl
  apply shape.behind_plain (List.forall_mem_singleton.2 inLine)
  · intro line first more same
    obtain ⟨rfl, _⟩ := List.cons.inj same
    refine ⟨?_, fun block => ?_⟩
    · rcases arm with found | found <;> rw [found] <;> nofun
    · rcases arm with found | found <;> rw [found] <;> cases block <;> nofun
  · intro line
    rcases arm with found | found <;>
      simp [Opening.ofLine?, found, Kind.isTypeKeyword]

section Body

variable {body : Block → Recovery (List Statement)}
  (carries : ∀ block stack, (body block).Carries cut stack fun _ => stack)
  (travels : ∀ block cursor, (body block).Travels cursor)

/-! ## Conditionals and loops -/

include carries travels in
/-- An arm leaves the conditional open, and the end of it closes it. -/
theorem carries_nextArm (keyword : Token) (arms : Reader.Arms) :
    (nextArm body keyword arms).Carries cut
      (⟨.conditional, keyword⟩ :: outer)
      (Step.opened (⟨.conditional, keyword⟩ :: outer) outer) where
  grows cursor := (proceeds_nextArm travels keyword arms cursor).travels.grows
  tears := by
    rintro cursor twin atLine
    apply Tears.look (by simp only [atLine.kind])
    obtain ⟨row, more, opens, abreast⟩ := atLine
    obtain ⟨first, row, rfl⟩ := List.exists_cons_of_ne_nil more
    have here := abreast.kind.1
    split
    · rename_i found
      obtain ⟨whole, last⟩ := behind_arm opens (.inl (here.symm.trans found))
      apply Tears.take abreast
      unfold reportElseIfAfterElse
      split
      · apply Tells.tears
        apply (tells_complain _ _).bind
        intro _ middle
        apply (travels_condition _ middle).grows.bind
        intro _ middle
        exact (travels _ middle).grows.bind fun _ _ => .pure _
      · rw [pure_bind]
        have condition : (Reader.condition "'ElseIf' condition").Tears cut
            (fun _ => ⟨.conditional, keyword⟩ :: outer) cursor.next
            twin.next := by
          apply tears_condition _ abreast.next whole
          exact fun oneLine _ atEnd silent =>
            .of_goal atEnd silent (last oneLine)
        apply condition.carry
        intro found
        apply (carries _ _).bind
        intro inside
        exact .look (fun atLine => by simp only [atLine.spanFrom])
          fun _ => .again _
    · rename_i found
      obtain ⟨whole, last⟩ := behind_arm opens (.inr (here.symm.trans found))
      apply Tears.take abreast
      have ended : (finishLine "'Else'").Tears cut
          (fun _ => ⟨.conditional, keyword⟩ :: outer) cursor.next
          twin.next := by
        apply tears_finishLine _ abreast.next
        · intro newline more same breaks
          exact whole [] newline more same (List.forall_mem_nil _) breaks
        · rintro rfl
          exact last (List.forall_mem_nil _)
      apply ended.carry
      intro _
      apply (carries _ _).bind
      intro inside
      split
      · exact (Carries.of_tells (fun _ => tells_complain _ _)
          fun _ => travels_complain rfl _).bind fun _ => .again _
      · exact .again _
    · rename_i found
      apply Tears.take abreast
      exact (tears_terminator _ opens abreast.next
        (here.symm.trans found)).carry fun _ => .done _
    · exact Tells.tears ((tells_reportUnterminated _ _).bind fun _ _ => .pure _)
  unwinds := by
    intro twin spent
    apply Unwinds.get
    rw [spent.atEnd]
    exact (unwinds_reportUnterminated spent).bind fun _ _ spent => .pure spent

include carries travels in
/-- A conditional is read in both runs, or reported where the text is cut. -/
theorem tears_conditionalStatement
    {keyword : Token} (opens : cut.Opens outer (keyword :: row))
    (abreast : cut.Abreast (keyword :: row) cursor twin)
    (found : keyword.kind = .keyword .ifThen) :
    (conditionalStatement body).Tears cut (fun _ => outer) cursor
      twin := by
  let opening : Opening := ⟨.conditional, keyword⟩
  have condition : (Reader.condition "'If' condition").Tears cut
      (fun _ => opening :: outer) cursor.next twin.next := by
    apply tears_openingCondition _ opens abreast.next
    · rw [found]
      rfl
    · exact isPlain_of_kind (by rw [found]; nofun) (by rw [found]; rfl)
    · intro line
      simp [Opening.ofLine?, opening, found]
  apply Tears.take abreast
  apply condition.carry
  intro value
  apply (carries _ _).bind
  intro inside
  apply Carries.look fun atLine => by simp only [atLine.spanFrom]
  intro place
  apply Carries.loop_bind (proceeds_nextArm travels keyword)
    (carries_nextArm carries travels keyword)
  intro arms
  split
  · exact .look (fun atLine => by simp only [atLine.spanFrom])
      fun _ => .pure _
  · exact .pure _

/-- The end of a loop closes it. -/
theorem carries_endOfLoop (keyword : Token) :
    (endOfLoop keyword).Carries cut (⟨.loop, keyword⟩ :: outer)
      fun _ => outer where
  grows cursor := (travels_endOfLoop keyword cursor).grows
  tears := by
    rintro cursor twin atLine
    apply Tears.look (by simp only [atLine.kind])
    obtain ⟨row, more, opens, abreast⟩ := atLine
    obtain ⟨first, row, rfl⟩ := List.exists_cons_of_ne_nil more
    split
    · rename_i found
      apply Tears.take abreast
      exact tears_terminator _ opens abreast.next
        (abreast.kind.1.symm.trans found)
    · exact (tells_reportUnterminated _ _).tears
  unwinds := by
    intro twin spent
    apply Unwinds.get
    rw [spent.atEnd]
    exact unwinds_reportUnterminated spent

include carries in
/-- A loop is read in both runs, or reported where the text is cut. -/
theorem tears_loopStatement
    {keyword : Token} (opens : cut.Opens outer (keyword :: row))
    (abreast : cut.Abreast (keyword :: row) cursor twin)
    (found : keyword.kind = .keyword .whileLoop) :
    (loopStatement body).Tears cut (fun _ => outer) cursor twin := by
  let opening : Opening := ⟨.loop, keyword⟩
  have condition : (Reader.condition "'While' condition").Tears cut
      (fun _ => opening :: outer) cursor.next twin.next := by
    apply tears_openingCondition _ opens abreast.next
    · rw [found]
      rfl
    · exact isPlain_of_kind (by rw [found]; nofun) (by rw [found]; rfl)
    · intro line
      simp [Opening.ofLine?, opening, found]
  apply Tears.take abreast
  apply condition.carry
  intro value
  apply (carries _ _).bind
  intro inside
  apply (carries_endOfLoop keyword).bind
  intro _
  split
  · exact .look (fun atLine => by simp only [atLine.spanFrom])
      fun _ => .pure _
  · exact .pure _

/-! ## Lines of a body -/

omit body in
/-- A broken statement in the last line takes everything along. -/
theorem unwinds_synchronizeAfter
    {α : Type} {stack : α → List Opening} {diagnostic : Diagnostic}
    (value : α) (within : cut.InLastLine twin)
    (other : diagnostic.cause.isUnterminated = false)
    (closes : ClosesNothing twin.budget) (goal : cut.goal = stack value) :
    Unwinds (do
      Reader.report diagnostic
      synchronize
      return value) cut stack twin := by
  have passes : synchronize.Ends (twin.report diagnostic) fun _ last =>
      cut.Spent (stack value) last :=
    ((within.report other).ends (travels_synchronize _)
      (behind_synchronizeAfter diagnostic value closes)).mono
        fun _ _ reached => .of_goal reached.1 reached.2 goal
  exact passes

/-- In the last line a statement opens nothing. -/
theorem unwinds_statementLine
    (statements : List Statement) (within : cut.InLastLine twin)
    (closes : ClosesNothing twin.budget) (notIf : twin.kind ≠ .keyword .ifThen)
    (notWhile : twin.kind ≠ .keyword .whileLoop) (goal : cut.goal = outer) :
    Unwinds ((statement body).run >>= keepStatement statements)
      cut (Step.opened outer outer) twin := by
  have same := @run_statement_of_line twin body notIf notWhile
  have reads := readsLine_lineStatement twin
  have ends : (statement body).Ends twin
      (fun _ last => last.kind = .endOfText ∧ last.unterminated = [])
      fun diagnostic last => (cut.InLastLine last ∧
        diagnostic.cause.isUnterminated = false) ∧ twin.Reaches last := by
    apply Reader.Ends.congr same
    apply Reader.Ends.mono ((reads.ends_last within).and (reads.travels twin).unsorted)
    · exact fun _ _ reached => reached.1
    · exact fun _ _ reached => ⟨reached.1, reached.2.1⟩
  apply Unwinds.run_bind ends
  · rintro found last ⟨atEnd, silent⟩
    have spent : cut.Spent outer last := .of_goal atEnd silent goal
    cases found <;> exact .pure spent
  · rintro diagnostic last ⟨⟨within, other⟩, reaches⟩
    exact unwinds_synchronizeAfter _ within other (closes.of_reaches reaches)
      goal

include carries travels in
/-- Both runs read a statement.  What is kept of one may be broken, but then
it is in the last line. -/
theorem tears_statement
    (opens : cut.Opens outer row) (abreast : cut.Abreast row cursor twin)
    (more : row ≠ []) (plain : IsPlain row)
    (noMember : cursor.atMemberStart = false)
    (noMemberToo : twin.atMemberStart = false) :
    (statement body).Tears cut (fun _ => outer)
      (fun diagnostic last =>
        cut.Breaks outer diagnostic last ∧ ClosesNothing last.budget)
      cursor twin := by
  have same := abreast.kind_eq more
  by_cases isIf : cursor.kind = .keyword .ifThen
  · have run {cursor : Cursor} (found : cursor.kind = .keyword .ifThen) :
        (statement body).run.run cursor =
          (liftM (conditionalStatement body) :
            Reader (Option Statement)).run.run cursor := by
      unfold statement
      rw [run_run_get_bind, found]
    obtain ⟨first, row, rfl⟩ := List.exists_cons_of_ne_nil more
    exact .congr (run isIf) (run (same.trans isIf)) <|
      .lift (tears_conditionalStatement carries travels opens abreast
        (abreast.kind.1.symm.trans isIf))
  by_cases isWhile : cursor.kind = .keyword .whileLoop
  · have run {cursor : Cursor} (found : cursor.kind = .keyword .whileLoop) :
        (statement body).run.run cursor =
          (liftM (loopStatement body) :
            Reader (Option Statement)).run.run cursor := by
      unfold statement
      rw [run_run_get_bind, found]
    obtain ⟨first, row, rfl⟩ := List.exists_cons_of_ne_nil more
    exact .congr (run isWhile) (run (same.trans isWhile)) <|
      .lift (tears_loopStatement carries opens abreast
        (abreast.kind.1.symm.trans isWhile))
  have notIf : twin.kind ≠ .keyword .ifThen := by rwa [same]
  have notWhile : twin.kind ≠ .keyword .whileLoop := by rwa [same]
  have here := @run_statement_of_line cursor body isIf isWhile
  have there := @run_statement_of_line twin body notIf notWhile
  have reads := readsLine_lineStatement cursor
  rcases abreast.cases_line with
    oneLine | ⟨line, newline, more, rfl, oneLine, breaks⟩
  · have goal := opens.goal_of_last oneLine plain abreast.there notIf notWhile
      noMemberToo
    intro value after ran silent
    rw [here] at ran
    have covered := closesNothing_lineStatement cursor cursor
    have passes := reads.passes cursor
    unfold Reader.Covers Reader.Ends Ends at covered
    unfold Reader.PassesLine Reader.Ends Ends at passes
    rw [ran] at covered passes
    have closes := abreast.closesNothing oneLine covered passes silent
    have readsToo := readsLine_lineStatement twin
    apply Reader.Ends.congr there
    apply ((readsToo.ends_last (abreast.inLastLine oneLine)).and
      (readsToo.travels twin)).mono
    · rintro found last ⟨⟨atEnd, same⟩, _⟩
      exact .inr (.of_goal atEnd same goal)
    · rintro diagnostic last ⟨⟨within, other⟩, reaches, _⟩
      exact ⟨⟨within, other, goal⟩, closes.of_reaches reaches.unsorted⟩
  · have amid := abreast.amid breaks
    have alike : lineStatement twin = lineStatement cursor := by
      unfold lineStatement
      rw [same, amid.atVariableStart]
    have opensMore := opens.plain oneLine breaks ?_
      (abreast.ofLine?_eq_none breaks isIf isWhile noMember)
    · rw [alike] at there
      exact .congr here there
        (reads.tears_within abreast oneLine breaks opensMore)
    · rintro first more rfl
      exact plain _ _ rfl

include carries travels in
/-- A statement of one line is read in both runs, or its line is the last. -/
theorem tears_statementLine
    (statements : List Statement) (opens : cut.Opens outer row)
    (abreast : cut.Abreast row cursor twin) (more : row ≠ [])
    (plain : IsPlain row) (noMember : cursor.atMemberStart = false)
    (noMemberToo : twin.atMemberStart = false) :
    Tears ((statement body).run >>= keepStatement statements)
      cut (Step.opened outer outer) cursor twin := by
  apply Tears.run_bind (tears_statement carries travels opens abreast more
    plain noMember noMemberToo)
  · intro found middle
    cases found <;> exact .pure _
  · exact fun _ _ => tells_synchronizeAfter _ _
  · intro found cursor twin atLine
    cases found <;> exact .pure atLine
  · intro found twin spent
    cases found <;> exact .pure spent
  · rintro diagnostic twin ⟨broken, closes⟩
    exact unwinds_synchronizeAfter _ broken.inLastLine broken.other closes
      broken.goal

/-- A line of a body stands behind the line breaks in front of it. -/
theorem bodyLine_eq (block : Block) (statements : List Statement) :
    bodyLine body block statements =
      (skipNewlines >>= fun _ =>
        lineOfBody body block statements) := by
  unfold bodyLine lineOfBody
  refine bind_congr fun _ => bind_congr fun cursor => ?_
  dsimp only
  split
  · rfl
  · split
    · rfl
    · split
      · rfl
      · refine bind_congr fun answer => ?_
        rcases answer with diagnostic | found
        · rfl
        · cases found <;> rfl

include travels in
theorem grows_statementLine (statements : List Statement) (cursor : Cursor) :
    Grows ((statement body).run >>= keepStatement statements)
      cursor := by
  apply Grows.run_bind (advances_statement travels cursor).travels
  intro answer middle
  unfold keepStatement
  split
  · exact .pure _
  · exact .pure _
  · exact grows_reportAndSynchronize _ _

omit body in
theorem ne_of_atDeclaration (starts : cursor.atDeclaration = true) :
    cursor.kind ≠ .docComment ∧ cursor.kind ≠ .keyword .ifThen ∧
      cursor.kind ≠ .keyword .whileLoop := by
  refine ⟨?_, ?_, ?_⟩ <;> intro found <;>
    simp [Cursor.atDeclaration, Cursor.atMemberStart, Cursor.atVariableStart,
      Cursor.atTypeStart, found, Kind.isTypeKeyword] at starts

omit body in
theorem atDeclaration_of_atMemberStart (starts : cursor.atMemberStart = true) :
    cursor.atDeclaration = true := by
  rw [Cursor.atDeclaration, starts, Bool.true_or]

omit body in
/-- What is kept of a declaration that cannot be told opens nothing. -/
theorem goal_of_unseen
    (opens : cut.Opens outer row) (abreast : cut.Abreast row cursor twin)
    (more : row ≠ []) (oneLine : OneLine row) (closes : ClosesNothing row)
    (starts : cursor.atDeclaration = true)
    (unseen : twin.atMemberStart = false) : cut.goal = outer := by
  obtain ⟨noDoc, notIf, notWhile⟩ := ne_of_atDeclaration starts
  rw [← abreast.kind_eq more] at noDoc notIf notWhile
  obtain ⟨first, row, rfl⟩ := List.exists_cons_of_ne_nil more
  rw [abreast.kind.2] at noDoc
  exact opens.goal_of_last oneLine
    (isPlain_of_kind noDoc (closes first List.mem_cons_self)) abreast.there
    notIf notWhile unseen

/-- What is kept of a member that follows the body is taken for a
statement. -/
theorem unwinds_unseenMember (block : Block) (statements : List Statement)
    (opens : cut.Opens outer row) (abreast : cut.Abreast row cursor twin)
    (more : row ≠ []) (starts : cursor.atMemberStart = true)
    (unseen : twin.atMemberStart = false) :
    (lineOfBody body block statements).Unwinds cut
      (Step.opened outer outer) twin := by
  obtain ⟨oneLine, closes⟩ := abreast.short_of_atMemberStart more starts unseen
  have starts := atDeclaration_of_atMemberStart starts
  have goal := goal_of_unseen opens abreast more oneLine closes starts unseen
  obtain ⟨noDoc, notIf, notWhile⟩ := ne_of_atDeclaration starts
  rw [← abreast.kind_eq more] at noDoc notIf notWhile
  obtain ⟨first, row, rfl⟩ := List.exists_cons_of_ne_nil more
  have here := abreast.kind.2
  have inside : twin.kind.isBlockTerminator = false := by
    rw [here]
    exact closes first List.mem_cons_self
  have notEnd : twin.kind ≠ .endOfText := by
    rw [here]
    exact abreast.ne_endOfText first List.mem_cons_self
  have notClosed : block.closedBy twin.kind = false := by
    rw [Bool.eq_false_iff]
    intro closed
    rw [isBlockTerminator_of_closedBy closed] at inside
    cases inside
  have closesToo : ClosesNothing twin.budget := by
    rw [abreast.there]
    exact closes.append (.of_kind cut.ends rfl)
  apply Unwinds.get
  dsimp only
  rw [inside, notClosed, unseen, if_neg (by simp [notEnd]),
    if_neg Bool.false_ne_true, if_neg noDoc]
  exact unwinds_statementLine statements (abreast.inLastLine oneLine) closesToo
    notIf notWhile goal

include carries travels in
/-- A line of a body leaves open what was open in front of it. -/
theorem carries_bodyLine (block : Block) (statements : List Statement) :
    (bodyLine body block statements).Carries cut outer
      (Step.opened outer outer) := by
  rw [bodyLine_eq]
  apply carries_skipNewlines.bind
  intro _
  constructor
  · intro cursor
    apply Grows.get
    dsimp only
    split
    · exact .pure _
    · split
      · split
        · exact .pure _
        · apply grows_advance.bind
          intro token middle
          exact (travels_complain rfl _).grows.bind fun _ _ => .pure _
      · split
        · exact grows_advance.bind fun _ _ => .pure _
        · exact grows_statementLine travels statements cursor
  · rintro cursor twin atLine
    obtain ⟨row, more, opens, abreast⟩ := id atLine
    by_cases same : twin.atMemberStart = cursor.atMemberStart
    · apply Tears.look (by
        simp only [atLine.kind, same, Cursor.isClosedBy, abreast.openBlocks]
        rfl)
      dsimp only
      split
      · exact .pure atLine
      · rename_i going
        obtain ⟨first, row, rfl⟩ := List.exists_cons_of_ne_nil more
        have here := abreast.kind.1
        split
        · split
          · exact .pure atLine
          · apply Tears.take abreast
            exact Tells.tears ((tells_complain _ _).bind fun _ _ => .pure _)
        · rename_i inside
          split
          · rename_i doc
            apply Tears.take abreast
            exact fun _ => .of_opens (opens.docComment (here.symm.trans doc))
              abreast.next
          · rename_i noDoc
            have noMember : cursor.atMemberStart = false := by
              simp only [Bool.or_eq_true, not_or, Bool.not_eq_true] at going
              exact going.2
            apply tears_statementLine carries travels statements opens abreast
              more ?_ noMember (same.trans noMember)
            apply isPlain_of_kind
            · rwa [← here]
            · rw [← here]
              exact Bool.eq_false_iff.2 inside
    · -- a member starts here, but too little of it is kept to tell
      have unseen : twin.atMemberStart = false := by
        rw [Bool.eq_false_iff]
        intro seen
        exact same (seen.trans (abreast.atMemberStart_of_twin seen).symm)
      have starts : cursor.atMemberStart = true := by
        by_contra none
        exact same (unseen.trans (Bool.eq_false_iff.2 none).symm)
      apply Unwinds.tears
      exact unwinds_unseenMember block statements opens abreast more starts
        unseen
  · intro twin spent
    apply Unwinds.get
    dsimp only
    rw [spent.atEnd, if_pos (by simp)]
    exact .pure spent

end Body

/-- A body carries the runs to its end, and opens and closes nothing. -/
theorem carries_body (block : Block) (stack : List Opening) :
    (Reader.body block).Carries cut stack fun _ => stack := by
  have within (bound : List Token) : ∀ block stack,
      (bodyWithin bound block).Carries cut stack fun _ => stack := by
    induction bound with
    | nil => exact fun _ _ => .pure []
    | cons _ bound ih =>
      intro block stack
      apply Carries.inBlock
      exact .loop (proceeds_bodyLine (travels_bodyWithin bound) block)
        (carries_bodyLine ih (travels_bodyWithin bound)
          block) []
  constructor
  · exact fun cursor => (travels_body block cursor).grows
  · intro cursor twin atLine
    have agree := @agreeWithin_body (cursor.budget ++ twin.budget) block
    apply Tears.congr (agree cursor ?_).symm (agree twin ?_).symm
      ((within _ block stack).tears atLine)
    · simp
    · simp
  · intro twin spent
    have unwinds := (within twin.budget block stack).unwinds spent
    unfold Unwinds Ends at unwinds ⊢
    rw [run_body_eq]
    exact unwinds

end Recovery

end PapyrusScript
