import PapyrusScript.Proofs.Detour
import PapyrusScript.Proofs.Extent.Statement

/-!
# Bodies around a broken line

The bodies, conditionals and loops around the place where two texts differ
cross it.  The induction is on the tokens that are left: a nested body starts
behind the keyword that opens it.
-/

namespace PapyrusScript

open Cursor

variable {α : Type} {detour : Detour} {cursor twin : Cursor}

/-! ## Where nothing is reported, nothing is left out -/

namespace Recovery

theorem Covers.of_silent {reader : Recovery α} {fact : α → List Token → Prop}
    (covers : reader.Covers cursor fact) :
    reader.Ends cursor fun value after =>
      after.reported = [] → ∃ row, fact value row := by
  apply Ends.mono covers
  intro value after covered silent
  obtain ⟨rendering, _, holds⟩ := covered.holds (by rw [silent]; simp)
  exact ⟨_, holds⟩

theorem isSome_condition (context : String) (cursor : Cursor) :
    (Reader.condition context).Ends cursor fun found after =>
      after.reported = [] → ∃ value, found = some value := by
  apply (fills_condition context).of_silent.mono
  intro found after covered silent
  obtain ⟨_, value, _, _, present, _⟩ := covered silent
  exact ⟨value, present⟩

theorem isSome_statement (cursor : Cursor) :
    (Reader.statement Reader.body).Ends cursor
      (fun found after => after.reported = [] →
        ∃ statement, found = some statement)
      fun _ _ => True := by
  have covers : (Reader.statement Reader.body).Covers cursor _ :=
    fills_statement travels_body fun _ _ => fills_body _
  apply Reader.Ends.mono covers
  · intro found after covered silent
    obtain ⟨_, _, statement, present, _⟩ := covered.holds (by rw [silent]; simp)
    exact ⟨statement, present⟩
  · exact fun _ _ _ => trivial

end Recovery

namespace Detour

open Recovery

variable {inside other : List Statement} {step : α → Recovery (Step α)}

/-! ## What a nested body adds -/

theorem ArmsLacking.add {arms : Reader.Arms} (early : arms.otherwise = none)
    (lacking : detour.Lacking inside other) (value : Expression)
    (span twinSpan : Span) :
    detour.ArmsLacking (arms.add (some value) inside span)
      (arms.add (some value) other twinSpan) := by
  obtain ⟨rest, lacks, same⟩ := lacking
  rw [Reader.Arms.add_of_early early, Reader.Arms.add_of_early early]
  refine .inl ⟨_, .branch arms.branches [] lacks, ⟨?_, rfl, rfl⟩⟩
  have front : SameBy (List.map Statement.bareBranch) arms.branches
      arms.branches :=
    rfl
  exact front.concat (congrArg (Branch.mk value.bare · .nowhere) same)

theorem ArmsLacking.conclude
    (lacking : detour.Lacking inside other) (arms : Reader.Arms) :
    detour.ArmsLacking { arms with otherwise := some inside }
      { arms with otherwise := some other } := by
  obtain ⟨rest, lacks, same⟩ := lacking
  exact .inl ⟨_, .otherwise arms.branches lacks, rfl, same.some, rfl⟩

/-- A conditional of which an arm lacks something lacks it too, and one that
misses an arm is missing. -/
theorem ArmsLacking.lackingIn
    {arms twin : Reader.Arms} (lacking : detour.ArmsLacking arms twin)
    (complete : arms.complete = true) (span twinSpan : Span) :
    detour.LackingIn
      (some (.conditional arms.branches arms.otherwise span))
      (if twin.complete then
        some (.conditional twin.branches twin.otherwise twinSpan)
      else
        none) := by
  rintro _ ⟨⟩
  rcases lacking with ⟨edited, changed, same⟩ | broken
  · rw [same.complete, changed.complete, if_pos complete]
    have inside : Statement.Lacks detour.gone
        (.conditional arms.branches arms.otherwise span)
        (.conditional edited.branches edited.otherwise span) := by
      cases changed with
      | branch earlier later within => exact .branch earlier later within
      | otherwise branches within => exact .otherwise branches within
    refine ⟨_, .within [] [] inside, ?_⟩
    have whole := same.conditional span twinSpan
    unfold SameBy at *
    rw [Statement.bareBody_eq_map, Statement.bareBody_eq_map]
    exact congrArg (fun statement => [statement]) whole
  · rw [broken.incomplete]
    exact ⟨[], .here [] [] (broken.gone span), rfl⟩

theorem grows_endedArms
    (keyword : Token) (arms : Reader.Arms) (cursor : Cursor) :
    (Reader.endedArms keyword arms).Grows cursor := by
  unfold Reader.endedArms
  split <;> exact .pure _

/-- What is made of the arms of a conditional behind its end. -/
theorem matches_endedArms
    {arms twin : Reader.Arms} (lacking : detour.ArmsLacking arms twin)
    (keyword twinKeyword : Token) {pairing : Pairing} :
    (Reader.endedArms keyword arms).Matches pairing
      (Reader.endedArms twinKeyword twin) detour.LackingIn := by
  intro cursor cursorTwin alike
  by_cases complete : arms.complete = true
  · have whole := lacking.lackingIn complete
      (cursor.spanFrom keyword.span.start)
      (cursorTwin.spanFrom twinKeyword.span.start)
    simp only [Reader.endedArms, if_pos complete]
    split at whole
    · rename_i twinComplete
      simp only [if_pos twinComplete]
      exact ⟨whole, alike⟩
    · rename_i broken
      simp only [if_neg broken]
      exact ⟨whole, alike⟩
  · simp only [Reader.endedArms, if_neg complete]
    have nothing (twin : Option Statement) : detour.LackingIn none twin := nofun
    split <;> exact ⟨nothing _, alike⟩

/-- Behind the broken line the arms are read in the same way. -/
theorem matches_conditionalArms
    {pairing : Pairing} (grow : ArmsGrow pairing detour.ArmsLacking)
    {keyword twinKeyword : Token}
    (opens : pairing.Still → twinKeyword.span = keyword.span)
    {arms twinArms : Reader.Arms}
    (lacking : detour.ArmsLacking arms twinArms) :
    (Reader.conditionalArms keyword arms).Matches pairing
      (Reader.conditionalArms twinKeyword twinArms) detour.LackingIn := by
  apply Matches.get
  intro cursor twin alike
  apply (Matches.loop (fun _ _ => matches_nextArm matches_body grow opens)
    alike.length lacking).bind
  exact fun _ _ lacking => matches_endedArms lacking _ _

theorem LackingIn.loop
    (lacking : detour.Lacking inside other) (condition : Expression)
    (span twinSpan : Span) :
    detour.LackingIn (some (.loop condition inside span))
      (some (.loop condition other twinSpan)) := by
  rintro _ ⟨⟩
  obtain ⟨rest, lacks, same⟩ := lacking
  refine ⟨_, .within [] [] (.loop lacks), ?_⟩
  exact congrArg (fun body => [Statement.loop condition.bare body .nowhere])
    same

/-! ## Where the texts differ -/

theorem Stands.leave
    (stands : detour.Stands cursor twin) (passable : detour.Passable) :
    detour.Stands cursor.leave twin.leave := by
  rcases stands with amid | through
  · exact .inl amid.leave
  · exact .inr (passable.leave cursor twin through)

/-- A comment stands where the texts differ, or the first token there. -/
theorem Passable.cases_budget
    (passable : detour.Passable) (faces : detour.fork.Faces [] cursor twin) :
    cursor.kind = .docComment ∨
      cursor.budget = detour.first :: detour.more := by
  have here : cursor.budget = detour.docs ++ detour.first :: detour.more :=
    faces.here
  cases docs : detour.docs with
  | nil =>
    rw [docs] at here
    exact .inr here
  | cons token others =>
    rw [docs] at here
    rw [kind_of_budget here]
    exact .inl (passable.commented token (by simp [docs]))

theorem Passable.kind_ne_newline
    (passable : detour.Passable) (faces : detour.fork.Faces [] cursor twin) :
    cursor.kind ≠ .newline := by
  have starts := passable.starts
  rcases passable.cases_budget faces with doc | here
  · rw [doc]
    nofun
  · rw [kind_of_budget here]
    intro breaks
    simp [breaks] at starts

theorem Passable.kind_twin_ne_newline
    (passable : detour.Passable) (faces : detour.fork.Faces [] cursor twin) :
    twin.kind ≠ .newline := by
  have there : twin.budget = detour.other := faces.there
  have starts := passable.otherStarts
  cases other : detour.other with
  | nil => rw [other] at starts; exact starts.elim
  | cons token rest =>
    rw [other] at there starts
    rw [kind_of_budget there]
    exact starts

/-- Behind line breaks the runs stand on the same token, or where the texts
differ. -/
theorem agrees_skipNewlines
    (passable : detour.Passable) (along : detour.fork.Along cursor twin) :
    Reader.skipNewlines.Agrees cursor twin fun _ after twinAfter =>
      detour.fork.Faces [] after twinAfter ∨
        detour.fork.Amid after twinAfter ∧ after.kind ≠ .newline := by
  refine Agrees.loop (fun _ => detour.fork.Along) proceeds_passNewline ?_ along
  rintro value cursor twin ⟨row, faces⟩
  cases row with
  | nil =>
    have here := run_passNewline_of_ne (passable.kind_ne_newline faces)
    have there := run_passNewline_of_ne (passable.kind_twin_ne_newline faces)
    exact .congr here there (.pure (.inl faces))
  | cons token row =>
    have amid : detour.fork.Amid cursor twin := ⟨_, List.cons_ne_nil _ _, faces⟩
    apply Agrees.look (by simp only [amid.kind])
    split
    · rename_i found
      exact .take amid (.pure (amid.next_along (by simp [found])))
    · rename_i other
      exact .pure (.inr ⟨amid, other⟩)

/-! ## Line by line -/

def SkipsNewlines (step : α → Recovery (Step α)) : Prop :=
  ∀ value cursor, (step value).run cursor =
    (step value).run (Reader.skipNewlines.run cursor).2

theorem run_loop_of_skips
    (proceeds : ∀ value cursor, (step value).Proceeds cursor)
    (skips : SkipsNewlines step) (value : α) (cursor : Cursor) :
    (get >>= fun cursor => loop step cursor.budget value).run cursor =
      (get >>= fun cursor => loop step cursor.budget value).run
        (Reader.skipNewlines.run cursor).2 := by
  rw [run_loop proceeds, run_loop proceeds, skips]

/-- What is known of the first run is kept by line breaks and by steps. -/
structure Kept
    (step : α → Recovery (Step α)) (known : α → Cursor → Prop) : Prop where
  skip : ∀ value cursor, known value cursor →
    known value (Reader.skipNewlines.run cursor).2
  step : ∀ value cursor, known value cursor →
    (step value).Ends cursor fun decision after =>
      ∀ following, decision = .again following → known following after

theorem kept_nothing (step : α → Recovery (Step α)) :
    Kept step fun _ _ => True where
  skip _ _ _ := trivial
  step _ _ _ := ends_of_forall fun _ _ _ _ => trivial

theorem kept_of_grows
    (size : Nat) (grows : ∀ value cursor, (step value).Grows cursor) :
    Kept step fun _ cursor => cursor.budget.length ≤ size where
  skip _ cursor fits := by
    have shrinks : _ ≤ _ := (travels_skipNewlines cursor).grows.budget
    exact Nat.le_trans shrinks fits
  step value cursor fits := by
    apply (grows value cursor).mono
    exact fun _ _ shrinks _ _ => Nat.le_trans shrinks.budget fits

/-- What is read line by line crosses the broken line if each line does, and
if it does so from the place where the texts differ. -/
theorem crosses_lines
    {known : α → Cursor → Prop} {post : α → Cursor → Cursor → Prop}
    {behind : α → α → Prop} (passable : detour.Passable)
    (proceeds : ∀ value cursor, (step value).Proceeds cursor)
    (skips : SkipsNewlines step) (kept : Kept step known)
    (lines : ∀ value cursor twin, known value cursor →
      detour.fork.Amid cursor twin → cursor.kind ≠ .newline →
        (step value).Crosses detour.failure cursor twin
          (Step.Parts (fun _ => detour.fork.Along) post)
          (Step.Decides behind))
    (door : ∀ value cursor twin, cursor.reported = [] → known value cursor →
      detour.fork.Faces [] cursor twin →
        Crosses (get >>= fun cursor => loop step cursor.budget value)
          detour.failure cursor twin post behind)
    (onBehind : ∀ value other, behind value other → ∀ news,
      (step value).Matches (.valid news) (step other) (Step.Decides behind))
    (value : α) (holds : known value cursor)
    (along : detour.fork.Along cursor twin) :
    Crosses (get >>= fun cursor => loop step cursor.budget value)
      detour.failure cursor twin post behind := by
  refine Crosses.loop proceeds (fun value cursor twin =>
    known value cursor ∧ detour.fork.Along cursor twin) ?_ onBehind
    ⟨holds, along⟩
  rintro value cursor twin - ⟨holds, along⟩
  have knownBehind := kept.skip value cursor holds
  obtain ⟨-, faces | ⟨amid, other⟩⟩ := agrees_skipNewlines passable along
  · right
    apply Crosses.congr ?_ (run_loop_of_skips proceeds skips value cursor)
      (run_loop_of_skips proceeds skips value twin)
    apply Crosses.of_silent
    · exact .get (travels_loop proceeds _ value _).grows
    · exact fun silent => door value _ _ silent knownBehind faces
  · left
    have line := lines value _ _ knownBehind amid other
    apply Crosses.mono ((line.congr (skips value cursor)
      (skips value twin)).and_ends (kept.step value cursor holds))
    · rintro (following | final) after twinAfter _ ⟨along, next⟩
      · exact ⟨next following rfl, along⟩
      · exact along
    · exact fun _ _ holds => holds.1

/-! ## Bodies with fewer tokens -/

def BodiesCross (detour : Detour) (size : Nat) : Prop :=
  ∀ block cursor twin, cursor.budget.length < size →
    detour.fork.Along cursor twin →
      (Reader.body block).Crosses detour.failure cursor twin
        (fun _ => detour.Stands) detour.Lacking

/-- The runs end in what they have in common, with fewer tokens left. -/
def AlongWithin (detour : Detour) (size : Nat) (cursor twin : Cursor) : Prop :=
  detour.fork.Along cursor twin ∧ cursor.budget.length < size

def StandsWithin (detour : Detour) (size : Nat) (cursor twin : Cursor) : Prop :=
  detour.Stands cursor twin ∧ cursor.budget.length ≤ size

variable {size : Nat}

theorem StandsWithin.lastEnd (stands : detour.StandsWithin size cursor twin)
    (passable : detour.Passable) : twin.lastEnd = cursor.lastEnd := by
  rcases stands.1 with amid | through
  · exact amid.lastEnd
  · exact passable.lastEnd cursor twin through

theorem length_next_lt (inside : cursor.kind ≠ .endOfText)
    (fits : cursor.budget.length ≤ size) : cursor.next.budget.length < size := by
  rw [budget_eq_cons_next inside, List.length_cons] at fits
  exact fits

/-- A reader stays within what the texts have in common. -/
theorem crosses_within {reader : Recovery α}
    (agrees : reader.Agrees cursor twin fun _ => detour.fork.Along)
    (travels : reader.Travels cursor) (fewer : cursor.budget.length < size) :
    reader.Crosses detour.failure cursor twin
      (fun _ => detour.AlongWithin size) fun _ _ => False := by
  intro _
  obtain ⟨same, along⟩ := agrees
  have shrinks : _ ≤ _ := travels.grows.budget
  exact .inl ⟨same, along, Nat.lt_of_le_of_lt shrinks fewer⟩

theorem crosses_condition
    (amid : detour.fork.Amid cursor twin) (fewer : cursor.budget.length < size)
    (context : String) :
    (Reader.condition context).Crosses detour.failure cursor twin
      (fun found after twinAfter => (∃ value, found = some value) ∧
        detour.AlongWithin size after twinAfter)
      fun _ _ => False := by
  have crosses := (crosses_within (agrees_condition amid context)
    (travels_condition context cursor) fewer).and_ends
      (isSome_condition context cursor)
  apply crosses.mono
  · exact fun _ _ _ silent known => ⟨known.2 silent, known.1⟩
  · exact fun _ _ behind => behind.1

theorem BodiesCross.body (bodies : detour.BodiesCross size) (block : Block)
    (along : detour.AlongWithin size cursor twin) :
    (Reader.body block).Crosses detour.failure cursor twin
      (fun _ => detour.StandsWithin size) detour.Lacking := by
  intro silent
  have shrinks : _ ≤ _ := (travels_body block cursor).grows.budget
  rcases bodies block cursor twin along.2 along.1 silent with
    ⟨same, stands⟩ | joined
  · exact .inl ⟨same, stands, Nat.le_trans shrinks (Nat.le_of_lt along.2)⟩
  · exact .inr joined

/-- The end of a loop is the same in both texts. -/
theorem crosses_endOfLoop (passable : detour.Passable) (opener : Token)
    (stands : detour.StandsWithin size cursor twin) :
    (Reader.endOfLoop opener).Crosses detour.failure cursor twin
      (fun _ => detour.fork.Along) fun _ _ => False := by
  rcases stands.1 with amid | through
  · apply Crosses.look (by simp only [amid.kind])
    split
    · rename_i found
      have next := amid.next (by rw [found]; rfl)
      exact .take amid (agrees_finishLine next _).crosses
    · exact (tells_reportUnterminated _ _).crosses
  · have tells : (Reader.endOfLoop opener).Tells cursor := by
      unfold Reader.endOfLoop Tells
      rw [ends_bind, ends_get, if_neg (by
        rw [passable.elseIf cursor twin through]
        nofun)]
      exact tells_reportUnterminated _ _
    exact tells.crosses

/-! ## Conditionals -/

section Bodies

variable (passable : detour.Passable) (bodies : detour.BodiesCross size)

include passable bodies

/-- An arm is read in both texts, or it is the one that is broken. -/
theorem crosses_nextArm
    (opener : Token) (arms : Reader.Arms) (silent : cursor.reported = [])
    (stands : detour.StandsWithin size cursor twin) :
    (Reader.nextArm Reader.body opener arms).Crosses detour.failure cursor twin
      (Step.Parts (fun _ => detour.StandsWithin size)
        fun _ => detour.fork.Along)
      (Step.Decides detour.ArmsLacking) := by
  obtain ⟨amid | through, fits⟩ := stands
  · apply Crosses.look (by simp only [amid.kind])
    split
    · rename_i found
      have next := amid.next (by rw [found]; rfl)
      have fewer := length_next_lt (by simp [found]) fits
      apply Crosses.take amid
      unfold Reader.reportElseIfAfterElse
      -- an ElseIf behind the Else is reported, so the accepted run has none
      split
      · apply Tells.crosses
        apply (tells_complain _ _).bind
        intro _ after
        apply (travels_condition _ after).grows.bind
        intro _ after
        apply (travels_body _ after).grows.bind
        exact fun _ _ => .pure _
      · rename_i early
        have noElse : arms.otherwise = none := by simpa using early
        rw [pure_bind]
        apply (crosses_condition next fewer _).bind
        · intro _ after
          apply (travels_body _ after).grows.bind
          exact fun _ _ => .pure _
        -- the broken line is in the body of this arm or in a later one
        · rintro _ after twinAfter - ⟨⟨value, rfl⟩, along⟩
          apply (bodies.body _ along).bind
          · exact fun _ _ => .pure _
          · intro inside after twinAfter _ stands
            apply Crosses.look (by
              simp only [Cursor.spanFrom, stands.lastEnd passable])
            exact .pure stands
          · intro inside other lacking _
            apply Matches.get
            intro _ _ _
            exact .pure (ArmsLacking.add noElse lacking value _ _)
        · exact fun _ _ behind => behind.elim
    · rename_i found
      have next := amid.next (by rw [found]; rfl)
      have fewer := length_next_lt (by simp [found]) fits
      apply Crosses.take amid
      apply (crosses_within (agrees_finishLine next _)
        (travels_finishLine _ _) fewer).bind
      · intro _ after
        apply (travels_body _ after).grows.bind
        intro _ after
        split
        · exact Cursor.grows_report _ _
        · exact .pure _
      · intro _ after twinAfter _ along
        by_cases closed : arms.otherwise.isSome = true
        · simp only [if_pos closed]
          apply Tells.crosses
          apply (travels_body _ after).grows.bind_tells
          intro _ after
          apply (tells_complain _ _).bind
          exact fun _ _ => .pure _
        · simp only [if_neg closed]
          apply (bodies.body _ along).bind
          · exact fun _ _ => .pure _
          · exact fun _ _ _ _ stands => .pure stands
          · exact fun _ _ lacking _ => .pure (ArmsLacking.conclude lacking arms)
      · exact fun _ _ behind => behind.elim
    · rename_i found
      have next := amid.next (by rw [found]; rfl)
      apply Crosses.take amid
      apply (agrees_finishLine next _).bindCrosses
      exact fun _ _ _ along => .pure along
    · apply Tells.crosses
      apply (tells_reportUnterminated _ _).bind
      exact fun _ _ => .pure _
  · apply (passable.inArms opener arms cursor twin silent through).mono
    · exact fun _ _ _ _ never => never.elim
    · exact fun _ _ holds => holds

omit passable bodies in
theorem grows_conditionalArms
    (keyword : Token) (arms : Reader.Arms) (cursor : Cursor) :
    (Reader.conditionalArms keyword arms).Grows cursor := by
  have proceeds := proceeds_nextArm travels_body keyword
  apply Grows.get
  apply (travels_loop proceeds cursor.budget arms cursor).grows.bind
  exact grows_endedArms keyword

/-- The arms of a conditional cross the line, or lose the whole of it. -/
theorem crosses_conditionalArms (keyword : Token) (arms : Reader.Arms)
    (stands : detour.StandsWithin size cursor twin) :
    (Reader.conditionalArms keyword arms).Crosses detour.failure cursor twin
      (fun _ => detour.fork.Along) detour.LackingIn := by
  have proceeds := proceeds_nextArm travels_body keyword
  apply Crosses.loop_bind (Crosses.loop proceeds
    (fun _ => detour.StandsWithin size)
    (fun arms _ _ silent stands =>
      .inl (crosses_nextArm passable bodies keyword arms silent stands))
    (fun _ _ lacking _ => matches_nextArm matches_body
      (armsGrow passable.widens) False.elim lacking) stands)
  · exact grows_endedArms keyword
  · intro arms after twinAfter _ along
    unfold Reader.endedArms
    split
    · exact .look (by simp only [along.spanFrom]) (.pure along)
    · exact .pure along
  · exact fun _ _ lacking _ => matches_endedArms lacking _ _

/-- A conditional crosses the line in one of its bodies. -/
theorem crosses_conditionalStatement (amid : detour.fork.Amid cursor twin)
    (found : cursor.kind = .keyword .ifThen)
    (fits : cursor.budget.length ≤ size) :
    (Reader.conditionalStatement Reader.body).Crosses detour.failure cursor
      twin (fun _ => detour.fork.Along) detour.LackingIn := by
  have next := amid.next (by rw [found]; rfl)
  have fewer := length_next_lt (by simp [found]) fits
  rw [Reader.conditionalStatement_body]
  apply Crosses.take amid
  apply (crosses_condition next fewer _).bind
  · intro _ after
    apply (travels_body _ after).grows.bind
    exact fun _ _ => .get (grows_conditionalArms _ _ _)
  · rintro _ after twinAfter - ⟨⟨value, rfl⟩, along⟩
    apply (bodies.body _ along).bind
    · exact fun _ _ => .get (grows_conditionalArms _ _ _)
    · intro inside after twinAfter _ stands
      apply Crosses.look (by
        simp only [Cursor.spanFrom, stands.lastEnd passable])
      exact crosses_conditionalArms passable bodies _ _ stands
    · intro inside other lacking _
      apply Matches.get
      intro _ _ _
      exact matches_conditionalArms (armsGrow passable.widens) False.elim
        (ArmsLacking.add rfl lacking value _ _)
  · exact fun _ _ behind => behind.elim

/-! ## Loops -/

/-- A loop crosses the line in its body. -/
theorem crosses_loopStatement (amid : detour.fork.Amid cursor twin)
    (found : cursor.kind = .keyword .whileLoop)
    (fits : cursor.budget.length ≤ size) :
    (Reader.loopStatement Reader.body).Crosses detour.failure cursor
      twin (fun _ => detour.fork.Along) detour.LackingIn := by
  have next := amid.next (by rw [found]; rfl)
  have fewer := length_next_lt (by simp [found]) fits
  apply Crosses.take amid
  apply (crosses_condition next fewer _).bind
  · intro condition after
    apply (travels_body _ after).grows.bind
    intro _ after
    apply (travels_endOfLoop _ after).grows.bind
    intro _ _
    split <;> exact .pure _
  · rintro _ after twinAfter - ⟨⟨value, rfl⟩, along⟩
    apply (bodies.body _ along).bind
    · intro _ after
      apply (travels_endOfLoop _ after).grows.bind
      exact fun _ _ => .pure _
    · intro inside after twinAfter _ stands
      apply (crosses_endOfLoop passable _ stands).bind
      · exact fun _ _ => .pure _
      · intro _ after twinAfter _ along
        apply Crosses.look (by simp only [along.spanFrom])
        exact .pure along
      · exact fun _ _ behind => behind.elim
    · intro inside other lacking _
      apply (matches_endOfLoop False.elim).bind
      intro _ _ _
      apply Matches.get
      exact fun _ _ _ => .pure (LackingIn.loop lacking value _ _)
  · exact fun _ _ behind => behind.elim

/-! ## Bodies -/

/-- A statement crosses the line in one of its bodies. -/
theorem crosses_statement (amid : detour.fork.Amid cursor twin)
    (fits : cursor.budget.length ≤ size) :
    (Reader.statement Reader.body).Crosses detour.failure cursor twin
      (fun _ => detour.fork.Along) detour.LackingIn := by
  apply Reader.Crosses.look (by simp only [amid.kind, amid.atVariableStart])
  split
  · rename_i found
    exact .lift (crosses_conditionalStatement passable bodies amid found fits)
  · rename_i found
    exact .lift (crosses_loopStatement passable bodies amid found fits)
  · apply Reader.Agrees.crosses
    exact .map (Reader.agrees_returnStatement amid)
  · split
    · apply Reader.Agrees.crosses
      exact .map (Reader.agrees_declareStatement amid)
    · apply Reader.Agrees.crosses
      exact .map (Reader.agrees_expressionStatement amid)

/-- A line of a body crosses the change, or it is the one that differs. -/
theorem crosses_bodyLine (block : Block) (statements : List Statement)
    (amid : detour.fork.Amid cursor twin) (other : cursor.kind ≠ .newline)
    (fits : cursor.budget.length ≤ size) :
    (Reader.bodyLine Reader.body block statements).Crosses detour.failure
      cursor twin
      (Step.Parts (fun _ => detour.fork.Along) fun _ => detour.Stands)
      (Step.Decides detour.Lacking) := by
  have otherToo : twin.kind ≠ .newline := by rwa [amid.kind]
  refine Crosses.congr ?_ (run_skipNewlines_bind_of_ne _ other)
    (run_skipNewlines_bind_of_ne _ otherToo)
  apply Crosses.look (by
    simp only [amid.kind, amid.atMemberStart, amid.along.isClosedBy])
  dsimp only
  split
  · exact .pure (.inl amid)
  · split
    · rename_i terminator
      split
      · exact .pure (.inl amid)
      · apply Crosses.take amid
        apply Tells.crosses
        exact (tells_complain _ _).bind fun _ _ => .pure _
    · split
      · rename_i found
        exact .take amid (.pure (amid.next (by rw [found]; rfl)).along)
      · have crosses := (crosses_statement passable bodies amid fits).and_ends
          (isSome_statement _)
        apply Crosses.run_bind crosses
        · intro answer after
          split
          · exact .pure _
          · exact .pure _
          · exact grows_reportAndSynchronize _ _
        · rintro found after twinAfter silent ⟨along, present⟩
          obtain ⟨statement, rfl⟩ := present silent
          exact .pure along
        · rintro found twinFound ⟨lacking, after, silent, present⟩ _
          obtain ⟨statement, rfl⟩ := present silent
          have whole := (lacking statement rfl).within statements
          cases twinFound with
          | none =>
            rw [Option.toList_none, List.append_nil] at whole
            exact .pure whole
          | some => exact .pure whole
        · exact fun _ _ => tells_synchronizeAfter _ _

/-- A body is read in both texts up to where they differ, and from there on
it is crossed. -/
theorem crosses_bodyLines (block : Block) (statements : List Statement)
    (fits : cursor.budget.length ≤ size)
    (along : detour.fork.Along cursor twin) :
    (Reader.bodyLines block statements).Crosses detour.failure cursor twin
      (fun _ => detour.Stands) detour.Lacking := by
  have proceeds := proceeds_bodyLine travels_body block
  refine crosses_lines passable proceeds
    (fun _ cursor => run_skipNewlines_bind _ cursor)
    (kept_of_grows size fun value cursor =>
      (proceeds value cursor).travels.grows)
    (fun statements _ _ fits amid other =>
      crosses_bodyLine passable bodies block statements amid other fits)
    (fun statements cursor twin silent _ faces => ?_)
    (fun _ _ lacking _ => matches_bodyLine matches_body
      (fun lacking same => lacking.concat same.known) block lacking) statements fits along
  exact (passable.inBody block statements cursor twin silent faces).mono
    (fun _ _ _ _ through => .inr through) fun _ _ holds => holds

end Bodies

/-- A body crosses the line, by induction on the tokens that are left. -/
theorem crosses_body (passable : detour.Passable) (size : Nat) :
    detour.BodiesCross size := by
  induction size with
  | zero => exact fun _ _ _ fewer => absurd fewer (Nat.not_lt_zero _)
  | succ size bodies =>
    intro block cursor twin fewer along
    have fits : (cursor.enter block).budget.length ≤ size :=
      Nat.le_of_lt_succ fewer
    have lines := crosses_bodyLines passable bodies block [] fits
      (along.enter block)
    apply Crosses.congr ?_ (run_body block cursor) (run_body block twin)
    apply Crosses.inBlock
    apply lines.mono
    · exact fun _ _ _ _ stands => stands.leave passable
    · exact fun _ _ holds => holds

end Detour

end PapyrusScript
