import PapyrusScript.Proofs.Crossing

/-!
# Trees and texts with a change in one place

`Statement.BodyLacks` says that statements are missing somewhere in a body, at
any depth, and that it is the same otherwise.  A function, an event, a
property, a state or a script is edited if one body in it has been exchanged.
What holds of the exchanged body is a parameter, so a tree in which something
is missing is one whose body lacks it.

Two texts are the same up to a place in a body, and there a line of the second
one is broken.  `Detour.Passable` says what the two runs do there: in a body,
and, where the place is in front of an arm of a conditional, among its arms.
Then the bodies, conditionals and loops around the place cross it.
-/

namespace PapyrusScript

section Trees

variable {α β : Type}

/-- Two lists are the same except for one item, which has been edited. -/
def OneOf (edit : α → α → Prop) (list edited : List α) : Prop :=
  ∃ front item other back,
    list = front ++ item :: back ∧ edited = front ++ other :: back ∧
      edit item other

def EditedUpTo (edit : α → α → Prop) (bare : α → β) (value twin : α) : Prop :=
  ∃ edited, edit value edited ∧ SameBy bare edited twin

theorem OneOf.surround
    {edit : α → α → Prop} {list edited : List α} (one : OneOf edit list edited)
    (front back : List α) :
    OneOf edit (front ++ (list ++ back)) (front ++ (edited ++ back)) := by
  obtain ⟨before, item, other, after, rfl, rfl, change⟩ := one
  exact ⟨front ++ before, item, other, after ++ back, by simp, by simp, change⟩

theorem OneOf.eq {edit : α → α → Prop} {list edited : List α}
    (same : ∀ item other, edit item other → other = item)
    (one : OneOf edit list edited) : edited = list := by
  obtain ⟨before, item, other, after, rfl, rfl, change⟩ := one
  rw [same item other change]

/-! ## Bodies -/

namespace Statement

variable {gone : List Statement → Prop} {body rest : List Statement}

mutual

/-- Some statements are missing from a body or from one inside it, and it is
the same otherwise. -/
inductive BodyLacks (gone : List Statement → Prop) :
    List Statement → List Statement → Prop
  | here {gap : List Statement} (front back : List Statement)
      (isGone : gone gap) :
      BodyLacks gone (front ++ (gap ++ back)) (front ++ back)
  | within {statement other : Statement} (front back : List Statement)
      (inside : Lacks gone statement other) :
      BodyLacks gone (front ++ statement :: back) (front ++ other :: back)

/-- The same for a statement with bodies. -/
inductive Lacks (gone : List Statement → Prop) : Statement → Statement → Prop
  | branch {body rest : List Statement} {condition : Expression}
      {place span : Span} {otherwise : Option (List Statement)}
      (earlier later : List (Branch Statement))
      (inside : BodyLacks gone body rest) :
      Lacks gone
        (.conditional (earlier ++ ⟨condition, body, place⟩ :: later)
          otherwise span)
        (.conditional (earlier ++ ⟨condition, rest, place⟩ :: later)
          otherwise span)
  | otherwise {body rest : List Statement} {span : Span}
      (branches : List (Branch Statement))
      (inside : BodyLacks gone body rest) :
      Lacks gone (.conditional branches (some body) span)
        (.conditional branches (some rest) span)
  | loop {body rest : List Statement} {condition : Expression} {span : Span}
      (inside : BodyLacks gone body rest) :
      Lacks gone (.loop condition body span) (.loop condition rest span)

end

theorem BodyLacks.surround
    (lacks : BodyLacks gone body rest) (front back : List Statement) :
    BodyLacks gone (front ++ (body ++ back)) (front ++ (rest ++ back)) := by
  cases lacks with
  | here before after isGone =>
    have whole := BodyLacks.here (front ++ before) (after ++ back) isGone
    simpa using whole
  | within before after inside =>
    have whole := BodyLacks.within (front ++ before) (after ++ back) inside
    simpa using whole

mutual

/-- Where nothing at all is missing, the body is the same. -/
theorem BodyLacks.eq {body rest : List Statement} :
    BodyLacks (· = []) body rest → rest = body
  | .here front back isGone => by rw [isGone, List.nil_append]
  | .within front back inside => by rw [inside.eq]

theorem Lacks.eq {statement other : Statement} :
    Lacks (· = []) statement other → other = statement
  | .branch _ _ inside => by rw [inside.eq]
  | .otherwise _ inside => by rw [inside.eq]
  | .loop inside => by rw [inside.eq]

end

end Statement

/-! ## Declarations -/

variable {change : List Statement → List Statement → Prop}

/-- A function with another body. -/
def Function.Edited (change : List Statement → List Statement → Prop)
    (tree edited : Function) : Prop :=
  ∃ body, change tree.body body ∧ edited = { tree with body }

/-- An event with another body. -/
def Event.Edited (change : List Statement → List Statement → Prop)
    (tree edited : Event) : Prop :=
  ∃ body, change tree.body body ∧ edited = { tree with body }

/-- A property with another body of one of its functions. -/
inductive PropertySource.Edited
    (change : List Statement → List Statement → Prop) :
    PropertySource → PropertySource → Prop
  | getter {tree edited : Function} (setter : Option Function)
      (inside : tree.Edited change edited) :
      Edited change (.full (some tree) setter) (.full (some edited) setter)
  | setter {tree edited : Function} (getter : Option Function)
      (inside : tree.Edited change edited) :
      Edited change (.full getter (some tree)) (.full getter (some edited))

/-- A member with another body. -/
inductive Member.Edited
    (change : List Statement → List Statement → Prop) : Member → Member → Prop
  | function {tree edited : Function} (inside : tree.Edited change edited) :
      Edited change (.function tree) (.function edited)
  | event {tree edited : Event} (inside : tree.Edited change edited) :
      Edited change (.event tree) (.event edited)
  | property {tree : Property} {source : PropertySource}
      (inside : tree.source.Edited change source) :
      Edited change (.property tree) (.property { tree with source })
  | state {tree : ScriptState} {events : List Event}
      (inside : OneOf (Event.Edited change) tree.events events) :
      Edited change (.state tree) (.state { tree with events })

/-- A script with another body of one of its functions or events. -/
def Script.Edited (change : List Statement → List Statement → Prop)
    (tree edited : Script) : Prop :=
  ∃ members, OneOf (Member.Edited change) tree.members members ∧
    edited = { tree with members }

section Unchanged

variable (same : ∀ body rest, change body rest → rest = body)

include same

theorem Function.Edited.eq {tree edited : Function}
    (changed : tree.Edited change edited) : edited = tree := by
  obtain ⟨body, inside, rfl⟩ := changed
  rw [same _ _ inside]

theorem Event.Edited.eq {tree edited : Event}
    (changed : tree.Edited change edited) : edited = tree := by
  obtain ⟨body, inside, rfl⟩ := changed
  rw [same _ _ inside]

theorem PropertySource.Edited.eq {tree edited : PropertySource}
    (changed : tree.Edited change edited) : edited = tree := by
  cases changed with
  | getter setter inside => rw [Function.Edited.eq same inside]
  | setter getter inside => rw [Function.Edited.eq same inside]

theorem Member.Edited.eq {tree edited : Member}
    (changed : tree.Edited change edited) : edited = tree := by
  cases changed with
  | function inside => rw [Function.Edited.eq same inside]
  | event inside => rw [Event.Edited.eq same inside]
  | property inside => rw [PropertySource.Edited.eq same inside]
  | state inside => rw [inside.eq fun _ _ => Event.Edited.eq same]

/-- A body that is exchanged for itself leaves the script as it is. -/
theorem Script.Edited.eq {tree edited : Script}
    (changed : tree.Edited change edited) : edited = tree := by
  obtain ⟨members, inside, rfl⟩ := changed
  rw [inside.eq fun _ _ => Member.Edited.eq same]

end Unchanged

end Trees

/-! ## Two texts that differ in a broken line -/

open Cursor

/-- Two texts behind what they have in common: comments and a first token in
one of them, and something else in the other. -/
structure Detour where
  docs : List Token
  first : Token
  more : List Token
  other : List Token
  failure : Diagnostic
  gone : List Statement → Prop
  through : Cursor → Cursor → Prop

/-- What has been read of a conditional lacks something in one of its
bodies. -/
inductive Reader.Arms.Edited
    (change : List Statement → List Statement → Prop) : Arms → Arms → Prop
  | branch {condition : Expression} {body rest : List Statement}
      {place : Span} {otherwise : Option (List Statement)} {complete : Bool}
      (earlier later : List (Branch Statement)) (inside : change body rest) :
      Edited change
        ⟨earlier ++ ⟨condition, body, place⟩ :: later, otherwise, complete⟩
        ⟨earlier ++ ⟨condition, rest, place⟩ :: later, otherwise, complete⟩
  | otherwise {body rest : List Statement} {complete : Bool}
      (branches : List (Branch Statement)) (inside : change body rest) :
      Edited change ⟨branches, some body, complete⟩
        ⟨branches, some rest, complete⟩

namespace Detour

variable (detour : Detour)

/-- What is left of the first text. -/
def rest : List Token := detour.docs ++ detour.first :: detour.more

/-- What the two texts have in common is in front of the place, and no end of
the text is there. -/
def fork : Fork where
  rest := detour.rest
  other := detour.other
  told := []
  toldOther := []
  known token := token.kind ≠ .endOfText

def change : List Statement → List Statement → Prop :=
  Statement.BodyLacks detour.gone

def Lacking : List Statement → List Statement → Prop :=
  EditedUpTo detour.change Statement.bareBody

/-- A statement of the first text, and what is found of it in the second. -/
def LackingIn (found twin : Option Statement) : Prop :=
  ∀ statement, found = some statement → detour.Lacking [statement] twin.toList

/-- The two runs of a body end in what they have in common, or in front of the
broken arm of a conditional. -/
def Stands (cursor twin : Cursor) : Prop :=
  detour.fork.Amid cursor twin ∨ detour.through cursor twin

/-- What has been read of a conditional of which the second text misses an
arm, and with it the whole. -/
structure Broken (arms twin : Reader.Arms) : Prop where
  incomplete : twin.complete = false
  isSome : twin.otherwise.isSome = arms.otherwise.isSome
  gone : ∀ span, detour.gone [.conditional arms.branches arms.otherwise span]

def ArmsLacking (arms twin : Reader.Arms) : Prop :=
  (∃ edited, arms.Edited detour.change edited ∧ edited.Same twin) ∨
    detour.Broken arms twin

end Detour

namespace Reader

def bodyLines (block : Block) (statements : List Statement) :
    Recovery (List Statement) := do
  loop (bodyLine body block) (← get).budget statements

def endedArms (keyword : Token) (arms : Arms) : Recovery (Option Statement) :=
  if arms.complete then do
    let span := (← get).spanFrom keyword.span.start
    return some (.conditional arms.branches arms.otherwise span)
  else
    return none

def conditionalArms
    (keyword : Token) (arms : Arms) : Recovery (Option Statement) := do
  let arms ← loop (nextArm body keyword) (← get).budget arms
  endedArms keyword arms

theorem conditionalStatement_body :
    conditionalStatement body = (do
      let keyword ← advance
      let found ← condition "'If' condition"
      let inside ← body .conditional
      let span := (← get).spanFrom keyword.span.start
      conditionalArms keyword
        ((Arms.mk [] none true).add found inside span)) :=
  rfl

end Reader

/-- What the two runs do where the texts differ. -/
structure Detour.Passable (detour : Detour) : Prop where
  commented : ∀ token ∈ detour.docs, token.kind = .docComment
  starts : detour.first.kind ∉
    [.newline, .endOfText, .docComment, .keyword .endState,
      .keyword .endProperty]
  undeclared : ∀ cursor : Cursor, cursor.budget = detour.first :: detour.more →
    cursor.atMemberStart = false
  otherStarts : Heads (· ≠ .newline) detour.other
  otherPlain : detour.docs = [] → Heads (· ≠ .docComment) detour.other
  inBody : ∀ block statements cursor twin, cursor.reported = [] →
    detour.fork.Faces [] cursor twin →
      (Reader.bodyLines block statements).Crosses detour.failure cursor twin
        (fun _ => detour.through) detour.Lacking
  elseIf : ∀ cursor twin, detour.through cursor twin →
    cursor.kind = .keyword .elseIf
  lastEnd : ∀ cursor twin, detour.through cursor twin →
    twin.lastEnd = cursor.lastEnd
  leave : ∀ cursor twin, detour.through cursor twin →
    detour.through cursor.leave twin.leave
  inArms : ∀ opener arms cursor twin, cursor.reported = [] →
    detour.through cursor twin →
      (Reader.nextArm Reader.body opener arms).Crosses detour.failure cursor
        twin (fun _ _ _ => False) (Step.Decides detour.ArmsLacking)
  widens : ∀ branches otherwise span,
    detour.gone [.conditional branches otherwise span] →
      ∀ later last whole,
        detour.gone [.conditional (branches ++ later) last whole]

namespace Detour

variable {detour : Detour} {cursor twin : Cursor}

/-- A comment behind what the texts have in common documents nothing. -/
theorem Passable.plain (passable : detour.Passable) : detour.fork.Plain where
  rest token more same doc := by
    have starts := passable.starts
    have commented := passable.commented
    change detour.docs ++ detour.first :: detour.more = token :: more at same
    cases docs : detour.docs with
    | nil =>
      rw [docs] at same
      obtain ⟨rfl, -⟩ := List.cons.inj same
      simp [doc] at starts
    | cons comment others =>
      rw [docs] at same commented
      rw [← (List.cons.inj same).2]
      cases others with
      | nil =>
        refine ⟨detour.first, detour.more, rfl, ?_⟩
        simp_all [Kind.endsLine]
      | cons next others =>
        refine ⟨next, _, rfl, ?_⟩
        rw [commented next (by simp)]
        rfl
  other head more token others same sameOther undocumented := by
    change detour.docs ++ detour.first :: detour.more = head :: more at same
    change detour.other = token :: others at sameOther
    cases docs : detour.docs with
    | nil =>
      have starts := passable.otherPlain docs
      rw [sameOther] at starts
      exact starts
    | cons comment _ =>
      rw [docs] at same
      obtain ⟨rfl, -⟩ := List.cons.inj same
      have doc := passable.commented comment (by rw [docs]; simp)
      exact absurd doc undocumented

/-! ## Relations that further lines keep -/

theorem Lacking.surround
    {body twin : List Statement} (lacking : detour.Lacking body twin)
    {front frontTwin back backTwin : List Statement}
    (sameFront : SameBy Statement.bareBody front frontTwin)
    (sameBack : SameBy Statement.bareBody back backTwin) :
    detour.Lacking (front ++ (body ++ back))
      (frontTwin ++ (twin ++ backTwin)) := by
  obtain ⟨rest, lacks, same⟩ := lacking
  refine ⟨_, lacks.surround front back, ?_⟩
  unfold SameBy at *
  rw [Statement.bareBody_eq_map] at *
  simp only [Statement.bareBody_eq_map, List.map_append] at *
  rw [sameFront, same, sameBack]

theorem Lacking.concat
    {body twin : List Statement} {statement other : Statement}
    (lacking : detour.Lacking body twin)
    (same : SameBy Statement.bare statement other) :
    detour.Lacking (body ++ [statement]) (twin ++ [other]) := by
  have sameBack : SameBy Statement.bareBody [statement] [other] := by
    unfold SameBy at *
    rw [Statement.bareBody_eq_map, Statement.bareBody_eq_map,
      List.map_singleton, List.map_singleton, same]
  exact lacking.surround (show SameBy Statement.bareBody [] [] from rfl)
    sameBack

theorem Lacking.within {statement : Statement} {twin : Option Statement}
    (lacking : detour.Lacking [statement] twin.toList)
    (statements : List Statement) :
    detour.Lacking (statements ++ [statement])
      (statements ++ twin.toList) := by
  have whole := lacking.surround
    (show SameBy Statement.bareBody statements statements from rfl)
    (show SameBy Statement.bareBody [] [] from rfl)
  simpa using whole

end Detour

namespace Reader.Arms.Edited

variable {change : List Statement → List Statement → Prop}
  {arms edited : Arms}

theorem isSome (changed : arms.Edited change edited) :
    edited.otherwise.isSome = arms.otherwise.isSome := by
  cases changed <;> rfl

theorem complete (changed : arms.Edited change edited) :
    edited.complete = arms.complete := by
  cases changed <;> rfl

/-- An arm that is added is edited where its body lacks something. -/
theorem add (changed : arms.Edited change edited) (found : Option Expression)
    (inside : List Statement) (span : Span) :
    (arms.add found inside span).Edited change
      (edited.add found inside span) := by
  cases found with
  | none =>
    cases changed with
    | branch earlier later within => exact .branch earlier later within
    | otherwise branches within => exact .otherwise branches within
  | some condition =>
    cases changed with
    | @branch _ _ _ _ otherwise _ earlier later within =>
      cases otherwise with
      | some last => exact .branch earlier later within
      | none =>
        show Edited change ⟨(earlier ++ _ :: later) ++ [_], none, _⟩
          ⟨(earlier ++ _ :: later) ++ [_], none, _⟩
        rw [List.append_assoc, List.append_assoc]
        exact .branch earlier (later ++ [_]) within
    | otherwise branches within => exact .otherwise branches within

theorem conclude (changed : arms.Edited change edited)
    (unclosed : arms.otherwise.isSome = false) (inside : List Statement) :
    Edited change { arms with otherwise := some inside }
      { edited with otherwise := some inside } := by
  cases changed with
  | branch earlier later within => exact .branch earlier later within
  | otherwise => cases unclosed

end Reader.Arms.Edited

namespace Detour

/-- A conditional that misses an arm goes on missing it. -/
theorem Broken.add {detour : Detour} {arms twin : Reader.Arms}
    (broken : detour.Broken arms twin)
    (widens : ∀ branches otherwise span,
      detour.gone [.conditional branches otherwise span] →
        ∀ later last whole,
          detour.gone [.conditional (branches ++ later) last whole])
    {found twinFound : Option Expression}
    (sameFound : SameBy (Option.map Expression.bare) found twinFound)
    (inside twinInside : List Statement) (span twinSpan : Span) :
    detour.Broken (arms.add found inside span)
      (twin.add twinFound twinInside twinSpan) := by
  have wider (later : List (Branch Statement)) (whole : Span) :
      detour.gone
        [.conditional (arms.branches ++ later) arms.otherwise whole] :=
    widens _ _ whole (broken.gone whole) later _ whole
  cases found with
  | none =>
    obtain rfl : twinFound = none := by simpa [SameBy] using sameFound
    exact ⟨rfl, broken.isSome, broken.gone⟩
  | some condition =>
    cases twinFound with
    | none => cases sameFound
    | some twinCondition =>
      have last := broken.isSome
      by_cases closed : arms.otherwise.isSome = true
      · rw [closed] at last
        simp only [Reader.Arms.add, if_pos closed, if_pos last]
        exact broken
      · rw [Bool.not_eq_true] at closed
        rw [closed] at last
        have openHere : ¬ arms.otherwise.isSome = true := by simp [closed]
        have openThere : ¬ twin.otherwise.isSome = true := by simp [last]
        simp only [Reader.Arms.add, if_neg openHere, if_neg openThere]
        exact ⟨broken.incomplete, broken.isSome, wider _⟩

/-- What is gone with some arms is gone with more arms behind them. -/
theorem armsGrow {detour : Detour} {pairing : Pairing}
    (widens : ∀ branches otherwise span,
      detour.gone [.conditional branches otherwise span] →
        ∀ later last whole,
          detour.gone [.conditional (branches ++ later) last whole]) :
    Recovery.ArmsGrow pairing detour.ArmsLacking where
  isSome := by
    rintro arms twin (⟨edited, changed, same⟩ | broken)
    · exact same.isSome.trans changed.isSome
    · exact broken.isSome
  add := by
    rintro arms twin (⟨edited, changed, same⟩ | broken) found twinFound
      sameFound inside twinInside sameInside span twinSpan -
    · exact .inl ⟨_, changed.add found inside span,
        same.add sameFound.known sameInside.known _ _⟩
    · exact .inr (broken.add widens sameFound.known inside twinInside span
        twinSpan)
  otherwise := by
    rintro arms twin (⟨edited, changed, same⟩ | broken) unclosed inside
      twinInside sameInside
    · exact .inl ⟨_, changed.conclude unclosed inside,
        same.branches, sameInside.known.some, same.complete⟩
    · exact .inr ⟨broken.incomplete, rfl, fun span => by
        simpa using widens _ _ span (broken.gone span) [] (some inside)
          span⟩

end Detour

end PapyrusScript
