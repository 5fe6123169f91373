import PapyrusScript.Proofs.Layout.Body
import PapyrusScript.Proofs.Layout.Script

/-!
# Functions and events are read as they are laid out

Initial values, documentation comments, parameters and flags are taken from
the rows that a layout has for them.  So the header of a function or an event
is read part by part, and its body by `Statement.isTaken_of_laidOut`.  Then a
whole function or event is taken, whatever member follows.
-/

namespace PapyrusScript

def Kind.endsHeader (kind : Kind) : Prop := kind = .newline ∨ kind = .docComment

namespace Reader

open Cursor

variable {row rest : List Token}
variable {list : List Parameter} {doc : Option String} {tree : Parameter}

/-! ## Initial values -/

/-- A constant is taken, with the minus in front if it has one. -/
theorem takes_constant {value : Literal} (spelled : value.Spelled row) :
    constant.Takes row rest fun found => found.bare = value.bare := by
  unfold constant
  apply Takes.get
  intro cursor here
  cases spelled with
  | plain spells =>
    have unsigned : cursor.kind ≠ .symbol .minus := by
      intro found
      have isLiteral := spells.isLiteralKind
      rw [← kind_of_budget here, found] at isLiteral
      cases isLiteral
    rw [if_neg unsigned]
    intro cursor here
    have standing := current_of_budget here
    rw [← standing] at spells
    have inside : cursor.kind ≠ .endOfText := by
      intro atEnd
      have isLiteral := spells.isLiteralKind
      rw [show cursor.current.kind = _ from atEnd] at isLiteral
      cases isLiteral
    rw [ends_literal spells]
    have next := budget_next_of_budget here (standing ▸ inside)
    exact ⟨rfl, next, quiet_next cursor⟩
  | negativeInt sign kind reads =>
    rw [if_pos ((kind_of_budget here).trans sign)]
    apply Takes.advance (by simp [sign])
    apply Takes.get
    intro after place
    rw [current_of_budget place]
    unfold negativeValue integerValue
    rw [kind]
    dsimp only
    rw [reads]
    apply Takes.advance (by simp [kind])
    exact .pure rfl
  | negativeFloat sign kind reads bounded =>
    rw [if_pos ((kind_of_budget here).trans sign)]
    apply Takes.advance (by simp [sign])
    apply Takes.get
    intro after place
    rw [current_of_budget place]
    unfold negativeValue floatValue
    rw [kind]
    dsimp only
    rw [reads]
    dsimp only
    rw [bounded]
    apply Takes.advance (by simp [kind])
    exact .pure rfl

/-- An initial value is taken if it is not followed by another one. -/
theorem takes_initialConstant
    {initial : Option Literal} (starts : Literal.InitialSpelled initial row)
    (apart : Heads (· ≠ .symbol .assign) rest) :
    initialConstant.Takes row rest fun found =>
      found.map Literal.bare = initial.map Literal.bare := by
  unfold initialConstant
  apply Takes.get
  intro cursor here
  cases starts with
  | absent =>
    rw [if_neg (apart.kind here)]
    exact .pure rfl
  | present assigns spelled =>
    rw [if_pos ((kind_of_budget here).trans assigns)]
    apply Takes.advance (by simp [assigns])
    apply Takes.bind_nil (takes_constant spelled)
    intro found same
    exact .pure (congrArg some same)

/-! ## Ends of header lines -/

/-- The end of a declaration is taken with its comment, if it has one. -/
theorem takes_endOfDeclaration (documented : DocumentedEnd doc row)
    (apart : doc = none → Heads (· ≠ .docComment) rest) (context : String) :
    (endOfDeclaration context).Takes row rest fun found => found = doc := by
  unfold endOfDeclaration
  apply Takes.get
  intro cursor here
  cases documented with
  | absent ends =>
    rw [if_neg (by rw [kind_of_budget here, ends]; exact nofun)]
    apply Takes.bind_nil (takes_endOfLine ends _)
    intro _ _
    apply Takes.get
    intro after place
    rw [if_neg ((apart rfl).kind place)]
    exact .pure rfl
  | inline kind ends =>
    rw [if_pos ((kind_of_budget here).trans kind)]
    apply Takes.advance (by simp [kind])
    apply Takes.bind_nil (takes_endOfLine ends _)
    intro _ _
    exact .pure rfl
  | @below line doc last ends kind endsToo =>
    rw [if_neg (by rw [kind_of_budget here, ends]; exact nofun)]
    have first : (endOfLine context).Takes [line] ([doc, last] ++ rest)
        fun _ => True := takes_endOfLine ends context
    apply Takes.bind first
    intro _ _
    apply Takes.get
    intro after place
    rw [if_pos ((kind_of_budget place).trans kind)]
    apply Takes.advance (by simp [kind])
    apply Takes.bind_nil (takes_endOfLine endsToo _)
    intro _ _
    exact .pure rfl

theorem heads_documentedEnd (documented : DocumentedEnd doc row) :
    Heads Kind.endsHeader (row ++ rest) := by
  cases documented with
  | absent ends => exact Or.inl ends
  | inline kind ends => exact Or.inr kind
  | below ends kind endsToo => exact Or.inl ends

/-! ## Parameters -/

variable {behind : List Token}

/-- A parameter is taken with its default. -/
theorem takes_parameter
    (laid : tree.LaidOut row) (apart : Heads (· ≠ .symbol .assign) rest) :
    parameter.Takes row rest fun found => found.bare = tree.bare := by
  cases laid with
  | @intro type default nameSpan span row behind token spelled named starts =>
    have bracket : token.kind ≠ .symbol .openBracket := by simp [named]
    unfold parameter
    apply Takes.get
    intro cursor here
    have place : cursor.budget = row ++ token :: (behind ++ rest) := by
      simpa using here
    rw [if_pos (kindAfterType_of_spelled spelled bracket place).1]
    have apartToo : Heads (· ≠ .symbol .openBracket)
        (token :: behind ++ rest) := bracket
    apply Takes.bind (takes_typeName spelled apartToo)
    intro foundType sameType
    apply Takes.identifier named
    apply Takes.bind_nil (takes_initialConstant starts apart)
    intro initial sameInitial
    apply Takes.get
    intro after _
    apply Takes.pure
    simp only [Parameter.bare, sameType, sameInitial]
    rfl

/-- A parameter is added behind the others if a comma follows. -/
theorem takes_nextParameter_of_comma
    {comma : Token} (before : List Parameter) (laid : tree.LaidOut row)
    (kind : comma.kind = .symbol .comma) :
    (nextParameter (before, none)).Takes (row ++ [comma]) rest fun decision =>
      ∃ following, decision = .again following ∧
        ∃ found, following = (before ++ [found], none) ∧
          found.bare = tree.bare := by
  unfold nextParameter
  apply Recovery.Takes.bind
    (takes_parameter laid (heads_ne kind nofun)).run
  intro _ reached
  obtain ⟨found, rfl, same⟩ := reached
  apply Recovery.Takes.get
  intro cursor here
  dsimp only
  rw [(kind_of_budget here).trans kind]
  apply Recovery.Takes.advance (by simp [kind])
  exact .pure ⟨_, rfl, found, rfl, same⟩

/-- The last parameter is taken with the closing parenthesis. -/
theorem takes_nextParameter_of_close
    {closing : Token} (before : List Parameter) (laid : tree.LaidOut row)
    (closes : closing.kind = .symbol .closeParen) :
    (nextParameter (before, none)).Takes (row ++ [closing]) rest
      fun decision =>
        ∃ final, decision = .done final ∧
          ∃ found, final = (before ++ [found], none) ∧
            found.bare = tree.bare := by
  unfold nextParameter
  apply Recovery.Takes.bind
    (takes_parameter laid (heads_ne closes nofun)).run
  intro _ reached
  obtain ⟨found, rfl, same⟩ := reached
  apply Recovery.Takes.get
  intro cursor here
  dsimp only
  rw [(kind_of_budget here).trans closes]
  apply Recovery.Takes.advance (by simp [closes])
  exact .pure ⟨_, rfl, found, rfl, same⟩

/-- Parameters are added behind those that have been read. -/
theorem takes_listed
    (listed : Parameter.Listed list row) (before : List Parameter) :
    (Recovery.iterate nextParameter (before, none)).Takes row rest
      fun found =>
        found.2 = none ∧
          ∃ more, found.1 = before ++ more ∧
            more.map Parameter.bare = list.map Parameter.bare := by
  have proceeds found cursor :=
    (Recovery.proceedsTo_nextParameter found cursor).proceeds
  induction listed generalizing before with
  | last laid closes =>
    apply Recovery.Takes.done proceeds
    apply (takes_nextParameter_of_close before laid closes).mono
    intro _ reached
    obtain ⟨_, rfl, found, rfl, same⟩ := reached
    refine ⟨_, rfl, rfl, [found], rfl, ?_⟩
    simp only [List.map_cons, List.map_nil, same]
  | @next parameter more row behind comma laid kind _ ih =>
    have shape : row ++ comma :: behind = row ++ [comma] ++ behind := by
      simp
    rw [shape]
    apply Recovery.Takes.again proceeds
      (takes_nextParameter_of_comma before laid kind)
    intro _ reached
    obtain ⟨found, rfl, same⟩ := reached
    apply (ih _).mono
    intro final reached
    obtain ⟨unbroken, others, split, sameOthers⟩ := reached
    refine ⟨unbroken, found :: others, ?_, ?_⟩
    · rw [split, List.append_assoc]
      rfl
    · simp only [List.map_cons, same, sameOthers]

theorem heads_spelled {type : TypeName} (spelled : type.Spelled row) :
    Heads Kind.startsType (row ++ rest) := by
  cases spelled with
  | plain names => exact startsType_of_dataType? names
  | array names _ _ => exact startsType_of_dataType? names

theorem heads_listed (listed : Parameter.Listed list row) :
    Heads Kind.startsType (row ++ rest) := by
  cases listed with
  | last laid _ | next laid _ _ =>
    cases laid with
    | intro spelled _ _ =>
      simpa using heads_spelled spelled

/-- Parameters are taken with their parentheses. -/
theorem takes_parameters (listed : Parameter.Parenthesized list row) :
    parameters.Takes row rest fun found =>
      found.2 = none ∧
        found.1.map Parameter.bare = list.map Parameter.bare := by
  have opening {first : Token} {more : List Token}
      (opens : first.kind = .symbol .openParen) :
      openParameters.Takes [first] more fun _ => True := by
    unfold openParameters
    intro cursor here
    have next := budget_next_of_budget here (by simp [opens])
    rw [ends_expect ((kind_of_budget here).trans opens)]
    exact ⟨trivial, next, quiet_next cursor⟩
  unfold parameters
  cases listed with
  | @none first closing opens closes =>
    apply Recovery.Takes.bind (opening opens).run
    intro _ reached
    obtain ⟨_, rfl, _⟩ := reached
    apply Recovery.Takes.get
    intro cursor here
    rw [if_pos ((kind_of_budget here).trans closes)]
    apply Recovery.Takes.advance (by simp [closes])
    exact .pure ⟨rfl, rfl⟩
  | @some first _ row opens listed =>
    have startsType : Heads (· ≠ .symbol .closeParen) (row ++ rest) := by
      apply (heads_listed listed).mono
      intro kind starts equal
      subst equal
      cases starts
    have list : Recovery.Takes
        (get >>= fun cursor =>
          if cursor.kind = .symbol .closeParen then
            (do let _ ← advance; return ([], none))
          else loop nextParameter cursor.budget ([], none))
        row rest fun found =>
          found.2 = none ∧
            found.1.map Parameter.bare = list.map Parameter.bare := by
      intro cursor here
      have taken := takes_listed listed [] cursor here
      rw [Recovery.ends_bind, Recovery.ends_get] at taken
      rw [Recovery.ends_bind, Recovery.ends_get, if_neg (startsType.kind here)]
      apply taken.mono
      intro final after reached
      obtain ⟨⟨unbroken, more, split, same⟩, place⟩ := reached
      exact ⟨⟨unbroken, split ▸ same⟩, place⟩
    apply Recovery.Takes.bind (opening opens).run
    intro _ reached
    obtain ⟨_, rfl, _⟩ := reached
    exact list

/-! ## Flags -/

section Flags

variable {block : Block} {word : Token}

theorem takes_nextCallableFlag_native
    (kind : word.kind = .keyword .native) (seen : CallableFlags) :
    (nextCallableFlag block seen).Takes [word] rest fun decision =>
      ∃ following, decision = .again following ∧
        following = { seen with native := true } := by
  unfold nextCallableFlag
  apply Recovery.Takes.get
  intro cursor here
  rw [(kind_of_budget here).trans kind]
  apply Recovery.Takes.advance (by simp [kind])
  exact .pure ⟨_, rfl, rfl⟩

theorem takes_nextCallableFlag_global
    (isFunction : block = .function) (kind : word.kind = .keyword .global)
    (seen : CallableFlags) :
    (nextCallableFlag block seen).Takes [word] rest fun decision =>
      ∃ following, decision = .again following ∧
        following = { seen with global := true } := by
  unfold nextCallableFlag
  apply Recovery.Takes.get
  intro cursor here
  rw [(kind_of_budget here).trans kind]
  dsimp only
  rw [if_pos isFunction]
  apply Recovery.Takes.advance (by simp [kind])
  exact .pure ⟨_, rfl, rfl⟩

theorem takes_nextCallableFlag_end
    (stops : Heads Kind.endsHeader rest) (seen : CallableFlags) :
    (nextCallableFlag block seen).Takes [] rest fun decision =>
      ∃ final, decision = .done final ∧ final = seen := by
  unfold nextCallableFlag
  apply Recovery.Takes.get
  intro cursor here
  rcases stops.kind here with stop | stop
  · rw [stop]
    exact .pure ⟨_, rfl, rfl⟩
  · rw [stop]
    exact .pure ⟨_, rfl, rfl⟩

/-- The flags of a function or event are taken in any order. -/
theorem takes_callableFlags {native global : Bool}
    (flagged : CallableFlagged block native global row)
    (stops : Heads Kind.endsHeader rest) (seen : CallableFlags) :
    (Recovery.iterate (nextCallableFlag block) seen).Takes row rest
      fun found =>
        found = ⟨seen.native || native, seen.global || global⟩ := by
  have proceeds := Recovery.proceeds_nextCallableFlag block
  induction flagged generalizing seen with
  | nil =>
    apply Recovery.Takes.done proceeds
    apply (takes_nextCallableFlag_end stops seen).mono
    intro _ reached
    obtain ⟨_, rfl, rfl⟩ := reached
    refine ⟨_, rfl, ?_⟩
    rw [Bool.or_false, Bool.or_false]
  | native kind rest ih =>
    apply Recovery.Takes.again proceeds
      (takes_nextCallableFlag_native kind seen)
    intro _ equal
    subst equal
    apply (ih _).mono
    intro _ equal
    subst equal
    rw [Bool.or_true, Bool.true_or]
  | global isFunction kind rest ih =>
    apply Recovery.Takes.again proceeds
      (takes_nextCallableFlag_global isFunction kind seen)
    intro _ equal
    subst equal
    apply (ih _).mono
    intro _ equal
    subst equal
    rw [Bool.or_true, Bool.true_or]

end Flags

/-! ## Headers and bodies -/

/-- A header is taken with its flags and its comment. -/
theorem takes_callableHeader
    {block : Block} {native global : Bool} {flags docs : List Token}
    (listed : Parameter.Parenthesized list row)
    (flagged : CallableFlagged block native global flags)
    (documented : DocumentedEnd doc docs)
    (apart : doc = none → Heads (· ≠ .docComment) rest) (context : String) :
    (callableHeader block context).Takes (row ++ (flags ++ docs)) rest
      fun header =>
        header.parameters.map Parameter.bare = list.map Parameter.bare ∧
          header.flags = ⟨native, global⟩ ∧ header.doc = doc := by
  unfold callableHeader
  apply Recovery.Takes.bind (takes_parameters listed)
  intro reached reachedToo
  obtain ⟨found, _⟩ := reached
  obtain ⟨rfl, same⟩ := reachedToo
  dsimp only
  apply Recovery.Takes.bind
    (takes_callableFlags flagged (heads_documentedEnd documented) _)
  intro _ equal
  subst equal
  apply Recovery.Takes.bind_nil
    (takes_endOfDeclaration documented apart context).run
  intro _ reached
  obtain ⟨_, rfl, rfl⟩ := reached
  exact .pure ⟨same, rfl, rfl⟩

/-- The body of a function or event is taken with its last line. -/
theorem takes_openBody
    {list : List Statement} {block : Block} {closer line : Token}
    (taken : (body block).Takes row ([closer, line] ++ rest) fun found =>
      Statement.bareBody found = Statement.bareBody list)
    (closes : closer.kind = .keyword block.terminator)
    (closed : block.closedBy (.keyword block.terminator) = true)
    (ends : line.kind = .newline) (opener : Token) :
    (openBody block opener).Takes (row ++ [closer, line]) rest fun found =>
      Statement.bareBody found = Statement.bareBody list := by
  have heads : Heads (fun kind => block.closedBy kind = true)
      ([closer, line] ++ rest) := heads_closedBy closes closed
  unfold openBody
  apply Recovery.Takes.bind taken
  intro found same
  apply Recovery.Takes.get
  intro cursor here
  rw [if_pos (heads.kind here)]
  apply Recovery.Takes.advance (by simp [closes])
  apply Recovery.Takes.bind_nil (takes_finishLine ends _)
  intro _ _
  exact .pure same

/-- Nothing is taken of a body if the flags say that it is native. -/
theorem takes_callableBody
    {list : List Statement} {block : Block} {native global : Bool}
    (laid : CallableBody block list native row)
    (empty : native = true → list = [])
    (wellFormed : Statement.WellFormedBody list)
    (closed : block.closedBy (.keyword block.terminator) = true)
    (opener : Token) :
    (callableBody block opener ⟨native, global⟩).Takes row rest fun found =>
      Statement.bareBody found = Statement.bareBody list := by
  unfold callableBody
  cases laid with
  | native =>
    rw [empty rfl]
    exact .pure rfl
  | intro laid closes ends =>
    apply takes_openBody _ closes closed ends opener
    exact takes_body_of_isTaken (Statement.isTaken_of_laidOut laid)
      wellFormed (heads_closedBy closes closed)

end Reader

/-! ## Whole functions and events -/

open Cursor

def Kind.isVisible (kind : Kind) : Prop := kind ≠ .newline ∧ kind ≠ .docComment

theorem Kind.isVisible_keyword (word : Keyword) :
    (Kind.keyword word).isVisible :=
  ⟨nofun, nofun⟩

theorem Kind.isVisible_of_startsExpression
    {kind : Kind} (starts : kind.startsExpression = true) :
    kind.isVisible := by
  constructor
  · intro equal
    subst equal
    cases starts
  · intro equal
    subst equal
    cases starts

theorem Kind.isVisible_of_startsType
    {kind : Kind} (starts : kind.startsType) : kind.isVisible := by
  constructor
  · intro equal
    subst equal
    cases starts
  · intro equal
    subst equal
    cases starts

section Heads

variable {row rest : List Token}

theorem heads_of_keyword
    {token : Token} {word : Keyword} (kind : token.kind = .keyword word) :
    Heads Kind.isVisible (token :: rest) := by
  show token.kind.isVisible
  rw [kind]
  exact Kind.isVisible_keyword word

theorem heads_of_readFrom {tree : Expression} (reads : tree.ReadFrom row) :
    Heads Kind.isVisible (row ++ rest) := by
  obtain ⟨first, more, rfl, start⟩ := reads.starts
  exact Kind.isVisible_of_startsExpression start

theorem heads_of_spelled {type : TypeName} (spelled : type.Spelled row) :
    Heads Kind.isVisible (row ++ rest) :=
  (Reader.heads_spelled spelled).mono fun _ => Kind.isVisible_of_startsType

/-- A body starts with a statement, if it is not empty. -/
theorem heads_of_laidOut_body
    {list : List Statement} (laid : Statement.LaidOut (.body list) row)
    (heads : Heads Kind.isVisible rest) :
    Heads Kind.isVisible (row ++ rest) := by
  cases laid with
  | nil => exact heads
  | cons laid _ =>
    rw [List.append_assoc]
    cases laid with
    | expression reads _ | assign reads _ _ _ =>
      rw [List.append_assoc]
      exact heads_of_readFrom reads
    | declare spelled _ _ _ =>
      rw [List.append_assoc]
      exact heads_of_spelled spelled
    | result kind _ | resultOf kind _ _ | loop kind _ _ _ _ _
    | conditional kind _ _ _ _ => exact heads_of_keyword kind

theorem heads_of_callableBody
    {block : Block} {list : List Statement} {native : Bool}
    (laid : CallableBody block list native row)
    (heads : Heads Kind.isVisible rest) :
    Heads Kind.isVisible (row ++ rest) := by
  cases laid with
  | native => exact heads
  | intro laid closes _ =>
    rw [List.append_assoc]
    exact heads_of_laidOut_body laid (heads_of_keyword closes)

end Heads

namespace Reader

variable {rest : List Token}

section Function

variable {parameters : List Parameter} {body : List Statement}
  {native global : Bool} {doc : Option String} {word token : Token}
  {row flags docs inside : List Token}

/-- A function from its keyword on, after its return type. -/
theorem takes_function
    {returned returnType : Option TypeName} {nameSpan span : Span}
    (same : returned.map TypeName.bare = returnType.map TypeName.bare)
    (kind : word.kind = .keyword .function) (named : token.kind = .identifier)
    (listed : Parameter.Parenthesized parameters row)
    (flagged : CallableFlagged .function native global flags)
    (documented : DocumentedEnd doc docs)
    (apart : doc = none → Heads (· ≠ .docComment) (inside ++ rest))
    (taken : (callableBody .function word ⟨native, global⟩).Takes inside rest
      fun found => Statement.bareBody found = Statement.bareBody body) :
    (function returned).Takes
      (word :: token :: (row ++ (flags ++ docs) ++ inside)) rest fun found =>
        found.bare =
          Function.bare
            { returnType, name := ⟨token.text, nameSpan⟩, parameters, body,
              native, global, doc, span } ∧
          found.name = ⟨token.text, token.span⟩ := by
  unfold function
  apply Takes.expect kind (by simp [kind])
  apply Takes.identifier named
  apply Takes.bind
    (.lift (takes_callableHeader listed flagged documented apart _))
  intro reached reachedToo
  obtain ⟨found, _, _⟩ := reached
  obtain ⟨sameParameters, rfl, rfl⟩ := reachedToo
  apply Takes.bind_nil (.lift taken)
  intro foundBody sameBody
  apply Takes.get
  intro cursor here
  apply Takes.pure
  refine ⟨?_, rfl⟩
  simp only [Function.bare, same, sameParameters, sameBody]
  rfl

/-- An event is taken with its header and its body. -/
theorem takes_event {nameSpan span : Span} (kind : word.kind = .keyword .event)
    (named : token.kind = .identifier)
    (listed : Parameter.Parenthesized parameters row)
    (flagged : CallableFlagged .event native false flags)
    (documented : DocumentedEnd doc docs)
    (apart : doc = none → Heads (· ≠ .docComment) (inside ++ rest))
    (taken : (callableBody .event word ⟨native, false⟩).Takes inside rest
      fun found => Statement.bareBody found = Statement.bareBody body) :
    event.Takes (word :: token :: (row ++ (flags ++ docs) ++ inside)) rest
      fun found =>
        found.bare =
          Event.bare
            { name := ⟨token.text, nameSpan⟩, parameters, body, native, doc,
              span } := by
  unfold event
  apply Takes.expect kind (by simp [kind])
  apply Takes.identifier named
  apply Takes.bind
    (.lift (takes_callableHeader listed flagged documented apart _))
  intro reached reachedToo
  obtain ⟨found, _, _⟩ := reached
  obtain ⟨sameParameters, rfl, rfl⟩ := reachedToo
  apply Takes.bind_nil (.lift taken)
  intro foundBody sameBody
  apply Takes.get
  intro cursor here
  apply Takes.pure
  simp only [Event.bare, sameParameters, sameBody]
  rfl

/-- No comment stands between a header and the body behind it. -/
theorem apart_of_callableBody
    {block : Block} (laid : CallableBody block body native inside)
    (heads : Heads Kind.isVisible rest) :
    doc = none → Heads (· ≠ .docComment) (inside ++ rest) :=
  fun _ => (heads_of_callableBody laid heads).mono fun _ visible => visible.2

end Function

theorem takes_event_of_laidOut
    {tree : Event} {row : List Token} (laid : tree.LaidOut row)
    (wellFormed : tree.WellFormed) (heads : Heads Kind.isVisible rest) :
    event.Takes row rest fun found => found.bare = tree.bare := by
  cases laid with
  | intro kind named listed flagged documented laid =>
    exact takes_event kind named listed flagged documented
      (apart_of_callableBody laid heads)
      (takes_callableBody laid wellFormed.native wellFormed.body rfl _)

end Reader

end PapyrusScript
