import Mathlib.Data.List.Forall2
import PapyrusScript.Proofs.Brackets
import PapyrusScript.Proofs.Extent.Statement

/-!
# Scripts divided into functions and events

The tokens of a script are divided into its functions and events and what
stands between them.  Only functions and events start with their keywords, so
there is one such division at most.  Of a function or event that is not
native, the division shows the rest of its header line, its body and its
terminator; the body is a transcript of the tree, and the terminator is the
first one behind the header.  The text of a body stands between the line break
behind its header and its terminator, and what stands in a row stands in every
longer row.  The brackets of the script are closed in their line, those of its
headers as well as those of its bodies.

The parts of a declaration stay in its line and start no function or event.
Its types, names and values have no flag among them either.  Its end is a line
break, perhaps with a documentation comment in front or on the next line.
-/

namespace PapyrusScript

variable {row : List Token} {token : Token} {first second : List Token}

/-- What functions and events have in common. -/
structure Callable where
  block : Block
  name : Identifier
  native : Bool
  body : List Statement
  deriving Repr, Inhabited

def Function.callable (declaration : Function) : Callable :=
  ⟨.function, declaration.name, declaration.native, declaration.body⟩

def Event.callable (declaration : Event) : Callable :=
  ⟨.event, declaration.name, declaration.native, declaration.body⟩

def PropertySource.accessors : PropertySource → List Function
  | .full getter setter => getter.toList ++ setter.toList
  | _ => []

/-- The functions and events of a member, in some order of its text.  The
functions of a property may stand in either order. -/
inductive Member.Holds : Member → List Callable → Prop
  | function (declaration : Function) :
      Holds (.function declaration) [declaration.callable]
  | event (declaration : Event) :
      Holds (.event declaration) [declaration.callable]
  | variable (declaration : Variable) : Holds (.variable declaration) []
  | property {declaration : Property} {functions : List Function}
      (order : functions.Perm declaration.source.accessors) :
      Holds (.property declaration) (functions.map Function.callable)
  | state (declaration : ScriptState) :
      Holds (.state declaration) (declaration.events.map Event.callable)

def Kind.opensCallable (kind : Kind) : Bool :=
  kind = .keyword .function || kind = .keyword .event

def Apart (row : List Token) : Prop :=
  ∀ token ∈ row, token.kind.opensCallable = false

/-- A row of tokens is divided into functions and events and what stands
between them. -/
inductive Divided : List Callable → List Token → Prop
  | between {row : List Token} (apart : Apart row) : Divided [] row
  | native {callable : Callable} {more : List Callable}
      {gap rest : List Token} {opener name : Token} (apart : Apart gap)
      (opens : opener.kind = .keyword callable.block.opener)
      (named : name.kind = .identifier)
      (same : callable.name = ⟨name.text, name.span⟩)
      (isNative : callable.native = true) (further : Divided more rest) :
      Divided (callable :: more) (gap ++ opener :: name :: rest)
  | bodied {callable : Callable} {more : List Callable}
      {gap header body rest : List Token} {opener name line closer : Token}
      (apart : Apart gap)
      (opens : opener.kind = .keyword callable.block.opener)
      (named : name.kind = .identifier)
      (same : callable.name = ⟨name.text, name.span⟩)
      (isBodied : callable.native = false) (plain : Apart header)
      (oneLine : ∀ token ∈ header, token.kind ≠ .newline)
      (breaks : line.kind = .newline)
      (transcribes : Transcribes body (Statement.bodyTranscript callable.body))
      (inside : ∀ token ∈ body, token.kind ≠ .keyword callable.block.terminator)
      (closes : closer.kind = .keyword callable.block.terminator)
      (further : Divided more rest) :
      Divided (callable :: more)
        (gap ++ opener :: name :: (header ++ line :: (body ++ closer :: rest)))

/-! ## Joining rows -/

theorem Apart.append (apart : Apart first) (more : Apart second) :
    Apart (first ++ second) :=
  List.forall_mem_append.2 ⟨apart, more⟩

theorem Apart.nil : Apart [] := List.forall_mem_nil _

theorem Apart.of_kind {kind : Kind} (found : token.kind = kind)
    (plain : kind.opensCallable = false) : Apart [token] :=
  List.forall_mem_singleton.2 (found ▸ plain)

namespace Divided

variable {callables more : List Callable} {row rest gap : List Token}

theorem after (divided : Divided callables row) (apart : Apart gap) :
    Divided callables (gap ++ row) := by
  cases divided with
  | between others => exact .between (apart.append others)
  | native others opens named same isNative further =>
    rw [← List.append_assoc]
    exact .native (apart.append others) opens named same isNative further
  | bodied others opens named same isBodied plain oneLine breaks transcribes
      inside closes further =>
    rw [← List.append_assoc]
    exact .bodied (apart.append others) opens named same isBodied plain
      oneLine breaks transcribes inside closes further

theorem append (first : Divided callables row) (second : Divided more rest) :
    Divided (callables ++ more) (row ++ rest) := by
  induction first with
  | between apart => exact second.after apart
  | native apart opens named same isNative _ ih =>
    rw [List.cons_append, List.append_assoc, List.cons_append, List.cons_append]
    exact .native apart opens named same isNative ih
  | bodied apart opens named same isBodied plain oneLine breaks transcribes
      inside closes _ ih =>
    have whole := Divided.bodied apart opens named same isBodied plain
      oneLine breaks transcribes inside closes ih
    simpa only [List.append_assoc, List.cons_append] using whole

end Divided

/-! ## Where bodies stand -/

/-- The text of the body of a function or event stands in a row of tokens. -/
def Callable.StandsIn (callable : Callable) (row : List Token) : Prop :=
  ∃ front line inside closer behind,
    row = front ++ line :: (inside ++ closer :: behind) ∧
      line.kind = .newline ∧ Statement.BodyFills callable.body inside ∧
        closer.kind = .keyword callable.block.terminator

/-- The bodies of functions and events stand in a row.  Native ones have
none. -/
def AllStandIn (callables : List Callable) (row : List Token) : Prop :=
  ∀ callable ∈ callables, callable.native = false → callable.StandsIn row

theorem Callable.StandsIn.amid
    {callable : Callable} (standsIn : callable.StandsIn row)
    (before behind : List Token) :
    callable.StandsIn (before ++ row ++ behind) := by
  obtain ⟨front, line, inside, closer, rest, rfl, breaks, fills, closes⟩ :=
    standsIn
  refine ⟨before ++ front, line, inside, closer, rest ++ behind, ?_, breaks,
    fills, closes⟩
  simp only [List.append_assoc, List.cons_append]

namespace AllStandIn

variable {callables more : List Callable} {rest : List Token}

theorem nil : AllStandIn [] row := List.forall_mem_nil _

theorem before (stand : AllStandIn callables row) (behind : List Token) :
    AllStandIn callables (row ++ behind) := by
  intro callable member bodied
  have longer := (stand callable member bodied).amid [] behind
  rwa [List.nil_append] at longer

theorem after (stand : AllStandIn callables row) (front : List Token) :
    AllStandIn callables (front ++ row) := by
  intro callable member bodied
  have longer := (stand callable member bodied).amid front []
  rwa [List.append_nil] at longer

theorem append
    (first : AllStandIn callables row) (second : AllStandIn more rest) :
    AllStandIn (callables ++ more) (row ++ rest) :=
  List.forall_mem_append.2 ⟨first.before rest, second.after row⟩

end AllStandIn

/-- A row between functions and events: it starts none of them, and it closes
the brackets that it opens. -/
structure Aside (row : List Token) : Prop where
  apart : Apart row
  paired : Paired row

namespace Aside

theorem nil : Aside [] := ⟨.nil, .nil⟩

theorem append (aside : Aside first) (more : Aside second) :
    Aside (first ++ second) :=
  ⟨aside.apart.append more.apart, aside.paired.append more.paired⟩

theorem of_kind {kind : Kind} (found : token.kind = kind)
    (plain : kind.opensCallable = false) (noBracket : kind.isNoBracket = true) :
    Aside [token] :=
  ⟨.of_kind found plain, .cons found noBracket .nil⟩

theorem of_gap (gaps : IsGap row) : Aside row where
  apart token member := by
    rcases Kind.isBetween_iff.1 (gaps token member) with found | found
    · rw [found]
      rfl
    · rw [found]
      rfl
  paired := gaps.paired

theorem of_newlines (breaks : ∀ token ∈ row, token.kind = .newline) :
    Aside row :=
  .of_gap (.of_newlines breaks)

end Aside

/-- A row is divided into functions and events, the text of each body stands
in it, and it closes the brackets that it opens. -/
structure Placed (callables : List Callable) (row : List Token) : Prop where
  divided : Divided callables row
  stand : AllStandIn callables row
  paired : Paired row

namespace Placed

variable {callables more : List Callable} {rest gap : List Token}

theorem between (aside : Aside row) : Placed [] row :=
  ⟨.between aside.apart, .nil, aside.paired⟩

theorem append (first : Placed callables row) (second : Placed more rest) :
    Placed (callables ++ more) (row ++ rest) :=
  ⟨first.divided.append second.divided, first.stand.append second.stand,
    first.paired.append second.paired⟩

theorem after (placed : Placed callables row) (aside : Aside gap) :
    Placed callables (gap ++ row) :=
  (between aside).append placed

theorem before (placed : Placed callables row) (aside : Aside gap) :
    Placed callables (row ++ gap) := by
  have whole := placed.append (between aside)
  rwa [List.append_nil] at whole

end Placed

/-! ## What declarations cover in their line -/

open Cursor

variable {cursor : Cursor}

/-- Whether a token of the kind may stand in the middle of a line that
declares something. -/
def Kind.isInLine (kind : Kind) : Bool := kind ≠ .newline && !kind.opensCallable

def InLine (row : List Token) : Prop :=
  ∀ token ∈ row, token.kind.isInLine = true

theorem InLine.nil : InLine [] := List.forall_mem_nil _

theorem InLine.append (inLine : InLine first) (more : InLine second) :
    InLine (first ++ second) :=
  List.forall_mem_append.2 ⟨inLine, more⟩

theorem InLine.cons
    {kind : Kind} {rest : List Token} (found : token.kind = kind)
    (inLine : kind.isInLine = true) (more : InLine rest) :
    InLine (token :: rest) :=
  List.forall_mem_cons.2 ⟨found ▸ inLine, more⟩

theorem InLine.apart (inLine : InLine row) : Apart row := by
  intro token member
  have found := inLine token member
  simp only [Kind.isInLine, Bool.and_eq_true, Bool.not_eq_true'] at found
  exact found.2

theorem InLine.ne_newline (inLine : InLine row) :
    ∀ token ∈ row, token.kind ≠ .newline := by
  intro token member
  have found := inLine token member
  simp only [Kind.isInLine, Bool.and_eq_true, decide_eq_true_eq] at found
  exact found.1

/-! ## Types, names and values -/

/-- Whether a token of the kind may stand in a type, a name or a value. -/
def Kind.isOfValue (kind : Kind) : Bool := kind.isOfBody && kind ≠ .newline

def OfValue (row : List Token) : Prop :=
  ∀ token ∈ row, token.kind.isOfValue = true

theorem OfValue.nil : OfValue [] := List.forall_mem_nil _

theorem OfValue.append (ofValue : OfValue first) (more : OfValue second) :
    OfValue (first ++ second) :=
  List.forall_mem_append.2 ⟨ofValue, more⟩

theorem OfValue.cons
    {kind : Kind} {rest : List Token} (found : token.kind = kind)
    (ofValue : kind.isOfValue = true) (more : OfValue rest) :
    OfValue (token :: rest) :=
  List.forall_mem_cons.2 ⟨found ▸ ofValue, more⟩

theorem OfValue.inLine (ofValue : OfValue row) : InLine row := by
  intro token member
  have found := ofValue token member
  revert found
  cases token.kind with
  | keyword word => cases word <;> decide
  | _ => simp [Kind.isOfValue, Kind.isOfBody, Kind.isInLine, Kind.opensCallable]

theorem ofValue_of_dataType?
    {dataType : DataType} (names : Reader.dataType? token = some dataType) :
    token.kind.isOfValue = true := by
  unfold Reader.dataType? at names
  split at names
  all_goals first
    | (rename_i kind; rw [kind]; rfl)
    | cases names

theorem TypeName.Spelled.ofValue
    {type : TypeName} (spelled : type.Spelled row) :
    OfValue row := by
  cases spelled with
  | plain names =>
    exact List.forall_mem_singleton.2 (ofValue_of_dataType? names)
  | array names opens closes =>
    exact List.forall_mem_cons.2 ⟨ofValue_of_dataType? names,
      OfValue.cons opens rfl (.cons closes rfl .nil)⟩

theorem Token.Spells.ofValue {value : Value} (spells : token.Spells value) :
    OfValue [token] := by
  cases spells with
  | bool value kind => cases value <;> exact .cons kind rfl .nil
  | int kind => exact .cons kind rfl .nil
  | float kind => exact .cons kind rfl .nil
  | string kind => exact .cons kind rfl .nil
  | none kind => exact .cons kind rfl .nil
  | selfReference kind => exact .cons kind rfl .nil
  | parentReference kind => exact .cons kind rfl .nil

/-! ## Parts of a header -/

theorem Literal.Spelled.ofValue {literal : Literal}
    (spelled : literal.Spelled row) : OfValue row := by
  cases spelled with
  | plain spells => exact spells.ofValue
  | negativeInt sign kind _ => exact .cons sign rfl (.cons kind rfl .nil)
  | negativeFloat sign kind _ _ => exact .cons sign rfl (.cons kind rfl .nil)

theorem Literal.InitialSpelled.ofValue {initial : Option Literal}
    (spelled : InitialSpelled initial row) : OfValue row := by
  cases spelled with
  | absent => exact .nil
  | present assigns spelled => exact .cons assigns rfl spelled.ofValue

theorem Parameter.LaidOut.ofValue {parameter : Parameter}
    (laid : parameter.LaidOut row) : OfValue row := by
  cases laid with
  | intro spelled named starts =>
    exact spelled.ofValue.append (.cons named rfl starts.ofValue)

theorem Parameter.Listed.ofValue {list : List Parameter}
    (listed : Listed list row) : OfValue row := by
  induction listed with
  | last laid closes => exact laid.ofValue.append (.cons closes rfl .nil)
  | next laid kind _ ih => exact laid.ofValue.append (.cons kind rfl ih)

/-- Parameters consist of types, names and values. -/
theorem Parameter.Parenthesized.ofValue {list : List Parameter}
    (listed : Parenthesized list row) : OfValue row := by
  cases listed with
  | none opens closes => exact OfValue.cons opens rfl (.cons closes rfl .nil)
  | some opens listed => exact .cons opens rfl listed.ofValue

theorem CallableFlagged.inLine {block : Block} {native global : Bool}
    (flagged : CallableFlagged block native global row) : InLine row := by
  induction flagged with
  | nil => exact .nil
  | native kind _ ih => exact .cons kind rfl ih
  | global _ kind _ ih => exact .cons kind rfl ih

theorem VariableFlagged.inLine {conditional : Bool}
    (flagged : VariableFlagged conditional row) : InLine row := by
  induction flagged with
  | nil => exact .nil
  | conditional kind _ ih => exact .cons kind rfl ih

theorem PropertyFlagged.inLine
    {automatic : Option Keyword} {hidden conditional : Bool}
    (flagged : PropertyFlagged automatic hidden conditional row) :
    InLine row := by
  induction flagged with
  | nil => exact .nil
  | hidden kind _ ih | conditional kind _ ih | auto kind _ ih
  | autoReadOnly kind _ ih => exact .cons kind rfl ih

/-- The initial value and flags of a property stay in its line. -/
theorem Reader.PropertyHeader.Spelled.inLine
    {header : Reader.PropertyHeader} (spelled : header.Spelled row) :
    InLine row := by
  cases spelled with
  | intro starts _ flagged => exact starts.ofValue.inLine.append flagged.inLine

theorem TypeName.Spelled.aside
    {type : TypeName} (spelled : type.Spelled row) : Aside row :=
  ⟨spelled.ofValue.inLine.apart, spelled.enclosed.paired⟩

namespace Reader

/-! ## The end of a declaration -/

/-- A declaration ends with a line break and a comment at most. -/
theorem covers_endOfDeclaration (context : String) :
    (endOfDeclaration context).Covers cursor fun _ row => IsGap row := by
  unfold endOfDeclaration
  apply Covers.get
  split
  · rename_i doc
    apply Covers.advance (by simp [doc])
    apply (covers_endOfLine _).bind
    intro _ after
    apply Covers.pure
    intro row newlines
    rw [List.append_nil]
    exact IsGap.append (.of_docComment doc) (.of_newlines newlines)
  · apply (covers_endOfLine _).bind
    intro _ after
    apply Covers.get
    split
    · rename_i doc
      apply Covers.advance (by simp [doc])
      apply (covers_endOfLine _).bind
      intro _ last
      apply Covers.pure
      intro row newlines before earlier
      rw [List.append_nil]
      have ending := IsGap.append (.of_docComment doc) (.of_newlines newlines)
      exact IsGap.append (.of_newlines earlier) ending
    · apply Covers.pure
      intro row newlines
      rw [List.append_nil]
      exact .of_newlines newlines

end Reader

end PapyrusScript
