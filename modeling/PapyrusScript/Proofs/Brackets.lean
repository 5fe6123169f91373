import PapyrusScript.Proofs.Layout.Header
import PapyrusScript.Proofs.LineBreaks
import PapyrusScript.Proofs.Spaced

/-!
# Brackets are closed in their line

A row of tokens is paired if every bracket that it closes has been opened in
it, every bracket that it opens is closed in it, and no bracket holds a line
break or a token that can only start a line.  It is enclosed if it may also
stand inside of brackets itself.  Both sorts of rows can be joined, and a
rendering of an expression is enclosed.

So a token of a paired row that stands inside of brackets stands in the same
line as the bracket, and the brackets that are open in front of it are counted
as open.

Types, values, expressions, parameters and flags are enclosed however they are
laid out.  The words and line breaks of a statement stand outside of brackets,
so a layout of statements is paired, with gaps between their lines or not.
-/

namespace PapyrusScript

section Rows

variable {row : List Token} {token : Token} {depth behind : Nat}

namespace Kind

def opensBracket : Kind → Bool
  | .symbol .openParen => true
  | .symbol .openBracket => true
  | _ => false

def closesBracket : Kind → Bool
  | .symbol .closeParen => true
  | .symbol .closeBracket => true
  | _ => false

def isNoBracket (kind : Kind) : Bool :=
  !kind.opensBracket && !kind.closesBracket

def staysInLine (kind : Kind) : Bool := kind ≠ .newline && !kind.isStructural

theorem opensBracket_of_closesBracket
    {kind : Kind} (closes : kind.closesBracket = true) :
    kind.opensBracket = false := by
  cases kind with
  | symbol sign => cases sign <;> first | rfl | cases closes
  | _ => cases closes

theorem staysInLine_of_opensBracket
    {kind : Kind} (opens : kind.opensBracket = true) :
    kind.staysInLine = true := by
  cases kind with
  | symbol sign => rfl
  | _ => cases opens

theorem staysInLine_of_closesBracket
    {kind : Kind} (closes : kind.closesBracket = true) :
    kind.staysInLine = true := by
  cases kind with
  | symbol sign => rfl
  | _ => cases closes

end Kind

/-- The brackets that are open behind one more token.  There is no answer if
the token closes none of them, or if it leaves the line while some are
open. -/
def bracketsBehind? (depth : Nat) (token : Token) : Option Nat :=
  if token.kind.opensBracket then
    some (depth + 1)
  else if token.kind.closesBracket then
    if depth = 0 then none else some (depth - 1)
  else if depth = 0 || token.kind.staysInLine then
    some depth
  else
    none

def depthBehind? (depth : Nat) (row : List Token) : Option Nat :=
  row.foldlM bracketsBehind? depth

def Paired (row : List Token) : Prop := depthBehind? 0 row = some 0

def Enclosed (row : List Token) : Prop :=
  ∀ depth, depthBehind? depth row = some depth

/-- A row closes one bracket more than it opens, with its last token. -/
def Closing (row : List Token) : Prop :=
  ∀ depth, depthBehind? (depth + 1) row = some depth

instance (row : List Token) : Decidable (Paired row) :=
  inferInstanceAs (Decidable (_ = _))

/-! ## Joining rows -/

theorem depthBehind?_append (depth : Nat) (row rest : List Token) :
    depthBehind? depth (row ++ rest) =
      (depthBehind? depth row).bind fun behind => depthBehind? behind rest :=
  List.foldlM_append

theorem depthBehind?_cons (depth : Nat) (token : Token) (rest : List Token) :
    depthBehind? depth (token :: rest) =
      (bracketsBehind? depth token).bind fun behind =>
        depthBehind? behind rest :=
  List.foldlM_cons

namespace Enclosed

variable {row rest : List Token} {token : Token}

theorem nil : Enclosed [] := fun _ => rfl

theorem append (first : Enclosed row) (second : Enclosed rest) :
    Enclosed (row ++ rest) := by
  intro depth
  rw [depthBehind?_append, first depth, Option.bind_some, second depth]

theorem cons {kind : Kind} (found : token.kind = kind)
    (plain : (kind.isNoBracket && kind.staysInLine) = true)
    (more : Enclosed rest) : Enclosed (token :: rest) := by
  simp only [Kind.isNoBracket, Bool.and_eq_true, Bool.not_eq_true'] at plain
  intro depth
  rw [depthBehind?_cons, bracketsBehind?, found, plain.1.1, plain.1.2,
    plain.2, Bool.or_true]
  exact more depth

theorem closing (enclosed : Enclosed row) (more : Closing rest) :
    Closing (row ++ rest) := by
  intro depth
  rw [depthBehind?_append, enclosed, Option.bind_some, more depth]

theorem paired (enclosed : Enclosed row) : Paired row := enclosed 0

end Enclosed

namespace Closing

variable {row : List Token} {token : Token}

theorem single {kind : Kind} (found : token.kind = kind)
    (closes : kind.closesBracket = true) : Closing [token] := by
  intro depth
  rw [depthBehind?_cons, bracketsBehind?, found,
    Kind.opensBracket_of_closesBracket closes, closes,
    if_neg Bool.false_ne_true, if_pos rfl, if_neg (Nat.succ_ne_zero _)]
  rfl

theorem enclosed
    {kind : Kind} (closing : Closing row) (found : token.kind = kind)
    (opens : kind.opensBracket = true) : Enclosed (token :: row) := by
  intro depth
  rw [depthBehind?_cons, bracketsBehind?, found, opens, if_pos rfl,
    Option.bind_some, closing depth]

end Closing

theorem Enclosed.bracketed
    {opening closing : Token} {opener closer : Kind} (enclosed : Enclosed row)
    (first : opening.kind = opener) (opens : opener.opensBracket = true)
    (last : closing.kind = closer) (closes : closer.closesBracket = true) :
    Enclosed (opening :: (row ++ [closing])) :=
  (enclosed.closing (.single last closes)).enclosed first opens

namespace Paired

variable {row rest : List Token} {token : Token}

theorem nil : Paired [] := rfl

theorem append (first : Paired row) (second : Paired rest) :
    Paired (row ++ rest) := by
  rw [Paired, depthBehind?_append, first, Option.bind_some, second]

/-- Outside of brackets anything may stand that is no bracket. -/
theorem cons {kind : Kind} (found : token.kind = kind)
    (plain : kind.isNoBracket = true) (more : Paired rest) :
    Paired (token :: rest) := by
  simp only [Kind.isNoBracket, Bool.and_eq_true, Bool.not_eq_true'] at plain
  rw [Paired, depthBehind?_cons, bracketsBehind?, found, plain.1, plain.2]
  exact more

end Paired

/-! ## Tokens inside of brackets -/

def openings (row : List Token) : Nat :=
  row.countP fun token => token.kind.opensBracket

def closings (row : List Token) : Nat :=
  row.countP fun token => token.kind.closesBracket

/-- Behind some tokens one is inside of brackets: some bracket has been opened,
and from there on never more brackets have been closed than opened. -/
def InBrackets (front : List Token) : Prop :=
  ∃ before opening inside,
    front = before ++ opening :: inside ∧ opening.kind.opensBracket = true ∧
      ∀ passed, passed <+: inside → closings passed ≤ openings passed

theorem openings_append (row rest : List Token) :
    openings (row ++ rest) = openings row + openings rest :=
  List.countP_append

theorem closings_append (row rest : List Token) :
    closings (row ++ rest) = closings row + closings rest :=
  List.countP_append

/-- What is open behind a token, what it opens and what it closes. -/
theorem bracketsBehind?_eq
    (counted : bracketsBehind? depth token = some behind) :
    behind + closings [token] = depth + openings [token] := by
  simp only [openings, closings, List.countP_singleton]
  unfold bracketsBehind? at counted
  cases closes : token.kind.closesBracket with
  | true =>
    rw [closes, Kind.opensBracket_of_closesBracket closes] at counted
    rw [Kind.opensBracket_of_closesBracket closes]
    grind
  | false =>
    rw [closes] at counted
    grind

theorem depthBehind?_eq (counted : depthBehind? depth row = some behind) :
    behind + closings row = depth + openings row := by
  induction row generalizing depth with
  | nil =>
    cases counted
    rfl
  | cons token rest ih =>
    rw [depthBehind?_cons, Option.bind_eq_some_iff] at counted
    obtain ⟨middle, first, others⟩ := counted
    have one := bracketsBehind?_eq first
    have more := ih others
    rw [← List.singleton_append, openings_append, closings_append]
    omega

theorem staysInLine_of_bracketsBehind?
    (within : 0 < depth) (counted : bracketsBehind? depth token = some behind) :
    token.kind.staysInLine = true := by
  unfold bracketsBehind? at counted
  split at counted
  · rename_i opens
    exact Kind.staysInLine_of_opensBracket opens
  · split at counted
    · rename_i closes
      exact Kind.staysInLine_of_closesBracket closes
    · split at counted
      · rename_i stays
        simpa [Nat.ne_of_gt within] using stays
      · cases counted

/-- At the end of a paired row one is outside of brackets. -/
theorem Paired.not_inBrackets (paired : Paired row) : ¬ InBrackets row := by
  rintro ⟨before, opening, inside, rfl, opens, within⟩
  rw [Paired, depthBehind?_append, Option.bind_eq_some_iff] at paired
  obtain ⟨outside, -, paired⟩ := paired
  rw [depthBehind?_cons, bracketsBehind?, if_pos opens,
    Option.bind_some] at paired
  have total := depthBehind?_eq paired
  have closed := within _ (List.prefix_refl _)
  omega

/-- Inside of the brackets of a paired row no token leaves the line. -/
theorem Paired.staysInLine
    {before inside back : List Token} {opening token : Token}
    (paired : Paired (before ++ opening :: (inside ++ token :: back)))
    (opens : opening.kind.opensBracket = true)
    (balance : closings inside ≤ openings inside) :
    token.kind.staysInLine = true := by
  rw [Paired, depthBehind?_append, Option.bind_eq_some_iff] at paired
  obtain ⟨outside, -, paired⟩ := paired
  rw [depthBehind?_cons, bracketsBehind?, if_pos opens, Option.bind_some,
    depthBehind?_append, Option.bind_eq_some_iff] at paired
  obtain ⟨within, counted, paired⟩ := paired
  rw [depthBehind?_cons, Option.bind_eq_some_iff] at paired
  obtain ⟨_, here, _⟩ := paired
  have total := depthBehind?_eq counted
  exact staysInLine_of_bracketsBehind? (by omega) here

theorem countBracket_eq (depth : Nat) (token : Token) :
    countBracket depth token =
      if token.kind.opensBracket then depth + 1
      else if token.kind.closesBracket then depth - 1
      else depth := by
  unfold countBracket
  split <;> simp_all [Kind.opensBracket, Kind.closesBracket]

/-- The brackets that are counted as open behind an opening bracket and tokens
that break no line. -/
theorem openings_le_openBrackets {before inside : List Token} {opening : Token}
    (opens : opening.kind.opensBracket = true)
    (inLine : ∀ token ∈ inside, token.kind ≠ .newline) :
    1 + openings inside ≤
      openBrackets (before ++ opening :: inside) + closings inside := by
  induction inside using List.reverseRecOn with
  | nil =>
    have visible : opening.kind ≠ .newline := by
      intro breaks
      rw [breaks] at opens
      cases opens
    rw [openBrackets_concat, if_neg visible, countBracket_eq, if_pos opens]
    exact Nat.le_add_left 1 _
  | append_singleton inside token ih =>
    rw [List.forall_mem_append, List.forall_mem_singleton] at inLine
    have counted := ih inLine.1
    rw [← List.cons_append, ← List.append_assoc, openBrackets_concat,
      if_neg inLine.2, countBracket_eq, openings_append, closings_append]
    simp only [openings, closings, List.countP_singleton] at counted ⊢
    cases closes : token.kind.closesBracket with
    | true =>
      rw [Kind.opensBracket_of_closesBracket closes]
      grind
    | false => grind

/-- Inside of the brackets of a paired row a token stays in its line, and the
brackets in front of it are counted as open. -/
theorem Paired.inBrackets
    {front back : List Token} (paired : Paired (front ++ token :: back))
    (inside : InBrackets front) :
    token.kind.staysInLine = true ∧ 0 < openBrackets front := by
  obtain ⟨before, opening, inside, rfl, opens, within⟩ := inside
  rw [List.append_assoc, List.cons_append] at paired
  refine ⟨paired.staysInLine opens (within _ (List.prefix_refl _)), ?_⟩
  have inLine : ∀ other ∈ inside, other.kind ≠ .newline := by
    intro other member breaks
    obtain ⟨passed, rest, rfl⟩ := List.append_of_mem member
    rw [List.append_assoc, List.cons_append] at paired
    have stays := paired.staysInLine opens (within _ (List.prefix_append _ _))
    rw [breaks] at stays
    cases stays
  have counted := @openings_le_openBrackets before inside opening opens inLine
  have closed := within _ (List.prefix_refl _)
  omega

/-! ## Types and expressions -/

theorem Token.isNoBracket_of_dataType?
    {dataType : DataType} (names : Reader.dataType? token = some dataType) :
    (token.kind.isNoBracket && token.kind.staysInLine) = true := by
  unfold Reader.dataType? at names
  split at names
  all_goals first
    | (rename_i kind; rw [kind]; rfl)
    | cases names

theorem TypeName.Spelled.enclosed
    {type : TypeName} (spelled : type.Spelled row) :
    Enclosed row := by
  cases spelled with
  | plain names => exact .cons rfl (Token.isNoBracket_of_dataType? names) .nil
  | array names opens closes =>
    exact .cons rfl (Token.isNoBracket_of_dataType? names) <|
      Enclosed.nil.bracketed opens rfl closes rfl

theorem Token.Spells.enclosed {value : Value} (spells : token.Spells value) :
    Enclosed [token] := by
  cases spells with
  | bool value kind => cases value <;> exact .cons kind rfl .nil
  | int kind => exact .cons kind rfl .nil
  | float kind => exact .cons kind rfl .nil
  | string kind => exact .cons kind rfl .nil
  | none kind => exact .cons kind rfl .nil
  | selfReference kind => exact .cons kind rfl .nil
  | parentReference kind => exact .cons kind rfl .nil

theorem Identifier.SpelledAs.enclosed
    {called : Option Identifier} (named : Identifier.SpelledAs called row) :
    Enclosed row := by
  cases named with
  | unnamed => exact .nil
  | named kind assigns => exact .cons kind rfl (.cons assigns rfl .nil)

/-- A rendering closes every bracket that it opens, in one line. -/
theorem Renders.enclosed {level : Nat} {part : Part} {rendering : Rendering}
    (renders : Renders level part rendering) : Enclosed rendering.tokens := by
  induction renders with
  | literal spells => exact spells.enclosed
  | signed sign kind _ => exact .cons sign rfl (.cons kind rfl .nil)
  | name kind => exact .cons kind rfl .nil
  | parenthesized opens closes _ ih =>
    simp only [Rendering.tokens_cons, Rendering.tokens_append,
      Rendering.tokens_nil]
    exact ih.bracketed opens rfl closes rfl
  | weaken _ _ ih => exact ih
  | @unary _ operator _ _ _ _ kind _ _ ih =>
    exact .cons kind (by cases operator <;> rfl) ih
  | @binary _ operator _ _ _ _ _ _ kind _ _ first second =>
    rw [Rendering.tokens_append]
    exact first.append (.cons kind (by cases operator <;> rfl) second)
  | cast kind _ spelled ih =>
    rw [Rendering.tokens_append, Rendering.tokens_cons, Rendering.tokens_flat]
    exact ih.append (.cons kind rfl spelled.enclosed)
  | member kind named _ ih =>
    rw [Rendering.tokens_append]
    exact ih.append (.cons kind rfl (.cons named rfl .nil))
  | arrayLength kind length _ ih =>
    rw [Rendering.tokens_append]
    exact ih.append (.cons kind rfl (.cons length rfl .nil))
  | index opens closes _ _ _ first second =>
    simp only [Rendering.tokens_cons, Rendering.tokens_append,
      Rendering.tokens_nil]
    exact first.append (second.bracketed opens rfl closes rfl)
  | call opens closes _ _ first second =>
    simp only [Rendering.tokens_cons, Rendering.tokens_append,
      Rendering.tokens_nil]
    exact first.append (second.bracketed opens rfl closes rfl)
  | createObject kind names =>
    exact .cons kind rfl
      (.cons rfl (Token.isNoBracket_of_dataType? names) .nil)
  | createArray kind names opens closes _ ih =>
    simp only [Rendering.tokens_cons, Rendering.tokens_append,
      Rendering.tokens_nil]
    exact .cons kind rfl <|
      .cons rfl (Token.isNoBracket_of_dataType? names) <|
        ih.bracketed opens rfl closes rfl
  | noArguments => exact .nil
  | lastArgument named _ ih =>
    rw [Rendering.tokens_append, Rendering.tokens_flat]
    exact named.enclosed.append ih
  | nextArgument kind named _ _ first second =>
    rw [Rendering.tokens_append, Rendering.tokens_flat,
      Rendering.tokens_append, Rendering.tokens_cons]
    exact named.enclosed.append (first.append (.cons kind rfl second))

/-! ## Headers -/

theorem Literal.Spelled.enclosed {literal : Literal}
    (spelled : literal.Spelled row) : Enclosed row := by
  cases spelled with
  | plain spells => exact spells.enclosed
  | negativeInt sign kind _ => exact .cons sign rfl (.cons kind rfl .nil)
  | negativeFloat sign kind _ _ => exact .cons sign rfl (.cons kind rfl .nil)

theorem Literal.InitialSpelled.enclosed {initial : Option Literal}
    (spelled : InitialSpelled initial row) : Enclosed row := by
  cases spelled with
  | absent => exact .nil
  | present assigns spelled => exact .cons assigns rfl spelled.enclosed

theorem Parameter.LaidOut.enclosed {parameter : Parameter}
    (laid : parameter.LaidOut row) : Enclosed row := by
  cases laid with
  | intro spelled named starts =>
    exact spelled.enclosed.append (.cons named rfl starts.enclosed)

/-- Behind the opening parenthesis parameters stand up to the one that closes
it. -/
theorem Parameter.Listed.closing {list : List Parameter}
    (listed : Listed list row) : Closing row := by
  induction listed with
  | last laid closes => exact laid.enclosed.closing (.single closes rfl)
  | next laid kind _ ih =>
    exact laid.enclosed.closing
      (Enclosed.closing (.cons kind rfl .nil) ih)

theorem Parameter.Parenthesized.enclosed {list : List Parameter}
    (listed : Parenthesized list row) : Enclosed row := by
  cases listed with
  | none opens closes => exact Enclosed.nil.bracketed opens rfl closes rfl
  | some opens listed => exact listed.closing.enclosed opens rfl

theorem CallableFlagged.enclosed {block : Block} {native global : Bool}
    (flagged : CallableFlagged block native global row) : Enclosed row := by
  induction flagged with
  | nil => exact .nil
  | native kind _ ih => exact .cons kind rfl ih
  | global _ kind _ ih => exact .cons kind rfl ih

theorem VariableFlagged.enclosed {conditional : Bool}
    (flagged : VariableFlagged conditional row) : Enclosed row := by
  induction flagged with
  | nil => exact .nil
  | conditional kind _ ih => exact .cons kind rfl ih

/-- The keyword `Auto` may also start a line, so these flags may not stand
inside of brackets. -/
theorem PropertyFlagged.paired
    {automatic : Option Keyword} {hidden conditional : Bool}
    (flagged : PropertyFlagged automatic hidden conditional row) :
    Paired row := by
  induction flagged with
  | nil => exact .nil
  | hidden kind _ ih | conditional kind _ ih | auto kind _ ih
  | autoReadOnly kind _ ih => exact .cons kind rfl ih

theorem Reader.PropertyHeader.Spelled.paired
    {header : Reader.PropertyHeader} (spelled : header.Spelled row) :
    Paired row := by
  cases spelled with
  | intro starts _ flagged => exact starts.enclosed.paired.append flagged.paired

/-! ## Statements -/

theorem IsGap.paired (gaps : IsGap row) : Paired row := by
  induction row with
  | nil => exact .nil
  | cons token rest ih =>
    obtain ⟨first, others⟩ := List.forall_mem_cons.1 gaps
    rcases Kind.isBetween_iff.1 first with breaks | doc
    · exact .cons breaks rfl (ih others)
    · exact .cons doc rfl (ih others)

theorem Expression.ReadFrom.enclosed {tree : Expression}
    (reads : tree.ReadFrom row) : Enclosed row := by
  obtain ⟨value, rendering, rfl, read, -, -⟩ := reads.rendering
  exact read.renders.enclosed

theorem Expression.InitialFrom.enclosed {initial : Option Expression}
    (starts : InitialFrom initial row) : Enclosed row := by
  cases starts with
  | absent => exact .nil
  | present assigns reads => exact .cons assigns rfl reads.enclosed

/-- What is enclosed may end a line. -/
theorem Enclosed.line {line : Token} (enclosed : Enclosed row)
    (ends : line.kind = .newline) : Paired (row ++ [line]) :=
  enclosed.paired.append (.cons ends rfl .nil)

namespace Statement

/-- A layout is paired, by induction on the layout. -/
theorem LaidOut.paired {part : Part} (laid : LaidOut part row) :
    Paired row := by
  induction laid with
  | expression reads ends => exact reads.enclosed.line ends
  | @assign _ _ operator _ _ _ _ _ first assigns second ends =>
    obtain ⟨symbol, kind, rfl, -⟩ :=
      Reader.isLayout_of_assignmentOperator? assigns
    have signed := Paired.cons kind (by cases operator <;> rfl)
      (second.enclosed.line ends)
    exact first.enclosed.paired.append signed
  | result kind ends => exact .cons kind rfl (.cons ends rfl .nil)
  | resultOf kind reads ends => exact .cons kind rfl (reads.enclosed.line ends)
  | declare spelled named starts ends =>
    have named := Paired.cons named rfl (starts.enclosed.line ends)
    exact spelled.enclosed.paired.append named
  | loop kind reads ends _ closes endsToo inside =>
    have last := inside.append (.cons closes rfl (.cons endsToo rfl .nil))
    exact .cons kind rfl ((reads.enclosed.line ends).append last)
  | conditional kind reads ends _ _ inside arms
  | elseIf kind reads ends _ _ inside arms =>
    exact .cons kind rfl
      ((reads.enclosed.line ends).append (inside.append arms))
  | nil => exact .nil
  | cons _ _ first others => exact first.append others
  | otherwise kind ends _ closes endsToo inside =>
    have last := inside.append (.cons closes rfl (.cons endsToo rfl .nil))
    exact .cons kind rfl (.cons ends rfl last)
  | endIf closes ends => exact .cons closes rfl (.cons ends rfl .nil)

/-- So is a layout with gaps between its lines. -/
theorem Spaced.paired {part : Part} (spaced : Spaced part row) :
    Paired row := by
  induction spaced with
  | line laid => exact laid.paired
  | loop kind reads ends _ closes endsToo inside =>
    have last := inside.append (.cons closes rfl (.cons endsToo rfl .nil))
    exact .cons kind rfl ((reads.enclosed.line ends).append last)
  | conditional kind reads ends _ _ inside arms
  | elseIf kind reads ends _ _ inside arms =>
    exact .cons kind rfl
      ((reads.enclosed.line ends).append (inside.append arms))
  | nil gaps => exact gaps.paired
  | cons gaps _ _ first others =>
    exact gaps.paired.append (first.append others)
  | otherwise kind ends _ closes endsToo inside =>
    have last := inside.append (.cons closes rfl (.cons endsToo rfl .nil))
    exact .cons kind rfl (.cons ends rfl last)
  | endIf closes ends => exact .cons closes rfl (.cons ends rfl .nil)

end Statement

end Rows

end PapyrusScript
