import PapyrusScript.Proofs.Soundness

/-!
# Transcripts of bodies and their words

The transcript of a tree is the row of words, signs, names and values that
its text consists of, in their order.  Line breaks, documentation comments and
parentheses belong to the layout of the text and leave no mark in it.

Tokens transcribe marks if they spell them one after the other, once the
tokens of the layout are left out.  A number may be spelled by any literal of
its value, also by a minus and a literal behind it.

No token of a body opens or closes a declaration: the words of a transcript
are those of statements and expressions, and the layout has none.  No token
of a line of a body closes a block, unless the line does nothing else.
-/

namespace PapyrusScript

/-- What a token says, up to the way in which it spells a value. -/
inductive Mark where
  | word (keyword : Keyword)
  | sign (symbol : Symbol)
  | name (text : String)
  | value (value : Value)
  deriving DecidableEq, Repr, Inhabited

/-! ## Transcripts of trees -/

/-- The mark of the elements of a type. -/
def DataType.mark : DataType → Mark
  | .bool => .word .boolType
  | .int => .word .intType
  | .float => .word .floatType
  | .string => .word .stringType
  | .object name => .name name

def TypeName.transcript (type : TypeName) : List Mark :=
  if type.isArray then
    [type.dataType.mark, .sign .openBracket, .sign .closeBracket]
  else
    [type.dataType.mark]

def Identifier.argumentTranscript : Option Identifier → List Mark
  | none => []
  | some node => [.name node.name, .sign .assign]

namespace Expression

mutual

def transcript : Expression → List Mark
  | .literal node => [.value node.value]
  | .name node => [.name node.name]
  | .unary operator operand _ => .sign operator.symbol :: transcript operand
  | .binary operator left right _ =>
    transcript left ++ .sign operator.symbol :: transcript right
  | .call callee arguments _ =>
    transcript callee ++ argumentsTranscript arguments
  | .member object field _ =>
    transcript object ++ [.sign .dot, .name field.name]
  | .index array subscript _ =>
    transcript array ++
      .sign .openBracket :: (transcript subscript ++ [.sign .closeBracket])
  | .cast operand target _ =>
    transcript operand ++ .word .castAs :: target.transcript
  | .create type size _ =>
    .word .newObject :: type.dataType.mark :: sizeTranscript size
  | .arrayLength array _ =>
    transcript array ++ [.sign .dot, .word .length]

def sizeTranscript : Option Expression → List Mark
  | none => []
  | some size =>
    .sign .openBracket :: (transcript size ++ [.sign .closeBracket])

def argumentTranscript : Argument Expression → List Mark
  | ⟨called, value, _⟩ =>
    Identifier.argumentTranscript called ++ transcript value

def argumentsTranscript : List (Argument Expression) → List Mark
  | [] => []
  | argument :: rest =>
    argumentTranscript argument ++ furtherTranscript rest

def furtherTranscript : List (Argument Expression) → List Mark
  | [] => []
  | argument :: rest =>
    .sign .comma :: (argumentTranscript argument ++ furtherTranscript rest)

end

def returnedTranscript : Option Expression → List Mark
  | none => []
  | some value => value.transcript

def initialTranscript : Option Expression → List Mark
  | none => []
  | some value => .sign .assign :: value.transcript

end Expression

namespace Statement

mutual

def transcript : Statement → List Mark
  | .expression value _ => value.transcript
  | .assign target operator value _ =>
    target.transcript ++ .sign operator.symbol :: value.transcript
  | .conditional branches otherwise _ =>
    armsTranscript .ifThen branches ++
      (otherwiseTranscript otherwise ++ [.word .endIf])
  | .loop condition body _ =>
    .word .whileLoop ::
      (condition.transcript ++ (bodyTranscript body ++ [.word .endWhile]))
  | .result value _ =>
    .word .returnValue :: Expression.returnedTranscript value
  | .declare type name initial _ =>
    type.transcript ++ .name name.name :: Expression.initialTranscript initial

def bodyTranscript : List Statement → List Mark
  | [] => []
  | statement :: rest => transcript statement ++ bodyTranscript rest

/-- The transcript of the arms of a conditional, the first of which starts
with a keyword of its own. -/
def armsTranscript (opener : Keyword) : List (Branch Statement) → List Mark
  | [] => []
  | branch :: rest =>
    .word opener :: (branchTranscript branch ++ armsTranscript .elseIf rest)

def branchTranscript : Branch Statement → List Mark
  | ⟨condition, body, _⟩ => condition.transcript ++ bodyTranscript body

def otherwiseTranscript : Option (List Statement) → List Mark
  | none => []
  | some body => .word .otherwise :: bodyTranscript body

end

end Statement

/-! ## Tokens that spell marks -/

/-- The tokens that spell a mark. -/
inductive Mark.Spelled : Mark → List Token → Prop
  | word {token : Token} {keyword : Keyword}
      (kind : token.kind = .keyword keyword) : Spelled (.word keyword) [token]
  | sign {token : Token} {symbol : Symbol}
      (kind : token.kind = .symbol symbol) : Spelled (.sign symbol) [token]
  | name {token : Token} (kind : token.kind = .identifier) :
      Spelled (.name token.text) [token]
  | value {token : Token} {value : Value} (spells : token.Spells value) :
      Spelled (.value value) [token]
  | negative {minus token : Token} {number : Int32}
      (sign : minus.kind = .symbol .minus) (kind : token.kind = .intLiteral)
      (reads : Number.integer? true token.text.toList = some number) :
      Spelled (.value (.int number)) [minus, token]

/-- The tokens that spell marks one after the other. -/
inductive Mark.SpelledInTurn : List Mark → List Token → Prop
  | nil : SpelledInTurn [] []
  | cons {mark : Mark} {marks : List Mark} {row rest : List Token}
      (first : mark.Spelled row) (more : SpelledInTurn marks rest) :
      SpelledInTurn (mark :: marks) (row ++ rest)

def Kind.isLayout (kind : Kind) : Bool :=
  kind = .newline || kind = .docComment || kind = .symbol .openParen ||
    kind = .symbol .closeParen

def withoutLayout (row : List Token) : List Token :=
  row.filter fun token => !token.kind.isLayout

def Transcribes (row : List Token) (marks : List Mark) : Prop :=
  Mark.SpelledInTurn marks (withoutLayout row)

theorem Mark.SpelledInTurn.append
    {first second : List Mark} {row rest : List Token}
    (spelled : SpelledInTurn first row) (more : SpelledInTurn second rest) :
    SpelledInTurn (first ++ second) (row ++ rest) := by
  induction spelled with
  | nil => exact more
  | cons mark _ ih =>
    rw [List.cons_append, List.append_assoc]
    exact .cons mark ih

theorem Mark.Spelled.inTurn
    {mark : Mark} {row : List Token} (spelled : mark.Spelled row) :
    SpelledInTurn [mark] row := by
  have single := SpelledInTurn.cons spelled .nil
  rwa [List.append_nil] at single

namespace Transcribes

variable {row rest : List Token} {marks more : List Mark} {token : Token}

theorem nil : Transcribes [] [] := Mark.SpelledInTurn.nil

theorem append
    (first : Transcribes row marks) (second : Transcribes rest more) :
    Transcribes (row ++ rest) (marks ++ more) := by
  unfold Transcribes withoutLayout
  rw [List.filter_append]
  exact Mark.SpelledInTurn.append first second

theorem layout (isLayout : token.kind.isLayout = true) :
    Transcribes [token] [] := by
  unfold Transcribes withoutLayout
  rw [List.filter_cons_of_neg (by simp [isLayout])]
  exact .nil

theorem single {mark : Mark} (counts : token.kind.isLayout = false)
    (spelled : mark.Spelled [token]) : Transcribes [token] [mark] := by
  unfold Transcribes withoutLayout
  rw [List.filter_cons_of_pos (by simp [counts])]
  exact spelled.inTurn

theorem word {keyword : Keyword} (kind : token.kind = .keyword keyword) :
    Transcribes [token] [.word keyword] :=
  single (by rw [kind]; rfl) (.word kind)

theorem sign {symbol : Symbol} (kind : token.kind = .symbol symbol)
    (counts : (Kind.symbol symbol).isLayout = false) :
    Transcribes [token] [.sign symbol] :=
  single (by rw [kind]; exact counts) (.sign kind)

theorem name (kind : token.kind = .identifier) :
    Transcribes [token] [.name token.text] :=
  single (by rw [kind]; rfl) (.name kind)

theorem cons {mark : Mark} (first : Transcribes [token] [mark])
    (second : Transcribes rest more) :
    Transcribes (token :: rest) (mark :: more) :=
  first.append second

theorem append_bare
    (first : Transcribes row marks) (second : Transcribes rest []) :
    Transcribes (row ++ rest) marks := by
  have whole := first.append second
  rwa [List.append_nil] at whole

theorem cons_layout (isLayout : token.kind.isLayout = true)
    (second : Transcribes rest more) : Transcribes (token :: rest) more :=
  (layout isLayout).append second

end Transcribes

/-! ## The words of a body -/

variable {row : List Token} {marks : List Mark}

def Keyword.isOfBody : Keyword → Bool
  | .ifThen => true
  | .elseIf => true
  | .otherwise => true
  | .endIf => true
  | .whileLoop => true
  | .endWhile => true
  | .returnValue => true
  | .castAs => true
  | .newObject => true
  | .length => true
  | .noneLiteral => true
  | .trueLiteral => true
  | .falseLiteral => true
  | .selfReference => true
  | .parentReference => true
  | .boolType => true
  | .intType => true
  | .floatType => true
  | .stringType => true
  | _ => false

/-- Whether a word may stand in a line that neither opens nor closes a
block. -/
def Keyword.isOfLine : Keyword → Bool
  | .returnValue => true
  | .castAs => true
  | .newObject => true
  | .length => true
  | .boolType => true
  | .intType => true
  | .floatType => true
  | .stringType => true
  | _ => false

def Kind.isOfBody : Kind → Bool
  | .keyword word => word.isOfBody
  | .invalid _ => false
  | .endOfText => false
  | _ => true

def Mark.isOfBody : Mark → Bool
  | .word keyword => keyword.isOfBody
  | _ => true

def Mark.isOfLine : Mark → Bool
  | .word keyword => keyword.isOfLine
  | _ => true

theorem Mark.isOfBody_of_isOfLine
    {mark : Mark} (ofLine : mark.isOfLine = true) :
    mark.isOfBody = true := by
  cases mark with
  | word keyword => cases keyword <;> first | rfl | cases ofLine
  | _ => rfl

theorem Mark.all_isOfBody (ofLine : marks.all isOfLine = true) :
    marks.all isOfBody = true :=
  List.all_eq_true.2 fun mark member =>
    isOfBody_of_isOfLine (List.all_eq_true.1 ofLine mark member)

@[simp]
theorem DataType.isOfLine_mark (dataType : DataType) :
    dataType.mark.isOfLine = true := by
  cases dataType <;> rfl

@[simp]
theorem Mark.isOfLine_sign (symbol : Symbol) :
    (Mark.sign symbol).isOfLine = true :=
  rfl

@[simp]
theorem Mark.isOfLine_name (text : String) :
    (Mark.name text).isOfLine = true :=
  rfl

@[simp]
theorem Mark.isOfLine_word (keyword : Keyword) :
    (Mark.word keyword).isOfLine = keyword.isOfLine :=
  rfl

@[simp]
theorem Mark.isOfBody_sign (symbol : Symbol) :
    (Mark.sign symbol).isOfBody = true :=
  rfl

@[simp]
theorem Mark.isOfBody_name (text : String) : (Mark.name text).isOfBody = true :=
  rfl

@[simp]
theorem Mark.isOfBody_word (keyword : Keyword) :
    (Mark.word keyword).isOfBody = keyword.isOfBody :=
  rfl

@[simp]
theorem TypeName.all_transcript (type : TypeName) :
    type.transcript.all Mark.isOfLine = true := by
  unfold TypeName.transcript
  split <;> simp

@[simp]
theorem Identifier.all_argumentTranscript (called : Option Identifier) :
    (Identifier.argumentTranscript called).all Mark.isOfLine = true := by
  cases called <;> rfl

namespace Expression

mutual

/-- Every mark of an expression may stand in a line. -/
theorem all_transcript :
    ∀ tree : Expression, tree.transcript.all Mark.isOfLine = true
  | .literal _ => rfl
  | .name _ => rfl
  | .unary _ operand _ => by
      simp [transcript, all_transcript operand]
  | .binary _ left right _ => by
      simp [transcript, all_transcript left, all_transcript right]
  | .call callee arguments _ => by
      simp [transcript, all_transcript callee,
        all_argumentsTranscript arguments]
  | .member object _ _ => by
      simp [transcript, all_transcript object]
  | .index array subscript _ => by
      simp [transcript, all_transcript array, all_transcript subscript]
  | .cast operand _ _ => by
      simp [transcript, all_transcript operand, Keyword.isOfLine]
  | .create _ size _ => by
      simp [transcript, all_sizeTranscript size, Keyword.isOfLine]
  | .arrayLength array _ => by
      simp [transcript, all_transcript array, Keyword.isOfLine]

theorem all_sizeTranscript :
    ∀ size : Option Expression,
      (sizeTranscript size).all Mark.isOfLine = true
  | none => rfl
  | some size => by
      simp [sizeTranscript, all_transcript size]

theorem all_argumentTranscript :
    ∀ argument : Argument Expression,
      (argumentTranscript argument).all Mark.isOfLine = true
  | ⟨_, value, _⟩ => by
      simp [argumentTranscript, all_transcript value]

theorem all_argumentsTranscript :
    ∀ arguments : List (Argument Expression),
      (argumentsTranscript arguments).all Mark.isOfLine = true
  | [] => rfl
  | argument :: rest => by
      simp [argumentsTranscript, all_argumentTranscript argument,
        all_furtherTranscript rest]

theorem all_furtherTranscript :
    ∀ arguments : List (Argument Expression),
      (furtherTranscript arguments).all Mark.isOfLine = true
  | [] => by simp [furtherTranscript]
  | argument :: rest => by
      simp [furtherTranscript, all_argumentTranscript argument,
        all_furtherTranscript rest]

end

@[simp]
theorem all_isOfBody (tree : Expression) :
    tree.transcript.all Mark.isOfBody = true :=
  Mark.all_isOfBody tree.all_transcript

end Expression

namespace Statement

mutual

/-- Every mark of a statement may stand in a body. -/
theorem all_transcript :
    ∀ tree : Statement, tree.transcript.all Mark.isOfBody = true
  | .expression value _ => by
      simp [transcript, value.all_isOfBody]
  | .assign target _ value _ => by
      simp [transcript, target.all_isOfBody, value.all_isOfBody]
  | .conditional branches otherwise _ => by
      simp [transcript, all_armsTranscript .ifThen rfl branches,
        all_otherwiseTranscript otherwise, Keyword.isOfBody]
  | .loop condition body _ => by
      simp [transcript, condition.all_isOfBody, all_bodyTranscript body,
        Keyword.isOfBody]
  | .result none _ => rfl
  | .result (some value) _ => by
      simp [transcript, Expression.returnedTranscript, value.all_isOfBody,
        Keyword.isOfBody]
  | .declare type _ none _ => by
      simp [transcript, Expression.initialTranscript,
        Mark.all_isOfBody type.all_transcript]
  | .declare type _ (some value) _ => by
      simp [transcript, Expression.initialTranscript, value.all_isOfBody,
        Mark.all_isOfBody type.all_transcript]

theorem all_bodyTranscript :
    ∀ body : List Statement, (bodyTranscript body).all Mark.isOfBody = true
  | [] => rfl
  | statement :: rest => by
      simp [bodyTranscript, all_transcript statement, all_bodyTranscript rest]

theorem all_armsTranscript (opener : Keyword) (allowed : opener.isOfBody = true) :
    ∀ branches : List (Branch Statement),
      (armsTranscript opener branches).all Mark.isOfBody = true
  | [] => by simp [armsTranscript]
  | branch :: rest => by
      simp [armsTranscript, all_branchTranscript branch,
        all_armsTranscript .elseIf rfl rest, allowed]

theorem all_branchTranscript :
    ∀ branch : Branch Statement,
      (branchTranscript branch).all Mark.isOfBody = true
  | ⟨condition, body, _⟩ => by
      simp [branchTranscript, condition.all_isOfBody, all_bodyTranscript body]

theorem all_otherwiseTranscript :
    ∀ otherwise : Option (List Statement),
      (otherwiseTranscript otherwise).all Mark.isOfBody = true
  | none => rfl
  | some body => by
      simp [otherwiseTranscript, all_bodyTranscript body, Keyword.isOfBody]

end

end Statement

/-! ## The tokens of a body -/

theorem Kind.isOfBody_of_isLayout
    {kind : Kind} (layout : kind.isLayout = true) :
    kind.isOfBody = true := by
  cases kind with
  | keyword word => simp [isLayout] at layout
  | invalid error => simp [isLayout] at layout
  | endOfText => simp [isLayout] at layout
  | _ => rfl

theorem Token.Spells.isOfBody
    {token : Token} {value : Value} (spells : token.Spells value) :
    token.kind.isOfBody = true := by
  cases spells with
  | bool value kind => cases value <;> rw [kind] <;> rfl
  | _ => simp [Kind.isOfBody, Keyword.isOfBody, *]

theorem Mark.Spelled.isOfBody {mark : Mark} (spelled : mark.Spelled row)
    (allowed : mark.isOfBody = true) :
    ∀ token ∈ row, token.kind.isOfBody = true := by
  cases spelled with
  | word kind => exact List.forall_mem_singleton.2 (by rw [kind]; exact allowed)
  | sign kind => exact List.forall_mem_singleton.2 (by rw [kind]; rfl)
  | name kind => exact List.forall_mem_singleton.2 (by rw [kind]; rfl)
  | value spells => exact List.forall_mem_singleton.2 spells.isOfBody
  | negative sign kind _ =>
    refine List.forall_mem_cons.2 ⟨by rw [sign]; rfl, ?_⟩
    exact List.forall_mem_singleton.2 (by rw [kind]; rfl)

theorem Mark.SpelledInTurn.isOfBody
    (spelled : SpelledInTurn marks row) (allowed : marks.all isOfBody = true) :
    ∀ token ∈ row, token.kind.isOfBody = true := by
  induction spelled with
  | nil => exact List.forall_mem_nil _
  | cons first _ ih =>
    rw [List.all_cons, Bool.and_eq_true] at allowed
    exact List.forall_mem_append.2
      ⟨first.isOfBody allowed.1, ih allowed.2⟩

/-- The tokens that transcribe a body are tokens of bodies. -/
theorem Transcribes.isOfBody {body : List Statement}
    (transcribes : Transcribes row (Statement.bodyTranscript body)) :
    ∀ token ∈ row, token.kind.isOfBody = true := by
  intro token member
  cases isLayout : token.kind.isLayout with
  | true => exact Kind.isOfBody_of_isLayout isLayout
  | false =>
    exact Mark.SpelledInTurn.isOfBody transcribes
      (Statement.all_bodyTranscript body) token
      (List.mem_filter.2 ⟨member, by simp [isLayout]⟩)

/-! ## The tokens of a line -/

def ClosesNothing (row : List Token) : Prop :=
  ∀ token ∈ row, token.kind.isBlockTerminator = false

theorem ClosesNothing.append
    {first second : List Token} (one : ClosesNothing first)
    (other : ClosesNothing second) : ClosesNothing (first ++ second) :=
  List.forall_mem_append.2 ⟨one, other⟩

theorem ClosesNothing.of_kind
    {token : Token} {kind : Kind} (found : token.kind = kind)
    (inside : kind.isBlockTerminator = false) : ClosesNothing [token] :=
  List.forall_mem_singleton.2 (found ▸ inside)

theorem closesNothing_of_dataType? {token : Token} {dataType : DataType}
    (names : Reader.dataType? token = some dataType) :
    ClosesNothing [token] := by
  unfold Reader.dataType? at names
  split at names
  all_goals first
    | (rename_i kind; exact .of_kind kind rfl)
    | cases names

theorem TypeName.Spelled.closesNothing
    {type : TypeName} (spelled : type.Spelled row) :
    ClosesNothing row := by
  cases spelled with
  | plain names => exact closesNothing_of_dataType? names
  | array names opens closes =>
    exact (closesNothing_of_dataType? names).append <|
      (ClosesNothing.of_kind opens rfl).append (.of_kind closes rfl)

/-- A mark of a line closes no block. -/
theorem Mark.Spelled.closesNothing {mark : Mark} (spelled : mark.Spelled row)
    (allowed : mark.isOfLine = true) : ClosesNothing row := by
  cases spelled with
  | @word _ keyword kind =>
    refine .of_kind kind ?_
    cases keyword <;> first | rfl | cases allowed
  | sign kind => exact .of_kind kind rfl
  | name kind => exact .of_kind kind rfl
  | value spells =>
    cases spells with
    | bool value kind => cases value <;> exact .of_kind kind rfl
    | int kind => exact .of_kind kind rfl
    | float kind => exact .of_kind kind rfl
    | string kind => exact .of_kind kind rfl
    | none kind => exact .of_kind kind rfl
    | selfReference kind => exact .of_kind kind rfl
    | parentReference kind => exact .of_kind kind rfl
  | negative sign kind _ =>
    exact (ClosesNothing.of_kind sign rfl).append (.of_kind kind rfl)

theorem Mark.SpelledInTurn.closesNothing (spelled : SpelledInTurn marks row)
    (allowed : marks.all isOfLine = true) : ClosesNothing row := by
  induction spelled with
  | nil => exact List.forall_mem_nil _
  | cons first _ ih =>
    rw [List.all_cons, Bool.and_eq_true] at allowed
    exact (first.closesNothing allowed.1).append
      (ih allowed.2)

/-- A row that transcribes no word of a block closes nothing. -/
theorem Transcribes.closesNothing (transcribes : Transcribes row marks)
    (allowed : marks.all Mark.isOfLine = true) : ClosesNothing row := by
  intro token member
  cases isLayout : token.kind.isLayout with
  | true =>
    cases found : token.kind with
    | keyword word => simp [found, Kind.isLayout] at isLayout
    | _ => rfl
  | false =>
    exact Mark.SpelledInTurn.closesNothing transcribes allowed token
      (List.mem_filter.2 ⟨member, by simp [isLayout]⟩)

end PapyrusScript
