import PapyrusScript.Proofs.ReadFrom

/-!
# Layouts of statements, and the lines they consist of

A layout of a body has each statement, each keyword of a block and each
terminator on its own line.  For every expression in it stands some row of
tokens that is read as that expression.  `Statement.bare` forgets the places
of a statement, as `Expression.bare` does for an expression.

Ends of lines, types, expressions and conditions are taken from the rows that
a layout has for them, and so is a statement of one line.  What the line is, is
decided by its first tokens: a keyword, a type and a name, or neither.
-/

namespace PapyrusScript

variable {cursor : Cursor}

/-! ## Statements -/

namespace Statement

mutual

/-- A statement without the places of its parts. -/
def bare : Statement → Statement
  | .expression value _ => .expression value.bare .nowhere
  | .assign target operator value _ =>
    .assign target.bare operator value.bare .nowhere
  | .conditional branches otherwise _ =>
    .conditional (bareBranches branches) (bareOtherwise otherwise) .nowhere
  | .loop condition body _ => .loop condition.bare (bareBody body) .nowhere
  | .result value _ => .result (value.map Expression.bare) .nowhere
  | .declare type name initial _ =>
    .declare type.bare name.bare (initial.map Expression.bare) .nowhere

def bareBody : List Statement → List Statement
  | [] => []
  | statement :: rest => bare statement :: bareBody rest

def bareBranch : Branch Statement → Branch Statement
  | ⟨condition, body, _⟩ => ⟨condition.bare, bareBody body, .nowhere⟩

def bareBranches : List (Branch Statement) → List (Branch Statement)
  | [] => []
  | branch :: rest => bareBranch branch :: bareBranches rest

/-- The last resort of a conditional without the places of its parts. -/
def bareOtherwise : Option (List Statement) → Option (List Statement)
  | none => none
  | some body => some (bareBody body)

end

mutual

/-- Every assignment in the statement is to something that can be assigned
to, and every conditional in it has a branch. -/
def WellFormed : Statement → Prop
  | .assign target _ _ _ => target.isAssignable = true
  | .conditional branches otherwise _ =>
    branches ≠ [] ∧ WellFormedBranches branches ∧ WellFormedOtherwise otherwise
  | .loop _ body _ => WellFormedBody body
  | _ => True

def WellFormedBody : List Statement → Prop
  | [] => True
  | statement :: rest => WellFormed statement ∧ WellFormedBody rest

def WellFormedBranch : Branch Statement → Prop
  | ⟨_, body, _⟩ => WellFormedBody body

def WellFormedBranches : List (Branch Statement) → Prop
  | [] => True
  | branch :: rest => WellFormedBranch branch ∧ WellFormedBranches rest

def WellFormedOtherwise : Option (List Statement) → Prop
  | none => True
  | some body => WellFormedBody body

end

end Statement

/-- The tokens of an initial value of a local variable. -/
inductive Expression.InitialFrom : Option Expression → List Token → Prop
  | absent : InitialFrom none []
  | present {sign : Token} {value : Expression} {row : List Token}
      (assigns : sign.kind = .symbol .assign) (reads : value.ReadFrom row) :
      InitialFrom (some value) (sign :: row)

/-- What a layout is of: a statement, a body, or the arms of a conditional
behind its first one, up to its end. -/
inductive Statement.Part where
  | single (tree : Statement)
  | body (list : List Statement)
  | arms (branches : List (Branch Statement))
      (otherwise : Option (List Statement))

/-- A layout of a part of a body. -/
inductive Statement.LaidOut : Statement.Part → List Token → Prop
  | expression {value : Expression} {span : Span} {row : List Token}
      {line : Token} (reads : value.ReadFrom row)
      (ends : line.kind = .newline) :
      LaidOut (.single (.expression value span)) (row ++ [line])
  | assign {target value : Expression} {operator : AssignmentOperator}
      {span : Span} {before behind : List Token} {sign line : Token}
      (first : target.ReadFrom before)
      (assigns : sign.kind.assignmentOperator? = some operator)
      (second : value.ReadFrom behind) (ends : line.kind = .newline) :
      LaidOut (.single (.assign target operator value span))
        (before ++ sign :: (behind ++ [line]))
  | result {word line : Token} {span : Span}
      (kind : word.kind = .keyword .returnValue)
      (ends : line.kind = .newline) :
      LaidOut (.single (.result none span)) [word, line]
  | resultOf {word line : Token} {value : Expression} {span : Span}
      {row : List Token} (kind : word.kind = .keyword .returnValue)
      (reads : value.ReadFrom row) (ends : line.kind = .newline) :
      LaidOut (.single (.result (some value) span)) (word :: (row ++ [line]))
  | declare {type : TypeName} {initial : Option Expression}
      {nameSpan span : Span} {row behind : List Token} {token line : Token}
      (spelled : type.Spelled row) (named : token.kind = .identifier)
      (starts : Expression.InitialFrom initial behind)
      (ends : line.kind = .newline) :
      LaidOut (.single (.declare type ⟨token.text, nameSpan⟩ initial span))
        (row ++ token :: (behind ++ [line]))
  | loop {condition : Expression} {body : List Statement} {span : Span}
      {word closer line last : Token} {row inside : List Token}
      (kind : word.kind = .keyword .whileLoop)
      (reads : condition.ReadFrom row) (ends : line.kind = .newline)
      (laid : LaidOut (.body body) inside)
      (closes : closer.kind = .keyword .endWhile)
      (endsToo : last.kind = .newline) :
      LaidOut (.single (.loop condition body span))
        (word :: (row ++ [line] ++ (inside ++ [closer, last])))
  | conditional {condition : Expression} {body : List Statement}
      {more : List (Branch Statement)} {otherwise : Option (List Statement)}
      {branchSpan span : Span} {word line : Token}
      {row inside behind : List Token}
      (kind : word.kind = .keyword .ifThen)
      (reads : condition.ReadFrom row) (ends : line.kind = .newline)
      (laid : LaidOut (.body body) inside)
      (rest : LaidOut (.arms more otherwise) behind) :
      LaidOut
        (.single
          (.conditional (⟨condition, body, branchSpan⟩ :: more) otherwise
            span))
        (word :: (row ++ [line] ++ (inside ++ behind)))
  | nil : LaidOut (.body []) []
  | cons {statement : Statement} {body : List Statement}
      {row behind : List Token} (laid : LaidOut (.single statement) row)
      (rest : LaidOut (.body body) behind) :
      LaidOut (.body (statement :: body)) (row ++ behind)
  | elseIf {condition : Expression} {body : List Statement}
      {more : List (Branch Statement)} {otherwise : Option (List Statement)}
      {span : Span} {word line : Token} {row inside behind : List Token}
      (kind : word.kind = .keyword .elseIf)
      (reads : condition.ReadFrom row) (ends : line.kind = .newline)
      (laid : LaidOut (.body body) inside)
      (rest : LaidOut (.arms more otherwise) behind) :
      LaidOut (.arms (⟨condition, body, span⟩ :: more) otherwise)
        (word :: (row ++ [line] ++ (inside ++ behind)))
  | otherwise {body : List Statement} {word line closer last : Token}
      {inside : List Token} (kind : word.kind = .keyword .otherwise)
      (ends : line.kind = .newline) (laid : LaidOut (.body body) inside)
      (closes : closer.kind = .keyword .endIf)
      (endsToo : last.kind = .newline) :
      LaidOut (.arms [] (some body))
        (word :: line :: (inside ++ [closer, last]))
  | endIf {closer last : Token} (closes : closer.kind = .keyword .endIf)
      (ends : last.kind = .newline) : LaidOut (.arms [] none) [closer, last]

/-! ## The first tokens of a line -/

def Kind.startsType (kind : Kind) : Prop :=
  (kind.isTypeKeyword || kind = .identifier) = true

instance (kind : Kind) : Decidable kind.startsType :=
  inferInstanceAs (Decidable (_ = true))

/-- The end of a line: a line break, or nothing at the end of the text. -/
inductive LineEnd (rest : List Token) : List Token → Prop
  | newline {line : Token} (ends : line.kind = .newline) : LineEnd rest [line]
  | text (ends : Heads (· = .endOfText) rest) : LineEnd rest []

namespace Reader

open Cursor

variable {row rest ending : List Token} {line : Token}

/-! ## Ends of lines -/

theorem takes_skipNewlines (heads : Heads (· ≠ .newline) rest) :
    skipNewlines.Takes [] rest fun _ => True := by
  unfold skipNewlines
  apply Recovery.Takes.done Recovery.proceeds_passNewline
  unfold passNewline
  apply Recovery.Takes.get
  intro cursor here
  rw [if_neg (heads.kind here)]
  exact .pure ⟨(), rfl, trivial⟩

theorem takes_endOfLine (ends : line.kind = .newline) (context : String) :
    (endOfLine context).Takes [line] rest fun _ => True := by
  unfold endOfLine
  apply Takes.get
  intro cursor here
  rw [(kind_of_budget here).trans ends]
  apply Takes.advance (by simp [ends])
  exact .pure trivial

theorem takes_finishLine (ends : line.kind = .newline) (context : String) :
    (finishLine context).Takes [line] rest fun _ => True := by
  unfold finishLine
  apply Recovery.Takes.bind_nil (takes_endOfLine ends context).run
  intro _ reached
  obtain ⟨_, rfl, _⟩ := reached
  exact .pure trivial

/-- The end of a line is taken, be it a line break or that of the text. -/
theorem takes_finishLine_of_lineEnd
    (ends : LineEnd rest ending) (context : String) :
    (finishLine context).Takes ending rest fun _ => True := by
  cases ends with
  | newline ends => exact takes_finishLine ends context
  | text ends =>
    have read : (endOfLine context).Takes [] rest fun _ => True := by
      unfold endOfLine
      apply Takes.get
      intro cursor here
      rw [ends.kind here]
      exact .pure trivial
    unfold finishLine
    apply Recovery.Takes.bind_nil read.run
    rintro _ ⟨_, rfl, _⟩
    exact .pure trivial

/-! ## Types and expressions -/

theorem takes_typeName {type : TypeName} (spelled : type.Spelled row)
    (apart : Heads (· ≠ .symbol .openBracket) rest) :
    typeName.Takes row rest fun found => found.bare = type.bare := by
  intro cursor here
  cases rest with
  | nil => exact apart.elim
  | cons follow rest =>
    apply reads_typeName spelled apart here
    intro after place quiet found same
    exact ⟨same, place, quiet⟩

theorem takes_expression {tree : Expression} (reads : tree.ReadFrom row)
    (stops : Heads (fun kind => kind.endsExpression = true) rest) :
    expression.Takes row rest fun value => value.bare = tree.bare := by
  intro cursor here
  cases rest with
  | nil => exact stops.elim
  | cons follow rest =>
    have ends := Kind.continuation?_of_endsExpression stops
    apply (reads.ends here ends).mono
    · intro value after reached
      obtain ⟨same, place, quiet⟩ := reached
      exact ⟨same, place, quiet⟩
    · intro _ _ never
      exact never

theorem endsExpression_of_newline (ends : line.kind = .newline) :
    Heads (fun kind => kind.endsExpression = true) (line :: rest) := by
  show line.kind.endsExpression = true
  rw [ends]
  rfl

theorem takes_condition {tree : Expression} (reads : tree.ReadFrom row)
    (ends : line.kind = .newline) (context : String) :
    (condition context).Takes (row ++ [line]) rest fun found =>
      ∃ value, found = some value ∧ value.bare = tree.bare := by
  unfold condition
  apply Recovery.Takes.bind
    (takes_expression reads (endsExpression_of_newline ends)).run
  intro _ reached
  obtain ⟨value, rfl, same⟩ := reached
  apply Recovery.Takes.bind_nil (takes_endOfLine ends context).run
  intro _ reached
  obtain ⟨_, rfl, _⟩ := reached
  exact .pure ⟨value, rfl, same⟩

theorem startsType_of_dataType? {token : Token} {dataType : DataType}
    (names : dataType? token = some dataType) : token.kind.startsType := by
  unfold Kind.startsType
  unfold dataType? at names
  split at names <;> simp_all [Kind.isTypeKeyword]

/-- What stands behind a type is seen from its first token. -/
theorem kindAfterType_of_spelled
    {type : TypeName} {token : Token} {cursor : Cursor}
    (spelled : type.Spelled row) (apart : token.kind ≠ .symbol .openBracket)
    (here : cursor.budget = row ++ token :: rest) :
    cursor.atTypeStart = true ∧ cursor.kindAfterType = token.kind := by
  unfold atTypeStart Cursor.kindAfterType typeLength
  cases spelled with
  | @plain first dataType span names =>
    have starts := startsType_of_dataType? names
    have second : cursor.kindAt 1 = token.kind := by
      rw [kindAt_eq, here]
      rfl
    rw [kind_of_budget here, if_neg (by simp [second, apart])]
    exact ⟨starts, second⟩
  | @array first opening closing dataType span names opens closes =>
    have starts := startsType_of_dataType? names
    have second : cursor.kindAt 1 = .symbol .openBracket := by
      rw [kindAt_eq, here]
      exact opens
    have third : cursor.kindAt 2 = .symbol .closeBracket := by
      rw [kindAt_eq, here]
      exact closes
    have fourth : cursor.kindAt 3 = token.kind := by
      rw [kindAt_eq, here]
      rfl
    rw [kind_of_budget here, if_pos (by simp [second, third])]
    exact ⟨starts, fourth⟩

end Reader

/-! ## Statements on one line -/

open Cursor

/-- A statement starts at the cursor: no blank line, no terminator, no
comment and no declaration. -/
structure Cursor.AtStatement (cursor : Cursor) : Prop where
  line : cursor.kind ≠ .newline
  inside : cursor.kind ≠ .endOfText
  doc : cursor.kind ≠ .docComment
  terminator : cursor.kind.isBlockTerminator = false
  member : cursor.atMemberStart = false

def Keyword.startsStatement : Keyword → Bool
  | .ifThen | .whileLoop | .returnValue => true
  | _ => false

theorem Cursor.AtStatement.of_keyword
    {word : Keyword} (kind : cursor.kind = .keyword word)
    (starts : word.startsStatement = true) : cursor.AtStatement := by
  have member : cursor.atMemberStart = false := by
    unfold atMemberStart atTypeStart
    rw [kind]
    cases word <;> first | rfl | cases starts
  constructor
  · simp [kind]
  · simp [kind]
  · simp [kind]
  · rw [kind]
    cases word <;> first | rfl | cases starts
  · exact member

theorem Kind.isBlockTerminator_of_startsExpression
    {kind : Kind} (starts : kind.startsExpression = true) :
    kind.isBlockTerminator = false := by
  cases kind with
  | keyword word => cases word <;> first | rfl | cases starts
  | _ => rfl

/-- A statement stands where an expression starts and no member does. -/
theorem Cursor.AtStatement.of_startsExpression
    (starts : cursor.kind.startsExpression = true)
    (member : cursor.atMemberStart = false) : cursor.AtStatement := by
  constructor
  · intro kind
    rw [kind] at starts
    cases starts
  · intro kind
    rw [kind] at starts
    cases starts
  · intro kind
    rw [kind] at starts
    cases starts
  · exact Kind.isBlockTerminator_of_startsExpression starts
  · exact member

/-- A statement stands where a type and a name do. -/
theorem Cursor.AtStatement.of_declaration (type : cursor.atTypeStart = true)
    (name : cursor.kindAfterType = .identifier) : cursor.AtStatement := by
  have member : cursor.atMemberStart = false := by
    unfold atTypeStart at type
    unfold atMemberStart
    split <;> simp_all [Kind.isTypeKeyword]
  unfold atTypeStart at type
  constructor
  · intro kind
    simp [kind, Kind.isTypeKeyword] at type
  · intro kind
    simp [kind, Kind.isTypeKeyword] at type
  · intro kind
    simp [kind, Kind.isTypeKeyword] at type
  · cases kind : cursor.kind with
    | keyword word =>
      rw [kind] at type
      cases word <;> first | rfl | cases type
    | _ => rfl
  · exact member

namespace Reader

variable {row rest : List Token} {line : Token}
  {body : Block → Recovery (List Statement)}

/-! ## Return statements -/

/-- A return statement without a value ends with its line at once. -/
theorem takes_returnedValue_of_newline (ends : line.kind = .newline) :
    returnedValue.Takes [] (line :: rest) fun value => value = none := by
  unfold returnedValue
  apply Takes.get
  intro cursor here
  have found : cursor.kind = .newline := (kind_of_budget here).trans ends
  simp only [found, decide_true, Bool.true_or, if_true]
  exact .pure rfl

/-- The value that is returned is taken up to the end of its line. -/
theorem takes_returnedValue {tree : Expression} (reads : tree.ReadFrom row)
    (stops : Heads (fun kind => kind.endsExpression = true) rest) :
    returnedValue.Takes row rest fun value =>
      value.map Expression.bare = some tree.bare := by
  unfold returnedValue
  apply Takes.get
  intro cursor here
  obtain ⟨first, more, rfl, start⟩ := reads.starts
  have kind := kind_of_budget here
  have line : cursor.kind ≠ .newline := by
    intro found
    rw [← kind, found] at start
    cases start
  have inside : cursor.kind ≠ .endOfText := by
    intro found
    rw [← kind, found] at start
    cases start
  simp only [line, inside, decide_false, Bool.or_self, Bool.false_eq_true,
    if_false]
  apply Takes.bind_nil (takes_expression reads stops)
  intro value same
  exact .pure (congrArg some same)

/-- A result is taken with the end of its line. -/
theorem takes_returnStatement
    {word : Token} {value : Option Expression} {span : Span}
    (kind : word.kind = .keyword .returnValue) (ends : line.kind = .newline)
    (read : returnedValue.Takes row (line :: rest) fun found =>
      found.map Expression.bare = value.map Expression.bare) :
    returnStatement.Takes (word :: (row ++ [line])) rest fun found =>
      found.bare = (Statement.result value span).bare := by
  unfold returnStatement
  apply Takes.expect kind (by simp [kind])
  apply Takes.bind read
  intro found same
  apply Takes.get
  intro cursor here
  apply Takes.bind_nil (takes_endOfLine ends _)
  intro _ _
  apply Takes.pure
  simp only [Statement.bare, same]

/-! ## Local variables -/

/-- The initial value of a local variable is taken if there is one. -/
theorem takes_initialExpression {initial : Option Expression}
    (starts : Expression.InitialFrom initial row)
    (ends : line.kind = .newline) :
    initialExpression.Takes row (line :: rest) fun found =>
      found.map Expression.bare = initial.map Expression.bare := by
  unfold initialExpression
  apply Takes.get
  intro cursor here
  cases starts with
  | absent =>
    have other : cursor.kind ≠ .symbol .assign := by
      rw [kind_of_budget here, ends]
      exact nofun
    rw [if_neg other]
    exact .pure rfl
  | present assigns reads =>
    rw [if_pos ((kind_of_budget here).trans assigns)]
    apply Takes.advance (by simp [assigns])
    apply Takes.bind_nil
      (takes_expression reads (endsExpression_of_newline ends))
    intro value same
    exact .pure (congrArg some same)

/-- A local declaration is taken with the end of its line. -/
theorem takes_declareStatement
    {type : TypeName} {initial : Option Expression} {nameSpan span : Span}
    {behind : List Token} {token : Token} (spelled : type.Spelled row)
    (named : token.kind = .identifier)
    (starts : Expression.InitialFrom initial behind)
    (ends : line.kind = .newline) :
    declareStatement.Takes (row ++ token :: (behind ++ [line])) rest
      fun found =>
        found.bare =
          (Statement.declare type ⟨token.text, nameSpan⟩ initial span).bare := by
  have apart : Heads (· ≠ .symbol .openBracket)
      (token :: (behind ++ [line]) ++ rest) := by
    show token.kind ≠ .symbol .openBracket
    simp [named]
  unfold declareStatement
  apply Takes.bind (takes_typeName spelled apart)
  intro foundType sameType
  apply Takes.identifier named
  apply Takes.bind (takes_initialExpression starts ends)
  intro found same
  apply Takes.get
  intro cursor here
  apply Takes.bind_nil (takes_endOfLine ends _)
  intro _ _
  apply Takes.pure
  simp only [Statement.bare, same, sameType]
  rfl

/-! ## Expressions and assignments -/

theorem takes_assignmentOr_of_newline
    {target : Expression} (start : Position) (ends : line.kind = .newline) :
    (assignmentOr start target).Takes [] (line :: rest) fun found =>
      found.bare = .expression target.bare .nowhere := by
  unfold assignmentOr
  apply Takes.get
  intro cursor here
  have none : cursor.kind.assignmentOperator? = none := by
    rw [kind_of_budget here, ends]
    rfl
  rw [none]
  exact .pure rfl

/-- A sign behind what can be assigned to is taken as an assignment. -/
theorem takes_assignmentOr
    {target value : Expression} {operator : AssignmentOperator} {sign : Token}
    (start : Position) (assignable : target.isAssignable = true)
    (assigns : sign.kind.assignmentOperator? = some operator)
    (reads : value.ReadFrom row) (ends : line.kind = .newline) :
    (assignmentOr start target).Takes (sign :: row) (line :: rest)
      fun found =>
        found.bare = .assign target.bare operator value.bare .nowhere := by
  unfold assignmentOr
  apply Takes.get
  intro cursor here
  have found : cursor.kind.assignmentOperator? = some operator := by
    rw [kind_of_budget here]
    exact assigns
  have inside : sign.kind ≠ .endOfText := by
    intro atEnd
    rw [atEnd] at assigns
    cases assigns
  rw [found]
  unfold assignment
  dsimp only
  rw [if_pos assignable]
  apply Takes.advance inside
  apply Takes.bind_nil
    (takes_expression reads (endsExpression_of_newline ends))
  intro foundValue same
  apply Takes.get
  intro after place
  have last : after.kind.assignmentOperator? = none := by
    rw [kind_of_budget place, ends]
    rfl
  rw [if_neg (by simp [last])]
  apply Takes.pure
  simp only [Statement.bare, same]

/-- A line that starts with an expression: what follows the expression decides
whether it is assigned to. -/
theorem takes_expressionStatement
    {first : Expression} {behind : List Token} {tree : Statement}
    (reads : first.ReadFrom row)
    (stops : Heads (fun kind => kind.endsExpression = true)
      (behind ++ line :: rest))
    (ends : line.kind = .newline)
    (read : ∀ value start, value.bare = first.bare →
      (assignmentOr start value).Takes behind (line :: rest) fun found =>
        found.bare = tree.bare) :
    expressionStatement.Takes (row ++ (behind ++ [line])) rest fun found =>
      found.bare = tree.bare := by
  have place : behind ++ [line] ++ rest = behind ++ line :: rest :=
    List.append_assoc _ _ _
  unfold expressionStatement
  apply Takes.get
  intro cursor here
  apply Takes.bind (takes_expression reads (place ▸ stops))
  intro value same
  apply Takes.bind (read value _ same)
  intro found sameToo
  apply Takes.bind_nil (takes_endOfLine ends _)
  intro _ _
  exact .pure sameToo

/-! ## What a line is -/

theorem atStatement_of_word
    {word : Token} {name : Keyword} (kind : word.kind = .keyword name)
    (starts : name.startsStatement = true) (cursor : Cursor)
    (here : cursor.budget = word :: row) : cursor.AtStatement :=
  .of_keyword ((kind_of_budget here).trans kind) starts

theorem takes_statement_of_return {tree : Statement} {word : Token}
    (kind : word.kind = .keyword .returnValue)
    (taken : returnStatement.Takes (word :: row) rest fun found =>
      found.bare = tree.bare) :
    (statement body).Takes (word :: row) rest fun found =>
      ∃ value, found = some value ∧ value.bare = tree.bare := by
  unfold statement
  apply Takes.get
  intro cursor here
  rw [(kind_of_budget here).trans kind]
  apply Takes.map
  apply taken.mono
  intro value same
  exact ⟨value, rfl, same⟩

/-- No statement that starts with a keyword looks like a declaration. -/
theorem takes_statement_of_declaration
    {tree : Statement} (starts : ∀ cursor : Cursor,
      cursor.budget = row ++ rest →
        cursor.atTypeStart = true ∧ cursor.kindAfterType = .identifier)
    (taken : declareStatement.Takes row rest fun found =>
      found.bare = tree.bare) :
    (statement body).Takes row rest fun found =>
      ∃ value, found = some value ∧ value.bare = tree.bare := by
  unfold statement
  apply Takes.get
  intro cursor here
  obtain ⟨type, name⟩ := starts cursor here
  have declares : cursor.atVariableStart = true := by
    unfold atVariableStart
    simp [type, name]
  unfold atTypeStart at type
  split
  · rename_i found
    simp [found, Kind.isTypeKeyword] at type
  · rename_i found
    simp [found, Kind.isTypeKeyword] at type
  · rename_i found
    simp [found, Kind.isTypeKeyword] at type
  · rw [if_pos declares]
    apply Takes.map
    apply taken.mono
    intro value same
    exact ⟨value, rfl, same⟩

/-- What starts like an expression is taken as a statement of it. -/
theorem takes_statement_of_expression
    {tree : Statement} (starts : ∀ cursor : Cursor,
      cursor.budget = row ++ rest →
        cursor.kind.startsExpression = true ∧ cursor.atVariableStart = false)
    (taken : expressionStatement.Takes row rest fun found =>
      found.bare = tree.bare) :
    (statement body).Takes row rest fun found =>
      ∃ value, found = some value ∧ value.bare = tree.bare := by
  unfold statement
  apply Takes.get
  intro cursor here
  obtain ⟨start, other⟩ := starts cursor here
  split
  · rename_i found
    rw [found] at start
    cases start
  · rename_i found
    rw [found] at start
    cases start
  · rename_i found
    rw [found] at start
    cases start
  · rw [other]
    apply Takes.map
    apply taken.mono
    intro value same
    exact ⟨value, rfl, same⟩

end Reader

end PapyrusScript
