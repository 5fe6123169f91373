/-!
# Kinds of token

Every token is of one of these kinds:

* a keyword or a symbol, whose spelling is fixed;
* a name, a number, a string or a documentation comment, whose text matters;
* a line break, which ends statements and declarations;
* an invalid token, which says why its characters form no token;
* the end of the text.

The lists `Keyword.all`, `Symbol.all` and `LexicalError.all` are in the order
of declaration, and `Kind.all` joins them.
-/

namespace PapyrusScript

/-- The reserved words. -/
inductive Keyword where
  | scriptname
  | extendsParent
  | importScript
  | function
  | endFunction
  | event
  | endEvent
  | property
  | endProperty
  | state
  | endState
  | auto
  | autoReadOnly
  | native
  | global
  | conditional
  | hidden
  | ifThen
  | elseIf
  | otherwise
  | endIf
  | whileLoop
  | endWhile
  | returnValue
  | castAs
  | newObject
  | length
  | noneLiteral
  | trueLiteral
  | falseLiteral
  | selfReference
  | parentReference
  | boolType
  | intType
  | floatType
  | stringType
  deriving DecidableEq, Repr, Inhabited

/-- Every reserved word. -/
def Keyword.all : List Keyword :=
  [.scriptname, .extendsParent, .importScript, .function, .endFunction, .event,
    .endEvent, .property, .endProperty, .state, .endState, .auto,
    .autoReadOnly, .native, .global, .conditional, .hidden, .ifThen, .elseIf,
    .otherwise, .endIf, .whileLoop, .endWhile, .returnValue, .castAs,
    .newObject, .length, .noneLiteral, .trueLiteral, .falseLiteral,
    .selfReference, .parentReference, .boolType, .intType, .floatType,
    .stringType]

/-- The operators and delimiters. -/
inductive Symbol where
  | openParen
  | closeParen
  | openBracket
  | closeBracket
  | comma
  | dot
  | plus
  | minus
  | star
  | slash
  | percent
  | bang
  | andAnd
  | orOr
  | equalEqual
  | notEqual
  | less
  | lessEqual
  | greater
  | greaterEqual
  | assign
  | plusAssign
  | minusAssign
  | starAssign
  | slashAssign
  | percentAssign
  deriving DecidableEq, Repr, Inhabited

/-- Every operator and delimiter. -/
def Symbol.all : List Symbol :=
  [.openParen, .closeParen, .openBracket, .closeBracket, .comma, .dot, .plus,
    .minus, .star, .slash, .percent, .bang, .andAnd, .orOr, .equalEqual,
    .notEqual, .less, .lessEqual, .greater, .greaterEqual, .assign,
    .plusAssign, .minusAssign, .starAssign, .slashAssign, .percentAssign]

/-- Why a run of characters forms no token. -/
inductive LexicalError where
  | unexpectedCharacter
  | unterminatedString
  | invalidEscape
  | malformedNumber
  | unterminatedComment
  | unterminatedDocComment
  deriving DecidableEq, Repr, Inhabited

/-- Every reason for an invalid token. -/
def LexicalError.all : List LexicalError :=
  [.unexpectedCharacter, .unterminatedString, .invalidEscape,
    .malformedNumber, .unterminatedComment, .unterminatedDocComment]

/-- What a token is. -/
inductive Kind where
  | keyword (word : Keyword)
  | symbol (sign : Symbol)
  | identifier
  | intLiteral
  | floatLiteral
  | stringLiteral
  | docComment
  | newline
  | invalid (error : LexicalError)
  | endOfText
  deriving DecidableEq, Repr, Inhabited

/-- Every kind of token. -/
def Kind.all : List Kind :=
  Keyword.all.map .keyword ++ Symbol.all.map .symbol ++
    [.identifier, .intLiteral, .floatLiteral, .stringLiteral, .docComment,
      .newline] ++
    LexicalError.all.map .invalid ++ [.endOfText]

theorem Keyword.mem_all (word : Keyword) : word ∈ Keyword.all := by
  cases word <;> decide

theorem Symbol.mem_all (sign : Symbol) : sign ∈ Symbol.all := by
  cases sign <;> decide

theorem LexicalError.mem_all (error : LexicalError) :
    error ∈ LexicalError.all := by
  cases error <;> decide

theorem Kind.mem_all (kind : Kind) : kind ∈ Kind.all := by
  cases kind with
  | keyword word => simp [Kind.all, Keyword.mem_all]
  | symbol sign => simp [Kind.all, Symbol.mem_all]
  | invalid error => simp [Kind.all, LexicalError.mem_all]
  | _ => simp [Kind.all]

end PapyrusScript
