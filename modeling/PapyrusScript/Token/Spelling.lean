import PapyrusScript.Text.Letters
import PapyrusScript.Token.Kind

/-!
# Spellings

Each keyword and each symbol has one canonical spelling.  Reading a word
ignores the case of letters; reading a symbol takes the longest spelling that
starts the text, which is why `Symbol.byLength` lists the two-character
symbols first.

Two more names of a kind are for the reader of a report: `Kind.label` is a
plain word that can serve as an identifier, and `Kind.describe` is the phrase
that messages use.
-/

namespace PapyrusScript

/-- The canonical spelling of a reserved word. -/
def Keyword.spelling : Keyword → String
  | .scriptname => "Scriptname"
  | .extendsParent => "Extends"
  | .importScript => "Import"
  | .function => "Function"
  | .endFunction => "EndFunction"
  | .event => "Event"
  | .endEvent => "EndEvent"
  | .property => "Property"
  | .endProperty => "EndProperty"
  | .state => "State"
  | .endState => "EndState"
  | .auto => "Auto"
  | .autoReadOnly => "AutoReadOnly"
  | .native => "Native"
  | .global => "Global"
  | .conditional => "Conditional"
  | .hidden => "Hidden"
  | .ifThen => "If"
  | .elseIf => "ElseIf"
  | .otherwise => "Else"
  | .endIf => "EndIf"
  | .whileLoop => "While"
  | .endWhile => "EndWhile"
  | .returnValue => "Return"
  | .castAs => "As"
  | .newObject => "New"
  | .length => "Length"
  | .noneLiteral => "None"
  | .trueLiteral => "True"
  | .falseLiteral => "False"
  | .selfReference => "Self"
  | .parentReference => "Parent"
  | .boolType => "Bool"
  | .intType => "Int"
  | .floatType => "Float"
  | .stringType => "String"

/-- The spelling of an operator or delimiter. -/
def Symbol.spelling : Symbol → String
  | .openParen => "("
  | .closeParen => ")"
  | .openBracket => "["
  | .closeBracket => "]"
  | .comma => ","
  | .dot => "."
  | .plus => "+"
  | .minus => "-"
  | .star => "*"
  | .slash => "/"
  | .percent => "%"
  | .bang => "!"
  | .andAnd => "&&"
  | .orOr => "||"
  | .equalEqual => "=="
  | .notEqual => "!="
  | .less => "<"
  | .lessEqual => "<="
  | .greater => ">"
  | .greaterEqual => ">="
  | .assign => "="
  | .plusAssign => "+="
  | .minusAssign => "-="
  | .starAssign => "*="
  | .slashAssign => "/="
  | .percentAssign => "%="

/-- The symbols with longer spellings before shorter ones. -/
def Symbol.byLength : List Symbol :=
  [.andAnd, .orOr, .equalEqual, .notEqual, .lessEqual, .greaterEqual,
    .plusAssign, .minusAssign, .starAssign, .slashAssign, .percentAssign,
    .plus, .minus, .star, .slash, .percent, .bang, .less, .greater, .assign,
    .openParen, .closeParen, .openBracket, .closeBracket, .comma, .dot]

/-- The reserved word that a text spells, in any case. -/
def keyword? (text : String) : Option Keyword :=
  Keyword.all.find? fun word => Text.sameLetters word.spelling text

/-- The longest symbol that starts a text. -/
def symbol? (text : List Char) : Option Symbol :=
  Symbol.byLength.find? fun sign => sign.spelling.toList.isPrefixOf text

/-- A plain name for a symbol. -/
def Symbol.label : Symbol → String
  | .openParen => "LParen"
  | .closeParen => "RParen"
  | .openBracket => "LBracket"
  | .closeBracket => "RBracket"
  | .comma => "Comma"
  | .dot => "Dot"
  | .plus => "Plus"
  | .minus => "Minus"
  | .star => "Star"
  | .slash => "Slash"
  | .percent => "Percent"
  | .bang => "Bang"
  | .andAnd => "AndAnd"
  | .orOr => "OrOr"
  | .equalEqual => "EqualEqual"
  | .notEqual => "NotEqual"
  | .less => "Less"
  | .lessEqual => "LessEqual"
  | .greater => "Greater"
  | .greaterEqual => "GreaterEqual"
  | .assign => "Assign"
  | .plusAssign => "PlusAssign"
  | .minusAssign => "MinusAssign"
  | .starAssign => "StarAssign"
  | .slashAssign => "SlashAssign"
  | .percentAssign => "PercentAssign"

/-- A plain name for a reason. -/
def LexicalError.label : LexicalError → String
  | .unexpectedCharacter => "UnexpectedCharacter"
  | .unterminatedString => "UnterminatedString"
  | .invalidEscape => "InvalidEscape"
  | .malformedNumber => "MalformedNumber"
  | .unterminatedComment => "UnterminatedComment"
  | .unterminatedDocComment => "UnterminatedDocComment"

/-- What a message says about an invalid token with the given text. -/
def LexicalError.describe (error : LexicalError) (lexeme : String) : String :=
  match error with
  | .unexpectedCharacter => "unrecognized character '" ++ lexeme ++ "'"
  | .unterminatedString => "unterminated string literal"
  | .invalidEscape =>
      "invalid escape sequence in string literal \"" ++ lexeme ++ "\""
  | .malformedNumber => "malformed numeric literal '" ++ lexeme ++ "'"
  | .unterminatedComment => "unterminated block comment"
  | .unterminatedDocComment => "unterminated documentation comment"

namespace Kind

/-- The spelling of a keyword or symbol; other kinds have no fixed text. -/
def spelling? : Kind → Option String
  | .keyword word => some word.spelling
  | .symbol sign => some sign.spelling
  | _ => none

/-- A plain name for a kind.  A keyword is called by its spelling, apart from
the reference to the current object. -/
def label : Kind → String
  | .keyword .selfReference => "SelfRef"
  | .keyword word => word.spelling
  | .symbol sign => sign.label
  | .identifier => "Identifier"
  | .intLiteral => "IntLiteral"
  | .floatLiteral => "FloatLiteral"
  | .stringLiteral => "StringLiteral"
  | .docComment => "DocComment"
  | .newline => "Newline"
  | .invalid error => "Invalid(" ++ error.label ++ ")"
  | .endOfText => "EOF"

/-- The kind with a given plain name. -/
def ofLabel? (name : String) : Option Kind :=
  all.find? fun kind => kind.label == name

/-- The phrase for a kind in a message: its spelling in quotes if it has one. -/
def describe : Kind → String
  | .keyword word => "'" ++ word.spelling ++ "'"
  | .symbol sign => "'" ++ sign.spelling ++ "'"
  | .identifier => "identifier"
  | .intLiteral => "integer literal"
  | .floatLiteral => "float literal"
  | .stringLiteral => "string literal"
  | .docComment => "documentation comment"
  | .newline => "end of line"
  | .invalid _ => "invalid token"
  | .endOfText => "end of file"

end Kind

end PapyrusScript
