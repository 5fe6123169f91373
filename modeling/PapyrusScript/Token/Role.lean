import PapyrusScript.Token.Kind

/-!
# Roles of keywords

Three groups of kinds decide how a script is cut into lines and blocks:

* the keywords that name a built-in type;
* the block terminators, which close a block or continue into its next arm;
* the structural kinds, which can only start a line.  A bracket still open
  where one of them appears was never closed.
-/

namespace PapyrusScript.Kind

/-- Whether the kind names a built-in type. -/
def isTypeKeyword : Kind → Bool
  | .keyword .boolType => true
  | .keyword .intType => true
  | .keyword .floatType => true
  | .keyword .stringType => true
  | _ => false

/-- Whether the kind closes a block or starts the next arm of one. -/
def isBlockTerminator : Kind → Bool
  | .keyword .endFunction => true
  | .keyword .endEvent => true
  | .keyword .endProperty => true
  | .keyword .endState => true
  | .keyword .endIf => true
  | .keyword .endWhile => true
  | .keyword .elseIf => true
  | .keyword .otherwise => true
  | _ => false

/-- Whether the kind can only be the first of its line. -/
def isStructural : Kind → Bool
  | .keyword .function => true
  | .keyword .event => true
  | .keyword .state => true
  | .keyword .property => true
  | .keyword .ifThen => true
  | .keyword .whileLoop => true
  | .keyword .returnValue => true
  | .keyword .scriptname => true
  | .keyword .importScript => true
  | .keyword .auto => true
  | .endOfText => true
  | kind => kind.isBlockTerminator

/-- Whether the kind is that of an invalid token. -/
def isInvalid : Kind → Bool
  | .invalid _ => true
  | _ => false

end PapyrusScript.Kind
