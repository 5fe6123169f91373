import PapyrusScript.Source.Position

/-!
# Types

A type is a built-in one or the name of a script, alone or as an array.
-/

namespace PapyrusScript

/-- What the elements of a type are. -/
inductive DataType where
  | bool
  | int
  | float
  | string
  | object (name : String)
  deriving DecidableEq, Repr, Inhabited

/-- The written form of a data type. -/
def DataType.text : DataType → String
  | .bool => "Bool"
  | .int => "Int"
  | .float => "Float"
  | .string => "String"
  | .object name => name

/-- A type as a script writes it. -/
structure TypeName where
  dataType : DataType
  isArray : Bool
  span : Span
  deriving DecidableEq, Repr, Inhabited

/-- The written form of a type. -/
def TypeName.text (type : TypeName) : String :=
  if type.isArray then type.dataType.text ++ "[]" else type.dataType.text

end PapyrusScript
