import PapyrusScript.Document.Quoted

/-!
# Documents

A document is a JSON value whose records keep the order of their fields.  It
is written over several lines, two blanks deeper for each level; an empty
list or record stays on one line.
-/

namespace PapyrusScript

/-- A JSON value. -/
inductive Document where
  | null
  | bool (value : Bool)
  | integer (value : Int)
  /-- A number that is written as the given text. -/
  | decimal (written : String)
  | text (value : String)
  | list (items : List Document)
  | record (fields : List (String × Document))
  deriving Repr, Inhabited

namespace Document

/-- A natural number. -/
def natural (value : Nat) : Document := .integer value

/-- A value that may be missing. -/
def optional {α : Type} (write : α → Document) : Option α → Document
  | none => .null
  | some value => write value

/-- One form of several, given by its name and what belongs to it. -/
def variant (name : String) (content : Document) : Document :=
  .record [(name, content)]

/-- The start of a line at a level. -/
def lineStart (level : Nat) : List Char :=
  '\n' :: List.replicate (2 * level) ' '

/-- Parts on lines of their own, one level deeper than the brackets. -/
def enclose (opening closing : Char) (level : Nat) (parts : List (List Char)) :
    List Char :=
  match parts with
  | [] => [opening, closing]
  | first :: rest =>
      opening :: lineStart (level + 1) ++ first ++
        rest.flatMap (fun part => ',' :: lineStart (level + 1) ++ part) ++
        lineStart level ++ [closing]

mutual

/-- The written form of a document whose brackets are at a level. -/
def writeAt (level : Nat) : Document → List Char
  | .null => "null".toList
  | .bool value => (if value then "true" else "false").toList
  | .integer value => (toString value).toList
  | .decimal written => written.toList
  | .text value => quote value.toList
  | .list items => enclose '[' ']' level (writeItems (level + 1) items)
  | .record fields =>
      enclose '\x7b' '\x7d' level (writeFields (level + 1) fields)

/-- The written forms of the items of a list. -/
def writeItems (level : Nat) : List Document → List (List Char)
  | [] => []
  | item :: rest => writeAt level item :: writeItems level rest

/-- The written forms of the fields of a record. -/
def writeFields (level : Nat) :
    List (String × Document) → List (List Char)
  | [] => []
  | (name, value) :: rest =>
      (quote name.toList ++ ": ".toList ++ writeAt level value) ::
        writeFields level rest

end

/-- The written form of a document. -/
def written (document : Document) : String := String.ofList (writeAt 0 document)

end Document

end PapyrusScript
