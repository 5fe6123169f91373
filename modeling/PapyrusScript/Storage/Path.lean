/-!
# Paths

A path is a text whose parts are separated by slashes.  An empty part and the
part `.` stand for the folder itself, and `..` for the one around it.  A path
that starts with a slash starts at the root.
-/

namespace PapyrusScript.Path

/-- The pieces of a text between slashes. -/
def splitSlashes : List Char → List (List Char)
  | [] => [[]]
  | letter :: rest =>
      if letter = '/' then
        [] :: splitSlashes rest
      else
        match splitSlashes rest with
        | [] => [[letter]]
        | first :: others => (letter :: first) :: others

/-- The parts of a path. -/
def parts (path : String) : List String :=
  (splitSlashes path.toList).map String.ofList

/-- Whether a path starts at the root. -/
def isAbsolute (path : String) : Bool := path.toList.head? = some '/'

/-- A path below another.  An absolute one replaces it. -/
def join (base child : String) : String :=
  if isAbsolute child || base.isEmpty then
    child
  else if base.toList.getLast? = some '/' then
    base ++ child
  else
    base ++ "/" ++ child

/-- A path below another, given by the names on the way. -/
def joinAll (base : String) (names : List String) : String :=
  names.foldl join base

/-- The path with the given parts. -/
def ofParts (parts : List String) : String := "/".intercalate parts

/-- Whether a part stands for the folder itself. -/
def isIdle (part : String) : Bool := part = "" || part = "."

/-- The parts that lead somewhere else. -/
def names (path : String) : List String :=
  (parts path).filter fun part => !isIdle part

/-- The path with the given parts, and the paths of the folders on the way,
the innermost one first.  The parts are given in reverse. -/
def pathsAlong : List String → List String
  | [] => []
  | last :: before =>
      if isIdle last then pathsAlong before
      else ofParts (last :: before).reverse :: pathsAlong before

/-- The folders on the way to what a path names, the innermost one first. -/
def foldersTo (path : String) : List String :=
  (pathsAlong (parts path).reverse).tail

end PapyrusScript.Path
