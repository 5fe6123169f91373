/-!
# Trees of files

A tree is a file with its bytes, or a folder with named entries in some
order.  The order carries no meaning, and every name occurs once.  A place in
a tree is the list of names on the way to it from the root.
-/

namespace PapyrusScript

/-- A file, or a folder with named entries. -/
inductive FileTree where
  | file (content : List UInt8)
  | folder (entries : List (String × FileTree))
  deriving Repr, Inhabited

namespace FileTree

/-- A folder without entries. -/
def emptyFolder : FileTree := .folder []

/-- Whether a tree is a folder. -/
def isFolder : FileTree → Bool
  | .file _ => false
  | .folder _ => true

/-- The entries of a folder. -/
def entries : FileTree → List (String × FileTree)
  | .file _ => []
  | .folder entries => entries

/-- The entry with a name. -/
def child? (tree : FileTree) (name : String) : Option FileTree :=
  (tree.entries.find? fun entry => entry.1 == name).map (·.2)

/-- The tree at a place. -/
def at? (tree : FileTree) : List String → Option FileTree
  | [] => some tree
  | name :: rest =>
      match tree.child? name with
      | some child => child.at? rest
      | none => none

/-- Entries with a new tree for a name, in place of the old one if there is
one. -/
def setEntry (name : String) (child : FileTree) :
    List (String × FileTree) → List (String × FileTree)
  | [] => [(name, child)]
  | entry :: rest =>
      if entry.1 == name then
        (name, child) :: rest
      else
        entry :: setEntry name child rest

/-- The tree with another one at a place whose folder exists. -/
def put (tree : FileTree) (new : FileTree) : List String → FileTree
  | [] => new
  | name :: rest =>
      let child := (tree.child? name).getD emptyFolder
      .folder (setEntry name (child.put new rest) tree.entries)

mutual

/-- The places of all files below a tree, in the order of its entries. -/
def files : FileTree → List (List String)
  | .file _ => [[]]
  | .folder entries => entryFiles entries

/-- The places of all files below some entries. -/
def entryFiles : List (String × FileTree) → List (List String)
  | [] => []
  | (name, child) :: rest =>
      (files child).map (name :: ·) ++ entryFiles rest

end

end FileTree

end PapyrusScript
