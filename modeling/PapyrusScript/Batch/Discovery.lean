import PapyrusScript.Failure

/-!
# Finding scripts

A root that is a file is a script, whatever its name.  A root that is a
folder stands for every file below it, at any depth, whose path passes a test.
The paths below one root are in increasing order, part by part, so the order
in which folders list their entries does not show.
-/

namespace PapyrusScript.Discovery

/-- Whether names come before or are equal to others, part by part. -/
def inOrder : List String → List String → Bool
  | [], _ => true
  | _ :: _, [] => false
  | first :: rest, other :: others =>
      first < other || (first = other && inOrder rest others)

/-- The paths of the files below a folder that pass a test. -/
def below (root : String) (tree : FileTree) (accepts : String → Bool) :
    List String :=
  let places := tree.files.mergeSort inOrder
  (places.map (Path.joinAll root)).filter accepts

/-- The scripts that a root stands for. -/
def discover (volume : Volume) (accepts : String → Bool) (root : String) :
    Except Failure (List String) :=
  match volume.tree? root with
  | none => .error (.fileNotFound root)
  | some (.file _) => .ok [root]
  | some (.folder entries) => .ok (below root (.folder entries) accepts)

/-- The scripts that several roots stand for, one root after the other. -/
def discoverAll (volume : Volume) (accepts : String → Bool) :
    List String → Except Failure (List String)
  | [] => .ok []
  | root :: rest => do
      let first ← discover volume accepts root
      let others ← discoverAll volume accepts rest
      return first ++ others

end PapyrusScript.Discovery
