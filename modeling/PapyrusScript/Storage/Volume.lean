import PapyrusScript.Storage.FileTree
import PapyrusScript.Storage.Path

/-!
# Volumes

A volume is a tree of files together with a working folder, from which
relative paths start.  Following a path takes one part after the other: every
part but the last must lead to a folder, and a path that ends in a slash must
do so as a whole.

Each operation that fails says why; the wording is in `Fault.message`.  One
that takes several steps answers with the volume as well, since the steps
before the one that failed are not undone.
-/

namespace PapyrusScript

/-- Why an operation on files fails. -/
inductive Fault where
  | missing
  | notFolder
  | isFolder
  | alreadyExists
  | nameTooLong
  | notText
  deriving DecidableEq, Repr, Inhabited

/-- The text for a reader. -/
def Fault.message : Fault → String
  | .missing => "No such file or directory (os error 2)"
  | .notFolder => "Not a directory (os error 20)"
  | .isFolder => "Is a directory (os error 21)"
  | .alreadyExists => "File exists (os error 17)"
  | .nameTooLong => "File name too long (os error 36)"
  | .notText => "stream did not contain valid UTF-8"

/-- A tree of files and the working folder. -/
structure Volume where
  root : FileTree
  workingFolder : List String
  deriving Repr, Inhabited

namespace Volume

/-- The most bytes of one part of a path. -/
def nameLimit : Nat := 255

/-- The most bytes of a path. -/
def pathLimit : Nat := 4095

/-- Follow one part of a path from a place. -/
def follow (volume : Volume) (place : List String) (part : String) :
    Except Fault (List String) :=
  match volume.root.at? place with
  | none => .error .missing
  | some (.file _) => .error .notFolder
  | some (.folder entries) =>
      if part = "" || part = "." then .ok place
      else if part = ".." then .ok place.dropLast
      else if nameLimit < part.utf8ByteSize then .error .nameTooLong
      else if entries.any fun entry => entry.1 == part then
        .ok (place ++ [part])
      else .error .missing

/-- Follow several parts of a path from a place. -/
def followAll (volume : Volume) :
    List String → List String → Except Fault (List String)
  | place, [] => .ok place
  | place, part :: rest => do
      let next ← volume.follow place part
      volume.followAll next rest

/-- Where a path starts. -/
def origin (volume : Volume) (path : String) : List String :=
  if Path.isAbsolute path then [] else volume.workingFolder

/-- The parts of a path, which must not be empty or too long. -/
def partsOf (path : String) : Except Fault (List String) :=
  if path.isEmpty then .error .missing
  else if pathLimit < path.utf8ByteSize then .error .nameTooLong
  else .ok (Path.parts path)

/-- The place that a path leads to. -/
def locate (volume : Volume) (path : String) :
    Except Fault (List String) := do
  let parts ← partsOf path
  volume.followAll (volume.origin path) parts

/-- What a path leads to, if it leads anywhere. -/
def tree? (volume : Volume) (path : String) : Option FileTree :=
  match volume.locate path with
  | .ok place => volume.root.at? place
  | .error _ => none

/-- Whether a path leads anywhere. -/
def contains (volume : Volume) (path : String) : Bool :=
  (volume.tree? path).isSome

/-- The bytes of the file that a path leads to. -/
def read (volume : Volume) (path : String) : Except Fault (List UInt8) := do
  let place ← volume.locate path
  match volume.root.at? place with
  | some (.file content) => .ok content
  | some (.folder _) => .error .isFolder
  | none => .error .missing

/-- The folder that is to hold the last part of a path, and that part. -/
def locateNew (volume : Volume) (path : String) :
    Except Fault (List String × String) := do
  let parts ← partsOf path
  let last := parts.getLast?.getD ""
  let place ← volume.followAll (volume.origin path) parts.dropLast
  match volume.root.at? place with
  | some (.folder _) =>
      if nameLimit < last.utf8ByteSize then .error .nameTooLong
      else .ok (place, last)
  | _ => .error .notFolder

/-- The volume with a new tree at a place. -/
def put (volume : Volume) (place : List String) (tree : FileTree) : Volume :=
  { volume with root := volume.root.put tree place }

/-- Write a file, in place of the one that a path leads to if there is one. -/
def write (volume : Volume) (path : String) (content : List UInt8) :
    Except Fault Volume := do
  let (place, name) ← volume.locateNew path
  if Path.isIdle name || name = ".." then
    .error .isFolder
  else
    match volume.root.at? (place ++ [name]) with
    | some (.folder _) => .error .isFolder
    | _ => .ok (volume.put (place ++ [name]) (.file content))

/-- Create a folder in one that exists. -/
def createFolder (volume : Volume) (path : String) :
    Except Fault Volume := do
  let (place, name) ← volume.locateNew path
  if Path.isIdle name || name = ".." then
    .error .alreadyExists
  else
    match volume.root.at? (place ++ [name]) with
    | some _ => .error .alreadyExists
    | none => .ok (volume.put (place ++ [name]) .emptyFolder)

/-- Whether a path leads to a folder. -/
def isFolderAt (volume : Volume) (path : String) : Bool :=
  match volume.tree? path with
  | some tree => tree.isFolder
  | none => false

/-- Create a folder, or accept that it exists already. -/
def ensureFolder (volume : Volume) (path : String) :
    Except Fault Unit × Volume :=
  match volume.createFolder path with
  | .ok created => (.ok (), created)
  | .error fault =>
      if volume.isFolderAt path then (.ok (), volume)
      else (.error fault, volume)

/-- Create the first of some folders, each of which is in the next one, and
those of the others that this takes.  What has been created stays so when a
later step fails. -/
def createInnermost (volume : Volume) :
    List String → Except Fault Unit × Volume
  | [] => (.ok (), volume)
  | path :: outer =>
      match volume.createFolder path with
      | .error .missing =>
          match volume.createInnermost outer with
          | (.ok (), prepared) => prepared.ensureFolder path
          | failed => failed
      | _ => volume.ensureFolder path

/-- Create the folder that is to hold what a path names. -/
def createFoldersTo (volume : Volume) (path : String) :
    Except Fault Unit × Volume :=
  volume.createInnermost (Path.foldersTo path)

/-- Write a file in a folder that is created if it is missing.  The folder
stays even if the file cannot be written. -/
def writeInFolder (volume : Volume) (path : String) (content : List UInt8) :
    Except Fault Unit × Volume :=
  match volume.createFoldersTo path with
  | (.error fault, prepared) => (.error fault, prepared)
  | (.ok (), prepared) =>
      match prepared.write path content with
      | .error fault => (.error fault, prepared)
      | .ok written => (.ok (), written)

end Volume

end PapyrusScript
