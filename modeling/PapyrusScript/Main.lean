import PapyrusScript.Command.Run

/-!
# The program

The program copies the files that a command needs into a volume, runs the
command on it, prints what the command has to say, and stores the settings if
the command created some.
-/

namespace PapyrusScript.Program

/-- What the file system holds at a place. -/
def entryAt (place : List String) : IO.FS.DirEntry :=
  ⟨"/", "/".intercalate place⟩

/-- Copy a file, or a folder with all that is below it. -/
partial def readTree (place : List String) : IO (Option FileTree) := do
  let path := (entryAt place).path
  if ← path.isDir then
    let mut entries := []
    for entry in ← path.readDir do
      if let some child ← readTree (place ++ [entry.fileName]) then
        entries := (entry.fileName, child) :: entries
    return some (.folder entries)
  else if ← path.pathExists then
    return some (.file (← IO.FS.readBinFile path).toList)
  else
    return none

/-- Copy what the file system holds at a place. -/
def copyPlace (volume : Volume) (place : List String) : IO Volume := do
  match ← readTree place with
  | some tree => return volume.put place tree
  | none => return volume

/-- Note that there is a folder at a place, whose entries are left out unless
they are known already. -/
def noteFolder (volume : Volume) (place : List String) : Volume :=
  match volume.root.at? place with
  | some _ => volume
  | none => volume.put place .emptyFolder

/-- Copy what some parts of a path lead to, and what is met on the way.  A
part that leads nowhere is passed all the same, since it may be a folder that
is to be created. -/
def copyAlong (volume : Volume) (place : List String) :
    List String → IO Volume
  | [] => copyPlace volume place
  | part :: rest => do
      let next := if part = ".." then place.dropLast else place ++ [part]
      if ← (entryAt next).path.isDir then
        copyAlong (noteFolder volume next) next rest
      else
        copyAlong (← copyPlace volume next) next rest

/-- Copy what a path leads to. -/
def copy (volume : Volume) (path : String) : IO Volume :=
  copyAlong volume (volume.origin path) (Path.names path)

/-- The surroundings of this run. -/
def environment : IO Environment := do
  return {
    home := ← IO.getEnv "HOME"
    profile := ← IO.getEnv "PAPYRUS_ENV"
    scriptsFolder := ← IO.getEnv "PAPYRUS_SCRIPTS_DIR"
    processors := 1 }

/-- Store what a path leads to in a changed volume, and the folders on the way
to it, as far as the volume did not hold them before. -/
def store (before changed : Volume) (path : String) : IO Unit := do
  for folder in (Path.foldersTo path).reverse do
    if changed.isFolderAt folder && !before.isFolderAt folder then
      if let .ok place := changed.locate folder then
        IO.FS.createDirAll (entryAt place).path
  match changed.locate path, changed.read path with
  | .ok place, .ok content =>
      if !before.contains path then
        IO.FS.writeBinFile (entryAt place).path ⟨content.toArray⟩
  | _, _ => return

/-- Run a command that has been read from the command line. -/
def perform (command : Command) : IO UInt32 := do
  let surroundings ← environment
  let workingFolder := Path.names (← IO.currentDir).toString
  let root := FileTree.emptyFolder.put .emptyFolder workingFolder
  let bare : Volume := ⟨root, workingFolder⟩
  let path := surroundings.settingsPath
  let mut volume ← copy bare path
  let settings := Settings.load volume surroundings
  for source in command.sources settings do
    volume ← copy volume source
  let (outcome, changed) := command.run volume surroundings
  store volume changed path
  IO.print outcome.outputText
  IO.eprint outcome.errorText
  return UInt32.ofNat outcome.status

end PapyrusScript.Program

/-- Read the command line and run the command that it spells. -/
def main (arguments : List String) : IO UInt32 := do
  match PapyrusScript.Command.ofArguments? arguments with
  | some command => PapyrusScript.Program.perform command
  | none =>
      IO.eprint (PapyrusScript.Outcome.joined PapyrusScript.Command.usage)
      return 2
