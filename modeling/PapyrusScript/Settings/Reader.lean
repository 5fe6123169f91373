import PapyrusScript.Document.Scanner
import PapyrusScript.Settings.Basic

/-!
# Reading settings

Settings are read from a record with their names, or from a list that gives
them in order.  The folder must be there; the pattern and the number of
workers may be missing.  A record may hold other fields, which are skipped,
but none of these three twice, and a list may not be longer.
-/

namespace PapyrusScript.Settings

/-- The settings that have been read. -/
structure Draft where
  scriptsFolder : Option String
  sourcePattern : Option String
  jobs : Option Nat
  deriving DecidableEq, Repr, Inhabited

/-- The settings of which only the folder is needed, for no profile yet. -/
def Draft.complete? (draft : Draft) : Option Settings :=
  draft.scriptsFolder.map fun scriptsFolder =>
    { scriptsFolder
      sourcePattern := draft.sourcePattern.getD defaultPattern
      jobs := draft.jobs.getD 0 }

/-- Read a text. -/
def textValue? (source : List Char) : Option (String × List Char) :=
  (Document.text? source).map fun (text, rest) => (String.ofList text, rest)

/-- Read a number of workers. -/
def jobsValue? (source : List Char) : Option (Nat × List Char) := do
  let (jobs, rest) ← Document.natural? source
  if jobs ≤ jobLimit then some (jobs, rest) else none

/-- Read the value of a field. -/
def field? (draft : Draft) (name : String) (source : List Char) :
    Option (Draft × List Char) :=
  if name = "scripts_dir" then do
    guard draft.scriptsFolder.isNone
    let (value, rest) ← textValue? source
    return ({ draft with scriptsFolder := some value }, rest)
  else if name = "source_pattern" then do
    guard draft.sourcePattern.isNone
    let (value, rest) ← textValue? source
    return ({ draft with sourcePattern := some value }, rest)
  else if name = "jobs" then do
    guard draft.jobs.isNone
    let (value, rest) ← jobsValue? source
    return ({ draft with jobs := some value }, rest)
  else do
    let rest ← Document.skipValue source source
    return (draft, rest)

/-- Read the fields of a record and its closing brace, at most one for each
character of `budget`. -/
def fields? :
    List Char → Draft → List Char → Option (Draft × List Char)
  | [], _, _ => none
  | _ :: budget, draft, source => do
      let (name, named) ← textValue? source
      let value ← Document.skipSign ':' named
      let (next, after) ← field? draft name value
      match Document.skipSign ',' after with
      | some rest => fields? budget next rest
      | none =>
          let rest ← Document.skipSign '\x7d' after
          return (next, rest)

/-- Read a record. -/
def record? (source : List Char) : Option (Draft × List Char) := do
  let rest ← Document.skipSign '\x7b' source
  match Document.skipSign '\x7d' rest with
  | some after => return (⟨none, none, none⟩, after)
  | none => fields? rest ⟨none, none, none⟩ rest

/-- Read a list of up to three values. -/
def list? (source : List Char) : Option (Draft × List Char) := do
  let rest ← Document.skipSign '[' source
  let (folder, afterFolder) ← textValue? rest
  let draft : Draft := ⟨some folder, none, none⟩
  match Document.skipSign ',' afterFolder with
  | none => return (draft, ← Document.skipSign ']' afterFolder)
  | some second => do
      let (pattern, afterPattern) ← textValue? second
      let draft := { draft with sourcePattern := some pattern }
      match Document.skipSign ',' afterPattern with
      | none => return (draft, ← Document.skipSign ']' afterPattern)
      | some third => do
          let (jobs, afterJobs) ← jobsValue? third
          return ({ draft with jobs := some jobs },
            ← Document.skipSign ']' afterJobs)

/-- The settings that a text holds. -/
def ofText? (source : String) : Option Settings := do
  let (draft, rest) ← record? source.toList <|> list? source.toList
  guard (Document.atEnd rest)
  draft.complete?

end PapyrusScript.Settings
