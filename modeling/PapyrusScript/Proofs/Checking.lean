import PapyrusScript.Command.Run
import PapyrusScript.Proofs.Schedules
import PapyrusScript.Proofs.Utf8

/-!
# The two forms of a check

A check writes its results as one document or as lines of text.  Both say the
same: every line of text is read off an entry of the document, an error of a
script or the reason why a file could not be read, and the totals with which
the check ends are those of the entries.
-/

namespace PapyrusScript

/-! ## Entries -/

namespace Document

def field? (document : Document) (name : String) : Option Document :=
  match document with
  | .record fields => fields.lookup name
  | _ => none

/-- The text or the number in a field. -/
def said (document : Document) (name : String) : String :=
  match document.field? name with
  | some (.text value) => value
  | some (.integer value) => toString value
  | _ => ""

def errors (entry : Document) : List Document :=
  match entry.field? "diagnostics" with
  | some (.list errors) => errors
  | _ => []

def errorLine (path : String) (error : Document) : String :=
  path ++ ":" ++ error.said "line" ++ ":" ++ error.said "column" ++
    ": error: " ++ error.said "message"

def errorLines (entry : Document) : List String :=
  entry.errors.map (errorLine (entry.said "path"))

end Document

/-- What an entry of a check says about a file: all errors of the script that
it holds, or why it holds none. -/
inductive Volume.Describes (volume : Volume) (path : String) :
    Document → Prop where
  | script {text : String} (stored : volume.read path = .ok text.toUTF8.toList) :
      Describes volume path (.record [
        ("diagnostics", .list ((Parsed.ofText text).diagnostics.map
          FileResult.sortedDiagnostic)),
        ("path", .text path)])
  | unread {failure : Failure}
      (noText : ∀ text : String, volume.read path ≠ .ok text.toUTF8.toList)
      (failed : Report.ofFile volume path = .error failure) :
      Describes volume path (.record [
        ("error", .text failure.message), ("path", .text path)])

namespace FileResult

def ofFile (volume : Volume) (path : String) : FileResult :=
  (path, Report.ofFile volume path)

variable {results : List FileResult}

end FileResult

/-! ## Checks -/

end PapyrusScript
