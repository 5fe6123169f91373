import PapyrusScript.Batch.Pool
import PapyrusScript.Document.OfScript
import PapyrusScript.Summary

/-!
# What commands print

A command prints lines to standard output and to standard error, and it
succeeds or ends with a failure.  The failure is the last line of standard
error.
-/

namespace PapyrusScript

/-- What a command has printed, and how it ended. -/
structure Outcome where
  output : List String
  errors : List String
  failure : Option Failure
  deriving Repr, Inhabited

namespace Outcome

/-- Success after printing some lines. -/
def success (output : List String) : Outcome := ⟨output, [], none⟩

/-- Failure before anything is printed. -/
def failed (failure : Failure) : Outcome := ⟨[], [], some failure⟩

/-- The end of a run that met errors in scripts, if it met any. -/
def endOfRun (files count : Nat) : Option Failure :=
  if count = 0 then none else some (.diagnostics files count)

/-- Lines as text. -/
def joined (lines : List String) : String :=
  String.join (lines.map fun line => line ++ "\n")

/-- The text on standard output. -/
def outputText (outcome : Outcome) : String := joined outcome.output

/-- The text on standard error. -/
def errorText (outcome : Outcome) : String :=
  let last :=
    match outcome.failure with
    | none => []
    | some failure => ["Error: " ++ failure.message]
  joined (outcome.errors ++ last)

/-- The exit status. -/
def status (outcome : Outcome) : Nat := if outcome.failure.isNone then 0 else 1

end Outcome

namespace Report

/-- The line that says what a script consists of. -/
def headline (report : Report) : String :=
  let script := report.parsed.script
  script.name.name ++ ": " ++ toString script.members.length ++
    " member(s), " ++ toString script.imports.length ++ " import(s)"

/-- The script and its errors as a document. -/
def written (report : Report) : String :=
  (Document.ofParsed Document.shortestFloat report.parsed).written

/-- What parsing one file prints. -/
def outcome (report : Report) (asJson : Bool) : Outcome :=
  let count := report.parsed.diagnostics.length
  { output :=
      if asJson then [report.written] else report.headline :: report.lines
    errors := []
    failure := Outcome.endOfRun 1 count }

/-- The lines of the script's summary. -/
def summaryLines (report : Report) : List String :=
  (Summary.ofScript report.parsed.script).lines

end Report

/-- A file and what parsing it found, or why it could not be parsed. -/
abbrev FileResult := String × Except Failure Report

namespace FileResult

/-- The number of errors, of which a failure is one. -/
def count : FileResult → Nat
  | (_, .ok report) => report.parsed.diagnostics.length
  | (_, .error _) => 1

/-- The lines on standard output. -/
def lines : FileResult → List String
  | (_, .ok report) => report.lines
  | (_, .error _) => []

/-- The lines on standard error. -/
def errorLines : FileResult → List String
  | (_, .ok _) => []
  | (path, .error failure) => [path ++ ": " ++ failure.message]

/-- An error with its fields in the order of their names. -/
def sortedDiagnostic (diagnostic : Diagnostic) : Document :=
  .record [
    ("column", .natural diagnostic.position.column),
    ("found", .optional Document.ofKind diagnostic.cause.found?),
    ("kind", .text
      (if diagnostic.cause.isLexical then "Lexical" else "Syntax")),
    ("line", .natural diagnostic.position.line),
    ("message", .text diagnostic.message),
    ("severity", .text "Error")]

/-- The result as a document, its fields in the order of their names. -/
def document : FileResult → Document
  | (path, .ok report) =>
      .record [
        ("diagnostics", .list (report.parsed.diagnostics.map sortedDiagnostic)),
        ("path", .text path)]
  | (path, .error failure) =>
      .record [("error", .text failure.message), ("path", .text path)]

/-- The number of files with errors. -/
def failedFiles (results : List FileResult) : Nat :=
  results.countP fun result => 0 < count result

/-- The number of errors in all files. -/
def totalCount (results : List FileResult) : Nat :=
  results.foldl (fun total result => total + count result) 0

/-- What checking files prints. -/
def outcome (results : List FileResult) (asJson : Bool) : Outcome :=
  let total := totalCount results
  let closing :=
    if total = 0 then
      ["checked " ++ toString results.length ++ " file(s), no errors"]
    else
      []
  { output :=
      if asJson then
        [(Document.list (results.map document)).written]
      else
        results.flatMap lines ++ closing
    errors := if asJson then [] else results.flatMap errorLines
    failure := Outcome.endOfRun (failedFiles results) total }

end FileResult

end PapyrusScript
