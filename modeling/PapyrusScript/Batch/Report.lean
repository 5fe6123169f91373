import PapyrusScript.Failure
import PapyrusScript.Parsed
import PapyrusScript.Text.Utf8

/-!
# Reports

A report is what parsing one file found.  The bytes of a file must be UTF-8;
for bytes that come from no file, `<input>` stands in for the path.
-/

namespace PapyrusScript

/-- Parse bytes that are found at a path. -/
def Parsed.ofBytesAt (path : String) (bytes : List UInt8) :
    Except Failure Parsed :=
  match Text.decodeUtf8 bytes with
  | .ok source => .ok (Parsed.ofText source)
  | .error offset => .error (.invalidEncoding path offset)

/-- Parse bytes that come from no file. -/
def Parsed.ofBytes (bytes : List UInt8) : Except Failure Parsed :=
  Parsed.ofBytesAt "<input>" bytes

/-- A file and what parsing it found. -/
structure Report where
  path : String
  parsed : Parsed
  deriving Repr, Inhabited

namespace Report

/-- Whether the file has no errors. -/
def isSuccess (report : Report) : Bool := report.parsed.isSuccess

/-- One line for each error, with the path in front. -/
def lines (report : Report) : List String :=
  report.parsed.diagnostics.map fun diagnostic =>
    report.path ++ ":" ++ diagnostic.text

/-- Parse a file. -/
def ofFile (volume : Volume) (path : String) : Except Failure Report :=
  match volume.read path with
  | .error .missing => .error (.fileNotFound path)
  | .error fault => .error (.storage path fault)
  | .ok bytes => (Parsed.ofBytesAt path bytes).map (Report.mk path)

end Report

end PapyrusScript
