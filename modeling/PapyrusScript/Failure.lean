import PapyrusScript.Storage.Volume

/-!
# Failures

A failure concerns files, settings or a whole run.  The errors inside a
script are diagnostics and no failures, but a run that met some ends with
one.
-/

namespace PapyrusScript

/-- Why something that was asked for cannot be done. -/
inductive Failure where
  | fileNotFound (path : String)
  | storage (path : String) (fault : Fault)
  | invalidEncoding (path : String) (offset : Nat)
  | badSettings
  | badPattern
  | panicked (path : String) (message : String)
  | diagnostics (files : Nat) (count : Nat)
  deriving DecidableEq, Repr, Inhabited

/-- The text for a reader. -/
def Failure.message : Failure → String
  | .fileNotFound path => "FileNotFoundError: " ++ path
  | .storage path fault => "IOError: " ++ path ++ ": " ++ fault.message
  | .invalidEncoding path offset =>
      "EncodingError: " ++ path ++ " is not valid UTF-8 (byte offset " ++
        toString offset ++ ")"
  | .badSettings => "ConfigError: the file holds no settings"
  | .badPattern => "PatternError: the pattern is not valid"
  | .panicked path message =>
      "InternalError: parsing " ++ path ++ " panicked: " ++ message
  | .diagnostics files count =>
      toString count ++ " error(s) in " ++ toString files ++ " file(s)"

end PapyrusScript
