import PapyrusScript.Document.Basic

/-!
# Settings

The settings say where scripts are, which files are scripts, and how many
workers parse them.  They are kept as a document with one field for each of
these; the profile that they belong to is not part of it.
-/

namespace PapyrusScript

/-- What a user can set. -/
structure Settings where
  scriptsFolder : String
  sourcePattern : String
  /-- The number of workers, or zero for one on each processor. -/
  jobs : Nat
  /-- The name of the profile.  It is no part of what is kept. -/
  profile : String := ""
  deriving DecidableEq, Repr, Inhabited

namespace Settings

/-- The pattern for the names of scripts. -/
def defaultPattern : String := "(?i)\\.psc$"

/-- The largest number of workers that can be set. -/
def jobLimit : Nat := UInt64.size - 1

/-- The settings as a document. -/
def document (settings : Settings) : Document :=
  .record [
    ("scripts_dir", .text settings.scriptsFolder),
    ("source_pattern", .text settings.sourcePattern),
    ("jobs", .natural settings.jobs)]

/-- The number of workers, given the number of processors. -/
def workers (settings : Settings) (processors : Nat) : Nat :=
  if settings.jobs = 0 then processors else settings.jobs

end Settings

end PapyrusScript
