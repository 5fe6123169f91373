import PapyrusScript.Batch.Discovery
import PapyrusScript.Command.Arguments
import PapyrusScript.Command.Output
import PapyrusScript.Pattern
import PapyrusScript.Settings.Stored

/-!
# Running commands

A command runs in an environment and on a volume.  It answers with what it
prints and with the volume afterwards, which only differs when settings were
to be created.
-/

namespace PapyrusScript.Command

/-- Parse one file. -/
def runParse (volume : Volume) (file : String) (asJson : Bool) : Outcome :=
  match Report.ofFile volume file with
  | .ok report => report.outcome asJson
  | .error failure => .failed failure

/-- Summarise one file. -/
def runStats (volume : Volume) (file : String) : Outcome :=
  match Report.ofFile volume file with
  | .ok report =>
      .success (report.summaryLines ++ report.lines)
  | .error failure => .failed failure

/-- The roots that are to be checked: the given ones, or else the folder that
the settings name. -/
def rootsToCheck (settings : Settings) (roots : List String) : List String :=
  if roots.isEmpty then [settings.scriptsFolder] else roots

/-- Check every script below some roots.  Which test of paths the pattern of
the settings spells, if it spells one, is left to the caller. -/
def runCheck (test? : String → Option (String → Bool))
    (volume : Volume) (environment : Environment) (settings : Settings)
    (roots : List String) (jobs : Option Nat) (asJson : Bool) : Outcome :=
  match test? settings.sourcePattern with
  | none => .failed .badPattern
  | some accepts =>
      let roots := rootsToCheck settings roots
      match Discovery.discoverAll volume accepts roots with
      | .error failure => .failed failure
      | .ok paths =>
          let workers := jobs.getD (settings.workers environment.processors)
          FileResult.outcome (parseFiles volume paths workers) asJson

/-- Show the settings in force. -/
def runShow (settings : Settings) : Outcome :=
  .success ["Environment: " ++ settings.profile, settings.document.written]

/-- Create the settings for a new user, unless there are some. -/
def runCreate (volume : Volume) (environment : Environment) :
    Outcome × Volume :=
  let path := environment.settingsPath
  if volume.contains path then
    (.success ["Config file already exists at: " ++ path], volume)
  else
    match Settings.save volume environment (Settings.default environment) with
    | (.ok (), changed) =>
        (.success ["Initialized new config file at: " ++ path], changed)
    | (.error failure, changed) => (.failed failure, changed)

/-- A reminder of the commands. -/
def usage : List String :=
  ["Usage: papyrus [-v] <command>",
    "",
    "  parse <file> [--json]                  parse one script",
    "  check [path]... [-j <jobs>] [--json]   parse every script below paths",
    "  stats <file>                           count what a script holds",
    "  config show | init | path              look after the settings"]

/-- The name and the number of this program. -/
def versionLine : String := "papyrus-parser 0.1.0"

/-- Run a command. -/
def run (command : Command) (volume : Volume) (environment : Environment) :
    Outcome × Volume :=
  let settings := Settings.load volume environment
  match command with
  | .parse file asJson => (runParse volume file asJson, volume)
  | .check roots jobs asJson =>
      (runCheck Pattern.test? volume environment settings roots jobs asJson,
        volume)
  | .stats file => (runStats volume file, volume)
  | .settings .showAll => (runShow settings, volume)
  | .settings .create => runCreate volume environment
  | .settings .path => (.success [environment.settingsPath], volume)
  | .help => (.success usage, volume)
  | .version => (.success [versionLine], volume)

/-- The paths that a command reads, apart from the settings. -/
def sources (command : Command) (settings : Settings) : List String :=
  match command with
  | .parse file _ => [file]
  | .check roots _ _ => rootsToCheck settings roots
  | .stats file => [file]
  | _ => []

end PapyrusScript.Command
