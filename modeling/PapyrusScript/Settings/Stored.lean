import PapyrusScript.Failure
import PapyrusScript.Settings.Reader
import PapyrusScript.Text.Utf8

/-!
# Stored settings

Each user has settings under several profile names.  The environment says
which profile is meant and where the user's folder is, and it can override
the folder of the scripts.  Settings that are missing or cannot be read are
those for a new user.
-/

namespace PapyrusScript

/-- What the surroundings of a run say. -/
structure Environment where
  /-- The user's folder. -/
  home : Option String
  /-- The name of the profile. -/
  profile : Option String
  /-- The folder of the scripts, whatever the settings say. -/
  scriptsFolder : Option String
  /-- The number of processors. -/
  processors : Nat
  deriving DecidableEq, Repr, Inhabited

namespace Environment

/-- The name of the profile that is meant. -/
def profileName (environment : Environment) : String :=
  environment.profile.getD "default"

/-- Where the settings are kept. -/
def settingsPath (environment : Environment) : String :=
  Path.joinAll (environment.home.getD ".")
    [".papyrus", environment.profileName, "config.json"]

end Environment

namespace Settings

/-- The settings for a new user. -/
def default (environment : Environment) : Settings :=
  { scriptsFolder := environment.scriptsFolder.getD "."
    sourcePattern := defaultPattern
    jobs := 0
    profile := environment.profileName }

/-- Read the settings in a file. -/
def read (volume : Volume) (path : String) : Except Failure Settings :=
  if volume.contains path then
    match volume.read path with
    | .error fault => .error (.storage path fault)
    | .ok content =>
        match Text.decodeUtf8 content with
        | .error _ => .error (.storage path .notText)
        | .ok text =>
            match ofText? text with
            | some settings => .ok settings
            | none => .error .badSettings
  else
    .error (.fileNotFound path)

/-- The settings in force. -/
def load (volume : Volume) (environment : Environment) : Settings :=
  let stored :=
    match read volume environment.settingsPath with
    | .ok settings => settings
    | .error _ => default environment
  { stored with
    scriptsFolder := environment.scriptsFolder.getD stored.scriptsFolder
    profile := environment.profileName }

/-- Keep settings for the profile that is meant. -/
def save (volume : Volume) (environment : Environment) (settings : Settings) :
    Except Failure Unit × Volume :=
  let path := environment.settingsPath
  let content := settings.document.written.toUTF8.toList
  match volume.writeInFolder path content with
  | (.ok (), changed) => (.ok (), changed)
  | (.error fault, changed) => (.error (.storage path fault), changed)

end Settings

end PapyrusScript
