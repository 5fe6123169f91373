import PapyrusScript.Number.Integer
import PapyrusScript.Settings.Basic

/-!
# Command lines

A command line names one command, with options before or after it:

* `parse FILE [--json]`
* `check [PATH ...] [-j N | --jobs N] [--json]`
* `stats FILE`
* `config show`, `config init`, `config path`
* `help`, which is also what `-h` and `--help` ask for
* `-V` or `--version`

`-v` and `--verbose` may stand anywhere, any number of times.  A short option
may hold others after it, and a value may follow its option directly, after
an equals sign or as the next argument.  After `--` every argument is a path.
Every other option may be given once.
-/

namespace PapyrusScript

/-- A command for the settings. -/
inductive SettingsCommand where
  | showAll
  | create
  | path
  deriving DecidableEq, Repr, Inhabited

/-- What a command line asks for. -/
inductive Command where
  | parse (file : String) (asJson : Bool)
  | check (roots : List String) (jobs : Option Nat) (asJson : Bool)
  | stats (file : String)
  | settings (command : SettingsCommand)
  | help
  | version
  deriving DecidableEq, Repr, Inhabited

namespace Arguments

/-- The options that a command knows. -/
structure Known where
  json : Bool
  jobs : Bool
  deriving DecidableEq, Repr, Inhabited

/-- The arguments of a command. -/
structure Given where
  paths : List String
  json : Bool
  jobs : Option Nat
  help : Bool
  deriving DecidableEq, Repr, Inhabited

/-- No arguments. -/
def Given.none : Given := ⟨[], false, .none, false⟩

/-- One more path.  A path has at least one character. -/
def Given.addPath? (given : Given) (path : List Char) : Option Given :=
  if path.isEmpty then .none
  else some { given with paths := given.paths ++ [String.ofList path] }

/-- The number of jobs, if it has not been given before. -/
def Given.setJobs? (given : Given) (value : List Char) : Option Given := do
  guard given.jobs.isNone
  let digits :=
    match value with
    | '+' :: rest => rest
    | _ => value
  let jobs ← Number.natural? 10 Text.isDigit digits
  guard (jobs ≤ Settings.jobLimit)
  return { given with jobs := some jobs }

/-- The request for JSON, if it has not been made before. -/
def Given.setJson? (given : Given) : Option Given :=
  if given.json then .none else some { given with json := true }

/-- What an argument leaves open. -/
inductive Reading where
  /-- Nothing: the next argument is one of its own. -/
  | complete (given : Given)
  /-- The next argument is the number of jobs. -/
  | jobsNext (given : Given)
  deriving DecidableEq, Repr, Inhabited

/-- Read the letters of a short option. -/
def readShort? (known : Known) (given : Given) :
    List Char → Option Reading
  | [] => some (.complete given)
  | 'v' :: rest => readShort? known given rest
  | 'h' :: _ => some (.complete { given with help := true })
  | 'j' :: rest =>
      if known.jobs then
        match rest with
        | [] => some (.jobsNext given)
        | '=' :: value => (given.setJobs? value).map .complete
        | value => (given.setJobs? value).map .complete
      else
        none
  | _ => none

/-- Read a long option, its dashes passed. -/
def readLong? (known : Known) (given : Given) (option : List Char) :
    Option Reading :=
  if option = "verbose".toList then
    some (.complete given)
  else if option = "help".toList then
    some (.complete { given with help := true })
  else if option = "json".toList && known.json then
    given.setJson?.map .complete
  else if option = "jobs".toList && known.jobs then
    some (.jobsNext given)
  else if "jobs=".toList.isPrefixOf option && known.jobs then
    (given.setJobs? (option.drop 5)).map .complete
  else
    none

/-- Whether an argument looks like an option. -/
def isOption : List Char → Bool
  | '-' :: _ :: _ => true
  | _ => false

/-- Read the arguments of a command after its name. -/
def read? (known : Known) : Reading → List (List Char) → Option Given
  | .complete given, [] => some given
  | .jobsNext _, [] => none
  | .jobsNext given, value :: rest =>
      if isOption value then none
      else do
        let next ← given.setJobs? value
        read? known (.complete next) rest
  | .complete given, argument :: rest =>
      if given.help then some given
      else
        match argument with
        | ['-', '-'] => rest.foldlM Given.addPath? given
        | '-' :: '-' :: option => do
            read? known (← readLong? known given option) rest
        | '-' :: letter :: letters => do
            read? known (← readShort? known given (letter :: letters)) rest
        | path => do
            read? known (.complete (← given.addPath? path)) rest

/-- Read the arguments of a command that takes one file. -/
def oneFile? (known : Known) (build : String → Given → Command)
    (arguments : List (List Char)) : Option Command := do
  let given ← read? known (.complete .none) arguments
  if given.help then
    return .help
  else
    match given.paths with
    | [file] => return build file given
    | _ => none

/-- Read the arguments of `check`. -/
def check? (arguments : List (List Char)) : Option Command := do
  let given ← read? ⟨true, true⟩ (.complete .none) arguments
  return if given.help then .help
    else .check given.paths given.jobs given.json

/-- Read arguments that may hold nothing but what every command knows. -/
def noFile? (command : Command) (arguments : List (List Char)) :
    Option Command := do
  let given ← read? ⟨false, false⟩ (.complete .none) arguments
  if given.help then return .help
  else if given.paths.isEmpty then return command
  else none

/-- The command with a name below `config`. -/
def settingsCommand? (name : List Char) : Option SettingsCommand :=
  if name = "show".toList then some .showAll
  else if name = "init".toList then some .create
  else if name = "path".toList then some .path
  else none

/-- What an argument in front of a command's name asks for. -/
inductive Preface where
  | logging
  | help
  | version
  deriving DecidableEq, Repr, Inhabited

/-- Read the letters of a short option in front of a command's name.  The
version can only be asked for where `versioned` says so. -/
def shortPreface? (versioned : Bool) : List Char → Option Preface
  | [] => some .logging
  | 'v' :: rest => shortPreface? versioned rest
  | 'h' :: _ => some .help
  | 'V' :: _ => if versioned then some .version else none
  | _ => none

/-- Read an option in front of a command's name. -/
def preface? (versioned : Bool) : List Char → Option Preface
  | '-' :: '-' :: option =>
      if option = "verbose".toList then some .logging
      else if option = "help".toList then some .help
      else if option = "version".toList && versioned then some .version
      else none
  | '-' :: letter :: rest => shortPreface? versioned (letter :: rest)
  | _ => none

/-- Read the names of the command that help is wanted for. -/
def helpOn? (nested : Bool) : List (List Char) → Option Command
  | [] => some .help
  | [name] =>
      let known :=
        if nested then ["show", "init", "path", "help"]
        else ["parse", "check", "stats", "config", "help"]
      if known.contains (String.ofList name) then some .help else none
  | name :: rest =>
      if !nested && name = "config".toList then helpOn? true rest else none

/-- Read the name of a command for the settings and its arguments. -/
def settings? : List (List Char) → Option Command
  | [] => none
  | name :: rest =>
      match preface? false name with
      | some .logging => settings? rest
      | some .help => some .help
      | some .version => some .version
      | none =>
          if name = "help".toList then helpOn? true rest
          else do
            let command ← settingsCommand? name
            noFile? (.settings command) rest

/-- Read a command line. -/
def command? : List (List Char) → Option Command
  | [] => none
  | name :: rest =>
      match preface? true name with
      | some .logging => command? rest
      | some .help => some .help
      | some .version => some .version
      | none =>
          if name = "parse".toList then
            oneFile? ⟨true, false⟩
              (fun file given => .parse file given.json) rest
          else if name = "check".toList then check? rest
          else if name = "stats".toList then
            oneFile? ⟨false, false⟩ (fun file _ => .stats file) rest
          else if name = "config".toList then settings? rest
          else if name = "help".toList then helpOn? false rest
          else none

end Arguments

/-- The command that some arguments spell. -/
def Command.ofArguments? (arguments : List String) : Option Command :=
  Arguments.command? (arguments.map String.toList)

end PapyrusScript
