import DisplayEnv.Config.Schema
import DisplayEnv.Files
import DisplayEnv.Notice

/-!
# Configurations in files

Where a configuration is looked for, and how it is loaded and saved. The place is told by the
environment: a variable of its own (`CONFIG_ENV_VAR`), or a fixed path in the user's directory. A
variable whose value is no text counts as one that is not set. `tryLoad` (`try_load_from`) says why
a file gives no configuration; `load` (`load_from`) tells the log and goes on with the standard one.
-/

namespace DisplayEnv

/-- What the surroundings of a program say: the variables that are set, and where the program is. -/
structure Environment where
  entries : List (String × List UInt8)
  programDirectory : String
  deriving Repr

namespace Environment

/-- The text of a variable. -/
def text? (env : Environment) (name : String) : Option String :=
  (env.entries.lookup name).bind fun bytes => String.fromUTF8? ⟨bytes.toArray⟩

def set (env : Environment) (name : String) (value : List UInt8) : Environment :=
  { env with entries := (name, value) :: env.entries.filter (·.1 ≠ name) }

def unset (env : Environment) (name : String) : Environment :=
  { env with entries := env.entries.filter (·.1 ≠ name) }

/-- The directory with the user's files (`default_config_dir`). -/
def userDirectory (env : Environment) : String :=
  match env.text? "USERPROFILE", env.text? "HOME" with
  | some directory, _ => directory
  | none, some directory => directory
  | none, none => env.programDirectory

end Environment

/-- A path below a directory (`join`); the directory without a name adds nothing. -/
def joinPath (directory name : String) : String :=
  if directory = "" ∨ directory.endsWith "/" then directory ++ name else directory ++ "/" ++ name

namespace DisplayConfig

/-- The file where the configuration is looked for (`default_path`). -/
def defaultPath (env : Environment) : String :=
  match env.text? "DK_DISPLAY_CONFIG" with
  | some path => path
  | none => joinPath (joinPath env.userDirectory ".dk_display") "display.json"

/-- The configuration in what was read at a path. -/
def ofReading (path : String) : Except FileError String → Except LoadError DisplayConfig
  | .error e => .error (.reading path e)
  | .ok text =>
    match ofText text with
    | .error e => .error (.parsing path text e)
    | .ok config => .ok config

/-- The configuration that was found at a path, or the standard one with a notice. -/
def orStandard (path : String) : Except LoadError DisplayConfig → DisplayConfig × List Notice
  | .ok config => (config, [])
  | .error e => (standard, [.configIgnored path e])

/-- The configuration in a file (`try_load_from`). -/
def tryLoad (files : Files) (path : String) : Except LoadError DisplayConfig :=
  ofReading path (files.readText path)

/-- The configuration in a file, or the standard one, and what there is to tell about it
(`load_from`). A file that is not there is nothing to tell about. -/
def load (files : Files) (path : String) : DisplayConfig × List Notice :=
  if files.exists? path then orStandard path (tryLoad files path) else (standard, [])

/-- Write the configuration to a file and make the directories above it (`save_to`). -/
def save (config : DisplayConfig) (files : Files) (path : String) :
    Except FileError Unit × Files :=
  files.put path config.pretty.toUTF8.toList

end DisplayConfig

end DisplayEnv
