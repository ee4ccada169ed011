import CommandShell.Log
import CommandShell.Path
set_option autoImplicit false

/-!
# Configuration

The settings of a shell come from variables of its environment and from its arguments.
-/

namespace CommandShell

/-- A path in which a leading `~` that stands alone means the home directory. -/
def expandHome (home : Option String) (path : String) : String :=
  match home, path.toList with
  | some home, '~' :: rest =>
    if rest.isEmpty || rest.head? = some '/' then home ++ String.ofList rest else path
  | _, _ => path

/-- How lines are edited. -/
inductive EditMode where
  | emacs
  | vi
  deriving DecidableEq

/-- The settings of a shell. -/
structure Config where
  name : String
  directory : String
  theme : String
  historyFile : String
  editorMode : String
  logLevel : String
  logDirectory : String
  /-- Records also go to standard error. -/
  logToStderr : Bool
  /-- The file that commands are read from, in place of standard input. -/
  script : Option String
  deriving DecidableEq

namespace Config

/-- The settings that the variables of an environment give. -/
def ofEnvironment (lookup : String → Option String) : Config :=
  let home := lookup "HOME"
  let directory := expandHome home "~/.config/rshell"
  { name := "rshell"
    directory := directory
    theme := (lookup "RSHELL_THEME").getD "default"
    historyFile :=
      ((lookup "RSHELL_HISTORY").map (expandHome home)).getD (Path.join directory ".rshell_history")
    editorMode := (lookup "RSHELL_EDITOR").getD "emacs"
    logLevel := (lookup "RSHELL_LOG_LEVEL").getD "warn"
    logDirectory :=
      ((lookup "RSHELL_LOG_DIR").map (expandHome home)).getD (Path.join directory "logs")
    logToStderr := (lookup "RSHELL_LOG_STDERR").isSome
    script := none }

/-- The settings with the arguments of a command line: the first one names a script, the others
are ignored. -/
def withArguments (config : Config) (arguments : List String) : Config :=
  { config with script := arguments.head? }

/-- How lines are edited: as in `vi` if the setting says so, whatever the case of its letters. -/
def editMode (config : Config) : EditMode :=
  if config.editorMode.map Char.toLower = "vi" then .vi else .emacs

/-- The limit for records of the log. -/
def level (config : Config) : LogLevel := .ofText config.logLevel

end Config

end CommandShell
