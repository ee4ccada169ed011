import CommandShell.EnvironmentFile
import CommandShell.Session
set_option autoImplicit false

/-!
# Launching a shell

A shell is launched with arguments, an environment and an input.  The environment is completed from
a file in the working directory; it and the arguments give the settings.  What the run writes, its
log and how it ended are what it leaves behind.
-/

namespace CommandShell

open Machine (Files Status)

/-- What a shell is launched with. -/
structure Launch where
  arguments : List String
  environment : EnvironmentFile.Variables
  /-- What standard input holds. -/
  input : ByteArray
  files : Files

namespace Launch

/-- The file that completes the environment. -/
def environmentFile : String := ".env.development"

/-- The environment with the variables of the environment file, up to its first line that is no
text. -/
def fullEnvironment (launch : Launch) : EnvironmentFile.Variables :=
  match launch.files.find launch.files.workingDirectory environmentFile with
  | .ok (_, node@⟨.regular bytes, _, _, _⟩) =>
    if node.permits .read then
      let lines := ((Text.lines bytes.toList).takeWhile Option.isSome).filterMap id
      EnvironmentFile.load launch.environment [] (lines.map String.toList)
    else launch.environment
  | _ => launch.environment

/-- Colours are shown when they are asked for, because the output is no terminal. -/
def colours (environment : EnvironmentFile.Variables) : Bool :=
  (environment.lookup "CLICOLOR_FORCE").any (· ≠ "0")

/-! ## Directories of the shell's own -/

/-- Makes a directory. -/
def makeDirectory (files : Files) (path : String) : Except Errno Files :=
  files.makeDirectory files.workingDirectory (Text.held path)
    (Files.withhold Files.newDirectoryMode Files.usualMask)

/-- A directory that could not be made is none the less there, or is a failure. -/
def unlessDirectory (files : Files) (path : String) (errno : Errno) : Files × Option Errno :=
  (files, if files.kind? path = some .directory then none else some errno)

/-- Makes a directory, and before it those on the way to it that are missing, of which there are at
most `limit`.  What has been made stays even if the rest cannot be made. -/
def makeDirectories (files : Files) (path : String) : (limit : Nat) → Files × Option Errno
  | 0 => (files, some .noEntry)
  | limit + 1 =>
    if path = "" then (files, none)
    else
      match makeDirectory files path with
      | .ok files => (files, none)
      | .error .noEntry =>
        match Path.parent? path with
        | none => (files, some .noEntry)
        | some above =>
          match makeDirectories files above limit with
          | (files, some errno) => (files, some errno)
          | (files, none) =>
            match makeDirectory files path with
            | .ok files => (files, none)
            | .error errno => unlessDirectory files path errno
      | .error errno => unlessDirectory files path errno

/-- Makes a directory with those on the way to it. -/
def makeWholeDirectory (files : Files) (path : String) : Files × Option Errno :=
  makeDirectories files path ((Path.names path).length + 1)

/-- The default directory of the log. -/
def defaultLogDirectory (environment : EnvironmentFile.Variables) : String :=
  (Config.ofEnvironment fun name =>
    if name = "HOME" then environment.lookup name else none).logDirectory

/-- The name of the log file, by the day on which the clock starts. -/
def logFileName : String := "rshell_1970-01-01.log"

/-- Opens the log file, which is created if it is not there. -/
def openLogFile (files : Files) (path : String) : Except Errno Files := do
  match ← files.place files.workingDirectory (Text.held path) with
  | .missing directory name =>
    files.checkChange directory
    return (files.create directory name
      ⟨.regular .empty, Files.withhold Files.newFileMode Files.usualMask, true, false⟩).2
  | .found id =>
    if files.isDirectory id then throw .isDirectory
    if (files.node? id).any fun node => node.permits .write then return files
    throw .accessDenied

/-- Opens the log: the tree with its directory, and why there is no log if it cannot be opened. -/
def openLog (files : Files) (directory : String) : Files × Option Errno :=
  match makeWholeDirectory files directory with
  | (files, some errno) => (files, some errno)
  | (files, none) =>
    match openLogFile files (Path.join directory logFileName) with
    | .error errno => (files, some errno)
    | .ok files => (files, none)

/-! ## The run -/

/-- What is done before the first line is read: the theme is loaded, and the records that this
gives are written. -/
def openingRecords (config : Config) (logFault : Option Errno) : List Emission :=
  let log := logFault.toList.map fun errno =>
    Emission.record ⟨.warn, "unable to open log file in " ++ config.logDirectory ++ ": "
      ++ (StreamFault.system errno).message⟩
  let theme := if (Theme.named? config.theme).isSome then [] else
    [.record ⟨.warn, "unknown theme " ++ Text.quoted config.theme ++ ", using default"⟩]
  log ++ theme

/-- Runs the shell: its exit code. -/
def main (config : Config) (shell : Shell) (logFault : Option Errno) : SessionM Int := do
  liftM (Interpreter.emit (openingRecords config logFault))
  let result ←
    match config.script with
    | some path => Session.runScript shell path
    | none => Session.runSource shell .standardInput
  match result with
  | .ok code => return code
  | .error error =>
    Session.report error
    return 1

/-- What a launch leaves behind. -/
structure Report where
  /-- How the shell ended; none if the run was broken off. -/
  status : Option Status
  output : ByteArray
  errors : ByteArray
  log : String
  files : Files

/-- Launches a shell.  Its log is kept in the default place only; one that cannot be opened goes to
standard error. -/
def run (launch : Launch) : Report :=
  let environment := launch.fullEnvironment
  let config :=
    (Config.ofEnvironment fun name => environment.lookup name).withArguments launch.arguments
  let files := match Path.parent? config.historyFile with
    | some directory => (makeWholeDirectory launch.files directory).1
    | none => launch.files
  let (files, logFault) := openLog files config.logDirectory
  let directoryOf (path : String) : Option Machine.NodeId :=
    (files.find files.workingDirectory (Text.held path)).toOption.map Prod.fst
  let isKept := directoryOf config.logDirectory = directoryOf (defaultLogDirectory environment)
  let logger : Machine.Logger :=
    { limit := config.level
      toFile := logFault.isNone && isKept
      toStderr := config.logToStderr || logFault.isSome }
  let theme := Theme.load config.theme (colours environment)
  let shell : Shell := ⟨false, "", ""⟩
  let world : World := { files, environment, input := some launch.input, logger := some logger }
  let remains := world.runSession theme (main config shell logFault)
  { status := (remains.result.map fun (code, _) => .exited (code % 256).toNat) <|> remains.fate
    output := remains.output
    errors := remains.errors
    log := String.join (remains.log.toList.map LogRecord.line)
    files := remains.files }

end Launch

end CommandShell
