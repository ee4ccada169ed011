import CommandShell.Launch
set_option autoImplicit false

/-!
# The command line

The program gathers what a launch needs, launches a shell, and passes on what the run left behind.
The shell runs on a machine of its own: of the files it sees only the script and the environment
file, and the files that it makes below its working directory are written out when it has ended.
-/

namespace CommandShell.CommandLine

/-- The variables of the environment that a run depends on. -/
def variableNames : List String :=
  ["HOME", "PATH", "USER", "LOGNAME", "CLICOLOR_FORCE", "RSHELL_THEME", "RSHELL_EDITOR",
    "RSHELL_HISTORY", "RSHELL_LOG_LEVEL", "RSHELL_LOG_DIR", "RSHELL_LOG_STDERR"]

/-- The exit status by which a run that a signal ended, or that was broken off, is told from one
that came to its end. -/
def statusCode : Option Machine.Status → UInt32
  | some (.exited code) => UInt32.ofNat code
  | some (.signaled signal) => UInt32.ofNat (128 + signal.number)
  | none => 1

/-- The variables that are set. -/
def readVariables : IO EnvironmentFile.Variables :=
  variableNames.filterMapM fun name => do
    return (← IO.getEnv name).map fun value => (name, value)

/-- Everything that a stream still gives. -/
partial def readToEnd (stream : IO.FS.Stream) (sofar : ByteArray) : IO ByteArray := do
  let bytes ← stream.read 65536
  if bytes.isEmpty then return sofar else readToEnd stream (sofar ++ bytes)

/-- The tree with a copy of the file at a path, if that can be read. -/
def copyIn (files : Machine.Files) (path : String) : IO Machine.Files := do
  match ← (IO.FS.readBinFile path).toBaseIO with
  | .ok bytes => return files.putFile path bytes
  | .error _ => return files

/-- Writes out the files below the working directory that are not the same in the first tree. -/
def copyOut (before after : Machine.Files) : IO Unit := do
  let known := before.list.toOption.getD []
  for (path, bytes) in after.list.toOption.getD [] do
    if (known.lookup path).map ByteArray.toList ≠ some bytes.toList then
      if let some directory := Path.parent? path then
        if directory ≠ "" then IO.FS.createDirAll directory
      IO.FS.writeBinFile path bytes

/-- Runs the script that the first argument names, or else standard input: the exit status. -/
def run (arguments : List String) : IO UInt32 := do
  let environment ← readVariables
  let input ← if arguments.isEmpty then readToEnd (← IO.getStdin) .empty else pure .empty
  let tree := match environment.lookup "HOME" with
    | some home => World.emptyFiles.putDirectory home
    | none => World.emptyFiles
  let files ← (Launch.environmentFile :: arguments.take 1).foldlM copyIn tree
  let report := Launch.run { arguments, environment, input, files }
  copyOut files report.files
  let output ← IO.getStdout
  output.write report.output
  output.flush
  (← IO.getStderr).write report.errors
  return statusCode report.status

end CommandShell.CommandLine

/-- The program. -/
def main (arguments : List String) : IO UInt32 := CommandShell.CommandLine.run arguments
