import CommandShell.Machine.SystemShell.Builtin.Condition
import CommandShell.Machine.SystemShell.Builtin.Control
import CommandShell.Machine.SystemShell.Builtin.Directories
import CommandShell.Machine.SystemShell.Builtin.Input
import CommandShell.Machine.SystemShell.Builtin.JobControl
import CommandShell.Machine.SystemShell.Builtin.Limits
import CommandShell.Machine.SystemShell.Builtin.Lookup
import CommandShell.Machine.SystemShell.Builtin.Options
import CommandShell.Machine.SystemShell.Builtin.Output
import CommandShell.Machine.SystemShell.Test
set_option autoImplicit false

/-!
# Builtin commands of the system's shell

The commands that the shell carries out itself, by their names.  In the plain dialect an error in a
special one ends the script; after an error in another one it goes on.
-/

namespace CommandShell.Machine.SystemShell

/-- Writes the times that the shell and its children have taken. -/
def printTimes : Builtin := fun _ _ =>
  putText "0m0.000000s 0m0.000000s\n0m0.000000s 0m0.000000s\n"

/-- Writes the times that the shell and its children have taken, as the extended dialect does. -/
def printShortTimes : Builtin := fun _ _ => putText "0m0.000s 0m0.000s\n0m0.000s 0m0.000s\n"

/-- The builtin command of the plain dialect with a name, other than those that run what their
arguments say. -/
def plainBuiltin? (name : String) : Option Builtin :=
  match name with
  | ":" | "true" => some (doNothing 0)
  | "false" => some (doNothing 1)
  | "." => some runFile
  | "[" | "test" => some fun _ arguments => Test.run name arguments
  | "alias" => some defineAliases
  | "unalias" => some dropAliases
  | "jobs" => some listJobs
  | "ulimit" => some limitResources
  | "bg" | "fg" => some moveJob
  | "break" => some (leaveLoops .leaveLoops)
  | "continue" => some (leaveLoops .nextRound)
  | "cd" | "chdir" => some changeDirectory
  | "echo" => some echo
  | "eval" => some eval
  | "exec" => some execProgram
  | "exit" => some exitShell
  | "export" => some exportVariables
  | "getopts" => some getOption
  | "hash" => some hashNames
  | "kill" => some kill
  | "local" => some localVariables
  | "printf" => some printf
  | "pwd" => some printDirectory
  | "read" => some readVariables
  | "readonly" => some protectVariables
  | "return" => some returnStatus
  | "set" => some setCommand
  | "shift" => some shift
  | "times" => some printTimes
  | "trap" => some setTraps
  | "type" => some typeNames
  | "umask" => some changeMask
  | "unset" => some unsetNames
  | "wait" => some waitForJobs
  | "command" => some fun _ arguments => do
    let (letters, words) ← takeOptions "pvV" arguments
    commandQuery letters words
  | _ => none

/-- Works out expressions; the last one decides about the status. -/
def letExpressions : Builtin := fun _ arguments => do
  let words := if arguments.head? = some "--" then arguments.drop 1 else arguments
  if words.isEmpty then refuseCommand "expression expected"
  let mut last : Int := 0
  for word in words do
    match ← calculate? word with
    | .ok value => last := value
    | .error fault =>
      warnOfCalculation "let" fault
      throw (.fail 1)
  return if last = 0 then 1 else 0

/-- A command of the extended dialect that declares variables, whose arguments are words. -/
def declareWords (declaration : Declaration) : Builtin := fun _ arguments =>
  declaration (arguments.map .ofWord)

/-- The builtin command of the extended dialect with a name, other than those that run what their
arguments say. -/
def extendedBuiltin? (name : String) : Option Builtin :=
  match name with
  | ":" | "true" | "bind" | "complete" | "compopt" | "fc" | "history" => some (doNothing 0)
  | "false" | "compgen" | "help" => some (doNothing 1)
  | "." | "source" => some extendedRunFile
  | "[" | "test" => some extendedTest
  | "alias" => some extendedAlias
  | "unalias" => some extendedUnalias
  | "bg" | "fg" => some refuseJobControl
  | "break" => some (extendedLeaveLoops .leaveLoops)
  | "builtin" => some (doNothing 0)
  | "caller" => some tellCaller
  | "cd" => some extendedCd
  | "command" => some extendedCommand
  | "continue" => some (extendedLeaveLoops .nextRound)
  | "declare" | "export" | "local" | "readonly" | "typeset" =>
    (declaration? name).map declareWords
  | "dirs" => some listDirectories
  | "disown" => some disownJobs
  | "echo" => some extendedEcho
  | "enable" => some enableBuiltins
  | "eval" => some extendedEval
  | "exec" => some extendedExec
  | "exit" => some extendedExit
  | "getopts" => some getOption
  | "hash" => some extendedHash
  | "jobs" => some extendedJobs
  | "kill" => some extendedKill
  | "let" => some letExpressions
  | "logout" => some fun _ _ => refuseCommand "not login shell: use \u0060exit'"
  | "mapfile" | "readarray" => some readLines
  | "popd" => some popDirectory
  | "printf" => some extendedPrintf
  | "pushd" => some pushDirectory
  | "pwd" => some extendedPwd
  | "read" => some extendedRead
  | "return" => some extendedReturn
  | "set" => some extendedSet
  | "shift" => some extendedShift
  | "shopt" => some shopt
  | "suspend" => some fun _ _ => refuseCommand "cannot suspend: no job control"
  | "times" => some printShortTimes
  | "trap" => some extendedTrap
  | "type" => some extendedType
  | "ulimit" => some extendedUlimit
  | "umask" => some extendedUmask
  | "unset" => some extendedUnset
  | "wait" => some extendedWait
  | _ => none

/-- The builtin command with a name that is in use. -/
def State.builtin? (state : State) (name : String) : Option Builtin :=
  match state.dialect with
  | .plain => plainBuiltin? name
  | .extended => if state.disabled.contains name then none else extendedBuiltin? name

end CommandShell.Machine.SystemShell
