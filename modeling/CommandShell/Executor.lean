import CommandShell.Fault
import CommandShell.Signal
import CommandShell.Stream
import CommandShell.Command
import CommandShell.Text.Quoted
set_option autoImplicit false

/-!
# Executors

What running a command needs from the system: starting programs and copies of the interpreter,
opening and closing streams, and choosing the streams that the next program gets.  A command is run
against any monad that has these operations, be it a recorder or a process.
-/

namespace CommandShell

/-- Why running a command failed. -/
inductive ExecError where
  | fork (errno : Errno)
  | wait (program : String) (errno : Errno)
  /-- A program was ended by a signal. -/
  | abnormalTermination (program : String) (signal : Signal)
  | pipe (errno : Errno)
  | openFile (redirect : Redirect) (path : String) (fault : StreamFault)
  /-- A word holds a character that no argument of a program can hold. -/
  | invalidArgument (text : String)
  | unknownStream (id : StreamId)
  /-- A sequence without commands, which no text stands for. -/
  | emptySequence
  | output (fault : StreamFault)
  deriving DecidableEq

/-- What messages call the file of a redirection. -/
def Redirect.name : Redirect → String
  | input => "input"
  | output => "output"
  | append => "append"

/-- The wording of an execution error. -/
def ExecError.message : ExecError → String
  | fork errno => "unable to fork: " ++ errno.named
  | wait program errno => "error while waiting for " ++ program ++ ": " ++ errno.named
  | abnormalTermination program signal =>
    "abnormal process termination: " ++ program ++ " (" ++ signal.name ++ ")"
  | pipe errno => "unable to create pipe: " ++ errno.named
  | openFile redirect path fault =>
    "unable to open " ++ redirect.name ++ " file " ++ path ++ ": " ++ fault.message
  | invalidArgument text => "argument contains a nul byte: " ++ Text.quoted text
  | unknownStream id => "stream " ++ id.display ++ " is not open"
  | emptySequence => "incomplete sequential command"
  | output fault => "unable to write output: " ++ fault.message

/-- How a command ended, when it did not fail. -/
inductive Outcome where
  /-- The command ran to its end with this exit code. -/
  | completed (code : Int)
  /-- An `exit` was reached: everything around it ends as well. -/
  | terminate (code : Int)
  deriving DecidableEq

/-- The code of an outcome. -/
def Outcome.code : Outcome → Int
  | completed code | terminate code => code

/-- Whether starting a program waits for its end. -/
inductive WaitMode where
  | wait
  | background
  deriving DecidableEq

/-- What a path leads to. -/
inductive FileKind where
  | file
  | directory
  | other
  deriving DecidableEq

/-- What the interpreter tells its user about a command that goes on all the same. -/
inductive Notice where
  /-- The argument of `exit` is no number. -/
  | exitNotNumeric (argument : String)
  /-- `[` without a `]` at its end. -/
  | missingBracket
  /-- The first of two arguments of `test` is no flag. -/
  | unknownTestFlag
  /-- A copy of the interpreter could not run its command. -/
  | subshellFailed (error : ExecError)
  | commandNotFound (program : String)
  /-- There is no list of directories to search for programs. -/
  | searchPathUnset
  /-- A program was found but could not be started. -/
  | execFailed (program : String) (errno : Errno)
  deriving DecidableEq

/-- The operations that running a command needs. -/
class Executor (m : Type → Type) where
  /-- Runs a program and gives its exit code.  In the background the code is 0 at once and the
  program goes on.  A program that cannot be found is reported and gives 1. -/
  spawn : (program : String) → (arguments : List String) → WaitMode → ExceptT ExecError m Int
  /-- Starts a copy of the interpreter that does `body`, with the active streams for its own
  standard streams and no active streams, and does not wait for it. -/
  spawnSubshell : (body : m Outcome) → ExceptT ExecError m Unit
  /-- How many subshells have been started and not collected. -/
  pendingSubshells : m Nat
  /-- Waits for every pending subshell after the first `keep`, and gives the code of the first of
  them that ended in an `exit`. -/
  collectSubshells : (keep : Nat) → ExceptT ExecError m (Option Int)
  /-- Opens a pipe: its read end and its write end. -/
  createPipe : ExceptT ExecError m (StreamId × StreamId)
  /-- Opens the file of a redirection. -/
  openFile : Redirect → (path : String) → ExceptT ExecError m StreamId
  /-- The stream that programs read from; none for the interpreter's own. -/
  inputStream : m (Option StreamId)
  /-- The stream that programs write to; none for the interpreter's own. -/
  outputStream : m (Option StreamId)
  /-- Replaces the input stream and gives the previous one. -/
  setInputStream : Option StreamId → m (Option StreamId)
  /-- Replaces the output stream and gives the previous one. -/
  setOutputStream : Option StreamId → m (Option StreamId)
  closeStream : StreamId → ExceptT ExecError m Unit
  /-- Writes text of a builtin to the output stream. -/
  writeOutput : String → ExceptT ExecError m Unit
  /-- What a path leads to; none if nothing. -/
  fileKind : (path : String) → m (Option FileKind)
  /-- Tells the user about something. -/
  report : Notice → m Unit

end CommandShell
