import CommandShell.Interpreter
import CommandShell.Machine.Kernel
import CommandShell.Machine.Programs
import CommandShell.Shell
import CommandShell.Text.Lines
import CommandShell.Theme
set_option autoImplicit false

/-!
# Sessions

A session is a shell that runs as the first process of a machine.  Its commands are executed by the
interpreter of that process.  Its lines are given beforehand, or read from a descriptor a block at a
time, no sooner than they are asked for; a command may change what is still to be read.
-/

namespace CommandShell

open Machine (Descriptor Files Routine perform)

/-- What a shell asked of the source of its lines. -/
inductive SourceCall where
  | loadHistory
  | readLine (prompt : String)
  | addHistory (text : String)
  | saveHistory
  deriving DecidableEq

/-- Where lines come from. -/
inductive LineSource where
  | items (items : List SourceItem)
  /-- An open file, of which the bytes `pending` have been read. -/
  | descriptor (descriptor : Descriptor) (pending : List UInt8)

/-- What a session keeps besides the interpreter. -/
structure Session where
  theme : Theme
  source : LineSource
  /-- What the shell asked of the source of its lines, in order. -/
  calls : Array SourceCall := #[]

/-- A computation of a session. -/
abbrev SessionM := StateT Session InterpreterM

namespace LineSource

/-- How many bytes are read at once. -/
def blockSize : Nat := 8192

/-- How many blocks a line has at most. -/
def maxBlocks : Nat := 1000000

/-- The bytes up to the next line feed, after those in `piece`, and the bytes read after it.  At the
end of the file that is what there is. -/
def readPiece (descriptor : Descriptor) (piece pending : List UInt8) :
    (fuel : Nat) → InterpreterM (Except Errno (List UInt8) × List UInt8)
  | 0 => return (.ok piece, [])
  | fuel + 1 => do
    let front := pending.takeWhile (· ≠ Text.lineFeed)
    match pending.drop front.length with
    | feed :: rest => return (.ok (piece ++ front ++ [feed]), rest)
    | [] =>
      match ← Interpreter.call (.read descriptor blockSize) with
      | .error errno => return (.error errno, [])
      | .ok bytes =>
        if bytes.isEmpty then return (.ok (piece ++ front), [])
        else readPiece descriptor (piece ++ front) bytes.toList fuel

/-- A piece of a file as a source gives it; none for no bytes at all. -/
def itemOfPiece (piece : List UInt8) : Option SourceItem :=
  if piece.isEmpty then none
  else
    match Text.decodeLine piece with
    | some text => some (.line text)
    | none => some (.fault (.stream .invalidEncoding))

/-- What a source gives next, and what it then is. -/
def next : LineSource → InterpreterM (Option SourceItem × LineSource)
  | items [] => return (none, items [])
  | items (item :: rest) => return (some item, items rest)
  | descriptor file pending => do
    let (result, pending) ← readPiece file [] pending maxBlocks
    let item := match result with
      | .ok piece => itemOfPiece piece
      | .error errno => some (.fault (.stream (.system errno)))
    return (item, descriptor file pending)

/-- The lines that some bytes give. -/
def ofBytes (bytes : List UInt8) : LineSource :=
  .items ((Text.lines bytes).map fun
    | some text => .line text
    | none => .fault (.stream .invalidEncoding))

/-- Lines of standard input. -/
def standardInput : LineSource := .descriptor Machine.standardInput []

/-- More lines than are read from a source: one that is given beforehand has fewer. -/
def patience : LineSource → Nat
  | items given => given.length + 1
  | descriptor .. => 10000000

end LineSource

namespace Session

/-- Writes down what the shell asks of its source. -/
def note (call : SourceCall) : SessionM Unit :=
  modify fun session => { session with calls := session.calls.push call }

/-- Reports an error: to the log, and on standard error as the theme shows it. -/
def report (error : ShellError) : SessionM Unit := do
  let message := error.message
  let line := (← get).theme.formatError message
  liftM (Interpreter.emit [.record ⟨.error, message⟩, .line line])

/-- Reads what the source gives next. -/
def readLine (prompt : String) : SessionM (Option SourceItem) := do
  note (.readLine prompt)
  let (item, source) ← liftM (← get).source.next
  modify fun session => { session with source }
  return item

instance : Host SessionM where
  execute command := liftM (command.run (m := InterpreterM)).run
  reapChildren := liftM Interpreter.reap
  report := report
  readLine := readLine
  loadHistory := note .loadHistory
  addHistory text := note (.addHistory text)
  saveHistory := note .saveHistory

/-- The signals from the keyboard, which do not end an interactive shell. -/
def ignoreKeyboard : InterpreterM Unit := do
  for signal in [Signal.interrupt, .quit] do
    let _ ← Interpreter.call (.arrange signal .ignored)

/-- Runs a shell on the lines of a source. -/
def runSource (shell : Shell) (source : LineSource) : SessionM (Except ShellError Int) := do
  if shell.interactive then liftM ignoreKeyboard
  modify fun session => { session with source }
  shell.run source.patience

/-- Opens a script. -/
def openScript (path : String) : InterpreterM (Except ShellError LineSource) := do
  if path.contains '\x00' then return .error (.script .nulInPath)
  match ← Interpreter.call (.openFile (Text.held path) .input) with
  | .error errno => return .error (.script (.system errno))
  | .ok descriptor =>
    Interpreter.emit [.record ⟨.info, "reading commands from " ++ path⟩]
    return .ok (.descriptor descriptor [])

/-- Runs a shell on the lines of a script. -/
def runScript (shell : Shell) (path : String) : SessionM (Except ShellError Int) := do
  match ← liftM (openScript path) with
  | .error error => return .error error
  | .ok source => runSource shell source

end Session

/-- A world for a process: a file tree, and what it inherits. -/
structure World where
  files : Files
  environment : Machine.Environment
  /-- What is on standard input; none for the null device. -/
  input : Option ByteArray := none
  logger : Option Machine.Logger := none

/-- What a process leaves behind. -/
structure Remains (α : Type) where
  /-- What it came to; none if it did not end by itself. -/
  result : Option α
  /-- How it ended, if it came to nothing. -/
  fate : Option Machine.Status
  output : ByteArray
  errors : ByteArray
  files : Files
  log : Array LogRecord

namespace World

variable {α : Type}

/-- How many steps a machine makes at most. -/
def patience : Nat := 20000000

/-- The file tree of a world without anything of the user's. -/
def emptyFiles : Files := Files.base Machine.programNames

/-- Lets a routine run as the first process of a machine, until every process has ended. -/
def runRoutine (world : World) (routine : Routine α) : Remains α :=
  let setting : Machine.Setting :=
    { programs := Machine.runProgram
      files := world.files
      environment := world.environment.held
      input := world.input
      logger := world.logger }
  let machine := (Machine.boot setting routine).run patience
  { result := machine.result
    fate := machine.fate
    output := machine.output
    errors := machine.errors
    files := machine.files
    log := machine.log }

/-- Lets an interpreter run. -/
def runInterpreter (world : World) (action : InterpreterM α) : Remains α :=
  world.runRoutine (Prod.fst <$> action.run { environment := world.environment })

/-- Lets a session run; what it asked of its source comes with the result. -/
def runSession (world : World) (theme : Theme) (action : SessionM α) :
    Remains (α × Array SourceCall) :=
  world.runInterpreter ((fun (result, session) => (result, session.calls)) <$>
    action.run { theme, source := .items [] })

end World

end CommandShell
