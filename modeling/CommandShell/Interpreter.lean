import CommandShell.Children
import CommandShell.Execution
import CommandShell.SearchPath
set_option autoImplicit false

/-!
# The interpreter as a process

The executor of a process: programs and subshells are children made by forking, streams are
descriptors.  A child installs the active streams as its standard streams and closes the other
streams of its parent.  A subshell that ended in an `exit` says so by one byte in a pipe of its
own, because its exit status alone cannot tell.
-/

namespace CommandShell

open Machine (Descriptor Pid Routine perform)

/-- A subshell that has not been collected. -/
structure Subshell where
  pid : Pid
  /-- The read end of the pipe in which it says that it ended in an `exit`. -/
  status : Descriptor
  deriving DecidableEq

/-- What the interpreter keeps about its streams and children. -/
structure Interpreter where
  streams : Registry Descriptor := .empty
  input : Option StreamId := none
  output : Option StreamId := none
  children : ChildTable := .empty
  /-- The subshells that have not been collected, in order. -/
  subshells : List Subshell := []
  /-- The environment, which programs inherit. -/
  environment : Machine.Environment
  deriving DecidableEq

/-- A computation of the interpreter. -/
abbrev InterpreterM := StateT Interpreter Routine

namespace Interpreter

/-- Makes a call of the system. -/
def call (c : Machine.Call) : InterpreterM c.Reply := liftM (perform c)

/-- The byte by which a subshell says that it ended in an `exit`. -/
def terminated : ByteArray := ⟨#[0x54]⟩

/-- Tells what a notice has to tell. -/
def emit : List Emission → InterpreterM Unit
  | [] => return ()
  | .line text :: rest => do
    let _ ← call (.write Machine.standardError (text ++ "\n").toUTF8)
    emit rest
  | .record record :: rest => do
    call (.log record)
    emit rest

/-- What a path leads to. -/
def fileKind (path : String) : InterpreterM (Option FileKind) := do
  if path.contains '\x00' then return none
  return (← call (.stat (Text.held path) true)).toOption.map fun info => info.kind.fileKind

/-- The first of several paths that leads to a program. -/
def firstProgram : List String → InterpreterM (Option String)
  | [] => return none
  | path :: rest => do
    if path.contains '\x00' then firstProgram rest
    else
      match ← call (.stat (Text.held path) true) with
      | .ok info => if info.isProgram then return some path else firstProgram rest
      | .error _ => firstProgram rest

/-- The file that a program's name stands for. -/
def resolve (program : String) : InterpreterM (Option String) := do
  if isProgramPath program then return some program
  match (← get).environment.lookup "PATH" with
  | none =>
    emit Notice.searchPathUnset.emissions
    return none
  | some searchPath => firstProgram (programCandidates program searchPath)

/-- The descriptor of an active stream. -/
def activeDescriptor (stream : Option StreamId) :
    ExceptT ExecError InterpreterM (Option Descriptor) := do
  match stream with
  | none => return none
  | some id =>
    match (← get).streams.get? id with
    | some stream => return some stream.handle
    | none => throw (.unknownStream id)

/-- Closes descriptors. -/
def closeAll : List Descriptor → InterpreterM Unit
  | [] => return ()
  | descriptor :: rest => do
    let _ ← call (.close descriptor)
    closeAll rest

/-- Makes the active streams the standard streams of a child. -/
def installStreams (input output : Option Descriptor) : InterpreterM Unit := do
  if let some descriptor := input then
    let _ ← call (.install descriptor Machine.standardInput)
  if let some descriptor := output then
    let _ ← call (.install descriptor Machine.standardOutput)

/-- No word of a program's call may hold a character that no argument can hold. -/
def checkWords : List String → ExceptT ExecError InterpreterM Unit
  | [] => return ()
  | word :: rest =>
    if word.contains '\x00' then throw (.invalidArgument word) else checkWords rest

/-- What a child does that is to become a program. -/
def becomeProgram (program path : String) (arguments : List String)
    (input output : Option Descriptor) : InterpreterM Int := do
  installStreams input output
  closeAll (← get).streams.handles
  for signal in [Signal.interrupt, .quit, .pipe] do
    let _ ← call (.arrange signal .standard)
  let image : Machine.Image := ⟨program :: arguments, (← get).environment⟩
  let errno ← call (.exec (Text.held path) image.held)
  emit (Notice.execFailed program errno).emissions
  liftM (Routine.exit 1 : Routine Int)

/-- Runs a program. -/
def spawn (program : String) (arguments : List String) (mode : WaitMode) :
    ExceptT ExecError InterpreterM Int := do
  match ← (resolve program : InterpreterM _) with
  | none =>
    (emit (Notice.commandNotFound program).emissions : InterpreterM _)
    return 1
  | some path =>
    checkWords (path :: program :: arguments)
    let input ← activeDescriptor (← get).input
    let output ← activeDescriptor (← get).output
    match ← (call .fork : InterpreterM _) with
    | .error errno => throw (.fork errno)
    | .ok .child => (becomeProgram program path arguments input output : InterpreterM _)
    | .ok (.parent pid) =>
      let child : Child := ⟨pid, program⟩
      match mode with
      | .background =>
        modify fun s => { s with children := s.children.track child }
        return 0
      | .wait => ExceptT.mk (liftM child.await.run)

/-- What a subshell does: its body, with the streams of its parent for its standard streams and
nothing else of its parent's. -/
def becomeSubshell (body : InterpreterM Outcome) (input output : Option Descriptor)
    (statusRead statusWrite : Descriptor) : InterpreterM Unit := do
  installStreams input output
  let s ← get
  closeAll (statusRead :: s.streams.handles ++ s.subshells.map Subshell.status)
  set { s with
    streams := s.streams.clear, input := none, output := none, children := .empty,
    subshells := [] }
  let outcome ← body
  if let .terminate _ := outcome then
    let _ ← call (.write statusWrite terminated)
  liftM (Routine.exit outcome.code : Routine Unit)

/-- Starts a subshell. -/
def spawnSubshell (body : InterpreterM Outcome) : ExceptT ExecError InterpreterM Unit := do
  let input ← activeDescriptor (← get).input
  let output ← activeDescriptor (← get).output
  match ← (call (.openPipe true) : InterpreterM _) with
  | .error errno => throw (.pipe errno)
  | .ok (statusRead, statusWrite) =>
    match ← (call .fork : InterpreterM _) with
    | .error errno => throw (.fork errno)
    | .ok .child => (becomeSubshell body input output statusRead statusWrite : InterpreterM _)
    | .ok (.parent pid) =>
      let _ ← (call (.close statusWrite) : InterpreterM _)
      modify fun s => { s with subshells := s.subshells ++ [⟨pid, statusRead⟩] }

/-- Waits for a subshell, and gives its exit code if it ended in an `exit`. -/
def collectSubshell (subshell : Subshell) : ExceptT ExecError InterpreterM (Option Int) := do
  let code ← attempt (ExceptT.mk (liftM (Child.await ⟨subshell.pid, "subshell"⟩).run))
  match code with
  | .error error =>
    let _ ← (call (.close subshell.status) : InterpreterM _)
    throw error
  | .ok code =>
    let byte ← (call (.read subshell.status 1) : InterpreterM _)
    let _ ← (call (.close subshell.status) : InterpreterM _)
    return if byte.toOption == some terminated then some code else none

/-- Waits for subshells in order.  All of them are waited for; the first failure counts, and else
the first `exit`. -/
def collectAll : List Subshell → ExceptT ExecError InterpreterM (Option Int)
  | [] => return none
  | subshell :: rest => do
    let first ← attempt (collectSubshell subshell)
    let others ← attempt (collectAll rest)
    match ← MonadExcept.ofExcept first with
    | some code =>
      let _ ← MonadExcept.ofExcept others
      return some code
    | none => MonadExcept.ofExcept others

/-- Waits for the subshells after the first `keep`. -/
def collectSubshells (keep : Nat) : ExceptT ExecError InterpreterM (Option Int) := do
  let pending := (← get).subshells.drop keep
  modify fun s => { s with subshells := s.subshells.take keep }
  collectAll pending

/-- Registers a descriptor as a stream. -/
def register (descriptor : Descriptor) (mode : StreamMode) : InterpreterM StreamId :=
  modifyGet fun s =>
    let (id, streams) := s.streams.insert descriptor mode
    (id, { s with streams })

/-- Opens a pipe. -/
def createPipe : ExceptT ExecError InterpreterM (StreamId × StreamId) := do
  match ← (call (.openPipe false) : InterpreterM _) with
  | .error errno => throw (.pipe errno)
  | .ok (read, write) => return (← register read .input, ← register write .output)

/-- The direction of the file of a redirection. -/
def modeOf : Redirect → StreamMode
  | .input => .input
  | .output | .append => .output

/-- Opens the file of a redirection. -/
def openFile (redirect : Redirect) (path : String) : ExceptT ExecError InterpreterM StreamId := do
  if path.contains '\x00' then throw (.openFile redirect path .nulInPath)
  match ← (call (.openFile (Text.held path) (.ofRedirect redirect)) : InterpreterM _) with
  | .error errno => throw (.openFile redirect path (.system errno))
  | .ok descriptor => register descriptor (modeOf redirect)

/-- Closes a stream. -/
def closeStream (id : StreamId) : ExceptT ExecError InterpreterM Unit := do
  match (← get).streams.close? id with
  | none => throw (.unknownStream id)
  | some (descriptor, streams) =>
    modify fun s => { s with streams }
    let _ ← (call (.close descriptor) : InterpreterM _)

/-- Writes text of a builtin.  No text at all is written without asking the system, and the
interpreter's own output may be closed for writing. -/
def writeOutput (text : String) : ExceptT ExecError InterpreterM Unit := do
  let active ← activeDescriptor (← get).output
  let descriptor := active.getD Machine.standardOutput
  if text ≠ "" then
    match ← (call (.write descriptor text.toUTF8) : InterpreterM _) with
    | .error errno =>
      if active.isSome || errno ≠ .badDescriptor then throw (.output (.system errno))
    | .ok () => return ()

/-- Collects the background children that have ended, and says how many. -/
def reap : InterpreterM Nat := do
  let (count, children) ← liftM (← get).children.reap
  modify fun s => { s with children }
  return count

/-- Collects background children until there are so many, looking once a millisecond and at most so
many times.  Says how many there were. -/
def reapUntil (wanted sofar : Nat) : Nat → InterpreterM Nat
  | 0 => return sofar
  | tries + 1 => do
    let sofar := sofar + (← reap)
    if sofar ≥ wanted then return sofar
    call (.sleep 1)
    reapUntil wanted sofar tries

end Interpreter

instance : Executor InterpreterM where
  spawn := Interpreter.spawn
  spawnSubshell := Interpreter.spawnSubshell
  pendingSubshells := return (← get).subshells.length
  collectSubshells := Interpreter.collectSubshells
  createPipe := Interpreter.createPipe
  openFile := Interpreter.openFile
  inputStream := return (← get).input
  outputStream := return (← get).output
  setInputStream stream := modifyGet fun s => (s.input, { s with input := stream })
  setOutputStream stream := modifyGet fun s => (s.output, { s with output := stream })
  closeStream := Interpreter.closeStream
  writeOutput := Interpreter.writeOutput
  fileKind := Interpreter.fileKind
  report notice := Interpreter.emit notice.emissions

end CommandShell
