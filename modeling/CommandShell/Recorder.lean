import CommandShell.Executor
set_option autoImplicit false

/-!
# The recorder

An executor that touches no system: it writes down what it is asked to do and answers from a
script.  A subshell is run on the spot, and its outcome is kept until it is collected.  Calls can be
made to fail on purpose, except those that a subshell makes.  One list of events tells the whole
story in order: what was done, where each subshell began and ended, and which calls failed.
-/

namespace CommandShell

/-- What the world of a recorder is like. -/
structure Script where
  /-- The exit code of each program. -/
  exitCode : String → Int
  /-- The programs that a signal ends. -/
  crashes : String → Bool
  /-- The paths that cannot be opened. -/
  isMissing : String → Bool
  /-- What each path leads to. -/
  fileKind : String → Option FileKind

/-- Every program succeeds, except `false`; every path can be opened; `test` finds nothing. -/
def Script.plain : Script where
  exitCode program := if program = "false" then 1 else 0
  crashes _ := false
  isMissing _ := false
  fileKind _ := none

/-- Which calls fail on purpose.  Calls of each kind are counted from 0; a call that fails so
changes nothing but the count. -/
structure Faults where
  pipe : (earlier : Nat) → Bool
  close : (earlier : Nat) → StreamId → Bool
  write : (earlier : Nat) → Bool
  pipeCalls : Nat := 0
  closeCalls : Nat := 0
  writeCalls : Nat := 0

/-- No call fails on purpose. -/
def Faults.none : Faults where
  pipe _ := false
  close _ _ := false
  write _ := false

/-- Something that happened to a recorder. -/
inductive Event where
  /-- A program was started with the given active streams. -/
  | spawn (program : String) (arguments : List String) (mode : WaitMode)
      (input output : Option StreamId)
  /-- A subshell was started; what it does follows. -/
  | subshell (input output : Option StreamId)
  /-- The subshell that was started last, of those under way, came to its end. -/
  | subshellEnded (outcome : Outcome)
  | pipe (read write : StreamId)
  | opened (redirect : Redirect) (path : String) (stream : StreamId)
  | close (stream : StreamId)
  /-- A builtin wrote text to the active output stream. -/
  | wrote (output : Option StreamId) (text : String)
  /-- The subshells after the first `keep` were collected. -/
  | collect (keep : Nat)
  /-- A call failed and did nothing else; a program that was started crashed. -/
  | failed (error : ExecError)
  deriving DecidableEq

/-- A recorder: what it has been asked, and what is open. -/
structure Recorder where
  script : Script
  /-- None inside a subshell. -/
  faults : Option Faults
  /-- What happened, in order. -/
  events : Array Event := #[]
  /-- What the user was told, in order. -/
  notices : Array Notice := #[]
  /-- The open streams, the newest first. -/
  openStreams : List StreamId := []
  nextId : Nat := 0
  input : Option StreamId := none
  output : Option StreamId := none
  /-- The outcomes of the subshells that have not been collected, in order. -/
  subshells : List Outcome := []

/-- A computation on a recorder. -/
abbrev RecorderM := StateM Recorder

namespace Recorder

/-- A recorder that has not been asked anything. -/
def fresh (script : Script) (faults : Option Faults := none) : Recorder :=
  { script, faults }

/-- Writes down an event. -/
def record (event : Event) (r : Recorder) : Recorder := { r with events := r.events.push event }

/-- Writes down that a call fails, and lets it fail. -/
def fail {α : Type} (error : ExecError) (r : Recorder) : Except ExecError α × Recorder :=
  (.error error, r.record (.failed error))

/-- Opens a stream under the next number. -/
def register (r : Recorder) : StreamId × Recorder :=
  let id : StreamId := ⟨r.nextId⟩
  (id, { r with openStreams := id :: r.openStreams, nextId := r.nextId + 1 })

/-- Answers a request to start a program. -/
def spawn (program : String) (arguments : List String) (mode : WaitMode) (r : Recorder) :
    Except ExecError Int × Recorder :=
  let r := r.record (.spawn program arguments mode r.input r.output)
  if r.script.crashes program then r.fail (.abnormalTermination program .kill)
  else
    match mode with
    | .wait => (.ok (r.script.exitCode program), r)
    | .background => (.ok 0, r)

/-- Runs a subshell on the spot.  It starts without active streams and without faults. -/
def spawnSubshell (body : RecorderM Outcome) (r : Recorder) : Except ExecError Unit × Recorder :=
  let inside := { r.record (.subshell r.input r.output) with
    input := none, output := none, faults := none }
  let (outcome, after) := body.run inside
  (.ok (), { after.record (.subshellEnded outcome) with
    input := r.input, output := r.output, faults := r.faults,
    subshells := after.subshells ++ [outcome] })

/-- The code of the first of several outcomes that came of an `exit`. -/
def firstExit : List Outcome → Option Int
  | [] => none
  | .terminate code :: _ => some code
  | .completed _ :: rest => firstExit rest

/-- Forgets the subshells after the first `keep`. -/
def collectSubshells (keep : Nat) (r : Recorder) : Option Int × Recorder :=
  (firstExit (r.subshells.drop keep),
    { r.record (.collect keep) with subshells := r.subshells.take keep })

/-- Opens the two ends of a pipe under two numbers, the read end first. -/
def createPipe (r : Recorder) : Except ExecError (StreamId × StreamId) × Recorder :=
  let fails := r.faults.any fun faults => faults.pipe faults.pipeCalls
  let r : Recorder := { r with
    faults := r.faults.map fun faults => { faults with pipeCalls := faults.pipeCalls + 1 } }
  if fails then r.fail (.pipe .tooManyOpenFiles)
  else
    let (read, r) := r.register
    let (write, r) := r.register
    (.ok (read, write), r.record (.pipe read write))

/-- Opens a file, unless its path is missing. -/
def openFile (redirect : Redirect) (path : String) (r : Recorder) :
    Except ExecError StreamId × Recorder :=
  if r.script.isMissing path then r.fail (.openFile redirect path .notFound)
  else
    let (stream, r) := r.register
    (.ok stream, r.record (.opened redirect path stream))

/-- Closes an open stream. -/
def closeStream (id : StreamId) (r : Recorder) : Except ExecError Unit × Recorder :=
  let fails := r.faults.any fun faults => faults.close faults.closeCalls id
  let r : Recorder := { r with
    faults := r.faults.map fun faults => { faults with closeCalls := faults.closeCalls + 1 } }
  if fails then r.fail (.unknownStream id)
  else if id ∈ r.openStreams then
    (.ok (), { r.record (.close id) with openStreams := r.openStreams.erase id })
  else r.fail (.unknownStream id)

/-- Writes down what a builtin writes. -/
def writeOutput (text : String) (r : Recorder) : Except ExecError Unit × Recorder :=
  let fails := r.faults.any fun faults => faults.write faults.writeCalls
  let r : Recorder := { r with
    faults := r.faults.map fun faults => { faults with writeCalls := faults.writeCalls + 1 } }
  if fails then r.fail (.output .brokenPipe)
  else (.ok (), r.record (.wrote r.output text))

/-- What builtins wrote and the stream they wrote it to, in order. -/
def writes (r : Recorder) : List (Option StreamId × String) :=
  r.events.toList.filterMap fun
    | .wrote output text => some (output, text)
    | _ => none

end Recorder

instance : Executor RecorderM where
  spawn program arguments mode := Recorder.spawn program arguments mode
  spawnSubshell body := Recorder.spawnSubshell body
  pendingSubshells := fun r => (r.subshells.length, r)
  collectSubshells keep := fun r =>
    let (code, r) := r.collectSubshells keep
    (.ok code, r)
  createPipe := Recorder.createPipe
  openFile redirect path := Recorder.openFile redirect path
  inputStream := fun r => (r.input, r)
  outputStream := fun r => (r.output, r)
  setInputStream stream := fun r => (r.input, { r with input := stream })
  setOutputStream stream := fun r => (r.output, { r with output := stream })
  closeStream id := Recorder.closeStream id
  writeOutput text := Recorder.writeOutput text
  fileKind path := fun r => (r.script.fileKind path, r)
  report notice := fun r => ((), { r with notices := r.notices.push notice })

end CommandShell
