import CommandShell.Machine.SystemShell.Redirecting
set_option autoImplicit false

/-!
# Running programs

How the system's shell finds a program, becomes it or waits for it, and what it tells about a
program that a signal has ended.
-/

namespace CommandShell.Machine.SystemShell

variable {α : Type}

/-! ## Ends of processes -/

/-- The exit status that stands for the end of a process. -/
def statusOf : Status → Nat
  | .exited code => code
  | .signaled signal => 128 + signal.number

/-- A text with blanks behind it, up to a width. -/
def paddedRight (width : Nat) (text : String) : String :=
  text ++ String.ofList (List.replicate (width - text.length) ' ')

/-- How wide the ends of processes are written in the extended dialect. -/
def endWidth : Nat := 24

/-- Tells about a process that a signal has ended, unless it was asked for or nobody read on;
`command` is what the process was started for. -/
def tellEnd (command : Command) (pid : Pid) (status : Status) : Eval Unit := do
  match status with
  | .exited _ => return
  | .signaled signal =>
    if signal ≠ .interrupt && signal ≠ .pipe then
      if (← speaksExtended) && signal ≠ .terminate then
        warnOutside (toString pid ++ " " ++ paddedRight endWidth signal.description
          ++ Printing.commandText {} command)
      else putError (signal.description ++ "\n")

/-- Waits for a process to end, and tells about its end if it was started for a command. -/
def awaitProcess (command? : Option Command) (pid : Pid) : Eval Nat := do
  match ← doCall (.wait pid false) with
  | .ok status =>
    if let some command := command? then tellEnd command pid status
    return statusOf status
  | .error _ => return 0

/-- The status of a pipeline whose stages have these statuses. -/
def pipelineStatus (statuses : List Nat) : Eval Nat := do
  let last := statuses.getLast?.getD 0
  if (← speaksExtended) && (← hasFlag pipefailFlag) then
    return (statuses.reverse.find? (· ≠ 0)).getD 0
  return last

/-- Waits for the stages of a pipeline; `more` are the statuses of the stages after those.  In the
extended dialect only the end of the last one is told about. -/
def awaitStages (pids : List Pid) (more : List Nat) : Eval Nat := do
  let state ← get
  let statuses ← pids.zipIdx.mapM fun (pid, i) =>
    let isTold := state.dialect = .plain || i + 1 = pids.length + more.length
    awaitProcess (if isTold then some state.underWay else none) pid
  let statuses := statuses ++ more
  modify fun state => { state with stageStatuses := statuses }
  pipelineStatus statuses

/-- Ends the process. -/
def leaveProcess (status : Nat) : Eval α := doRoutine (.exit (status % 256 : Nat))

/-! ## Finding programs -/

/-- Where a program is, or why it is nowhere. -/
def findProgram (name : String) : List String → Errno → Eval (Except Errno String)
  | [], errno => return .error errno
  | directory :: rest, errno => do
    let path := if directory = "" then name else directory ++ "/" ++ name
    match ← doCall (.stat path true) with
    | .ok info =>
      if info.kind ≠ .regular then findProgram name rest .accessDenied
      else if info.permits .execute || !(← speaksExtended) then return .ok path
      else
        -- A file that nobody may run is what is left if no other one is found.
        match ← findProgram name rest errno with
        | .ok other => return .ok other
        | .error _ => return .ok path
    | .error .noEntry | .error .notDirectory => findProgram name rest errno
    | .error other => findProgram name rest other

/-- Where a program is that is called by a name without a slash. -/
def searchProgram (name : String) : Eval (Except Errno String) := do
  findProgram name (← get).searchPath .noEntry

/-- How many bytes of a file tell whether it is a text. -/
def textHead : Nat := 128

/-- A byte that no text has. -/
def isNoText (byte : UInt8) : Bool :=
  byte = 0x7F || (byte < 0x20 && byte ≠ 0x1B && !(0x09 ≤ byte && byte ≤ 0x0F))

/-- The first line of a file has bytes that no text has. -/
def isNoScript (path : String) : Eval Bool := do
  match ← doCall (.openFile path .input) with
  | .error _ => return false
  | .ok descriptor =>
    let bytes ← doCall (.read descriptor textHead)
    let _ ← doCall (.close descriptor)
    let head := (bytes.toOption.getD .empty).toList
    return (head.takeWhile (· ≠ Program.lineFeed)).any isNoText

/-- What hinders a program from being run, in the words of the plain dialect. -/
def programFault (errno : Errno) : String :=
  match errno with
  | .noEntry | .notDirectory => "not found"
  | errno => errno.description

/-- The environment of a program of the extended dialect, which knows where it is from. -/
def State.environmentFor (state : State) (path : String) : Environment :=
  match state.dialect with
  | .plain => state.environment
  | .extended =>
    if state.bindings.isEmpty then []
    else state.environment.filter (·.1 ≠ "_") ++ [("_", path)]

/-- The program that reads scripts of a dialect. -/
def Dialect.interpreter : Dialect → String
  | .plain => "/bin/sh"
  | .extended => "/bin/bash"

/-- Becomes the first of several files that can be run; gives the reason if none can.  A text that
no program is said to read is a script. -/
def becomeFirst (words : List String) (state : State) : List String → Errno → Eval Errno
  | [], errno => return errno
  | path :: rest, errno => do
    let environment := state.environmentFor path
    match ← doCall (.exec path ⟨words, environment⟩) with
    | .execFormat =>
      if ← isNoScript path then return .execFormat
      let interpreter := state.dialect.interpreter
      doCall (.exec interpreter ⟨interpreter :: path :: words.drop 1, environment⟩)
    | .noEntry | .notDirectory => becomeFirst words state rest errno
    | other => becomeFirst words state rest other

/-- The program that the first line of a script names. -/
def scriptInterpreter? (path : String) : Eval (Option String) := do
  match ← doCall (.openFile path .input) with
  | .error _ => return none
  | .ok descriptor =>
    let bytes ← doCall (.read descriptor textHead)
    let _ ← doCall (.close descriptor)
    match (Text.ofBytes (bytes.toOption.getD .empty)).toList with
    | '#' :: '!' :: rest =>
      let isBlank (c : Char) : Bool := c = ' ' || c = '\t'
      let line := (rest.takeWhile (· ≠ '\n')).dropWhile isBlank
      return some (String.ofList (line.takeWhile fun c => !isBlank c))
    | _ => return none

/-- Complains, as the extended dialect does, about a program that could not be run; gives the exit
status. -/
def warnOfProgram (name : String) (errno : Errno) : Eval Nat := do
  let isMissing := errno = .noEntry
  let status := if isMissing then 127 else 126
  if !name.contains '/' && isMissing then
    if (← get).builtin = some "exec" then warn (name ++ ": not found")
    else warnOutside (name ++ ": command not found")
    return 127
  let info ← doCall (.stat name true)
  match info with
  | .ok info =>
    if info.kind = .directory then
      warnOutside (name ++ ": " ++ Errno.isDirectory.description)
      return 126
    if isMissing then
      warnOutside (name ++ ": cannot execute: required file not found")
      return 127
    if errno = .execFormat then
      warnOutside (name ++ ": cannot execute binary file: " ++ errno.description)
      return 126
    match ← scriptInterpreter? name with
    | some interpreter =>
      if info.permits .execute then
        warnOutside (name ++ ": " ++ interpreter ++ ": bad interpreter: " ++ errno.description)
      else warnOutside (name ++ ": " ++ errno.description)
    | none => warnOutside (name ++ ": " ++ errno.description)
    return status
  | .error _ =>
    warnOutside (name ++ ": " ++ errno.description)
    return status

/-- Becomes a program, which may have another name and no environment; the script does not go
on. -/
def becomeProgram (words : List String) (title : Option String := none) (isClean : Bool := false) :
    Eval α := do
  let state ← get
  let name := words.head?.getD ""
  let paths ←
    if name.contains '/' then pure [name]
    else if state.dialect = .plain then
      pure (state.searchPath.map fun directory =>
        if directory = "" then name else directory ++ "/" ++ name)
    else do pure ((← searchProgram name).toOption.toList)
  let titled := (title.getD name) :: words.drop 1
  let environmentState := if isClean then { state with bindings := [] } else state
  let errno ← becomeFirst titled environmentState paths .noEntry
  let status ←
    if state.dialect = .extended then
      warnOfProgram (if paths.isEmpty then name else paths.head?.getD name) errno
    else do
      warn (name ++ ": " ++ programFault errno)
      let isMissing := errno = .noEntry || errno = .notDirectory || errno = .nameTooLong
        || errno = .tooManyLinks
      pure (if isMissing then 127 else 126)
  modify fun state => { state with status }
  throw (.leave status)

/-! ## Shells below this one -/

/-- The script for an occasion is kept in a shell below: it does nothing, or the options say so. -/
def State.keepsBelow (state : State) (trap : Nat × String) : Bool :=
  trap.2 = "" || (trap.1 = errorTrap && state.flags.contains 'E')
    || ((trap.1 = debugTrap || trap.1 = returnTrap) && state.flags.contains 'T')

/-- A shell below this one does not have its traps and children. -/
def beginBelow : Eval Unit := do
  for (number, action) in (← get).traps do
    if action ≠ "" && number ≠ 0 && number ≤ Signal.maxNumber then
      let _ ← doCall (.arrange ⟨number⟩ .standard)
  modify fun state => { state with
    traps := state.traps.filter state.keepsBelow, jobs := [], caught := [], loops := 0
    depth := state.depth + 1, level := state.level + 1, abortStatus := 1 }

/-- The status that a jump out of a whole script comes to. -/
def Jump.status (jump : Jump) (current : Nat) : Nat :=
  match jump with
  | .leave status | .leaveFunction status | .fail status | .leaveLine status => status
  | .leaveLoops _ | .nextRound _ => current

/-- Ends the shell, after the script that was kept for its end; `run` runs scripts. -/
def finishShell (run : String → Eval Nat) (status : Nat) : Eval α := do
  match (← get).traps.lookup 0 with
  | some action =>
    modify fun state => { state with status, traps := state.traps.filter (·.1 ≠ 0) }
    let final ← tryCatch (do
        let _ ← run action
        return status)
      fun jump => do return jump.status (← get).status
    leaveProcess final
  | none => leaveProcess status

/-- Does something in a shell below this one, which then ends. -/
def runBelow (run : String → Eval Nat) (body : Eval Nat) : Eval α := do
  beginBelow
  let status ← tryCatch body fun jump => do return jump.status (← get).status
  finishShell run status

/-- A command that is waited for has the number of a job while it runs, for which an old job may
have to make room. -/
def useJobNumber : Eval Unit := modify fun state => state.claimJobNumber.2

/-- The output of something that is done in a shell below this one. -/
def outputOf (run : String → Eval Nat) (body : Eval Nat) : Eval ByteArray := do
  match ← doCall (.openPipe false) with
  | .error _ => fail "Pipe call failed"
  | .ok (input, output) =>
    useJobNumber
    match ← doCall .fork with
    | .error _ => fail "Cannot fork"
    | .ok .child =>
      let _ ← doCall (.close input)
      moveDescriptor output standardOutput
      runBelow run body
    | .ok (.parent pid) =>
      let _ ← doCall (.close output)
      let bytes ← doRoutine (Program.readAll input .empty Program.budget)
      let _ ← doCall (.close input)
      let state ← get
      let status ← awaitProcess (if state.dialect = .plain then some state.underWay else none) pid
      modify fun state => { state with
        outputStatus := status
        status := if state.dialect = .extended then status else state.status }
      return bytes.toOption.getD .empty

/-- A shell of the extended dialect that becomes another program does not count any more. -/
def uncountShell : Eval Unit := do
  let state ← get
  match state.dialect, state.stored? "SHLVL" with
  | .extended, some v =>
    let level := ((v.value.bind Program.natural?).getD 0) - 1
    set (state.putVariable "SHLVL" { v with value := some (toString level) })
  | _, _ => pure ()

/-- Runs a program and waits for it; if nothing follows, becomes it. -/
def runProgram (final : Bool) (words : List String) : Eval Nat := do
  if final && (← get).traps.isEmpty then
    uncountShell
    becomeProgram words
  else
    useJobNumber
    match ← doCall .fork with
    | .error _ => fail "Cannot fork"
    | .ok .child =>
      beginBelow
      let status ← tryCatch (becomeProgram words) fun jump => return jump.status 0
      leaveProcess status
    | .ok (.parent pid) => awaitProcess (← get).underWay pid

end CommandShell.Machine.SystemShell
