import CommandShell.Machine.SystemShell.Builtin.Basic
set_option autoImplicit false

/-!
# Signals and jobs

What a script does about signals and about the commands that it has started in the background.  A
job keeps its number until it has ended and been listed or waited for.
-/

namespace CommandShell.Machine.SystemShell

/-! ## Signals -/

/-- The names of signals as this shell knows them. -/
def signalName (number : Nat) : String :=
  if number = 0 then "EXIT"
  else if number = 16 || number = 32 || number = 33 then toString number
  else if number < 32 then (Signal.shortNames.lookup number).getD (toString number)
  else if number = 34 then "RTMIN"
  else if number = Signal.maxNumber then "RTMAX"
  else if number < 50 then "RTMIN+" ++ toString (number - 34)
  else "RTMAX-" ++ toString (Signal.maxNumber - number)

/-- The number of the signal that a word names. -/
def signalNumber? (word : String) : Option Nat :=
  match Program.natural? word with
  | some n => if n ≤ Signal.maxNumber then some n else none
  | none => (List.range (Signal.maxNumber + 1)).find? fun n =>
      signalName n = word.toUpper && (n ≠ 16 && n ≠ 32 && n ≠ 33)

/-- Shows or changes what is done for signals. -/
def setTraps : Builtin := fun _ arguments => do
  let words ← withoutOptions arguments
  match words with
  | [] =>
    let traps := (← get).traps.mergeSort fun a b => a.1 ≤ b.1
    putText (String.join (traps.map fun (number, action) =>
      "trap -- " ++ shownValue action ++ " " ++ signalName number ++ "\n"))
  | first :: rest =>
    let (action, signals) : Option String × List String :=
      if rest.isEmpty || (signalNumber? first).isSome then (none, words)
      else if first = "-" then (none, rest)
      else (some first, rest)
    for word in signals do
      match signalNumber? word with
      | none =>
        let _ ← doCall (.write standardError (Text.toBytes ("trap: " ++ word ++ ": bad trap\n")))
        modify fun state => { state with status := 1 }
        return 1
      | some number =>
        modify fun state => { state with
          traps := (action.map fun action => (number, action)).toList
            ++ state.traps.filter (·.1 ≠ number) }
        if number ≠ 0 then
          let _ ← doCall (.arrange ⟨number⟩
            (match action with
              | none => .standard
              | some "" => .ignored
              | some _ => .caught))
    return 0

/-- How signals are sent. -/
def killUsage : String :=
  "Usage: kill [-s sigspec | -signum | -sigspec] [pid | job]... or\nkill -l [exitstatus]"

/-! ## The table of jobs -/

/-- A job that a word names after a percent sign. -/
def jobOf (word : String) : Eval Job := do
  let jobs := (← get).jobs
  let spec := (word.drop 1).toString
  if jobs.isEmpty && (spec = "" || spec = "%" || spec = "+") then fail "No current job"
  if jobs.length < 2 && spec = "-" then fail "No previous job"
  let found :=
    if spec = "" || spec = "%" || spec = "+" then jobs.head?
    else if spec = "-" then jobs[1]?
    else
      match Program.natural? spec with
      | some number => jobs.find? fun job => job.number = number
      | none => none
  match found with
  | some job => return job
  | none => fail ("No such job: " ++ word)

/-- Remembers how a process ended. -/
def noteEnd (pid : Pid) (status : Status) : Eval Unit :=
  modify fun state => { state with jobs := state.jobs.map (Job.note pid status) }

/-- Looks which processes of jobs have ended, without waiting for any. -/
def lookAtJobs : Eval Unit := do
  for job in (← get).jobs do
    for pid in job.running do
      if let .ok (some status) ← doCall (.poll pid) then noteEnd pid status

/-- How a process ended, in words. -/
def endInWords : Status → String
  | .exited 0 => "Done"
  | .exited code => "Done(" ++ toString code ++ ")"
  | .signaled signal => signal.description

/-- A job as it is listed; `mark` says whether it is the current one or the one before. -/
def shownJob (job : Job) (mark : Char) (withPids : Bool) : String :=
  let gap (width : Nat) (text : String) : String :=
    text ++ String.ofList (List.replicate (max 1 (width - text.length)) ' ')
  let number := "[" ++ toString job.number ++ "] " ++ mark.toString ++ " "
  let pid (p : Pid) : String := if withPids then toString p ++ " " else ""
  let state := if !job.isDone then "Running" else (job.status.map endInWords).getD "Done"
  match job.pids.reverse with
  | [] => ""
  | first :: others =>
    let line := gap 33 (number ++ pid first ++ state)
    if withPids then
      line ++ "\n" ++ String.join (others.map fun p =>
        gap 33 (String.ofList (List.replicate number.length ' ') ++ pid p) ++ "\n")
    else line ++ String.join (others.map fun _ => " | ") ++ "\n"

/-- Shows jobs one after another; one that has ended is forgotten once it has been shown. -/
def showJobs (withPids : Bool) : List Job → Eval String
  | [] => return ""
  | job :: rest => do
    let jobs := (← get).jobs
    let isAt (place : Nat) : Bool := jobs[place]?.any (·.number = job.number)
    let mark := if isAt 0 then '+' else if isAt 1 then '-' else ' '
    if job.isDone then
      modify fun state => { state with
        jobs := state.jobs.filter fun other => other.number ≠ job.number }
    return shownJob job mark withPids ++ (← showJobs withPids rest)

/-- Lists jobs. -/
def listJobs : Builtin := fun _ arguments => do
  let (letters, words) ← takeOptions "lp" arguments
  lookAtJobs
  let chosen ← if words.isEmpty then pure (← get).jobs else words.mapM jobOf
  if letters.getLast? = some 'p' then
    putText (String.join (chosen.map fun job =>
      ((job.pids.getLast?.map toString).getD "") ++ "\n"))
  else putText (← showJobs (letters.getLast? = some 'l') chosen)

/-! ## Sending signals -/

/-- Writes the names of signals. -/
def listSignals (words : List String) : Eval Nat := do
  match words with
  | [] =>
    let names := "0" :: (List.range' 1 Signal.maxNumber).map signalName
    putText (String.join (names.map fun name => name ++ "\n"))
  | word :: _ =>
    let n ← natural word
    let number := if n > 128 then n - 128 else n
    if number = 0 || number > Signal.maxNumber then
      fail ("invalid signal number or exit status: " ++ word)
    putText (signalName number ++ "\n")

/-- Sends a signal to processes. -/
def sendSignals (number : Nat) (words : List String) : Eval Nat := do
  let words := match words with
    | "--" :: rest => rest
    | words => words
  if words.isEmpty then fail killUsage
  let mut status := 0
  for word in words do
    let result ←
      if word.startsWith "%" then do
        -- A job is a group of processes, and this shell makes no groups.
        let _ ← jobOf word
        pure (.error Errno.noProcess)
      else do doCall (.kill (← natural word) ⟨number⟩)
    if let .error errno := result then
      warn (errno.description ++ "\n")
      status := 1
  return status

/-- Sends signals, or lists them. -/
def kill : Builtin := fun _ arguments => do
  match arguments with
  | [] => fail killUsage
  | "-l" :: rest => listSignals rest
  | ["-s"] => fail "No arg for -s option"
  | "-s" :: name :: rest =>
    match signalNumber? name with
    | some number => sendSignals number rest
    | none => fail ("invalid signal number or name: " ++ name)
  | word :: rest =>
    match word.toList with
    | '-' :: c :: cs =>
      if word = "--" then sendSignals 15 rest
      else
        match signalNumber? (String.ofList (c :: cs)) with
        | some number => sendSignals number rest
        | none => fail ("Illegal option -" ++ c.toString)
    | _ => sendSignals 15 arguments

/-! ## Waiting -/

/-- Remembers that a job has been waited for. -/
def noteWait (number : Nat) : Eval Unit :=
  modify fun state => { state with jobs := state.jobs.map fun job =>
    if job.number = number then { job with isWaited := true } else job }

/-- The status of a wait that caught signals have ended, which are kept for their scripts. -/
def interruptedStatus : Eval Nat := do
  let signals ← doCall .caught
  modify fun state => { state with caught := state.caught ++ signals }
  return 128 + ((signals.getLast?.map Signal.number).getD 0)

/-- Waits for processes; a caught signal may end the wait, and then its status is the result.  The
end of the last one is told about if they were started for a command. -/
def awaitRunning (command? : Option Command) : List Pid → Eval (Option Nat)
  | [] => return none
  | pid :: rest => do
    match ← doCall (.wait pid true) with
    | .ok status =>
      if let some command := command? then
        let isQuiet := status = .signaled .terminate && (← speaksExtended)
        if rest.isEmpty && !isQuiet then tellEnd command pid status
      noteEnd pid status
      awaitRunning command? rest
    | .error .interrupted => return some (← interruptedStatus)
    | .error _ =>
      noteEnd pid (.exited 127)
      awaitRunning command? rest

/-- Waits for one job, which has a status then. -/
def awaitJob (job : Job) : Eval Nat := do
  match ← awaitRunning (some job.command) job.running.reverse with
  | some status => return status
  | none =>
    noteWait job.number
    let job? := (← get).jobs.find? fun other => other.number = job.number
    return ((job?.bind Job.status).map statusOf).getD 0

/-- Waits for background commands. -/
def waitForJobs : Builtin := fun _ arguments => do
  let words ← withoutOptions arguments
  if words.isEmpty then
    for job in (← get).jobs do
      if let some status ← awaitRunning none job.running.reverse then return status
      noteWait job.number
    return 0
  else
    let mut status := 0
    for word in words do
      let job? ←
        if word.startsWith "%" then do pure (some (← jobOf word))
        else do
          let pid ← natural word
          pure ((← get).jobs.find? fun job => job.pids.head? = some pid)
      match job? with
      | none => status := 127
      | some job => status ← awaitJob job
    return status

/-- No job can be moved between foreground and background, because none has a group of its own. -/
def moveJob : Builtin := fun _ arguments => do
  let words ← withoutOptions arguments
  match words with
  | [] =>
    if (← get).jobs.isEmpty then fail "No current job"
    fail "job (null) not created under job control"
  | word :: _ =>
    let spec := if word.startsWith "%" then word else "%" ++ word
    let found ← tryCatch (some <$> jobOf spec) fun _ => return none
    match found with
    | some _ => fail ("job " ++ word ++ " not created under job control")
    | none => throw (.fail 2)

end CommandShell.Machine.SystemShell
