import CommandShell.Machine.SystemShell.Assigning
import CommandShell.Machine.SystemShell.Builtin.Jobs
set_option autoImplicit false

/-!
# Signals and jobs of the extended dialect

A job is listed while it runs, and forgotten once it is known to have ended.
-/

namespace CommandShell.Machine.SystemShell

/-! ## Names of signals -/

/-- The scripts for other occasions than signals, with the numbers by which they are kept. -/
def occasions : List (String × Nat) :=
  [("EXIT", 0), ("DEBUG", debugTrap), ("ERR", errorTrap), ("RETURN", returnTrap)]

/-- There is a signal with the number. -/
def isSignalNumber (n : Nat) : Bool := 0 < n && n ≤ Signal.maxNumber && n ≠ 32 && n ≠ 33

/-- The name of a signal without what stands before all of them. -/
def bareSignalName (n : Nat) : String := if n = 16 then "STKFLT" else signalName n

/-- The name of a signal or of another occasion. -/
def fullSignalName (n : Nat) : String :=
  match occasions.find? (·.2 = n) with
  | some (name, _) => name
  | none => "SIG" ++ bareSignalName n

/-- The number of the signal that a word names, with or without what stands before all of them. -/
def namedSignal? (word : String) : Option Nat :=
  match Program.natural? word with
  | some n => if n = 0 || isSignalNumber n then some n else none
  | none =>
    let upper := word.toUpper
    let bare := if upper.startsWith "SIG" then (upper.drop 3).toString else upper
    if bare = "EXIT" && upper = bare then some 0
    else (List.range (Signal.maxNumber + 1)).find? fun n =>
      isSignalNumber n && bareSignalName n = bare

/-- The number of the occasion that a word names. -/
def namedOccasion? (word : String) : Option Nat :=
  (occasions.lookup word.toUpper).or (namedSignal? word)

/-- The table of signals. -/
def signalTable : String :=
  let numbers := (List.range' 1 Signal.maxNumber).filter isSignalNumber
  let entries := numbers.zipIdx.map fun (n, i) =>
    (if n < 10 then " " else "") ++ toString n ++ ") " ++ fullSignalName n
      ++ (if i % 5 = 4 then "\n" else "\t")
  String.join entries ++ "\n"

/-! ## Scripts for signals -/

/-- How `trap` is used. -/
def trapUsage : String := "trap [-lp] [[arg] signal_spec ...]"

/-- The statement that sets the script for an occasion. -/
def shownTrap (trap : Nat × String) : String :=
  "trap -- " ++ Quoting.singleQuoted trap.2 ++ " " ++ fullSignalName trap.1 ++ "\n"

/-- Complains about a word that names no signal. -/
def warnOfSignal (word : String) : Eval Unit := warn (word ++ ": invalid signal specification")

/-- Sets or takes back the script for an occasion. -/
def changeTrap (action : Option String) (number : Nat) : Eval Unit := do
  modify fun state => { state with
    traps := (action.map fun action => (number, action)).toList
      ++ state.traps.filter (·.1 ≠ number) }
  if isSignalNumber number then
    let _ ← doCall (.arrange ⟨number⟩
      (match action with
        | none => .standard
        | some "" => .ignored
        | some _ => .caught))

/-- Shows or changes what is done for signals and on other occasions. -/
def extendedTrap : Builtin := fun _ arguments => do
  let (options, words) ← extendedOptions trapUsage "lp" arguments
  if hasOption options 'l' then putText signalTable
  else if words.isEmpty || hasOption options 'p' then
    let traps := (← get).traps.mergeSort fun a b => a.1 ≤ b.1
    if words.isEmpty then putText (String.join (traps.map shownTrap))
    else
      let mut status := 0
      for word in words do
        match namedOccasion? word with
        | some number =>
          let _ ← putText (String.join ((traps.filter (·.1 = number)).map shownTrap))
        | none =>
          warnOfSignal word
          status := 1
      return status
  else
    let (action, signals) : Option String × List String ←
      match words with
      | first :: rest =>
        if first ≠ "" && first ≠ "-" && (namedOccasion? first).isSome then pure (none, words)
        else if rest.isEmpty then refuseUse trapUsage
        else if first = "-" then pure (none, rest)
        else pure (some first, rest)
      | [] => pure (none, [])
    let mut status := 0
    for word in signals do
      match namedOccasion? word with
      | some number => changeTrap action number
      | none =>
        warnOfSignal word
        status := 1
    return status

/-! ## Jobs -/

/-- Forgets jobs that have ended; one may still ask for their status. -/
def forgetEnded : Eval Unit := do
  lookAtJobs
  modify fun state => { state with
    jobs := state.jobs.map fun job => if job.isDone then { job with isWaited := true } else job }

/-- The jobs that are still listed. -/
def State.openJobs (state : State) : List Job := state.jobs.filter fun job => !job.isWaited

/-- The command of a job as it is written. -/
def Job.commandText (job : Job) : String := Printing.commandText {} job.command

/-- The job that a word names. -/
def namedJob? (word : String) : Eval (Option Job) := do
  let jobs := (← get).openJobs
  let spec := match word.toList with
    | '%' :: spec => String.ofList spec
    | _ => word
  return match spec, Program.natural? spec with
    | "", _ | "%", _ | "+", _ => jobs.head?
    | "-", _ => jobs[1]?
    | _, some n => jobs.find? fun job => job.number = n
    | spec, none =>
      if spec.startsWith "?" then
        jobs.find? fun job => (job.commandText.splitOn (spec.drop 1).toString).length > 1
      else jobs.find? fun job => job.commandText.startsWith spec

/-- A running job as it is listed. -/
def shownRunningJob (jobs : List Job) (withPids : Bool) (job : Job) : String :=
  let isAt (place : Nat) : Bool := jobs[place]?.any (·.number = job.number)
  let mark := if isAt 0 then "+" else if isAt 1 then "-" else " "
  let pid := if withPids then toString (job.pids.getLast?.getD 0) ++ " " else ""
  "[" ++ toString job.number ++ "]" ++ mark ++ "  " ++ pid ++ paddedRight endWidth "Running"
    ++ job.commandText ++ " &\n"

/-- How `jobs` is used. -/
def jobsUsage : String := "jobs [-lnprs] [jobspec ...] or jobs -x command [args]"

/-- Lists jobs, as the extended dialect does. -/
def extendedJobs : Builtin := fun runner arguments => do
  if arguments.head? = some "-x" then
    return ← runner.script (.ofArgument (" ".intercalate (arguments.drop 1)))
  let (options, words) ← extendedOptions jobsUsage "lpnrs" arguments
  forgetEnded
  let jobs := (← get).openJobs
  let list (job : Job) : Eval Unit := do
    if hasOption options 's' then return
    let text :=
      if hasOption options 'p' then toString (job.pids.getLast?.getD 0) ++ "\n"
      else shownRunningJob jobs (hasOption options 'l') job
    let _ ← putText text
  if words.isEmpty then
    for job in jobs.mergeSort fun a b => a.number ≤ b.number do
      list job
    return 0
  else
    let mut status := 0
    for word in words do
      match ← namedJob? word with
      | some job => list job
      | none =>
        warn (word ++ ": no such job")
        status := 1
    return status

/-- Forgets jobs. -/
def disownJobs : Builtin := fun _ arguments => do
  let usage := "disown [-h] [-ar] [jobspec ... | pid ...]"
  let (options, words) ← extendedOptions usage "har" arguments
  forgetEnded
  let forget (job : Job) : Eval Unit :=
    if hasOption options 'h' then pure ()
    else modify fun state => { state with
      jobs := state.jobs.map fun other =>
        if other.number = job.number then { other with isWaited := true } else other }
  if words.isEmpty && (hasOption options 'a' || hasOption options 'r') then
    for job in (← get).openJobs do
      forget job
    return 0
  else if words.isEmpty then
    match (← get).openJobs with
    | job :: _ =>
      forget job
      return 0
    | [] => refuseCommand "current: no such job"
  else
    let mut status := 0
    for word in words do
      let jobs := (← get).openJobs
      let byPid := (Program.natural? word).bind fun pid =>
        jobs.find? fun job => job.pids.contains pid
      match byPid.or (← namedJob? word) with
      | some job => forget job
      | none =>
        warn (word ++ ": no such job")
        status := 1
    return status

/-- No job is moved between foreground and background. -/
def refuseJobControl : Builtin := fun _ _ => refuseCommand "no job control"

/-! ## Sending signals -/

/-- How `kill` is used. -/
def extendedKillUsage : String :=
  "kill [-s sigspec | -n signum | -sigspec] pid | jobspec ... or kill -l [sigspec]"

/-- Writes the numbers of signals that are named, and the names of those with numbers. -/
def describeSignals (words : List String) : Eval Nat := do
  if words.isEmpty then return ← putText signalTable
  let mut status := 0
  for word in words do
    let text? := match Program.natural? word with
      | some n =>
        let n := if n > 128 then n - 128 else n
        if n = 0 then some "EXIT" else if isSignalNumber n then some (bareSignalName n) else none
      | none => (namedSignal? word).map toString
    match text? with
    | some text =>
      let _ ← putText (text ++ "\n")
    | none =>
      warnOfSignal word
      status := 1
  return status

/-- Sends a signal to the processes and jobs that words name; it is enough if one gets it. -/
def signalTargets (number : Nat) (words : List String) : Eval Nat := do
  let words := if words.head? = some "--" then words.drop 1 else words
  if words.isEmpty then refuseUse extendedKillUsage
  let mut succeeded := false
  for word in words do
    if word.startsWith "%" then
      match ← namedJob? word with
      | some job =>
        for pid in job.running do
          if let .ok _ ← doCall (.kill pid ⟨number⟩) then succeeded := true
      | none => warn (word ++ ": no such job")
    else if word = "" then warn "\u0060': not a pid or valid job spec"
    else
      match Program.natural? word with
      | none => warn (word ++ ": arguments must be process or job IDs")
      | some pid =>
        match ← doCall (.kill pid ⟨number⟩) with
        | .ok _ => succeeded := true
        | .error errno => warn ("(" ++ word ++ ") - " ++ errno.description)
  return if succeeded then 0 else 1

/-- Sends a signal that a word names. -/
def signalNamed (word : String) (targets : List String) : Eval Nat := do
  match namedSignal? word with
  | some number => signalTargets number targets
  | none => do
    warnOfSignal word
    return 1

/-- Sends signals, or lists them, as the extended dialect does. -/
def extendedKill : Builtin := fun _ arguments => do
  match arguments with
  | [] => refuseUse extendedKillUsage
  | word :: rest =>
    match word.toList, rest with
    | ['-', 'l'], words | ['-', 'L'], words => describeSignals words
    | ['-', 's'], name :: rest | ['-', 'n'], name :: rest => signalNamed name rest
    | ['-', 's'], [] | ['-', 'n'], [] =>
      warn (word ++ ": option requires an argument")
      return 1
    | ['-', '-'], rest => signalTargets 15 rest
    | '-' :: 's' :: name, rest | '-' :: 'n' :: name, rest =>
      match namedSignal? (word.drop 1).toString with
      | some number => signalTargets number rest
      | none => signalNamed (String.ofList name) rest
    | '-' :: name, rest => signalNamed (String.ofList name) rest
    | _, _ => signalTargets 15 arguments

/-! ## Waiting -/

/-- How `wait` is used. -/
def waitUsage : String := "wait [-fn] [-p var] [id ...]"

/-- Waits for the first of some jobs to end, by looking at them again and again. -/
def awaitAny (jobs : List Job) : Eval (Option Job) := do
  forgetEnded
  let current := (← get).jobs
  let ended := jobs.reverse.find? fun job =>
    current.any fun other => other.number = job.number && other.pids = job.pids && other.isDone
  match ended, jobs.getLast? with
  | some job, _ => return some job
  | none, some job =>
    let _ ← awaitJob job
    return some job
  | none, none => return none

/-- The status of a job that has ended. -/
def State.jobStatus (state : State) (pids : List Pid) : Nat :=
  (((state.jobs.find? fun job => job.pids = pids).bind Job.status).map statusOf).getD 127

/-- Waits for what a word names. -/
def awaitNamed (word : String) : Eval Nat := do
  if word.startsWith "%" then
    match ← namedJob? word with
    | some job => awaitJob job
    | none => refuseCommand (word ++ ": no such job") 127
  else
    match Program.natural? word with
    | none => refuseCommand ("\u0060" ++ word ++ "': not a pid or valid job spec")
    | some pid =>
      match (← get).jobs.find? fun job => job.pids.contains pid with
      | some job => awaitJob job
      | none => refuseCommand ("pid " ++ word ++ " is not a child of this shell") 127

/-- Waits for background commands, as the extended dialect does. -/
def extendedWait : Builtin := fun _ arguments => do
  let (options, words) ← extendedOptions waitUsage "fnp:" arguments
  let variableName := optionValue? options 'p'
  let note (pids : List Pid) : Eval Unit := do
    if let some name := variableName then
      assignNamed name (toString (pids.head?.getD 0))
  if hasOption options 'n' then
    let jobs ←
      if words.isEmpty then pure (← get).openJobs
      else words.filterMapM fun word => do
        match ← namedJob? word with
        | some job => return some job
        | none =>
          warn (word ++ ": no such job")
          return none
    match ← awaitAny jobs with
    | none => return 127
    | some job =>
      note job.pids
      noteWait job.number
      return (← get).jobStatus job.pids
  else if words.isEmpty then
    for job in (← get).openJobs do
      if let some status ← awaitRunning none job.running.reverse then return status
    modify fun state => { state with jobs := [] }
    return 0
  else
    let mut status := 0
    for word in words do
      status ← tryCatch (awaitNamed word) fun jump => do
        match jump with
        | .fail status => return status
        | jump => throw jump
    return status

end CommandShell.Machine.SystemShell
