import CommandShell.Machine.SystemShell.Evaluation.Settling
set_option autoImplicit false

/-!
# Commands in processes of their own

The stages of a pipeline, commands that are not waited for, and commands in parentheses.
-/

namespace CommandShell.Machine.SystemShell

/-- A command that is not waited for does not hear of what is typed; the first of its processes has
nothing to read. -/
def detach (isFirst : Bool) : Eval Unit := do
  let _ ← doCall (.arrange .interrupt .ignored)
  let _ ← doCall (.arrange .quit .ignored)
  if isFirst then
    let _ ← doCall (.close standardInput)
    if let .ok opened ← doCall (.openFile "/dev/null" .input) then
      moveDescriptor opened standardInput

/-- A stage of a pipeline begins.  A simple command of the extended dialect does so before it has a
process of its own. -/
def beginStage (runner : Runner) (stage : Command) : Eval Unit := do
  match stage with
  | .simple line _ _ _ => if ← speaksExtended then beginCommand runner line stage
  | _ => return

/-- Runs a stage of a pipeline in a process of its own.  A simple command of the extended dialect
may still list the jobs of the shell above. -/
def runStage (runner : Runner) (jobs : List Job) (stage : Command) : Eval Nat := do
  if let .simple .. := stage then
    modify fun state =>
      { state with
        level := state.level - 1
        jobs := if state.dialect = .extended then jobs else state.jobs }
  runner.command true stage

/-- Starts the stages of a pipeline.  The last one also writes to a pipe if `feeds`.  The result has
the processes, that of the last stage first, and what that pipe is read from. -/
def startStages (runner : Runner) (inBackground feeds : Bool) (input : Option Descriptor) :
    (isFirst : Bool) → List Command → Eval (List Pid × Option Descriptor)
  | _, [] => return ([], input)
  | isFirst, stage :: rest => do
    let pipe? ←
      if rest.isEmpty && !feeds then pure none
      else
        match ← doCall (.openPipe false) with
        | .ok pipe => pure (some pipe)
        | .error _ => fail "Pipe call failed"
    beginStage runner stage
    let jobs := (← get).jobs
    match ← doCall .fork with
    | .error _ => fail "Cannot fork"
    | .ok .child =>
      if inBackground then detach isFirst
      if let some (read, _) := pipe? then
        let _ ← doCall (.close read)
      if let some input := input then moveDescriptor input standardInput
      if let some (_, write) := pipe? then moveDescriptor write standardOutput
      runBelow runner.atEnd (runStage runner jobs stage)
    | .ok (.parent pid) =>
      if let some input := input then
        let _ ← doCall (.close input)
      if let some (_, write) := pipe? then
        let _ ← doCall (.close write)
      let (others, end?) ←
        startStages runner inBackground feeds (pipe?.map Prod.fst) false rest
      return (others ++ [pid], end?)

/-- Runs a command that reads what earlier stages of a pipeline write, and waits for those. -/
def runLastStage (runner : Runner) (earlier : List Command) (last : Command) : Eval Nat := do
  let (pids, input?) ← startStages runner false true none true earlier
  let kept ← match input? with
    | none => pure []
    | some input => do
      let kept ← keepDescriptor standardInput
      moveDescriptor input standardInput
      pure kept.toList
  let status ← tryCatch (runner.command false last) fun jump => do
    putBack kept
    throw jump
  putBack kept
  awaitStages pids.reverse [status]

/-- Runs a pipeline.  The last stage has a process of its own unless a feature says otherwise. -/
def runPipeline (runner : Runner) (stages : List Command) : Eval Nat := do
  useJobNumber
  let state ← get
  match stages.getLast? with
  | some last =>
    if state.features.contains "lastpipe" && !state.flags.contains 'm' then
      runLastStage runner stages.dropLast last
    else
      let (pids, _) ← startStages runner false false none true stages
      awaitStages pids.reverse []
  | none => return 0

/-- Starts a command that is not waited for. -/
def startInBackground (runner : Runner) (command : Command) : Eval Nat := do
  let stages := match command with
    | .pipeline stages => stages
    | command => [command]
  let (pids, _) ← startStages runner true false none true stages
  modify fun state =>
    let (number, state) := state.claimJobNumber
    { state with
      lastBackground := pids.head?
      jobs := { number, pids, running := pids, command } :: state.jobs }
  return 0

/-- Runs a script in a shell below this one.  In the plain dialect the words of its redirections are
expanded in this one. -/
def runSubshell (runner : Runner) (final : Bool) (line : Nat) (body : Command)
    (redirections : List Redirection) : Eval Nat := do
  modify fun state => { state with line, underWay := .subshell line body redirections }
  let expander := runner.expander
  let inside : Eval Nat ←
    if ← speaksExtended then
      pure (redirected expander redirections (return 1) (runner.command true body))
    else do
      let some prepared ← prepareRedirections expander redirections | return 2
      pure do
        let (_, succeeded) ← redirectAll false prepared
        if succeeded then runner.command true body else throw (.fail 2)
  if final && (← get).traps.isEmpty && !(← speaksExtended) then runBelow runner.atEnd inside
  else
    useJobNumber
    match ← doCall .fork with
    | .error _ => fail "Cannot fork"
    | .ok .child => runBelow runner.atEnd inside
    | .ok (.parent pid) => awaitProcess (some (.subshell line body redirections)) pid

end CommandShell.Machine.SystemShell
