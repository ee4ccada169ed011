import CommandShell.Machine.SystemShell.Evaluation.Calling
import CommandShell.Machine.SystemShell.Evaluation.Looping
import CommandShell.Machine.SystemShell.Evaluation.Reading
import CommandShell.Machine.SystemShell.Evaluation.Stages
set_option autoImplicit false

/-!
# Running commands

What the commands of a script do.  A command knows whether anything follows it: the last one need
not be waited for, since the shell can become the program itself.
-/

namespace CommandShell.Machine.SystemShell

/-- Runs commands one after another. -/
def runSequence (runner : Runner) (final : Bool) : List Command → (status : Nat) → Eval Nat
  | [], status => return status
  | [command], _ => runner.command final command
  | command :: rest, _ => do
    let status ← runner.command false command
    runSequence runner final rest status

/-- Remembers a function; gives the exit status. -/
def defineFunction (name : String) (body : Command) : Eval Nat := do
  let state ← get
  let old? := state.functions.lookup name
  if old?.any Function.isReadOnly then
    warnOutside (name ++ ": readonly function")
    return 1
  let isExported := old?.any Function.isExported
  let new : Function := { body, source := state.definitionSource, isExported }
  set { state with functions := (name, new) :: state.functions.filter (·.1 ≠ name) }
  return 0

/-- How long a command has taken: no time at all. -/
def durationText (isPlain : Bool) : String :=
  if isPlain then "real 0.00\nuser 0.00\nsys 0.00\n"
  else "\nreal\t0m0.000s\nuser\t0m0.000s\nsys\t0m0.000s\n"

/-- Runs a command whose time is taken. -/
def runTimed (runner : Runner) (isPlain : Bool) (command : Command) : Eval Nat := do
  let status ← runner.command false command
  putError (durationText isPlain)
  return status

/-- The command may take the place of the shell in the extended dialect: it is called as it is. -/
def Command.canReplace : Command → Bool
  | .simple _ _ _ [] | .sequence _ | .both .. | .either .. => true
  | _ => false

/-- Runs a simple command. -/
def runCall (runner : Runner) (final : Bool) (line : Nat) (command : Command) : Eval Nat := do
  match command with
  | .simple _ assignments words redirections =>
    beginCommand runner line command
    runSimple runner final assignments words redirections
  | _ => return 0

/-- Runs a command of any kind.  In the plain dialect the failure of one whose redirections fail may
end the script. -/
def runAny (runner : Runner) (final : Bool) (command : Command) : Eval Nat := do
  let extended ← speaksExtended
  let settleCommand := if extended then settleAlone runner else settle runner true
  match command with
  | .simple line _ _ _ => settleCommand (← runCall runner final line command)
  | .pipeline stages => settle runner true (← runPipeline runner stages)
  | .negation command =>
    let status ← tested (runner.command false command)
    settle runner false (oppositeStatus status)
  | .both first second =>
    let status ← tested (runner.command false first)
    if status = 0 then runner.command final second else settle runner false status
  | .either first second =>
    let status ← tested (runner.command false first)
    if status = 0 then settle runner false status else runner.command final second
  | .sequence commands => runSequence runner final commands 0
  | .background command => settle runner false (← startInBackground runner command)
  | .subshell line body redirections =>
    settleCommand (← runSubshell runner final line body redirections)
  | .redirected line body redirections =>
    if line > 0 then modify fun state => { state with line }
    let failed := if extended then 1 else 2
    settle runner (!extended)
      (← redirected runner.expander redirections (pure failed) (runner.command false body))
  | .conditional test body otherwise =>
    let status ← tested (runner.command false test)
    if status = 0 then runner.command final body
    else
      match otherwise with
      | some otherwise => runner.command final otherwise
      | none => settle runner false 0
  | .loop isUntil test body =>
    settle runner false (← runLoop runner isUntil test body maxRounds 0)
  | .each line name words body =>
    settle runner false (← runGivenEach runner line name words body)
  | .select line word cases =>
    settle runner false (← runSelection runner final line word cases)
  | .define name body => settle runner false (← defineFunction name body)
  | .group body => runner.command false body
  | .calculation line expression =>
    beginCommand runner line command
    settleAlone runner (← runCalculation runner expression)
  | .counted line first test step body =>
    modify fun state => { state with line }
    settle runner false (← runCounted runner line first test step body)
  | .condition line condition =>
    beginCommand runner line command
    settleAlone runner (← runCondition runner false condition)
  | .menu line name words body =>
    settle runner false (← runMenu runner line name words body)
  | .timed isPlain command => settle runner false (← runTimed runner isPlain command)

/-- Runs a command.  Options may say that nothing is run at all. -/
def runCommand (runner : Runner) (final : Bool) (command : Command) : Eval Nat := do
  if ← hasFlag 'n' then return (← get).status
  if ← speaksExtended then
    closingProcessFiles (runAny runner (final && command.canReplace) command)
  else runAny runner final command

/-- How deep commands may be nested while they run. -/
def maxDepth : Nat := 10000

/-- Runs commands that are nested no deeper than `depth`. -/
def runner : (depth : Nat) → Runner
  | 0 =>
    { command := fun _ _ => fail "Maximum function recursion depth exceeded"
      output := fun _ => fail "Maximum function recursion depth exceeded"
      script := fun _ => fail "Maximum function recursion depth exceeded" }
  | depth + 1 =>
    { command := fun final command => runCommand (runner depth) final command
      output := fun script => runOutput (runner depth) script
      script := fun script => runWhole (runner depth) script }

end CommandShell.Machine.SystemShell
