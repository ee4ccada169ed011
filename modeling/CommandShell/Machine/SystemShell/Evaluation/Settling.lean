import CommandShell.Machine.SystemShell.Builtin
set_option autoImplicit false

/-!
# After a command

What happens between commands: scripts for signals and other occasions are run, a failure may end
the script, and commands are shown if the options say so.
-/

namespace CommandShell.Machine.SystemShell

/-! ## Scripts for occasions -/

/-- Runs the scripts for the signals that have been caught. -/
def runTraps (runner : Runner) : Eval Unit := do
  if (← get).traps.isEmpty then return
  let kept := (← get).caught
  modify fun state => { state with caught := [] }
  for signal in kept ++ (← doCall .caught) do
    match (← get).traps.lookup signal.number with
    | some "" | none => pure ()
    | some action =>
      let status := (← get).status
      let _ ← runner.script (.ofTrap action true)
      modify fun state => { state with status }

/-- Runs the script for an occasion, unless it is under way. -/
def runOccasion (runner : Runner) (number : Nat) : Eval Unit := do
  let before ← get
  match before.traps.lookup number with
  | none | some "" => return
  | some action =>
    if before.occasionsUnderWay.contains number then return
    let restore : Eval Unit := modify fun state => { state with
      occasionsUnderWay := before.occasionsUnderWay, status := before.status }
    modify fun state => { state with occasionsUnderWay := number :: state.occasionsUnderWay }
    let _ ← tryCatch (runner.script (.ofTrap action false)) fun jump => do
      restore
      throw jump
    restore

/-- Runs the script for an occasion if functions share it or none is under way. -/
def runSharedOccasion (runner : Runner) (number : Nat) (sharingFlag : Char) : Eval Unit := do
  let state ← get
  if state.functionDepth = 0 || state.flags.contains sharingFlag then runOccasion runner number

/-- A command of the extended dialect begins. -/
def beginCommand (runner : Runner) (line : Nat) (command : Command) : Eval Unit := do
  modify fun state =>
    { state with
      line, underWay := if state.occasionsUnderWay.isEmpty then command else state.underWay }
  if ← speaksExtended then runSharedOccasion runner debugTrap 'T'

/-! ## Statuses -/

/-- Remembers the status of a command.  A failure ends the script if the options say so. -/
def settle (runner : Runner) (checked : Bool) (status : Nat) : Eval Nat := do
  modify fun state => { state with status }
  runTraps runner
  let state ← get
  if checked && status ≠ 0 && !state.isTested then
    if state.dialect = .extended then runSharedOccasion runner errorTrap 'E'
    if state.flags.contains 'e' then throw (.leave status)
  return status

/-- Remembers the status of a command that counts as a pipeline. -/
def settleAlone (runner : Runner) (status : Nat) : Eval Nat := do
  modify fun state => { state with stageStatuses := [status] }
  settle runner true status

/-- Does something whose failure is expected. -/
def tested (body : Eval Nat) : Eval Nat := do
  let before := (← get).isTested
  modify fun state => { state with isTested := true }
  let status ← tryCatch body fun jump => do
    modify fun state => { state with isTested := before }
    throw jump
  modify fun state => { state with isTested := before }
  return status

/-! ## Showing commands -/

/-- What a backslash and a letter in a prompt stand for. -/
def promptEscape? (state : State) (letter : Char) : Option String :=
  let directory := state.shortPath ((state.value? "PWD").getD "")
  match letter with
  | 'w' => some directory
  | 'W' => some ((directory.splitOn "/").getLast?.getD "")
  | 'u' => some ((state.value? "USER").getD "root")
  | 'h' | 'H' => some ((state.value? "HOSTNAME").getD "")
  | 's' => some ((state.name.splitOn "/").getLast?.getD "")
  | 'n' => some "\n"
  | '$' => some "#"
  | '\\' => some "\\"
  | _ => none

/-- A prompt with what backslashes and letters in it stand for. -/
def replacePromptEscapes (state : State) : List Char → List Char
  | '\\' :: letter :: rest =>
    ((promptEscape? state letter).getD (String.ofList ['\\', letter])).toList
      ++ replacePromptEscapes state rest
  | c :: rest => c :: replacePromptEscapes state rest
  | [] => []

/-- A text in which parameters and scripts are replaced. -/
def expandPrompt (expander : Expander) (text : String) : Eval String := do
  let state ← get
  let cs := if state.dialect = .plain then text.toList else replacePromptEscapes state text.toList
  if !cs.any fun c => c = '$' || c = '\u0060' then return String.ofList cs
  let reader : Reader := { dialect := state.dialect, rest := cs, atEnd := true, line := state.line }
  match ((innerReaders maxNesting).parts .document).run reader with
  | .ok (parts, _) =>
    set { state with flags := state.flags.filter (· ≠ 'x') }
    let text := pieceText (← expandParts expander false parts)
    modify fun after => { after with flags := state.flags, status := state.status }
    return text
  | .error _ => return String.ofList cs

/-- Shows something that is to be done, if the options say so. -/
def trace (expander : Expander) (text : String) : Eval Unit := do
  if ← hasFlag 'x' then
    let state ← get
    let front ← expandPrompt expander ((state.value? "PS4").getD "")
    let front := match state.dialect, front.toList with
      | .extended, sign :: rest => String.ofList (List.replicate state.traceDepth sign ++ rest)
      | _, _ => front
    putError (front ++ text ++ "\n")

/-- A word of a command that is shown. -/
def tracedWord (word : String) : String := if word = "" then "''" else Quoting.asNeeded word

end CommandShell.Machine.SystemShell
