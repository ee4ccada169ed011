import CommandShell.Machine.SystemShell.Builtin.Basic
set_option autoImplicit false

/-!
# Scripts within words

What takes the place of a script in a word: its output, or the name of a file through which it
writes or reads.
-/

namespace CommandShell.Machine.SystemShell

/-- The first file through which a script writes or reads has this number, the next ones have lower
numbers. -/
def firstProcessFile : Descriptor := 63

/-- The number for another file through which a script writes or reads. -/
def State.nextProcessFile (state : State) : Descriptor :=
  ((List.range (firstProcessFile + 1)).reverse.find? fun n =>
    !state.processFiles.contains n).getD firstProcessFile

/-- Starts a script that writes to a file, or reads from it if not `isInput`; the result is the name
of the file. -/
def openProcessFile (runner : Runner) (isInput : Bool) (script : Command) : Eval String := do
  match ← doCall (.openPipe false) with
  | .error _ => fail "Pipe call failed"
  | .ok (input, output) =>
    match ← doCall .fork with
    | .error _ => fail "Cannot fork"
    | .ok .child =>
      if isInput then
        let _ ← doCall (.close input)
        moveDescriptor output standardOutput
      else
        let _ ← doCall (.close output)
        moveDescriptor input standardInput
      for file in (← get).processFiles do
        let _ ← doCall (.close file)
      runBelow runner.atEnd (runner.output script)
    | .ok (.parent _) =>
      let (kept, given) := if isInput then (input, output) else (output, input)
      let _ ← doCall (.close given)
      let number := (← get).nextProcessFile
      moveDescriptor kept number
      modify fun state => { state with processFiles := number :: state.processFiles }
      return "/dev/fd/" ++ toString number

/-- Does something, and closes the files through which scripts have written or read meanwhile. -/
def closingProcessFiles {α : Type} (body : Eval α) : Eval α := do
  let before := (← get).processFiles.length
  let close : Eval Unit := do
    let files := (← get).processFiles
    if files.length > before then
      for file in files.take (files.length - before) do
        let _ ← doCall (.close file)
      modify fun state => { state with processFiles := files.drop (files.length - before) }
  let result ← tryCatch body fun jump => do
    close
    throw jump
  close
  return result

/-- A script whose output takes its place begins.  In the extended dialect it may still list the
jobs of the shell above. -/
def beginOutput (deepens : Bool) (jobs : List Job) : Eval Unit := do
  modify fun state =>
    if state.dialect = .plain then state
    else
      let keepsErrors := state.features.contains "inherit_errexit"
      { state with
        jobs
        flags := if keepsErrors then state.flags else state.flags.filter (· ≠ 'e')
        traceDepth := state.traceDepth + (if deepens then 1 else 0) }

/-- The file that a script of the extended dialect consists of. -/
def Command.onlyFile? : Command → Option (List Part)
  | .simple _ [] [] [.file 0 .input path] => some path
  | _ => none

/-- Writes what is in a file. -/
def writeOnlyFile (expander : Expander) (path : List Part) : Eval Nat := do
  match ← expandWord expander path with
  | [path] =>
    match ← doCall (.openFile path .input) with
    | .ok opened =>
      let bytes ← doRoutine (Program.readAll opened .empty Program.budget)
      let _ ← doCall (.write standardOutput (bytes.toOption.getD .empty))
      return 0
    | .error errno =>
      warnOutside (path ++ ": " ++ errno.description)
      return 1
  | _ =>
    warnOutside (Part.spelled path ++ ": ambiguous redirect")
    return 1

/-- How the words of a script are expanded. -/
def Runner.expander (runner : Runner) : Expander where
  output script := do
    let jobs := (← get).jobs
    outputOf runner.atEnd do
      beginOutput true jobs
      runner.output script
  textOutput text := do
    let jobs := (← get).jobs
    outputOf runner.atEnd do
      beginOutput false jobs
      runner.script (.ofOutput text)
  process := openProcessFile runner

/-- Runs a script whose output takes its place.  One of the extended dialect that is nothing but a
file to read from is the text of that file. -/
def runOutput (runner : Runner) (script : Command) : Eval Nat := do
  match script.onlyFile? with
  | some path =>
    if ← speaksExtended then writeOnlyFile runner.expander path else runner.command true script
  | none => runner.command true script

end CommandShell.Machine.SystemShell
