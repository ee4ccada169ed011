import CommandShell.Machine.SystemShell.Launch.Extended
set_option autoImplicit false

/-!
# The system's shells

There is a shell for each dialect.
-/

namespace CommandShell.Machine.SystemShell

/-- A shell, given the state in which it begins and what it does with its arguments. -/
def shellProgram (initial : (image : Image) → (pid parent : Pid) → (directory : String) → State)
    (invoke : List String → Eval Nat) : Program := fun image => do
  let pid ← perform .self
  let parent ← perform .parent
  let directory ← perform .workingPath
  let run : Eval Nat := do
    let status ← tryCatch (invoke image.words) fun jump => do
      return jump.status (← get).status
    finishShell (runner maxDepth).atEnd status
  let (result, _) ← (ExceptT.run run).run (initial image pid parent directory)
  return match result with
  | .ok status => status % 256
  | .error _ => 2

/-- The shell of the plain dialect. -/
def plainShell : Program := shellProgram Plain.initialState Plain.runInvocation

/-- The shell of the extended dialect. -/
def extendedShell : Program := shellProgram Extended.initialState Extended.runInvocation

end CommandShell.Machine.SystemShell
