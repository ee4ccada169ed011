import CommandShell.Machine.Routine
set_option autoImplicit false

/-!
# Children

A child that was started in the background is kept in a table until it has ended and been
collected.  A child that is waited for is collected by the wait itself.
-/

namespace CommandShell

open Machine (Pid Routine perform)

/-- A child that has not been collected. -/
structure Child where
  pid : Pid
  program : String
  deriving DecidableEq

/-- Waits for a child.  A child that a signal ended is a failure; the system does not tell of a
signal without a name. -/
def Child.await (child : Child) : ExceptT ExecError Routine Int := do
  match ← (perform (.wait child.pid false) : Routine _) with
  | .ok (.exited code) => return code
  | .ok (.signaled signal) =>
    if signal.name?.isSome then throw (.abnormalTermination child.program signal)
    else throw (.wait child.program .invalidArgument)
  | .error errno => throw (.wait child.program errno)

/-- The children that were started in the background, in order. -/
structure ChildTable where
  running : List Child
  deriving DecidableEq

namespace ChildTable

/-- No children. -/
def empty : ChildTable := ⟨[]⟩

/-- Adds a child. -/
def track (table : ChildTable) (child : Child) : ChildTable := ⟨table.running ++ [child]⟩

/-- The children of a list that still run; the others are collected. -/
def stillRunning : List Child → Routine (List Child)
  | [] => return []
  | child :: rest => do
    let status ← perform (.poll child.pid)
    let others ← stillRunning rest
    match status with
    | .ok none => return child :: others
    | _ => return others

/-- Collects every child that has ended, without waiting: how many, and the table of the others. -/
def reap (table : ChildTable) : Routine (Nat × ChildTable) := do
  let running ← stillRunning table.running
  return (table.running.length - running.length, ⟨running⟩)

end ChildTable

end CommandShell
