import CommandShell.Config
set_option autoImplicit false

/-!
# Finding programs

A program named by a path is that file.  Any other name is looked for in the directories of a
search path, from first to last.
-/

namespace CommandShell

/-- The files that a name may stand for, in the order in which they are looked at.  Empty entries
of the search path are left out, and an empty name stands for nothing. -/
def programCandidates (name searchPath : String) : List String :=
  if name = "" then []
  else ((searchPath.splitOn ":").filter (· ≠ "")).map (Path.join · name)

/-- A name that is a path is not looked for. -/
def isProgramPath (name : String) : Bool := name.contains '/'

end CommandShell
