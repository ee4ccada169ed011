import CommandShell.Machine.SystemShell.Builtin.Basic
set_option autoImplicit false

/-!
# Builtin commands that direct a script

How a script leaves loops, functions and itself, runs other scripts and becomes a program.
-/

namespace CommandShell.Machine.SystemShell

/-! ## The plain dialect -/

/-- Leaves loops. -/
def leaveLoops (jump : Nat → Jump) : Builtin := fun _ arguments => do
  let count ← optionalNumber arguments 1
  if count = 0 then fail ("Illegal number: " ++ arguments.head?.getD "")
  let count := min count (← get).loops
  if count > 0 then throw (jump count)
  return 0

/-- Leaves a function. -/
def returnStatus : Builtin := fun _ arguments => do
  throw (.leaveFunction (← optionalNumber arguments (← get).status))

/-- Ends the script. -/
def exitShell : Builtin := fun _ arguments => do
  throw (.leave (← optionalNumber arguments (← get).status))

/-- Runs its arguments as a script. -/
def eval : Builtin := fun runner arguments => do
  let words := match arguments with
    | "--" :: rest => rest
    | words => words
  runner.script (.ofArgument (" ".intercalate words))

/-- Becomes a program. -/
def execProgram : Builtin := fun _ arguments => do
  let words := match arguments with
    | "--" :: rest => rest
    | words => words
  if words.isEmpty then return 0
  becomeProgram words

/-- The file in the search path that a script is to be read from. -/
def searchScript (name : String) : Eval (Option String) := do
  for directory in (← get).searchPath do
    let path := if directory = "" then name else directory ++ "/" ++ name
    if let .ok info ← doCall (.stat path true) then
      if info.kind = .regular && info.permits .read then return some path
  return none

/-- The file that a script is to be read from. -/
def scriptPath (name : String) : Eval String := do
  if name.contains '/' then return name
  match ← searchScript name with
  | some path => return path
  | none => fail (name ++ ": not found")

/-- The text in a file that has been opened. -/
def readScript (descriptor : Descriptor) : Eval String := do
  let bytes ← doRoutine (Program.readAll descriptor .empty Program.budget)
  let _ ← doCall (.close descriptor)
  return Text.ofBytes (bytes.toOption.getD .empty)

/-- Runs a script from a file, which it may leave as a function. -/
def runReturning (body : Eval Nat) : Eval Nat :=
  tryCatch body fun jump =>
    match jump with
    | .leaveFunction status => return status
    | jump => throw jump

/-- Runs a script in a file. -/
def runFile : Builtin := fun runner arguments => do
  match arguments.filter (· ≠ "--") with
  | [] => return 0
  | name :: _ =>
    let path ← scriptPath name
    match ← doCall (.openFile path .input) with
    | .error errno =>
      let reason := match errno with
        | .noEntry | .notDirectory => "No such file"
        | errno => errno.description
      fail ("cannot open " ++ path ++ ": " ++ reason)
    | .ok descriptor =>
      let text ← readScript descriptor
      runReturning (runner.script (.ofFile text))

/-- Drops arguments. -/
def shift : Builtin := fun _ arguments => do
  let count ← optionalNumber arguments 1
  if count > (← get).arguments.length then fail "can't shift that many"
  modify fun state => { state with arguments := state.arguments.drop count, optionOffset := 0 }
  return 0

/-! ## The extended dialect -/

/-- An argument that is a number, or else a default; what happens when it is none depends on the
command. -/
def numberArgument (arguments : List String) (default : Int) (refused : Eval Int) : Eval Int := do
  match arguments with
  | "--" :: word :: rest | word :: rest =>
    match signedNumber? word with
    | none =>
      warn (word ++ ": numeric argument required")
      refused
    | some n =>
      if rest.isEmpty then return n
      warn "too many arguments"
      throw (.leaveLine 1)
  | [] => return default

/-- The exit status that a number comes to. -/
def statusOfNumber (n : Int) : Nat := (n % 256).toNat

/-- Leaves loops of the extended dialect. -/
def extendedLeaveLoops (jump : Nat → Jump) : Builtin := fun _ arguments => do
  let loops := (← get).loops
  if loops = 0 then
    warn ("only meaningful in a \u0060for', \u0060while', or \u0060until' loop")
    return 0
  let count ← numberArgument arguments 1 (throw (.leave 128))
  if count ≤ 0 then
    warn (toString count ++ ": loop count out of range")
    throw (.leaveLoops loops)
  throw (jump (min count.toNat loops))

/-- A function or a script from a file is under way. -/
def State.canReturn (state : State) : Bool :=
  state.functionDepth > 0 || state.frames.any (·.name = "source")

/-- Leaves a function or a script of the extended dialect. -/
def extendedReturn : Builtin := fun _ arguments => do
  let state ← get
  let status ← numberArgument arguments state.status (return 2)
  if !state.canReturn then
    refuseCommand "can only \u0060return' from a function or sourced script" 2
  throw (.leaveFunction (statusOfNumber status))

/-- Ends a script of the extended dialect. -/
def extendedExit : Builtin := fun _ arguments => do
  let status ← numberArgument arguments (← get).status (return 2)
  throw (.leave (statusOfNumber status))

/-- Runs its arguments as a script of the extended dialect. -/
def extendedEval : Builtin := fun runner arguments => do
  let (_, words) ← extendedOptions "eval [arg ...]" "" arguments
  if words.isEmpty then return 0
  runner.script (.ofArgument (" ".intercalate words))

/-- How `exec` is used. -/
def execUsage : String := "exec [-cl] [-a name] [command [argument ...]] [redirection ...]"

/-- Complains about a file that is no program, after it could not be run. -/
def warnOfNoProgram (path : String) : Eval Unit := do
  match ← doCall (.stat path true) with
  | .ok info =>
    if info.kind = .directory then
      warn (path ++ ": cannot execute: " ++ Errno.isDirectory.description)
    else if !info.permits .execute then
      warn (path ++ ": cannot execute: " ++ Errno.accessDenied.description)
  | .error _ => return

/-- Becomes a program, as the extended dialect does. -/
def extendedExec : Builtin := fun _ arguments => do
  let (options, words) ← extendedOptions execUsage "cla:" arguments
  match words with
  | [] => return 0
  | name :: _ =>
    uncountShell
    let title := (optionValue? options 'a').getD name
    let title := if hasOption options 'l' then "-" ++ title else title
    let survives ← hasFeature "execfail"
    tryCatch (becomeProgram words (some title) (hasOption options 'c')) fun jump => do
      warnOfNoProgram name
      match jump, survives with
      | .leave status, true => return status
      | jump, _ => throw jump

/-- The file that a script of the extended dialect is to be read from. -/
def extendedScriptPath (name : String) : Eval String := do
  if name.contains '/' || !(← hasFeature "sourcepath") then return name
  return (← searchScript name).getD name

/-- Runs a script in a file, as the extended dialect does. -/
def extendedRunFile : Builtin := fun runner arguments => do
  let command := ((← get).builtin).getD ""
  let usage := command ++ " filename [arguments]"
  let (_, words) ← extendedOptions usage "" arguments
  match words with
  | [] =>
    warn "filename argument required"
    refuseUse usage
  | name :: given =>
    let path ← extendedScriptPath name
    if let .ok info ← doCall (.stat path true) then
      if info.kind = .directory then refuseCommand (name ++ ": is a directory")
    match ← doCall (.openFile path .input) with
    | .error errno =>
      warnOutside (name ++ ": " ++ errno.description)
      return 1
    | .ok descriptor =>
      let text ← readScript descriptor
      let before ← get
      let frame : Frame := { name := "source", source := path, line := before.line }
      modify fun state => { state with
        frames := frame :: state.frames, builtin := none
        arguments := if given.isEmpty then state.arguments else given }
      let restore : Eval Unit := modify fun state => { state with
        frames := before.frames
        arguments := if given.isEmpty then state.arguments else before.arguments }
      let status ← tryCatch (runReturning (runner.script (.ofFile text))) fun jump => do
        restore
        throw jump
      restore
      return status

/-- Drops arguments, as the extended dialect does. -/
def extendedShift : Builtin := fun _ arguments => do
  let count ← numberArgument arguments 1 (throw (.fail 1))
  let size := (← get).arguments.length
  if count < 0 || (count > size && (← hasFeature "shift_verbose")) then
    refuseCommand (toString count ++ ": shift count out of range")
  if count > size then return 1
  modify fun state => { state with arguments := state.arguments.drop count.toNat }
  return 0

end CommandShell.Machine.SystemShell
