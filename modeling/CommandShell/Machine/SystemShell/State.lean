import CommandShell.Machine.Program.Basic
import CommandShell.Machine.SystemShell.Printing
import CommandShell.Machine.SystemShell.Variable
set_option autoImplicit false

/-!
# The state of the system's shell

Variables, functions and arguments, and what a command may do besides coming to its exit status:
leave a loop, a function or the whole script.
-/

namespace CommandShell.Machine.SystemShell

/-- What a background command is known by. -/
structure Job where
  number : Nat
  /-- The processes of the command; that of the last stage is the first one. -/
  pids : List Pid
  /-- The processes that are not known to have ended. -/
  running : List Pid
  /-- How the last stage ended, once it is known. -/
  status : Option Status := none
  /-- Someone has waited for the end of the job. -/
  isWaited : Bool := false
  /-- The command. -/
  command : Command := .nothing

namespace Job

/-- All of the job's processes have ended. -/
def isDone (job : Job) : Bool := job.running.isEmpty

/-- The job once it is known how a process ended. -/
def note (pid : Pid) (status : Status) (job : Job) : Job :=
  { job with
    running := job.running.filter (· ≠ pid)
    status := if job.pids.head? = some pid then some status else job.status }

end Job

/-- A function. -/
structure Function where
  body : Command
  /-- What the script was called that defined it. -/
  source : String := ""
  isExported : Bool := false
  isReadOnly : Bool := false

/-- A function or a script from a file that is under way. -/
structure Frame where
  name : String
  /-- What the script is called in which it was defined. -/
  source : String
  /-- The line on which it was called. -/
  line : Nat

/-- The state of a shell. -/
structure State where
  dialect : Dialect := .plain
  /-- What the script is called. -/
  name : String
  /-- What the script is called to which functions belong, unless it is in a file. -/
  origin : String := "main"
  /-- The process of the outermost shell. -/
  pid : Pid
  parent : Pid
  bindings : List (String × Variable) := []
  functions : List (String × Function) := []
  arguments : List String := []
  /-- The exit status of the last command. -/
  status : Nat := 0
  /-- The exit status of the last script whose output was put in place. -/
  outputStatus : Nat := 0
  lastBackground : Option Pid := none
  /-- The options that are on. -/
  flags : List Char := []
  /-- The background commands, the latest first. -/
  jobs : List Job := []
  /-- Caught signals whose scripts have not been run. -/
  caught : List Signal := []
  /-- What stands for a word at the beginning of a command, the oldest first. -/
  aliases : List (String × String) := []
  /-- Scripts for signals; number 0 stands for the end of the shell. -/
  traps : List (Nat × String) := []
  line : Nat := 1
  /-- The builtin command under way, which names itself in complaints. -/
  builtin : Option String := none
  /-- How many loops are under way in this function. -/
  loops : Nat := 0
  /-- How many functions are under way. -/
  functionDepth : Nat := 0
  /-- The variables of the functions under way, with what they were before. -/
  locals : List (String × Option Variable) := []
  /-- Texts in the script, by number. -/
  documents : List (Nat × List Part) := []
  nextDocument : Nat := 0
  /-- A failure does not end the script here, whatever the options say. -/
  isTested : Bool := false
  /-- How far the options of the arguments have been looked at. -/
  optionOffset : Nat := 0
  /-- The functions and scripts that are under way, the innermost first. -/
  frames : List Frame := []
  /-- The exit statuses of the last pipeline. -/
  stageStatuses : List Nat := []
  /-- The further options of the extended dialect that are on. -/
  features : List String := []
  /-- The directories to go back to, the latest first. -/
  directories : List String := []
  /-- What the next random number comes from. -/
  seed : Nat := 1
  /-- How many shells this one is below. -/
  depth : Nat := 0
  /-- As `depth`, but without the shells of stages of pipelines that are simple commands. -/
  level : Nat := 0
  /-- The exit status when a parameter without value ends the script of the extended dialect. -/
  abortStatus : Nat := 1
  /-- The last argument of the last command. -/
  lastArgument : String := ""
  /-- The command under way. -/
  underWay : Command := .nothing
  /-- The occasions whose scripts are under way. -/
  occasionsUnderWay : List Nat := []
  /-- How many scripts within each other are shown as they are run. -/
  traceDepth : Nat := 1
  /-- Builtin commands that are not used. -/
  disabled : List String := []
  /-- Where programs have been found, with how often they were called. -/
  found : List (String × String × Nat) := []
  /-- The files that outputs are read from or inputs written to, until the command has ended. -/
  processFiles : List Descriptor := []

/-- The number by which the script is kept that is run before every command. -/
def debugTrap : Nat := Signal.maxNumber + 1

/-- The number by which the script for failures is kept. -/
def errorTrap : Nat := Signal.maxNumber + 2

/-- The number by which the script for the ends of functions is kept. -/
def returnTrap : Nat := Signal.maxNumber + 3

/-- What a command does instead of coming to an end. -/
inductive Jump where
  | leaveLoops (count : Nat)
  | nextRound (count : Nat)
  /-- Leaves a function or a script that was read from a file. -/
  | leaveFunction (status : Nat)
  | leave (status : Nat)
  /-- An error, which has been complained about. -/
  | fail (status : Nat)
  /-- Leaves the line of the script, whatever is under way. -/
  | leaveLine (status : Nat)

/-- What the shell does. -/
abbrev Eval := ExceptT Jump (StateT State Routine)

variable {α : Type}

/-- Makes a call of the system. -/
def doCall (c : Call) : Eval c.Reply :=
  let routine : Routine c.Reply := perform c
  liftM routine

/-- What a routine of the system does. -/
def doRoutine (routine : Routine α) : Eval α := liftM routine

/-! ## Complaints -/

/-- What the script is called that is under way. -/
def State.source (state : State) : String :=
  match state.frames with
  | frame :: _ => frame.source
  | [] => state.name

/-- What the script is called to which a function belongs that is now defined. -/
def State.definitionSource (state : State) : String :=
  match state.frames with
  | frame :: _ => frame.source
  | [] => state.origin

/-- A complaint as it is written. -/
def State.complaint (state : State) (text : String) : String :=
  let builtin := (state.builtin.map (· ++ ": ")).getD ""
  let front := match state.dialect with
    | .plain => state.name ++ ": "
    | .extended => state.source ++ ": line "
  front ++ toString state.line ++ ": " ++ builtin ++ text ++ "\n"

/-- Writes a text to standard error. -/
def putError (text : String) : Eval Unit := do
  let _ ← doCall (.write standardError (Text.toBytes text))

/-- Writes a complaint to standard error. -/
def warn (text : String) : Eval Unit := do
  putError ((← get).complaint text)

/-- Writes a complaint to standard error that does not name a builtin command. -/
def warnOutside (text : String) : Eval Unit := do
  putError ({ (← get) with builtin := none }.complaint text)

/-- The dialect is the extended one. -/
def speaksExtended : Eval Bool := return (← get).dialect = .extended

/-- Writes a complaint about a file or a descriptor, for which the extended dialect does not name a
builtin command. -/
def warnOfFile (text : String) : Eval Unit := do
  if ← speaksExtended then warnOutside text else warn text

/-- Complains, and gives up the command. -/
def fail (text : String) (status : Nat := 2) : Eval α := do
  warn text
  modify fun state => { state with status }
  throw (.fail status)

/-! ## Options -/

/-- The options of the plain dialect, with their letters. -/
def plainOptionNames : List (String × Char) :=
  [("errexit", 'e'), ("noglob", 'f'), ("ignoreeof", 'I'), ("interactive", 'i'), ("monitor", 'm'),
    ("noexec", 'n'), ("stdin", 's'), ("xtrace", 'x'), ("verbose", 'v'), ("vi", 'V'),
    ("emacs", 'E'), ("noclobber", 'C'), ("allexport", 'a'), ("notify", 'b'), ("nounset", 'u'),
    ("privileged", 'p'), ("nolog", '\x01'), ("debug", '\x02')]

/-- The letter of the option by which every stage of a pipeline counts. -/
def pipefailFlag : Char := '\x04'

/-- The options of a dialect, with their letters. -/
def optionNames : Dialect → List (String × Char)
  | .plain => plainOptionNames
  | .extended =>
    [("allexport", 'a'), ("braceexpand", 'B'), ("emacs", '\x05'), ("errexit", 'e'),
      ("errtrace", 'E'), ("functrace", 'T'), ("hashall", 'h'), ("histexpand", '\x0B'),
      ("history", '\x03'), ("ignoreeof", '\x06'), ("interactive-comments", '\x07'),
      ("keyword", 'k'), ("monitor", 'm'), ("noclobber", 'C'), ("noexec", 'n'), ("noglob", 'f'),
      ("nolog", '\x01'), ("notify", 'b'), ("nounset", 'u'), ("onecmd", 't'), ("physical", 'P'),
      ("pipefail", pipefailFlag), ("posix", '\x08'), ("privileged", 'p'), ("verbose", 'v'),
      ("vi", '\x0E'), ("xtrace", 'x')]

/-! ## Variables -/

/-- A variable. -/
def State.stored? (state : State) (name : String) : Option Variable :=
  state.bindings.lookup name

/-- The variable that a name stands for in the end. -/
def State.target (state : State) (name : String) : (fuel : Nat) → String
  | 0 => name
  | fuel + 1 =>
    match state.stored? name with
    | some { isReference := true, value := some other, .. } => state.target other fuel
    | _ => name

/-- How many references to variables lead to each other at most. -/
def maxReferences : Nat := 8

/-- The variable that a name stands for, through references. -/
def State.resolved? (state : State) (name : String) : Option Variable :=
  state.stored? (state.target name maxReferences)

/-- The value of a variable. -/
def State.value? (state : State) (name : String) : Option String :=
  (state.resolved? name).bind Variable.text?

/-- Replaces or adds a variable. -/
def State.putVariable (state : State) (name : String) (new : Variable) : State :=
  { state with bindings :=
      if state.bindings.any (·.1 = name) then
        state.bindings.map fun entry => if entry.1 = name then (name, new) else entry
      else state.bindings ++ [(name, new)] }

/-- Forgets a variable. -/
def State.dropVariable (state : State) (name : String) : State :=
  { state with bindings := state.bindings.filter (·.1 ≠ name) }

/-- The number for a new job.  In the plain dialect it takes the place of one that is over and done
with, in the extended one it comes after all that are not. -/
def State.claimJobNumber (state : State) : Nat × State :=
  if state.dialect = .extended then
    let unfinished := state.jobs.filter fun job => !job.isWaited
    ((unfinished.map Job.number).foldl max 0 + 1, state)
  else
  let taken (n : Nat) : Bool :=
    state.jobs.any fun job => job.number = n && !(job.isDone && job.isWaited)
  let number :=
    ((List.range' 1 (state.jobs.length + 1)).find? fun n => !taken n).getD 1
  (number, { state with jobs := state.jobs.filter fun job => job.number ≠ number })

/-- What stands before the name of a function in the environment. -/
def exportedFront : String := "BASH_FUNC_"

/-- What stands after the name of a function in the environment. -/
def exportedBack : String := "%%"

/-- What programs find in their environment. -/
def State.environment (state : State) : Environment :=
  let exported := state.bindings.filterMap fun (name, v) =>
    if v.isExported && v.shape = .single then v.value.map fun value => (name, value) else none
  match state.dialect with
  | .plain => exported
  | .extended =>
    let functions := state.functions.filterMap fun (name, f) =>
      if f.isExported then some (exportedFront ++ name ++ exportedBack,
        Printing.exportedText f.body) else none
    (exported.mergeSort fun a b => tablePlace a.1 ≤ tablePlace b.1) ++ functions

/-- Gives a variable a value. -/
def setVariable (name value : String) (exported : Bool := false) : Eval Unit := do
  let name := (← get).target name maxReferences
  let old := ((← get).stored? name).getD { value := none }
  if old.isReadOnly then
    if ← speaksExtended then
      warnOutside (name ++ ": readonly variable")
      throw (.fail 1)
    fail (name ++ ": is read only")
  let value := match old.letters with
    | some change => value.map change.apply
    | none => value
  modify fun state =>
    let isExported := old.isExported || exported || state.flags.contains 'a'
    let state := state.putVariable name { old.putText value with isExported }
    if name = "OPTIND" then { state with optionOffset := 0 }
    else if name = "RANDOM" && state.dialect = .extended then
      { state with seed := (Program.natural? value).getD 0 }
    else state

/-- Takes the value of a variable away. -/
def unsetVariable (name : String) : Eval Unit := do
  if ((← get).stored? name).any Variable.isReadOnly then fail (name ++ ": is read only")
  modify fun state => state.dropVariable name

/-- An option is on. -/
def hasFlag (flag : Char) : Eval Bool := return (← get).flags.contains flag

/-! ## Directories to go back to -/

/-- A place in the list of directories, from its beginning or its end. -/
inductive StackPlace where
  | fromStart (n : Nat)
  | fromEnd (n : Nat)

namespace StackPlace

/-- The place that a word with a sign and a number stands for. -/
def read? (word : String) : Option StackPlace :=
  match word.toList with
  | '+' :: digits => (Program.natural? (String.ofList digits)).map fromStart
  | '-' :: digits => (Program.natural? (String.ofList digits)).map fromEnd
  | _ => none

/-- The place counted from the beginning of a list of some size. -/
def index? (size : Nat) : StackPlace → Option Nat
  | fromStart n => if n < size then some n else none
  | fromEnd n => if n < size then some (size - 1 - n) else none

end StackPlace

/-- The working directory and those to go back to. -/
def State.directoryStack (state : State) : List String :=
  (state.value? "PWD").getD "" :: state.directories

/-- A directory to go back to by its place; a number alone counts from the beginning. -/
def State.stackedDirectory? (state : State) (word : String) : Option String :=
  let stack := state.directoryStack
  let word := if word.toList.all Char.isDigit then "+" ++ word else word
  ((StackPlace.read? word).bind fun place => place.index? stack.length).bind fun i => stack[i]?

/-! ## Programs and numbers -/

/-- A decimal number without sign. -/
def natural (word : String) : Eval Nat := do
  match Program.natural? word with
  | some n => return n
  | none => fail ("Illegal number: " ++ word)

/-- The directories in which programs are looked for when nothing else is said. -/
def defaultPath : String :=
  "/usr/local/sbin:/usr/local/bin:/usr/sbin:/usr/bin:/sbin:/bin"

/-- A further option of the extended dialect is on. -/
def hasFeature (feature : String) : Eval Bool := return (← get).features.contains feature

/-- Where programs are looked for. -/
def State.searchPath (state : State) : List String :=
  ((state.value? "PATH").getD "").splitOn ":"

end CommandShell.Machine.SystemShell
