import CommandShell.Log
import CommandShell.Machine.Files
import CommandShell.Signal
import CommandShell.Text.Bytes
set_option autoImplicit false

/-!
# Routines

A routine is what one process does: calls of the system, each answered before the next one is made,
until the routine is done or ends its process.  A process that forks goes on twice, once with each
of the two answers.
-/

namespace CommandShell.Machine

/-- What a process knows an open file by. -/
abbrev Descriptor := Nat

/-- The number of a process. -/
abbrev Pid := Nat

/-- Standard input. -/
def standardInput : Descriptor := 0

/-- Standard output. -/
def standardOutput : Descriptor := 1

/-- Standard error. -/
def standardError : Descriptor := 2

/-- How a process ended. -/
inductive Status where
  | exited (code : Nat)
  | signaled (signal : Signal)
  deriving DecidableEq

/-- What a process has arranged for a signal. -/
inductive Arrangement where
  /-- The signal has its default effect. -/
  | standard
  | ignored
  /-- The signal is kept until the process asks for it. -/
  | caught
  deriving DecidableEq

/-- What a process can be held to use no more than so much of. -/
inductive Resource where
  | cpuTime
  | fileSize
  | data
  | stack
  | core
  | residentSet
  | processes
  | openFiles
  | lockedMemory
  | memory
  | fileLocks
  | priority
  | niceness
  | pendingSignals
  | messageQueues
  deriving DecidableEq

/-- How much of something may be used: what counts now, and how far that may be raised.  None is no
limit. -/
structure Limit where
  soft : Option Nat
  hard : Option Nat
  deriving DecidableEq

namespace Limit

/-- No limit at all. -/
def unlimited : Limit := ⟨none, none⟩

/-- A limit allows as much as another one. -/
def atMost (a b : Option Nat) : Bool :=
  match a, b with
  | _, none => true
  | none, some _ => false
  | some a, some b => a ≤ b

end Limit

/-- The limit that a machine starts with. -/
def Resource.usualLimit : Resource → Limit
  | core => ⟨some 0, none⟩
  | stack => ⟨some 8388608, none⟩
  | processes | pendingSignals => ⟨some 128620, some 128620⟩
  | openFiles => ⟨some 20000, some 20000⟩
  | lockedMemory => ⟨some 8388608, some 8388608⟩
  | messageQueues => ⟨some 819200, some 819200⟩
  | priority | niceness => ⟨some 0, some 0⟩
  | _ => .unlimited

/-- How a file is to be opened. -/
structure OpenMode where
  reads : Bool := false
  writes : Bool := false
  /-- Writes go to the end of the file. -/
  appends : Bool := false
  truncates : Bool := false
  /-- The file is created if it is not there, with these permissions. -/
  creates : Option Nat := none
  /-- The file must not be there. -/
  exclusive : Bool := false

namespace OpenMode

/-- Opening for reading. -/
def input : OpenMode := { reads := true }

/-- Opening for writing, from an empty file on. -/
def output : OpenMode := { writes := true, truncates := true, creates := some Files.newFileMode }

/-- Opening for writing at the end. -/
def append : OpenMode := { writes := true, appends := true, creates := some Files.newFileMode }

/-- How the file of a redirection is opened. -/
def ofRedirect : Redirect → OpenMode
  | .input => input
  | .output => output
  | .append => append

end OpenMode

/-- What the system tells about a node. -/
structure NodeInfo where
  id : NodeId
  kind : NodeKind
  mode : Nat
  owned : Bool
  size : Nat

namespace NodeInfo

/-- A file that someone may run. -/
def isProgram (info : NodeInfo) : Bool := info.kind = .regular && info.mode &&& 0o111 != 0

/-- The permissions allow an access. -/
def permits (info : NodeInfo) (access : Access) : Bool :=
  (if info.owned then info.mode >>> 6 else info.mode) &&& access.bit != 0

end NodeInfo

/-- An environment: variables with their values. -/
abbrev Environment := List (String × String)

/-- An environment as machines hold it. -/
def Environment.held (environment : Environment) : Environment :=
  environment.map fun (name, value) => (Text.held name, Text.held value)

/-- What a program is started with; the first argument is what it was called by. -/
structure Image where
  arguments : List String
  environment : Environment

/-- What a program was called by. -/
def Image.name (image : Image) : String := image.arguments.head?.getD ""

/-- An image as machines hold it. -/
def Image.held (image : Image) : Image :=
  ⟨image.arguments.map Text.held, image.environment.held⟩

/-- The words after what a program was called by. -/
def Image.words (image : Image) : List String := image.arguments.drop 1

/-- The two sides of a fork. -/
inductive ForkSide where
  | child
  | parent (child : Pid)
  deriving DecidableEq

/-- A call of the system. -/
inductive Call where
  /-- Opens a pipe: its read end and its write end. -/
  | openPipe (nonblocking : Bool)
  | openFile (path : String) (mode : OpenMode)
  | close (descriptor : Descriptor)
  /-- Makes `target` stand for the same open file as `descriptor`. -/
  | install (descriptor target : Descriptor)
  /-- A new descriptor, from `least` on, for the same open file.  It does not outlive the
  program. -/
  | keep (descriptor least : Descriptor)
  /-- Reads at most so many bytes, and none only at the end. -/
  | read (descriptor : Descriptor) (limit : Nat)
  /-- Writes all the bytes. -/
  | write (descriptor : Descriptor) (bytes : ByteArray)
  /-- Takes back bytes that were read; only a regular file can do that. -/
  | unread (descriptor : Descriptor) (count : Nat)
  /-- Tells what a descriptor stands for, and at which byte a regular file is read or written
  next. -/
  | describe (descriptor : Descriptor)
  /-- Makes a copy of the process. -/
  | fork
  /-- Becomes another program; there is an answer only if that fails. -/
  | exec (path : String) (image : Image)
  /-- Waits for the end of a child; a caught signal may end the wait. -/
  | wait (child : Pid) (interruptible : Bool)
  /-- Asks whether a child has ended. -/
  | poll (child : Pid)
  /-- Tells about the node that a path leads to; a link at the end is followed if asked for. -/
  | stat (path : String) (follow : Bool)
  | readLink (path : String)
  /-- The names in a directory, with what they stand for. -/
  | entries (path : String)
  | remove (path : String)
  | removeDirectory (path : String)
  | makeDirectory (path : String) (mode : Nat)
  | makeLink (target path : String)
  /-- Gives a file one more name. -/
  | makeName (old new : String)
  | makePipe (path : String) (mode : Nat)
  | rename (old new : String)
  | setMode (path : String) (mode : Nat)
  | changeDirectory (path : String)
  /-- The path of the working directory. -/
  | workingPath
  /-- Changes the permissions that are withheld from new files; tells which were. -/
  | setMask (mask : Nat)
  /-- The limit for something. -/
  | limit (resource : Resource)
  | setLimit (resource : Resource) (limit : Limit)
  /-- The number of the process. -/
  | self
  /-- The number of the parent. -/
  | parent
  | kill (target : Pid) (signal : Signal)
  /-- Changes the arrangement for a signal; tells what it was. -/
  | arrange (signal : Signal) (arrangement : Arrangement)
  /-- The signals caught since the last time. -/
  | caught
  | sleep (milliseconds : Nat)
  | log (record : LogRecord)

/-- What a call is answered with. -/
@[reducible] def Call.Reply : Call → Type
  | openPipe _ => Except Errno (Descriptor × Descriptor)
  | openFile .. | keep .. => Except Errno Descriptor
  | close _ | install .. | write .. | remove _ | removeDirectory _ | makeDirectory .. | makeLink ..
  | makeName .. | makePipe .. | rename .. | setMode .. | changeDirectory _ | kill ..
  | setLimit .. =>
    Except Errno Unit
  | read .. => Except Errno ByteArray
  | describe _ => Except Errno (NodeInfo × Option Nat)
  | fork => Except Errno ForkSide
  | exec .. => Errno
  | wait .. => Except Errno Status
  | poll _ => Except Errno (Option Status)
  | stat .. => Except Errno NodeInfo
  | readLink _ => Except Errno String
  | entries _ => Except Errno (List (String × NodeKind))
  | workingPath => String
  | setMask _ => Nat
  | limit _ => Limit
  | self | parent => Pid
  | arrange .. => Arrangement
  | caught => List Signal
  | unread .. => Bool
  | sleep _ | log _ => Unit

/-- What a process does. -/
inductive Routine (α : Type) where
  /-- The routine has come to its result. -/
  | done (result : α)
  /-- The process ends with an exit code. -/
  | exit (code : Int)
  /-- The process makes a call and goes on with the answer. -/
  | call (call : Call) (next : call.Reply → Routine α)

namespace Routine

variable {α β γ : Type}

/-- One routine after another. -/
def bind : Routine α → (α → Routine β) → Routine β
  | done result, f => f result
  | exit code, _ => exit code
  | call c next, f => call c fun reply => (next reply).bind f

instance : Monad Routine where
  pure := done
  bind := bind

theorem bind_done (routine : Routine α) : routine.bind done = routine := by
  induction routine with
  | done | exit => rfl
  | call c next ih => exact congrArg (call c) (funext ih)

theorem bind_assoc (routine : Routine α) (f : α → Routine β) (g : β → Routine γ) :
    (routine.bind f).bind g = routine.bind fun result => (f result).bind g := by
  induction routine with
  | done | exit => rfl
  | call c next ih => exact congrArg (call c) (funext ih)

instance : LawfulMonad Routine :=
  LawfulMonad.mk' Routine bind_done (fun _ _ => rfl) bind_assoc

end Routine

/-- Makes a call and gives its answer. -/
def perform (c : Call) : Routine c.Reply := .call c .done

/-- Writes a text to standard error. -/
def complain (text : String) : Routine Unit := do
  let _ ← perform (.write standardError text.toUTF8)

end CommandShell.Machine
