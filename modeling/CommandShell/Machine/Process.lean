import CommandShell.Machine.Routine
set_option autoImplicit false

/-!
# Processes and open files

A machine has a file tree, pipes, open files and processes.  A descriptor of a process stands for
an open file, and a copy of the process shares it.
-/

namespace CommandShell.Machine

/-- What an open file gives access to. -/
inductive Target where
  | node (id : NodeId)
  | readEnd (pipe : Nat)
  | writeEnd (pipe : Nat)
  /-- The machine's standard output, or its standard error. -/
  | console (isError : Bool)
  deriving DecidableEq

/-- An open file, which several descriptors may share. -/
structure Handle where
  target : Target
  readable : Bool
  writable : Bool
  /-- Writes go to the end of the file. -/
  append : Bool := false
  /-- Reading does not wait. -/
  nonblocking : Bool := false
  offset : Nat := 0

/-- An open file of a target, as it is opened. -/
def Handle.ofMode (mode : OpenMode) (target : Target) : Handle where
  target := target
  readable := mode.reads
  writable := mode.writes
  append := mode.appends

/-- A descriptor of a process. -/
structure Slot where
  descriptor : Descriptor
  /-- The number of the open file. -/
  handle : Nat
  /-- The descriptor is closed when the process becomes another program. -/
  closeOnExec : Bool

/-- Bytes on their way: those before `start` have been read. -/
structure Pipe where
  bytes : ByteArray
  start : Nat := 0

namespace Pipe

/-- How many bytes a pipe holds at most. -/
def capacity : Nat := 65536

/-- How many bytes the pipe holds. -/
def size (pipe : Pipe) : Nat := pipe.bytes.size - pipe.start

/-- The first bytes, and the pipe without them. -/
def take (pipe : Pipe) (limit : Nat) : ByteArray × Pipe :=
  let taken := pipe.bytes.extract pipe.start (pipe.start + limit)
  let start := pipe.start + taken.size
  (taken, if start ≥ pipe.bytes.size then ⟨.empty, 0⟩ else ⟨pipe.bytes, start⟩)

/-- The pipe with more bytes. -/
def add (pipe : Pipe) (bytes : ByteArray) : Pipe := ⟨pipe.bytes ++ bytes, pipe.start⟩

end Pipe

/-- Whether a process still runs. -/
inductive Phase (α : Type) where
  | running (routine : Routine α)
  /-- The process has ended and waits to be collected. -/
  | ended (status : Status)

/-- A process. -/
structure Process (α : Type) where
  pid : Pid
  /-- The process that may wait for this one. -/
  parent : Pid
  slots : List Slot
  phase : Phase α
  environment : Environment
  directory : NodeId
  /-- The permissions withheld from new files. -/
  mask : Nat := Files.usualMask
  /-- The limits that are not the usual ones. -/
  limits : List (Resource × Limit) := []
  /-- Signals with another arrangement than the standard one. -/
  arrangements : List (Signal × Arrangement) := []
  /-- Caught signals that the process has not asked for, the latest first. -/
  caught : List Signal := []
  /-- The process was stopped by a signal. -/
  isStopped : Bool := false
  /-- How many bytes of the write under way have been passed on. -/
  written : Nat := 0
  /-- The end of the sleep under way. -/
  wakeAt : Option Nat := none
  /-- The end of a pipe that the process waits to open. -/
  opening : Option Target := none

/-- Where records of the log go. -/
structure Logger where
  limit : LogLevel
  /-- Records are kept in the log file. -/
  toFile : Bool
  /-- Records are written to standard error as well. -/
  toStderr : Bool

/-- The process that takes the children of those that end. -/
def firstParent : Pid := 1

/-- The number of the first process of a machine. -/
def firstPid : Pid := 100

end Machine

/-- The state of the machine; `α` is what its first process comes to. -/
structure Machine (α : Type) where
  /-- What a program of the system does: its exit code. -/
  programs : String → Machine.Image → Machine.Routine Nat
  files : Machine.Files
  handles : Array Machine.Handle := #[]
  pipes : Array Machine.Pipe := #[]
  /-- The processes that have not been collected, the oldest one first. -/
  processes : List (Machine.Process α) := []
  nextPid : Machine.Pid := Machine.firstPid
  /-- Milliseconds since the start. -/
  clock : Nat := 0
  /-- What was written to standard output. -/
  output : ByteArray := .empty
  /-- What was written to standard error. -/
  errors : ByteArray := .empty
  logger : Option Machine.Logger := none
  log : Array LogRecord := #[]
  /-- What the first process came to. -/
  result : Option α := none
  /-- How the first process ended, if it came to nothing. -/
  fate : Option Machine.Status := none

namespace Machine

variable {α : Type}

/-! ## Processes -/

/-- The process with a number. -/
def process? (machine : Machine α) (pid : Pid) : Option (Process α) :=
  machine.processes.find? fun process => process.pid = pid

/-- Replaces a process. -/
def putProcess (machine : Machine α) (process : Process α) : Machine α :=
  { machine with processes := machine.processes.map fun other =>
      if other.pid = process.pid then process else other }

/-- Forgets a process. -/
def removeProcess (machine : Machine α) (pid : Pid) : Machine α :=
  { machine with processes := machine.processes.filter fun process => process.pid ≠ pid }

namespace Process

/-- The slot of a descriptor. -/
def slot? (process : Process α) (descriptor : Descriptor) : Option Slot :=
  process.slots.find? fun slot => slot.descriptor = descriptor

/-- The process without a descriptor. -/
def dropSlot (process : Process α) (descriptor : Descriptor) : Process α :=
  { process with slots := process.slots.filter fun slot => slot.descriptor ≠ descriptor }

/-- The lowest descriptor from `least` on that the process does not use. -/
def freeDescriptor (process : Process α) (least : Descriptor) : Descriptor :=
  ((List.range' least (process.slots.length + 1)).find? fun descriptor =>
    (process.slot? descriptor).isNone).getD least

/-- The process with one more descriptor, from `least` on. -/
def addSlot (process : Process α) (handle : Nat) (closeOnExec : Bool)
    (least : Descriptor := 0) : Descriptor × Process α :=
  let descriptor := process.freeDescriptor least
  (descriptor, { process with slots := ⟨descriptor, handle, closeOnExec⟩ :: process.slots })

/-- The limit for something. -/
def limit (process : Process α) (resource : Resource) : Limit :=
  (process.limits.lookup resource).getD resource.usualLimit

/-- Changes the limit for something, which only goes up as far as the old one says. -/
def setLimit (process : Process α) (resource : Resource) (limit : Limit) :
    Except Errno (Process α) :=
  if !Limit.atMost limit.soft limit.hard then .error .invalidArgument
  else if !Limit.atMost limit.hard (process.limit resource).hard then .error .notPermitted
  else .ok { process with
    limits := (resource, limit) :: process.limits.filter (·.1 ≠ resource) }

/-- There may be a descriptor with this number. -/
def allowsDescriptor (process : Process α) (descriptor : Descriptor) : Bool :=
  (process.limit .openFiles).soft.all (descriptor < ·)

/-- What the process has arranged for a signal. -/
def arrangement (process : Process α) (signal : Signal) : Arrangement :=
  if signal.isCommanding then .standard
  else (process.arrangements.lookup signal).getD .standard

/-- Changes the arrangement for a signal. -/
def arrange (process : Process α) (signal : Signal) (arrangement : Arrangement) : Process α :=
  { process with
    arrangements := (signal, arrangement) :: process.arrangements.filter (·.1 ≠ signal) }

end Process

/-! ## Open files -/

/-- The open file that a descriptor of a process stands for, with its number. -/
def handle? (machine : Machine α) (process : Process α) (descriptor : Descriptor) :
    Option (Nat × Handle) := do
  let slot ← process.slot? descriptor
  let handle ← machine.handles[slot.handle]?
  return (slot.handle, handle)

/-- Adds an open file. -/
def addHandle (machine : Machine α) (handle : Handle) : Nat × Machine α :=
  (machine.handles.size, { machine with handles := machine.handles.push handle })

/-- Replaces an open file. -/
def setHandle (machine : Machine α) (id : Nat) (handle : Handle) : Machine α :=
  { machine with handles := machine.handles.setIfInBounds id handle }

/-- Opens a file under a new descriptor. -/
def openHandle (machine : Machine α) (process : Process α) (handle : Handle) :
    Descriptor × Process α × Machine α :=
  let (id, machine) := machine.addHandle handle
  let (descriptor, process) := process.addSlot id true
  (descriptor, process, machine)

/-- Some process has a descriptor for the target, or waits to open it. -/
def isHeld (machine : Machine α) (target : Target) : Bool :=
  machine.processes.any fun process =>
    process.opening = some target || process.slots.any fun slot =>
      (machine.handles[slot.handle]?.map Handle.target) == some target

/-- Some process may write to the node. -/
def isBeingWritten (machine : Machine α) (id : NodeId) : Bool :=
  machine.processes.any fun process => process.slots.any fun slot =>
    machine.handles[slot.handle]?.any fun handle => handle.writable && handle.target = .node id

/-- Adds an empty pipe. -/
def addPipe (machine : Machine α) : Nat × Machine α :=
  (machine.pipes.size, { machine with pipes := machine.pipes.push ⟨.empty, 0⟩ })

/-- Replaces a pipe. -/
def setPipe (machine : Machine α) (id : Nat) (pipe : Pipe) : Machine α :=
  { machine with pipes := machine.pipes.setIfInBounds id pipe }

/-! ## The end of a process -/

/-- Children of a process that ends get another parent, which collects those that have ended. -/
def orphan (machine : Machine α) (pid : Pid) : Machine α :=
  { machine with processes := machine.processes.filterMap fun process =>
      if process.parent ≠ pid then some process
      else
        match process.phase with
        | .running _ => some { process with parent := firstParent }
        | .ended _ => none }

/-- Ends a process.  Its status is kept for its parent. -/
def terminate (machine : Machine α) (process : Process α) (status : Status) : Machine α :=
  let machine := machine.orphan process.pid
  let machine :=
    if process.pid = firstPid then { machine with fate := some status } else machine
  if process.parent = firstParent then machine.removeProcess process.pid
  else machine.putProcess { process with slots := [], opening := none, phase := .ended status }

/-- The first process has come to its result. -/
def finish (machine : Machine α) (process : Process α) (result : α) : Machine α :=
  { (machine.orphan process.pid).removeProcess process.pid with result := some result }

/-- Brings a signal to a process that is not the sender. -/
def deliver (machine : Machine α) (process : Process α) (signal : Signal) : Machine α :=
  match process.phase with
  | .ended _ => machine
  | .running _ =>
    match process.arrangement signal with
    | .ignored =>
      if signal = .resume then machine.putProcess { process with isStopped := false } else machine
    | .caught =>
      machine.putProcess { process with caught := signal :: process.caught }
    | .standard =>
      match signal.defaultEffect with
      | .terminate => machine.terminate process (.signaled signal)
      | .ignore => machine
      | .stop => machine.putProcess { process with isStopped := true }
      | .resume => machine.putProcess { process with isStopped := false }

end Machine

end CommandShell
