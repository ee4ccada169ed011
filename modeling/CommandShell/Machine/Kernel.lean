import CommandShell.Machine.Transfer
set_option autoImplicit false

/-!
# The machine

Processes run side by side over one file tree.  The machine always lets the oldest process go on
that can; when all of them wait, it moves its clock to the next sleeper's time.  A process becomes
another program by reading a file: a program of the system, or a script, which names the program
that is to read it.
-/

namespace CommandShell.Machine

variable {α : Type}

/-! ## Calls -/

/-- Opens no file: an answer that changes the file tree alone. -/
def answerFiles {c : Call} (machine : Machine α) (process : Process α)
    (reply : Except Errno Unit → c.Reply) (result : Except Errno Files) : Answer α c :=
  match result with
  | .ok files => .reply (reply (.ok ())) process { machine with files }
  | .error errno => .reply (reply (.error errno)) process machine

/-- Collects a child that has ended. -/
def collect (machine : Machine α) (process : Process α) (child : Pid) :
    Except Errno (Option (Status × Machine α)) :=
  match machine.process? child with
  | none => .error .noChild
  | some other =>
    if other.parent ≠ process.pid then .error .noChild
    else
      match other.phase with
      | .running _ => .ok none
      | .ended status => .ok (some (status, machine.removeProcess child))

/-- Writes down a record, if its level is let through. -/
def record (machine : Machine α) (record : LogRecord) : Machine α :=
  match machine.logger with
  | none => machine
  | some logger =>
    if !logger.limit.allows record.level then machine
    else
      { machine with
        log := if logger.toFile then machine.log.push record else machine.log
        errors :=
          if logger.toStderr then machine.errors ++ record.line.toUTF8 else machine.errors }

/-- Brings a signal to a process. -/
def sendSignal (machine : Machine α) (process : Process α) (target : Pid) (signal : Signal) :
    Answer α (.kill target signal) :=
  if target = process.pid then
    match process.arrangement signal, signal.defaultEffect with
    | .caught, _ => .reply (.ok ()) { process with caught := signal :: process.caught } machine
    | .standard, .terminate => if signal.number = 0 then .reply (.ok ()) process machine
      else .killed signal
    | .standard, .stop => .reply (.ok ()) { process with isStopped := true } machine
    | _, _ => .reply (.ok ()) process machine
  else
    match machine.process? target with
    | some other =>
      .reply (.ok ()) process
        (if signal.number = 0 then machine else machine.deliver other signal)
    | none =>
      .reply (.error (if target = firstParent then .notPermitted else .noProcess)) process machine

/-- Follows a path to a directory that the process is to work in. -/
def enterDirectory (machine : Machine α) (process : Process α) (path : String) :
    Except Errno NodeId := do
  let (id, node) ← machine.files.find process.directory path
  if node.kind ≠ .directory then throw .notDirectory
  if !node.permits .execute then throw .accessDenied
  return id

/-- Waits for a child. -/
def awaitChild (machine : Machine α) (process : Process α) (child : Pid) (interruptible : Bool) :
    Answer α (.wait child interruptible) :=
  match machine.collect process child with
  | .error errno => .reply (.error errno) process machine
  | .ok (some (status, machine)) => .reply (.ok status) process machine
  | .ok none =>
    if interruptible && !process.caught.isEmpty then
      .reply (.error .interrupted) process machine
    else .blocked

/-- Makes a descriptor stand for the same open file as another one. -/
def install (machine : Machine α) (process : Process α) (descriptor target : Descriptor) :
    Answer α (.install descriptor target) :=
  match process.slot? descriptor with
  | none => .reply (.error .badDescriptor) process machine
  | some slot =>
    if descriptor = target then .reply (.ok ()) process machine
    else
      let process := process.dropSlot target
      .reply (.ok ())
        { process with slots := ⟨target, slot.handle, false⟩ :: process.slots } machine

/-- Takes back bytes that were read. -/
def unread (machine : Machine α) (process : Process α) (descriptor : Descriptor) (count : Nat) :
    Answer α (.unread descriptor count) :=
  match machine.handle? process descriptor with
  | none => .reply false process machine
  | some (id, handle) =>
    if (machine.targetInfo handle.target).any fun info => info.kind = .regular then
      .reply true process (machine.setHandle id { handle with offset := handle.offset - count })
    else .reply false process machine

/-- What a call comes to, except those that make or replace a process. -/
def answer (machine : Machine α) (process : Process α) : (c : Call) → Answer α c
  | .openPipe nonblocking => machine.openPipe process nonblocking
  | .openFile path mode => machine.openFile process path mode
  | .close descriptor =>
    if (process.slot? descriptor).isSome then
      .reply (.ok ()) (process.dropSlot descriptor) machine
    else .reply (.error .badDescriptor) process machine
  | .install descriptor target => machine.install process descriptor target
  | .keep descriptor least =>
    match process.slot? descriptor with
    | none => .reply (.error .badDescriptor) process machine
    | some slot =>
      let (descriptor, changed) := process.addSlot slot.handle true least
      if process.allowsDescriptor descriptor then .reply (.ok descriptor) changed machine
      else if process.allowsDescriptor least then
        .reply (.error .tooManyOpenFiles) process machine
      else .reply (.error .invalidArgument) process machine
  | .read descriptor limit => machine.read process descriptor limit
  | .write descriptor bytes => machine.write process descriptor bytes
  | .unread descriptor count => machine.unread process descriptor count
  | .describe descriptor => .reply (machine.describe process descriptor) process machine
  | .fork => .reply (.error .tryAgain) process machine
  | .exec .. => .reply .execFormat process machine
  | .wait child interruptible => machine.awaitChild process child interruptible
  | .poll child =>
    match machine.collect process child with
    | .error errno => .reply (.error errno) process machine
    | .ok none => .reply (.ok none) process machine
    | .ok (some (status, machine)) => .reply (.ok (some status)) process machine
  | .stat path follow => .reply (machine.stat process path follow) process machine
  | .readLink path =>
    .reply ((machine.files.find process.directory path false).bind fun (_, node) =>
      match node.content with
      | .link target => .ok target
      | _ => .error .invalidArgument) process machine
  | .entries path =>
    .reply ((machine.files.entries process.directory path).map fun entries =>
      entries.filterMap fun (name, id) => (machine.files.node? id).map fun node =>
        (name, node.kind)) process machine
  | .remove path =>
    machine.answerFiles process id (machine.files.removeFile process.directory path)
  | .removeDirectory path =>
    machine.answerFiles process id (machine.files.removeDirectory process.directory path)
  | .makeDirectory path mode =>
    machine.answerFiles process id (machine.files.makeDirectory process.directory path
      (Files.withhold mode process.mask))
  | .makeLink target path =>
    machine.answerFiles process id (machine.files.makeNode process.directory path
      ⟨.link target, 0o777, true, false⟩)
  | .makeName old new =>
    machine.answerFiles process id (machine.files.makeName process.directory old new)
  | .makePipe path mode =>
    let (pipe, machine) := machine.addPipe
    machine.answerFiles process id (machine.files.makeNode process.directory path
      ⟨.namedPipe pipe, Files.withhold mode process.mask, true, false⟩)
  | .rename old new =>
    machine.answerFiles process id (machine.files.rename process.directory old new)
  | .setMode path mode =>
    machine.answerFiles process id (machine.files.setMode process.directory path mode)
  | .changeDirectory path =>
    match machine.enterDirectory process path with
    | .ok directory => .reply (.ok ()) { process with directory } machine
    | .error errno => .reply (.error errno) process machine
  | .workingPath =>
    .reply (machine.files.pathTo process.directory machine.files.nodes.size) process machine
  | .setMask mask => .reply process.mask { process with mask := mask &&& 0o777 } machine
  | .limit resource => .reply (process.limit resource) process machine
  | .setLimit resource limit =>
    match process.setLimit resource limit with
    | .ok process => .reply (.ok ()) process machine
    | .error errno => .reply (.error errno) process machine
  | .self => .reply process.pid process machine
  | .parent => .reply process.parent process machine
  | .kill target signal => machine.sendSignal process target signal
  | .arrange signal arrangement =>
    .reply (process.arrangement signal) (process.arrange signal arrangement) machine
  | .caught => .reply process.caught.reverse { process with caught := [] } machine
  | .sleep milliseconds =>
    match process.wakeAt with
    | none => .progress { process with wakeAt := some (machine.clock + milliseconds) } machine
    | some time =>
      if time ≤ machine.clock then .reply () { process with wakeAt := none } machine else .blocked
  | .log record => .reply () process (machine.record record)

/-! ## Becoming another program -/

/-- How many bytes of a file are looked at to find out what it is. -/
def headSize : Nat := 256

/-- A blank in the first line of a script. -/
def isHeadGap (byte : UInt8) : Bool := byte = 0x20 || byte = 0x09

/-- A byte that ends a word in the first line of a script. -/
def endsHeadWord (byte : UInt8) : Bool := byte = 0 || isHeadGap byte

/-- The program that the first line of a file names, and its argument.  A line that is cut off by
the limit must at least hold all of the program's name. -/
def scriptInterpreter (bytes : ByteArray) : Option (String × List String) := do
  let 0x23 :: 0x21 :: head ← some (bytes.extract 0 headSize).toList | none
  let text := head.takeWhile fun byte => byte ≠ 0x0A && byte ≠ 0
  let isWhole := text.length < head.length
  let text := if head[text.length]? = some 0x0A
    then (text.reverse.dropWhile isHeadGap).reverse else text
  let text := text.dropWhile isHeadGap
  let name := text.takeWhile fun byte => !endsHeadWord byte
  let argument := (text.drop name.length).dropWhile isHeadGap
  if name.isEmpty then none
  else if !isWhole && bytes.size ≥ headSize && name.length = text.length then none
  else
    let word (bytes : List UInt8) : String := Text.ofBytes ⟨bytes.toArray⟩
    return (word name, if argument.isEmpty then [] else [word argument])

/-- The longest argument of a program, in bytes. -/
def maxArgument : Nat := 131071

/-- The room for all arguments and the environment of a program, in bytes. -/
def maxArguments : Nat := 2097152

/-- How many scripts may stand between a file and the program that is to read it. -/
def maxScripts : Nat := 6

/-- The room that the words of an image take up. -/
def Image.room (image : Image) : Nat :=
  let words := image.arguments ++ image.environment.map fun (name, value) => name ++ "=" ++ value
  (words.map fun word => word.utf8ByteSize + 9).foldl (· + ·) 0

/-- A file that a process is to become. -/
def loadable (machine : Machine α) (process : Process α) (path : String) : Except Errno Node := do
  let (id, node) ← machine.files.find process.directory path
  if node.kind ≠ .regular || !node.permits .execute then throw .accessDenied
  if machine.isBeingWritten id then throw .textFileBusy
  return node

/-- The program of the system that a file is, or that is to read it, with its arguments.  The last
file that is looked at must be there and may be run, but it is not asked what it is. -/
def loadProgram (machine : Machine α) (process : Process α) :
    (limit : Nat) → (path : String) → (arguments : List String) →
      Except Errno (String × List String)
  | 0, path, _ => do
    let _ ← machine.loadable process path
    throw .tooManyLinks
  | limit + 1, path, arguments => do
    match (← machine.loadable process path).content with
    | .regular bytes =>
      match imageName? bytes, scriptInterpreter bytes with
      | some name, _ => return (name, arguments)
      | none, none => throw .execFormat
      | none, some (interpreter, options) =>
        machine.loadProgram process limit interpreter
          (interpreter :: options ++ path :: arguments.drop 1)
    | _ => throw .accessDenied

/-- The machine after a process has become another program. -/
def replaceProgram (machine : Machine α) (process : Process α) (path : String) (image : Image) :
    Except Errno (Machine α) := do
  if image.arguments.any (fun word => word.utf8ByteSize > maxArgument)
      || image.room > maxArguments then
    throw .argumentsTooLong
  let (name, arguments) ← machine.loadProgram process maxScripts path image.arguments
  let program := (machine.programs name { image with arguments }).bind fun code =>
    Routine.exit (code : Int)
  return machine.putProcess { process with
    phase := .running program
    environment := image.environment
    slots := process.slots.filter fun slot => !slot.closeOnExec
    arrangements := process.arrangements.filter (·.2 = .ignored)
    caught := [] }

/-! ## Running -/

/-- The machine after a process has made a copy of itself. -/
def copyProcess (machine : Machine α) (process : Process α)
    (next : Except Errno ForkSide → Routine α) : Machine α :=
  let child := { process with
    pid := machine.nextPid
    parent := process.pid
    caught := []
    phase := .running (next (.ok .child)) }
  let machine := machine.putProcess
    { process with phase := .running (next (.ok (.parent child.pid))) }
  { machine with
    processes := machine.processes ++ [child], nextPid := machine.nextPid + 1 }

/-- What becomes of the machine when a process goes on; none if it cannot. -/
def advance (machine : Machine α) (process : Process α) : Option (Machine α) :=
  match process.phase with
  | .ended _ => none
  | .running (.done result) => some (machine.finish process result)
  | .running (.exit code) => some (machine.terminate process (.exited (code % 256).toNat))
  | .running (.call c next) =>
    if process.isStopped then none
    else
      match c, next with
      | .fork, next => some (machine.copyProcess process next)
      | .exec path image, next =>
        match machine.replaceProgram process path image with
        | .error errno => some (machine.putProcess { process with phase := .running (next errno) })
        | .ok machine => some machine
      | c, next =>
        match machine.answer process c with
        | .reply reply process machine =>
          some (machine.putProcess { process with phase := .running (next reply) })
        | .progress process machine => some (machine.putProcess process)
        | .blocked => none
        | .killed signal => some (machine.terminate process (.signaled signal))

/-- The machine after the oldest process that can go on has done so. -/
def step (machine : Machine α) : Option (Machine α) :=
  machine.processes.findSome? machine.advance

/-- The time at which the next sleeper wakes that is still to come. -/
def nextWake (machine : Machine α) : Option Nat :=
  (machine.processes.filterMap fun process =>
    match process.phase, process.isStopped with
    | .running _, false => process.wakeAt.filter (machine.clock < ·)
    | _, _ => none).min?

/-- Lets the machine go on until no process can, or for so many steps. -/
def run : Nat → Machine α → Machine α
  | 0, machine => machine
  | fuel + 1, machine =>
    match machine.step with
    | some machine => run fuel machine
    | none =>
      match machine.nextWake with
      | some time => run fuel { machine with clock := time }
      | none => machine

/-- What a machine is started with. -/
structure Setting where
  programs : String → Image → Routine Nat
  files : Files
  environment : Environment
  /-- What the first process finds on its standard input; none for the null device. -/
  input : Option ByteArray := none
  logger : Option Logger := none

/-- A machine with one process, whose standard output and standard error are the console.  It is
told of broken pipes and not ended by them. -/
def boot (setting : Setting) (routine : Routine α) : Machine α :=
  let null : Target :=
    match setting.files.find Files.root "/dev/null" with
    | .ok (id, _) => .node id
    | .error _ => .console false
  let (pipes, input) : Array Pipe × Target :=
    match setting.input with
    | some bytes => (#[⟨bytes, 0⟩], .readEnd 0)
    | none => (#[], null)
  { programs := setting.programs
    files := setting.files
    logger := setting.logger
    pipes := pipes
    handles := #[{ target := input, readable := true, writable := false },
      { target := .console false, readable := false, writable := true },
      { target := .console true, readable := false, writable := true }]
    processes := [{
      pid := firstPid
      parent := firstParent
      slots := [⟨standardInput, 0, false⟩, ⟨standardOutput, 1, false⟩, ⟨standardError, 2, false⟩]
      phase := .running routine
      environment := setting.environment
      directory := setting.files.workingDirectory
      arrangements := [(.pipe, .ignored)] }]
    nextPid := firstPid + 1 }

end Machine

end CommandShell
