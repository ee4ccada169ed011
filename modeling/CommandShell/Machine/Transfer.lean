import CommandShell.Machine.Process
set_option autoImplicit false

/-!
# Opening, reading and writing

A call on an open file is answered at once, or waits until another process has done something: a
reader for bytes, a writer for room in the pipe.
-/

namespace CommandShell.Machine

/-- What a call comes to for now. -/
inductive Answer (α : Type) (c : Call) where
  /-- The call is answered; process and machine have changed as given. -/
  | reply (reply : c.Reply) (process : Process α) (machine : Machine α)
  /-- The call goes on. -/
  | progress (process : Process α) (machine : Machine α)
  /-- Nothing can be done about the call before another process does something. -/
  | blocked
  /-- The call brings the process a signal that ends it. -/
  | killed (signal : Signal)

variable {α : Type}

/-! ## Opening -/

/-- The node that a path leads to, or that is created there. -/
def findToOpen (machine : Machine α) (process : Process α) (path : String) (mode : OpenMode) :
    Except Errno (NodeId × Bool × Files) := do
  match mode.creates with
  | none =>
    let (id, _) ← machine.files.find process.directory path
    return (id, false, machine.files)
  | some permissions =>
    if mode.exclusive then
      if let .ok _ := machine.files.find process.directory path false then throw .exists
    match ← machine.files.place process.directory path with
    | .found id =>
      if machine.files.isDirectory id then throw .isDirectory
      return (id, false, machine.files)
    | .missing directory name =>
      machine.files.checkChange directory
      let (id, files) := machine.files.create directory name
        ⟨.regular .empty, Files.withhold permissions process.mask, true, false⟩
      return (id, true, files)

/-- The permissions of a node allow it to be opened so. -/
def mayOpen (node : Node) (mode : OpenMode) : Bool :=
  (!mode.reads || node.permits .read) && (!(mode.writes || mode.truncates) || node.permits .write)

/-- Opens a target. -/
def openTarget (machine : Machine α) (process : Process α) (path : String) (mode : OpenMode)
    (target : Target) : Answer α (.openFile path mode) :=
  let (descriptor, opened, changed) := machine.openHandle process (.ofMode mode target)
  if process.allowsDescriptor descriptor then
    .reply (.ok descriptor) { opened with opening := none } changed
  else .reply (.error .tooManyOpenFiles) { process with opening := none } machine

/-- Opens a pipe that has a name, which waits for the other end. -/
def openNamedPipe (machine : Machine α) (process : Process α) (path : String) (mode : OpenMode)
    (pipe : Nat) : Answer α (.openFile path mode) :=
  let (mine, other) : Target × Target :=
    if mode.writes then (.writeEnd pipe, .readEnd pipe) else (.readEnd pipe, .writeEnd pipe)
  if machine.isHeld other then machine.openTarget process path mode mine
  else if process.opening = some mine then .blocked
  else .progress { process with opening := some mine } machine

/-- Opens what a descriptor of the process stands for once more. -/
def reopen (machine : Machine α) (process : Process α) (path : String) (mode : OpenMode)
    (descriptor : Descriptor) : Answer α (.openFile path mode) :=
  match machine.handle? process descriptor with
  | none => .reply (.error .noEntry) process machine
  | some (_, handle) =>
    match handle.target with
    | .node id =>
      match machine.files.node? id with
      | some node =>
        if !mayOpen node mode then .reply (.error .accessDenied) process machine
        else
          let files := if mode.truncates then machine.files.setBytes id .empty else machine.files
          { machine with files }.openTarget process path mode (.node id)
      | none => .reply (.error .noEntry) process machine
    | .readEnd pipe | .writeEnd pipe =>
      machine.openTarget process path mode (if mode.writes then .writeEnd pipe else .readEnd pipe)
    | .console isError => machine.openTarget process path mode (.console isError)

/-- Opens a file. -/
def openFile (machine : Machine α) (process : Process α) (path : String) (mode : OpenMode) :
    Answer α (.openFile path mode) :=
  match machine.findToOpen process path mode with
  | .error errno => .reply (.error errno) process machine
  | .ok (id, isNew, files) =>
    let refuse (errno : Errno) : Answer α (.openFile path mode) :=
      .reply (.error errno) process machine
    match files.node? id with
    | none => refuse .noEntry
    | some node =>
      match node.content with
      | .directory .. =>
        if mode.writes then refuse .isDirectory
        else if !mayOpen node mode then refuse .accessDenied
        else machine.openTarget process path mode (.node id)
      | .link _ => refuse .tooManyLinks
      | .descriptor number => machine.reopen process path mode number
      | .device .terminal => refuse .noDevice
      | .namedPipe pipe =>
        if !mayOpen node mode then refuse .accessDenied
        else machine.openNamedPipe process path mode pipe
      | .device _ | .regular _ =>
        if !isNew && !mayOpen node mode then refuse .accessDenied
        else
          let files := if mode.truncates then files.setBytes id .empty else files
          { machine with files }.openTarget process path mode (.node id)

/-- Opens a pipe. -/
def openPipe (machine : Machine α) (process : Process α) (nonblocking : Bool) :
    Answer α (.openPipe nonblocking) :=
  let (pipe, changed) := machine.addPipe
  let (read, opened, changed) := changed.openHandle process
    { target := .readEnd pipe, readable := true, writable := false, nonblocking }
  let (write, opened, changed) := changed.openHandle opened
    { target := .writeEnd pipe, readable := false, writable := true, nonblocking }
  if process.allowsDescriptor read && process.allowsDescriptor write then
    .reply (.ok (read, write)) opened changed
  else .reply (.error .tooManyOpenFiles) process machine

/-! ## Reading and writing -/

/-- Takes bytes from an open file. -/
def read (machine : Machine α) (process : Process α) (descriptor : Descriptor) (limit : Nat) :
    Answer α (.read descriptor limit) :=
  let answer (result : Except Errno ByteArray) (machine : Machine α) :
      Answer α (.read descriptor limit) := .reply result process machine
  match machine.handle? process descriptor with
  | none => answer (.error .badDescriptor) machine
  | some (id, handle) =>
    if !handle.readable then answer (.error .badDescriptor) machine
    else
      match handle.target with
      | .node node =>
        match (machine.files.node? node).map Node.content with
        | some (.regular bytes) =>
          let taken := bytes.extract handle.offset (handle.offset + limit)
          answer (.ok taken)
            (machine.setHandle id { handle with offset := handle.offset + taken.size })
        | some (.directory ..) => answer (.error .isDirectory) machine
        | some (.device .zero) | some (.device .full) => answer (.ok (Files.zeros limit)) machine
        | _ => answer (.ok .empty) machine
      | .readEnd number =>
        match machine.pipes[number]? with
        | none => answer (.ok .empty) machine
        | some pipe =>
          if pipe.size > 0 then
            let (taken, pipe) := pipe.take limit
            answer (.ok taken) (machine.setPipe number pipe)
          else if !machine.isHeld (.writeEnd number) then answer (.ok .empty) machine
          else if handle.nonblocking then answer (.error .tryAgain) machine
          else .blocked
      | _ => answer (.ok .empty) machine

/-- What becomes of a write that brings a signal, and an error if the process outlives that. -/
def refuseWrite (machine : Machine α) (process : Process α) (descriptor : Descriptor)
    (bytes : ByteArray) (signal : Signal) (errno : Errno) : Answer α (.write descriptor bytes) :=
  match process.arrangement signal with
  | .standard => .killed signal
  | .ignored => .reply (.error errno) { process with written := 0 } machine
  | .caught =>
    .reply (.error errno)
      { process with written := 0, caught := signal :: process.caught } machine

/-- Passes bytes to a regular file, as far as the limit for files allows. -/
def writeRegular (machine : Machine α) (process : Process α) (descriptor : Descriptor)
    (bytes : ByteArray) (id : Nat) (handle : Handle) (node : NodeId) (size : Nat) :
    Answer α (.write descriptor bytes) :=
  let offset := if handle.append then size else handle.offset
  let rest := bytes.extract process.written bytes.size
  let room := match (process.limit .fileSize).soft with
    | none => rest.size
    | some limit => min (limit - offset) rest.size
  if room = 0 && !rest.isEmpty then
    machine.refuseWrite process descriptor bytes .fileSize .fileTooLarge
  else
    let machine := { machine with
      files := machine.files.writeBytes node offset (rest.extract 0 room) }
    let machine := machine.setHandle id { handle with offset := offset + room }
    if room = rest.size then .reply (.ok ()) { process with written := 0 } machine
    else .progress { process with written := process.written + room } machine

/-- Passes bytes to an open file; what does not fit into a pipe waits. -/
def write (machine : Machine α) (process : Process α) (descriptor : Descriptor)
    (bytes : ByteArray) : Answer α (.write descriptor bytes) :=
  let answer (result : Except Errno Unit) (machine : Machine α) :
      Answer α (.write descriptor bytes) := .reply result { process with written := 0 } machine
  match machine.handle? process descriptor with
  | none => answer (.error .badDescriptor) machine
  | some (id, handle) =>
    if !handle.writable then answer (.error .badDescriptor) machine
    else
      match handle.target with
      | .node node =>
        match (machine.files.node? node).map Node.content with
        | some (.device .full) =>
          answer (if bytes.isEmpty then .ok () else .error .noSpace) machine
        | some (.regular old) =>
          machine.writeRegular process descriptor bytes id handle node old.size
        | _ => answer (.ok ()) machine
      | .readEnd _ => answer (.error .badDescriptor) machine
      | .writeEnd number =>
        if !machine.isHeld (.readEnd number) then
          machine.refuseWrite process descriptor bytes .pipe .brokenPipe
        else
          match machine.pipes[number]? with
          | none => answer (.ok ()) machine
          | some pipe =>
            let rest := bytes.size - process.written
            let room := min (Pipe.capacity - pipe.size) rest
            let machine := machine.setPipe number
              (pipe.add (bytes.extract process.written (process.written + room)))
            if room = rest then answer (.ok ()) machine
            else if room = 0 then .blocked
            else .progress { process with written := process.written + room } machine
      | .console isError =>
        answer (.ok ()) <|
          if isError then { machine with errors := machine.errors ++ bytes }
          else { machine with output := machine.output ++ bytes }

/-! ## Telling about open files -/

/-- What the system tells about a node. -/
def infoOf (id : NodeId) (node : Node) : NodeInfo :=
  { id, kind := node.kind, mode := node.mode, owned := node.owned, size := node.size }

/-- What the system tells about something that is no node. -/
def pipeInfo : NodeInfo := { id := 0, kind := .pipe, mode := 0o600, owned := true, size := 0 }

/-- What the system tells about an open file. -/
def targetInfo (machine : Machine α) (target : Target) : Option NodeInfo :=
  match target with
  | .node id => (machine.files.node? id).map (infoOf id)
  | _ => some pipeInfo

/-- What a descriptor stands for, and where a regular file is read or written next. -/
def describe (machine : Machine α) (process : Process α) (descriptor : Descriptor) :
    Except Errno (NodeInfo × Option Nat) :=
  match machine.handle? process descriptor with
  | none => .error .badDescriptor
  | some (_, handle) =>
    match machine.targetInfo handle.target with
    | none => .error .badDescriptor
    | some info =>
      .ok (info,
        if info.kind = .regular then some (if handle.append then info.size else handle.offset)
        else none)

/-- What a path leads to for a process. -/
def stat (machine : Machine α) (process : Process α) (path : String) (follow : Bool) :
    Except Errno NodeInfo := do
  let (id, node) ← machine.files.find process.directory path follow
  match node.content with
  | .descriptor number =>
    match machine.handle? process number with
    | none => throw .noEntry
    | some (_, handle) =>
      if !follow then return { infoOf id node with kind := .link }
      match machine.targetInfo handle.target with
      | some info => return info
      | none => throw .noEntry
  | _ => return infoOf id node

end CommandShell.Machine
