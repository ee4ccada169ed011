import CommandShell.Executor
import CommandShell.Path
import CommandShell.Text.Bytes
set_option autoImplicit false

/-!
# The file tree

Regular files, directories, symbolic links and a few devices, under one root.  A path is followed
name by name from a directory, links included.  Every process runs as the same ordinary user: what
belongs to that user is guarded by its owner's permissions, everything else by those for others.
-/

namespace CommandShell.Machine

/-- The number of a node of the file tree. -/
abbrev NodeId := Nat

/-- A device. -/
inductive Device where
  /-- Takes every byte and gives none. -/
  | null
  /-- Takes every byte and gives zeros. -/
  | zero
  /-- Takes no byte and gives zeros. -/
  | full
  /-- The terminal of the process, which has none. -/
  | terminal
  deriving DecidableEq

/-- What a node of the file tree is. -/
inductive Content where
  | regular (bytes : ByteArray)
  | directory (parent : NodeId) (entries : List (String × NodeId))
  | link (target : String)
  | device (device : Device)
  /-- A pipe with a name. -/
  | namedPipe (pipe : Nat)
  /-- What the process that asks knows by a descriptor. -/
  | descriptor (number : Nat)

/-- How a file begins that is a program of the system. -/
def imageHead : List UInt8 :=
  [0x7F, 0x45, 0x4C, 0x46, 2, 1, 1, 0, 0, 0, 0, 0, 0, 0, 0, 0, 3, 0, 0x3E, 0, 1, 0, 0, 0]

/-- What a file holds that is a program of the system: which one it is stands after the head, so
that a copy of the file is the same program. -/
def programImage (name : String) : ByteArray := ⟨imageHead.toArray⟩ ++ name.toUTF8

/-- The program of the system that a file is; none if it is no such file. -/
def imageName? (bytes : ByteArray) : Option String :=
  if (bytes.extract 0 imageHead.length).toList = imageHead then
    (String.fromUTF8? (bytes.extract imageHead.length bytes.size)).filter (· ≠ "")
  else none

/-- A node with its permissions; `owned` when it belongs to the user. -/
structure Node where
  content : Content
  mode : Nat
  owned : Bool
  /-- Nothing can be made in this directory, as if the names in it were all taken. -/
  isSealed : Bool := false

/-- The kinds of access that permissions speak of. -/
inductive Access where
  | read
  | write
  /-- Running a file, or looking up a name in a directory. -/
  | execute
  deriving DecidableEq

/-- The bit of an access in a set of permissions. -/
def Access.bit : Access → Nat
  | read => 4
  | write => 2
  | execute => 1

/-- What a node is, as far as the system tells. -/
inductive NodeKind where
  | regular
  | directory
  | link
  | device
  | pipe
  deriving DecidableEq

/-- What a path that leads to such a node leads to. -/
def NodeKind.fileKind : NodeKind → FileKind
  | regular => .file
  | directory => .directory
  | link | device | pipe => .other

namespace Node

/-- The permissions of a node allow an access. -/
def permits (node : Node) (access : Access) : Bool :=
  (if node.owned then node.mode >>> 6 else node.mode) &&& access.bit != 0

/-- What the node is. -/
def kind (node : Node) : NodeKind :=
  match node.content with
  | .regular _ => .regular
  | .directory .. => .directory
  | .link _ => .link
  | .device _ | .descriptor _ => .device
  | .namedPipe _ => .pipe

/-- A file that someone may run. -/
def isProgram (node : Node) : Bool := node.kind = .regular && node.mode &&& 0o111 != 0

/-- The size of a node in bytes. -/
def size (node : Node) : Nat :=
  match node.content with
  | .regular bytes => bytes.size
  | .directory .. => 4096
  | .link target => target.utf8ByteSize
  | .device _ | .namedPipe _ | .descriptor _ => 0

end Node

/-- The file tree. -/
structure Files where
  nodes : Array Node
  /-- The directory that holds the user's files. -/
  workingDirectory : NodeId

namespace Files

/-- The root of the tree. -/
def root : NodeId := 0

/-- The longest file name, in bytes. -/
def maxName : Nat := 255

/-- The longest path, in bytes. -/
def maxPath : Nat := 4095

/-- How many links may be followed on one path. -/
def maxLinks : Nat := 40

/-! ## Following paths -/

/-- The node with a number. -/
def node? (files : Files) (id : NodeId) : Option Node := files.nodes[id]?

/-- The node is a directory. -/
def isDirectory (files : Files) (id : NodeId) : Bool :=
  (files.node? id).any fun node => node.kind = .directory

/-- The target of a link. -/
def target? (files : Files) (id : NodeId) : Option String :=
  match files.node? id with
  | some ⟨.link target, _, _, _⟩ => some target
  | _ => none

/-- Where the first name of a path is looked up. -/
def start (here : NodeId) (path : String) : NodeId :=
  if Path.isAbsolute path then root else here

/-- The node of a directory in which names may be looked up. -/
def enter (files : Files) (directory : NodeId) : Except Errno Node :=
  match files.node? directory with
  | some node =>
    if node.kind ≠ .directory then .error .notDirectory
    else if !node.permits .execute then .error .accessDenied
    else .ok node
  | none => .error .noEntry

/-- What a name in a directory stands for; none if it stands for nothing. -/
def lookup (files : Files) (directory : NodeId) (name : String) :
    Except Errno (Option NodeId) := do
  match (← files.enter directory).content with
  | .directory parent entries =>
    if name = "." then return some directory
    else if name = ".." then return some parent
    else if name.utf8ByteSize > maxName then throw .nameTooLong
    else return entries.lookup name
  | _ => throw .notDirectory

/-- How far a path has been followed: all but its last name. -/
structure Trail where
  directory : NodeId
  /-- The last name; none if the path has no names. -/
  name : Option String
  /-- How many links may still be followed. -/
  links : Nat

/-- Follows all names but the last one from a directory. -/
def approach (files : Files) (links : Nat) (here : NodeId) : List String → Except Errno Trail
  | [] => .ok ⟨here, none, links⟩
  | [name] => (files.enter here).map fun _ => ⟨here, some name, links⟩
  | name :: next :: rest =>
    match files.lookup here name with
    | .error errno => .error errno
    | .ok none => .error .noEntry
    | .ok (some id) =>
      match files.target? id with
      | none => files.approach links id (next :: rest)
      | some target =>
        match links with
        | 0 => .error .tooManyLinks
        | links + 1 => files.approach links (start here target) (Path.names target ++ next :: rest)
  termination_by names => (links, names.length)

/-- Follows a path from a directory up to its last name. -/
def approachPath (files : Files) (here : NodeId) (path : String) : Except Errno Trail :=
  if path = "" then .error .noEntry
  else if path.utf8ByteSize > maxPath then .error .nameTooLong
  else files.approach maxLinks (start here path) (Path.names path)

/-- The node at the end of a trail.  A link there is followed if `follow` says so or a directory is
asked for; no more than `limit` links are. -/
def arrive (files : Files) (follow directory : Bool) : (limit : Nat) → Trail → Except Errno NodeId
  | 0, _ => .error .tooManyLinks
  | limit + 1, trail => do
    let some name := trail.name | return trail.directory
    let some id ← files.lookup trail.directory name | throw .noEntry
    match files.target? id with
    | some target =>
      if !follow && !directory then return id
      match trail.links with
      | 0 => throw .tooManyLinks
      | links + 1 =>
        let trail ← files.approach links (start trail.directory target) (Path.names target)
        files.arrive follow (directory || Path.asksForDirectory target) limit trail
    | none => if directory && !files.isDirectory id then throw .notDirectory else return id

/-- The node that a path leads to from a directory. -/
def find (files : Files) (here : NodeId) (path : String) (follow : Bool := true) :
    Except Errno (NodeId × Node) := do
  let trail ← files.approachPath here path
  let id ← files.arrive follow (Path.asksForDirectory path) (maxLinks + 1) trail
  match files.node? id with
  | some node => return (id, node)
  | none => throw .noEntry

/-- What a path leads to from the working directory.  A path with a NUL character leads to
nothing. -/
def kind? (files : Files) (path : String) : Option FileKind :=
  if path.contains '\x00' then none
  else
    (files.find files.workingDirectory (Text.held path)).toOption.map fun found =>
      found.2.kind.fileKind

/-- Where a file is to be that may have to be created. -/
inductive Place where
  | found (id : NodeId)
  /-- The last name stands for nothing. -/
  | missing (directory : NodeId) (name : String)
  deriving DecidableEq

/-- The place at the end of a trail.  A path that asks for a directory is refused. -/
def placeAt (files : Files) (directory : Bool) : (limit : Nat) → Trail → Except Errno Place
  | 0, _ => .error .tooManyLinks
  | limit + 1, trail => do
    let some name := trail.name | return .found trail.directory
    let isDots := name = "." || name = ".."
    if directory && !isDots then throw .isDirectory
    match ← files.lookup trail.directory name with
    | none => return .missing trail.directory name
    | some id =>
      match files.target? id, trail.links with
      | none, _ => return .found id
      | some _, 0 => throw .tooManyLinks
      | some target, links + 1 =>
        let trail ← files.approach links (start trail.directory target) (Path.names target)
        files.placeAt (Path.asksForDirectory target) limit trail

/-- The place of a file that may have to be created. -/
def place (files : Files) (here : NodeId) (path : String) : Except Errno Place := do
  files.placeAt (Path.asksForDirectory path) (maxLinks + 1) (← files.approachPath here path)

/-- The directory and the name of something that is to be made where there is nothing. -/
def vacancy (files : Files) (here : NodeId) (path : String) (forDirectory : Bool) :
    Except Errno (NodeId × String) := do
  let trail ← files.approachPath here path
  match trail.name with
  | none | some "." | some ".." => throw .exists
  | some name =>
    match ← files.lookup trail.directory name with
    | some _ => throw .exists
    | none =>
      if Path.asksForDirectory path && !forDirectory then throw .noEntry
      return (trail.directory, name)

/-- The directory, the name and the node at the end of a path, no link being followed there. -/
def entry (files : Files) (here : NodeId) (path : String) :
    Except Errno (NodeId × String × NodeId) := do
  let trail ← files.approachPath here path
  match trail.name with
  | none => throw .busy
  | some name =>
    match ← files.lookup trail.directory name with
    | some id => return (trail.directory, name, id)
    | none => throw .noEntry

/-! ## Changing the tree -/

/-- Adds a node to the tree, without a name. -/
def alloc (files : Files) (node : Node) : NodeId × Files :=
  (files.nodes.size, { files with nodes := files.nodes.push node })

/-- Replaces the entries of a directory. -/
def mapEntries (files : Files) (directory : NodeId)
    (change : List (String × NodeId) → List (String × NodeId)) : Files :=
  { files with nodes := files.nodes.modify directory fun node =>
      match node.content with
      | .directory parent entries => { node with content := .directory parent (change entries) }
      | _ => node }

/-- Puts a node into a directory under a name, in place of what has that name. -/
def bind (files : Files) (directory : NodeId) (name : String) (id : NodeId) : Files :=
  files.mapEntries directory fun entries => entries.filter (·.1 ≠ name) ++ [(name, id)]

/-- Takes a name out of a directory. -/
def unbind (files : Files) (directory : NodeId) (name : String) : Files :=
  files.mapEntries directory fun entries => entries.filter (·.1 ≠ name)

/-- Names may be added to a directory and taken out of it. -/
def checkChange (files : Files) (directory : NodeId) : Except Errno Unit :=
  match files.node? directory with
  | none => .error .noEntry
  | some node =>
    if node.isSealed then .error .noEntry
    else if node.permits .write && node.permits .execute then .ok ()
    else .error .accessDenied

/-- Adds a node to a directory under a name. -/
def create (files : Files) (directory : NodeId) (name : String) (node : Node) : NodeId × Files :=
  let (id, files) := files.alloc node
  (id, files.bind directory name id)

/-- The bytes of a regular file. -/
def bytes (files : Files) (id : NodeId) : ByteArray :=
  match files.node? id with
  | some ⟨.regular bytes, _, _, _⟩ => bytes
  | _ => .empty

/-- Replaces the bytes of a regular file. -/
def setBytes (files : Files) (id : NodeId) (bytes : ByteArray) : Files :=
  { files with nodes := files.nodes.modify id fun node =>
      match node.content with
      | .regular _ => { node with content := .regular bytes }
      | _ => node }

/-- Zero bytes. -/
def zeros (count : Nat) : ByteArray := ⟨Array.replicate count 0⟩

/-- Writes bytes into a regular file from an offset on. -/
def writeBytes (files : Files) (id : NodeId) (offset : Nat) (new : ByteArray) : Files :=
  let old := files.bytes id
  files.setBytes id ((old.extract 0 offset ++ zeros (offset - old.size)) ++ new
    ++ old.extract (offset + new.size) old.size)

/-- The permissions of a new file, before those that the process withholds. -/
def newFileMode : Nat := 0o666

/-- The permissions of a new directory, before those that the process withholds. -/
def newDirectoryMode : Nat := 0o777

/-- The permissions that a process withholds from what it makes, unless it says otherwise. -/
def usualMask : Nat := 0o022

/-- Permissions without some of them. -/
def withhold (mode mask : Nat) : Nat := mode &&& (0o7777 ^^^ mask)

/-- Makes a directory where there is nothing. -/
def makeDirectory (files : Files) (here : NodeId) (path : String) (mode : Nat) :
    Except Errno Files := do
  let (directory, name) ← files.vacancy here path true
  files.checkChange directory
  return (files.create directory name ⟨.directory directory [], mode, true, false⟩).2

/-- Makes something that is no directory where there is nothing. -/
def makeNode (files : Files) (here : NodeId) (path : String) (node : Node) :
    Except Errno Files := do
  let (directory, name) ← files.vacancy here path false
  files.checkChange directory
  return (files.create directory name node).2

/-- Gives a node one more name. -/
def makeName (files : Files) (here : NodeId) (old new : String) : Except Errno Files := do
  let (id, node) ← files.find here old false
  let (directory, name) ← files.vacancy here new false
  files.checkChange directory
  if node.kind = .directory then throw .notPermitted
  return files.bind directory name id

/-- Takes the file at a path out of its directory. -/
def removeFile (files : Files) (here : NodeId) (path : String) : Except Errno Files := do
  let (directory, name, id) ← (files.entry here path).mapError fun errno =>
    if errno = .busy then .isDirectory else errno
  if name = "." || name = ".." then throw .isDirectory
  if Path.asksForDirectory path then
    throw (if files.isDirectory id then .isDirectory else .notDirectory)
  files.checkChange directory
  if files.isDirectory id then throw .isDirectory
  return files.unbind directory name

/-- Takes the empty directory at a path out of the directory above. -/
def removeDirectory (files : Files) (here : NodeId) (path : String) : Except Errno Files := do
  let (directory, name, id) ← files.entry here path
  if name = "." then throw .invalidArgument
  if name = ".." then throw .directoryNotEmpty
  files.checkChange directory
  match (files.node? id).map Node.content with
  | some (.directory _ []) => return files.unbind directory name
  | some (.directory _ (_ :: _)) => throw .directoryNotEmpty
  | _ => throw .notDirectory

/-- A directory lies below another one, or is that one; at most so many steps are taken up. -/
def isBelow (files : Files) (above : NodeId) : Nat → NodeId → Bool
  | 0, _ => false
  | fuel + 1, id =>
    id = above ||
      match files.node? id with
      | some ⟨.directory parent _, _, _, _⟩ => parent ≠ id && files.isBelow above fuel parent
      | _ => false

/-- Gives what is at a path another name, in place of what has that name. -/
def rename (files : Files) (here : NodeId) (old new : String) : Except Errno Files := do
  let special (name : String) : Bool := name = "." || name = ".."
  let source ← files.approachPath here old
  let goal ← files.approachPath here new
  match source.name, goal.name with
  | some oldName, some newName =>
    if special oldName || special newName then throw .busy
    let some id ← files.lookup source.directory oldName | throw .noEntry
    let there ← files.lookup goal.directory newName
    let isDirectory := files.isDirectory id
    if !isDirectory && (Path.asksForDirectory old || Path.asksForDirectory new) then
      throw .notDirectory
    if isDirectory && files.isBelow id files.nodes.size goal.directory then throw .invalidArgument
    files.checkChange source.directory
    files.checkChange goal.directory
    if there = some id then return files
    if let some other := there then
      if files.isDirectory other then
        if !isDirectory then throw .isDirectory
        if let some ⟨.directory _ (_ :: _), _, _, _⟩ := files.node? other then
          throw .directoryNotEmpty
      else if isDirectory then throw .notDirectory
    let files := (files.unbind source.directory oldName).bind goal.directory newName id
    return { files with nodes := files.nodes.modify id fun node =>
        match node.content with
        | .directory _ entries =>
          { node with content := .directory goal.directory entries }
        | _ => node }
  | _, _ => throw .busy

/-- Changes the permissions of what a path leads to. -/
def setMode (files : Files) (here : NodeId) (path : String) (mode : Nat) : Except Errno Files := do
  let (id, node) ← files.find here path
  if !node.owned then throw .notPermitted
  return { files with nodes := files.nodes.modify id fun node => { node with mode } }

/-- The names in a directory with their nodes, in no particular order. -/
def entries (files : Files) (here : NodeId) (path : String) :
    Except Errno (List (String × NodeId)) := do
  match ← files.find here path with
  | (_, node@⟨.directory _ entries, _, _, _⟩) =>
    if node.permits .read then return entries else throw .accessDenied
  | _ => throw .notDirectory

/-- How many names stand for a node. -/
def linkCount (files : Files) (id : NodeId) : Nat :=
  files.nodes.foldl (fun count node =>
    match node.content with
    | .directory _ entries => count + (entries.filter (·.2 = id)).length
    | _ => count) 0

/-- The path from the root to a directory; at most so many steps are taken up. -/
def pathTo (files : Files) (directory : NodeId) : Nat → String
  | 0 => ""
  | fuel + 1 =>
    if directory = root then "/"
    else
      match files.node? directory with
      | some ⟨.directory parent _, _, _, _⟩ =>
        match files.node? parent with
        | some ⟨.directory _ entries, _, _, _⟩ =>
          let name := ((entries.find? (·.2 = directory)).map Prod.fst).getD ""
          Path.join (files.pathTo parent fuel) name
        | _ => ""
      | _ => ""

/-! ## Filling a tree -/

/-- Makes the directories on the way to a path, and gives the last one with the last name. -/
def makeParents (files : Files) (here : NodeId) : List String → Option (NodeId × String × Files)
  | [] => none
  | [name] => some (here, name, files)
  | name :: rest =>
    match files.find here name with
    | .ok (id, _) => files.makeParents id rest
    | .error _ =>
      let (id, files) := files.create here name
        ⟨.directory here [], withhold newDirectoryMode usualMask, true, false⟩
      files.makeParents id rest

/-- Puts a node at a path, and makes the directories on the way to it. -/
def put (files : Files) (path : String) (node : NodeId → Node) : Files :=
  let path := Text.held path
  match files.makeParents (start files.workingDirectory path) (Path.names path) with
  | some (directory, name, files) => (files.create directory name (node directory)).2
  | none => files

/-- Puts a regular file at a path; a link there is followed.  Without a mode, a file that is there
keeps its own. -/
def putFile (files : Files) (path : String) (bytes : ByteArray) (mode : Option Nat := none) :
    Files :=
  match files.find files.workingDirectory (Text.held path) with
  | .ok (id, node@⟨.regular _, _, _, _⟩) =>
    let node : Node := { node with content := .regular bytes, mode := mode.getD node.mode }
    { files with nodes := files.nodes.setIfInBounds id node }
  | _ =>
    let mode := mode.getD (withhold newFileMode usualMask)
    files.put path fun _ => ⟨.regular bytes, mode, true, false⟩

/-- Puts an empty directory at a path, unless there is one.  A mode that is given counts for that
one too. -/
def putDirectory (files : Files) (path : String) (mode : Option Nat := none) : Files :=
  match files.find files.workingDirectory (Text.held path) with
  | .ok (id, node) =>
    let node : Node := { node with mode := mode.getD node.mode }
    { files with nodes := files.nodes.setIfInBounds id node }
  | .error _ =>
    let mode := mode.getD (withhold newDirectoryMode usualMask)
    files.put path fun parent => ⟨.directory parent [], mode, true, false⟩

/-- Puts a symbolic link at a path. -/
def putLink (files : Files) (path target : String) : Files :=
  files.put path fun _ => ⟨.link (Text.held target), 0o777, true, false⟩

/-- The directories of the system that a path is likely to name. -/
def systemDirectories : List String :=
  ["/usr", "/usr/bin", "/usr/lib", "/usr/local", "/usr/local/bin", "/usr/sbin", "/usr/share",
    "/dev", "/dev/pts", "/etc", "/home", "/mnt", "/opt", "/run", "/srv", "/sys", "/sys/class",
    "/sys/dev", "/sys/kernel", "/var", "/var/lib", "/var/log"]

/-- The directories that everyone may write to. -/
def sharedDirectories : List String := ["/tmp", "/var/tmp", "/dev/shm"]

/-- The directories of processes, in which nothing can be made. -/
def processDirectories : List String :=
  ["/proc", "/proc/1", "/proc/self", "/proc/self/fd", "/proc/sys", "/proc/sys/kernel"]

/-- The files of the system that a path is likely to name. -/
def systemFiles : List String :=
  ["/etc/passwd", "/etc/group", "/etc/hosts", "/etc/hostname", "/etc/profile", "/etc/resolv.conf",
    "/proc/cpuinfo", "/proc/meminfo", "/proc/uptime", "/proc/version", "/proc/self/cmdline",
    "/proc/self/environ", "/proc/self/status"]

/-- The links of the system that a path is likely to name, with what they lead to. -/
def systemLinks : List (String × String) :=
  [("/bin", "usr/bin"), ("/lib", "usr/lib"), ("/sbin", "usr/sbin"), ("/dev/fd", "/proc/self/fd"),
    ("/dev/stdin", "/proc/self/fd/0"), ("/dev/stdout", "/proc/self/fd/1"),
    ("/dev/stderr", "/proc/self/fd/2")]

/-- The devices of the system that a path is likely to name. -/
def systemDevices : List (String × Device) :=
  [("/dev/null", .null), ("/dev/zero", .zero), ("/dev/full", .full), ("/dev/tty", .terminal),
    ("/dev/random", .zero), ("/dev/urandom", .zero)]

/-- How many descriptors have a file in the directory of the process. -/
def shownDescriptors : Nat := 64

/-- Where programs are found when nothing else is said. -/
def systemPath : String := "/usr/bin:/bin"

/-- The tree before the user adds to it: a system with the given programs, and an empty working
directory that belongs to the user. -/
def base (utilities : List String) : Files :=
  let system (content : Content) (mode : Nat) (isSealed : Bool := false) : Node :=
    ⟨content, mode, false, isSealed⟩
  let files : Files := ⟨#[system (.directory root []) 0o755], root⟩
  let files := systemDirectories.foldl (fun files path =>
    files.put path fun parent => system (.directory parent []) 0o755) files
  let files := processDirectories.foldl (fun files path =>
    files.put path fun parent => system (.directory parent []) 0o555 true) files
  let files := sharedDirectories.foldl (fun files path =>
    files.put path fun parent => system (.directory parent []) 0o777) files
  let files := files.put "/root" fun parent => system (.directory parent []) 0o700
  let files := systemFiles.foldl (fun files path =>
    files.put path fun _ => system (.regular .empty) 0o444) files
  let files := systemDevices.foldl (fun files (path, device) =>
    files.put path fun _ => system (.device device) 0o666) files
  let files := systemLinks.foldl (fun files (path, target) =>
    files.put path fun _ => system (.link target) 0o777) files
  let files := (List.range shownDescriptors).foldl (fun files number =>
    files.put ("/proc/self/fd/" ++ toString number) fun _ =>
      system (.descriptor number) 0o700) files
  let files := utilities.foldl (fun files name =>
    files.put ("/usr/bin/" ++ name) fun _ => system (.regular (programImage name)) 0o755) files
  let files := files.put "/tmp/work" fun parent => ⟨.directory parent [], 0o755, true, false⟩
  match files.find root "/tmp/work" with
  | .ok (id, _) => { files with workingDirectory := id }
  | .error _ => files

/-- The regular files below a directory by path, name by name in order; a subdirectory's files
stand at its name's place.  Links are left out.  A file or directory that may not be read is a
refusal. -/
def listBelow (files : Files) (fuel : Nat) (here : NodeId) (above : String) :
    Except Errno (List (String × ByteArray)) :=
  match fuel, files.node? here with
  | fuel + 1, some node@⟨.directory _ entries, _, _, _⟩ => do
    if !(node.permits .read && node.permits .execute) then throw .accessDenied
    let parts ← (entries.mergeSort fun a b => a.1 ≤ b.1).mapM fun (name, id) =>
      match files.node? id with
      | some node@⟨.regular bytes, _, _, _⟩ =>
        if node.permits .read then .ok [(above ++ name, bytes)] else .error .accessDenied
      | some ⟨.directory .., _, _, _⟩ => files.listBelow fuel id (above ++ name ++ "/")
      | _ => .ok []
    return parts.flatten
  | _, _ => .ok []

/-- The regular files below the working directory. -/
def list (files : Files) : Except Errno (List (String × ByteArray)) :=
  files.listBelow files.nodes.size files.workingDirectory ""

end Files

end CommandShell.Machine
