import CommandShell.Machine.Program.Basic
import CommandShell.Path
set_option autoImplicit false

/-!
# Programs that make and remove files

They make files, directories, links and pipes, change permissions, and take files away, with what is
below them if they are asked to.
-/

namespace CommandShell.Machine.Program

/-! ## Complaints -/

/-- Complains about what could not be done to a file, and why. -/
def complainOfPath (name what path : String) (errno : Errno) : Routine Unit :=
  complain name (what ++ " " ++ quotedAlways path ++ ": " ++ errno.description)

/-- Does something to each of several paths; says whether everything succeeded. -/
def allOf (use : String → Routine Bool) : List String → Routine Bool
  | [] => return true
  | path :: rest => do
    let first ← use path
    let others ← allOf use rest
    return first && others

/-- Says what was done, if that is asked for. -/
def tell (name : String) (wanted : Bool) (text : String) : Routine Unit := do
  if wanted then putText name (text ++ "\n")

/-- How deep a tree of directories is followed at most. -/
def maxDepth : Nat := 1000

/-- The path of a name in a directory. -/
def below (directory name : String) : String :=
  if directory.endsWith "/" then directory ++ name else directory ++ "/" ++ name

/-- A name that a directory has for itself or for the one above. -/
def isDots (path : String) : Bool := [".", ".."].contains (Path.lastName path)

/-! ## Permissions -/

/-- What an operator of a change of permissions gives. -/
inductive Grant where
  | bits (bits : Nat)
  /-- Running, if it is a directory or somebody may run it. -/
  | runIfAny (bits : Nat)
  /-- The permissions that the owner, the group or the others have. -/
  | copied (shift : Nat)

/-- One operator of a change of permissions. -/
structure ModeChange where
  /-- The bits that are spoken of; none for all but those that the process withholds. -/
  affected : Nat
  operator : Char
  grant : Grant

namespace ModeChange

/-- All bits of a set of permissions. -/
def allBits : Nat := 0o7777

/-- The bits that a letter before an operator speaks of. -/
def affectedBy : Char → Nat
  | 'u' => 0o4700
  | 'g' => 0o2070
  | 'o' => 0o1007
  | _ => allBits

/-- The bits that a letter after an operator gives. -/
def bitsOf : Char → Nat
  | 'r' => 0o444
  | 'w' => 0o222
  | 'x' => 0o111
  | 's' => 0o6000
  | 't' => 0o1000
  | _ => 0

/-- Permissions after the change. -/
def apply (isDirectory : Bool) (mask mode : Nat) (change : ModeChange) : Nat :=
  let value := match change.grant with
    | .bits bits => bits
    | .runIfAny bits => if isDirectory || mode &&& 0o111 != 0 then bits ||| 0o111 else bits
    | .copied shift => ((mode >>> shift) &&& 7) * 0o111
  let scope := if change.affected = 0 then allBits ^^^ mask else change.affected
  let value := value &&& scope
  match change.operator with
  | '+' => mode ||| value
  | '-' => mode &&& (allBits ^^^ value)
  | _ => (if change.affected = 0 then 0 else mode &&& (allBits ^^^ change.affected)) ||| value

/-- What the letters after an operator give. -/
def grantOf (letters : List Char) : Grant :=
  match letters with
  | ['u'] => .copied 6
  | ['g'] => .copied 3
  | ['o'] => .copied 0
  | _ =>
    let bits := letters.foldl (fun (bits : Nat) letter => bits ||| bitsOf letter) 0
    if letters.contains 'X' then .runIfAny bits else .bits bits

/-- The operators of one part of a symbolic change. -/
def readOperators (affected : Nat) : (fuel : Nat) → List Char → Option (List ModeChange)
  | _, [] => some []
  | 0, _ => none
  | fuel + 1, operator :: rest =>
    if operator ≠ '+' && operator ≠ '-' && operator ≠ '=' then none
    else
      let letters := match rest with
        | c :: _ => if "ugo".contains c then [c] else rest.takeWhile fun c => "rwxXst".contains c
        | [] => []
      (readOperators affected fuel (rest.drop letters.length)).map fun changes =>
        ⟨affected, operator, grantOf letters⟩ :: changes

/-- One part of a symbolic change. -/
def readPart (part : List Char) : Option (List ModeChange) :=
  let who := part.takeWhile fun c => "ugoa".contains c
  let affected := who.foldl (fun (bits : Nat) letter => bits ||| affectedBy letter) 0
  match part.drop who.length with
  | [] => none
  | operators => readOperators affected (operators.length + 1) operators

/-- Understands a change of permissions: octal digits or symbols. -/
def read (text : String) : Option (List ModeChange) :=
  let digits := text.toList
  if text ≠ "" && digits.all fun c => '0' ≤ c && c ≤ '7' then
    let value := digits.foldl (fun (n : Nat) c => 8 * n + (c.toNat - '0'.toNat)) 0
    if value ≤ allBits then some [⟨allBits, '=', .bits value⟩] else none
  else ((text.splitOn ",").mapM fun part => readPart part.toList).map List.flatten

/-- Permissions after several changes. -/
def applyAll (changes : List ModeChange) (isDirectory : Bool) (mask mode : Nat) : Nat :=
  changes.foldl (apply isDirectory mask) mode

end ModeChange

/-- The permissions that the process withholds. -/
def currentMask : Routine Nat := do
  let mask ← perform (.setMask 0)
  let _ ← perform (.setMask mask)
  return mask

/-- Four octal digits. -/
def modeDigits (mode : Nat) : String :=
  (Nat.digitChar (mode / 512 % 8)).toString ++ octalDigits (mode % 512)

/-- Permissions as letters. -/
def modeLetters (mode : Nat) : String :=
  let triple (shift special : Nat) (letter : Char) : List Char :=
    let bits := mode >>> shift
    let runs := bits &&& 1 != 0
    [if bits &&& 4 != 0 then 'r' else '-', if bits &&& 2 != 0 then 'w' else '-',
      if mode &&& special != 0 then (if runs then letter else letter.toUpper)
      else if runs then 'x' else '-']
  String.ofList (triple 6 0o4000 's' ++ triple 3 0o2000 's' ++ triple 0 0o1000 't')

/-- What `chmod` is asked for. -/
structure ModeRequest where
  name : String
  changes : List ModeChange
  mask : Nat
  recursive : Bool
  quiet : Bool
  tellsChanges : Bool
  tellsAll : Bool

/-- Changes the permissions at a path, and of what is below it if that is asked for. -/
def changeMode (request : ModeRequest) : (fuel : Nat) → (path : String) → Routine Bool
  | 0, _ => return true
  | fuel + 1, path => do
    let refuse (what : String) (errno : Errno) : Routine Bool := do
      if !request.quiet then complainOfPath request.name what path errno
      return false
    match ← perform (.stat path true) with
    | .error errno =>
      if errno = .noEntry && (← perform (.stat path false)).toOption.isSome then
        if !request.quiet then
          complain request.name ("cannot operate on dangling symlink " ++ quotedAlways path)
        return false
      refuse "cannot access" errno
    | .ok info =>
      let isDirectory := info.kind = .directory
      let old := info.mode &&& ModeChange.allBits
      let mode := ModeChange.applyAll request.changes isDirectory request.mask old
      match ← perform (.setMode path mode) with
      | .error errno => refuse "changing permissions of" errno
      | .ok () =>
        let shown (mode : Nat) : String := modeDigits mode ++ " (" ++ modeLetters mode ++ ")"
        if mode ≠ old then
          tell request.name (request.tellsChanges || request.tellsAll)
            ("mode of " ++ quotedAlways path ++ " changed from " ++ shown old ++ " to "
              ++ shown mode)
        else
          tell request.name request.tellsAll
            ("mode of " ++ quotedAlways path ++ " retained as " ++ shown mode)
        if !(request.recursive && isDirectory) then return true
        match ← perform (.entries path) with
        | .error errno => refuse "cannot read directory" errno
        | .ok entries =>
          let names := (entries.filter (·.2 ≠ .link)).map Prod.fst
          allOf (changeMode request fuel) (names.map (below path))

/-- The options of `chmod`.  A change may begin with a minus sign. -/
def chmodOptions : OptionTable :=
  { letters := OptionTable.flags "Rcfvrwxst" ++ OptionTable.flags "X"
    words := [("recursive", .none, 'R'), ("changes", .none, 'c'), ("quiet", .none, 'f'),
      ("silent", .none, 'f'), ("verbose", .none, 'v')] }

/-- A word that looks like an option but is a change of permissions. -/
def isNegativeChange (word : String) : Bool :=
  match word.toList with
  | '-' :: c :: _ => "rwxXstugoa=+-,".contains c && !word.startsWith "--"
  | _ => false

/-- Changes the permissions of files. -/
def chmod : Program := fun image => do
  let name := image.name
  let negative := image.words.find? isNegativeChange
  let words := image.words.filter fun word => some word ≠ negative
  let parsed ← options chmodOptions name words
  let operands := negative.toList ++ parsed.operands
  match operands with
  | [] => missingOperand name
  | [change] =>
    complainOfUse name ("missing operand after " ++ quotedWord change)
    return 1
  | change :: paths =>
    match ModeChange.read change with
    | none =>
      complainOfUse name ("invalid mode: " ++ quotedWord change)
      return 1
    | some changes =>
      let request : ModeRequest :=
        { name, changes, mask := ← currentMask, recursive := parsed.has 'R'
          quiet := parsed.has 'f', tellsChanges := parsed.has 'c', tellsAll := parsed.has 'v' }
      return codeOf (← allOf (changeMode request maxDepth) paths)

/-! ## Making -/

/-- Makes a directory, and tells about it. -/
def makeOne (name : String) (verbose : Bool) (mode : Nat) (path : String) :
    Routine (Except Errno Unit) := do
  let result ← perform (.makeDirectory path mode)
  if result.toOption.isSome then
    tell name verbose ("created directory " ++ quotedAlways path)
  return result

/-- The paths of the directories on the way to a path, the first one first. -/
def pathsAbove (path : String) : List String :=
  let names := Path.names path
  let first := if Path.isAbsolute path then "/" else ""
  (List.range (names.length - 1)).map fun i =>
    first ++ "/".intercalate (names.take (i + 1))

/-- Makes the directories on the way to a path that are missing. -/
def makeAbove (name : String) (verbose : Bool) : List String → Routine Bool
  | [] => return true
  | path :: rest => do
    match ← makeOne name verbose Files.newDirectoryMode path with
    | .ok () => makeAbove name verbose rest
    | .error errno =>
      match ← perform (.stat path true) with
      | .ok info =>
        if info.kind = .directory then makeAbove name verbose rest
        else
          complainOfPath name "cannot create directory" path .notDirectory
          return false
      | .error _ =>
        complainOfPath name "cannot create directory" path errno
        return false

/-- Makes directories. -/
def mkdir : Program := fun image => do
  let name := image.name
  let parsed ← options
    { letters := OptionTable.flags "pv" ++ OptionTable.valued "m"
      words := [("parents", .none, 'p'), ("verbose", .none, 'v'), ("mode", .required, 'm')] }
    name image.words
  if parsed.operands.isEmpty then missingOperand name
  let verbose := parsed.has 'v'
  let mode ←
    match parsed.value? 'm' with
    | none => pure none
    | some text =>
      match ModeChange.read text with
      | some changes =>
        pure (some (ModeChange.applyAll changes true (← currentMask) Files.newDirectoryMode))
      | none =>
        complain name ("invalid mode " ++ quotedWord text)
        quit 1
  let make (path : String) : Routine Bool := do
    if parsed.has 'p' && !(← makeAbove name verbose (pathsAbove path)) then return false
    match ← makeOne name verbose (mode.getD Files.newDirectoryMode) path with
    | .ok () =>
      if let some mode := mode then
        let _ ← perform (.setMode path mode)
      return true
    | .error errno =>
      let isThere := ((← perform (.stat path true)).toOption.any fun info => info.kind = .directory)
      if parsed.has 'p' && isThere then return true
      complainOfPath name "cannot create directory" path errno
      return false
  return codeOf (← allOf make parsed.operands)

/-- Makes pipes with names. -/
def mkfifo : Program := fun image => do
  let parsed ← options
    { letters := OptionTable.valued "m", words := [("mode", .required, 'm')] }
    image.name image.words
  if parsed.operands.isEmpty then missingOperand image.name
  let make (path : String) : Routine Bool := do
    match ← perform (.makePipe path Files.newFileMode) with
    | .ok () => return true
    | .error errno =>
      complainOfPath image.name "cannot create fifo" path errno
      return false
  return codeOf (← allOf make parsed.operands)

/-- Brings the time of a file up to date, and makes the file if it is not there and `creates`. -/
def touchOne (name : String) (creates : Bool) (path : String) : Routine Bool := do
  let found ← perform (.stat path true)
  match found with
  | .ok info =>
    if info.owned || info.permits .write then return true
    complainOfPath name "cannot touch" path .accessDenied
    return false
  | .error errno =>
    if !creates then
      if errno = .noEntry then return true
      complainOfPath name "setting times of" path errno
      return false
    if Path.asksForDirectory path then
      complainOfPath name "setting times of" path errno
      return false
    match ← perform (.openFile path { writes := true, creates := some Files.newFileMode }) with
    | .ok descriptor =>
      let _ ← perform (.close descriptor)
      return true
    | .error errno =>
      complainOfPath name "cannot touch" path errno
      return false

/-- Brings the times of files up to date, and makes those that are not there. -/
def touch : Program := fun image => do
  let name := image.name
  let parsed ← options
    { letters := OptionTable.flags "acfhm" ++ OptionTable.valued "drt"
      words := [("no-create", .none, 'c'), ("no-dereference", .none, 'h'),
        ("date", .required, 'd'), ("reference", .required, 'r'), ("time", .required, 'm')] }
    name image.words
  if parsed.operands.isEmpty then
    complainOfUse name "missing file operand"
    return 1
  let creates := !(parsed.has 'c' || parsed.has 'h')
  let touchPath (path : String) : Routine Bool := do
    if path = "-" then return true
    touchOne name creates path
  return codeOf (← allOf touchPath parsed.operands)

/-- The size that a word asks for, given the size that a file has. -/
def newSize? (word : String) (old : Nat) : Option Nat :=
  match word.toList with
  | '+' :: digits => (natural? (String.ofList digits)).map (old + ·)
  | '-' :: digits => (natural? (String.ofList digits)).map (old - ·)
  | digits => natural? (String.ofList digits)

/-- Gives files a size. -/
def truncate : Program := fun image => do
  let name := image.name
  let parsed ← options
    { letters := OptionTable.flags "co" ++ OptionTable.valued "rs"
      words := [("no-create", .none, 'c'), ("size", .required, 's'),
        ("reference", .required, 'r')] }
    name image.words
  let some word := parsed.value? 's' | do
    complainOfUse name "you must specify either '--size' or '--reference'"
    return 1
  if parsed.operands.isEmpty then
    complainOfUse name "missing file operand"
    return 1
  if (newSize? word 0).isNone then
    complain name ("Invalid number: " ++ quotedWord word)
    return 1
  let cut (path : String) : Routine Bool := do
    let old := (← readFile path).toOption.getD .empty
    let size := (newSize? word old.size).getD 0
    let creates := if parsed.has 'c' then none else some Files.newFileMode
    match ← perform (.openFile path { writes := true, truncates := true, creates }) with
    | .error .noEntry => do
      if parsed.has 'c' then return true
      complain name ("cannot open " ++ quotedAlways path ++ " for writing: "
        ++ Errno.noEntry.description)
      return false
    | .error errno =>
      complain name ("cannot open " ++ quotedAlways path ++ " for writing: " ++ errno.description)
      return false
    | .ok descriptor =>
      let bytes := old.extract 0 size ++ Files.zeros (size - old.size)
      let _ ← perform (.write descriptor bytes)
      let _ ← perform (.close descriptor)
      return true
  return codeOf (← allOf cut parsed.operands)

/-! ## Links -/

/-- What `ln` is asked for. -/
structure LinkRequest where
  name : String
  symbolic : Bool
  force : Bool
  verbose : Bool

/-- The wording of a failure to make a link. -/
def LinkRequest.failure (request : LinkRequest) (source path : String) (errno : Errno) : String :=
  let what :=
    if request.symbolic then
      "failed to create symbolic link " ++ quotedAlways path
        ++ (if errno = .nameTooLong || source = "" then " -> " ++ quotedAlways source else "")
    else
      "failed to create hard link " ++ quotedAlways path
        ++ (if errno = .exists || errno = .noSpace then "" else " => " ++ quotedAlways source)
  what ++ ": " ++ errno.description

/-- Makes a link at a path. -/
def makeLinkAt (request : LinkRequest) (source path : String) : Routine Bool := do
  let refuse (text : String) : Routine Bool := do
    complain request.name text
    return false
  let isMissing ←
    if request.symbolic then pure none
    else
      match ← perform (.stat source false) with
      | .error errno => pure (some ("failed to access " ++ quotedAlways source ++ ": "
          ++ errno.description))
      | .ok info =>
        pure <| if info.kind = .directory then
          some (quotedBeforeColon source ++ ": hard link not allowed for directory") else none
  if let some text := isMissing then return ← refuse text
  if request.force then
    if let .ok info ← perform (.stat path false) then
      if info.kind = .directory then
        return ← refuse (quotedBeforeColon path ++ ": cannot overwrite directory")
      let other ← perform (.stat source (!request.symbolic))
      if other.toOption.any fun other => other.id = info.id then
        return ← refuse (quotedAlways source ++ " and " ++ quotedAlways path
          ++ " are the same file")
      let _ ← perform (.remove path)
  let result ←
    if request.symbolic then perform (.makeLink source path)
    else perform (.makeName source path)
  match result with
  | .error errno => refuse (request.failure source path errno)
  | .ok () =>
    tell request.name request.verbose
      (quotedAlways path ++ (if request.symbolic then " -> " else " => ") ++ quotedAlways source)
    return true

/-- The kind of what a path leads to, or why it leads nowhere. -/
def kindAt (path : String) (follow : Bool := true) : Routine (Except Errno NodeKind) := do
  return (← perform (.stat path follow)).map NodeInfo.kind

/-- Why a path leads to no directory; none if it does. -/
def directoryFault (path : String) (follow : Bool := true) : Routine (Option Errno) := do
  return match ← kindAt path follow with
    | .ok .directory => none
    | .ok _ => some .notDirectory
    | .error errno => some errno

/-- Makes links. -/
def ln : Program := fun image => do
  let name := image.name
  let parsed ← options
    { letters := OptionTable.flags "sfvniTPLr" ++ OptionTable.valued "t"
      words := [("symbolic", .none, 's'), ("force", .none, 'f'), ("verbose", .none, 'v'),
        ("no-dereference", .none, 'n'), ("no-target-directory", .none, 'T'),
        ("target-directory", .required, 't'), ("relative", .none, 'r')] }
    name image.words
  let request : LinkRequest :=
    { name, symbolic := parsed.has 's', force := parsed.has 'f', verbose := parsed.has 'v' }
  let into (directory : String) (sources : List String) : Routine Nat := do
    return codeOf (← allOf (fun source =>
      makeLinkAt request source (below directory (Path.lastName source))) sources)
  match parsed.value? 't', parsed.operands with
  | _, [] =>
    complainOfUse name "missing file operand"
    return 1
  | some directory, sources => into directory sources
  | none, [source] => into "." [source]
  | none, operands =>
    let goal := operands.getLast?.getD ""
    let sources := operands.dropLast
    let fault ←
      if parsed.has 'T' then pure (some Errno.notDirectory)
      else directoryFault goal (!parsed.has 'n')
    match fault, sources with
    | none, sources => into goal sources
    | some _, [source] => return codeOf (← makeLinkAt request source goal)
    | some errno, _ =>
      complainOfPath name "target" goal errno
      return 1

/-- Writes what a path really leads to: the path without links, from the root on. -/
def canonical : (fuel : Nat) → (done : String) → List String → Routine (Except Errno String)
  | 0, _, _ => return .error .tooManyLinks
  | _, done, [] => return .ok done
  | fuel + 1, done, name :: rest => do
    if name = "." then return ← canonical fuel done rest
    if name = ".." then
      return ← canonical fuel ((Path.parent? done).getD "/") rest
    let path := below done name
    match ← perform (.stat path false), rest with
    | .error .noEntry, [] => return .ok path
    | .error errno, _ => return .error errno
    | .ok info, _ =>
      if info.kind ≠ .link then return ← canonical fuel path rest
      match ← perform (.readLink path) with
      | .error errno => return .error errno
      | .ok target =>
        canonical fuel (if Path.isAbsolute target then "/" else done) (Path.names target ++ rest)

/-- The path without links that a path stands for.  Its last name need not stand for anything. -/
def realPath (path : String) : Routine (Except Errno String) := do
  if path = "" then return .error .noEntry
  let start ← if Path.isAbsolute path then pure "/" else perform .workingPath
  canonical maxDepth start (Path.names path)

/-- Writes what links lead to. -/
def readlink : Program := fun image => do
  let name := image.name
  let parsed ← options
    { letters := OptionTable.flags "femnqsvz"
      words := [("canonicalize", .none, 'f'), ("canonicalize-existing", .none, 'e'),
        ("no-newline", .none, 'n')] }
    name image.words
  if parsed.operands.isEmpty then missingOperand name
  let write (path : String) : Routine Bool := do
    let result ←
      if parsed.has 'f' || parsed.has 'e' || parsed.has 'm' then realPath path
      else perform (.readLink path)
    match result with
    | .error _ => return false
    | .ok text =>
      let single := parsed.has 'n' && parsed.operands.length = 1
      putText name (if single then text else text ++ "\n")
      return true
  return codeOf (← allOf write parsed.operands)

/-- Writes paths without links. -/
def realpath : Program := fun image => do
  let name := image.name
  let parsed ← options
    { letters := OptionTable.flags "emLPqsz", words := [("quiet", .none, 'q')] } name image.words
  if parsed.operands.isEmpty then missingOperand name
  let write (path : String) : Routine Bool := do
    match ← realPath path with
    | .error errno =>
      if !parsed.has 'q' then complainOfFile name path errno
      return false
    | .ok text =>
      putText name (text ++ "\n")
      return true
  return codeOf (← allOf write parsed.operands)

/-! ## Removing -/

/-- Reads an answer from standard input: up to the end of a line. -/
def readAnswer (sofar : List UInt8) : (fuel : Nat) → Routine (List UInt8)
  | 0 => return sofar.reverse
  | fuel + 1 => do
    match ← perform (.read standardInput 1) with
    | .error _ => return sofar.reverse
    | .ok bytes =>
      match bytes.toList with
      | byte :: _ =>
        if byte = lineFeed then return sofar.reverse else readAnswer (byte :: sofar) fuel
      | [] => return sofar.reverse

/-- Asks a question, which a line that begins with the letter y says yes to. -/
def ask (name question : String) : Routine Bool := do
  let _ ← perform (.write standardError (Text.toBytes (name ++ ": " ++ question ++ "? ")))
  let answer ← readAnswer [] budget
  return (answer.head?.map toLower) == some 0x79

/-- What `rm` is asked for. -/
structure RemoveRequest where
  name : String
  recursive : Bool
  emptyDirectories : Bool
  force : Bool
  verbose : Bool
  asks : Bool

/-- A file in words. -/
def kindName (info : NodeInfo) : String :=
  match info.kind with
  | .regular => if info.size = 0 then "regular empty file" else "regular file"
  | .directory => "directory"
  | .link => "symbolic link"
  | .pipe => "fifo"
  | .device => "character special file"

/-- The question is answered with yes, if there is one. -/
def RemoveRequest.agrees (request : RemoveRequest) (what path : String) : Routine Bool := do
  if request.asks then ask request.name (what ++ " " ++ quotedAlways path) else return true

/-- What becomes of something that is to be removed. -/
inductive Removal where
  | gone
  /-- The question was not answered with yes. -/
  | declined
  | failed
  deriving DecidableEq

/-- Takes one name away, and tells about it. -/
def RemoveRequest.takeAway (request : RemoveRequest) (path : String) (isDirectory : Bool) :
    Routine Removal := do
  let result ←
    if isDirectory then perform (.removeDirectory path) else perform (.remove path)
  match result with
  | .ok () =>
    tell request.name request.verbose
      ("removed " ++ (if isDirectory then "directory " else "") ++ quotedAlways path)
    return .gone
  | .error errno =>
    if request.force && (errno = .noEntry || errno = .notDirectory) then return .gone
    complainOfPath request.name "cannot remove" path errno
    return .failed

/-- Takes a name away after a question. -/
def RemoveRequest.takeAwayIfAgreed (request : RemoveRequest) (what path : String)
    (isDirectory : Bool) : Routine Removal := do
  if ← request.agrees what path then request.takeAway path isDirectory else return .declined

/-- Removes what is at a path, with what is below it if that is asked for. -/
def removeTree (request : RemoveRequest) : (fuel : Nat) → (path : String) → Routine Removal
  | 0, _ => return .failed
  | fuel + 1, path => do
    match ← perform (.stat path false) with
    | .error errno =>
      if request.force && (errno = .noEntry || errno = .notDirectory) then return .gone
      complainOfPath request.name "cannot remove" path errno
      return .failed
    | .ok info =>
      if info.kind ≠ .directory then
        request.takeAwayIfAgreed ("remove " ++ kindName info) path false
      else if request.recursive then
        match ← perform (.entries path) with
        | .error errno =>
          complainOfPath request.name "cannot remove" path errno
          return .failed
        | .ok entries =>
          if !entries.isEmpty && !(← request.agrees "descend into directory" path) then
            return .declined
          let removals ← entries.mapM fun entry => removeTree request fuel (below path entry.1)
          if removals.contains .failed then return .failed
          if removals.contains .declined then return .declined
          request.takeAwayIfAgreed "remove directory" path true
      else if request.emptyDirectories then
        request.takeAwayIfAgreed "remove directory" path true
      else
        complainOfPath request.name "cannot remove" path .isDirectory
        return .failed

/-- Removes files. -/
def rm : Program := fun image => do
  let name := image.name
  let parsed ← options
    { letters := OptionTable.flags "rRdfiIv"
      words := [("recursive", .none, 'r'), ("dir", .none, 'd'), ("force", .none, 'f'),
        ("verbose", .none, 'v'), ("interactive", .optional, 'i'), ("no-preserve-root", .none, 'P'),
        ("preserve-root", .optional, 'Q'), ("one-file-system", .none, 'O')] }
    name image.words
  let force := parsed.last? "fi" = some 'f'
  if parsed.operands.isEmpty then
    if force then return 0
    missingOperand name
  let recursive := parsed.has 'r' || parsed.has 'R'
  let request : RemoveRequest :=
    { name, recursive, force, emptyDirectories := parsed.has 'd', verbose := parsed.has 'v'
      asks := parsed.last? "fi" = some 'i' }
  let remove (path : String) : Routine Bool := do
    if recursive && path ≠ "" && isDots path then
      complain name ("refusing to remove '.' or '..' directory: skipping " ++ quotedAlways path)
      return false
    if recursive && Path.isAbsolute path && (Path.names path).isEmpty then
      complain name ("it is dangerous to operate recursively on " ++ quotedAlways path)
      complain name "use --no-preserve-root to override this failsafe"
      return false
    return (← removeTree request maxDepth path) ≠ .failed
  return codeOf (← allOf remove parsed.operands)

/-- Removes a directory, and those above it on its path if that is asked for. -/
def removeEmpty (name : String) (verbose ignoring : Bool) : List String → Routine Bool
  | [] => return true
  | path :: above => do
    tell name verbose ("removing directory, " ++ quotedAlways path)
    match ← perform (.removeDirectory path) with
    | .ok () => removeEmpty name verbose ignoring above
    | .error errno =>
      if ignoring && errno = .directoryNotEmpty then return true
      complainOfPath name "failed to remove" path errno
      return false

/-- Removes empty directories. -/
def rmdir : Program := fun image => do
  let name := image.name
  let parsed ← options
    { letters := OptionTable.flags "pv"
      words := [("parents", .none, 'p'), ("verbose", .none, 'v'),
        ("ignore-fail-on-non-empty", .none, 'I')] }
    name image.words
  if parsed.operands.isEmpty then missingOperand name
  let remove (path : String) : Routine Bool :=
    removeEmpty name (parsed.has 'v') (parsed.has 'I')
      (path :: (if parsed.has 'p' then (pathsAbove path).reverse else []))
  return codeOf (← allOf remove parsed.operands)

end CommandShell.Machine.Program
