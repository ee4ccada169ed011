import CommandShell.Machine.Program.Filing
set_option autoImplicit false

/-!
# Listing directories

Files are listed first and directories after them, each with what is in it.
-/

namespace CommandShell.Machine.Program

/-- How names are marked by their kind. -/
inductive Marking where
  | none
  /-- Directories only. -/
  | directories
  /-- Everything but files that can be run. -/
  | kinds
  | everything
  deriving DecidableEq

/-- The order in which names are listed. -/
inductive ListOrder where
  | byName
  | bySize
  | byEnding
  | unsorted
  deriving DecidableEq

/-- Which hidden names are listed. -/
inductive Hidden where
  | none
  | almostAll
  | all
  deriving DecidableEq

/-- What `ls` is asked for. -/
structure ListRequest where
  name : String
  hidden : Hidden
  /-- A directory is listed as itself. -/
  itself : Bool
  recursive : Bool
  reversed : Bool
  marking : Marking
  order : ListOrder
  long : Bool
  commas : Bool
  quotes : Bool
  follows : Bool
  followsNamed : Bool
  directoriesFirst : Bool
  backups : Bool
  /-- Directories have their name above them. -/
  titles : Bool

/-- A name that is listed, and what it stands for. -/
structure Listed where
  name : String
  info : NodeInfo
  /-- The target, if it is a link. -/
  target : Option String := none
  /-- What it stands for is a directory, links followed. -/
  leadsToDirectory : Bool := false

/-- The mark after a name. -/
def ListRequest.mark (request : ListRequest) (info : NodeInfo) : String :=
  match request.marking, info.kind with
  | .none, _ => ""
  | _, .directory => "/"
  | .directories, _ => ""
  | _, .link => "@"
  | _, .pipe => "|"
  | .everything, .regular => if info.isProgram then "*" else ""
  | _, _ => ""

/-- A name as it is written. -/
def ListRequest.written (request : ListRequest) (file : Listed) : String :=
  (if request.quotes then "\"" ++ file.name ++ "\"" else file.name) ++ request.mark file.info

/-- The part of a name from its last dot on. -/
def ending (name : String) : String :=
  match name.splitOn "." with
  | [] | [_] => ""
  | parts => "." ++ parts.getLast?.getD ""

/-- Names in the order of their bytes. -/
def nameLe (a b : String) : Bool := bytesLe (Text.toBytes a).toList (Text.toBytes b).toList

/-- Files in the order that is asked for. -/
def ListRequest.sorted (request : ListRequest) (files : List Listed) : List Listed :=
  let le (a b : Listed) : Bool :=
    match request.order with
    | .bySize =>
      a.info.size > b.info.size || (a.info.size = b.info.size && nameLe a.name b.name)
    | .byEnding =>
      let (x, y) := (ending a.name, ending b.name)
      if x = y then nameLe a.name b.name else nameLe x y
    | _ => nameLe a.name b.name
  let ordered := if request.order = .unsorted then files else files.mergeSort le
  let ordered := if request.reversed then ordered.reverse else ordered
  if request.directoriesFirst then
    ordered.filter Listed.leadsToDirectory ++ ordered.filter fun file => !file.leadsToDirectory
  else ordered

/-- The room that a file takes up, in blocks. -/
def blocksOf (info : NodeInfo) : Nat :=
  match info.kind with
  | .regular => (info.size + 4095) / 4096 * 4
  | .directory => 4
  | _ => 0

/-- The letter of a kind of file. -/
def kindLetter : NodeKind → String
  | .regular => "-"
  | .directory => "d"
  | .link => "l"
  | .device => "c"
  | .pipe => "p"

/-- The lines of a long listing. -/
def ListRequest.longLines (request : ListRequest) (files : List Listed) : List String :=
  let width := (files.map fun file => (toString file.info.size).length).foldl max 1
  files.map fun file =>
    let links := if file.info.kind = .directory then "2" else "1"
    let owner := if file.info.owned then "user user" else "root root"
    kindLetter file.info.kind ++ modeLetters file.info.mode ++ " " ++ links ++ " " ++ owner ++ " "
      ++ padLeft width file.info.size ++ " Jan  1  1970 " ++ request.written file
      ++ ((file.target.map fun target => " -> " ++ target).getD "")

/-- How wide a line of a list with commas is at most. -/
def lineWidth : Nat := 80

/-- Names with commas between them, in lines. -/
def commaText : (column : Nat) → List String → String
  | _, [] => ""
  | _, [name] => name
  | column, name :: next :: rest =>
    let column := column + name.length
    let fitsOn := column + 2 + next.length + (if rest.isEmpty then 0 else 1) < lineWidth
    name ++ "," ++ (if fitsOn then " " else "\n")
      ++ commaText (if fitsOn then column + 2 else 0) (next :: rest)

/-- The text of a list of files. -/
def ListRequest.text (request : ListRequest) (files : List Listed) : String :=
  if request.long then String.join ((request.longLines files).map fun line => line ++ "\n")
  else
    let names := files.map request.written
    if request.commas then (if names.isEmpty then "" else commaText 0 names ++ "\n")
    else String.join (names.map fun name => name ++ "\n")

/-- Looks at a file that is to be listed. -/
def ListRequest.look (request : ListRequest) (path name : String) (follow : Bool) :
    Routine (Except Errno Listed) := do
  match ← perform (.stat path follow) with
  | .error errno => return .error errno
  | .ok info =>
    let target ←
      if request.long && info.kind = .link then
        pure (← perform (.readLink path)).toOption
      else pure none
    let leadsToDirectory ←
      if request.directoriesFirst then pure ((← directoryFault path).isNone)
      else pure (info.kind = .directory)
    return .ok { name, info, target, leadsToDirectory }

/-- The name is listed. -/
def ListRequest.shows (request : ListRequest) (name : String) : Bool :=
  (match request.hidden with
    | .none => !name.startsWith "."
    | .almostAll => name ≠ "." && name ≠ ".."
    | .all => true)
    && (request.backups || !name.endsWith "~")

/-- Looks at the names in a directory; what cannot be looked at is complained about. -/
def ListRequest.lookAll (request : ListRequest) (directory : String) :
    List String → Routine (List Listed × Bool)
  | [] => return ([], true)
  | name :: rest => do
    let path := if directory = "." then name else below directory name
    let found ← request.look path name request.follows
    match found with
    | .ok file =>
      let (files, succeeded) ← request.lookAll directory rest
      return (file :: files, succeeded)
    | .error errno =>
      complain request.name ("cannot access " ++ quotedAlways path ++ ": " ++ errno.description)
      let known ← request.look path name false
      let (files, _) ← request.lookAll directory rest
      return (known.toOption.toList ++ files, false)

/-- What has been listed so far. -/
structure ListProgress where
  /-- Something stands above. -/
  started : Bool
  status : Nat

/-- Lists what is in a directory, and in the directories below it if that is asked for. -/
def listDirectory (request : ListRequest) :
    (fuel : Nat) → (path : String) → (isNamed : Bool) → ListProgress → Routine ListProgress
  | 0, _, _, progress => return progress
  | fuel + 1, path, isNamed, progress => do
    match ← perform (.entries path) with
    | .error errno =>
      complain request.name ("cannot open directory " ++ quotedAlways path ++ ": "
        ++ errno.description)
      return { progress with status := max progress.status (if isNamed then 2 else 1) }
    | .ok entries =>
      let dots := if request.hidden = .all then [".", ".."] else []
      let names := (dots ++ entries.map Prod.fst).filter request.shows
      if request.titles then
        putText request.name ((if progress.started then "\n" else "") ++ path ++ ":\n")
      let (files, succeeded) ← request.lookAll path names
      let files := request.sorted files
      if request.long then
        let total := (files.map fun file => blocksOf file.info).foldl (· + ·) 0
        putText request.name ("total " ++ toString total ++ "\n")
      putText request.name (request.text files)
      let progress : ListProgress :=
        ⟨true, max progress.status (if succeeded then 0 else 1)⟩
      if !request.recursive then return progress
      let inner := files.filter fun file =>
        file.info.kind = .directory && file.name ≠ "." && file.name ≠ ".."
      inner.foldlM (fun progress file =>
        listDirectory request fuel (below path file.name) false progress) progress

/-- Looks at the files that are named; says whether all of them are there. -/
def ListRequest.lookNamed (request : ListRequest) : List String → Routine (List Listed × Bool)
  | [] => return ([], true)
  | path :: rest => do
    let plain := request.itself || request.long || request.marking = .everything
    let throughLinks := request.follows || request.followsNamed
    let found ←
      if throughLinks then request.look path path true
      else if plain then request.look path path false
      else do
        match ← request.look path path true with
        | .ok file =>
          if file.info.kind = .directory then pure (.ok file) else request.look path path false
        | .error _ => request.look path path false
    match found with
    | .ok file =>
      let (files, succeeded) ← request.lookNamed rest
      return (file :: files, succeeded)
    | .error errno =>
      complain request.name ("cannot access " ++ quotedAlways path ++ ": " ++ errno.description)
      return ((← request.lookNamed rest).1, false)

/-- The options of `ls`. -/
def lsOptions : OptionTable :=
  { letters := OptionTable.flags "1aAbBcCdfFgGhHiklLmnNopqQrRsStuUvxXZ" ++ OptionTable.valued "ITw"
    words := [("all", .none, 'a'), ("almost-all", .none, 'A'), ("classify", .optional, 'F'),
      ("color", .optional, '#'), ("directory", .none, 'd'), ("dereference", .none, 'L'),
      ("file-type", .none, '%'), ("group-directories-first", .none, '^'),
      ("ignore-backups", .none, 'B'), ("literal", .none, 'N'), ("quote-name", .none, 'Q'),
      ("recursive", .none, 'R'), ("reverse", .none, 'r')] }

/-- Understands what is asked for. -/
def ListRequest.ofOptions (name : String) (parsed : Parsed) : ListRequest where
  name := name
  hidden := match parsed.last? "aAf" with
    | some 'A' => .almostAll
    | some _ => .all
    | none => .none
  itself := parsed.has 'd'
  recursive := parsed.has 'R' && !parsed.has 'd'
  reversed := parsed.has 'r'
  marking := match parsed.last? "Fp%" with
    | some 'F' => .everything
    | some 'p' => .directories
    | some _ => .kinds
    | none => .none
  order := match parsed.last? "SXUf" with
    | some 'S' => .bySize
    | some 'X' => .byEnding
    | some _ => .unsorted
    | none => .byName
  long := (parsed.last? "l1gnoCxm").any fun c => "lgno".contains c
  commas := parsed.last? "l1gnoCxm" = some 'm'
  quotes := parsed.has 'Q'
  follows := parsed.has 'L'
  followsNamed := parsed.has 'H'
  directoriesFirst := parsed.has '^'
  backups := !parsed.has 'B'
  titles := parsed.has 'R' || parsed.operands.length > 1

/-- Lists files and directories. -/
def ls : Program := fun image => do
  let name := image.name
  let parsed ← options lsOptions name image.words 2
  let request := ListRequest.ofOptions name parsed
  let paths := if parsed.operands.isEmpty then ["."] else parsed.operands
  let (found, succeeded) ← request.lookNamed paths
  let isListed (file : Listed) : Bool := file.info.kind = .directory && !request.itself
  let files := request.sorted (found.filter fun file => !isListed file)
  let directories := request.sorted (found.filter isListed)
  putText name (request.text files)
  if !files.isEmpty && !directories.isEmpty then putText name "\n"
  let progress ← directories.foldlM (fun progress file =>
    listDirectory request maxDepth file.name true progress)
    (⟨false, if succeeded then 0 else 2⟩ : ListProgress)
  return progress.status

end CommandShell.Machine.Program
