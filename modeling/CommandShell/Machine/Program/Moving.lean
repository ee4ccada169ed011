import CommandShell.Machine.Program.Filing
set_option autoImplicit false

/-!
# Programs that copy and move files

Both take sources and a goal.  A goal that is a directory takes the sources in under their own
names.
-/

namespace CommandShell.Machine.Program

/-- Which files are to go where. -/
structure Errand where
  sources : List String
  /-- The directory that takes the sources in; none if the only source gets the name `goal`. -/
  directory : Option String
  goal : String

/-- The path that a source is to get. -/
def Errand.pathOf (errand : Errand) (source : String) : String :=
  match errand.directory with
  | some directory => below directory (Path.lastName source)
  | none => errand.goal

/-- Understands which files are to go where.  `always` is the directory given by an option, and
`never` says that the goal is no such directory. -/
def readErrand (name : String) (always : Option String) (never : Bool) (operands : List String) :
    Routine Errand := do
  match always, operands with
  | _, [] =>
    complainOfUse name "missing file operand"
    quit 1
  | some directory, sources =>
    if let some errno ← directoryFault directory then
      complainOfPath name "target directory" directory errno
      quit 1
    return ⟨sources, some directory, directory⟩
  | none, [source] =>
    complainOfUse name ("missing destination file operand after " ++ quotedAlways source)
    quit 1
  | none, operands =>
    let goal := operands.getLast?.getD ""
    let sources := operands.dropLast
    match ← if never then pure (some Errno.notDirectory) else directoryFault goal with
    | none => return ⟨sources, some goal, goal⟩
    | some errno =>
      if sources.length = 1 then return ⟨sources, none, goal⟩
      if never then
        complainOfUse name ("extra operand " ++ quotedAlways (operands[2]?.getD ""))
      else complainOfPath name "target" goal errno
      quit 1

/-- What is to be done about a goal that is there already. -/
inductive Clash where
  | replace
  | keep
  | ask
  deriving DecidableEq

/-- What both programs are asked for. -/
structure MoveRequest where
  name : String
  clash : Clash := .replace
  force : Bool := false
  verbose : Bool := false

/-- The complaint that a file cannot be put in place of another one of another kind; none if it
can. -/
def kindClash? (source goal : String) (new old : NodeInfo) : Option String :=
  if old.kind = .directory && new.kind ≠ .directory then
    some ("cannot overwrite directory " ++ quotedAlways goal ++ " with non-directory")
  else if old.kind ≠ .directory && new.kind = .directory then
    some ("cannot overwrite non-directory " ++ quotedAlways goal ++ " with directory "
      ++ quotedAlways source)
  else none

/-- Says that two paths lead to the same file. -/
def complainOfSame (name source goal : String) : Routine Bool := do
  complain name (quotedAlways source ++ " and " ++ quotedAlways goal ++ " are the same file")
  return false

/-! ## Copying -/

/-- Which links are followed. -/
inductive Following where
  | always
  | never
  /-- Those that are named as sources. -/
  | named
  deriving DecidableEq

/-- What `cp` is asked for. -/
structure CopyRequest extends MoveRequest where
  recursive : Bool
  following : Following
  /-- Permissions are those of the source. -/
  preserves : Bool
  /-- Copies are other names of the same file, or links to it. -/
  hardLinks : Bool
  symbolicLinks : Bool

/-- A source that is being copied. -/
structure CopyItem where
  source : String
  goal : String
  /-- The source is named as such. -/
  isNamed : Bool

/-- Copies the bytes of a file. -/
def copyBytes (request : CopyRequest) (item : CopyItem) (info : NodeInfo) (isThere : Bool) :
    Routine Bool := do
  let refuse (text : String) : Routine Bool := do
    complain request.name text
    return false
  match ← perform (.openFile item.source .input) with
  | .error errno =>
    refuse ("cannot open " ++ quotedAlways item.source ++ " for reading: " ++ errno.description)
  | .ok input =>
    let create : OpenMode :=
      { writes := true, creates := some (info.mode &&& 0o777), exclusive := true }
    if !isThere && (← perform (.stat item.goal false)).toOption.isSome then
      return ← refuse ("not writing through dangling symlink " ++ quotedAlways item.goal)
    let first ← perform (.openFile item.goal
      (if isThere then { writes := true, truncates := true } else create))
    let opened ←
      match first with
      | .ok output => pure (Except.ok output)
      | .error errno =>
        if isThere && request.force then do
          let _ ← perform (.remove item.goal)
          perform (.openFile item.goal create)
        else pure (.error errno)
    match opened with
    | .error errno =>
      let errno := if errno = .isDirectory && Path.asksForDirectory item.goal
        then Errno.notDirectory else errno
      let _ ← perform (.close input)
      refuse ("cannot create regular file " ++ quotedAlways item.goal ++ ": "
        ++ errno.description)
    | .ok output =>
      let result ← readAll input .empty budget
      let written ←
        match result with
        | .ok bytes => perform (.write output bytes)
        | .error errno => pure (.error errno)
      let _ ← perform (.close output)
      let _ ← perform (.close input)
      if request.preserves then
        let _ ← perform (.setMode item.goal (info.mode &&& 0o7777))
      match result, written with
      | .error errno, _ =>
        refuse ("error reading " ++ quotedAlways item.source ++ ": " ++ errno.description)
      | _, .error errno =>
        refuse ("error writing " ++ quotedAlways item.goal ++ ": " ++ errno.description)
      | .ok _, .ok () => return true

/-- Makes the goal of something that is no directory, where there is nothing or a file. -/
def copyLeaf (request : CopyRequest) (item : CopyItem) (info : NodeInfo) (isThere : Bool) :
    Routine Bool := do
  let finish (what : String) (result : Except Errno Unit) : Routine Bool := do
    match result with
    | .ok () => return true
    | .error errno =>
      complainOfPath request.name what item.goal errno
      return false
  let clear : Routine Unit := do
    if isThere then
      let _ ← perform (.remove item.goal)
  if request.hardLinks then
    if request.force then clear
    finish "cannot create hard link" (← perform (.makeName item.source item.goal))
  else if request.symbolicLinks then
    if request.force then clear
    finish "cannot create symbolic link" (← perform (.makeLink item.source item.goal))
  else if info.kind = .link then
    clear
    match ← perform (.readLink item.source) with
    | .ok target => finish "cannot create symbolic link" (← perform (.makeLink target item.goal))
    | .error errno => finish "cannot read symbolic link" (.error errno)
  else if info.kind = .pipe && request.recursive then
    clear
    finish "cannot create fifo" (← perform (.makePipe item.goal Files.newFileMode))
  else copyBytes request item info isThere

/-- Copies one thing, with what is below it if that is asked for.  `top` is the directory that was
made for the source, and how both are called. -/
def copyItem (request : CopyRequest) :
    (fuel : Nat) → (top : Option (NodeId × CopyItem)) → (item : CopyItem) → Routine Bool
  | 0, _, _ => return false
  | fuel + 1, top, item => do
    let refuse (text : String) : Routine Bool := do
      complain request.name text
      return false
    let follow := match request.following with
      | .always => true
      | .named => item.isNamed
      | .never => false
    match ← perform (.stat item.source follow) with
    | .error errno =>
      refuse ("cannot stat " ++ quotedAlways item.source ++ ": " ++ errno.description)
    | .ok info =>
      let isDirectory := info.kind = .directory
      if isDirectory && !request.recursive then
        return ← refuse ("-r not specified; omitting directory " ++ quotedAlways item.source)
      if let some (id, named) := top then
        if id = info.id then
          return ← refuse ("cannot copy a directory, " ++ quotedAlways named.source
            ++ ", into itself, " ++ quotedAlways named.goal)
      let plain := info.kind = .regular && !request.hardLinks && !request.symbolicLinks
      let old := (← perform (.stat item.goal plain)).toOption
      if let some old := old then
        if old.id = info.id then
          return ← complainOfSame request.name item.source item.goal
        if !isDirectory || old.kind ≠ .directory then
          match request.clash with
          | .keep => return true
          | .ask =>
            if !(← ask request.name ("overwrite " ++ quotedAlways item.goal)) then return false
          | .replace => pure ()
        if let some text := kindClash? item.source item.goal info old then
          return ← refuse text
      let announce : Routine Unit :=
        tell "cp" request.verbose (quotedAlways item.source ++ " -> " ++ quotedAlways item.goal)
      if !isDirectory then
        announce
        copyLeaf request item info old.isSome
      else
        if old.isNone then
          match ← perform (.makeDirectory item.goal (info.mode &&& 0o777 ||| 0o700)) with
          | .ok () => announce
          | .error errno =>
            complainOfPath request.name "cannot create directory" item.goal errno
            return false
        let there := (← perform (.stat item.goal true)).toOption
        let made := there.filter fun _ => old.isNone
        let top := top <|> made.map fun made => (made.id, item)
        match ← perform (.entries item.source) with
        | .error errno =>
          complainOfPath request.name "cannot access" item.source errno
          return false
        | .ok entries =>
          let succeeded ← allOf (fun entry =>
              copyItem request fuel top ⟨below item.source entry, below item.goal entry, false⟩)
            (entries.map Prod.fst)
          if old.isNone then
            let mask ← if request.preserves then pure 0 else currentMask
            let _ ← perform (.setMode item.goal (Files.withhold (info.mode &&& 0o7777) mask))
          return succeeded

/-- Copies sources one after another.  A source is copied once, and no copy takes the place of
another one of the same run. -/
def copySources (request : CopyRequest) (errand : Errand) (parents : Bool) :
    (done : List CopyItem) → List String → Routine Bool
  | _, [] => return true
  | done, source :: rest => do
    let goal ←
      match parents, errand.directory with
      | true, some directory => do
        let _ ← makeAbove request.name false ((pathsAbove source).map (below directory))
        pure (below directory source)
      | _, _ => pure (errand.pathOf source)
    let item : CopyItem := ⟨source, goal, true⟩
    let isDirectory := (← kindAt source).toOption = some .directory
    let first ←
      if done.any fun other => other.source = source then do
        complain request.name ("warning: source " ++ (if isDirectory then "directory " else "file ")
          ++ quotedAlways source ++ " specified more than once")
        pure true
      else if !isDirectory && done.any fun other => other.goal = goal then do
        complain request.name ("will not overwrite just-created " ++ quotedAlways goal ++ " with "
          ++ quotedAlways source)
        pure false
      else copyItem request maxDepth none item
    let others ← copySources request errand parents (item :: done) rest
    return first && others

/-- The options of `cp`. -/
def cpOptions : OptionTable :=
  { letters := OptionTable.flags "abdfHilLnpPrRsTuvx" ++ OptionTable.valued "tS"
    words := [("archive", .none, 'a'), ("force", .none, 'f'), ("interactive", .none, 'i'),
      ("link", .none, 'l'), ("dereference", .none, 'L'), ("no-clobber", .none, 'n'),
      ("no-dereference", .none, 'P'), ("preserve", .optional, 'p'), ("parents", .none, 'Q'),
      ("recursive", .none, 'r'), ("symbolic-link", .none, 's'),
      ("target-directory", .required, 't'), ("no-target-directory", .none, 'T'),
      ("update", .optional, 'u'), ("verbose", .none, 'v')] }

/-- What the options say about a goal that is there already. -/
def clashOf (parsed : Parsed) : Clash :=
  match parsed.last? "inu" with
  | some 'i' => .ask
  | some _ => .keep
  | none => .replace

/-- Copies files. -/
def cp : Program := fun image => do
  let name := image.name
  let parsed ← options cpOptions name image.words
  if parsed.has 'n' then
    complain name ("warning: behavior of -n is non-portable and may change in future; "
      ++ "use --update=none instead")
  let recursive := parsed.has 'r' || parsed.has 'R' || parsed.has 'a'
  let following := match parsed.last? "LPHda" with
    | some 'L' => Following.always
    | some 'H' => .named
    | some _ => .never
    | none => if recursive then .never else .always
  let request : CopyRequest :=
    { name, clash := clashOf parsed, force := parsed.has 'f', verbose := parsed.has 'v', recursive
      following, preserves := parsed.has 'p' || parsed.has 'a', hardLinks := parsed.has 'l'
      symbolicLinks := parsed.has 's' }
  let errand ← readErrand name (parsed.value? 't') (parsed.has 'T') parsed.operands
  return codeOf (← copySources request errand (parsed.has 'Q') [] errand.sources)

/-! ## Moving -/

/-- A refusal to rename that is the goal's fault. -/
def isGoalFault (errno : Errno) : Bool :=
  [Errno.exists, .isDirectory, .noSpace, .textFileBusy, .directoryNotEmpty].contains errno

/-- Moves one source. -/
def moveItem (request : MoveRequest) (source goal : String) : Routine Bool := do
  let refuse (text : String) : Routine Bool := do
    complain request.name text
    return false
  match ← perform (.stat source false) with
  | .error errno => refuse ("cannot stat " ++ quotedAlways source ++ ": " ++ errno.description)
  | .ok info =>
    if let .ok old ← perform (.stat goal false) then
      if old.id = info.id && !isDots source then
        return ← complainOfSame request.name source goal
      match request.clash with
      | .keep => return ← refuse ("not replacing " ++ quotedAlways goal)
      | .ask =>
        if !(← ask request.name ("overwrite " ++ quotedAlways goal)) then return false
      | .replace => pure ()
      if let some text := kindClash? source goal info old then
        return ← refuse text
    match ← perform (.rename source goal) with
    | .ok () =>
      tell request.name request.verbose
        ("renamed " ++ quotedAlways source ++ " -> " ++ quotedAlways goal)
      return true
    | .error errno =>
      if errno = .invalidArgument then
        refuse ("cannot move " ++ quotedAlways source ++ " to a subdirectory of itself, "
          ++ quotedAlways goal)
      else if isGoalFault errno then
        refuse ("cannot overwrite " ++ quotedAlways goal ++ ": " ++ errno.description)
      else
        refuse ("cannot move " ++ quotedAlways source ++ " to " ++ quotedAlways goal ++ ": "
          ++ errno.description)

/-- Moves sources one after another.  None takes the place of another one of the same run. -/
def moveSources (request : MoveRequest) (errand : Errand) :
    (done : List String) → List String → Routine Bool
  | _, [] => return true
  | done, source :: rest => do
    let goal := errand.pathOf source
    let first ←
      if done.contains goal && (← kindAt source false).toOption.isSome then do
        complain request.name ("will not overwrite just-created " ++ quotedAlways goal ++ " with "
          ++ quotedAlways source)
        pure false
      else moveItem request source goal
    let others ← moveSources request errand (goal :: done) rest
    return first && others

/-- Moves files. -/
def mv : Program := fun image => do
  let name := image.name
  let parsed ← options
    { letters := OptionTable.flags "bfinTuv" ++ OptionTable.valued "tS"
      words := [("force", .none, 'f'), ("interactive", .none, 'i'), ("no-clobber", .none, 'n'),
        ("target-directory", .required, 't'), ("no-target-directory", .none, 'T'),
        ("update", .optional, 'u'), ("verbose", .none, 'v')] }
    name image.words
  let clash := if parsed.last? "finu" = some 'f' then Clash.replace else clashOf parsed
  let request : MoveRequest := { name, clash, verbose := parsed.has 'v' }
  let errand ← readErrand name (parsed.value? 't') (parsed.has 'T') parsed.operands
  return codeOf (← moveSources request errand [] errand.sources)

end CommandShell.Machine.Program
