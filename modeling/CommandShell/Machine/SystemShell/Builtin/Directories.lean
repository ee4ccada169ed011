import CommandShell.Machine.SystemShell.Builtin.Basic
set_option autoImplicit false

/-!
# Builtin commands for directories

How a script moves between directories, and which permissions it withholds from new files.
-/

namespace CommandShell.Machine.SystemShell

/-! ## The working directory -/

/-- The names of a path from the root without those that only lead back; the last one first. -/
def plainNames (names : List String) : List String :=
  names.foldl (fun kept name =>
    if name = "." then kept else if name = ".." then kept.drop 1 else name :: kept) []

/-- The path of a directory as it is named, links and all. -/
def logicalPath (directory target : String) : String :=
  "/" ++ "/".intercalate (plainNames (Path.names (Path.join directory target))).reverse

/-- Changes the working directory. -/
def changeDirectory : Builtin := fun _ arguments => do
  let (letters, words) ← takeOptions "LP" arguments
  let state ← get
  let (target, shows) := match words with
    | [] => ((state.value? "HOME").getD "", false)
    | "-" :: _ => ((state.value? "OLDPWD").getD "", true)
    | word :: _ => (word, false)
  let old := (state.value? "PWD").getD ""
  if target = "" then
    if shows then putText (old ++ "\n") else return 0
  else
    let isPhysical := letters.getLast? = some 'P' || !Path.isAbsolute old
    let goal := if isPhysical then target else logicalPath old target
    match ← doCall (.changeDirectory goal) with
    | .error _ => fail ("can't cd to " ++ target)
    | .ok () =>
      let new ← if isPhysical then doCall .workingPath else pure goal
      setVariable "OLDPWD" old true
      setVariable "PWD" new true
      if shows then putText (new ++ "\n") else return 0

/-- Writes the path of the working directory. -/
def printDirectory : Builtin := fun _ arguments => do
  let (letters, _) ← takeOptions "LP" arguments
  let named := ((← get).value? "PWD").getD ""
  if letters.getLast? = some 'P' || named = "" then
    putText ((← doCall .workingPath) ++ "\n")
  else putText (named ++ "\n")

/-- Goes to a directory, as the extended dialect does; the result is its path, if that succeeds. -/
def enterDirectory (isPhysical : Bool) (target : String) : Eval (Except Errno String) := do
  let old := ((← get).value? "PWD").getD ""
  let isPhysical := isPhysical || !Path.isAbsolute old
  let goal := if isPhysical then target else logicalPath old target
  let found ←
    if isPhysical then pure (.ok ())
    else do pure ((← doCall (.stat (Path.join old target) true)).map fun _ => ())
  match found with
  | .error errno => return .error errno
  | .ok () =>
    match ← doCall (.changeDirectory goal) with
    | .error errno => return .error errno
    | .ok () =>
      let new ← if isPhysical then doCall .workingPath else pure goal
      setVariable "OLDPWD" old
      setVariable "PWD" new
      return .ok new

/-- The directories that a name may be in, with whether that is told. -/
def directoriesFor (state : State) (target : String) : List (String × Bool) :=
  let isPlain := Path.isAbsolute target || target = "." || target = ".."
    || target.startsWith "./" || target.startsWith "../"
  match isPlain, state.value? "CDPATH" with
  | false, some path =>
    let found := (path.splitOn ":").map fun directory =>
      if directory = "" then (target, false) else (directory ++ "/" ++ target, true)
    found ++ [(target, false)]
  | _, _ => [(target, false)]

/-- Goes to the first of some directories that is one. -/
def enterFirst (isPhysical : Bool) (target : String) : List (String × Bool) → Errno → Eval Nat
  | [], errno => refuseCommand (target ++ ": " ++ errno.description)
  | (path, isTold) :: rest, _ => do
    match ← enterDirectory isPhysical path with
    | .ok new => if isTold then putText (new ++ "\n") else return 0
    | .error errno => enterFirst isPhysical target rest errno

/-- Changes the working directory, as the extended dialect does. -/
def extendedCd : Builtin := fun _ arguments => do
  let (options, words) ← extendedOptions "cd [-L|[-P [-e]] [-@]] [dir]" "LPe@" arguments
  let isPhysical := (options.filter fun option => "LP".contains option.letter).getLast?.any
    (·.letter = 'P')
  let known (name : String) : Eval String := do
    match (← get).value? name with
    | some value => return value
    | none => refuseCommand (name ++ " not set")
  match words with
  | [] =>
    let home ← known "HOME"
    if home = "" then return 0
    enterFirst isPhysical home [(home, false)] .noEntry
  | ["-"] =>
    let old ← known "OLDPWD"
    enterFirst isPhysical old [(old, true)] .noEntry
  | [""] => return 0
  | [target] => enterFirst isPhysical target (directoriesFor (← get) target) .noEntry
  | _ => refuseCommand "too many arguments"

/-- Writes the path of the working directory, as the extended dialect does. -/
def extendedPwd : Builtin := fun _ arguments => do
  let (options, _) ← extendedOptions "pwd [-LP]" "LP" arguments
  let isPhysical := (options.getLast?).any (·.letter = 'P')
  let named := ((← get).value? "PWD").getD ""
  if isPhysical || !Path.isAbsolute named then putText ((← doCall .workingPath) ++ "\n")
  else putText (named ++ "\n")

/-! ## Permissions -/

/-- A set of permissions by letters. -/
def shownPermissions (bits : Nat) : String :=
  (if bits &&& 4 != 0 then "r" else "") ++ (if bits &&& 2 != 0 then "w" else "")
    ++ (if bits &&& 1 != 0 then "x" else "")

/-- The permissions of `who` changed to, added or taken away as one clause says. -/
def applyClause (allowed : Nat) (clause : List Char) : Option Nat :=
  let who := clause.takeWhile fun c => "ugoa".contains c
  let shift (c : Char) : List Nat := match c with
    | 'u' => [64]
    | 'g' => [8]
    | 'o' => [1]
    | _ => [64, 8, 1]
  let factors := if who.isEmpty then [64, 8, 1] else who.flatMap shift
  match clause.drop who.length with
  | operator :: letters =>
    if !"+-=".contains operator || letters.any fun c => !"rwxX".contains c then none
    else
      let bits := letters.foldl (fun (bits : Nat) c => bits ||| match c with
        | 'r' => 4
        | 'w' => 2
        | _ => 1) 0
      some (factors.foldl (fun (allowed : Nat) factor => match operator with
        | '+' => allowed ||| (bits * factor)
        | '-' => allowed &&& (0o777 ^^^ (bits * factor))
        | _ => (allowed &&& (0o777 ^^^ (7 * factor))) ||| (bits * factor)) allowed)
  | [] => none

/-- Shows or changes the permissions that are withheld from new files. -/
def changeMask : Builtin := fun _ arguments => do
  let (letters, words) ← takeOptions "S" arguments
  let mask ← doCall (.setMask 0)
  let _ ← doCall (.setMask mask)
  match words with
  | [] =>
    if letters.contains 'S' then
      let allowed := 0o777 ^^^ mask
      putText ("u=" ++ shownPermissions (allowed / 64)
        ++ ",g=" ++ shownPermissions (allowed / 8 % 8)
        ++ ",o=" ++ shownPermissions (allowed % 8) ++ "\n")
    else
      let digits := Nat.toDigits 8 mask
      putText (String.ofList (List.replicate (4 - digits.length) '0' ++ digits) ++ "\n")
  | word :: _ =>
    if word.toList.head?.any Char.isDigit then
      if word.toList.any fun c => !('0' ≤ c && c ≤ '7') then fail ("Illegal number: " ++ word)
      let new := word.toList.foldl (fun (n : Nat) c => 8 * n + (c.toNat - 48)) 0
      let _ ← doCall (.setMask new)
      return 0
    else
      let clauses := (word.splitOn ",").filter (· ≠ "")
      let allowed := clauses.foldl (fun (allowed : Option Nat) clause =>
        allowed.bind fun allowed => applyClause allowed clause.toList) (some (0o777 ^^^ mask))
      match allowed with
      | some allowed =>
        let _ ← doCall (.setMask (0o777 ^^^ allowed))
        return 0
      | none => fail ("Illegal mode: " ++ word)

/-- The permissions that are given, by letters. -/
def shownMask (mask : Nat) : String :=
  let allowed := 0o777 ^^^ mask
  "u=" ++ shownPermissions (allowed / 64) ++ ",g=" ++ shownPermissions (allowed / 8 % 8)
    ++ ",o=" ++ shownPermissions (allowed % 8)

/-- The complaint about permissions that are wrongly written. -/
def permissionsFault (word : String) : String :=
  let bad? := (word.splitOn ",").findSome? fun clause =>
    let rest := clause.toList.dropWhile fun c => "ugoa".contains c
    match rest with
    | [] => some (' ', "operator")
    | operator :: letters =>
      if !"+-=".contains operator then some (operator, "operator")
      else (letters.find? fun c => !"rwxX".contains c).map fun c => (c, "character")
  match bad? with
  | some (c, what) => "\u0060" ++ c.toString ++ "': invalid symbolic mode " ++ what
  | none => "\u0060 ': invalid symbolic mode operator"

/-- Shows or changes the permissions that are withheld, as the extended dialect does. -/
def extendedUmask : Builtin := fun _ arguments => do
  let (options, words) ← extendedOptions "umask [-p] [-S] [mode]" "pS" arguments
  let mask ← doCall (.setMask 0)
  let _ ← doCall (.setMask mask)
  let asLetters := hasOption options 'S'
  match words with
  | [] =>
    let digits := Nat.toDigits 8 mask
    let octal := String.ofList (List.replicate (4 - digits.length) '0' ++ digits)
    let front := if hasOption options 'p' then (if asLetters then "umask -S " else "umask ") else ""
    putText (front ++ (if asLetters then shownMask mask else octal) ++ "\n")
  | word :: _ =>
    let new ←
      if word.toList.head?.any Char.isDigit then do
        let value := word.toList.foldl (fun (n : Nat) c => 8 * n + (c.toNat - 48)) 0
        if word.toList.any (fun c => !('0' ≤ c && c ≤ '7')) || value > 0o7777 then
          refuseCommand (word ++ ": octal number out of range")
        pure (value % 0o1000)
      else do
        let allowed := (word.splitOn ",").foldl (fun (allowed : Option Nat) clause =>
          allowed.bind fun allowed => applyClause allowed clause.toList) (some (0o777 ^^^ mask))
        match allowed with
        | some allowed => pure (0o777 ^^^ allowed)
        | none => refuseCommand (permissionsFault word)
    let _ ← doCall (.setMask new)
    if asLetters then putText (shownMask new ++ "\n") else return 0

/-! ## Directories to go back to -/

/-- A path with a tilde for the home directory. -/
def State.shortPath (state : State) (path : String) : String :=
  let home := (state.value? "HOME").getD ""
  if home.length > 1 && (path = home || path.startsWith (home ++ "/")) then
    "~" ++ (path.drop home.length).toString
  else path

/-- Lists the directories. -/
def showStack : Eval Nat := do
  let state ← get
  putText (" ".intercalate (state.directoryStack.map state.shortPath) ++ "\n")

/-- How a command for directories is used. -/
def stackUsage (command : String) : String :=
  match command with
  | "dirs" => "dirs [-clpv] [+N] [-N]"
  | "popd" => "popd [-n] [+N | -N]"
  | _ => "pushd [-n] [+N | -N | dir]"

/-- Complains about an argument of a command for directories. -/
def refuseStackWord {α : Type} (command word fault : String) : Eval α := do
  warn (word ++ ": " ++ fault)
  refuseUse (stackUsage command)

/-- What the arguments of a command for directories come to: letters, places and other words. -/
structure StackArguments where
  letters : List Char := []
  place : Option (String × StackPlace) := none
  words : List String := []

/-- Understands the arguments of a command for directories. -/
def readStackArguments (command known : String) : List String → Eval StackArguments
  | [] => return {}
  | "--" :: rest => return { words := rest }
  | word :: rest => do
    match StackPlace.read? word, word.toList with
    | some place, _ =>
      return { ← readStackArguments command known rest with place := some (word, place) }
    | none, '-' :: c :: cs =>
      if (c :: cs).any fun letter => !known.contains letter then
        refuseStackWord command word "invalid number"
      let others ← readStackArguments command known rest
      return { others with letters := c :: cs ++ others.letters }
    | none, _ => return { words := word :: rest }

/-- The index of a place in the list of directories. -/
def stackIndex (word : String) (place : StackPlace) : Eval Nat := do
  let stack := (← get).directoryStack
  if stack.length = 1 then refuseCommand "directory stack empty"
  match place.index? stack.length with
  | some index => return index
  | none => refuseCommand (word ++ ": directory stack index out of range")

/-- Goes to a directory and remembers others; the list is shown. -/
def goTo (target : String) (others : List String) : Eval Nat := do
  match ← enterDirectory false target with
  | .error errno => refuseCommand (target ++ ": " ++ errno.description)
  | .ok _ =>
    modify fun state => { state with directories := others }
    showStack

/-- Shows or forgets the directories to go back to. -/
def listDirectories : Builtin := fun _ arguments => do
  let given ← readStackArguments "dirs" "clpv" arguments
  if let word :: _ := given.words then refuseStackWord "dirs" word "invalid option"
  if given.letters.contains 'c' then
    modify fun state => { state with directories := [] }
    return 0
  let state ← get
  let shown (path : String) : String :=
    if given.letters.contains 'l' then path else state.shortPath path
  let numbered := given.letters.contains 'v'
  let line (path : String) (i : Nat) : String :=
    (if numbered then (if i < 10 then " " else "") ++ toString i ++ "  " else "") ++ shown path
  match given.place with
  | some (word, place) =>
    match place.index? state.directoryStack.length with
    | some index => putText (line (state.directoryStack[index]?.getD "") index ++ "\n")
    | none =>
      refuseCommand ((word.drop 1).toString ++ ": directory stack index out of range")
  | none =>
    let lines := state.directoryStack.zipIdx.map fun (path, i) => line path i
    if numbered || given.letters.contains 'p' then
      putText (String.join (lines.map (· ++ "\n")))
    else putText (" ".intercalate lines ++ "\n")

/-- Goes to a directory, and remembers the one before. -/
def pushDirectory : Builtin := fun _ arguments => do
  let given ← readStackArguments "pushd" "n" arguments
  let state ← get
  let stays := given.letters.contains 'n'
  match given.words, given.place with
  | target :: rest, none =>
    if !rest.isEmpty then refuseCommand "too many arguments"
    if stays then
      modify fun state => { state with directories := target :: state.directories }
      showStack
    else goTo target state.directoryStack
  | _, some (word, place) =>
    let index ← stackIndex word place
    let rotated := state.directoryStack.drop index ++ state.directoryStack.take index
    if stays then return 0
    goTo (rotated.head?.getD "") rotated.tail
  | [], none =>
    match state.directories with
    | [] => refuseCommand "no other directory"
    | target :: others =>
      if stays then return 0
      goTo target ((state.value? "PWD").getD "" :: others)

/-- Goes back to a directory, or forgets one. -/
def popDirectory : Builtin := fun _ arguments => do
  let given ← readStackArguments "popd" "n" arguments
  if let word :: _ := given.words then refuseStackWord "popd" word "invalid argument"
  let state ← get
  let stays := given.letters.contains 'n'
  let index ←
    match given.place with
    | some (word, place) => stackIndex word place
    | none =>
      if state.directories.isEmpty then refuseCommand "directory stack empty"
      pure 0
  match index, state.directories with
  | 0, target :: others =>
    if stays then
      modify fun state => { state with directories := others }
      showStack
    else goTo target others
  | index, directories =>
    modify fun state => { state with directories := directories.eraseIdx (index - 1) }
    showStack

end CommandShell.Machine.SystemShell
