import CommandShell.Machine.SystemShell.Launch.Plain
set_option autoImplicit false

/-!
# The extended shell as a program

It understands long options besides those that `set` and `shopt` have, and takes functions from its
environment.
-/

namespace CommandShell.Machine.SystemShell.Extended

/-! ## Options -/

/-- The options that are words, and what they do. -/
inductive LongOption where
  | showUsage
  | showVersion
  | turnOn (flag : Char)
  | logIn
  | nothing
  /-- The next word belongs to the option. -/
  | takesWord
  deriving DecidableEq

/-- The long options by name, in the order in which they are shown. -/
def longOptions : List (String × LongOption) :=
  [("debug", .nothing), ("debugger", .nothing), ("dump-po-strings", .nothing),
    ("dump-strings", .nothing), ("help", .showUsage), ("init-file", .takesWord),
    ("login", .logIn), ("noediting", .nothing), ("noprofile", .nothing), ("norc", .nothing),
    ("posix", .turnOn '\x08'), ("pretty-print", .nothing), ("rcfile", .takesWord),
    ("restricted", .nothing), ("verbose", .turnOn 'v'), ("version", .showVersion)]

/-- The version of the shell. -/
def version : String := "5.2.21(1)-release"

/-- The kind of machine that the shell is made for. -/
def machineType : String := "x86_64-pc-linux-gnu"

/-- How the shell is called. -/
def usage : String :=
  "Usage:\tbash [GNU long option] [option] ...\n"
    ++ "\tbash [GNU long option] [option] script-file ...\nGNU long options:\n"
    ++ String.join (longOptions.map fun (name, _) => "\t--" ++ name ++ "\n")
    ++ "Shell options:\n"
    ++ "\t-ilrsD or -c command or -O shopt_option\t\t(invocation only)\n"
    ++ "\t-" ++ extendedFlags ++ " or -o option\n"

/-- What is shown when someone asks how the shell is called. -/
def help : String :=
  "GNU bash, version " ++ version ++ "-(" ++ machineType ++ ")\n" ++ usage
    ++ "Type \u0060bash -c \"help set\"' for more information about shell options.\n"
    ++ "Type \u0060bash -c help' for more information about shell builtin commands.\n"

/-- What is shown when someone asks for the version. -/
def versionText : String :=
  "GNU bash, version " ++ version ++ " (" ++ machineType ++ ")\n"

/-- Complains before any script has begun, and ends the shell. -/
def refuse {α : Type} (text : String) (status : Nat := 2) : Eval α := do
  putError ((← get).name ++ ": " ++ text ++ "\n")
  throw (.leave status)

/-- Complains about an option, shows how the shell is called, and ends it. -/
def refuseOption {α : Type} (option : String) : Eval α := do
  putError ((← get).name ++ ": " ++ option ++ ": invalid option\n" ++ usage)
  throw (.leave 2)

/-- Shows a text and ends the shell. -/
def showAndLeave {α : Type} (text : String) : Eval α := do
  let _ ← putText text
  throw (.leave 0)

/-- Does what a long option says; the result is what is left of the words after it. -/
def applyLongOption (name : String) (rest : List String) : LongOption → Eval (List String)
  | .showUsage => showAndLeave help
  | .showVersion => showAndLeave versionText
  | .turnOn flag => do
    setFlag true flag
    return rest
  | .logIn => do
    setFeature true "login_shell"
    return rest
  | .nothing => return rest
  | .takesWord =>
    match rest with
    | _ :: rest => return rest
    | [] => refuse (name ++ ": option requires an argument")

/-- Understands the long options before others; one dash is as good as two. -/
def readLongOptions : (fuel : Nat) → List String → Eval (List String)
  | 0, words => return words
  | _, [] => return []
  | fuel + 1, word :: rest => do
    let (name, isLong) : String × Bool := match word.toList with
      | '-' :: '-' :: name => (String.ofList name, true)
      | '-' :: name => (String.ofList name, false)
      | _ => ("", false)
    if name = "" then return word :: rest
    match longOptions.lookup name with
    | some option => readLongOptions fuel (← applyLongOption name rest option)
    | none => if isLong then refuseOption word else return word :: rest

/-- What the letters of options ask for, besides flags. -/
structure Request where
  /-- The script is the first argument. -/
  hasText : Bool := false
  readsInput : Bool := false
  /-- Further options that are turned on or off. -/
  features : List (String × Bool) := []

/-- Understands the letters of a word of options; those that need a name take it from the words that
follow, of which the rest is given back. -/
def readLetters (isOn : Bool) : List Char → List String → Request → Eval (Request × List String)
  | [], rest, request => return (request, rest)
  | 'c' :: letters, rest, request => readLetters isOn letters rest { request with hasText := true }
  | 's' :: letters, rest, request =>
    readLetters isOn letters rest { request with readsInput := true }
  | 'l' :: letters, rest, request =>
    readLetters isOn letters rest
      { request with features := request.features ++ [("login_shell", true)] }
  | 'o' :: letters, [], request => do
    let _ ← listOptions !isOn
    readLetters isOn letters [] request
  | 'o' :: letters, name :: rest, request => do
    match (optionNames .extended).lookup name with
    | some flag =>
      setFlag isOn flag
      readLetters isOn letters rest request
    | none => refuse ("line 0: " ++ (← get).name ++ ": " ++ name ++ ": invalid option name")
  | 'O' :: letters, [], request => do
    let _ ← featureTable.show (!isOn) false featureTable.names
    readLetters isOn letters [] request
  | 'O' :: letters, name :: rest, request =>
    readLetters isOn letters rest { request with features := request.features ++ [(name, isOn)] }
  | letter :: letters, rest, request => do
    if letter = 'D' then setFlag true 'n'
    else if letter = 'i' || letter = 'r' then setFlag isOn letter
    else if extendedFlags.contains letter then setFlag isOn (flagOf letter)
    else refuseOption ((if isOn then "-" else "+") ++ letter.toString)
    readLetters isOn letters rest request

/-- Understands the options of letters before a script. -/
def readOptions : (fuel : Nat) → List String → Request → Eval (Request × List String)
  | 0, words, request => return (request, words)
  | _, [], request => return (request, [])
  | fuel + 1, word :: rest, request => do
    match word.toList with
    | ['-'] | ['-', '-'] => return (request, rest)
    | sign :: letters =>
      if sign ≠ '-' && sign ≠ '+' then return (request, word :: rest)
      let (request, rest) ← readLetters (sign = '-') letters rest request
      readOptions fuel rest request
    | [] => return (request, word :: rest)

/-- Turns further options on or off as they are asked for. -/
def applyFeatures (features : List (String × Bool)) : Eval Unit := do
  for (name, isOn) in features do
    if !featureNames.contains name then
      refuse ("line 0: " ++ name ++ ": invalid shell option name")
    setFeature isOn name

/-! ## Scripts -/

/-- How many bytes of a script tell that it is none. -/
def scriptHead : Nat := 80

/-- The first line that is found in the first bytes of a file has bytes that no script has. -/
def isBinary (bytes : ByteArray) : Bool :=
  (bytes.toList.takeWhile (· ≠ Program.lineFeed)).contains 0

/-- The file that a script is in, looked for where programs are if it is not found otherwise, and
the path to it. -/
def openScript (path : String) : Eval (String × Except Errno Descriptor) := do
  match ← doCall (.openFile path .input) with
  | .error .noEntry =>
    let found? ← if path.contains '/' then pure none else searchScript path
    match found? with
    | some found => return (found, ← doCall (.openFile found .input))
    | none => return (path, .error .noEntry)
  | result => return (path, result)

/-- Runs the script in a file, which gives the shell its name. -/
def runScriptFile (path : String) (arguments : List String) : Eval Nat := do
  let (found, opened) ← openScript path
  match opened with
  | .error errno =>
    refuse (found ++ ": " ++ errno.description) (if errno = .noEntry then 127 else 126)
  | .ok opened =>
    let frame : Frame := { name := "main", source := path, line := 0 }
    modify fun state => { state with name := path, arguments, line := 1, frames := [frame] }
    match ← doCall (.read opened scriptHead) with
    | .error errno => refuse (found ++ ": " ++ errno.description) 126
    | .ok bytes =>
      if isBinary bytes then refuse (found ++ ": cannot execute binary file") 126
      let descriptor ← setApart opened
      runAll false { fileSource descriptor with bytes }

/-- Runs a script that is an argument. -/
def runText (text : String) (arguments : List String) : Eval Nat := do
  setFlag true 'c'
  modify fun state =>
    { state.putVariable "BASH_EXECUTION_STRING" { value := some text } with
      name := arguments.head?.getD state.name, arguments := arguments.drop 1, line := 1
      origin := "environment", abortStatus := 127 }
  let source : Source :=
    { supply := .nothing, bytes := Text.toBytes text, atEnd := true, label := some "-c" }
  runAll true source

/-- Runs what the arguments say. -/
def runInvocation (words : List String) : Eval Nat := do
  let words ← readLongOptions words.length words
  let (request, words) ← readOptions words.length words {}
  applyFeatures request.features
  match request.hasText, words with
  | true, [] => refuse "-c: option requires an argument"
  | true, text :: rest => runText text rest
  | false, path :: rest =>
    if !request.readsInput then return ← runScriptFile path rest
    setFlag true 's'
    modify fun state => { state with arguments := path :: rest, line := 1 }
    runAll false inputSource
  | false, [] =>
    setFlag true 's'
    modify fun state => { state with line := 1 }
    runAll false inputSource

/-! ## The beginning -/

/-- The options that are on in a new shell. -/
def initialFlags : List Char := ['h', 'B', '\x07']

/-- The user for whom the shell runs. -/
def userNumber : Nat := 1000

/-- How deep the shell is nested, given what the environment says. -/
def nextLevel (given : Option String) : Nat :=
  match (given.bind signedNumber?).getD 0 with
  | .ofNat n => if n + 1 ≥ 1000 then 1 else n + 1
  | .negSucc _ => 0

/-- A function in the environment. -/
def importFunction (state : State) (name value : String) : State :=
  let text := (name ++ " " ++ value).toList
  let reader : Reader :=
    { dialect := .extended, rest := text, atEnd := true, nextDocument := state.nextDocument }
  match reader.next with
  | .command (.define name body) _ reader =>
    let f : Function := { body, source := "environment", isExported := true }
    { state with
      functions := (name, f) :: state.functions
      documents := reader.documents ++ state.documents, nextDocument := reader.nextDocument }
  | _ => state

/-- The name of a function, if a name in the environment belongs to one. -/
def functionName? (name : String) : Option String :=
  if name.startsWith exportedFront && name.endsWith exportedBack then
    some ((name.drop exportedFront.length).dropEnd exportedBack.length).toString
  else none

/-- The state after an entry of the environment. -/
def importEntry (state : State) (entry : String × String) : State :=
  let (name, value) := entry
  match functionName? name with
  | some f => if value.startsWith "() \x7b" then importFunction state f value else state
  | none =>
    if isName name then state.putVariable name { value := some value, isExported := true }
    else state

/-- The texts that some variables have in a new shell. -/
def fixedTexts (name : String) : List (String × String) :=
  [("BASH", if name.contains '/' then name else "/usr/bin/bash"), ("BASH_VERSION", version),
    ("HOSTTYPE", "x86_64"), ("MACHTYPE", machineType), ("OSTYPE", "linux-gnu"),
    ("IFS", " \t\n"), ("OPTERR", "1")]

/-- The texts of variables that the environment does not give. -/
def defaultTexts : List (String × String) :=
  [("PS4", "+ "), ("SHELL", "/bin/bash"), ("TERM", "dumb"), ("PATH", defaultPath)]

/-- The numbers that cannot be changed. -/
def fixedNumbers (parent : Pid) : List (String × Nat) :=
  [("PPID", parent), ("UID", userNumber), ("EUID", userNumber)]

/-- The state of a shell with the variables that it begins with. -/
def initialState (image : Image) (pid parent : Pid) (directory : String) : State :=
  let state : State :=
    { dialect := .extended, name := image.name, pid, parent, flags := initialFlags
      features := initialFeatures, lastArgument := image.name }
  let state := image.environment.foldl importEntry state
  let level := nextLevel (state.value? "SHLVL")
  let state := (fixedTexts image.name).foldl (fun state (name, value) =>
    let isExported := (state.stored? name).any Variable.isExported
    state.putVariable name { value := some value, isExported }) state
  let state := defaultTexts.foldl (fun state (name, value) =>
    if (state.stored? name).isSome then state
    else state.putVariable name { value := some value }) state
  let state := (fixedNumbers parent).foldl (fun state (name, number) =>
    state.putVariable name
      { value := some (toString number), isReadOnly := true, isInteger := true }) state
  let parts := ["5", "2", "21", "1", "release", machineType]
  let state := state.putVariable "BASH_VERSINFO"
    { value := some "", isReadOnly := true, shape := .indexed
      elements := parts.zipIdx.map fun (text, i) => (toString i, text) }
  let state := state.putVariable "OPTIND" { value := some "1", isInteger := true }
  let state := state.putVariable "SHLVL" { value := some (toString level), isExported := true }
  let state := state.putVariable "OLDPWD" { value := none, isExported := true }
  state.putVariable "PWD" { value := some directory, isExported := true }

end CommandShell.Machine.SystemShell.Extended
