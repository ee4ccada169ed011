import CommandShell.Machine.SystemShell.Evaluation
set_option autoImplicit false

/-!
# The plain shell as a program

It runs a script that is an argument, in a file or on standard input.
-/

namespace CommandShell.Machine.SystemShell

/-- How many commands a script has at most, and blocks. -/
def maxCommands : Nat := 1000000

/-- Runs the commands of a source. -/
def runAll (final : Bool) (source : Source) : Eval Nat :=
  runSource (runner maxDepth) final maxCommands source 0

/-- Puts a descriptor where scripts do not meet it. -/
def setApart (opened : Descriptor) : Eval Descriptor := do
  match ← doCall (.keep opened leastKeeper) with
  | .ok descriptor =>
    let _ ← doCall (.close opened)
    return descriptor
  | .error _ => return opened

/-- The script on standard input. -/
def inputSource : Source :=
  { supply := .descriptor standardInput, bytes := .empty, atEnd := false, isFile := true }

/-- The script in a file that has been opened. -/
def fileSource (descriptor : Descriptor) : Source :=
  { supply := .descriptor descriptor, bytes := .empty, atEnd := false, isFile := true }

namespace Plain

/-- What the shell has been asked to run. -/
structure Invocation where
  /-- The script is the first argument. -/
  hasText : Bool := false
  arguments : List String

/-- Understands the options before a script. -/
def readInvocation (hasText : Bool) : List String → Eval Invocation
  | [] => return ⟨hasText, []⟩
  | "-" :: rest | "--" :: rest => return ⟨hasText, rest⟩
  | word :: rest => do
    match word.toList with
    | sign :: letters =>
      if sign ≠ '-' && sign ≠ '+' then return ⟨hasText, word :: rest⟩
      let wantsText := letters.contains 'c'
      for letter in letters do
        if letter ≠ 'c' && letter ≠ 'l' && letter ≠ 'o' then
          if !"efIimnsxvVECabup".contains letter then
            fail ("Illegal option -" ++ letter.toString)
          setFlag (sign = '-') letter
      match letters.contains 'o', rest with
      | true, name :: rest =>
        match plainOptionNames.lookup name with
        | some flag =>
          setFlag (sign = '-') flag
          readInvocation (hasText || wantsText) rest
        | none => fail ("Illegal option -o " ++ name)
      | _, rest => readInvocation (hasText || wantsText) rest
    | [] => return ⟨hasText, word :: rest⟩

/-- Runs the script in a file, which gives the shell its name. -/
def runScriptFile (path : String) (arguments : List String) : Eval Nat := do
  match ← doCall (.openFile path .input) with
  | .error errno =>
    let reason := match errno with
      | .noEntry | .notDirectory => "No such file"
      | errno => errno.description
    fail ("cannot open " ++ path ++ ": " ++ reason)
  | .ok opened =>
    let descriptor ← setApart opened
    modify fun state => { state with name := path, arguments, line := 1 }
    runAll false (fileSource descriptor)

/-- Runs what the arguments say. -/
def runInvocation (words : List String) : Eval Nat := do
  match ← readInvocation false words with
  | ⟨true, []⟩ => fail "-c requires an argument"
  | ⟨true, text :: rest⟩ =>
    modify fun state =>
      { state with name := rest.head?.getD state.name, arguments := rest.drop 1, line := 1 }
    runAll true { supply := .nothing, bytes := Text.toBytes text, atEnd := true }
  | ⟨false, arguments⟩ =>
    match arguments, (← get).flags.contains 's' with
    | path :: rest, false => runScriptFile path rest
    | arguments, _ =>
      setFlag true 's'
      modify fun state => { state with arguments, line := 1 }
      runAll false inputSource

/-- The state of a shell with the variables that it begins with. -/
def initialState (image : Image) (pid parent : Pid) (directory : String) : State :=
  let given := image.environment.filter fun (name, _) => isName name
  let fixed := [("IFS", " \t\n"), ("OPTIND", "1"), ("PPID", toString parent), ("PS1", "$ "),
    ("PS2", "> "), ("PS4", "+ ")]
  let state : State := { name := image.name, pid, parent, line := 0 }
  let state := given.foldl (fun state (name, value) =>
    state.putVariable name { value := some value, isExported := true }) state
  let state := fixed.foldl (fun state (name, value) =>
    let isExported := (state.stored? name).any Variable.isExported
    state.putVariable name { value := some value, isExported }) state
  let state := if (state.stored? "PATH").isSome then state
    else state.putVariable "PATH" { value := some defaultPath }
  state.putVariable "PWD" { value := some directory, isExported := true }

end Plain

end CommandShell.Machine.SystemShell
