import CommandShell.Machine.SystemShell.Builtin.Aliases
import CommandShell.Machine.SystemShell.Builtin.Declaring
set_option autoImplicit false

/-!
# What names stand for

How the shell tells what it would run by a name, and where it remembers programs to be.
-/

namespace CommandShell.Machine.SystemShell

/-! ## The plain dialect -/

/-- The commands whose errors end the script, and that keep assignments before them. -/
def isSpecialBuiltin (name : String) : Bool := specialBuiltins.contains name

/-- The names of the other builtin commands. -/
def regularBuiltins : List String :=
  ["[", "alias", "bg", "cd", "chdir", "command", "echo", "false", "fg", "getopts", "hash", "jobs",
    "kill", "local", "printf", "pwd", "read", "test", "true", "type", "ulimit", "umask",
    "unalias", "wait"]

/-- The name belongs to a builtin command. -/
def isBuiltin (name : String) : Bool := isSpecialBuiltin name || regularBuiltins.contains name

/-- Tells what a name stands for; shortly, or in words.  False if it stands for nothing. -/
def describeCommand (inWords : Bool) (name : String) : Eval Bool := do
  let say (short long : String) : Eval Bool := do
    let _ ← putText ((if inWords then name ++ " is " ++ long else short) ++ "\n")
    return true
  if ((Keyword.spellings .plain).lookup name).isSome then say name "a shell keyword"
  else if let some value := (← get).aliases.lookup name then
    if inWords then say "" ("an alias for " ++ value)
    else
      let _ ← putText ("alias " ++ shownAlias name value)
      return true
  else if ((← get).functions.lookup name).isSome then say name "a shell function"
  else if isSpecialBuiltin name then say name "a special shell builtin"
  else if isBuiltin name then say name "a shell builtin"
  else
    let found ←
      if name.contains '/' then do
        pure ((← doCall (.stat name true)).map fun _ => name)
      else searchProgram name
    match found with
    | .ok path => say path path
    | .error _ =>
      if inWords then
        let _ ← putText (name ++ ": not found\n")
      return false

/-- Tells what names stand for. -/
def typeNames : Builtin := fun _ arguments => do
  let mut status := 0
  for name in arguments do
    if !(← describeCommand true name) then status := 127
  return status

/-- Tells what a name stands for. -/
def commandQuery (letters : List Char) (words : List String) : Eval Nat := do
  match words with
  | [] => return 0
  | name :: _ => return if ← describeCommand (letters.contains 'V') name then 0 else 127

/-- Looks for programs. -/
def hashNames : Builtin := fun _ arguments => do
  let (_, words) ← takeOptions "rv" arguments
  let mut status := 0
  for name in words do
    if let .error _ ← searchProgram name then
      warn (name ++ ": not found")
      status := 1
  return status

/-! ## Builtin commands of the extended dialect -/

/-- The names of the builtin commands. -/
def extendedBuiltins : List String :=
  [".", ":", "[", "alias", "bg", "bind", "break", "builtin", "caller", "cd", "command", "compgen",
    "complete", "compopt", "continue", "declare", "dirs", "disown", "echo", "enable", "eval",
    "exec", "exit", "export", "false", "fc", "fg", "getopts", "hash", "help", "history", "jobs",
    "kill", "let", "local", "logout", "mapfile", "popd", "printf", "pushd", "pwd", "read",
    "readarray", "readonly", "return", "set", "shift", "shopt", "source", "suspend", "test",
    "times", "trap", "true", "type", "typeset", "ulimit", "umask", "unalias", "unset", "wait"]

/-- The name belongs to a builtin command that is in use. -/
def State.usesBuiltin (state : State) (name : String) : Bool :=
  extendedBuiltins.contains name && !state.disabled.contains name

/-- How `enable` is used. -/
def enableUsage : String := "enable [-a] [-dnps] [-f filename] [name ...]"

/-- Takes builtin commands into use, or out of it, or lists them. -/
def enableBuiltins : Builtin := fun _ arguments => do
  let (options, names) ← extendedOptions enableUsage "adnpsf:" arguments
  let disables := hasOption options 'n'
  if names.isEmpty || hasOption options 'p' then
    let disabled := (← get).disabled
    let special := "source" :: specialBuiltins
    let lines := extendedBuiltins.filterMap fun name =>
      let isDisabled := disabled.contains name
      if hasOption options 's' && !special.contains name then none
      else if !hasOption options 'a' && isDisabled ≠ disables then none
      else some ("enable " ++ (if isDisabled then "-n " else "") ++ name ++ "\n")
    putText (String.join lines)
  else
    let mut status := 0
    for name in names do
      if !extendedBuiltins.contains name then
        warn (name ++ ": not a shell builtin")
        status := 1
      else
        modify fun state =>
          let others := state.disabled.filter (· ≠ name)
          { state with disabled := if disables then name :: others else others }
    return status

/-! ## Programs that have been found -/

/-- How many places the table of programs has. -/
def programPlaces : Nat := 256

/-- The programs that have been found, in the order in which they are listed. -/
def State.listedPrograms (state : State) : List (String × String × Nat) :=
  state.found.mergeSort fun a b =>
    tablePlace a.1 % programPlaces ≤ tablePlace b.1 % programPlaces

/-- Remembers where a program is, and how often it has been called. -/
def State.notePath (state : State) (name path : String) (calls : Nat) : State :=
  { state with found := (name, path, calls) :: state.found.filter (·.1 ≠ name) }

/-- Where a program is that is called by a name without a slash; it is remembered. -/
def locateProgram (name : String) : Eval (Except Errno String) := do
  match (← get).found.lookup name with
  | some (path, calls) =>
    modify fun state => state.notePath name path (calls + 1)
    return .ok path
  | none =>
    match ← searchProgram name with
    | .ok path =>
      if Path.isAbsolute path then modify fun state => state.notePath name path 1
      return .ok path
    | .error errno => return .error errno

/-- How `hash` is used. -/
def hashUsage : String := "hash [-lr] [-p pathname] [-dt] [name ...]"

/-- Shows where programs have been found. -/
def showPrograms (asStatements withNames : Bool) (names : List String) : Eval Nat := do
  let mut status := 0
  for name in names do
    match (← get).found.lookup name with
    | some (path, _) =>
      let _ ← putText
        (if asStatements then "builtin hash -p " ++ path ++ " " ++ name ++ "\n"
        else if withNames then name ++ "\t" ++ path ++ "\n" else path ++ "\n")
    | none =>
      warn (name ++ ": not found")
      status := 1
  return status

/-- A number in so many places. -/
def paddedLeft (width : Nat) (text : String) : String :=
  String.ofList (List.replicate (width - text.length) ' ') ++ text

/-- Remembers, lists or forgets programs. -/
def extendedHash : Builtin := fun _ arguments => do
  let (options, names) ← extendedOptions hashUsage "dlp:rt" arguments
  let asStatements := hasOption options 'l'
  if hasOption options 'r' then modify fun state => { state with found := [] }
  if names.isEmpty then
    if hasOption options 'r' then return 0
    if hasOption options 't' then refuseCommand "-t: option requires an argument"
    let listed := (← get).listedPrograms
    if listed.isEmpty then
      if asStatements then return 0 else putText "hash: hash table empty\n"
    else if asStatements then showPrograms true false (listed.map Prod.fst)
    else
      let lines := listed.map fun (_, path, calls) =>
        paddedLeft 4 (toString calls) ++ "\t" ++ path ++ "\n"
      putText ("hits\tcommand\n" ++ String.join lines)
  else if hasOption options 't' then showPrograms asStatements (names.length > 1) names
  else
    let mut status := 0
    for name in names do
      if hasOption options 'd' then
        if ((← get).found.lookup name).isSome then
          modify fun state => { state with found := state.found.filter (·.1 ≠ name) }
        else
          warn (name ++ ": not found")
          status := 1
      else if let some path := optionValue? options 'p' then
        modify fun state => state.notePath name path 0
      else if name.contains '/' || (← get).usesBuiltin name
          || ((← get).functions.lookup name).isSome then pure ()
      else
        match ← searchProgram name with
        | .ok path => modify fun state => state.notePath name path 0
        | .error _ =>
          warn (name ++ ": not found")
          status := 1
    return status

/-! ## Names in the extended dialect -/

/-- How a name is described. -/
inductive Description where
  /-- As it can be used. -/
  | short
  | inWords
  /-- By one word for its kind. -/
  | kind
  /-- By the path of a program. -/
  | path
  deriving DecidableEq

/-- What is looked for. -/
structure LookupRules where
  description : Description
  /-- Everything that the name can stand for. -/
  all : Bool := false
  skipsFunctions : Bool := false
  /-- Programs and nothing else. -/
  onlyPrograms : Bool := false

/-- The reserved words of the extended dialect. -/
def isReserved (name : String) : Bool :=
  ((Keyword.spellings .extended).lookup name).isSome || name = "]]" || name = "coproc"

/-- The programs of a name in the search path. -/
def programsNamed (name : String) : Eval (List String) := do
  let paths := (← get).searchPath.map fun directory =>
    if directory = "" then "./" ++ name else directory ++ "/" ++ name
  paths.filterM fun path => do
    return match ← doCall (.stat path true) with
      | .ok info => info.kind = .regular && info.permits .execute
      | .error _ => false

/-- The files that a name stands for. -/
def filesNamed (rules : LookupRules) (name : String) : Eval (List (String × Bool)) := do
  if name.contains '/' then
    match ← doCall (.stat name true) with
    | .ok info =>
      return if info.kind = .regular && info.permits .execute then [(name, false)] else []
    | .error _ => return []
  match rules.all, (← get).found.lookup name with
  | false, some (path, _) => return [(path, rules.description = .inWords)]
  | _, _ =>
    let found := (← programsNamed name).map fun path => (path, false)
    return if rules.all then found else found.take 1

/-- What is written about a name; nothing if it stands for nothing. -/
def describeName (rules : LookupRules) (name : String) : Eval (List String) := do
  let state ← get
  let say (short long kind : String) : String :=
    match rules.description with
    | .short => short ++ "\n"
    | .inWords => name ++ " is " ++ long ++ "\n"
    | .kind => kind ++ "\n"
    | .path => ""
  let own : List String :=
    if rules.onlyPrograms then []
    else
      let alias? := if state.features.contains "expand_aliases" then state.aliases.lookup name
        else none
      let aliases := alias?.toList.map fun value =>
        say ("alias " ++ name ++ "=" ++ Quoting.singleQuoted value)
          ("aliased to \u0060" ++ value ++ "'") "alias"
      let keywords := if isReserved name then [say name "a shell keyword" "keyword"] else []
      let functions :=
        if rules.skipsFunctions then []
        else (state.functions.lookup name).toList.map fun f =>
          let text := say name "a function" "function"
          if rules.description = .inWords then text ++ Printing.functionText name f.body else text
      let builtins := if state.usesBuiltin name then [say name "a shell builtin" "builtin"] else []
      aliases ++ keywords ++ functions ++ builtins
  if !own.isEmpty && !rules.all then return own.take 1
  let files ← filesNamed rules name
  let shown := files.map fun (path, isRemembered) =>
    if rules.description = .path then path ++ "\n"
    else say path (if isRemembered then "hashed (" ++ path ++ ")" else path) "file"
  return own ++ shown

/-- Tells what names stand for, as the extended dialect does. -/
def extendedType : Builtin := fun _ arguments => do
  let (options, names) ← extendedOptions "type [-afptP] name [name ...]" "afptP" arguments
  let onlyPath := hasOption options 'P'
  let description : Description :=
    if hasOption options 't' then .kind
    else if onlyPath || hasOption options 'p' then .path else .inWords
  let rules : LookupRules :=
    { description, all := hasOption options 'a', skipsFunctions := hasOption options 'f'
      onlyPrograms := onlyPath }
  let mut status := 0
  for name in names do
    let texts ← describeName rules name
    if texts.isEmpty then
      if description = .inWords then warn (name ++ ": not found")
      status := 1
    let _ ← putText (String.join texts)
  return status

/-- How `command` is used. -/
def commandUsage : String := "command [-pVv] command [arg ...]"

/-- Tells what names stand for, as the `command` of the extended dialect does. -/
def extendedCommand : Builtin := fun _ arguments => do
  let (options, names) ← extendedOptions commandUsage "pVv" arguments
  let inWords := (options.filter (·.letter ≠ 'p')).getLast?.any (·.letter = 'V')
  if !hasOption options 'v' && !inWords then return 0
  let rules : LookupRules := { description := if inWords then .inWords else .short }
  let mut found := false
  for name in names do
    let texts ← describeName rules name
    if texts.isEmpty then
      if inWords then warn (name ++ ": not found")
    else
      found := true
      let _ ← putText (String.join texts)
  return if found || names.isEmpty then 0 else 1

/-! ## Calls under way -/

/-- Tells from where a function or a script has been called. -/
def tellCaller : Builtin := fun _ arguments => do
  let frames := (← get).frames
  match arguments with
  | [] =>
    match frames with
    | [] => return 1
    | frame :: others =>
      let source := (others.head?.map Frame.source).getD "NULL"
      putText (toString frame.line ++ " " ++ source ++ "\n")
  | word :: _ =>
    match signedNumber? word with
    | some (.ofNat n) =>
      match frames[n]?, frames[n + 1]? with
      | some frame, some outer =>
        putText (toString frame.line ++ " " ++ outer.name ++ " " ++ outer.source ++ "\n")
      | _, _ => return 1
    | _ =>
      warn (word ++ ": invalid number")
      refuseUse "caller [expr]"

end CommandShell.Machine.SystemShell
