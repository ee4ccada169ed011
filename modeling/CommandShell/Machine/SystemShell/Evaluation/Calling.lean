import CommandShell.Machine.SystemShell.Evaluation.Settling
set_option autoImplicit false

/-!
# Simple commands

Assignments and words: what the words stand for, which variables change for how long, and whether a
function, a builtin command or a program is called.
-/

namespace CommandShell.Machine.SystemShell

/-! ## Variables that change for a while -/

/-- Does something after which variables have their values back. -/
def keepingVariables (names : List String) (body : Eval Nat) : Eval Nat := do
  if names.isEmpty then body
  else
    let before := (← get).bindings
    let putBackAll : Eval Unit := modify fun state =>
      names.foldl (fun state name =>
        match before.lookup name with
        | some old => state.putVariable name old
        | none => state.dropVariable name) state
    let status ← tryCatch body fun jump => do
      putBackAll
      throw jump
    putBackAll
    return status

/-! ## Functions and builtin commands -/

/-- Runs a builtin command, which names itself in complaints.  An error ends the script only if
`isSpecial`. -/
def runBuiltin (runner : Runner) (isSpecial : Bool) (name : String) (arguments : List String)
    (builtin : Builtin) : Eval Nat := do
  let before := (← get).builtin
  let restore : Eval Unit := modify fun state => { state with builtin := before }
  modify fun state => { state with builtin := some name }
  let status ← tryCatch (builtin runner arguments) fun jump => do
    restore
    match jump with
    | .fail status => if isSpecial then throw jump else return status
    | jump => throw jump
  restore
  return status

/-- Puts back what functions have changed in the variables that belong to them. -/
def restoreLocals (before : List (String × Option Variable)) : Eval Unit := do
  for (name, old) in (← get).locals do
    modify fun state =>
      match old with
      | some old => state.putVariable name old
      | none => state.dropVariable name
  modify fun state => { state with locals := before }

/-- Calls a function. -/
def callFunction (runner : Runner) (name : String) (f : Function) (arguments : List String) :
    Eval Nat := do
  let before ← get
  let restore : Eval Unit := do
    modify fun state => { state with
      arguments := before.arguments, loops := before.loops, frames := before.frames
      functionDepth := before.functionDepth, optionOffset := before.optionOffset }
    restoreLocals before.locals
  let frame : Frame := { name, source := f.source, line := before.line }
  modify fun state => { state with
    arguments, loops := 0, functionDepth := state.functionDepth + 1, locals := []
    frames := frame :: state.frames, builtin := none }
  let status ← tryCatch (runReturning (runner.command false f.body)) fun jump => do
    restore
    throw jump
  -- A script for the ends of functions belongs to this one still.
  modify fun state => { state with status }
  if ← speaksExtended then runOccasion runner returnTrap
  restore
  return status

/-- Calls a function that does not share the script for the ends of functions, unless the options
say so. -/
def callApart (call : Eval Nat) : Eval Nat := do
  let before ← get
  match before.traps.lookup returnTrap with
  | some action =>
    if before.flags.contains 'T' then return ← call
    let restore : Eval Unit := modify fun state =>
      if state.traps.any (·.1 = returnTrap) then state
      else { state with traps := (returnTrap, action) :: state.traps }
    modify fun state => { state with traps := state.traps.filter (·.1 ≠ returnTrap) }
    let status ← tryCatch call fun jump => do
      restore
      throw jump
    restore
    return status
  | none => call

/-! ## The plain dialect -/

/-- A builtin command that takes assignments as arguments. -/
def takesAssignments (name : String) : Bool :=
  name = "export" || name = "readonly" || name = "local"

/-- Expands the words of a command.  An assignment among the arguments of a command that takes them
is not split. -/
def expandCommand (expander : Expander) : List (List Part) → Eval (List String)
  | [] => return []
  | first :: rest => do
    let fields ← expandWord expander first
    match fields with
    | [] => expandCommand expander rest
    | name :: _ =>
      if takesAssignments name then
        let words ← rest.mapM fun parts =>
          match assignment? parts with
          | some (.assign variableName _ _ value) => do
            return [variableName ++ "=" ++ (← expandValue expander value)]
          | none => expandWord expander parts
        return fields ++ words.flatten
      else return fields ++ (← expandWords expander rest)

/-- The words of a command without a leading `command`, if that only says how the others are to be
looked for; with it, whether it stood there. -/
def withoutCommandWord : (fuel : Nat) → List String → List String × Bool
  | 0, words => (words, false)
  | fuel + 1, words =>
    match words with
    | "command" :: rest =>
      match rest with
      | "-p" :: "--" :: name :: arguments | "-p" :: name :: arguments | "--" :: name :: arguments
      | name :: arguments =>
        if name.startsWith "-" then (words, false)
        else ((withoutCommandWord fuel (name :: arguments)).1, true)
      | [] => (words, false)
    | words => (words, false)

/-- Gives variables values, one after another; a value may refer to the ones before.  The result
shows the assignments. -/
def assignAll (expander : Expander) (exported : Bool) : List Assignment → Eval (List String)
  | [] => return []
  | .assign name _ _ parts :: rest => do
    let value ← expandValue expander parts
    setVariable name value exported
    return (name ++ "=" ++ value) :: (← assignAll expander exported rest)

/-- Runs the words of a command. -/
def runWords (runner : Runner) (final : Bool) (plain : Bool) (isSpecial : Bool)
    (words : List String) : Eval Nat := do
  match words with
  | [] => return (← get).outputStatus
  | name :: arguments =>
    let function? ← do
      if plain && !isSpecialBuiltin name then pure ((← get).functions.lookup name) else pure none
    match function?, plainBuiltin? name with
    | some f, _ => callFunction runner name f arguments
    | none, some builtin => runBuiltin runner isSpecial name arguments builtin
    | none, none =>
      if name.contains '/' then runProgram final words
      else
        match ← searchProgram name with
        | .ok _ => runProgram final words
        | .error errno =>
          warn (name ++ ": " ++ programFault errno)
          return 127

/-- Runs a command whose redirections stay as they are afterwards. -/
def redirectingForGood (prepared : List PreparedRedirection) (failed body : Eval Nat) :
    Eval Nat := do
  let (kept, succeeded) ← redirectAll true prepared
  if !succeeded then
    putBack kept
    failed
  else
    let status ← body
    forgetKept kept
    return status

/-- Runs a simple command of the plain dialect. -/
def runPlain (runner : Runner) (final : Bool) (assignments : List Assignment)
    (words : List (List Part)) (redirections : List Redirection) : Eval Nat := do
  modify fun state => { state with outputStatus := 0 }
  let expander := runner.expander
  let words ← expandCommand expander words
  let (words, isPrefixed) := withoutCommandWord words.length words
  let name := words.head?.getD ""
  let isSpecial := !isPrefixed && isSpecialBuiltin name
  let body : Eval Nat := do
    let keepsValues := words.isEmpty || isSpecial
    let names := if keepsValues then [] else assignments.map Assignment.name
    keepingVariables names do
      let exported := !keepsValues || (isSpecial && name = "exec")
      let shown ← assignAll expander exported assignments
      trace expander (" ".intercalate (shown ++ words))
      runWords runner final (!isPrefixed) isSpecial words
  let failed : Eval Nat := do
    if isSpecial then
      modify fun state => { state with status := 2 }
      throw (.fail 2)
    else return 2
  if name = "exec" then
    let some prepared ← prepareRedirections expander redirections | failed
    redirectingForGood prepared failed body
  else redirected expander redirections failed body

/-! ## The extended dialect -/

/-- The words of a call once they have been expanded. -/
structure ExpandedCall where
  words : List String
  /-- The further arguments of a command that declares variables. -/
  declared : List Declared := []

/-- All words of a call. -/
def ExpandedCall.all (call : ExpandedCall) : List String :=
  call.words ++ call.declared.map Declared.asWord

/-- Expands the words of a call. -/
def expandCall (expander : Expander) : List (List Part) → Eval ExpandedCall
  | [] => return { words := [] }
  | first :: rest => do
    match ← expandWord expander first with
    | [] => expandCall expander rest
    | [name] =>
      if name = "command" || name = "builtin" then
        let inner ← expandCall expander rest
        return { inner with words := name :: inner.words }
      if (declaration? name).isSome then
        let declared ← rest.mapM (expandDeclared expander)
        return { words := [name], declared := declared.flatten }
      return { words := name :: (← expandWords expander rest) }
    | fields => return { words := fields ++ (← expandWords expander rest) }

/-- What a name of a call may stand for. -/
inductive NameUse where
  | anything
  /-- A builtin command or a program. -/
  | noFunction
  | onlyBuiltin
  deriving DecidableEq

/-- A call without the words that only say how its name is to be looked for. -/
def ExpandedCall.withoutFront (call : ExpandedCall) : (fuel : Nat) → NameUse →
    NameUse × ExpandedCall
  | 0, use => (use, call)
  | fuel + 1, use =>
    let next (words : List String) (use : NameUse) : NameUse × ExpandedCall :=
      ({ call with words } : ExpandedCall).withoutFront fuel use
    match call.words with
    | "command" :: "-p" :: "--" :: name :: rest | "command" :: "-p" :: name :: rest
    | "command" :: "--" :: name :: rest | "command" :: name :: rest =>
      if name.startsWith "-" then (use, call)
      else next (name :: rest) (if use = .anything then .noFunction else use)
    | "builtin" :: "--" :: name :: rest | "builtin" :: name :: rest =>
      next (name :: rest) .onlyBuiltin
    | _ => (use, call)

/-- Shows the words of a call before it is made. -/
def traceCall (expander : Expander) (call : ExpandedCall) : Eval Unit := do
  for argument in call.declared do
    if let .list name appends elements := argument then
      trace expander (name ++ (if appends then "+=" else "=") ++ shownList elements)
  trace expander (" ".intercalate (call.all.map tracedWord))
  if call.words = ["export"] || call.words = ["readonly"] then
    for argument in call.declared do
      if let .value name key appends text := argument then
        trace expander (namedWith name key ++ (if appends then "+=" else "=")
          ++ Quoting.asNeeded text)

/-- Runs a program that is called by a name without a slash. -/
def runNamedProgram (runner : Runner) (final : Bool) (words : List String) : Eval Nat := do
  let name := words.head?.getD ""
  if (((← get).value? "PATH").getD "") = "" && name ≠ "" then
    warnOutside (name ++ ": No such file or directory")
    return 127
  match ← locateProgram name with
  | .ok _ => runProgram final words
  | .error _ =>
    match (← get).functions.lookup "command_not_found_handle" with
    | some f => callFunction runner "command_not_found_handle" f words
    | none =>
      warnOutside (name ++ ": command not found")
      return 127

/-- Makes a call. -/
def makeCall (runner : Runner) (final : Bool) (use : NameUse) (call : ExpandedCall) :
    Eval Nat := do
  let state ← get
  let words := call.all
  match words with
  | [] => return state.outputStatus
  | name :: arguments =>
    let function? := if use = .anything then state.functions.lookup name else none
    match function?, state.builtin? name with
    | some f, _ => callApart (callFunction runner name f arguments)
    | none, some builtin =>
      let builtin : Builtin :=
        match call.words, declaration? name with
        | [_], some declaration => fun _ _ => declaration call.declared
        | _, _ => builtin
      runBuiltin runner false name arguments builtin
    | none, none =>
      if use = .onlyBuiltin then
        warnOutside ("builtin: " ++ name ++ ": not a shell builtin")
        return 1
      if name.contains '/' then runProgram final words
      else runNamedProgram runner final words

/-- Carries out assignments, and shows them. -/
def assignShowing (expander : Expander) : List Assignment → Eval Unit
  | [] => return
  | assignment :: rest => do
    assign expander false (trace expander) assignment
    assignShowing expander rest

/-- Carries out assignments for a call.  One that fails leaves its variable as it is. -/
def assignForCall (expander : Expander) : List Assignment → Eval Unit
  | [] => return
  | assignment :: rest => do
    tryCatch (assign expander true (trace expander) assignment) fun jump => do
      match jump with
      | .fail _ => return
      | jump => throw jump
    assignForCall expander rest

/-- Runs a simple command of the extended dialect. -/
def runExtended (runner : Runner) (final : Bool) (assignments : List Assignment)
    (words : List (List Part)) (redirections : List Redirection) : Eval Nat := do
  modify fun state => { state with outputStatus := 0 }
  let expander := runner.expander
  let call ← expandCall expander words
  if call.all.isEmpty then
    assignShowing expander assignments
    let status := (← get).outputStatus
    modify fun state => { state with lastArgument := "" }
    redirected expander redirections (return 1) (return status)
  else
    let prepared? ← prepareRedirections expander redirections
    let status ← keepingVariables (assignments.map Assignment.name) do
      assignForCall expander assignments
      traceCall expander call
      let some prepared := prepared? | return 1
      let (use, call) := call.withoutFront call.words.length .anything
      let name := call.words.head?.getD ""
      let isFunction := use = .anything && ((← get).functions.lookup name).isSome
      let body := makeCall runner final use call
      if name = "exec" && !isFunction then redirectingForGood prepared (return 1) body
      else withRedirections prepared (return 1) body
    modify fun state => { state with lastArgument := call.all.getLast?.getD "" }
    return status

/-- Runs a simple command. -/
def runSimple (runner : Runner) (final : Bool) (assignments : List Assignment)
    (words : List (List Part)) (redirections : List Redirection) : Eval Nat := do
  if ← speaksExtended then runExtended runner final assignments words redirections
  else runPlain runner final assignments words redirections

end CommandShell.Machine.SystemShell
