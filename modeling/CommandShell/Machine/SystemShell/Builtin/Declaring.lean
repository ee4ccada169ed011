import CommandShell.Machine.SystemShell.Assigning
import CommandShell.Machine.SystemShell.Builtin.Variables
import CommandShell.Machine.SystemShell.Substitution
set_option autoImplicit false

/-!
# Declarations

How the extended dialect gives variables and functions attributes, lists them and forgets them.
-/

namespace CommandShell.Machine.SystemShell

/-! ## Arguments -/

/-- An argument of a command that declares variables. -/
inductive Declared where
  | word (text : String)
  | value (name : String) (key : Key) (appends : Bool) (value : String)
  | list (name : String) (appends : Bool) (elements : List GivenElement)

/-- The argument that a word is. -/
def Declared.ofWord (word : String) : Declared :=
  let cs := word.toList
  let front := cs.takeWhile (· ≠ '=')
  match cs.drop front.length with
  | [] => .word word
  | _ :: rest =>
    let appends := front.getLast? = some '+'
    let target := String.ofList (if appends then front.dropLast else front)
    if isElementName target then
      let (name, key) := splitReference target
      .value name key appends (String.ofList rest)
    else .word word

/-- An argument as a word. -/
def Declared.asWord : Declared → String
  | .word text => text
  | .value name key appends text => namedWith name key ++ (if appends then "+=" else "=") ++ text
  | .list name _ _ => name

/-- Expands an argument that may be an assignment. -/
def expandDeclared (expander : Expander) (parts : List Part) : Eval (List Declared) := do
  match assignment? parts with
  | some (.assign name subscript appends value) =>
    match listElements? value with
    | some elements => return [.list name appends (← expandElements expander elements)]
    | none =>
      let key ← expandSubscript expander subscript
      return [.value name key appends (← expandValue expander value)]
  | none => return (← expandWord expander parts).map .ofWord

/-! ## Listing -/

/-- The statement that declares a variable as it is. -/
def shownDeclaration (name : String) (v : Variable) : String :=
  let letters := attributeLetters v
  let value := match v.shape, v.value with
    | _, none => ""
    | .single, some value => "=" ++ Quoting.asValue value
    | _, some _ => "=" ++ shownElements v
  "declare -" ++ (if letters = "" then "-" else letters) ++ " " ++ name ++ value ++ "\n"

/-- A variable and its value, if it has one. -/
def shownSetting (name : String) (v : Variable) : String :=
  match v.shape, v.value with
  | _, none => ""
  | .single, some value => name ++ "=" ++ Quoting.asNeeded value ++ "\n"
  | _, some _ => name ++ "=" ++ shownElements v ++ "\n"

/-- Functions in order of their names. -/
def sortedFunctions (state : State) : List (String × Function) :=
  state.functions.mergeSort fun a b => a.1 ≤ b.1

/-- The letters of the attributes of a function. -/
def functionLetters (f : Function) : String :=
  "f" ++ (if f.isReadOnly then "r" else "") ++ (if f.isExported then "x" else "")

/-- The statement that gives a function its attributes. -/
def shownFunctionName (name : String) (f : Function) : String :=
  "declare -" ++ functionLetters f ++ " " ++ name ++ "\n"

/-- The definition of a function, with its attributes if it has any. -/
def shownFunction (name : String) (f : Function) : String :=
  Printing.functionText name f.body
    ++ (if f.isReadOnly || f.isExported then shownFunctionName name f else "")

/-- Lists all variables with their values, and all functions. -/
def listSettings : Eval Nat := do
  let state ← get
  let settings := (sortedVariables state).map fun (name, v) => shownSetting name v
  let functions := (sortedFunctions state).map fun (name, f) => Printing.functionText name f.body
  putText (String.join (settings ++ functions))

/-- The variable has what a letter stands for. -/
def Variable.hasAttribute (v : Variable) (letter : Char) : Bool :=
  match letter with
  | 'a' => v.shape = .indexed
  | 'A' => v.shape = .associative
  | 'i' => v.isInteger
  | 'n' => v.isReference
  | 'r' => v.isReadOnly
  | 'x' => v.isExported
  | 'l' => v.letters = some .lower
  | 'u' => v.letters = some .upper
  | _ => true

/-- Lists the declarations of the variables that have all of some attributes. -/
def listDeclarations (letters : List Char) : Eval Nat := do
  let chosen := (sortedVariables (← get)).filter fun (_, v) => letters.all v.hasAttribute
  putText (String.join (chosen.map fun (name, v) => shownDeclaration name v))

/-- Shows the declarations of variables. -/
def showDeclarations (names : List String) : Eval Nat := do
  let mut status := 0
  for name in names do
    match (← get).stored? name with
    | some v =>
      let _ ← putText (shownDeclaration name v)
    | none =>
      if ((← get).ownList? name).isSome then
        let _ ← putText (shownDeclaration name { (← get).variableOf name with value := some "" })
      else
        warn (name ++ ": not found")
        status := 1
  return status

/-- Shows functions: their definitions, or their names alone. -/
def showFunctions (namesOnly : Bool) (names : List String) : Eval Nat := do
  let mut status := 0
  for name in names do
    match (← get).functions.lookup name with
    | some f =>
      let _ ← putText (if namesOnly then name ++ "\n" else shownFunction name f)
    | none => status := 1
  return status

/-! ## Attributes -/

/-- A variable with an attribute given or taken away. -/
def GivenOption.applyTo (option : GivenOption) (v : Variable) : Variable :=
  let isOn := !option.isOff
  let change (letters : CaseChange) : Option CaseChange :=
    if isOn then some letters else if v.letters = some letters then none else v.letters
  match option.letter with
  | 'i' => { v with isInteger := isOn }
  | 'x' => { v with isExported := isOn }
  | 'l' => { v with letters := change .lower }
  | 'u' => { v with letters := change .upper }
  | 'n' => { v with isReference := isOn }
  | 'a' => if isOn then v.withShape .indexed else v
  | 'A' => if isOn then v.withShape .associative else v
  | _ => v

/-- A variable with attributes; two ways to change letters are none. -/
def applyOptions (options : List GivenOption) (v : Variable) : Variable :=
  let v := options.foldl (fun v option => option.applyTo v) v
  if hasOption options 'l' && hasOption options 'u' then { v with letters := none } else v

/-- Makes a variable belong to the function under way. -/
def makeLocal (name : String) (inherits : Bool) : Eval Unit := do
  let state ← get
  if state.locals.any (·.1 = name) then return
  let old := state.stored? name
  if old.any Variable.isReadOnly then refuseCommand (name ++ ": readonly variable")
  let new : Variable :=
    if inherits then old.getD { value := none }
    else { value := none, isExported := old.any Variable.isExported }
  set ({ state with locals := (name, old) :: state.locals }.putVariable name new)

/-- The name of a declared variable and its brackets. -/
def Declared.target : Declared → String × Key
  | .word text => if isElementName text then splitReference text else (text, .none)
  | .value name key _ _ => (name, key)
  | .list name _ _ => (name, .none)

/-- The argument gives a value. -/
def Declared.hasValue : Declared → Bool
  | .word _ => false
  | .value .. | .list .. => true

/-- Complains about a word that is no name. -/
def refuseName {α : Type} (word : String) : Eval α :=
  refuseCommand ("\u0060" ++ word ++ "': not a valid identifier")

/-- Refuses changes of the form or protection of a variable. -/
def checkAttributes (options : List GivenOption) (name : String) (v : Variable)
    (hasValue : Bool) : Eval Unit := do
  let takesBack (letter : Char) : Bool :=
    options.any fun option => option.letter = letter && option.isOff
  if v.isReadOnly && (hasValue || takesBack 'r') then
    refuseCommand (name ++ ": readonly variable")
  if hasOption options 'A' && v.shape = .indexed then
    refuseCommand (name ++ ": cannot convert indexed to associative array")
  if hasOption options 'a' && v.shape = .associative then
    refuseCommand (name ++ ": cannot convert associative to indexed array")
  if (takesBack 'a' && v.shape = .indexed) || (takesBack 'A' && v.shape = .associative) then
    refuseCommand (name ++ ": cannot destroy array variables in this way")

/-- Makes a variable stand for another one. -/
def declareReference (name : String) (argument : Declared) : Eval Unit := do
  if let .value _ _ _ value := argument then
    let (target, _) := splitReference value
    if target = name then
      refuseCommand (name ++ ": nameref variable self references not allowed")
    if !isElementName value then
      refuseCommand ("\u0060" ++ value ++ "': invalid variable name for name reference")
    modify fun state =>
      let old := (state.stored? name).getD { value := none }
      state.putVariable name { old with value := some value }

/-- Gives a variable attributes and a value. -/
def declareVariable (options : List GivenOption) (isLocal : Bool) (argument : Declared) :
    Eval Unit := do
  let (name, key) := argument.target
  if !isName name then refuseName argument.asWord
  if isLocal then makeLocal name (hasOption options 'I')
  let isReference := hasOption options 'n'
  let state ← get
  let name := if isReference then name else state.target name maxReferences
  let old := ((← get).stored? name).getD { value := none }
  checkAttributes options name old argument.hasValue
  let shaped := match key, argument with
    | .at _, .word _ => old.withShape .indexed
    | _, _ => old
  modify fun state => state.putVariable name (applyOptions options shaped)
  match argument with
  | .word _ => pure ()
  | .value _ key appends value =>
    if isReference then declareReference name argument
    else assignValue name key appends value
  | .list _ appends elements => assignList name appends elements
  if hasOption options 'r' then
    modify fun state =>
      let v := (state.stored? name).getD { value := none }
      state.putVariable name { v with isReadOnly := true }

/-- Does something for each argument; the status is that of the last failure. -/
def forEachArgument {β : Type} (arguments : List β) (body : β → Eval Unit) : Eval Nat := do
  let mut status := 0
  for argument in arguments do
    let result ← tryCatch (do
        body argument
        return 0)
      fun jump => do
        match jump with
        | .fail status => return status
        | jump => throw jump
    if result ≠ 0 then status := result
  return status

/-- Gives functions attributes. -/
def declareFunctions (options : List GivenOption) (names : List String) : Eval Nat :=
  forEachArgument names fun name => do
    match (← get).functions.lookup name with
    | none => throw (.fail 1)
    | some f =>
      let new := options.foldl (fun (f : Function) option => match option.letter with
        | 'x' => { f with isExported := !option.isOff }
        | 'r' => { f with isReadOnly := true }
        | _ => f) f
      modify fun state => { state with
        functions := (name, new) :: state.functions.filter (·.1 ≠ name) }

/-! ## Commands -/

/-- What is done with the arguments of a command that declares variables. -/
abbrev Declaration := List Declared → Eval Nat

/-- The options of a declaration, and its other arguments. -/
def declarationOptions (usage known : String) (takesBack : Bool) (arguments : List Declared) :
    Eval (List GivenOption × List Declared) := do
  let isOption (argument : Declared) : Bool := match argument with
    | .word text => text.startsWith "-" || text.startsWith "+"
    | _ => false
  let front := arguments.takeWhile isOption
  let (options, rest) ← extendedOptions usage known (front.map Declared.asWord) takesBack
  return (options, rest.map Declared.word ++ arguments.drop front.length)

/-- Declares variables or functions, or shows them. -/
def declareNames (command : String) : Declaration := fun arguments => do
  let isLocalCommand := command = "local"
  let usage := if isLocalCommand then "local [option] name[=value] ..."
    else command ++ " [-aAfFgiIlnrtux] [name[=value] ...] or " ++ command
      ++ " -p [-aAfFilnrtux] [name ...]"
  let inFunction := (← get).functionDepth > 0
  if isLocalCommand && !inFunction then refuseCommand "can only be used in a function"
  let (options, rest) ← declarationOptions usage "aAcfFgiIlnprtux" true arguments
  let attributes := options.filter fun option => !"pgIfF".contains option.letter
  let names := rest.map Declared.asWord
  let wantsFunctions := hasOption options 'f' || hasOption options 'F'
  if wantsFunctions then
    let namesOnly := hasOption options 'F'
    if rest.isEmpty then
      let texts := (sortedFunctions (← get)).map fun (name, f) =>
        if namesOnly then shownFunctionName name f else shownFunction name f
      putText (String.join texts)
    else if attributes.isEmpty then showFunctions namesOnly names
    else declareFunctions attributes names
  else if rest.isEmpty then
    if isLocalCommand then
      let state ← get
      let own := (sortedVariables state).filter fun (name, _) => state.locals.any (·.1 = name)
      putText (String.join (own.map fun (name, v) => shownDeclaration name v))
    else if hasOption options 'p' || attributes.any (!·.isOff) then
      listDeclarations ((attributes.filter (!·.isOff)).map GivenOption.letter)
    else listSettings
  else if hasOption options 'p' then showDeclarations names
  else
    forEachArgument rest (declareVariable attributes (inFunction && !hasOption options 'g'))

/-- Gives an attribute to variables or functions, or lists those that have it. -/
def giveAttribute (letter : Char) (usage known : String) : Declaration :=
  fun arguments => do
    let (options, rest) ← declarationOptions usage known false arguments
    let mark : GivenOption := { letter, isOff := hasOption options 'n' }
    let shapes := options.filter fun option => option.letter = 'a' || option.letter = 'A'
    if hasOption options 'f' then
      if rest.isEmpty then
        let chosen := (sortedFunctions (← get)).filter fun (_, f) =>
          if letter = 'x' then f.isExported else f.isReadOnly
        putText (String.join (chosen.map fun (name, f) => shownFunction name f))
      else
        forEachArgument (rest.map Declared.asWord) fun name => do
          if ((← get).functions.lookup name).isNone then refuseCommand (name ++ ": not a function")
          let _ ← declareFunctions [mark] [name]
    else if rest.isEmpty then
      listDeclarations (letter :: shapes.map GivenOption.letter)
    else
      forEachArgument rest fun argument => do
        match argument with
        | .value _ (.at _) _ _ | .value _ .all _ _ | .value _ .joined _ _ =>
          let (name, key) := argument.target
          refuseName (namedWith name key)
        | .word text => if !isName text then refuseName text
        | _ => pure ()
        let name := (← get).target argument.target.1 maxReferences
        if argument.hasValue && ((← get).stored? name).any Variable.isReadOnly then
          warnOutside (name ++ ": readonly variable")
          throw (.fail 1)
        declareVariable (mark :: shapes) false argument

/-- Exports variables or functions of the extended dialect. -/
def extendedExport : Declaration :=
  giveAttribute 'x' "export [-fn] [name[=value] ...] or export -p" "fnp"

/-- Protects variables or functions of the extended dialect. -/
def extendedReadonly : Declaration :=
  giveAttribute 'r' "readonly [-aAf] [name[=value] ...] or readonly -p" "aAfp"

/-- The command of the extended dialect that declares variables and has this name. -/
def declaration? (name : String) : Option Declaration :=
  match name with
  | "declare" | "typeset" | "local" => some (declareNames name)
  | "export" => some extendedExport
  | "readonly" => some extendedReadonly
  | _ => none

/-! ## Forgetting -/

/-- Forgets an element of a variable, or all of them. -/
def unsetElement (name : String) (key : Key) : Eval Unit := do
  let name := (← get).target name maxReferences
  let some v := (← get).stored? name | return
  if v.isReadOnly then refuseCommand (name ++ ": cannot unset: readonly variable")
  match key with
  | .at text =>
    if v.shape = .single then
      if (← elementPlace v text) = some Variable.mainPlace then
        modify fun state => state.dropVariable name
      else refuseCommand (name ++ ": not an array variable")
    else
      match ← elementPlace v text with
      | some place => modify fun state => state.putVariable name (v.dropElement place)
      | none => refuseCommand ("[" ++ text ++ "]: bad array subscript")
  | _ => modify fun state => state.putVariable name { v with elements := [] }

/-- Forgets a function. -/
def unsetFunction (name : String) : Eval Unit := do
  if ((← get).functions.lookup name).any Function.isReadOnly then
    refuseCommand (name ++ ": cannot unset: readonly function")
  modify fun state => { state with functions := state.functions.filter (·.1 ≠ name) }

/-- Forgets variables, elements of variables or functions of the extended dialect. -/
def extendedUnset : Builtin := fun _ arguments => do
  let (options, names) ← extendedOptions "unset [-f] [-v] [-n] [name ...]" "fnv" arguments
  let onlyFunctions := hasOption options 'f'
  let onlyVariables := hasOption options 'v'
  if onlyFunctions && onlyVariables then
    refuseCommand "cannot simultaneously unset a function and a variable"
  forEachArgument names fun word => do
    if onlyFunctions then unsetFunction word
    else if !isElementName word then
      if onlyVariables then refuseName word
    else
      match splitReference word with
      | (name, .none) =>
        let state ← get
        let target := if hasOption options 'n' then name else state.target name maxReferences
        match state.stored? target with
        | some v =>
          if v.isReadOnly then refuseCommand (target ++ ": cannot unset: readonly variable")
          modify fun state => state.dropVariable target
        | none => if !onlyVariables then unsetFunction name
      | (name, key) => unsetElement name key

end CommandShell.Machine.SystemShell
