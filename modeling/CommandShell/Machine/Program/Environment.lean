import CommandShell.Machine.Program.Output
set_option autoImplicit false

/-!
# Programs and their environment

An environment is shown, or another program is run in a changed one.  The words of that program may
all be given in one text, which is how the first line of a script can give more than one.
-/

namespace CommandShell.Machine.Program

/-! ## Variables -/

/-- A variable as `env` writes it. -/
def assignmentText (entry : String × String) : String := entry.1 ++ "=" ++ entry.2

/-- Writes variables of the environment. -/
def printenv : Program := fun image => do
  let parsed ← options
    { letters := OptionTable.flags "0", words := [("null", .none, '0')], mixed := false }
    image.name image.words 2
  let ending := if parsed.has '0' then "\u0000" else "\n"
  if parsed.operands.isEmpty then
    putText image.name
      (String.join (image.environment.map fun entry => assignmentText entry ++ ending))
    return 0
  let values := parsed.operands.map fun word => image.environment.lookup word
  putText image.name
    (String.join (values.filterMap id |>.map fun value => value ++ ending))
  return codeOf (values.all Option.isSome)

/-- The directories in which a program is looked for when nothing else is said. -/
def defaultSearchPath : String := "/bin:/usr/bin"

/-- The paths that a program's name may stand for. -/
def candidates (environment : Environment) (program : String) : List String :=
  if program.contains '/' then [program]
  else
    let path := (environment.lookup "PATH").getD defaultSearchPath
    (path.splitOn ":").map fun directory => Path.join directory program

/-- Becomes the first of several programs that can be run; gives the reason if none can.  A file
that no program is said to read is a script of the system's shell. -/
def becomeFirst (image : Image) : List String → Errno → Routine Errno
  | [], errno => return errno
  | path :: rest, errno => do
    match ← perform (.exec path image) with
    | .execFormat =>
      perform (.exec "/bin/sh" { image with arguments := "/bin/sh" :: path :: image.words })
    | .accessDenied => becomeFirst image rest .accessDenied
    | .noEntry | .notDirectory => becomeFirst image rest errno
    | other => return other

/-- Becomes a program that is looked for; gives the reason if that fails. -/
def become (search : Environment) (image : Image) : Routine Errno :=
  if image.name = "" then return .noEntry
  else becomeFirst image (candidates search image.name) .noEntry

/-- An environment with a variable. -/
def assign (environment : Environment) (name value : String) : Environment :=
  if environment.any (·.1 = name) then
    environment.map fun entry => if entry.1 = name then (name, value) else entry
  else environment ++ [(name, value)]

/-- A word that gives a variable a value. -/
def assignment? (word : String) : Option (String × String) :=
  let name := word.toList.takeWhile (· ≠ '=')
  if name.length < word.length then
    some (String.ofList name, (word.drop (name.length + 1)).toString)
  else none

/-! ## Words in one text -/

/-- Why a text was not cut into words. -/
inductive SplitFault where
  | openQuote
  | endsInBackslash
  | unknownEscape (byte : UInt8)
  | stopInQuotes
  | notBraced (rest : List UInt8)

/-- The wording of a refusal. -/
def SplitFault.message : SplitFault → String
  | openQuote => "no terminating quote in -S string"
  | endsInBackslash => "invalid backslash at end of string in -S"
  | unknownEscape byte => "invalid sequence '\\" ++ (asciiChar byte).toString ++ "' in -S"
  | stopInQuotes => "'\\c' must not appear in double-quoted -S string"
  | notBraced rest =>
    "only $\x7bVARNAME\x7d expansion is supported, error at: " ++ Text.ofBytes (pack rest)

/-- The words of a text as far as it has been read. -/
structure SplitState where
  inSingle : Bool := false
  inDouble : Bool := false
  /-- The words that are whole, the last one first. -/
  words : List (List UInt8) := []
  /-- The word under way, the last byte first. -/
  word : Option (List UInt8) := none

namespace SplitState

/-- One more byte of the word under way. -/
def add (state : SplitState) (byte : UInt8) : SplitState :=
  { state with word := some (byte :: state.word.getD []) }

/-- The word under way begins, if it has not yet. -/
def begin (state : SplitState) : SplitState := { state with word := some (state.word.getD []) }

/-- The word under way ends. -/
def cut (state : SplitState) : SplitState :=
  { state with words := state.word.toList.map List.reverse ++ state.words, word := none }

/-- All the words. -/
def finish (state : SplitState) : List (List UInt8) := state.cut.words.reverse

end SplitState

/-- The byte that an escape stands for. -/
def splitEscape? (byte : UInt8) : Option UInt8 :=
  match asciiChar byte with
  | 'f' => some 12
  | 'n' => some 10
  | 'r' => some 13
  | 't' => some 9
  | 'v' => some 11
  | '"' | '#' | '$' | '\'' | '\\' => some byte
  | _ => none

/-- A byte of a variable's name. -/
def isNameByte (byte : UInt8) : Bool :=
  isDigit byte || byte = 0x5F || (0x61 ≤ toLower byte && toLower byte ≤ 0x7A)

/-- The name of a variable between braces, and what follows. -/
def bracedName? : List UInt8 → Option (List UInt8 × List UInt8)
  | 0x7B :: rest =>
    let name := rest.takeWhile isNameByte
    match rest.drop name.length with
    | 0x7D :: rest =>
      if name.head?.any fun byte => !isDigit byte then some (name, rest) else none
    | _ => none
  | _ => none

/-- Cuts a text into words. -/
def splitWords (environment : Environment) (state : SplitState) :
    (fuel : Nat) → List UInt8 → Except SplitFault (List (List UInt8))
  | 0, _ | _, [] =>
    if state.inSingle || state.inDouble then .error .openQuote else .ok state.finish
  | fuel + 1, byte :: rest =>
    let quoted := state.inSingle || state.inDouble
    if byte = 0x27 && !state.inDouble then
      splitWords environment { state.begin with inSingle := !state.inSingle } fuel rest
    else if byte = 0x22 && !state.inSingle then
      splitWords environment { state.begin with inDouble := !state.inDouble } fuel rest
    else if isSpace byte && !quoted then splitWords environment state.cut fuel rest
    else if byte = 0x23 && !quoted && state.word.isNone then .ok state.finish
    else if byte = 0x5C && !state.inSingle then
      match rest with
      | [] => .error .endsInBackslash
      | 0x5F :: rest =>
        splitWords environment (if state.inDouble then state.add 0x20 else state.cut) fuel rest
      | 0x63 :: _ => if state.inDouble then .error .stopInQuotes else .ok state.finish
      | letter :: rest =>
        match splitEscape? letter with
        | some byte => splitWords environment (state.add byte) fuel rest
        | none => .error (.unknownEscape letter)
    else if byte = 0x5C && (rest.head? = some 0x5C || rest.head? = some 0x27) then
      splitWords environment (state.add (rest.headD 0)) fuel (rest.drop 1)
    else if byte = 0x24 && !state.inSingle then
      match bracedName? rest with
      | none => .error (.notBraced (byte :: rest))
      | some (name, rest) =>
        match environment.lookup (Text.ofBytes (pack name)) with
        | none => splitWords environment state fuel rest
        | some value =>
          splitWords environment ((Text.toBytes value).toList.foldl SplitState.add state.begin)
            fuel rest
    else splitWords environment (state.add byte) fuel rest

/-! ## Running a program in an environment -/

/-- The options of `env`. -/
def envOptions : OptionTable :=
  { letters := OptionTable.flags "i0v" ++ OptionTable.valued "uCS"
    words := [("ignore-environment", .none, 'i'), ("null", .none, '0'), ("unset", .required, 'u'),
      ("chdir", .required, 'C'), ("split-string", .required, 'S'), ("debug", .none, 'v')]
    mixed := false }

/-- The arguments with the words of a text in its place; the last result says what is shown of
that. -/
def splitArguments (environment : Environment) :
    (fuel : Nat) → List String → Except SplitFault (List String × List String)
  | 0, words => .ok (words, [])
  | _, [] => .ok ([], [])
  | fuel + 1, word :: rest =>
    let words := word :: rest
    let letters := (word.toList.drop 1).takeWhile fun c => c = 'i' || c = '0' || c = 'v'
    let after := word.toList.drop (letters.length + 1)
    let splitHere (text : String) (rest : List String) :
        Except SplitFault (List String × List String) := do
      let bytes := (Text.toBytes text).toList
      let pieces := (← splitWords environment {} (bytes.length + 1) bytes).map fun piece =>
        Text.ofBytes (pack piece)
      let (others, shown) ← splitArguments environment fuel (pieces ++ rest)
      let front := if letters.isEmpty then [] else [String.ofList ('-' :: letters)]
      let lines := match pieces with
        | [] => []
        | first :: more =>
          [("split -S:  " ++ quotedWord text), (" into:    " ++ quotedWord first)]
            ++ more.map fun piece => "     &    " ++ quotedWord piece
      return (front ++ others, lines ++ shown)
    let keep (count : Nat) : Except SplitFault (List String × List String) := do
      let (others, shown) ← splitArguments environment fuel (words.drop count)
      return (words.take count ++ others, shown)
    if word = "--split-string" then
      match rest with
      | text :: rest => splitHere text rest
      | [] => .ok (words, [])
    else if word.startsWith "--split-string=" then
      splitHere (word.drop "--split-string=".length).toString rest
    else if word = "--" || word = "-" || !word.startsWith "-" then .ok (words, [])
    else if word.startsWith "--" then keep (if word = "--unset" || word = "--chdir" then 2 else 1)
    else
      match after with
      | 'S' :: text@(_ :: _) => splitHere (String.ofList text) rest
      | ['S'] =>
        match rest with
        | text :: rest => splitHere text rest
        | [] => .ok (words, [])
      | [letter] => keep (if letter = 'u' || letter = 'C' then 2 else 1)
      | _ => keep 1

/-- The hint for a script whose first line gives more than one word. -/
def splitHint : String := "use -[v]S to pass options in shebang lines"

/-- Shows a step that is being taken. -/
def showStep (isShown : Bool) (text : String) : Routine Unit := do
  if isShown then
    let _ ← perform (.write standardError (Text.toBytes (text ++ "\n")))

/-- Understands the arguments of `env`. -/
def envArguments (name : String) (words : List String) : Routine Parsed := do
  match envOptions.parse words with
  | .ok parsed => return parsed
  | .error fault =>
    let isBlank := match fault with
      | .unknownLetter letter => letter = ' ' || letter = '\t'
      | _ => false
    if isBlank then
      complain name fault.message
      complainOfUse name splitHint
    else complainOfUse name fault.message
    quit 125

/-- The environment that the options of `env` and the assignments after them make. -/
def changedEnvironment (name : String) (isShown : Bool) (parsed : Parsed) (clear : Bool)
    (assignments : List (String × String)) (environment : Environment) : Routine Environment := do
  if clear then showStep isShown "cleaning environ"
  else
    for variableName in parsed.values 'u' do
      showStep isShown ("unset:    " ++ variableName)
      if variableName = "" || variableName.contains '=' then
        complain name ("cannot unset " ++ quotedAlways variableName ++ ": "
          ++ Errno.invalidArgument.description)
        quit 125
  let kept := if clear then [] else
    environment.filter fun entry => !(parsed.values 'u').contains entry.1
  for entry in assignments do
    showStep isShown ("setenv:   " ++ assignmentText entry)
  return assignments.foldl (fun environment (name, value) => assign environment name value) kept

/-- Runs a program in a changed environment, or writes the environment. -/
def env : Program := fun image => do
  let name := image.name
  let (words, splitSteps) ←
    match splitArguments image.environment 1000 image.words with
    | .ok result => pure result
    | .error fault => do
      complain name fault.message
      quit 125
  let parsed ← envArguments name words
  let isShown := parsed.has 'v'
  for line in splitSteps do
    showStep isShown line
  let (clear, operands) := match parsed.operands with
    | "-" :: rest => (true, rest)
    | operands => (parsed.has 'i', operands)
  let assignments := (operands.map assignment?).takeWhile Option.isSome |>.filterMap id
  let environment ← changedEnvironment name isShown parsed clear assignments image.environment
  let command := operands.drop assignments.length
  if parsed.has '0' && !command.isEmpty then
    complainOfUse name "cannot specify --null (-0) with command"
    return 125
  if let some directory := parsed.value? 'C' then
    if command.isEmpty then
      complainOfUse name "must specify command with --chdir (-C)"
      return 125
    showStep isShown ("chdir:    " ++ quotedAlways directory)
    if let .error errno ← perform (.changeDirectory directory) then
      complain name ("cannot change directory to " ++ quotedAlways directory ++ ": "
        ++ errno.description)
      return 125
  match command with
  | [] =>
    let ending := if parsed.has '0' then "\u0000" else "\n"
    putText name (String.join (environment.map fun entry => assignmentText entry ++ ending))
    return 0
  | program :: arguments =>
    showStep isShown ("executing: " ++ program)
    for (word, i) in (program :: arguments).zipIdx do
      showStep isShown ("   arg[" ++ toString i ++ "]= " ++ quotedWord word)
    let errno ← become environment { arguments := program :: arguments, environment }
    complain name (quotedWord program ++ ": " ++ errno.description)
    if errno = .noEntry && program.contains ' ' then complain name splitHint
    return if errno = .noEntry then 127 else 126

/-- Becomes a program that goes on when the terminal is gone, or that others go before. -/
def runLater (failure : Nat) : Program := fun image => do
  match image.words with
  | [] => missingOperand image.name failure
  | program :: arguments =>
    let errno ← become image.environment { image with arguments := program :: arguments }
    complain image.name ("failed to run command " ++ quotedWord program ++ ": "
      ++ errno.description)
    return if errno = .noEntry then 127 else 126

/-- Runs a program that hangups do not end. -/
def nohup : Program := fun image => do
  let _ ← perform (.arrange ⟨1⟩ .ignored)
  runLater 125 image

end CommandShell.Machine.Program
