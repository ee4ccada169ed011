import CommandShell.Machine.SystemShell.Builtin.Declaring
set_option autoImplicit false

/-!
# Builtin commands that read

How lines of input become the values of variables.
-/

namespace CommandShell.Machine.SystemShell

/-! ## Lines -/

/-- How a line is read. -/
structure LineRules where
  source : Descriptor := standardInput
  /-- A backslash has no meaning. -/
  isRaw : Bool := false
  /-- The byte that ends a line, if one does. -/
  terminator : Option UInt8 := some Program.lineFeed
  /-- How many bytes are read at most. -/
  limit : Option Nat := none

/-- Why the reading of a line came to an end. -/
inductive LineEnd where
  /-- The line is whole. -/
  | whole
  /-- There is nothing more to be read. -/
  | exhausted
  | failed (errno : Errno)

/-- Reads a line byte by byte; unless it is raw, a backslash takes the meaning from the byte after
it and joins lines. -/
def LineRules.read (rules : LineRules) : (fuel : Nat) → List Glyph → Eval (List Glyph × LineEnd)
  | 0, sofar => return (sofar.reverse, .exhausted)
  | fuel + 1, sofar => do
    if rules.limit.any (· ≤ sofar.length) then return (sofar.reverse, .whole)
    let next : Eval (Except Errno (Option UInt8)) := do
      return (← doCall (.read rules.source 1)).map fun bytes => bytes.toList.head?
    match ← next with
    | .error errno => return (sofar.reverse, .failed errno)
    | .ok none => return (sofar.reverse, .exhausted)
    | .ok (some byte) =>
      if some byte = rules.terminator then return (sofar.reverse, .whole)
      else if byte = 0 then rules.read fuel sofar
      else if byte = 0x5C && !rules.isRaw then
        match ← next with
        | .error errno => return (sofar.reverse, .failed errno)
        | .ok none => return (sofar.reverse, .exhausted)
        | .ok (some 0x0A) => rules.read fuel sofar
        | .ok (some byte) => rules.read fuel (⟨byte, true⟩ :: sofar)
      else rules.read fuel (⟨byte, false⟩ :: sofar)

/-- Divides a line into a number of fields; the last one takes what is left. -/
def readFields (separators : List UInt8) : (count : Nat) → List Glyph → List (List Glyph)
  | 0, _ => []
  | count + 1, line =>
    let separates (g : Glyph) : Bool := !g.quoted && separators.contains g.byte
    let isBlank (g : Glyph) : Bool := separates g && Program.isSpace g.byte
    let line := line.dropWhile isBlank
    let field := line.takeWhile fun g => !separates g
    let rest := (line.drop field.length).dropWhile isBlank
    let rest := match rest with
      | g :: others => if separates g then others.dropWhile isBlank else rest
      | [] => []
    if count = 0 then
      [if rest.isEmpty then field else (line.reverse.dropWhile isBlank).reverse]
    else field :: readFields separators count rest

/-- Reads a line into variables. -/
def readVariables : Builtin := fun _ arguments => do
  let rec skip : List String → Eval (Bool × List String)
    | "-r" :: rest => do return (true, (← skip rest).2)
    | "-p" :: _ :: rest => skip rest
    | "--" :: rest => return (false, rest)
    | word :: rest =>
      match word.toList with
      | '-' :: letter :: _ => fail ("Illegal option -" ++ letter.toString)
      | _ => return (false, word :: rest)
    | [] => return (false, [])
  let (raw, names) ← skip arguments
  if names.isEmpty then fail "arg count"
  if let some bad := names.find? fun name => !isName name then fail (bad ++ ": bad variable name")
  let rules : LineRules := { isRaw := raw }
  let (line, ending) ← rules.read Program.budget []
  let fields := readFields (← separators) names.length line
  for (name, field) in names.zip fields do
    setVariable name (textOf field)
  return match ending with
    | .whole => 0
    | .exhausted | .failed _ => 1

/-! ## The extended dialect -/

/-- A number that an option has as its argument. -/
def countOption (options : List GivenOption) (letter : Char) (fault : String) :
    Eval (Option Nat) := do
  match optionValue? options letter with
  | none => return none
  | some word =>
    match signedNumber? word with
    | some (.ofNat n) => return some n
    | _ => refuseCommand (word ++ ": " ++ fault)

/-- The descriptor that an option names. -/
def descriptorOption (options : List GivenOption) : Eval Descriptor := do
  match optionValue? options 'u' with
  | none => return standardInput
  | some word =>
    match Program.natural? word with
    | none => refuseCommand (word ++ ": invalid file descriptor specification")
    | some descriptor =>
      match ← doCall (.keep descriptor leastKeeper) with
      | .ok copy =>
        let _ ← doCall (.close copy)
        return descriptor
      | .error errno =>
        refuseCommand (word ++ ": invalid file descriptor: " ++ errno.description)

/-- The byte that an option gives as the end of a line. -/
def terminatorOption (options : List GivenOption) : UInt8 :=
  match optionValue? options 'd' with
  | none => Program.lineFeed
  | some word => (bytesOfText word).head?.getD 0

/-- How `read` is used. -/
def readUsage : String :=
  "read [-ers] [-a array] [-d delim] [-i text] [-n nchars] [-N nchars] [-p prompt] [-t timeout] "
    ++ "[-u fd] [name ...]"

/-- A number with a fraction, as a time that someone waits. -/
def isDuration (word : String) : Bool :=
  word.toList.all (fun c => c.isDigit || c = '.') && word.toList.any Char.isDigit
    && (word.toList.filter (· = '.')).length ≤ 1

/-- The fields of a line. -/
def lineFields (separators : List UInt8) (line : List Glyph) : List (List Glyph) :=
  fieldsOf separators (line.map fun glyph => .glyph glyph (!glyph.quoted))

/-- Reads a line into variables of the extended dialect. -/
def extendedRead : Builtin := fun _ arguments => do
  let (options, names) ← extendedOptions readUsage "ersa:d:i:n:p:t:u:N:" arguments
  if let some word := optionValue? options 't' then
    if !isDuration word then refuseCommand (word ++ ": invalid timeout specification")
  let exactly ← countOption options 'N' "invalid number"
  let atMost ← countOption options 'n' "invalid number"
  let source ← descriptorOption options
  let list? := optionValue? options 'a'
  if let some bad := (list?.toList ++ names).find? fun name => !isElementName name then
    refuseName bad
  let rules : LineRules :=
    { source, isRaw := hasOption options 'r', limit := exactly.or atMost
      terminator := if exactly.isSome then none else some (terminatorOption options) }
  let (line, ending) ← rules.read Program.budget []
  let separators ← separators
  match list?, names with
  | some name, _ =>
    let fields := lineFields separators line
    let v := ((← get).resolved? name).getD { value := none }
    if v.isReadOnly then refuseCommand (name ++ ": readonly variable")
    let given := fields.map fun field => GivenElement.mk none false (textOf field)
    let start := { v.withShape .indexed with elements := [], value := some "" }
    let new ← putNumbered name start 0 given
    modify fun state => state.putVariable (state.target name maxReferences) new
  | none, [] => setVariable "REPLY" (textOf line)
  | none, names =>
    let fields :=
      if exactly.isSome then line :: names.tail.map fun _ => []
      else
        let found := readFields separators names.length line
        found ++ List.replicate (names.length - found.length) []
    for (name, field) in names.zip fields do
      assignNamed name (textOf field)
  match ending with
  | .whole => return 0
  | .exhausted => return 1
  | .failed errno =>
    refuseCommand ("read error: " ++ toString source ++ ": " ++ errno.description)

/-! ## Lists of lines -/

/-- How `mapfile` is used. -/
def mapfileUsage (command : String) : String :=
  command ++ " [-d delim] [-n count] [-O origin] [-s count] [-t] [-u fd] [-C callback] "
    ++ "[-c quantum] [array]"

/-- The lines of a text, with what ends them. -/
def linesOf (terminator : UInt8) : (fuel : Nat) → List UInt8 → List (List UInt8)
  | 0, _ | _, [] => []
  | fuel + 1, bytes =>
    let line := bytes.takeWhile (· ≠ terminator)
    match bytes.drop line.length with
    | [] => [line]
    | byte :: rest => (line ++ [byte]) :: linesOf terminator fuel rest

/-- Reads some lines and no more. -/
def readSomeLines (rules : LineRules) : (count : Nat) → Eval (List (List UInt8))
  | 0 => return []
  | count + 1 => do
    let (line, ending) ← rules.read Program.budget []
    match ending with
    | .whole =>
      return (bytesOf line ++ rules.terminator.toList) :: (← readSomeLines rules count)
    | _ => return if line.isEmpty then [] else [bytesOf line]

/-- Gives a variable lines as its elements, and runs a script before some of them. -/
def storeLines (runner : Runner) (name : String) (callback : Option String) (quantum : Nat) :
    (place count : Nat) → List String → Eval Unit
  | _, _, [] => return
  | place, count, line :: rest => do
    if let some script := callback then
      if count % quantum = 0 then
        let text := script ++ " " ++ toString place ++ " " ++ Quoting.asQuoted line
        let _ ← runner.script (.ofArgument text)
    modify fun state =>
      let v := ((state.stored? name).getD { value := none }).withShape .indexed
      state.putVariable name (v.putElement (toString place) line)
    storeLines runner name callback quantum (place + 1) (count + 1) rest

/-- Reads lines into a variable. -/
def readLines : Builtin := fun runner arguments => do
  let command := ((← get).builtin).getD ""
  let (options, names) ← extendedOptions (mapfileUsage command) "d:n:O:s:tu:C:c:" arguments
  let source ← descriptorOption options
  let limit := (← countOption options 'n' "invalid line count").getD 0
  let skipped := (← countOption options 's' "invalid line count").getD 0
  let origin ← countOption options 'O' "invalid array origin"
  let quantum ← countOption options 'c' "invalid callback quantum"
  let name := names.head?.getD "MAPFILE"
  if !isName name then refuseName name
  let name := (← get).target name maxReferences
  let old := ((← get).stored? name).getD { value := none }
  if old.isReadOnly then refuseCommand (name ++ ": readonly variable")
  if old.shape = .associative then refuseCommand (name ++ ": not an indexed array")
  let terminator := terminatorOption options
  let rules : LineRules := { source, isRaw := true, terminator := some terminator }
  let lines ←
    if limit = 0 then do
      let bytes ← doRoutine (Program.readAll source .empty Program.budget)
      let bytes := (bytes.toOption.getD .empty).toList
      pure (linesOf terminator (bytes.length + 1) bytes)
    else readSomeLines rules (skipped + limit)
  let lines := (lines.drop skipped).map fun line =>
    let line := if hasOption options 't' && line.getLast? = some terminator then line.dropLast
      else line
    textOfBytes (line.takeWhile (· ≠ 0))
  let start := old.withShape .indexed
  let start := if origin.isSome then start else { start with elements := [] }
  modify fun state => state.putVariable name { start with value := some "" }
  storeLines runner name (optionValue? options 'C') (max 1 (quantum.getD 5000)) (origin.getD 0) 1
    lines
  return 0

end CommandShell.Machine.SystemShell
