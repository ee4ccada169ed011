import CommandShell.Machine.Awk.Evaluation
set_option autoImplicit false

/-!
# Carrying out statements

Statements are carried out one after another; a loop ends when its condition no longer holds, and
the rules of a program see each record in turn.
-/

namespace CommandShell.Machine.Awk

open Running

/-! ## Printing -/

/-- The place of standard output among the sinks. -/
def standardSink : Nat := 0

/-- The place of the sink that output goes to. -/
def sinkOf (invoke : Invoke) : Output → Running Nat
  | .standard => return standardSink
  | .file name => do fileSink .output (← textOf (← eval invoke name))
  | .append name => do fileSink .append (← textOf (← eval invoke name))
  | .command text => do openSink (← textOf (← eval invoke text)) openCommand true
where
  /-- The place of a file; the names of the standard files stand for what is open already. -/
  fileSink (mode : OpenMode) (name : ByteArray) : Running Nat := do
    if name.data = outputName.data || name.data = "-".toUTF8.data then return standardSink
    if name.data = errorName.data then
      openSink name (fun name => return { name, descriptor := standardError }) false
    else openSink name (openFile mode) false

/-- What a value is printed as. -/
def printedText (format : ByteArray) (value : Value) : ByteArray := value.toText format

/-- Prints values with what stands between and after them; none at all stand for the record. -/
def printAll (invoke : Invoke) (arguments : List Expr) (output : Output) : Running Unit := do
  let format ← plainText "OFMT"
  let texts ←
    if arguments.isEmpty then do pure [← recordText]
    else do pure ((← evalAll invoke arguments).map (printedText format))
  let sink ← sinkOf invoke output
  let separator ← plainText "OFS"
  let line := match texts with
    | [] => ByteArray.empty
    | first :: others => others.foldl (fun all text => all ++ separator ++ text) first
  writeTo sink (line ++ (← plainText "ORS"))

/-- Prints values by a format. -/
def printFormatted (invoke : Invoke) (arguments : List Expr) (output : Output) :
    Running Unit := do
  match ← evalAll invoke arguments with
  | [] => return
  | format :: values =>
    let format ← textOf format
    let sink ← sinkOf invoke output
    let (text, problem) := printValues (← textFormat) format values
    writeTo sink text
    if let some problem := problem then fault (problem.message "printf" format)

/-! ## Statements -/

/-- Carries out statements until one of them leaves the usual order. -/
def runAll (run : Statement → Running Flow) : List Statement → Running Flow
  | [] => return .onward
  | statement :: rest => do
    match ← run statement with
    | .onward => runAll run rest
    | flow => return flow

/-- Runs the body of a loop and goes on with the next round, unless the loop is left. -/
def round (body : Running Flow) (again : Running Flow) : Running Flow := do
  match ← body with
  | .leaveLoop => return .onward
  | .giveBack value => return .giveBack value
  | _ => again

/-- Runs a loop over keys. -/
def overKeys (place : Running Place) (body : Running Flow) : List ByteArray → Running Flow
  | [] => return .onward
  | key :: rest => do
    (← place).put (.text key)
    round body (overKeys place body rest)

/-- Runs a function whose parameters begin as given. -/
def invokeWith (run : Statement → Running Flow) (script : Script) : Invoke :=
  fun name slots => do
    match script.functions.lookup name with
    | none => return (.unset, #[])
    | some function =>
      let saved := (← get).frame
      let missing := List.replicate (function.parameters - slots.length) Slot.untouched
      let frame := (slots ++ missing).toArray
      modify fun memory => { memory with frame }
      let flow ← run function.body
      let after := (← get).frame
      modify fun memory => { memory with frame := saved }
      match flow with
      | .giveBack value => return (value, after)
      | _ => return (.unset, after)

/-- Carries out a statement. -/
def run (script : Script) : (fuel : Nat) → Statement → Running Flow
  | 0, _ => giveUp "function call nesting too deep"
  | fuel + 1, statement => do
    let invoke : Invoke := invokeWith (run script fuel) script
    let isTrue (condition : Option Expr) : Running Bool := do
      match condition with
      | none => return true
      | some condition => return (← eval invoke condition).isTrue
    match statement with
    | .simple expr =>
      let _ ← eval invoke expr
      return .onward
    | .print arguments output =>
      printAll invoke arguments output
      return .onward
    | .printf arguments output =>
      printFormatted invoke arguments output
      return .onward
    | .ifThen condition yes no =>
      if (← eval invoke condition).isTrue then run script fuel yes else run script fuel no
    | .whileLoop condition body =>
      if !(← isTrue (some condition)) then return .onward
      round (run script fuel body) (run script fuel statement)
    | .doLoop body condition =>
      round (run script fuel body) (do
        if !(← isTrue (some condition)) then return .onward
        run script fuel statement)
    | .forLoop (some first) condition next body =>
      let _ ← eval invoke first
      run script fuel (.forLoop none condition next body)
    | .forLoop none condition next body =>
      if !(← isTrue condition) then return .onward
      round (run script fuel body) (do
        if let some next := next then
          let _ ← eval invoke next
        run script fuel statement)
    | .forKeys target table body =>
      let number ← tableOf table
      let keys ← onTable number (fun table => table.keys) []
      overKeys (evalPlace invoke target) (run script fuel body) keys
    | .block statements => runAll (run script fuel) statements
    | .next => throw .next
    | .nextFile => throw .nextFile
    | .exit code =>
      if let some code := code then
        let value ← eval invoke code
        modify fun memory =>
          { memory with exitCode := (signedOf value.toNumber % 256).toNat }
      throw .exit
    | .giveBack value =>
      match value with
      | none => return .giveBack .unset
      | some value => return .giveBack (← eval invoke value)
    | .breakLoop => return .leaveLoop
    | .continueLoop => return .nextRound
    | .delete table subscripts =>
      let key ← evalKey invoke subscripts
      onTable (← tableOf table) (fun table => ((), table.erase key)) ()
      return .onward
    | .deleteAll table =>
      onTable (← tableOf table) (fun _ => ((), {})) ()
      return .onward

/-- How many steps a program makes at most, one in another or one after another in a loop. -/
def maxSteps : Nat := 1000000000

/-! ## Programs -/

/-- Whether a rule selects the record. -/
def selects (invoke : Invoke) : Selector → Running Bool
  | .every => return true
  | .when condition => return (← eval invoke condition).isTrue
  | .range number first last => do
    let isOpen ←
      if (← get).openRanges.contains number then pure true
      else do pure (← eval invoke first).isTrue
    if !isOpen then return false
    let isLast := (← eval invoke last).isTrue
    modify fun memory =>
      let others := memory.openRanges.filter (· ≠ number)
      { memory with openRanges := if isLast then others else number :: others }
    return true

/-- Hands the record to the rules. -/
def applyRules (script : Script) : List Rule → Running Unit
  | [] => return
  | rule :: rest => do
    if ← selects (invokeWith (run script maxSteps) script) rule.selector then
      let _ ← run script maxSteps rule.action
    applyRules script rest

/-- Leaves the file of the input that is being read. -/
def leaveFile : Running Unit := do
  if let some source := (← get).main then
    if source.descriptor ≠ standardInput then
      let _ ← doCall (.close source.descriptor)
  modify fun memory => { memory with main := none }

/-- Hands each record of the input to the rules. -/
def eachRecord (script : Script) : (fuel : Nat) → Running Unit
  | 0 => return
  | fuel + 1 => do
    match ← nextMain unescaped Program.budget with
    | none => return
    | some record =>
      setRecord record
      tryCatch (applyRules script script.rules) fun halt =>
        match halt with
        | .next => return
        | .nextFile => leaveFile
        | halt => throw halt
      eachRecord script fuel

/-- Runs blocks until one of them ends the program; says whether none did. -/
def runBlocks (script : Script) (blocks : List Statement) : Running Bool :=
  tryCatch (do
    for block in blocks do
      let _ ← run script maxSteps block
    return true) fun halt =>
      match halt with
      | .failure => throw .failure
      | _ => return false

/-- Runs a program. -/
def runScript (script : Script) : Running Unit := do
  let goesOn ← runBlocks script script.openings
  if script.rules.isEmpty && script.closings.isEmpty then return
  if goesOn then
    tryCatch (eachRecord script Program.budget) fun halt =>
      match halt with
      | .failure => throw .failure
      | _ => return
  let _ ← runBlocks script script.closings

end CommandShell.Machine.Awk
