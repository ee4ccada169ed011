import CommandShell.Machine.Awk.Pattern
import CommandShell.Machine.Awk.Table
import CommandShell.Machine.Awk.Value
import CommandShell.Machine.Program.Environment
set_option autoImplicit false

/-!
# What a running program holds

The variables and tables of a record program, the record with its fields, and the files and commands
that it reads and writes.  A record is split into fields, and put together again from changed
fields, only when that is asked for.
-/

namespace CommandShell.Machine.Awk

/-! ## The parts -/

/-- What a name holds in a function. -/
inductive Slot where
  /-- Nothing has been done with the name yet. -/
  | untouched
  | scalar (value : Value)
  /-- A table, by its number. -/
  | table (number : Nat)

/-- Something that is read. -/
structure Source where
  descriptor : Descriptor
  /-- What has been read from the system and not been given out yet starts at this byte. -/
  buffer : ByteArray := .empty
  position : Nat := 0
  atEnd : Bool := false
  /-- The command that writes what is read. -/
  child : Option Pid := none

/-- Something that is written. -/
structure Sink where
  name : ByteArray
  descriptor : Descriptor
  pending : ByteArray := .empty
  /-- The command that reads what is written. -/
  child : Option Pid := none

/-- Why the usual order of statements is left. -/
inductive Halt where
  | next
  | nextFile
  | exit
  /-- The program cannot go on; what is wrong has been told. -/
  | failure

/-- What a running program holds. -/
structure Memory where
  /-- What the program was called by. -/
  name : String
  environment : Environment
  scalars : Std.HashMap String Value := {}
  /-- The numbers of the tables by name. -/
  tables : Std.HashMap String Nat := {}
  heap : Array (Table Value) := #[]
  /-- The parameters of the function under way. -/
  frame : Array Slot := #[]
  record : ByteArray := .empty
  fields : Array Value := #[]
  /-- The fields are those of the record. -/
  isSplit : Bool := true
  /-- A field has changed since the record was put together. -/
  isStale : Bool := false
  /-- What stood between fields when the record was read. -/
  fieldBreak : ByteArray := " ".toUTF8
  /-- The ranges that are open. -/
  openRanges : List Nat := []
  /-- What is read, by name; a command is told from a file. -/
  sources : List ((Bool × ByteArray) × Source) := []
  sinks : List Sink := []
  /-- The file of the input that is being read. -/
  main : Option Source := none
  /-- Which argument comes next. -/
  argument : Nat := 1
  /-- A file of the input has been opened. -/
  sawFile : Bool := false
  exitCode : Nat := 0
  /-- Patterns that have been read. -/
  patterns : Std.HashMap ByteArray Regex.Expr := {}
  /-- The state and the seed of random numbers. -/
  random : UInt64 := 88172645463325252
  seed : Value := .number 0

/-- Runs a record program. -/
abbrev Running := ExceptT Halt (StateT Memory Routine)

namespace Running

variable {α : Type}

/-- Makes a call of the system. -/
def doCall (c : Call) : Running c.Reply := liftM (perform c)

/-- Ends the program with a complaint. -/
def giveUp (text : String) : Running α := do
  let _ ← doCall (.write standardError (Text.toBytes ((← get).name ++ ": " ++ text ++ "\n")))
  throw .failure

/-! ## Variables -/

/-- The format for numbers that become texts. -/
def textFormat : Running ByteArray := do
  return (((← get).scalars["CONVFMT"]?).getD .unset).toText "%.6g".toUTF8

/-- A value as a text. -/
def textOf (value : Value) : Running ByteArray := do
  match value with
  | .number _ => return value.toText (← textFormat)
  | value => return value.toText .empty

/-- A variable of the program that the program itself does not treat in a special way. -/
def plain (name : String) : Running Value := do return ((← get).scalars[name]?).getD .unset

/-- Gives such a variable a value. -/
def setPlain (name : String) (value : Value) : Running Unit :=
  modify fun memory => { memory with scalars := memory.scalars.insert name value }

/-- The text of a variable. -/
def plainText (name : String) : Running ByteArray := do textOf (← plain name)

/-- Ends the program with a complaint that tells how far the input has been read. -/
def fault (text : String) : Running α := do
  let shown (name : String) : Running String := return Text.ofBytes (← plainText name)
  giveUp ("run time error: " ++ text ++ "\n\tFILENAME=\"" ++ (← shown "FILENAME") ++ "\" FNR="
    ++ (← shown "FNR") ++ " NR=" ++ (← shown "NR"))

/-! ## Patterns -/

/-- Reads a pattern that a text gives. -/
def compile (source : ByteArray) : Running Regex.Expr := do
  match (← get).patterns[source]? with
  | some pattern => return pattern
  | none =>
    match Pattern.read source with
    | .ok pattern =>
      modify fun memory => { memory with patterns := memory.patterns.insert source pattern }
      return pattern
    | .error problem =>
      fault ("regular expression compile failed (" ++ problem.message ++ ")\n"
        ++ Text.ofBytes source)

/-! ## Fields -/

/-- The pieces of a text between matches of a pattern that are not empty. -/
def piecesBetween (pattern : Regex.Expr) (text : ByteArray) :
    (fuel : Nat) → (start from_ : Nat) → List ByteArray
  | 0, start, _ => [text.extract start text.size]
  | fuel + 1, start, from_ =>
    match pattern.search ⟨text.data, false⟩ from_ with
    | none => [text.extract start text.size]
    | some found =>
      if found.finish = found.start then
        if found.start ≥ text.size then [text.extract start text.size]
        else piecesBetween pattern text fuel start (found.start + 1)
      else
        text.extract start found.start :: piecesBetween pattern text fuel found.finish found.finish

/-- The pieces of a text between bytes for which a test holds. -/
def piecesBy (isBreak : UInt8 → Bool) (text : ByteArray) : List ByteArray :=
  let (pieces, last) := text.toList.foldl (fun (state : List (List UInt8) × List UInt8) b =>
    if isBreak b then (state.2.reverse :: state.1, []) else (state.1, b :: state.2)) ([], [])
  (last.reverse :: pieces).reverse.map Program.pack

/-- A blank or the end of a line. -/
def isGap (b : UInt8) : Bool := b = 0x20 || b = 0x09 || b = 0x0A

/-- The fields of a text.  A blank stands for any number of blanks and ends of lines; nothing, for
the place between any two bytes; another byte for itself; and all else is a pattern. -/
def fieldsOf (fieldBreak text : ByteArray) : Running (List ByteArray) := do
  if text.isEmpty then return []
  match fieldBreak.toList with
  | [] => return text.toList.map fun b => Program.pack [b]
  | [0x20] => return (piecesBy isGap text).filter fun piece => !piece.isEmpty
  | [b] => return piecesBy (· = b) text
  | _ =>
    let pattern ← compile fieldBreak
    return piecesBetween pattern text (text.size + 1) 0 0

/-- The record of the program. -/
def recordText : Running ByteArray := do
  let memory ← get
  if !memory.isStale then return memory.record
  let separator ← plainText "OFS"
  let texts ← memory.fields.toList.mapM textOf
  let record := match texts with
    | [] => ByteArray.empty
    | first :: others => others.foldl (fun all text => all ++ separator ++ text) first
  modify fun memory => { memory with record, isStale := false }
  return record

/-- Gives the program another record. -/
def setRecord (text : ByteArray) : Running Unit := do
  let fieldBreak ← plainText "FS"
  modify fun memory =>
    { memory with record := text, fields := #[], isSplit := false, isStale := false, fieldBreak }

/-- Splits the record into fields, if that has not been done yet. -/
def split : Running Unit := do
  let memory ← get
  if memory.isSplit then return
  let texts ← fieldsOf memory.fieldBreak memory.record
  modify fun memory =>
    { memory with fields := (texts.map Value.input).toArray, isSplit := true }

/-- How many fields the record has. -/
def fieldCount : Running Nat := do
  split
  return (← get).fields.size

/-- A field of the record. -/
def field (index : Int) : Running Value := do
  if index < 0 then fault ("negative field index $" ++ toString index)
  if index = 0 then return .input (← recordText)
  split
  return ((← get).fields[index.toNat - 1]?).getD .unset

/-- Gives the record so many fields. -/
def setFieldCount (count : Int) : Running Unit := do
  if count < 0 then fault "negative value assigned to NF"
  split
  let count := count.toNat
  modify fun memory =>
    let fields := memory.fields.extract 0 count
    { memory with
      fields := fields ++ Array.replicate (count - fields.size) (Value.input .empty)
      isStale := true }

/-- Gives a field another value. -/
def setField (index : Int) (value : Value) : Running Unit := do
  if index < 0 then fault ("negative field index $" ++ toString index)
  if index = 0 then
    setRecord (← textOf value)
  else
    if (← fieldCount) < index.toNat then setFieldCount index
    modify fun memory =>
      { memory with fields := memory.fields.set! (index.toNat - 1) value, isStale := true }

/-! ## Names -/

/-- The value of a name. -/
def scalar (name : Name) : Running Value := do
  match name with
  | .global "NF" => return .number (Float.ofNat (← fieldCount))
  | .global name => plain name
  | .parameter index =>
    match (← get).frame[index]? with
    | some (.scalar value) => return value
    | _ => return .unset

/-- Gives a name a value. -/
def setScalar (name : Name) (value : Value) : Running Unit := do
  match name with
  | .global "NF" => setFieldCount ((toInt? value.toNumber).getD 0)
  | .global "FS" =>
    split
    setPlain "FS" value
  | .global name => setPlain name value
  | .parameter index =>
    modify fun memory =>
      { memory with frame := memory.frame.setIfInBounds index (.scalar value) }

/-- A new table. -/
def newTable : Running Nat := do
  let memory ← get
  set { memory with heap := memory.heap.push {} }
  return memory.heap.size

/-- The table of a name, which is made if there is none. -/
def tableOf (name : Name) : Running Nat := do
  match name with
  | .global name =>
    match (← get).tables[name]? with
    | some number => return number
    | none =>
      let number ← newTable
      modify fun memory => { memory with tables := memory.tables.insert name number }
      return number
  | .parameter index =>
    match (← get).frame[index]? with
    | some (.table number) => return number
    | _ =>
      let number ← newTable
      modify fun memory =>
        { memory with frame := memory.frame.setIfInBounds index (.table number) }
      return number

/-- What a name stands for when it is passed to a function. -/
def slotOf (name : Name) : Running Slot := do
  let memory ← get
  match name with
  | .global name =>
    match memory.tables[name]? with
    | some number => return .table number
    | none =>
      if name = "NF" then return .scalar (← scalar (.global name))
      match memory.scalars[name]? with
      | some value => return .scalar value
      | none => return .untouched
  | .parameter index => return (memory.frame[index]?).getD .untouched

/-- A name that was passed to a function turned out to be that of a table. -/
def adopt (name : Name) (number : Nat) : Running Unit :=
  modify fun memory =>
    match name with
    | .global name => { memory with tables := memory.tables.insert name number }
    | .parameter index =>
      { memory with frame := memory.frame.setIfInBounds index (.table number) }

/-- Changes a table. -/
def onTable (number : Nat) (change : Table Value → α × Table Value) (otherwise : α) :
    Running α := do
  let memory ← get
  match memory.heap[number]? with
  | none => return otherwise
  | some table =>
    set { memory with heap := memory.heap.set! number {} }
    let (result, table) := change table
    modify fun memory => { memory with heap := memory.heap.set! number table }
    return result

/-- The value of a key in a table, which then has the key. -/
def element (number : Nat) (key : Key) : Running Value :=
  onTable number (fun table =>
    match table.find? key with
    | (some value, table) => (value, table)
    | (none, table) => (.unset, table.insert key .unset)) .unset

/-- Gives a key a value in a table. -/
def setElement (number : Nat) (key : Key) (value : Value) : Running Unit :=
  onTable number (fun table => ((), table.insert key value)) ()

/-- The key that a value is. -/
def keyOf (value : Value) : Running Key := do
  match value with
  | .number n =>
    match toInt? n with
    | some whole =>
      if ofInt whole == n && whole.natAbs < Nat.pow 2 53 then return .number whole
      else return .text (← textOf value)
    | none => return .text (← textOf value)
  | value => return .text (← textOf value)

/-! ## Output -/

/-- How many bytes wait at most before they are written. -/
def bufferSize : Nat := 4096

/-- Writes bytes to a file; standard output that cannot be written ends the program. -/
def writeOut (descriptor : Descriptor) (bytes : ByteArray) : Running Unit := do
  if bytes.isEmpty then return
  match ← doCall (.write descriptor bytes) with
  | .ok () => return
  | .error _ =>
    let name := (← get).name
    let _ ← doCall (.write standardError
      (Text.toBytes (name ++ ": write failure\n" ++ name ++ ": close failure\n")))
    liftM (Program.quit (α := Unit) 2)

/-- Writes what waits for a file. -/
def flushSink (sink : Sink) : Running Sink := do
  writeOut sink.descriptor sink.pending
  return { sink with pending := .empty }

/-- Writes all that waits. -/
def flushAll : Running Unit := do
  let sinks ← (← get).sinks.mapM flushSink
  modify fun memory => { memory with sinks }

/-- Hands bytes to a sink, by its place. -/
def writeTo (index : Nat) (bytes : ByteArray) : Running Unit := do
  match (← get).sinks[index]? with
  | none => return
  | some sink =>
    let pending := sink.pending ++ bytes
    let isDirect := sink.descriptor = standardError
    let sink := { sink with pending }
    let sink ← if isDirect || pending.size > bufferSize then flushSink sink else pure sink
    modify fun memory => { memory with sinks := memory.sinks.set index sink }

/-- The name of standard output. -/
def outputName : ByteArray := "/dev/stdout".toUTF8

/-- The name of standard error. -/
def errorName : ByteArray := "/dev/stderr".toUTF8

/-- Becomes the system's shell with a command. -/
def becomeShell (environment : Environment) (command : ByteArray) : Routine Unit := do
  let _ ← perform (.exec "/bin/sh" ⟨["/bin/sh", "-c", Text.ofBytes command], environment⟩)
  Program.quit 2

/-- Starts a command with one end of a new pipe: the child, and the other end. -/
def startCommand (command : ByteArray) (reads : Bool) : Running (Option (Pid × Descriptor)) := do
  flushAll
  let environment := (← get).environment
  match ← doCall (.openPipe false) with
  | .error _ => return none
  | .ok (readEnd, writeEnd) =>
    let (mine, its, target) :=
      if reads then (readEnd, writeEnd, standardOutput) else (writeEnd, readEnd, standardInput)
    match ← doCall .fork with
    | .error _ => return none
    | .ok .child =>
      let _ ← doCall (.close mine)
      let _ ← doCall (.install its target)
      let _ ← doCall (.close its)
      liftM (becomeShell environment command)
      return none
    | .ok (.parent child) =>
      let _ ← doCall (.close its)
      let kept ← match ← doCall (.keep mine 3) with
        | .ok kept => do
          let _ ← doCall (.close mine)
          pure kept
        | .error _ => pure mine
      return some (child, kept)

/-- The number by which the end of a command is told. -/
def statusNumber : Status → Nat
  | .exited code => code
  | .signaled signal => 256 + signal.number

/-- Waits for the end of a child. -/
def await (child : Pid) : Running Nat := do
  match ← doCall (.wait child false) with
  | .ok status => return statusNumber status
  | .error _ => return 0

/-- The place of a sink, which is opened if it is not open yet. -/
def openSink (name : ByteArray) (opening : ByteArray → Running Sink) (isCommand : Bool) :
    Running Nat := do
  let known := (← get).sinks.findIdx? fun sink =>
    sink.name.data = name.data && sink.child.isSome = isCommand
  match known with
  | some index => return index
  | none =>
    let sink ← opening name
    modify fun memory => { memory with sinks := memory.sinks ++ [sink] }
    return (← get).sinks.length - 1

/-- Opens a file for output. -/
def openFile (mode : OpenMode) (name : ByteArray) : Running Sink := do
  match ← doCall (.openFile (Text.ofBytes name) mode) with
  | .ok descriptor => return { name, descriptor }
  | .error errno =>
    giveUp ("cannot open \"" ++ Text.ofBytes name ++ "\" for output (" ++ errno.description ++ ")")

/-- Starts a command for output. -/
def openCommand (name : ByteArray) : Running Sink := do
  match ← startCommand name false with
  | some (child, descriptor) => return { name, descriptor, child := some child }
  | none => fault "fork failed"

/-- Closes what is read or written under a name; the number tells how that went. -/
def closeName (name : ByteArray) : Running Int := do
  let memory ← get
  let mut result : Int := -1
  for sink in memory.sinks do
    if sink.name.data = name.data && sink.descriptor > standardError then
      let sink ← flushSink sink
      let _ ← doCall (.close sink.descriptor)
      result := 0
      if let some child := sink.child then
        result := (← await child)
  for ((isCommand, other), source) in memory.sources do
    if other.data = name.data then
      let _ ← doCall (.close source.descriptor)
      result := 0
      if isCommand then
        if let some child := source.child then
          result := (← await child)
  modify fun memory =>
    { memory with
      sinks := memory.sinks.filter fun sink =>
        sink.name.data ≠ name.data || sink.descriptor ≤ standardError
      sources := memory.sources.filter (·.1.2.data ≠ name.data) }
  return result

/-- Writes all that waits and lets the commands come to their end. -/
def closeAll : Running Unit := do
  for sink in (← get).sinks do
    if let some child := sink.child then
      let sink ← flushSink sink
      let _ ← doCall (.close sink.descriptor)
      let _ ← await child
  modify fun memory => { memory with sinks := memory.sinks.filter (·.child.isNone) }
  flushAll

/-! ## Input -/

/-- What stands between records. -/
inductive RecordBreak where
  | byte (mark : UInt8)
  /-- Empty lines. -/
  | paragraphs
  | pattern (pattern : Regex.Expr)

/-- What stands between records now. -/
def recordBreak : Running RecordBreak := do
  let text ← plainText "RS"
  match text.toList with
  | [] => return .paragraphs
  | [b] => return .byte b
  | _ => return .pattern (← compile text)

/-- Reads one more block. -/
def fillSource (source : Source) : Running Source := do
  match ← doCall (.read source.descriptor bufferSize) with
  | .ok block =>
    if block.isEmpty then return { source with atEnd := true }
    return { source with
      buffer := source.buffer.extract source.position source.buffer.size ++ block, position := 0 }
  | .error errno => giveUp ("read error (" ++ errno.description ++ ")")

/-- Where a byte stands from a position on. -/
def findByte (bytes : ByteArray) (b : UInt8) : (fuel position : Nat) → Option Nat
  | 0, _ => none
  | fuel + 1, position =>
    if h : position < bytes.size then
      if bytes[position] = b then some position else findByte bytes b fuel (position + 1)
    else none

/-- Where the next record ends in what has been read, and where the one after it begins. -/
def recordEnd (source : Source) : RecordBreak → Option (Nat × Nat)
  | .byte b =>
    (findByte source.buffer b (source.buffer.size - source.position + 1) source.position).map
      fun i => (i, i + 1)
  | .paragraphs =>
    let gap := Regex.Expr.sequence (Pattern.byte 0x0A)
      (.repeat (Pattern.byte 0x0A) 1 none)
    match gap.search ⟨source.buffer.data, false⟩ source.position with
    | some found =>
      if found.finish < source.buffer.size || source.atEnd then some (found.start, found.finish)
      else none
    | none => none
  | .pattern pattern =>
    let rest := source.buffer.extract source.position source.buffer.size
    match pattern.search ⟨rest.data, false⟩ with
    | some found =>
      if found.finish = found.start then none
      else if found.finish < rest.size || source.atEnd then
        some (source.position + found.start, source.position + found.finish)
      else none
    | none => none

/-- Leaves out the ends of lines at the front of what is read. -/
def skipEmptyLines : (fuel : Nat) → Source → Running Source
  | 0, source => return source
  | fuel + 1, source => do
    if source.position ≥ source.buffer.size then
      if source.atEnd then return source
      skipEmptyLines fuel (← fillSource source)
    else if source.buffer.get! source.position = 0x0A then
      skipEmptyLines fuel { source with position := source.position + 1 }
    else return source

/-- The next record of a source. -/
def nextRecord (recordBreak : RecordBreak) :
    (fuel : Nat) → Source → Running (Option ByteArray × Source)
  | 0, source => return (none, source)
  | fuel + 1, source => do
    match recordEnd source recordBreak with
    | some (finish, next) =>
      return (some (source.buffer.extract source.position finish),
        { source with position := next })
    | none =>
      if source.atEnd then
        let rest := source.buffer.extract source.position source.buffer.size
        let source := { source with position := source.buffer.size }
        if rest.isEmpty then return (none, source)
        match recordBreak with
        | .paragraphs =>
          let isEnd := rest.get! (rest.size - 1) = 0x0A
          return (some (if isEnd then rest.extract 0 (rest.size - 1) else rest), source)
        | _ => return (some rest, source)
      else nextRecord recordBreak fuel (← fillSource source)

/-- Reads a record from a source. -/
def readRecord (source : Source) : Running (Option ByteArray × Source) := do
  let recordBreak ← recordBreak
  let source ← match recordBreak with
    | .paragraphs => skipEmptyLines Program.budget source
    | _ => pure source
  nextRecord recordBreak Program.budget source

/-- Gives a variable the value that an argument says, if it is such an argument. -/
def assignFrom? (argument : String) (unescape : ByteArray → ByteArray) :
    Option (String × ByteArray) :=
  match Program.assignment? argument with
  | some (name, value) =>
    let isName := match name.toList with
      | c :: rest => (c.isAlpha || c = '_') && rest.all fun c => c.isAlphanum || c = '_'
      | [] => false
    if isName then some (name, unescape (Text.toBytes value)) else none
  | none => none

/-- Opens the next file that the arguments name; what they assign on the way counts from now on. -/
def openNext (unescape : ByteArray → ByteArray) : (fuel : Nat) → Running (Option Source)
  | 0 => return none
  | fuel + 1 => do
    let memory ← get
    let count := (toInt? (← plain "ARGC").toNumber).getD 0
    if (memory.argument : Int) ≥ count then
      if memory.sawFile then return none
      modify fun memory => { memory with sawFile := true }
      setPlain "FILENAME" (.ofString "-")
      return some { descriptor := standardInput }
    modify fun memory => { memory with argument := memory.argument + 1 }
    let table ← tableOf (.global "ARGV")
    let value ← onTable table (fun table =>
      let (value, table) := table.find? (.number memory.argument)
      (value.getD .unset, table)) .unset
    let text ← textOf value
    let word := Text.ofBytes text
    if text.isEmpty then return ← openNext unescape fuel
    if let some (name, value) := assignFrom? word unescape then
      setScalar (.global name) (.input value)
      return ← openNext unescape fuel
    modify fun memory => { memory with sawFile := true }
    setPlain "FILENAME" (.text text)
    setPlain "FNR" (.number 0)
    if word = "-" || word = "/dev/stdin" then return some { descriptor := standardInput }
    match ← doCall (.openFile word .input) with
    | .ok descriptor => return some { descriptor }
    | .error errno =>
      giveUp ("cannot open \"" ++ word ++ "\" (" ++ errno.description ++ ")")

/-- Adds 1 to a variable. -/
def countUp (name : String) : Running Unit := do
  setPlain name (.number ((← plain name).toNumber + 1))

/-- The next record of the input. -/
def nextMain (unescape : ByteArray → ByteArray) : (fuel : Nat) → Running (Option ByteArray)
  | 0 => return none
  | fuel + 1 => do
    match (← get).main with
    | none =>
      match ← openNext unescape Program.budget with
      | none => return none
      | some source =>
        modify fun memory => { memory with main := some source }
        nextMain unescape fuel
    | some source =>
      let (record, source) ← readRecord source
      match record with
      | some record =>
        modify fun memory => { memory with main := some source }
        countUp "NR"
        countUp "FNR"
        return some record
      | none =>
        if source.descriptor ≠ standardInput then
          let _ ← doCall (.close source.descriptor)
        modify fun memory => { memory with main := none }
        nextMain unescape fuel

/-- The next record of a file or of a command, which is opened if that has not been done: there may
be no more records, and nothing at all if it cannot be opened. -/
def nextFrom (isCommand : Bool) (name : ByteArray) : Running (Option (Option ByteArray)) := do
  let isMeant (key : Bool × ByteArray) : Bool := key.1 = isCommand && key.2.data = name.data
  let source ← match (← get).sources.find? fun entry => isMeant entry.1 with
    | some (_, source) => pure (some source)
    | none =>
      if isCommand then do
        match ← startCommand name true with
        | some (child, descriptor) =>
          pure (some { descriptor, child := some child })
        | none => pure none
      else if name.data = "-".toUTF8.data || name.data = "/dev/stdin".toUTF8.data then
        pure (some { descriptor := standardInput })
      else do
        match ← doCall (.openFile (Text.ofBytes name) .input) with
        | .ok descriptor => pure (some { descriptor })
        | .error _ => pure none
  match source with
  | none => return none
  | some source =>
    let (record, source) ← readRecord source
    modify fun memory =>
      let others := memory.sources.filter fun entry => !isMeant entry.1
      { memory with sources := ((isCommand, name), source) :: others }
    return some record

end Running

end CommandShell.Machine.Awk
