import CommandShell.Machine.Program.Sorting
set_option autoImplicit false

/-!
# Copying by blocks

A file is read in blocks of one size and written in blocks of another one; on the way its bytes may
be converted.  At the end it is told how many blocks were read and written, those that were full and
those that were not.
-/

namespace CommandShell.Machine.Program

/-! ## What is asked for -/

/-- A number of blocks or of bytes. -/
structure BlockCount where
  number : Nat
  inBytes : Bool := false

/-- Something that is done to the bytes of a block, or to the way it is written. -/
inductive Conversion where
  | lower
  | upper
  /-- Neighbours change places. -/
  | swapped
  /-- Blocks that are not full are filled. -/
  | filled
  /-- Lines become records of one size. -/
  | toRecords
  /-- Records of one size become lines. -/
  | fromRecords
  /-- The file that is written keeps what is not replaced. -/
  | keepsRest
  /-- The file that is written must be new. -/
  | mustBeNew
  /-- The file that is written must be there. -/
  | mustExist
  /-- Reading goes on after a failure. -/
  | ignoresErrors
  /-- Nothing that could be seen. -/
  | durable
  deriving DecidableEq

/-- The conversions by name. -/
def Conversion.named : List (String × Conversion) :=
  [("lcase", lower), ("ucase", upper), ("swab", swapped), ("sync", filled), ("block", toRecords),
    ("unblock", fromRecords), ("notrunc", keepsRest), ("excl", mustBeNew), ("nocreat", mustExist),
    ("noerror", ignoresErrors), ("fdatasync", durable), ("fsync", durable), ("sparse", durable)]

/-- A conversion makes that what is written is gathered in a buffer of its own. -/
def Conversion.isBuffered : Conversion → Bool
  | lower | upper | swapped | toRecords | fromRecords => true
  | _ => false

/-- What is told at the end. -/
inductive BlockReport where
  | nothing
  | blocks
  | all
  deriving DecidableEq

/-- What `dd` is asked for. -/
structure BlockPlan where
  input : Option String := none
  output : Option String := none
  /-- The size of all blocks, if it is given. -/
  both : Option Nat := none
  inputBlock : Nat := 512
  outputBlock : Nat := 512
  recordSize : Nat := 0
  count : Option BlockCount := none
  skip : BlockCount := ⟨0, false⟩
  seek : BlockCount := ⟨0, false⟩
  conversions : List Conversion := []
  report : BlockReport := .all
  appends : Bool := false
  /-- Short reads are made up for by more reads. -/
  readsFull : Bool := false

namespace BlockPlan

/-- The size of the blocks that are read. -/
def readSize (plan : BlockPlan) : Nat := plan.both.getD plan.inputBlock

/-- The size of the blocks that are written. -/
def writeSize (plan : BlockPlan) : Nat := plan.both.getD plan.outputBlock

/-- A conversion is asked for. -/
def converts (plan : BlockPlan) (conversion : Conversion) : Bool :=
  plan.conversions.contains conversion

/-- What is written is gathered in a buffer of its own. -/
def isBuffered (plan : BlockPlan) : Bool :=
  plan.both.isNone || plan.conversions.any Conversion.isBuffered

end BlockPlan

/-! ## The operands -/

/-- The factor of a letter after a number of blocks. -/
def blockFactor? : List Char → Option Nat
  | [] => some 1
  | ['c'] | ['B'] => some 1
  | ['w'] => some 2
  | ['b'] => some 512
  | ['k'] | ['K'] | ['K', 'i', 'B'] => some 1024
  | ['k', 'B'] | ['K', 'B'] => some 1000
  | ['M'] | ['M', 'i', 'B'] => some 1048576
  | ['M', 'B'] => some 1000000
  | ['G'] | ['G', 'i', 'B'] => some 1073741824
  | ['G', 'B'] => some 1000000000
  | ['T'] | ['T', 'i', 'B'] => some 1099511627776
  | ['P'] | ['P', 'i', 'B'] => some 1125899906842624
  | _ => none

/-- A number with a factor. -/
def blockFactored? (word : String) : Option Nat :=
  let digits := word.toList.takeWhile Char.isDigit
  if digits.isEmpty then none
  else do
    let factor ← blockFactor? (word.toList.drop digits.length)
    return (← (String.ofList digits).toNat?) * factor

/-- A product of numbers with factors. -/
def blockNumber? (word : String) : Option Nat :=
  (word.splitOn "x").foldlM (fun product part => (blockFactored? part).map (product * ·)) 1

/-- A number that an operand gives. -/
def blockNumber (name word : String) (least : Nat) : Routine Nat := do
  let refuse {α : Type} (reason : String) : Routine α := do
    complain name ("invalid number: " ++ quotedWord word ++ reason)
    quit 1
  match blockNumber? word with
  | some n =>
    if n < least then refuse ""
    if n > 9223372036854775807 then refuse ": Value too large for defined data type"
    return n
  | none => refuse ""

/-- A number of blocks, or of bytes if it ends so. -/
def blockCount (name word : String) : Routine BlockCount := do
  return ⟨← blockNumber name word 0, word.endsWith "B" && !word.endsWith "xB"
    && (word.toList.dropLast.getLast?.any Char.isDigit)⟩

/-- Refuses an item of a list. -/
def refuseBlockItem {α : Type} (name kind item : String) : Routine α := do
  complainOfUse name ("invalid " ++ kind ++ ": " ++ quotedWord item)
  quit 1

/-- What the flags of a file ask for. -/
def addBlockFlags (name : String) (isInput : Bool) (plan : BlockPlan) (word : String) :
    Routine BlockPlan :=
  (word.splitOn ",").foldlM (fun (plan : BlockPlan) item =>
    match item, isInput with
    | "fullblock", true => return { plan with readsFull := true }
    | "skip_bytes", true => return { plan with skip := { plan.skip with inBytes := true } }
    | "count_bytes", true =>
      return { plan with count := plan.count.map fun count => { count with inBytes := true } }
    | "seek_bytes", false => return { plan with seek := { plan.seek with inBytes := true } }
    | "append", false => return { plan with appends := true }
    | _, _ =>
      if ["append", "binary", "cio", "direct", "directory", "dsync", "noatime", "nocache",
          "noctty", "nofollow", "nolinks", "nonblock", "sync", "text"].contains item then
        return plan
      else refuseBlockItem name (if isInput then "input flag" else "output flag") item) plan

/-- What one operand asks for. -/
def addBlockOperand (name : String) (plan : BlockPlan) (operand : String) : Routine BlockPlan := do
  let key := String.ofList (operand.toList.takeWhile (· ≠ '='))
  let value := String.ofList (operand.toList.drop (key.length + 1))
  if key.length = operand.length then
    complainOfUse name ("unrecognized operand " ++ quotedWord operand)
    quit 1
  match key with
  | "if" => return { plan with input := some value }
  | "of" => return { plan with output := some value }
  | "bs" => return { plan with both := some (← blockNumber name value 1) }
  | "ibs" => return { plan with inputBlock := ← blockNumber name value 1 }
  | "obs" => return { plan with outputBlock := ← blockNumber name value 1 }
  | "cbs" => return { plan with recordSize := ← blockNumber name value 1 }
  | "count" => return { plan with count := some (← blockCount name value) }
  | "skip" | "iseek" => return { plan with skip := ← blockCount name value }
  | "seek" | "oseek" => return { plan with seek := ← blockCount name value }
  | "conv" =>
    let conversions ← (value.splitOn ",").mapM fun item =>
      match Conversion.named.lookup item with
      | some conversion => return conversion
      | none => refuseBlockItem name "conversion" item
    return { plan with conversions := plan.conversions ++ conversions }
  | "status" =>
    match value with
    | "none" => return { plan with report := .nothing }
    | "noxfer" => return { plan with report := .blocks }
    | "progress" => return plan
    | _ => refuseBlockItem name "status level" value
  | "iflag" | "oflag" => return plan
  | _ =>
    complainOfUse name ("unrecognized operand " ++ quotedWord operand)
    quit 1

/-- What all operands ask for.  The flags come last, since they change what numbers mean. -/
def readBlockPlan (name : String) (operands : List String) : Routine BlockPlan := do
  let plan ← operands.foldlM (addBlockOperand name) {}
  let plan ← operands.foldlM (fun plan operand =>
    if operand.startsWith "iflag=" then addBlockFlags name true plan (operand.drop 6).toString
    else if operand.startsWith "oflag=" then
      addBlockFlags name false plan (operand.drop 6).toString
    else return plan) plan
  let clash (a b : Conversion) (text : String) : Routine Unit := do
    if plan.converts a && plan.converts b then
      complain name ("cannot combine " ++ text)
      quit 1
  clash .toRecords .fromRecords "block and unblock"
  clash .lower .upper "lcase and ucase"
  clash .mustBeNew .mustExist "excl and nocreat"
  return plan

/-! ## Conversions -/

/-- Changes neighbours; the odd byte at the end waits for its neighbour. -/
def swapNeighbours : List UInt8 → List UInt8 × Option UInt8
  | a :: b :: rest =>
    let (swapped, left) := swapNeighbours rest
    (b :: a :: swapped, left)
  | [a] => ([], some a)
  | [] => ([], none)

/-- A copy that is under way. -/
structure BlockState where
  /-- How many full blocks and how many others were read. -/
  readFull : Nat := 0
  readPartial : Nat := 0
  writtenFull : Nat := 0
  writtenPartial : Nat := 0
  bytes : Nat := 0
  /-- A byte that waits for its neighbour. -/
  waiting : Option UInt8 := none
  /-- Where in a record or in a line the copy is. -/
  column : Nat := 0
  /-- How many blanks have been held back. -/
  blanks : Nat := 0
  /-- How many records were cut off. -/
  cutRecords : Nat := 0
  /-- What has not been written. -/
  buffer : ByteArray := .empty
  succeeded : Bool := true

namespace BlockState

/-- Makes records of lines. -/
def toRecords (size : Nat) (state : BlockState) (bytes : List UInt8) : List UInt8 × BlockState :=
  let step (found : List UInt8 × BlockState) (byte : UInt8) : List UInt8 × BlockState :=
    let (written, state) := found
    if byte = lineFeed then
      (List.replicate (size - state.column) 0x20 ++ written, { state with column := 0 })
    else if state.column = size then
      (written, { state with column := state.column + 1, cutRecords := state.cutRecords + 1 })
    else if state.column < size then (byte :: written, { state with column := state.column + 1 })
    else (written, state)
  let (written, state) := bytes.foldl step ([], state)
  (written.reverse, state)

/-- Makes lines of records. -/
def fromRecords (size : Nat) (state : BlockState) (bytes : List UInt8) :
    List UInt8 × BlockState :=
  let step (found : List UInt8 × BlockState) (byte : UInt8) : List UInt8 × BlockState :=
    let (written, state) := found
    let (written, state) :=
      if state.column = size then (lineFeed :: written, { state with column := 0, blanks := 0 })
      else (written, state)
    if byte = 0x20 then
      (written, { state with column := state.column + 1, blanks := state.blanks + 1 })
    else
      (byte :: (List.replicate state.blanks 0x20 ++ written),
        { state with column := state.column + 1, blanks := 0 })
  let (written, state) := bytes.foldl step ([], state)
  (written.reverse, state)

/-- Converts a block. -/
def convert (plan : BlockPlan) (state : BlockState) (block : ByteArray) : ByteArray × BlockState :=
  let bytes := block.toList
  let bytes :=
    if plan.converts .lower then bytes.map toLower
    else if plan.converts .upper then bytes.map toUpper else bytes
  let (bytes, state) :=
    if plan.converts .swapped then
      let (swapped, waiting) := swapNeighbours (state.waiting.toList ++ bytes)
      (swapped, { state with waiting })
    else (bytes, state)
  let (bytes, state) :=
    if plan.recordSize > 0 && plan.converts .toRecords then
      state.toRecords plan.recordSize bytes
    else if plan.recordSize > 0 && plan.converts .fromRecords then
      state.fromRecords plan.recordSize bytes
    else (bytes, state)
  (pack bytes, state)

/-- What is left to be written when all has been read. -/
def finish (plan : BlockPlan) (state : BlockState) : ByteArray × BlockState :=
  let (bytes, state) := (state.waiting.toList, { state with waiting := none })
  let (bytes, state) :=
    if plan.recordSize > 0 && plan.converts .toRecords then
      let (written, state) := state.toRecords plan.recordSize bytes
      let gap := if state.column > 0 then plan.recordSize - state.column else 0
      (written ++ List.replicate gap 0x20, state)
    else if plan.recordSize > 0 && plan.converts .fromRecords then
      let (written, state) := state.fromRecords plan.recordSize bytes
      (written ++ (if state.column > 0 then [lineFeed] else []), state)
    else (bytes, state)
  (pack bytes, state)

end BlockState

/-! ## Copying -/

/-- Copies by blocks. -/
abbrev BlockCopy := StateT BlockState Routine

namespace BlockCopy

/-- What the file that is read is called. -/
def inputName (plan : BlockPlan) : String := plan.input.getD "standard input"

/-- What the file that is written is called. -/
def outputName (plan : BlockPlan) : String := plan.output.getD "standard output"

/-- Tells how many blocks there were. -/
def report (plan : BlockPlan) : BlockCopy Unit := do
  let state ← get
  let tell (text : String) : BlockCopy Unit := do
    let routine : Routine Unit := do
      let _ ← perform (.write standardError (Text.toBytes (text ++ "\n")))
    routine
  if plan.report ≠ .nothing then
    tell (toString state.readFull ++ "+" ++ toString state.readPartial ++ " records in")
    tell (toString state.writtenFull ++ "+" ++ toString state.writtenPartial ++ " records out")
    if state.cutRecords > 0 then
      let noun := if state.cutRecords = 1 then " truncated record" else " truncated records"
      tell (toString state.cutRecords ++ noun)
    if plan.report = .all then
      tell (toString state.bytes ++ (if state.bytes = 1 then " byte" else " bytes")
        ++ " copied, 0 s, Infinity B/s")

/-- Writes a block. -/
def writeBlock (name : String) (plan : BlockPlan) (block : ByteArray) : BlockCopy Unit := do
  let write : Routine (Except Errno Unit) := perform (.write standardOutput block)
  match ← write with
  | .ok () => modify fun state => { state with bytes := state.bytes + block.size }
  | .error errno =>
    complain name ("error writing " ++ quotedAlways (outputName plan) ++ ": " ++ errno.description)
    report plan
    quit 1

/-- Counts a block that was written. -/
def countWritten (isFull : Bool) : BlockCopy Unit :=
  modify fun state =>
    if isFull then { state with writtenFull := state.writtenFull + 1 }
    else { state with writtenPartial := state.writtenPartial + 1 }

/-- Writes the full blocks of what has been gathered. -/
def writeGathered (name : String) (plan : BlockPlan) : (fuel : Nat) → BlockCopy Unit
  | 0 => return
  | fuel + 1 => do
    let buffer := (← get).buffer
    if buffer.size < plan.writeSize then return
    modify fun state => { state with buffer := buffer.extract plan.writeSize buffer.size }
    writeBlock name plan (buffer.extract 0 plan.writeSize)
    countWritten true
    writeGathered name plan fuel

/-- Gathers bytes, and writes those that fill blocks. -/
def gather (name : String) (plan : BlockPlan) (bytes : ByteArray) : BlockCopy Unit := do
  modify fun state => { state with buffer := state.buffer ++ bytes }
  writeGathered name plan ((← get).buffer.size + 1)

/-- Reads a block; one that is short is made up for by more reads if that is asked for. -/
def readBlock (plan : BlockPlan) (size : Nat) (sofar : ByteArray) :
    (fuel : Nat) → Routine (Except Errno ByteArray)
  | 0 => return .ok sofar
  | fuel + 1 => do
    match ← perform (.read standardInput (size - sofar.size)) with
    | .error errno => return .error errno
    | .ok bytes =>
      let all := sofar ++ bytes
      if bytes.isEmpty || all.size ≥ size || !plan.readsFull then return .ok all
      readBlock plan size all fuel

/-- The size of the next block; none if no more are to be read. -/
def nextSize? (plan : BlockPlan) (state : BlockState) : Option Nat :=
  let done := state.readFull + state.readPartial
  match plan.count with
  | none => some plan.readSize
  | some count =>
    let blocks := if count.inBytes then count.number / plan.readSize else count.number
    let rest := if count.inBytes then count.number % plan.readSize else 0
    if done < blocks then some plan.readSize
    else if done = blocks && rest > 0 then some rest
    else none

/-- Copies block by block. -/
def copy (name : String) (plan : BlockPlan) : (fuel : Nat) → BlockCopy Unit
  | 0 => return
  | fuel + 1 => do
    let some size := nextSize? plan (← get) | return
    match ← readBlock plan size .empty budget with
    | .error errno =>
      complain name ("error reading " ++ quotedAlways (inputName plan) ++ ": " ++ errno.description)
      modify fun state => { state with succeeded := false }
      return
    | .ok block =>
      if block.isEmpty then return
      let isFull := block.size = plan.readSize
      modify fun state =>
        if isFull then { state with readFull := state.readFull + 1 }
        else { state with readPartial := state.readPartial + 1 }
      let fillsWith : UInt8 :=
        if plan.converts .toRecords || plan.converts .fromRecords then 0x20 else 0
      let block :=
        if plan.converts .filled then
          block ++ pack (List.replicate (plan.readSize - block.size) fillsWith)
        else block
      if plan.isBuffered then
        let (bytes, state) := (← get).convert plan block
        set state
        gather name plan bytes
      else
        writeBlock name plan block
        countWritten (block.size = plan.readSize)
      copy name plan fuel

/-- Leaves out what is to be left out of an input whose places cannot be chosen. -/
def skipBlocks (size : Nat) : (fuel blocks bytes : Nat) → Routine Unit
  | 0, _, _ | _, 0, 0 => return
  | fuel + 1, blocks, bytes => do
    match ← perform (.read standardInput (if blocks > 0 then size else bytes)) with
    | .error _ => return
    | .ok block =>
      if block.isEmpty then return
      if blocks > 0 then skipBlocks size fuel (blocks - 1) bytes else return

/-- Leaves out what is to be left out of the input. -/
def skipInput (name : String) (plan : BlockPlan) : Routine Unit := do
  let { number, inBytes } := plan.skip
  if number = 0 then return
  let offset := if inBytes then number else number * plan.readSize
  match ← perform (.describe standardInput) with
  | .ok (info, some place) =>
    if place + offset > info.size then
      complain name (quotedBeforeColon (inputName plan) ++ ": cannot skip to specified offset")
    skipBlocks blockSize (offset / blockSize + 1) (offset / blockSize) (offset % blockSize)
  | _ => skipBlocks plan.readSize (number + 2) (offset / plan.readSize) (offset % plan.readSize)

end BlockCopy

/-- Puts the beginning of a file back that is to be kept, filled up to a size. -/
def keepBeginning (name path : String) (size : Nat) (old : ByteArray) : Routine Unit := do
  let kept := old.extract 0 size
  let gap := pack (List.replicate (size - kept.size) 0)
  if let .error errno ← perform (.write standardOutput (kept ++ gap)) then
    complain name ("error writing " ++ quotedAlways path ++ ": " ++ errno.description)
    quit 1

/-- Opens the file that is written, from the place on that is asked for. -/
def openBlockOutput (name : String) (plan : BlockPlan) : Routine Unit := do
  let offset := if plan.seek.inBytes then plan.seek.number else plan.seek.number * plan.writeSize
  match plan.output with
  | none =>
    if offset > 0 then
      match ← perform (.describe standardOutput) with
      | .ok (_, some _) => keepBeginning name "standard output" offset .empty
      | _ =>
        complain name (quotedAlways "standard output" ++ ": cannot seek: Illegal seek")
        quit 1
  | some path =>
    let keepsRest := plan.converts .keepsRest
    let mode : OpenMode :=
      { reads := keepsRest && offset > 0, writes := true, truncates := !keepsRest && offset = 0
        appends := plan.appends
        creates := if plan.converts .mustExist then none else some Files.newFileMode
        exclusive := plan.converts .mustBeNew }
    let old ← if offset > 0 && !keepsRest then readFile path else pure (.ok .empty)
    let mode := if offset > 0 && !keepsRest then { mode with truncates := true } else mode
    match ← perform (.openFile path mode) with
    | .error errno =>
      complain name ("failed to open " ++ quotedAlways path ++ ": " ++ errno.description)
      quit 1
    | .ok descriptor =>
      let _ ← perform (.install descriptor standardOutput)
      let _ ← perform (.close descriptor)
      if offset > 0 then
        if keepsRest then
          match ← perform (.describe standardOutput) with
          | .ok (info, some _) =>
            let rec advance : (fuel left : Nat) → Routine Unit
              | 0, _ | _, 0 => return
              | fuel + 1, left => do
                match ← perform (.read standardOutput (min left blockSize)) with
                | .ok bytes => if bytes.isEmpty then return else advance fuel (left - bytes.size)
                | .error _ => return
            advance (offset / blockSize + 2) offset
            keepBeginning name path (offset - info.size) .empty
          | _ => return
        else keepBeginning name path offset (old.toOption.getD .empty)

/-- Copies a file by blocks. -/
def dd : Program := fun image => do
  let name := image.name
  let parsed ← options { letters := [], words := [] } name image.words
  let plan ← readBlockPlan name parsed.operands
  if let some path := plan.input then
    match ← perform (.openFile path .input) with
    | .error errno =>
      complain name ("failed to open " ++ quotedAlways path ++ ": " ++ errno.description)
      return 1
    | .ok descriptor =>
      let _ ← perform (.install descriptor standardInput)
      let _ ← perform (.close descriptor)
  openBlockOutput name plan
  let copyAll : BlockCopy Unit := do
    BlockCopy.skipInput name plan
    BlockCopy.copy name plan budget
    if plan.isBuffered then
      let (bytes, state) := (← get).finish plan
      set state
      BlockCopy.gather name plan bytes
      let rest := (← get).buffer
      if !rest.isEmpty then
        BlockCopy.writeBlock name plan rest
        BlockCopy.countWritten false
    BlockCopy.report plan
  let ((), state) ← copyAll.run {}
  return codeOf state.succeeded

end CommandShell.Machine.Program
