import CommandShell.Machine.Program.Sorting
set_option autoImplicit false

/-!
# Joining files

Two files whose lines are in the order of a key field are read side by side.  Lines with equal keys
are put together on one line; a line whose key the other file does not have may be shown alone.
That a file is out of order is noticed when it could have cost a pair.
-/

namespace CommandShell.Machine.Program

/-! ## What is joined, and how it is shown -/

/-- What stands between fields. -/
inductive FieldBreak where
  /-- Any number of blanks, also before the first field. -/
  | blanks
  | byte (mark : UInt8)
  /-- Nothing: the line is one field. -/
  | never

/-- A field of the output. -/
inductive JoinField where
  | key
  /-- A field of the first or of the second file, counted from 0. -/
  | ofFile (isFirst : Bool) (index : Nat)

/-- Which fields a line of the output has. -/
inductive JoinFormat where
  /-- The key, and then all other fields of each line. -/
  | all
  /-- The same, with as many fields as the first line of each file has. -/
  | asFirst
  | listed (fields : List JoinField)

/-- When lines that are out of order are told. -/
inductive OrderCheck where
  | always
  /-- Only after a line without partner. -/
  | whenUnpaired
  | never
  deriving DecidableEq

/-- What a join does. -/
structure JoinPlan where
  fieldBreak : FieldBreak := .blanks
  /-- The key field of each file, counted from 0. -/
  keys : Nat × Nat := (0, 0)
  foldCase : Bool := false
  showsPairs : Bool := true
  /-- For each file whether its lines without partner are shown. -/
  showsUnpaired : Bool × Bool := (false, false)
  /-- What an empty field shows. -/
  filler : List UInt8 := []
  format : JoinFormat := .all
  check : OrderCheck := .whenUnpaired
  hasHeader : Bool := false
  ending : UInt8 := lineFeed

/-- A line with its fields. -/
structure JoinRow where
  text : Line
  fields : List Line

/-- A byte that stands between fields where blanks do. -/
def isFieldBlank (byte : UInt8) : Bool := isBlank byte || byte = lineFeed

/-- The fields between blanks; a line that ends with a blank ends with an empty field. -/
def blankFields : (fuel : Nat) → Line → List Line
  | 0, _ => []
  | fuel + 1, line =>
    let field := line.takeWhile fun byte => !isFieldBlank byte
    match line.drop field.length with
    | [] => [field]
    | _ :: rest =>
      match rest.dropWhile isFieldBlank with
      | [] => [field, []]
      | more => field :: blankFields fuel more

/-- The fields of a line. -/
def FieldBreak.fields (fieldBreak : FieldBreak) (line : Line) : List Line :=
  if line.isEmpty then []
  else match fieldBreak with
    | .never => [line]
    | .byte mark =>
      let pieces := linesOf (pack line) mark
      if line.getLast? = some mark then pieces ++ [[]] else pieces
    | .blanks => match line.dropWhile isFieldBlank with
      | [] => []
      | rest => blankFields (rest.length + 1) rest

/-- What stands between two fields of the output. -/
def FieldBreak.separator : FieldBreak → UInt8
  | .blanks => 0x20
  | .byte mark => mark
  | .never => lineFeed

namespace JoinPlan

/-- The key field of the first or of the second file. -/
def key (plan : JoinPlan) (isFirst : Bool) : Nat := if isFirst then plan.keys.1 else plan.keys.2

/-- How two keys lie to each other. -/
def compareKeys (plan : JoinPlan) (a b : Line) : Ordering :=
  if plan.foldCase then compareBytes (a.map toUpper) (b.map toUpper) else compareBytes a b

/-- How the keys of a line of the first and one of the second file lie to each other. -/
def compareRows (plan : JoinPlan) (a b : JoinRow) : Ordering :=
  plan.compareKeys (a.fields.getD plan.keys.1 []) (b.fields.getD plan.keys.2 [])

/-- A field as it is shown. -/
def shownField (plan : JoinPlan) (row : Option JoinRow) (index : Nat) : Line :=
  match (row.bind fun row => row.fields[index]?).getD [] with
  | [] => plan.filler
  | field => field

/-- The line for a pair, of which one half may be missing.  The counts are those of the fields that
the first line of each file has. -/
def shownPair (plan : JoinPlan) (counts : Nat × Nat) (first second : Option JoinRow) : Line :=
  let key : Line :=
    if first.isSome then plan.shownField first plan.keys.1
    else plan.shownField second plan.keys.2
  let others (row : Option JoinRow) (keyIndex count : Nat) : List Line :=
    ((List.range count).filter (· ≠ keyIndex)).map (plan.shownField row)
  let size (row : Option JoinRow) : Nat := (row.map fun row => row.fields.length).getD 0
  let fields : List Line := match plan.format with
    | .all =>
      key :: (others first plan.keys.1 (size first) ++ others second plan.keys.2 (size second))
    | .asFirst =>
      key :: (others first plan.keys.1 counts.1 ++ others second plan.keys.2 counts.2)
    | .listed fields => fields.map fun field => match field with
      | .key => key
      | .ofFile isFirst index => plan.shownField (if isFirst then first else second) index
  (fields.intersperse [plan.fieldBreak.separator]).flatten

end JoinPlan

/-! ## Reading side by side -/

/-- A file that is being joined. -/
structure JoinSide where
  file : String
  /-- The lines that have not been read. -/
  unread : List Line
  /-- The line that was read last. -/
  previous : Option JoinRow := none
  /-- How many lines have been read. -/
  number : Nat := 0
  /-- It has been told that the lines are out of order. -/
  isDisordered : Bool := false

/-- A join under way. -/
structure JoinState where
  first : JoinSide
  second : JoinSide
  /-- A line had no partner. -/
  sawUnpaired : Bool := false
  /-- The lines that are not yet written, the last one first. -/
  pending : List Line := []

namespace JoinState

/-- One of the two files. -/
def side (state : JoinState) (isFirst : Bool) : JoinSide :=
  if isFirst then state.first else state.second

/-- One of the two files has changed. -/
def setSide (state : JoinState) (isFirst : Bool) (side : JoinSide) : JoinState :=
  if isFirst then { state with first := side } else { state with second := side }

end JoinState

/-- Joins, reading the two files. -/
abbrev Join := StateT JoinState Routine

namespace Join

/-- Writes what is pending. -/
def flush (name : String) (plan : JoinPlan) : Join Unit := do
  let state ← get
  put name (unlines state.pending.reverse plan.ending)
  set { state with pending := [] }

/-- Shows a pair. -/
def emit (plan : JoinPlan) (counts : Nat × Nat) (first second : Option JoinRow) : Join Unit :=
  modify fun state =>
    { state with pending := plan.shownPair counts first second :: state.pending }

/-- Looks whether a line comes too late in its file. -/
def checkOrder (name : String) (plan : JoinPlan) (isFirst : Bool) (row : JoinRow) :
    Join Unit := do
  let state ← get
  let side := state.side isFirst
  let key (row : JoinRow) : Line := row.fields.getD (plan.key isFirst) []
  let isChecked := plan.check = .always || (plan.check = .whenUnpaired && state.sawUnpaired)
  if let some previous := side.previous then
    if isChecked && !side.isDisordered && plan.compareKeys (key previous) (key row) = .gt then
      flush name plan
      complain name (side.file ++ ":" ++ toString (side.number + 1) ++ ": is not sorted: "
        ++ Text.ofBytes (pack row.text))
      if plan.check = .always then quit 1
      modify fun state => state.setSide isFirst { side with isDisordered := true }

/-- The next line of a file. -/
def next (name : String) (plan : JoinPlan) (isFirst : Bool) : Join (Option JoinRow) := do
  match ((← get).side isFirst).unread with
  | [] => return none
  | line :: rest =>
    let row : JoinRow := ⟨line, plan.fieldBreak.fields line⟩
    checkOrder name plan isFirst row
    modify fun state =>
      let side := state.side isFirst
      state.setSide isFirst
        { side with unread := rest, previous := some row, number := side.number + 1 }
    return some row

/-- Reads on while lines belong to the group: those lines and the line after them. -/
def group (name : String) (plan : JoinPlan) (isFirst : Bool) (belongs : JoinRow → Bool)
    (sofar : List JoinRow) : (fuel : Nat) → Join (List JoinRow × Option JoinRow)
  | 0 => return (sofar.reverse, none)
  | fuel + 1 => do
    match ← next name plan isFirst with
    | none => return (sofar.reverse, none)
    | some row =>
      if belongs row then group name plan isFirst belongs (row :: sofar) fuel
      else return (sofar.reverse, some row)

/-- Puts the lines of both files together until one file is read through: the line that each file
is at then. -/
def pairs (name : String) (plan : JoinPlan) (counts : Nat × Nat) :
    (fuel : Nat) → Option JoinRow → Option JoinRow → Join (Option JoinRow × Option JoinRow)
  | fuel + 1, some a, some b => do
    match plan.compareRows a b with
    | .lt =>
      if plan.showsUnpaired.1 then emit plan counts (some a) none
      let row ← next name plan true
      modify fun state => { state with sawUnpaired := true }
      pairs name plan counts fuel row (some b)
    | .gt =>
      if plan.showsUnpaired.2 then emit plan counts none (some b)
      let row ← next name plan false
      modify fun state => { state with sawUnpaired := true }
      pairs name plan counts fuel (some a) row
    | .eq =>
      let (as, nextA) ← group name plan true (fun row => plan.compareRows row b = .eq) [a]
        (((← get).first.unread.length) + 1)
      let (bs, nextB) ← group name plan false (fun row => plan.compareRows a row = .eq) [b]
        (((← get).second.unread.length) + 1)
      if plan.showsPairs then
        for a in as do
          for b in bs do
            emit plan counts (some a) (some b)
      pairs name plan counts fuel nextA nextB
  | _, a, b => return (a, b)

/-- Reads the rest of a file, of which the given line has been read. -/
def rest (name : String) (plan : JoinPlan) (counts : Nat × Nat) (isFirst isShown : Bool) :
    (fuel : Nat) → JoinRow → Join Unit
  | 0, _ => return
  | fuel + 1, row => do
    if isShown then
      if isFirst then emit plan counts (some row) none else emit plan counts none (some row)
    if ((← get).side isFirst).isDisordered && !isShown then return
    if let some row ← next name plan isFirst then
      rest name plan counts isFirst isShown fuel row

/-- Joins two files. -/
def files (name : String) (plan : JoinPlan) : Join Unit := do
  let fuel := (← get).first.unread.length + (← get).second.unread.length + 1
  let mut a ← next name plan true
  let mut b ← next name plan false
  let size (row : Option JoinRow) : Nat := (row.map fun row => row.fields.length).getD 0
  let counts := (size a, size b)
  if plan.hasHeader && (a.isSome || b.isSome) then
    emit plan counts a b
    modify fun state =>
      { state with
        first := { state.first with previous := none }
        second := { state.second with previous := none } }
    if a.isSome then a ← next name plan true
    if b.isSome then b ← next name plan false
  let (lastA, lastB) ← pairs name plan counts fuel a b
  let state ← get
  let isTailChecked :=
    plan.check ≠ .never && !(state.first.isDisordered && state.second.isDisordered)
  if let some row := lastA then
    if plan.showsUnpaired.1 || isTailChecked then
      if lastB.isSome then modify fun state => { state with sawUnpaired := true }
      rest name plan counts true plan.showsUnpaired.1 fuel row
  if let some row := lastB then
    if plan.showsUnpaired.2 || isTailChecked then
      if lastA.isSome then modify fun state => { state with sawUnpaired := true }
      rest name plan counts false plan.showsUnpaired.2 fuel row
  flush name plan

end Join

/-! ## The arguments -/

/-- The options of `join`. -/
def joinOptions : OptionTable :=
  { letters := OptionTable.flags "iz" ++ OptionTable.valued "12aejotv"
    words := [("ignore-case", .none, 'i'), ("check-order", .none, 'C'),
      ("nocheck-order", .none, 'N'), ("zero-terminated", .none, 'z'), ("header", .none, 'H')] }

/-- The number of a field, counted from 0. -/
def joinFieldNumber (name word : String) : Routine Nat := do
  match natural? word with
  | some (n + 1) => return n
  | _ =>
    complain name ("invalid field number: " ++ quotedWord word)
    quit 1

/-- A field of a list such as `1.2`. -/
def joinField (name word : String) : Routine JoinField := do
  match word.toList with
  | ['0'] => return .key
  | '1' :: '.' :: index => return .ofFile true (← joinFieldNumber name (String.ofList index))
  | '2' :: '.' :: index => return .ofFile false (← joinFieldNumber name (String.ofList index))
  | c :: _ =>
    let problem :=
      if c = '0' || c = '1' || c = '2' then "invalid field specifier: "
      else "invalid file number in field spec: "
    complain name (problem ++ quotedWord word)
    quit 1
  | [] =>
    complain name ("invalid file number in field spec: " ++ quotedWord word)
    quit 1

/-- The fields of a list with commas or blanks. -/
def joinFields (name list : String) : Routine (List JoinField) := do
  let marks := list.map fun c => if c = ' ' || c = '\t' then ',' else c
  (marks.splitOn ",").mapM (joinField name)

/-- A plan that is being made: what was asked for so far. -/
structure JoinRequest where
  plan : JoinPlan := {}
  separator : Option UInt8 := none
  keys : Option Nat × Option Nat := (none, none)
  filler : Option String := none
  listed : List JoinField := []
  isAsFirst : Bool := false

namespace JoinRequest

/-- Asks for a key field of the first and of the second file. -/
def addKeys (name : String) (request : JoinRequest) (isFirst isSecond : Bool) (key : Nat) :
    Routine JoinRequest := do
  let agree (isAsked : Bool) (known : Option Nat) : Routine (Option Nat) := do
    if !isAsked then return known
    if let some other := known then
      if other ≠ key then
        complain name ("incompatible join fields " ++ toString other ++ ", " ++ toString key)
        quit 1
    return some key
  return { request with
    keys := (← agree isFirst request.keys.1, ← agree isSecond request.keys.2) }

/-- Asks for what stands between fields; nothing stands for lines of one field. -/
def addSeparator (name : String) (request : JoinRequest) (word : String) :
    Routine JoinRequest := do
  let byte ← match word, (Text.toBytes word).toList with
    | "\\0", _ => pure 0
    | _, [] => pure lineFeed
    | _, [byte] => pure byte
    | _, _ => do
      complain name ("multi-character tab " ++ quotedWord word)
      quit 1
  if request.separator.any (· ≠ byte) then
    complain name "incompatible tabs"
    quit 1
  return { request with separator := some byte }

/-- Takes one option into account. -/
def add (name : String) (request : JoinRequest) (letter : Char) (value : String) :
    Routine JoinRequest := do
  let plan := request.plan
  match letter with
  | 'i' => return { request with plan := { plan with foldCase := true } }
  | 'z' => return { request with plan := { plan with ending := 0 } }
  | 'C' => return { request with plan := { plan with check := .always } }
  | 'N' => return { request with plan := { plan with check := .never } }
  | 'H' => return { request with plan := { plan with hasHeader := true } }
  | '1' => request.addKeys name true false (← joinFieldNumber name value)
  | '2' => request.addKeys name false true (← joinFieldNumber name value)
  | 'j' => request.addKeys name true true (← joinFieldNumber name value)
  | 't' => request.addSeparator name value
  | 'e' =>
    if request.filler.any (· ≠ value) then
      complain name "conflicting empty-field replacement strings"
      quit 1
    return { request with filler := some value }
  | 'o' =>
    if value = "auto" then return { request with isAsFirst := true }
    return { request with listed := request.listed ++ (← joinFields name value) }
  | _ =>
    let showsPairs := plan.showsPairs && letter ≠ 'v'
    match natural? value with
    | some 1 =>
      return { request with
        plan := { plan with showsPairs, showsUnpaired := (true, plan.showsUnpaired.2) } }
    | some 2 =>
      return { request with
        plan := { plan with showsPairs, showsUnpaired := (plan.showsUnpaired.1, true) } }
    | _ =>
      complain name ("invalid field number: " ++ quotedWord value)
      quit 1

/-- The plan for all that was asked for. -/
def finish (request : JoinRequest) : JoinPlan :=
  { request.plan with
    keys := (request.keys.1.getD 0, request.keys.2.getD 0)
    filler := (Text.toBytes (request.filler.getD "")).toList
    fieldBreak := match request.separator with
      | none => .blanks
      | some byte => if byte = lineFeed then .never else .byte byte
    format :=
      if !request.listed.isEmpty then .listed request.listed
      else if request.isAsFirst then .asFirst else .all }

end JoinRequest

/-- Opens a file that is to be joined, where `-` is standard input. -/
def openJoined (name file : String) : Routine Descriptor := do
  if file = "-" then return standardInput
  match ← perform (.openFile file .input) with
  | .ok descriptor => return descriptor
  | .error errno =>
    complainOfFile name file errno
    quit 1

/-- All lines of a file that is to be joined. -/
def readJoined (name : String) (plan : JoinPlan) (descriptor : Descriptor) :
    Routine (List Line) := do
  match ← readAll descriptor .empty budget with
  | .ok bytes => return linesOf bytes plan.ending
  | .error errno =>
    complain name ("read error: " ++ errno.description)
    quit 1

/-- Puts the lines of two files together that have the same key. -/
def join : Program := fun image => do
  let name := image.name
  let parsed ← options joinOptions name image.words
  let request ← parsed.options.foldlM (fun (request : JoinRequest) option =>
    request.add name option.1 (option.2.getD "")) {}
  let plan := request.finish
  match parsed.operands with
  | [first, second] =>
    if first = "-" && second = "-" then
      complain name "both files cannot be standard input"
      return 1
    let a ← openJoined name first
    let b ← openJoined name second
    let state : JoinState :=
      { first := { file := first, unread := ← readJoined name plan a }
        second := { file := second, unread := ← readJoined name plan b } }
    let ((), state) ← (Join.files name plan).run state
    if state.first.isDisordered || state.second.isDisordered then
      complain name "input is not in sorted order"
      return 1
    return 0
  | [] => missingOperand name
  | [_] =>
    complainOfUse name ("missing operand after " ++ quotedWord (image.words.getLast?.getD ""))
    return 1
  | _ :: _ :: extra :: _ => extraOperand name extra

end CommandShell.Machine.Program
