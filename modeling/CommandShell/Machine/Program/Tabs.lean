import CommandShell.Machine.Program.Basic
set_option autoImplicit false

/-!
# Tabs and blanks

One program writes blanks for tabs, and another writes tabs for blanks.  Both know where the tab
stops are: at every multiple of a width, or at columns of a list, after which the stops may go on
with a width of their own.
-/

namespace CommandShell.Machine.Program

/-! ## Tab stops -/

/-- How the stops go on after those of a list. -/
inductive TabTail where
  | none
  /-- At every multiple of a width. -/
  | multiples (width : Nat)
  /-- At every multiple of a width, counted from the last stop of the list. -/
  | steps (width : Nat)

/-- The tab stops of a line. -/
structure TabStops where
  listed : List Nat
  tail : TabTail

namespace TabStops

/-- A stop at every multiple of a width. -/
def every (width : Nat) : TabStops := ⟨[], .multiples width⟩

/-- The first stop after a column, of those that have not been passed. -/
def next? (stops : TabStops) (passed column : Nat) : Option Nat :=
  match (stops.listed.drop passed).find? (column < ·) with
  | some stop => some stop
  | none => match stops.tail with
    | .none => Option.none
    | .multiples width => some (column + (width - column % width))
    | .steps width =>
      some (column + (width - (column - stops.listed.getLast?.getD 0) % width))

/-- How many stops have been passed at a column, if so many had been passed before. -/
def passedAt (stops : TabStops) (passed column : Nat) : Nat :=
  passed + ((stops.listed.drop passed).takeWhile (· ≤ column)).length

end TabStops

/-- What is wrong with a list of stops. -/
inductive TabFault where
  | zero
  | notAscending
  | wrongCharacters (word : String)
  | misplacedMark (mark : Char) (word : String)
  | markNotLast (mark : Char)
  | bothMarks
  | tooLarge (word : String)

/-- The wording of a fault. -/
def TabFault.message : TabFault → String
  | zero => "tab size cannot be 0"
  | notAscending => "tab sizes must be ascending"
  | wrongCharacters word => "tab size contains invalid character(s): " ++ quotedWord word
  | misplacedMark mark word =>
    quotedWord mark.toString ++ " specifier not at start of number: " ++ quotedWord word
  | markNotLast mark =>
    quotedWord mark.toString ++ " specifier only allowed with the last value"
  | bothMarks => "'/' specifier is mutually exclusive with '+'"
  | tooLarge word => "tab stop is too large " ++ quotedWord word

/-- A list of stops that is being read. -/
structure TabList where
  listed : List Nat := []
  multiple : Nat := 0
  step : Nat := 0

namespace TabList

/-- One more number, which may have a mark. -/
def add (tabs : TabList) (mark : Option Char) (number : Nat) : Except TabFault TabList :=
  match mark with
  | some '/' =>
    if tabs.multiple ≠ 0 then .error (.markNotLast '/') else .ok { tabs with multiple := number }
  | some mark =>
    if tabs.step ≠ 0 then .error (.markNotLast mark) else .ok { tabs with step := number }
  | none => .ok { tabs with listed := tabs.listed ++ [number] }

/-- Reads the numbers of a list; `digits` are those of the number that is being read. -/
def read (tabs : TabList) (mark : Option Char) (digits : List Char) :
    List Char → Except TabFault TabList
  | [] =>
    if digits.isEmpty then .ok tabs
    else tabs.add mark ((String.ofList digits.reverse).toNat?.getD 0)
  | c :: rest =>
    if c = ',' || c = ' ' || c = '\t' then
      if digits.isEmpty then tabs.read mark [] rest
      else do
        let tabs ← tabs.add mark ((String.ofList digits.reverse).toNat?.getD 0)
        tabs.read mark [] rest
    else if c = '/' || c = '+' then
      if digits.isEmpty then tabs.read (some c) digits rest
      else .error (.misplacedMark c (String.ofList (c :: rest)))
    else if c.isDigit then
      let number := (String.ofList (c :: digits).reverse).toNat?.getD 0
      if number < Nat.pow 2 64 then tabs.read mark (c :: digits) rest
      else .error (.tooLarge
        (String.ofList (digits.reverse ++ (c :: rest).takeWhile Char.isDigit)))
    else .error (.wrongCharacters (String.ofList (c :: rest)))

/-- Numbers that ascend from one. -/
def ascends : Nat → List Nat → Except TabFault Unit
  | _, [] => .ok ()
  | last, stop :: rest =>
    if stop = 0 then .error .zero
    else if stop ≤ last then .error .notAscending
    else ascends stop rest

/-- The stops that a list stands for. -/
def stops (tabs : TabList) : Except TabFault TabStops := do
  ascends 0 tabs.listed
  if tabs.step ≠ 0 && tabs.multiple ≠ 0 then throw .bothMarks
  match tabs.listed with
  | [] => return .every (if tabs.multiple ≠ 0 then tabs.multiple
      else if tabs.step ≠ 0 then tabs.step else 8)
  | listed =>
    if tabs.multiple ≠ 0 then return ⟨listed, .multiples tabs.multiple⟩
    if tabs.step ≠ 0 then return ⟨listed, .steps tabs.step⟩
    match listed with
    | [width] => return .every width
    | listed => return ⟨listed, .none⟩

end TabList

/-- Reads the lists of stops of a program's arguments; a fault ends the program. -/
def tabStops (name : String) (lists : List String) : Routine TabStops := do
  let parsed := lists.foldlM
    (fun (tabs : TabList) list => tabs.read none [] list.toList) ({} : TabList)
  match parsed.bind TabList.stops with
  | .ok stops => return stops
  | .error fault =>
    complain name fault.message
    quit 1

/-- The arguments of a program, where a number after a hyphen is a tab list. -/
def tabWords (words : List String) : List String :=
  words.flatMap fun word =>
    match word.toList with
    | '-' :: c :: rest =>
      if c.isDigit && rest.all (fun c => c.isDigit || c = ',') then
        ["--tabs=" ++ String.ofList (c :: rest)] else [word]
    | _ => [word]

/-- All bytes of the files that a program is given, and whether all could be read. -/
def readTogether (name : String) (files : List String) : Routine (ByteArray × Bool) := do
  let mut bytes := ByteArray.empty
  let mut succeeded := true
  for file in orStandardInput files do
    match ← readFile file with
    | .ok more => bytes := bytes ++ more
    | .error errno =>
      complainOfFile name file errno
      succeeded := false
  return (bytes, succeeded)

/-! ## Blanks for tabs -/

/-- A line that is being written with blanks for tabs. -/
structure Expanding where
  column : Nat := 0
  passed : Nat := 0
  /-- Tabs are still replaced on this line. -/
  isActive : Bool := true
  /-- What is written, the last byte first. -/
  written : List UInt8 := []

/-- Writes one byte with blanks for a tab. -/
def expandByte (stops : TabStops) (wholeLine : Bool) (state : Expanding) (byte : UInt8) :
    Expanding :=
  if byte = lineFeed then { written := byte :: state.written }
  else if !state.isActive then { state with written := byte :: state.written }
  else
    let isActive := wholeLine || isBlank byte
    if byte = 0x09 then
      let passed := stops.passedAt state.passed state.column
      let target := (stops.next? passed state.column).getD (state.column + 1)
      { column := target, passed, isActive
        written := List.replicate (target - state.column) 0x20 ++ state.written }
    else if byte = 0x08 then
      { column := state.column - 1, passed := state.passed - 1, isActive
        written := byte :: state.written }
    else { state with column := state.column + 1, isActive, written := byte :: state.written }

/-- Writes blanks for tabs. -/
def expand : Program := fun image => do
  let name := image.name
  let parsed ← options
    { letters := OptionTable.flags "i" ++ OptionTable.valued "t"
      words := [("initial", .none, 'i'), ("tabs", .required, 't')] } name (tabWords image.words)
  let stops ← tabStops name (parsed.values 't')
  let (bytes, succeeded) ← readTogether name parsed.operands
  let state := bytes.toList.foldl (expandByte stops (!parsed.has 'i')) {}
  put name (pack state.written.reverse)
  return codeOf succeeded

/-! ## Tabs for blanks -/

/-- A line that is being written with tabs for blanks. -/
structure Unexpanding where
  column : Nat := 0
  passed : Nat := 0
  /-- Blanks are still replaced on this line. -/
  isActive : Bool := true
  /-- The first blank that is held back stands just before a stop. -/
  endsAtStop : Bool := false
  afterBlank : Bool := true
  /-- The blanks that are held back, the last one first. -/
  held : List UInt8 := []
  /-- What is written, the last byte first. -/
  written : List UInt8 := []

namespace Unexpanding

/-- Writes a byte after the blanks that were held back. -/
def release (state : Unexpanding) (byte : UInt8) (isBlank isActive : Bool) : Unexpanding :=
  let held : List UInt8 :=
    if state.held.length > 1 && state.endsAtStop then state.held.dropLast ++ [0x09]
    else state.held
  { state with
    held := [], endsAtStop := state.endsAtStop && held.isEmpty, afterBlank := isBlank, isActive
    written := byte :: (held ++ state.written) }

/-- The blanks that stay held back when a tab takes the place of blanks. -/
def keepOne (state : Unexpanding) : Unexpanding :=
  { state with held := if state.endsAtStop then [0x09] else [] }

/-- Writes one byte with tabs for blanks. -/
def step (stops : TabStops) (wholeLine : Bool) (state : Unexpanding) (byte : UInt8) :
    Unexpanding :=
  if !state.isActive then
    if byte = lineFeed then { written := byte :: state.written }
    else { state with written := byte :: state.written }
  else if isBlank byte then
    let passed := stops.passedAt state.passed state.column
    match stops.next? passed state.column with
    | none => { state with passed }.release byte true false
    | some stop =>
      if byte = 0x09 then
        ({ state with passed, column := stop }.keepOne).release byte true true
      else
        let column := state.column + 1
        if state.afterBlank && column = stop then
          ({ state with passed, column }.keepOne).release 0x09 true true
        else
          { state with
            passed, column, endsAtStop := state.endsAtStop || column = stop
            held := byte :: state.held, afterBlank := true }
  else
    let state : Unexpanding :=
      if byte = 0x08 then
        { state with column := state.column - 1, passed := state.passed - 1 }
      else { state with column := state.column + 1 }
    let state := state.release byte false wholeLine
    if byte = lineFeed then { written := state.written } else state

/-- All that is written at the end of the input. -/
def finish (state : Unexpanding) : List UInt8 :=
  let held : List UInt8 :=
    if state.held.length > 1 && state.endsAtStop then state.held.dropLast ++ [0x09]
    else state.held
  (held ++ state.written).reverse

end Unexpanding

/-- Writes tabs for blanks. -/
def unexpand : Program := fun image => do
  let name := image.name
  let parsed ← options
    { letters := OptionTable.flags "a0123456789," ++ OptionTable.valued "t"
      words := [("all", .none, 'a'), ("first-only", .none, 'f'), ("tabs", .required, 't')] } name
    image.words
  let digits := (parsed.options.map Prod.fst).filter fun letter => letter.isDigit || letter = ','
  let stops ← tabStops name (parsed.values 't' ++ [String.ofList digits])
  let wholeLine := (parsed.has 'a' || parsed.has 't') && !parsed.has 'f'
  let (bytes, succeeded) ← readTogether name parsed.operands
  let state := bytes.toList.foldl (Unexpanding.step stops wholeLine) {}
  put name (pack state.finish)
  return codeOf succeeded

end CommandShell.Machine.Program
