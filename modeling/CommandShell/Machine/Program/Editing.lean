import CommandShell.Machine.Program.EditScript
import CommandShell.Machine.Program.Filing
set_option autoImplicit false

/-!
# Editing streams

An editor reads its input line by line, does to each line what its script says, and puts the line
out.  What is put out reaches standard output a block at a time.
-/

namespace CommandShell.Machine.Program

open Regex (Expr Subject Match)

variable {α : Type}

/-- Whether the range of a command has been entered. -/
inductive RangeState where
  | idle
  /-- The range goes on up to this line. -/
  | upTo (line : Nat)
  /-- The range goes on up to the next line that is meant. -/
  | upToMatch
  /-- The range has come to its end. -/
  | over
  deriving DecidableEq

/-- The ranges of the commands before the first line: one that begins at line 0 has been entered. -/
def EditScript.ranges (script : EditScript) : Array RangeState :=
  script.commands.map fun command =>
    if command.range.first.any EditReader.isLineZero then .upToMatch else .idle

/-- How an editor is set up. -/
structure EditSetup where
  name : String
  script : EditScript
  /-- Lines are put out only where the script says so. -/
  silent : Bool
  /-- Each file is a stream of its own. -/
  separate : Bool
  /-- Files are replaced by what is put out; the backup of each gets a name made from this one. -/
  inPlace : Option String
  ending : UInt8
  lineWidth : Nat

/-- How far an editor has come. -/
structure EditState where
  /-- The files that have not been opened. -/
  files : List String
  /-- The open file and its name. -/
  input : Option (String × Descriptor) := none
  /-- The name of the file that was opened last. -/
  fileName : String := "-"
  /-- What has been read of it and not been used. -/
  pending : List UInt8 := []
  atEnd : Bool := false
  line : Nat := 0
  /-- The line being edited, and whether it is put out with an ending. -/
  space : List UInt8 := []
  isEnded : Bool := true
  held : List UInt8 := []
  heldIsEnded : Bool := true
  appendices : List Appendix := []
  replaced : Bool := false
  ranges : Array RangeState
  /-- The pattern that was used last. -/
  lastPattern : Option Expr := none
  output : ByteArray := .empty
  /-- The last line that was put out lacks its ending. -/
  lacksEnding : Bool := false
  /-- The files that lines are written to, and those that lines are read from. -/
  writers : List (String × Descriptor) := []
  readers : List (String × List UInt8) := []
  failed : Bool := false

/-- A computation of an editor. -/
abbrev Editing := StateT EditState Routine

namespace Editing

/-- Makes a call of the system. -/
def call (c : Call) : Editing c.Reply := liftM (perform c)

/-- Ends the editor for good after a complaint. -/
def stop (setup : EditSetup) (text : String) : Editing α := do
  liftM (complain setup.name text)
  liftM (quit 4 : Routine α)

/-! ## Output -/

/-- How many bytes of output are kept back at most. -/
def outputBlock : Nat := 4096

/-- Writes out what has been kept back. -/
def flush (setup : EditSetup) : Editing Unit := do
  let bytes := (← get).output
  modify fun s => { s with output := .empty }
  liftM (put setup.name bytes 4)

/-- Puts out bytes.  The output for a file that is replaced is kept back altogether. -/
def putOut (setup : EditSetup) (bytes : List UInt8) : Editing Unit := do
  let lacking := if (← get).lacksEnding then [setup.ending] else []
  modify fun s => { s with output := s.output ++ pack (lacking ++ bytes), lacksEnding := false }
  if setup.inPlace.isNone && (← get).output.size ≥ outputBlock then flush setup

/-- Puts out a line, with an ending if the line that was read has one. -/
def putLine (setup : EditSetup) (line : List UInt8) : Editing Unit := do
  let isEnded := (← get).isEnded
  putOut setup (if isEnded then line ++ [setup.ending] else line)
  modify fun s => { s with lacksEnding := !isEnded }

/-- Puts a line out to a file. -/
def putLineTo (setup : EditSetup) (path : String) (line : List UInt8) : Editing Unit := do
  if path = "/dev/stdout" then putLine setup line
  else
    match (← get).writers.lookup path with
    | some descriptor =>
      let bytes := if (← get).isEnded then line ++ [setup.ending] else line
      let _ ← call (.write descriptor (pack bytes))
    | none => return

/-! ## Input -/

/-- Opens the next file that can be opened.  Gives false if there is none. -/
def openNext (setup : EditSetup) : List String → Editing Bool
  | [] => return false
  | file :: rest => do
    modify fun s => { s with files := rest }
    let isOpen (descriptor : Descriptor) : Editing Bool := do
      modify fun s => { s with
        input := some (file, descriptor), fileName := file, pending := [], atEnd := false }
      return true
    let fail (text : String) : Editing Bool := do
      liftM (complain setup.name text)
      modify fun s => { s with failed := true }
      openNext setup rest
    if file = "-" && setup.inPlace.isNone then return ← isOpen standardInput
    match ← call (.openFile file .input) with
    | .error errno => fail ("can't read " ++ file ++ ": " ++ errno.description)
    | .ok descriptor =>
      if setup.inPlace.isSome then
        if let .ok (info, _) ← call (.describe descriptor) then
          if info.kind ≠ .regular then
            stop setup ("couldn't edit " ++ file ++ ": not a regular file")
      isOpen descriptor

/-- Replaces a file by what has been put out since it was opened. -/
def replaceFile (setup : EditSetup) (suffix file : String) : Editing Unit := do
  let mode := match ← call (.stat file true) with
    | .ok info => info.mode
    | .error _ => Files.newFileMode
  if suffix = "" then
    let _ ← call (.remove file)
  else
    let backup := if suffix.contains '*' then suffix.replace "*" (Path.lastName file)
      else Path.lastName file ++ suffix
    let place := match Path.parent? file with
      | some "" | none => backup
      | some directory => below directory backup
    let _ ← call (.rename file (if backup.contains '/' then backup else place))
  match ← call (.openFile file { OpenMode.output with creates := some mode }) with
  | .error errno => stop setup ("couldn't open file " ++ file ++ ": " ++ errno.description)
  | .ok descriptor =>
    let _ ← call (.write descriptor (← get).output)
    let _ ← call (.close descriptor)
    let _ ← call (.setMode file mode)
    modify fun s => { s with output := .empty, lacksEnding := false }

/-- Closes the file that is open. -/
def closeInput (setup : EditSetup) : Editing Unit := do
  match (← get).input with
  | none => return
  | some (file, descriptor) =>
    if descriptor ≠ standardInput then
      let _ ← call (.close descriptor)
    if let some suffix := setup.inPlace then replaceFile setup suffix file
    modify fun s => { s with input := none, pending := [], atEnd := true }

/-- Reads on until there is a whole line, or the file is at its end. -/
def fill (setup : EditSetup) (file : String) (descriptor : Descriptor) : (fuel : Nat) → Editing Unit
  | 0 => return
  | fuel + 1 => do
    if (← get).atEnd || (← get).pending.contains setup.ending then return
    match ← call (.read descriptor outputBlock) with
    | .error errno =>
      let file := if file = "-" then "stdin" else file
      liftM (complain setup.name ("read error on " ++ file ++ ": " ++ errno.description))
      flush setup
      liftM (quit 4 : Routine Unit)
    | .ok bytes =>
      if bytes.isEmpty then modify fun s => { s with atEnd := true }
      else
        modify fun s => { s with pending := s.pending ++ bytes.toList }
        fill setup file descriptor fuel

/-- Goes on to the next file that has something to read, unless the one that is open has.  Gives
false if there is none; with `within`, if the open one has nothing more. -/
def advance (setup : EditSetup) (within : Bool) : (fuel : Nat) → Editing Bool
  | 0 => return false
  | fuel + 1 => do
    match (← get).input with
    | none =>
      if within then return false
      if ← openNext setup (← get).files then
        if setup.separate then
          modify fun s => { s with line := 0, held := [], ranges := setup.script.ranges }
        advance setup within fuel
      else return false
    | some (file, descriptor) =>
      fill setup file descriptor budget
      if !(← get).pending.isEmpty then return true
      if within then return false
      closeInput setup
      advance setup within fuel

/-- There is nothing more to read. -/
def atLastLine (setup : EditSetup) : Editing Bool :=
  return !(← advance setup setup.separate budget)

/-- Takes the next line; none if there is none. -/
def takeLine (setup : EditSetup) : Editing (Option (List UInt8)) := do
  if !(← advance setup false budget) then return none
  let pending := (← get).pending
  let line := pending.takeWhile (· ≠ setup.ending)
  let rest := pending.drop line.length
  let isEnded := !rest.isEmpty
  modify fun s => { s with
    pending := rest.drop 1, line := s.line + 1, isEnded }
  return some line

/-! ## Selection -/

/-- The expression of a pattern, which becomes the one that was used last. -/
def resolve (setup : EditSetup) (pattern : EditPattern) : Editing Expr := do
  match pattern with
  | some expr =>
    modify fun s => { s with lastPattern := some expr }
    return expr
  | none =>
    match (← get).lastPattern with
    | some expr => return expr
    | none =>
      liftM (complain setup.name "-e expression #1, char 0: no previous regular expression")
      liftM (quit 1 : Routine Expr)

/-- The current line is the one that is meant. -/
def isAt (setup : EditSetup) : EditAddress → Editing Bool
  | .line number => return (← get).line = number
  | .every first step => do
    let line := (← get).line
    return line ≥ first && (line - first) % step = 0
  | .last => atLastLine setup
  | .pattern pattern => do
    let expr ← resolve setup pattern
    return (expr.search { bytes := (← get).space.toArray }).isSome

/-- What a range is in after its first line. -/
def entered (finish : EditEnd) (line : Nat) : RangeState :=
  let upTo (last : Nat) : RangeState := if last ≤ line then .over else .upTo last
  match finish with
  | .at (.line last) => upTo last
  | .after count => upTo (line + count)
  | .multiple divisor =>
    if divisor = 0 then .over else upTo ((line + divisor - 1) / divisor * divisor)
  | .at _ => .upToMatch

/-- A range that has not been entered, or that is over, begins at the current line.  One that begins
at a number begins once only, with the first line after that number that the command sees. -/
def begins (setup : EditSetup) (state : RangeState) (first : EditAddress) (finish : EditEnd) :
    Editing Bool := do
  match first with
  | .line number =>
    let line := (← get).line
    let isBefore := match finish with
      | .at (.line last) => line ≤ last || line = number
      | _ => true
    return state ≠ .over && number ≤ line && isBefore
  | first => isAt setup first

/-- The current line is one that the command at a place is for. -/
def selects (setup : EditSetup) (place : Nat) (range : EditRange) : Editing Bool := do
  let become (state : RangeState) : Editing Unit :=
    modify fun s => { s with ranges := s.ranges.setIfInBounds place state }
  let line := (← get).line
  let isMeant ←
    match range.first, range.finish with
    | none, _ => pure true
    | some first, none => isAt setup first
    | some first, some finish =>
      match (← get).ranges.getD place .idle with
      | .upTo last => do
        if line ≥ last then become .over
        match finish with
        | .at _ => pure (line ≤ last)
        | _ => pure true
      | .upToMatch => do
        if let .at address := finish then
          if ← isAt setup address then become .over
        pure true
      | state => do
        if ← begins setup state first finish then
          become (entered finish line)
          pure true
        else pure false
  return isMeant != range.negated

/-! ## Changes -/

/-- The letters of a text after a change of case. -/
def applyCase (running next : Option CaseChange) (byte : UInt8) : UInt8 :=
  match next, running with
  | some .upperNext, _ => Program.toUpper byte
  | some .lowerNext, _ => Program.toLower byte
  | _, some .upper => Program.toUpper byte
  | _, some .lower => Program.toLower byte
  | _, _ => byte

/-- What a match is replaced by. -/
def expand (bytes : Array UInt8) (found : Match) :
    List Replacement → (running next : Option CaseChange) → List UInt8
  | [], _, _ => []
  | .change change :: rest, running, _ =>
    match change with
    | .upperNext | .lowerNext => expand bytes found rest running (some change)
    | .keep => expand bytes found rest none none
    | change => expand bytes found rest (some change) none
  | part :: rest, running, next =>
    let text : List UInt8 := match part with
      | .byte byte => [byte]
      | .group 0 => (bytes.extract found.start found.finish).toList
      | .group number =>
        match found.groups.lookup number with
        | some (start, finish) => (bytes.extract start finish).toList
        | none => []
      | .change _ => []
    match text with
    | [] => expand bytes found rest running next
    | byte :: more =>
      applyCase running next byte :: more.map (applyCase running none)
        ++ expand bytes found rest running none

/-- A line in which matches have been replaced. -/
structure Replaced where
  text : List UInt8
  /-- How many matches there were. -/
  count : Nat
  changed : Bool

/-- Replaces the matches from a position on.  An empty match right after another match is none. -/
def replaceFrom (expr : Expr) (substitution : Substitution) (bytes : Array UInt8) :
    (fuel start count : Nat) → (barred : Option Nat) → Replaced
  | 0, start, count, _ => ⟨(bytes.extract start bytes.size).toList, count, false⟩
  | fuel + 1, start, count, barred =>
    let asIs : Replaced := ⟨(bytes.extract start bytes.size).toList, count, false⟩
    if start > bytes.size then asIs
    else
      match expr.search { bytes } start with
      | none => asIs
      | some found =>
        let before := (bytes.extract start found.start).toList
        let isEmpty := found.start = found.finish
        let skipped : List UInt8 := if isEmpty then (bytes[found.start]?).toList else []
        let next := if isEmpty then found.finish + 1 else found.finish
        if isEmpty && barred = some found.start then
          let rest := replaceFrom expr substitution bytes fuel next count none
          { rest with text := before ++ skipped ++ rest.text }
        else
          let count := count + 1
          let barred := if isEmpty then none else some found.finish
          if count < substitution.number then
            let rest := replaceFrom expr substitution bytes fuel next count barred
            let kept := (bytes.extract found.start found.finish).toList
            { rest with text := before ++ kept ++ skipped ++ rest.text }
          else
            let new := expand bytes found substitution.replacement none none
            if substitution.everywhere then
              let rest := replaceFrom expr substitution bytes fuel next count barred
              ⟨before ++ new ++ skipped ++ rest.text, rest.count, true⟩
            else
              ⟨before ++ new ++ (bytes.extract found.finish bytes.size).toList, count, true⟩

/-- Replaces matches in the current line. -/
def substitute (setup : EditSetup) (substitution : Substitution) : Editing Unit := do
  let expr ← resolve setup substitution.pattern
  let bytes := (← get).space.toArray
  let result := replaceFrom expr substitution bytes (bytes.size + 2) 0 0 none
  if result.changed then
    modify fun s => { s with space := result.text, replaced := true }
    if substitution.prints then putLine setup result.text
    if let some file := substitution.file then putLineTo setup file result.text

/-- A byte of a line as `l` shows it. -/
def shown (byte : UInt8) : List UInt8 :=
  if byte = 0x5C then [0x5C, 0x5C]
  else if isPrintable byte then [byte]
  else (byteEscape byte).toUTF8.toList

/-- A line as `l` shows it, in rows of so many bytes. -/
def listed (width : Nat) (line : List UInt8) : List UInt8 :=
  let (rows, _) := line.foldl (fun ((rows, column) : List (List UInt8) × Nat) byte =>
    let piece := shown byte
    if width > 0 && column + piece.length > width - 1 then
      (piece :: [0x5C, lineFeed] :: rows, piece.length)
    else (piece :: rows, column + piece.length)) ([], 0)
  rows.reverse.flatten ++ [0x24]

/-- Puts out what was kept for the end of the cycle. -/
def putAppendices (setup : EditSetup) : List Appendix → Editing Unit
  | [] => return
  | .text bytes :: rest => do
    putOut setup bytes
    putAppendices setup rest
  | .file path :: rest => do
    let file := if path = "/dev/stdin" then "-" else path
    if let .ok bytes ← liftM (readFile file) then
      if !bytes.isEmpty then putOut setup bytes.toList
    putAppendices setup rest
  | .lineOf path :: rest => do
    let bytes ← match (← get).readers.lookup path with
      | some bytes => pure bytes
      | none => do
        match ← liftM (readFile path) with
        | .ok bytes => pure bytes.toList
        | .error _ => pure []
    let length := (bytes.takeWhile (· ≠ setup.ending)).length + 1
    if !bytes.isEmpty then putOut setup (bytes.take length)
    modify fun s => { s with
      readers := (path, bytes.drop length) :: s.readers.filter (·.1 ≠ path) }
    putAppendices setup rest

/-- Puts out what was kept, and forgets it. -/
def endCycle (setup : EditSetup) : Editing Unit := do
  let appendices := (← get).appendices
  modify fun s => { s with appendices := [] }
  putAppendices setup appendices

/-! ## The script -/

/-- What follows a command. -/
inductive EditStep where
  /-- The command at a place is next. -/
  | goOn (place : Nat)
  /-- The script is at its end for this line; `prints` puts the line out. -/
  | endScript (prints : Bool)
  /-- The script begins again with the line as it is. -/
  | again
  /-- The editor ends with a code. -/
  | leave (prints : Bool) (code : Nat)

/-- Does what the command at a place says. -/
def doAction (setup : EditSetup) (place : Nat) (action : EditAction) : Editing EditStep := do
  let next : EditStep := .goOn (place + 1)
  let script := setup.script
  let jump (label : String) : EditStep := .goOn ((script.place? label).getD script.commands.size)
  let space := (← get).space
  let upToFeed := space.takeWhile (· ≠ setup.ending)
  match action with
  | .block | .nothing => return next
  | .append appendix =>
    modify fun s => { s with appendices := s.appendices ++ [appendix] }
    return next
  | .insert text =>
    putOut setup text
    return next
  | .change text =>
    let state := (← get).ranges.getD place .idle
    if state = .idle || state = .over then putOut setup text
    return .endScript false
  | .delete => return .endScript false
  | .deleteFirst =>
    if upToFeed.length = space.length then return .endScript false
    modify fun s => { s with space := space.drop (upToFeed.length + 1) }
    return .again
  | .print =>
    putLine setup space
    return next
  | .printFirst =>
    if upToFeed.length = space.length then putLine setup space
    else putOut setup (upToFeed ++ [setup.ending])
    return next
  | .next =>
    if ← atLastLine setup then return .endScript true
    if !setup.silent then putLine setup space
    endCycle setup
    match ← takeLine setup with
    | some line =>
      modify fun s => { s with space := line }
      return next
    | none => return .endScript false
  | .joinNext =>
    if ← atLastLine setup then return .endScript true
    endCycle setup
    match ← takeLine setup with
    | some line =>
      modify fun s => { s with space := space ++ setup.ending :: line }
      return next
    | none => return .endScript true
  | .hold =>
    modify fun s => { s with held := space, heldIsEnded := s.isEnded }
    return next
  | .holdMore =>
    modify fun s => { s with
      held := s.held ++ setup.ending :: space, heldIsEnded := s.isEnded }
    return next
  | .recall =>
    modify fun s => { s with space := s.held, isEnded := s.heldIsEnded }
    return next
  | .recallMore =>
    modify fun s => { s with
      space := space ++ setup.ending :: s.held, isEnded := s.heldIsEnded }
    return next
  | .swap =>
    modify fun s => { s with
      space := s.held, isEnded := s.heldIsEnded, held := space, heldIsEnded := s.isEnded }
    return next
  | .clear =>
    modify fun s => { s with space := [] }
    return next
  | .lineNumber =>
    putOut setup ((toString (← get).line).toUTF8.toList ++ [setup.ending])
    return next
  | .fileName =>
    putOut setup ((Text.toBytes (← get).fileName).toList ++ [setup.ending])
    return next
  | .list width =>
    putOut setup (listed (width.getD setup.lineWidth) space ++ [setup.ending])
    return next
  | .quit code silently => return .leave (!silently) code
  | .write path firstLineOnly =>
    putLineTo setup path (if firstLineOnly then upToFeed else space)
    return next
  | .substitute substitution =>
    substitute setup substitution
    return next
  | .exchange table =>
    modify fun s => { s with space := space.map fun byte => (table.lookup byte).getD byte }
    return next
  | .jump label => return jump label
  | .jumpIf wanted label =>
    let replaced := (← get).replaced
    if replaced then modify fun s => { s with replaced := false }
    return if replaced = wanted then jump label else next

/-- Runs the script from a place on. -/
def runScript (setup : EditSetup) : (fuel : Nat) → (place : Nat) → Editing EditStep
  | 0, _ => return .endScript true
  | fuel + 1, place => do
    match setup.script.commands[place]? with
    | none => return .endScript true
    | some command =>
      let isSelected ← selects setup place command.range
      let isBlock := match command.action with
        | .block => true
        | _ => false
      if !isSelected then
        let after := if isBlock then (setup.script.blocks.lookup place).getD (place + 1)
          else place + 1
        runScript setup fuel after
      else
        match ← doAction setup place command.action with
        | .goOn place => runScript setup fuel place
        | other => return other

/-- Reads lines and does to each what the script says; `fresh` takes a new line first.  Gives the
exit code that the script asked for. -/
def cycles (setup : EditSetup) : (fuel : Nat) → (fresh : Bool) → Editing Nat
  | 0, _ => return 0
  | fuel + 1, fresh => do
    let hasLine ←
      if fresh then do
        match ← takeLine setup with
        | some line =>
          modify fun s => { s with space := line, replaced := false }
          pure true
        | none => pure false
      else pure true
    if !hasLine then return 0
    let finish (prints : Bool) : Editing Unit := do
      if prints && !setup.silent then putLine setup (← get).space
      endCycle setup
    match ← runScript setup budget 0 with
    | .endScript prints =>
      finish prints
      cycles setup fuel true
    | .again =>
      endCycle setup
      cycles setup fuel false
    | .leave prints code =>
      finish prints
      if prints && (← get).lacksEnding then putOut setup []
      return code
    | .goOn _ => return 0

/-- Opens the files that the script writes to. -/
def openWriters (setup : EditSetup) : List String → Editing Unit
  | [] => return
  | path :: rest => do
    if path = "/dev/stderr" then
      modify fun s => { s with writers := (path, standardError) :: s.writers }
    else if path ≠ "/dev/stdout" then
      match ← call (.openFile path .output) with
      | .ok descriptor => modify fun s => { s with writers := (path, descriptor) :: s.writers }
      | .error errno => stop setup ("couldn't open file " ++ path ++ ": " ++ errno.description)
    openWriters setup rest

/-- Gives back to standard input what has been read and not been used. -/
def giveBack : Editing Unit := do
  if let some (_, 0) := (← get).input then
    let _ ← call (.unread standardInput (← get).pending.length)

/-- Edits the files: the exit code. -/
def editAll (setup : EditSetup) : Editing Nat := do
  openWriters setup setup.script.outputs
  let code ← cycles setup budget true
  giveBack
  closeInput setup
  flush setup
  return if code = 0 && (← get).failed then 2 else code

end Editing

/-- The options of `sed`. -/
def sedOptions : OptionTable :=
  { letters := OptionTable.flags "nErsuz" ++ OptionTable.valued "efl" ++ [('i', .optional)]
    words := [("quiet", .none, 'n'), ("silent", .none, 'n'), ("expression", .required, 'e'),
      ("file", .required, 'f'), ("in-place", .optional, 'i'), ("line-length", .required, 'l'),
      ("regexp-extended", .none, 'E'), ("separate", .none, 's'), ("unbuffered", .none, 'u'),
      ("null-data", .none, 'z'), ("posix", .none, '#')] }

/-- How `sed` is called. -/
def sedUsage (name : String) : Routine α := do
  let _ ← perform (.write standardError (Text.toBytes
    ("Usage: " ++ name
      ++ " [OPTION]... \x7bscript-only-if-no-other-script\x7d [input-file]...\n\n")))
  quit 1

/-- A part of a script: where it is from, if from a file, and its bytes. -/
structure ScriptPart where
  file : Option String
  bytes : List UInt8

/-- The parts of a script that options give.  A part that ends in a backslash goes on with the
next. -/
def joinParts : List ScriptPart → List ScriptPart
  | [] => []
  | part :: rest =>
    let backslashes := (part.bytes.reverse.takeWhile (· = 0x5C)).length
    match joinParts rest with
    | next :: others =>
      if part.file.isNone && next.file.isNone && backslashes % 2 = 1 then
        { next with bytes := part.bytes ++ lineFeed :: next.bytes } :: others
      else part :: next :: others
    | [] => [part]

/-- Reads the parts of a script that options give. -/
def scriptParts (name : String) : List (Char × Option String) → Routine (List ScriptPart)
  | [] => return []
  | ('e', some text) :: rest => do
    return ⟨none, (Text.toBytes text).toList⟩ :: (← scriptParts name rest)
  | ('f', some file) :: rest => do
    match ← readFile file with
    | .ok bytes => return ⟨some file, bytes.toList⟩ :: (← scriptParts name rest)
    | .error errno =>
      complain name ("couldn't open file " ++ file ++ ": " ++ errno.description)
      quit 4
  | _ :: rest => scriptParts name rest

/-- Understands the parts of a script. -/
def readScript (name : String) (extended : Bool) :
    List ScriptPart → (number : Nat) → EditScript → Routine EditScript
  | [], _, script => do
    if let (_, number) :: _ := script.openBlocks then
      complain name ("-e expression #" ++ toString number ++ ", char 0: unmatched \u0060\x7b'")
      quit 1
    match script.missingLabel? with
    | some label =>
      complain name ("can't find label for jump to \u0060" ++ label ++ "'")
      quit 4
    | none => return script
  | part :: rest, number, script => do
    match script.readPart extended number part.bytes with
    | .ok script => readScript name extended rest (number + 1) script
    | .error fault =>
      let place := match part.file with
        | none => "-e expression #" ++ toString number ++ ", char " ++ toString fault.count
        | some file => "file " ++ file ++ " line " ++ toString fault.line
      complain name (place ++ ": " ++ fault.text)
      quit 1

/-- Edits streams. -/
def sed : Program := fun image => do
  let name := image.name
  let parsed ←
    match sedOptions.parse image.words with
    | .ok parsed => pure parsed
    | .error fault =>
      complain name fault.message
      sedUsage name
  let given ← scriptParts name parsed.options
  let (parts, files) ←
    match given, parsed.operands with
    | [], [] => sedUsage name
    | [], text :: files => pure ([ScriptPart.mk none (Text.toBytes text).toList], files)
    | given, files => pure (given, files)
  let script ← readScript name (parsed.has 'E' || parsed.has 'r') (joinParts parts) 1 {}
  let inPlace := if parsed.has 'i' then some ((parsed.value? 'i').getD "") else none
  let setup : EditSetup :=
    { name, script, silent := parsed.has 'n' || script.isSilent
      separate := parsed.has 's' || inPlace.isSome, inPlace
      ending := if parsed.has 'z' then 0 else lineFeed
      lineWidth := ((parsed.value? 'l').bind natural?).getD 70 }
  let state : EditState := { files := orStandardInput files, ranges := script.ranges }
  let (code, _) ← (Editing.editAll setup).run state
  return code

end CommandShell.Machine.Program
