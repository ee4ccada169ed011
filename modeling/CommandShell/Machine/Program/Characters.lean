import CommandShell.Machine.Program.Escape
import CommandShell.Machine.Program.Sorting
set_option autoImplicit false

/-!
# Programs that change lines

They replace, delete, select or rearrange the bytes of each line that they read.
-/

namespace CommandShell.Machine.Program

/-! ## Sets of bytes -/

/-- A part of a set of `tr`. -/
inductive SetPart where
  | bytes (bytes : List UInt8)
  /-- A byte so many times; none: as often as it takes to fill the set up. -/
  | repeated (byte : UInt8) (count : Option Nat)

/-- The bytes of a class. -/
def classBytes? (name : String) : Option (List UInt8) :=
  let all : List UInt8 := (List.range 256).map UInt8.ofNat
  let letters (lower upper : Bool) : List UInt8 := all.filter fun b =>
    (lower && 0x61 ≤ b && b ≤ 0x7A) || (upper && 0x41 ≤ b && b ≤ 0x5A)
  match name with
  | "alpha" => some (letters true true)
  | "lower" => some (letters true false)
  | "upper" => some (letters false true)
  | "digit" => some (all.filter isDigit)
  | "alnum" => some (all.filter isAlphanumericByte)
  | "space" => some (all.filter isSpace)
  | "blank" => some (all.filter isBlank)
  | "cntrl" => some (all.filter fun b => b < 0x20 || b = 0x7F)
  | "print" => some (all.filter isPrintable)
  | "graph" => some (all.filter fun b => isPrintable b && b ≠ 0x20)
  | "punct" => some (all.filter fun b => isPrintable b && b ≠ 0x20 && !isAlphanumericByte b)
  | "xdigit" => some (all.filter fun b => (hexDigit? b).isSome)
  | _ => none

/-- Why a set is refused. -/
inductive SetFault where
  | descending (low high : UInt8)
  | unknownClass (name : String)

/-- A byte of a set, and whether it was escaped. -/
abbrev SetByte := UInt8 × Bool

/-- The escapes of `tr`. -/
def setRules : EscapeRules := { stops := false }

/-- The bytes of a set before ranges are written out. -/
def unescapeSet (skip : Nat) : List UInt8 → List SetByte
  | [] => []
  | byte :: rest =>
    match skip with
    | skip + 1 => unescapeSet skip rest
    | 0 =>
      if byte = 0x5C then
        match setRules.read? rest, rest with
        | some escaped, _ => escaped.bytes.map (·, true) ++ unescapeSet escaped.size rest
        | none, next :: _ => (next, true) :: unescapeSet 1 rest
        | none, [] => [(byte, false)]
      else (byte, false) :: unescapeSet 0 rest

/-- The characters up to the closing mark of a class, such as `:]`. -/
def classBody (mark : UInt8) : List SetByte → Option (List UInt8 × List SetByte)
  | (a, false) :: (0x5D, false) :: rest =>
    if a = mark then some ([], rest)
    else (classBody mark ((0x5D, false) :: rest)).map fun (body, rest) => (a :: body, rest)
  | (a, _) :: rest => (classBody mark rest).map fun (body, rest) => (a :: body, rest)
  | [] => none

/-- The count of a repeated byte, up to the closing bracket. -/
def repeatCount (bytes : List SetByte) : Option (Option Nat × List SetByte) :=
  let digits := (bytes.takeWhile fun b => isDigit b.1).map Prod.fst
  match bytes.drop digits.length with
  | (0x5D, _) :: rest =>
    let base := if digits.head? = some 0x30 then 8 else 10
    let n := digits.foldl (fun n b => base * n + (b.toNat - 0x30)) 0
    some (if n = 0 then none else some n, rest)
  | _ => none

/-- Reads a set. -/
def readSet : (fuel : Nat) → List SetByte → Except SetFault (List SetPart)
  | 0, _ => .ok []
  | _, [] => .ok []
  | fuel + 1, (0x5B, false) :: (0x3A, false) :: rest =>
    match classBody 0x3A rest with
    | some (name, rest) =>
      let name := Text.ofBytes (pack name)
      match classBytes? name with
      | some bytes => (readSet fuel rest).map (.bytes bytes :: ·)
      | none => .error (.unknownClass name)
    | none => (readSet fuel ((0x3A, false) :: rest)).map (.bytes [0x5B] :: ·)
  | fuel + 1, (0x5B, false) :: (0x3D, false) :: rest =>
    match classBody 0x3D rest with
    | some (bytes, rest) => (readSet fuel rest).map (.bytes (bytes.take 1) :: ·)
    | none => (readSet fuel ((0x3D, false) :: rest)).map (.bytes [0x5B] :: ·)
  | fuel + 1, (0x5B, false) :: (byte, e) :: (0x2A, false) :: rest =>
    match repeatCount rest with
    | some (count, rest) => (readSet fuel rest).map (.repeated byte count :: ·)
    | none =>
      (readSet fuel ((byte, e) :: (0x2A, false) :: rest)).map (.bytes [0x5B] :: ·)
  | fuel + 1, (low, _) :: (0x2D, false) :: (high, _) :: rest =>
    if high < low then .error (.descending low high)
    else
      let bytes := (List.range' low.toNat (high.toNat + 1 - low.toNat)).map UInt8.ofNat
      (readSet fuel rest).map (.bytes bytes :: ·)
  | fuel + 1, (byte, _) :: rest => (readSet fuel rest).map (.bytes [byte] :: ·)

/-- The bytes of a set that is to have so many; without a part that fills up, the last byte is
repeated if asked for. -/
def writeOut (parts : List SetPart) (size : Nat) (fillLast : Bool) : List UInt8 :=
  let known := (parts.map fun
    | .bytes bytes => bytes.length
    | .repeated _ count => count.getD 0).foldl (· + ·) 0
  let bytes := parts.flatMap fun
    | .bytes bytes => bytes
    | .repeated byte (some count) => List.replicate count byte
    | .repeated byte none => List.replicate (size - known) byte
  match bytes.getLast? with
  | some last => if fillLast then bytes ++ List.replicate (size - bytes.length) last else bytes
  | none => bytes

/-- The options of `tr`. -/
def trOptions : OptionTable :=
  { letters := OptionTable.flags "cCdst"
    words := [("complement", .none, 'c'), ("delete", .none, 'd'), ("squeeze-repeats", .none, 's'),
      ("truncate-set1", .none, 't')]
    mixed := false }

/-- Leaves out repetitions of the bytes in a table; `before` is the last byte that was kept. -/
def squeeze (table : Array Bool) (before : Option UInt8) (bytes : List UInt8) :
    List UInt8 × Option UInt8 :=
  let (kept, before) := bytes.foldl (fun (kept, before) byte =>
    if before = some byte && table.getD byte.toNat false then (kept, before)
    else (byte :: kept, some byte)) (([] : List UInt8), before)
  (kept.reverse, before)

/-- The table of a set. -/
def tableOf (bytes : List UInt8) : Array Bool :=
  bytes.foldl (fun table byte => table.setIfInBounds byte.toNat true) (Array.replicate 256 false)

/-- Reads a set of `tr`; a fault ends the program. -/
def setOf (name word : String) : Routine (List SetPart) := do
  let bytes := (Text.toBytes word).toList
  match readSet (bytes.length + 1) (unescapeSet 0 bytes) with
  | .ok parts => return parts
  | .error (.descending low high) =>
    complain name ("range-endpoints of '" ++ Text.ofBytes (pack [low, 0x2D, high])
      ++ "' are in reverse collating sequence order")
    quit 1
  | .error (.unknownClass unknown) =>
    complain name ("invalid character class " ++ quotedWord unknown)
    quit 1

/-- Passes standard input through a conversion that remembers the last byte. -/
def convertInput (name : String)
    (convert : Option UInt8 → List UInt8 → List UInt8 × Option UInt8) :
    (fuel : Nat) → Option UInt8 → Routine Unit
  | 0, _ => return
  | fuel + 1, before => do
    match ← perform (.read standardInput blockSize) with
    | .error errno =>
      complain name ("read error: " ++ errno.description)
      quit 1
    | .ok bytes =>
      if bytes.isEmpty then return
      let (output, before) := convert before bytes.toList
      put name (pack output)
      convertInput name convert fuel before

/-- Complains about the number of sets, and ends the program. -/
def complainOfSets (name text reason : String) : Routine Unit := do
  complain name text
  let _ ← perform (.write standardError (Text.toBytes (reason
    ++ (if reason = "" then "" else "\n")
    ++ "Try '" ++ name ++ " --help' for more information.\n")))
  quit 1

/-- Replaces, deletes or squeezes bytes of standard input. -/
def tr : Program := fun image => do
  let name := image.name
  let parsed ← options trOptions name image.words
  let deletes := parsed.has 'd'
  let squeezes := parsed.has 's'
  let least := if deletes = squeezes then 2 else 1
  let most := if deletes && !squeezes then 1 else 2
  let given := parsed.operands.length
  if given < least then
    match parsed.operands with
    | [] => complainOfSets name "missing operand" ""
    | word :: _ =>
      complainOfSets name ("missing operand after " ++ quotedWord word)
        (if squeezes then "Two strings must be given when both deleting and squeezing repeats."
          else "Two strings must be given when translating.")
  if given > most then
    complainOfSets name ("extra operand " ++ quotedWord ((parsed.operands[most]?).getD ""))
      (if given = 2 then
        "Only one string may be given when deleting without squeezing repeats." else "")
  let first := writeOut (← setOf name (parsed.operands.head?.getD "")) 0 false
  let all : List UInt8 := (List.range 256).map UInt8.ofNat
  let source :=
    if parsed.has 'c' || parsed.has 'C' then
      let table := tableOf first
      all.filter fun byte => !table.getD byte.toNat false
    else first
  let second ← (parsed.operands[1]?).mapM (setOf name)
  if deletes then
    let table := tableOf source
    let squeezed := tableOf (if squeezes then writeOut (second.getD []) 0 false else [])
    convertInput name (fun before bytes =>
      squeeze squeezed before (bytes.filter fun byte => !table.getD byte.toNat false)) budget none
    return 0
  match second with
  | none =>
    let table := tableOf source
    convertInput name (fun before bytes => squeeze table before bytes) budget none
    return 0
  | some parts =>
    let target := writeOut parts source.length (!parsed.has 't')
    if target.isEmpty && !parsed.has 't' && !source.isEmpty then
      complain name "when not truncating set1, string2 must be non-empty"
      quit 1
    let table := (source.zip target).foldl (fun table (a, b) => table.setIfInBounds a.toNat b)
      all.toArray
    let squeezed := tableOf (if squeezes then target else [])
    convertInput name (fun before bytes =>
      squeeze squeezed before (bytes.map fun byte => table.getD byte.toNat byte)) budget none
    return 0

/-! ## Parts of lines -/

/-- A range of positions, counted from 1; an open one has no end. -/
structure Span where
  low : Nat
  high : Option Nat

/-- A position is in one of several ranges. -/
def inSpans (spans : List Span) (position : Nat) : Bool :=
  spans.any fun span => span.low ≤ position && span.high.all fun high => position ≤ high

/-- Why a list of ranges is refused. -/
inductive SpanFault where
  | zero
  | decreasing
  | noEnds
  | notNumeric (word : String)

/-- Reads one range. -/
def readSpan (word : String) : Except SpanFault Span :=
  match word.splitOn "-" with
  | [position] =>
    match natural? position with
    | some 0 => .error .zero
    | some n => .ok ⟨n, some n⟩
    | none => .error (if position = "" then .zero else .notNumeric word)
  | [low, high] =>
    if low = "" && high = "" then .error .noEnds
    else
      match (if low = "" then some 1 else natural? low),
          (if high = "" then some none else (natural? high).map some) with
      | some 0, _ => .error .zero
      | some low, some high =>
        if high.any (· < low) then .error .decreasing else .ok ⟨low, high⟩
      | _, _ => .error (.notNumeric word)
  | _ => .error (.notNumeric word)

/-- The options of `cut`. -/
def cutOptions : OptionTable :=
  { letters := OptionTable.flags "nszX" ++ OptionTable.valued "bcfdO"
    words := [("bytes", .required, 'b'), ("characters", .required, 'c'), ("fields", .required, 'f'),
      ("delimiter", .required, 'd'), ("only-delimited", .none, 's'),
      ("output-delimiter", .required, 'O'), ("complement", .none, 'X'),
      ("zero-terminated", .none, 'z')] }

/-- The wording of a refusal. -/
def SpanFault.message (fields : Bool) : SpanFault → String
  | zero => if fields then "fields are numbered from 1"
    else "byte/character positions are numbered from 1"
  | decreasing => "invalid decreasing range"
  | noEnds => "invalid range with no endpoint: -"
  | notNumeric word =>
    (if fields then "invalid field value " else "invalid byte/character position ")
      ++ quotedWord word

/-- The pieces of a line between the separators. -/
def splitLine (separator : UInt8) (line : Line) : List Line :=
  let cut (state : List Line × Line) (byte : UInt8) : List Line × Line :=
    if byte = separator then (state.2.reverse :: state.1, []) else (state.1, byte :: state.2)
  let (done, last) := line.foldl cut ([], [])
  (last.reverse :: done).reverse

/-- Reads files line by line for `use`, and says whether all could be read. -/
def eachLines (name : String) (ending : UInt8) (use : List Line → Routine Unit) :
    List String → Routine Bool
  | [] => return true
  | file :: rest => do
    match ← readFile file with
    | .ok bytes =>
      use (linesOf bytes ending)
      eachLines name ending use rest
    | .error errno =>
      complainOfFile name file errno
      let _ ← eachLines name ending use rest
      return false

/-- Selects parts of lines. -/
def cut : Program := fun image => do
  let name := image.name
  let parsed ← options cutOptions name image.words
  let lists := parsed.options.filter fun option => "bcf".contains option.1
  let refuse (text : String) : Routine Nat := do
    complainOfUse name text
    quit 1
  match lists with
  | [] => refuse "you must specify a list of bytes, characters, or fields"
  | _ :: _ :: _ => refuse "only one list may be specified"
  | [(letter, value)] =>
    let byFields := letter = 'f'
    let delimiter ← match parsed.value? 'd' with
      | none => pure (0x09 : UInt8)
      | some word => do
        if !byFields then
          complainOfUse name
            "an input delimiter may be specified only when operating on fields"
          quit 1
        match (Text.toBytes word).toList with
        | [byte] => pure byte
        | [] => pure 0
        | _ => do
          complainOfUse name "the delimiter must be a single character"
          quit 1
    if parsed.has 's' && !byFields then
      complainOfUse name
        "suppressing non-delimited lines makes sense\n\tonly when operating on fields"
      quit 1
    let words := ((value.getD "").split fun c => c = ',' || c = ' ').toList.map (·.toString)
    match words.mapM readSpan with
    | .error fault => refuse (fault.message byFields)
    | .ok spans =>
      let wanted (position : Nat) : Bool := inSpans spans position != parsed.has 'X'
      let ending : UInt8 := if parsed.has 'z' then 0 else lineFeed
      let joint := (parsed.value? 'O').map fun word => (Text.toBytes word).toList
      let pick {β : Type} (pieces : List β) : List β :=
        (pieces.zipIdx 1).filterMap fun (piece, position) =>
          if wanted position then some piece else none
      let convert (line : Line) : Option Line :=
        if byFields then
          let pieces := splitLine delimiter line
          if pieces.length = 1 then (if parsed.has 's' then none else some line)
          else some ((joint.getD [delimiter]).intercalate (pick pieces))
        else some (pick line)
      let succeeded ← eachLines name ending
        (fun lines => put name (unlines (lines.filterMap convert) ending))
        (orStandardInput parsed.operands)
      return codeOf succeeded

/-- The options of `paste`. -/
def pasteOptions : OptionTable :=
  { letters := OptionTable.flags "sz" ++ OptionTable.valued "d"
    words := [("delimiters", .required, 'd'), ("serial", .none, 's'),
      ("zero-terminated", .none, 'z')] }

/-- Lines in one, with the separators in turn between them. -/
def joinInTurn (separators : List Line) (lines : List Line) : Line :=
  match lines with
  | [] => []
  | first :: rest =>
    first ++ (rest.zipIdx).flatMap fun (line, i) =>
      (separators[i % max separators.length 1]?).getD [] ++ line

/-- Every `step`-th line, from the first one on. -/
def everyNth (step : Nat) (lines : List Line) : List Line :=
  (lines.zipIdx).filterMap fun (line, i) => if i % max step 1 = 0 then some line else none

/-- Puts the lines of several files side by side. -/
def pasteRows (separators : List Line) : (fuel : Nat) → List (List Line) → List Line
  | 0, _ => []
  | fuel + 1, columns =>
    if columns.all List.isEmpty then []
    else joinInTurn separators (columns.map fun column => column.head?.getD [])
      :: pasteRows separators fuel (columns.map (List.drop 1))

/-- Joins lines of files. -/
def paste : Program := fun image => do
  let name := image.name
  let parsed ← options pasteOptions name image.words
  let ending : UInt8 := if parsed.has 'z' then 0 else lineFeed
  let list := (Text.toBytes ((parsed.value? 'd').getD "\t")).toList
  let separators := (unescapeSet 0 list).map fun (byte, escaped) =>
    if escaped && byte = 0x30 then [] else [byte]
  let files := orStandardInput parsed.operands
  let mut columns := #[]
  let mut succeeded := true
  for file in files do
    match ← readFile file with
    | .ok bytes => columns := columns.push (file, linesOf bytes ending)
    | .error errno =>
      complainOfFile name file errno
      succeeded := false
      if !parsed.has 's' then quit 1
  -- Standard input named several times gives its lines in turn.
  let turns := (files.filter (· = "-")).length
  let shared := ((columns.toList.find? (·.1 = "-")).map Prod.snd).getD []
  let inTurn (i : Nat) : List Line :=
    everyNth turns (shared.drop (((files.take i).filter (· = "-")).length))
  let laidOut := (columns.toList.zipIdx).map fun ((file, lines), i) =>
    if file = "-" && turns > 1 && !parsed.has 's' then inTurn i else lines
  if parsed.has 's' then
    put name (unlines (laidOut.map (joinInTurn separators)) ending)
  else
    let rows := (laidOut.map List.length).foldl max 0
    put name (unlines (pasteRows separators (rows + 1) laidOut) ending)
  return codeOf succeeded

/-! ## Whole lines -/

/-- The options of `nl`. -/
def nlOptions : OptionTable :=
  { letters := OptionTable.flags "p" ++ OptionTable.valued "bdfhilnsvw"
    words := [("body-numbering", .required, 'b'), ("line-increment", .required, 'i'),
      ("number-format", .required, 'n'), ("number-separator", .required, 's'),
      ("starting-line-number", .required, 'v'), ("number-width", .required, 'w')] }

/-- Numbers lines. -/
def nl : Program := fun image => do
  let name := image.name
  let parsed ← options nlOptions name image.words
  let number (letter : Char) (default : Nat) : Nat :=
    ((parsed.value? letter).bind natural?).getD default
  let width := number 'w' 6
  let increment := number 'i' 1
  let separator := (Text.toBytes ((parsed.value? 's').getD "\t")).toList
  let style := (parsed.value? 'b').getD "t"
  let shown (n : Nat) : Line :=
    let digits := (toString n).toUTF8.toList
    match (parsed.value? 'n').getD "rn" with
    | "ln" => fill width true digits
    | "rz" => List.replicate (width - digits.length) 0x30 ++ digits
    | _ => fill width false digits
  let mut bytes := ByteArray.empty
  let mut succeeded := true
  for file in orStandardInput parsed.operands do
    match ← readFile file with
    | .ok more => bytes := bytes ++ more
    | .error errno =>
      complainOfFile name file errno
      succeeded := false
  let (output, _) := (linesOf bytes).foldl (fun (output, n) line =>
    if style = "a" || (style = "t" && !line.isEmpty) then
      ((shown n ++ separator ++ line) :: output, n + increment)
    else ((List.replicate (width + separator.length) 0x20 ++ line) :: output, n))
    (([] : List Line), number 'v' 1)
  put name (unlines output.reverse)
  return codeOf succeeded

/-- Turns each line of an open file around.  Only the characters of ASCII are known: the first
other one is an error at its line. -/
def revFile (name shown : String) (descriptor : Descriptor) : Routine Bool := do
  match ← readAll descriptor .empty budget with
  | .error errno =>
    complain name (shown ++ ": 0: " ++ errno.description)
    return false
  | .ok bytes =>
    let known := bytes.toList.takeWhile (· < 0x80)
    let isWhole := known.length = bytes.size
    let lines := linesOf (pack known)
    let ends := known.getLast? = some lineFeed
    let shownLines := if isWhole || ends then lines else lines.dropLast
    let turned := unlines (shownLines.map List.reverse)
    put name (if isWhole && !ends then turned.extract 0 (turned.size - 1) else turned)
    if !isWhole then
      complain name (shown ++ ": " ++ toString shownLines.length
        ++ ": Invalid or incomplete multibyte or wide character")
    return isWhole

/-- Turns each line around. -/
def rev : Program := fun image => do
  let parsed ← options { letters := OptionTable.flags "" } image.name image.words
  if parsed.operands.isEmpty then return codeOf (← revFile image.name "stdin" standardInput)
  let mut succeeded := true
  for file in parsed.operands do
    match ← perform (.openFile file .input) with
    | .error errno =>
      complain image.name ("cannot open " ++ file ++ ": " ++ errno.description)
      succeeded := false
    | .ok descriptor =>
      if !(← revFile image.name file descriptor) then succeeded := false
      let _ ← perform (.close descriptor)
  return codeOf succeeded

/-- Writes the lines of each file from the last one to the first. -/
def tac : Program := fun image => do
  let name := image.name
  let parsed ← options { letters := OptionTable.flags "b" ++ OptionTable.valued "s" } name
    image.words
  let mut succeeded := true
  for file in orStandardInput parsed.operands do
    match ← readFile file with
    | .ok bytes =>
      let lines := (linesOf bytes).map (· ++ [lineFeed])
      let isOpen := !bytes.isEmpty && bytes.toList.getLast? ≠ some lineFeed
      let reversed := match lines.reverse with
        | last :: rest => (if isOpen then last.dropLast else last) :: rest
        | [] => []
      put name (pack reversed.flatten)
    | .error errno =>
      if errno = .isDirectory then
        complain name (quotedBeforeColon file ++ ": read error: " ++ errno.description)
      else
        complain name ("failed to open " ++ quotedAlways file ++ " for reading: "
          ++ errno.description)
      succeeded := false
  return codeOf succeeded

/-- Cuts a line into pieces of a width; with `atBlanks` each piece ends at its last blank. -/
def foldLine (width : Nat) (atBlanks : Bool) : (fuel : Nat) → Line → List Line
  | 0, line => [line]
  | fuel + 1, line =>
    if line.length ≤ width then [line]
    else
      let piece := line.take width
      let kept :=
        if atBlanks then
          let back := piece.reverse.takeWhile fun b => !isBlank b
          if back.length < piece.length then piece.take (piece.length - back.length) else piece
        else piece
      kept :: foldLine width atBlanks fuel (line.drop kept.length)

/-- Cuts long lines. -/
def fold : Program := fun image => do
  let name := image.name
  let words := image.words.map fun word =>
    if word.startsWith "-" && (natural? (word.drop 1).toString).isSome then
      "-w" ++ (word.drop 1).toString else word
  let parsed ← options { letters := OptionTable.flags "bs" ++ OptionTable.valued "w" } name words
  let width := max (((parsed.value? 'w').bind natural?).getD 80) 1
  let mut succeeded := true
  for file in orStandardInput parsed.operands do
    match ← readFile file with
    | .ok bytes =>
      let isOpen := !bytes.isEmpty && bytes.toList.getLast? ≠ some lineFeed
      let pieces := (linesOf bytes).flatMap fun line =>
        foldLine width (parsed.has 's') (line.length + 1) line
      let output := unlines pieces
      put name (if isOpen then output.extract 0 (output.size - 1) else output)
    | .error errno =>
      complainOfFile name file errno
      succeeded := false
  return codeOf succeeded

end CommandShell.Machine.Program
