import CommandShell.Machine.Program.Basic
set_option autoImplicit false

/-!
# Programs that order lines

Lines are compared byte by byte, or by keys: fields and parts of fields, which may be read as
numbers or without regard to case.
-/

namespace CommandShell.Machine.Program

/-- A line. -/
abbrev Line := List UInt8

/-! ## Keys -/

/-- How two texts are compared. -/
structure KeyOrder where
  ignoreBlanks : Bool := false
  /-- Only letters, digits and blanks count. -/
  dictionary : Bool := false
  foldCase : Bool := false
  printableOnly : Bool := false
  numeric : Bool := false
  /-- Numbers with a letter for a power of 1024. -/
  human : Bool := false
  reversed : Bool := false
  deriving DecidableEq

namespace KeyOrder

/-- An order in which letters say what is different. -/
def addLetter (order : KeyOrder) (letter : Char) : Option KeyOrder :=
  match letter with
  | 'b' => some { order with ignoreBlanks := true }
  | 'd' => some { order with dictionary := true }
  | 'f' => some { order with foldCase := true }
  | 'i' => some { order with printableOnly := true }
  | 'n' | 'g' => some { order with numeric := true }
  | 'h' => some { order with human := true }
  | 'r' => some { order with reversed := true }
  | _ => none

/-- Nothing is different. -/
def isPlain (order : KeyOrder) : Bool := order = {}

end KeyOrder

/-- A number at the front of a text: its sign, its whole digits without leading zeros, and its
decimal places without zeros at the end. -/
structure SortNumber where
  isNegative : Bool
  whole : List UInt8
  fraction : List UInt8

/-- The number at the front of a text. -/
def sortNumber (text : Line) : SortNumber :=
  let text := text.dropWhile isBlank
  let (negative, text) : Bool × Line := match text with
    | 0x2D :: rest => (true, rest)
    | text => (false, text)
  let whole := text.takeWhile isDigit
  let fraction := match text.drop whole.length with
    | 0x2E :: rest => rest.takeWhile isDigit
    | _ => []
  let whole := whole.dropWhile (· = 0x30)
  let fraction := (fraction.reverse.dropWhile (· = 0x30)).reverse
  ⟨negative && !(whole.isEmpty && fraction.isEmpty), whole, fraction⟩

/-- How two byte strings lie to each other. -/
def compareBytes : Line → Line → Ordering
  | [], [] => .eq
  | [], _ :: _ => .lt
  | _ :: _, [] => .gt
  | a :: as, b :: bs => if a < b then .lt else if b < a then .gt else compareBytes as bs

/-- How two numbers lie to each other. -/
def compareNumbers (a b : SortNumber) : Ordering :=
  let size (a b : SortNumber) : Ordering :=
    ((compare a.whole.length b.whole.length).then (compareBytes a.whole b.whole)).then
      (compareBytes a.fraction b.fraction)
  match a.isNegative, b.isNegative with
  | true, false => .lt
  | false, true => .gt
  | false, false => size a b
  | true, true => size b a

/-- The power of 1024 that follows a number. -/
def humanPower (text : Line) : Nat :=
  let rest := (text.dropWhile isBlank).dropWhile fun b => b = 0x2D || b = 0x2E || isDigit b
  match rest.head?.map asciiChar with
  | some 'K' | some 'k' => 1
  | some 'M' => 2
  | some 'G' => 3
  | some 'T' => 4
  | some 'P' => 5
  | some 'E' => 6
  | _ => 0

/-- A letter or a digit of ASCII. -/
def isAlphanumericByte (byte : UInt8) : Bool := (asciiChar byte).isAlphanum && byte < 0x80

/-- The upper-case letter for a lower-case one of ASCII. -/
def toUpper (byte : UInt8) : UInt8 := if 0x61 ≤ byte && byte ≤ 0x7A then byte - 32 else byte

namespace KeyOrder

/-- What counts of a text. -/
def view (order : KeyOrder) (text : Line) : Line :=
  let text := if order.dictionary then
    text.filter fun b => isBlank b || isAlphanumericByte b else text
  let text := if order.printableOnly then text.filter isPrintable else text
  if order.foldCase then text.map toUpper else text

/-- How two texts lie to each other, before they are reversed. -/
def compareForward (order : KeyOrder) (a b : Line) : Ordering :=
  if order.human then
    let signed (text : Line) : Int :=
      let n := sortNumber text
      if n.whole.isEmpty && n.fraction.isEmpty then 0
      else if n.isNegative then -((humanPower text : Int) + 1) else (humanPower text : Int) + 1
    (compare (signed a) (signed b)).then (compareNumbers (sortNumber a) (sortNumber b))
  else if order.numeric then compareNumbers (sortNumber a) (sortNumber b)
  else compareBytes (order.view a) (order.view b)

/-- How two texts lie to each other. -/
def compare (order : KeyOrder) (a b : Line) : Ordering :=
  let result := order.compareForward a b
  if order.reversed then result.swap else result

end KeyOrder

/-- A place in a line: a field and a character in it, both counted from 1. -/
structure KeyPlace where
  field : Nat
  /-- 0 stands for the end of the field. -/
  character : Nat
  ignoreBlanks : Bool := false

/-- A part of a line by which lines are ordered. -/
structure SortKey where
  start : KeyPlace
  finish : Option KeyPlace
  /-- The order of the key, if it has one of its own. -/
  order : Option KeyOrder

/-- The bytes after so many fields.  A field ends before a blank that follows no blank, or at the
separator, which belongs to no field. -/
def skipFields (separator : Option UInt8) : Nat → Line → Line
  | 0, line => line
  | count + 1, line =>
    match separator with
    | some byte => skipFields separator count ((line.dropWhile (· ≠ byte)).drop 1)
    | none => skipFields separator count ((line.dropWhile isBlank).dropWhile fun b => !isBlank b)

namespace SortKey

/-- Where the key starts: how many bytes are before it. -/
def startOf (key : SortKey) (separator : Option UInt8) (line : Line) : Nat :=
  let rest := skipFields separator (key.start.field - 1) line
  let rest := if key.start.ignoreBlanks then rest.dropWhile isBlank else rest
  line.length - (rest.drop (key.start.character - 1)).length

/-- Where the key ends: how many bytes are before that. -/
def finishOf (key : SortKey) (separator : Option UInt8) (line : Line) : Nat :=
  match key.finish with
  | none => line.length
  | some place =>
    if place.character = 0 then
      match separator with
      | none => line.length - (skipFields none place.field line).length
      | some byte =>
        let rest := skipFields separator (place.field - 1) line
        line.length - rest.length + (rest.takeWhile (· ≠ byte)).length
    else
      let rest := skipFields separator (place.field - 1) line
      let rest := if place.ignoreBlanks then rest.dropWhile isBlank else rest
      line.length - (rest.drop place.character).length

/-- The part of a line that the key stands for. -/
def part (key : SortKey) (separator : Option UInt8) (line : Line) : Line :=
  let start := key.startOf separator line
  (line.take (key.finishOf separator line)).drop start

/-- Reads a number at the front of a key. -/
def frontNat (cs : List Char) : Option Nat × List Char :=
  let digits := cs.takeWhile Char.isDigit
  ((String.ofList digits).toNat?, cs.drop digits.length)

/-- Reads one end of a key: its field, its character, and the letters after it. -/
def readPlace (cs : List Char) : Option (Nat × Option Nat × List Char × List Char) :=
  match frontNat cs with
  | (some field, '.' :: rest) =>
    match frontNat rest with
    | (some character, rest) =>
      let letters := rest.takeWhile Char.isAlpha
      some (field, some character, letters, rest.drop letters.length)
    | _ => none
  | (some field, rest) =>
    let letters := rest.takeWhile Char.isAlpha
    some (field, none, letters, rest.drop letters.length)
  | _ => none

/-- Reads a key. -/
def read? (word : String) : Option SortKey := do
  let (field, character, letters, rest) ← readPlace word.toList
  if field = 0 || character = some 0 then none
  else
    let startBlanks := letters.contains 'b'
    let (finish, finishLetters) : Option KeyPlace × List Char ←
      match rest with
      | [] => some (none, [])
      | ',' :: rest =>
        match readPlace rest with
        | some (field, character, letters, []) =>
          if field = 0 then none
          else some (some ⟨field, character.getD 0, letters.contains 'b'⟩, letters)
        | _ => none
      | _ => none
    let order ← (letters ++ finishLetters).foldlM KeyOrder.addLetter ({} : KeyOrder)
    return ⟨⟨field, character.getD 1, startBlanks⟩, finish,
      if (letters ++ finishLetters).isEmpty then none else some order⟩

end SortKey

/-! ## Sorting -/

/-- The options of `sort`. -/
def sortOptions : OptionTable :=
  { letters := OptionTable.flags "bdfghinrCcmsuz" ++ OptionTable.valued "koStT"
    words := [("ignore-leading-blanks", .none, 'b'), ("dictionary-order", .none, 'd'),
      ("ignore-case", .none, 'f'), ("general-numeric-sort", .none, 'g'),
      ("human-numeric-sort", .none, 'h'), ("ignore-nonprinting", .none, 'i'),
      ("numeric-sort", .none, 'n'), ("reverse", .none, 'r'), ("check", .optional, 'c'),
      ("merge", .none, 'm'), ("stable", .none, 's'), ("unique", .none, 'u'),
      ("zero-terminated", .none, 'z'), ("key", .required, 'k'), ("output", .required, 'o'),
      ("field-separator", .required, 't'), ("buffer-size", .required, 'S'),
      ("temporary-directory", .required, 'T')] }

/-- How lines are put in order. -/
structure SortPlan where
  keys : List SortKey
  order : KeyOrder
  separator : Option UInt8
  stable : Bool
  unique : Bool

namespace SortPlan

/-- How two lines lie to each other by the keys. -/
def compareKeys (plan : SortPlan) (a b : Line) : Ordering :=
  match plan.keys with
  | [] =>
    let trim (line : Line) : Line :=
      if plan.order.ignoreBlanks then line.dropWhile isBlank else line
    plan.order.compare (trim a) (trim b)
  | keys =>
    keys.foldl (fun result key =>
      result.then
        (let order := key.order.getD plan.order
         let key := if key.order.isNone && plan.order.ignoreBlanks then
             { key with
               start := { key.start with ignoreBlanks := true }
               finish := key.finish.map fun place => { place with ignoreBlanks := true } }
           else key
         order.compare (key.part plan.separator a) (key.part plan.separator b))) .eq

/-- How two lines lie to each other, where equal keys leave it to the whole lines. -/
def compareLines (plan : SortPlan) (a b : Line) : Ordering :=
  let byKeys :=
    if plan.keys.isEmpty && ({ plan.order with reversed := false } : KeyOrder).isPlain then .eq
    else plan.compareKeys a b
  if plan.stable || plan.unique then
    if plan.keys.isEmpty then plan.compareKeys a b else byKeys
  else
    byKeys.then (if plan.order.reversed then (compareBytes a b).swap else compareBytes a b)

/-- Leaves out lines that equal the line before them by the keys. -/
def dropEqual (plan : SortPlan) : Option Line → List Line → List Line
  | _, [] => []
  | before, line :: rest =>
    if before.any fun before => plan.compareKeys before line = .eq then
      plan.dropEqual before rest
    else line :: plan.dropEqual (some line) rest

/-- Puts lines in order. -/
def sort (plan : SortPlan) (lines : List Line) : List Line :=
  let sorted := lines.mergeSort fun a b => plan.compareLines a b ≠ .gt
  if plan.unique then plan.dropEqual none sorted else sorted

/-- The first line that is out of order, with its number. -/
def disorder? (plan : SortPlan) : Nat → List Line → Option (Nat × Line)
  | number, a :: b :: rest =>
    let order := plan.compareLines a b
    if order = .gt || (plan.unique && order = .eq) then some (number + 1, b)
    else plan.disorder? (number + 1) (b :: rest)
  | _, _ => none

end SortPlan

/-- Reads all the files that are to be sorted; a failure ends the program. -/
def gather (name : String) : List String → ByteArray → Routine ByteArray
  | [], sofar => return sofar
  | file :: rest, sofar => do
    match ← readFile file with
    | .ok bytes =>
      let isOpen := !bytes.isEmpty && bytes.toList.getLast? ≠ some lineFeed
      gather name rest (sofar ++ if isOpen then bytes.push lineFeed else bytes)
    | .error errno =>
      complain name ((if errno = .isDirectory then "read failed: " else "cannot read: ")
        ++ quotedBeforeColon file ++ ": " ++ errno.description)
      quit 2

/-- Puts the lines of files in order. -/
def sort : Program := fun image => do
  let name := image.name
  let parsed ← options sortOptions name image.words 2
  let mut keys := #[]
  for word in parsed.values 'k' do
    match SortKey.read? word with
    | some key => keys := keys.push key
    | none =>
      complain name ("invalid number at field start: invalid count at start of "
        ++ quotedWord word)
      quit 2
  let order := ['b', 'd', 'f', 'g', 'h', 'i', 'n', 'r'].foldl (fun order letter =>
    if parsed.has letter then (order.addLetter letter).getD order else order) ({} : KeyOrder)
  let separator ← match parsed.value? 't' with
    | none => pure none
    | some "\\0" => pure (some 0)
    | some word => do
      match (Text.toBytes word).toList with
      | [byte] => pure (some byte)
      | [] =>
        complain name "empty tab"
        quit 2
      | _ =>
        complain name ("multi-character tab " ++ quotedWord word)
        quit 2
  let plan : SortPlan :=
    { keys := keys.toList, order, separator, stable := parsed.has 's', unique := parsed.has 'u' }
  let ending : UInt8 := if parsed.has 'z' then 0 else lineFeed
  let files := orStandardInput parsed.operands
  let lines := linesOf (← gather name files .empty) ending
  if parsed.has 'c' || parsed.has 'C' then
    match plan.disorder? 1 lines with
    | none => return 0
    | some (number, line) =>
      if !parsed.has 'C' then
        complain name ((files.head?.getD "-") ++ ":" ++ toString number ++ ": disorder: "
          ++ Text.ofBytes (pack line))
      return 1
  let output := unlines (plan.sort lines) ending
  match parsed.value? 'o' with
  | none =>
    put name output 2
    return 0
  | some file =>
    match ← perform (.openFile file .output) with
    | .error errno =>
      complain name ("open failed: " ++ quotedBeforeColon file ++ ": " ++ errno.description)
      return 2
    | .ok descriptor =>
      let _ ← perform (.write descriptor output)
      return 0

/-! ## Repeated lines -/

/-- The options of `uniq`. -/
def uniqOptions : OptionTable :=
  { letters := OptionTable.flags "cdDiuz" ++ OptionTable.valued "fsw"
    words := [("count", .none, 'c'), ("repeated", .none, 'd'), ("all-repeated", .optional, 'D'),
      ("ignore-case", .none, 'i'), ("unique", .none, 'u'), ("zero-terminated", .none, 'z'),
      ("skip-fields", .required, 'f'), ("skip-chars", .required, 's'),
      ("check-chars", .required, 'w')] }

/-- Lines in groups of neighbours that are the same by their view. -/
def groupsBy (view : Line → Line) : List Line → List (List Line)
  | [] => []
  | line :: rest =>
    match groupsBy view rest with
    | (other :: others) :: groups =>
      if view line = view other then (line :: other :: others) :: groups
      else [line] :: (other :: others) :: groups
    | groups => [line] :: groups

/-- Tells neighbours that are the same apart from others. -/
def uniq : Program := fun image => do
  let name := image.name
  let parsed ← options uniqOptions name image.words
  if let some extra := parsed.operands[2]? then extraOperand name extra
  let number (letter : Char) : Option Nat := (parsed.value? letter).bind natural?
  let view (line : Line) : Line :=
    let rest := skipFields none ((number 'f').getD 0) line
    let rest := rest.drop ((number 's').getD 0)
    let rest := match number 'w' with
      | some width => rest.take width
      | none => rest
    if parsed.has 'i' then rest.map toLower else rest
  let ending : UInt8 := if parsed.has 'z' then 0 else lineFeed
  let file := parsed.operands.head?.getD "-"
  match ← readFile file with
  | .error errno =>
    if errno = .isDirectory then
      complain name ("error reading " ++ quotedAlways file)
    else complainOfFile name file errno
    return 1
  | .ok bytes =>
    let groups := groupsBy view (linesOf bytes ending)
    let wanted := groups.filter fun group =>
      (!parsed.has 'u' || group.length = 1)
        && (!(parsed.has 'd' || parsed.has 'D') || group.length > 1)
    let lines := wanted.flatMap fun group =>
      if parsed.has 'D' then group
      else
        let count : Line :=
          if parsed.has 'c' then (padLeft 7 group.length ++ " ").toUTF8.toList else []
        (group.head?.map fun line => count ++ line).toList
    let output := unlines lines ending
    match parsed.operands[1]? with
    | none => put name output
    | some target =>
      match ← perform (.openFile target .output) with
      | .error errno =>
        complainOfFile name target errno
        quit 1
      | .ok descriptor =>
        let _ ← perform (.write descriptor output)
    return 0

/-! ## Two files -/

/-- The options of `comm`. -/
def commOptions : OptionTable :=
  { letters := OptionTable.flags "123z"
    words := [("check-order", .none, 'k'), ("nocheck-order", .none, 'n')] }

/-- The lines of two files side by side: which column each belongs to. -/
def mergeColumns : (fuel : Nat) → List Line → List Line → List (Nat × Line)
  | 0, _, _ => []
  | _, [], bs => bs.map (2, ·)
  | _, as, [] => as.map (1, ·)
  | fuel + 1, a :: as, b :: bs =>
    match compareBytes a b with
    | .lt => (1, a) :: mergeColumns fuel as (b :: bs)
    | .gt => (2, b) :: mergeColumns fuel (a :: as) bs
    | .eq => (3, a) :: mergeColumns fuel as bs

/-- Compares two sorted files line by line. -/
def comm : Program := fun image => do
  let name := image.name
  let parsed ← options commOptions name image.words
  match parsed.operands with
  | [] => missingOperand name
  | [one] =>
    complainOfUse name ("missing operand after " ++ quotedWord one)
    return 1
  | [first, second] =>
    let read (file : String) : Routine ByteArray := do
      match ← readFile file with
      | .ok bytes => return bytes
      | .error errno =>
        complainOfFile name file errno
        quit 1
    let as := linesOf (← read first)
    let bs := linesOf (← read second)
    let hidden (column : Nat) : Bool := parsed.has (Nat.digitChar column)
    let columns := mergeColumns (as.length + bs.length) as bs
    let lines := (columns.filter fun entry => !hidden entry.1).map fun (column, line) =>
      List.replicate (((List.range' 1 (column - 1)).filter fun c => !hidden c).length)
        (0x09 : UInt8) ++ line
    put name (unlines lines)
    return 0
  | _ :: _ :: extra :: _ => extraOperand name extra

/-- Compares two files byte by byte. -/
def cmp : Program := fun image => do
  let name := image.name
  let parsed ← options
    { letters := OptionTable.flags "sl", words := [("silent", .none, 's'), ("quiet", .none, 's')] }
    name image.words 2
  let read (file : String) : Routine ByteArray := do
    match ← readFile file with
    | .ok bytes => return bytes
    | .error errno =>
      if !parsed.has 's' then complain name (file ++ ": " ++ errno.description)
      quit 2
  match parsed.operands with
  | [] =>
    complainOfUse name ("missing operand after " ++ quotedWord name)
    return 2
  | first :: rest =>
    let second := rest.head?.getD "-"
    let as := (← read first).toList
    let bs := (← read second).toList
    let common := ((as.zip bs).takeWhile fun (a, b) => a = b).length
    if as = bs then return 0
    if parsed.has 's' then return 1
    let lines := ((as.take common).filter (· = lineFeed)).length + 1
    if common < as.length && common < bs.length then
      putText name (first ++ " " ++ second ++ " differ: byte " ++ toString (common + 1) ++ ", line "
        ++ toString lines ++ "\n")
    else
      let (short, bytes) := if as.length < bs.length then (first, as) else (second, bs)
      let place := if bytes.isEmpty then " which is empty"
        else " after byte " ++ toString common ++
          (if bytes.getLast? = some lineFeed then ", line " ++ toString (lines - 1)
            else ", in line " ++ toString lines)
      complain name ("EOF on " ++ short ++ place)
    return 1

end CommandShell.Machine.Program
