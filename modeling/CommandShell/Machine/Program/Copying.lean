import CommandShell.Machine.Program.Basic
set_option autoImplicit false

/-!
# Programs that pass files on

They copy files, or the beginnings or the ends of them, or count what is in them.
-/

namespace CommandShell.Machine.Program

/-! ## Whole files -/

/-- What is shown of a text besides itself. -/
structure CatStyle where
  numbers : Bool
  numbersNonblank : Bool
  ends : Bool
  tabs : Bool
  invisible : Bool
  squeeze : Bool

/-- Where in a text a copy is. -/
structure CatState where
  line : Nat := 0
  /-- How many line feeds were the last bytes; at the start one. -/
  feeds : Nat := 1

namespace CatStyle

/-- Nothing besides the text is shown. -/
def isPlain (style : CatStyle) : Bool :=
  !(style.numbers || style.numbersNonblank || style.ends || style.tabs || style.invisible
    || style.squeeze)

/-- A byte as it is shown. -/
def showByte (style : CatStyle) (byte : UInt8) : List UInt8 :=
  let text (s : String) : List UInt8 := s.toUTF8.toList
  if byte = 0x09 then (if style.tabs then text "^I" else [byte])
  else if !style.invisible then [byte]
  else
    let (mark, low) := if byte ≥ 0x80 then ("M-", byte - 0x80) else ("", byte)
    text <| mark ++
      if low < 0x20 then "^" ++ (asciiChar (low + 0x40)).toString
      else if low = 0x7F then "^?"
      else (asciiChar low).toString

/-- The number at the front of a line. -/
def lineNumber (n : Nat) : List UInt8 := (padLeft 6 n ++ "\t").toUTF8.toList

/-- What one more byte adds to the output. -/
def step (style : CatStyle) (state : CatState) (byte : UInt8) : List UInt8 × CatState :=
  if byte = lineFeed then
    if style.squeeze && state.feeds ≥ 3 then ([], state)
    else
      let counts := state.feeds > 0 && style.numbers && !style.numbersNonblank
      let line := if counts then state.line + 1 else state.line
      ((if counts then lineNumber line else []) ++ (if style.ends then [0x24, byte] else [byte]),
        ⟨line, state.feeds + 1⟩)
  else
    let counts := state.feeds > 0 && (style.numbers || style.numbersNonblank)
    let line := if counts then state.line + 1 else state.line
    ((if counts then lineNumber line else []) ++ style.showByte byte, ⟨line, 0⟩)

/-- What a block adds to the output. -/
def block (style : CatStyle) (state : CatState) (bytes : ByteArray) : ByteArray × CatState :=
  let (pieces, state) := bytes.toList.foldl (fun (pieces, state) byte =>
    let (piece, state) := style.step state byte
    (piece :: pieces, state)) (([] : List (List UInt8)), state)
  (pack pieces.reverse.flatten, state)

end CatStyle

/-- The options of `cat`. -/
def catOptions : OptionTable :=
  { letters := OptionTable.flags "AbeEnstTuv"
    words := [("show-all", .none, 'A'), ("number-nonblank", .none, 'b'), ("show-ends", .none, 'E'),
      ("number", .none, 'n'), ("squeeze-blank", .none, 's'), ("show-tabs", .none, 'T'),
      ("show-nonprinting", .none, 'v')] }

/-- How many bytes `cat` reads at once. -/
def catBlock : Nat := 131072

/-- Copies an open file. -/
def copyStyled (name : String) (style : CatStyle) (descriptor : Descriptor) :
    (fuel : Nat) → CatState → Routine (Except Errno Unit × CatState)
  | 0, state => return (.ok (), state)
  | fuel + 1, state => do
    match ← perform (.read descriptor catBlock) with
    | .error errno => return (.error errno, state)
    | .ok bytes =>
      if bytes.isEmpty then return (.ok (), state)
      if style.isPlain then
        put name bytes
        copyStyled name style descriptor fuel state
      else
        let (output, state) := style.block state bytes
        put name output
        copyStyled name style descriptor fuel state

/-- A copy to the file that is being read would never end. -/
def readsOwnOutput (descriptor : Descriptor) : Routine Bool := do
  match ← perform (.describe standardOutput), ← perform (.describe descriptor) with
  | .ok (output, some finish), .ok (input, some start) =>
    return output.id = input.id && start < finish
  | _, _ => return false

/-- Copies files one after another. -/
def catFiles (name : String) (style : CatStyle) : List String → CatState → Routine Bool
  | [], _ => return true
  | file :: rest, state => do
    let opened ←
      if file = "-" then pure (.ok standardInput) else perform (.openFile file .input)
    match opened with
    | .error errno =>
      complainOfFile name file errno
      let _ ← catFiles name style rest state
      return false
    | .ok descriptor =>
      let (result, state) ←
        if ← readsOwnOutput descriptor then do
          complain name (quotedBeforeColon file ++ ": input file is output file")
          pure (false, state)
        else do
          let (result, state) ← copyStyled name style descriptor budget state
          if let .error errno := result then complainOfFile name file errno
          pure (result.toOption.isSome, state)
      if file ≠ "-" then
        let _ ← perform (.close descriptor)
      let others ← catFiles name style rest state
      return result && others

/-- Passes files on. -/
def cat : Program := fun image => do
  let parsed ← options catOptions image.name image.words
  let given (letters : String) : Bool := parsed.options.any fun option => letters.contains option.1
  let style : CatStyle :=
    { numbers := given "n", numbersNonblank := given "b", ends := given "AeE"
      tabs := given "AtT", invisible := given "Aetv", squeeze := given "s" }
  return codeOf (← catFiles image.name style (orStandardInput parsed.operands) {})

/-- The options of `tee`. -/
def teeOptions : OptionTable :=
  { letters := OptionTable.flags "aip"
    words := [("append", .none, 'a'), ("ignore-interrupts", .none, 'i')] }

/-- Writes a block to several descriptors; gives those that took it. -/
def writeAll (name : String) (bytes : ByteArray) :
    List (String × Descriptor) → Routine (List (String × Descriptor))
  | [] => return []
  | (file, descriptor) :: rest => do
    let result ← perform (.write descriptor bytes)
    if let .error errno := result then complainOfFile name file errno
    let others ← writeAll name bytes rest
    return if result.toOption.isSome then (file, descriptor) :: others else others

/-- Passes blocks on while somebody takes them; says whether everybody took all of them. -/
def teeBlocks (name : String) :
    (fuel : Nat) → List (String × Descriptor) → Routine Bool
  | 0, _ => return true
  | _, [] => return false
  | fuel + 1, sinks => do
    match ← perform (.read standardInput blockSize) with
    | .error errno =>
      complain name ("read error: " ++ errno.description)
      return false
    | .ok bytes =>
      if bytes.isEmpty then return true
      let left ← writeAll name bytes sinks
      return (← teeBlocks name fuel left) && left.length = sinks.length

/-- Passes standard input on to standard output and to files. -/
def tee : Program := fun image => do
  let parsed ← options teeOptions image.name image.words
  let mode := if parsed.has 'a' then OpenMode.append else .output
  if parsed.has 'i' then
    let _ ← perform (.arrange .interrupt .ignored)
  let mut sinks := #[("standard output", standardOutput)]
  let mut succeeded := true
  for file in parsed.operands do
    match ← perform (.openFile file mode) with
    | .ok descriptor => sinks := sinks.push (file, descriptor)
    | .error errno =>
      complainOfFile image.name file errno
      succeeded := false
  let all ← teeBlocks image.name budget sinks.toList
  return codeOf (succeeded && all)

/-! ## Beginnings and ends -/

/-- What is counted, and how. -/
structure Amount where
  count : Nat
  bytes : Bool := false
  /-- Counted from the other side: all but the last ones, or from that one on. -/
  reversed : Bool := false

/-- The factor that a letter after a number stands for. -/
def factor? : List Char → Option Nat
  | [] => some 1
  | ['b'] => some 512
  | ['k'] | ['K'] | ['K', 'i', 'B'] => some 1024
  | ['k', 'B'] | ['K', 'B'] => some 1000
  | ['M'] | ['m'] | ['M', 'i', 'B'] => some 1048576
  | ['M', 'B'] => some 1000000
  | ['G'] | ['g'] => some 1073741824
  | _ => none

/-- A count with a factor. -/
def count? (word : String) : Option Nat :=
  let digits := word.toList.takeWhile Char.isDigit
  if digits.isEmpty then none
  else
    match factor? (word.toList.drop digits.length), (String.ofList digits).toNat? with
    | some factor, some n => some (n * factor)
    | _, _ => none

/-- The options of `head` and of `tail`. -/
def endOptions : OptionTable :=
  { letters := OptionTable.flags "qvzfF" ++ OptionTable.valued "cns"
    words := [("bytes", .required, 'c'), ("lines", .required, 'n'), ("quiet", .none, 'q'),
      ("silent", .none, 'q'), ("verbose", .none, 'v'), ("zero-terminated", .none, 'z')] }

/-- The first argument of `head` and `tail` may be a number alone, after `mark`.  Gives the
arguments in the usual form. -/
def expandCount (mark : Char) (words : List String) : List String :=
  match words with
  | word :: rest =>
    match word.toList with
    | c :: digit :: more =>
      if c = mark && digit.isDigit then
        let digits := (digit :: more).takeWhile Char.isDigit
        let letters := (digit :: more).drop digits.length
        let sign := if mark = '+' then "+" else ""
        let option := if letters.contains 'c' then "-c" else "-n"
        let others := letters.filter fun c => c = 'q' || c = 'v'
        (option ++ sign ++ String.ofList digits)
          :: (if others.isEmpty then [] else ["-" ++ String.ofList others]) ++ rest
      else words
    | _ => words
  | [] => []

/-- The amount that the options ask for; `mark` is the sign that turns it around. -/
def amountOf (name : String) (mark : Char) (parsed : Parsed) : Routine Amount := do
  let isCount (option : Char × Option String) : Bool := option.1 = 'c' || option.1 = 'n'
  let mut amount : Amount := ⟨10, false, false⟩
  for (letter, value) in parsed.options.filter isCount do
    let word := value.getD ""
    let (sign, digits) := match word.toList with
      | c :: rest => if c = '+' || c = '-' then (some c, String.ofList rest) else (none, word)
      | [] => (none, word)
    match count? digits with
    | some count => amount := ⟨count, letter = 'c', sign = some mark⟩
    | none =>
      complain name ("invalid number of " ++ (if letter = 'c' then "bytes" else "lines") ++ ": "
        ++ quotedWord (if sign = some '-' && mark = '-' then digits else word))
      quit 1
  return amount

/-- The position after so many lines from `position` on, looking at no more than `fuel` bytes, and
how many of the lines are still missing there. -/
def skipLines (ending : UInt8) (bytes : ByteArray) (wanted position : Nat) :
    (fuel : Nat) → Nat × Nat
  | 0 => (position, wanted)
  | fuel + 1 =>
    if wanted = 0 then (position, 0)
    else
      match bytes[position]? with
      | none => (position, wanted)
      | some byte =>
        skipLines ending bytes (if byte = ending then wanted - 1 else wanted) (position + 1) fuel

/-- Writes the first lines of an open file.  What was read after them is taken back if that is
possible. -/
def putFirstLines (name : String) (ending : UInt8) (descriptor : Descriptor) (wanted : Nat) :
    (fuel : Nat) → Routine (Except Errno Unit)
  | 0 => return .ok ()
  | fuel + 1 => do
    if wanted = 0 then return .ok ()
    match ← perform (.read descriptor blockSize) with
    | .error errno => return .error errno
    | .ok bytes =>
      if bytes.isEmpty then return .ok ()
      let (position, left) := skipLines ending bytes wanted 0 (bytes.size + 1)
      put name (bytes.extract 0 position)
      if left = 0 then
        let _ ← perform (.unread descriptor (bytes.size - position))
        return .ok ()
      putFirstLines name ending descriptor left fuel

/-- Writes the first bytes of an open file. -/
def putFirstBytes (name : String) (descriptor : Descriptor) (wanted : Nat) :
    (fuel : Nat) → Routine (Except Errno Unit)
  | 0 => return .ok ()
  | fuel + 1 => do
    if wanted = 0 then return .ok ()
    match ← perform (.read descriptor (min blockSize wanted)) with
    | .error errno => return .error errno
    | .ok bytes =>
      if bytes.isEmpty then return .ok ()
      put name bytes
      putFirstBytes name descriptor (wanted - bytes.size) fuel

/-- The bytes of a text from its last so many lines on. -/
def lastLines (ending : UInt8) (bytes : ByteArray) (count : Nat) : ByteArray :=
  let lines := linesOf bytes ending
  let (position, _) := skipLines ending bytes (lines.length - count) 0 (bytes.size + 1)
  bytes.extract position bytes.size

/-- The part of a text that an amount at its end stands for. -/
def endPart (ending : UInt8) (amount : Amount) (bytes : ByteArray) : ByteArray :=
  if amount.bytes then
    bytes.extract (if amount.reversed then amount.count - 1 else bytes.size - amount.count)
      bytes.size
  else if amount.reversed then
    let (position, _) := skipLines ending bytes (amount.count - 1) 0 (bytes.size + 1)
    bytes.extract position bytes.size
  else lastLines ending bytes amount.count

/-- The part of a text that all but the last so many lines or bytes make up. -/
def allButEnd (ending : UInt8) (amount : Amount) (bytes : ByteArray) : ByteArray :=
  if amount.bytes then bytes.extract 0 (bytes.size - amount.count)
  else
    let lines := linesOf bytes ending
    let (position, _) :=
      skipLines ending bytes (lines.length - amount.count) 0 (bytes.size + 1)
    if lines.length ≤ amount.count then .empty else bytes.extract 0 position

/-- Does something with each of several files under a header; says whether all went well. -/
def underHeaders (name : String) (headers : Bool)
    (use : Descriptor → Routine (Except Errno Unit)) :
    (isFirst : Bool) → List String → Routine Bool
  | _, [] => return true
  | isFirst, file :: rest => do
    let shown := if file = "-" then "standard input" else file
    let opened ←
      if file = "-" then pure (.ok standardInput) else perform (.openFile file .input)
    match opened with
    | .error errno =>
      complain name ("cannot open " ++ quotedAlways shown ++ " for reading: "
        ++ errno.description)
      let _ ← underHeaders name headers use isFirst rest
      return false
    | .ok descriptor =>
      if headers then
        putText name ((if isFirst then "" else "\n") ++ "==> " ++ shown ++ " <==\n")
      let result ← use descriptor
      if let .error errno := result then
        complain name ("error reading " ++ quotedAlways shown ++ ": " ++ errno.description)
      if file ≠ "-" then
        let _ ← perform (.close descriptor)
      let others ← underHeaders name headers use false rest
      return result.toOption.isSome && others

/-- The files are named in the output. -/
def wantsHeaders (parsed : Parsed) : Bool :=
  match parsed.last? "qv" with
  | some 'v' => true
  | some _ => false
  | none => parsed.operands.length > 1

/-- Writes the beginnings of files. -/
def head : Program := fun image => do
  let name := image.name
  let parsed ← options endOptions name (expandCount '-' image.words)
  let amount ← amountOf name '-' parsed
  let ending : UInt8 := if parsed.has 'z' then 0 else lineFeed
  let use (descriptor : Descriptor) : Routine (Except Errno Unit) := do
    if amount.reversed then
      match ← readAll descriptor .empty budget with
      | .error errno => return .error errno
      | .ok bytes =>
        put name (allButEnd ending amount bytes)
        return .ok ()
    else if amount.bytes then putFirstBytes name descriptor amount.count budget
    else putFirstLines name ending descriptor amount.count budget
  return codeOf (← underHeaders name (wantsHeaders parsed) use true
    (orStandardInput parsed.operands))

/-- Writes the ends of files. -/
def tail : Program := fun image => do
  let name := image.name
  let words := match image.words with
    | word :: _ => if word.startsWith "+" then expandCount '+' image.words
      else expandCount '-' image.words
    | [] => []
  let parsed ← options endOptions name words
  let amount ← amountOf name '+' parsed
  let ending : UInt8 := if parsed.has 'z' then 0 else lineFeed
  let use (descriptor : Descriptor) : Routine (Except Errno Unit) := do
    match ← readAll descriptor .empty budget with
    | .error errno => return .error errno
    | .ok bytes =>
      put name (endPart ending amount bytes)
      return .ok ()
  return codeOf (← underHeaders name (wantsHeaders parsed) use true
    (orStandardInput parsed.operands))

/-! ## Counting -/

/-- What can be counted in a text. -/
structure Counts where
  lines : Nat := 0
  words : Nat := 0
  bytes : Nat := 0
  /-- The width of the widest line. -/
  width : Nat := 0

namespace Counts

/-- Counts of several texts. -/
def add (a b : Counts) : Counts :=
  ⟨a.lines + b.lines, a.words + b.words, a.bytes + b.bytes, max a.width b.width⟩

/-- Where a count is within its text. -/
structure State where
  counts : Counts := {}
  inWord : Bool := false
  column : Nat := 0

/-- Counts one more byte. -/
def step (state : State) (byte : UInt8) : State :=
  let counts := { state.counts with bytes := state.counts.bytes + 1 }
  if isSpace byte then
    let column :=
      if byte = 0x09 then state.column + 8 - state.column % 8
      else if byte = 0x20 then state.column + 1
      else if byte = 0x0B then state.column
      else 0
    let width := if column = 0 then max counts.width state.column else counts.width
    ⟨{ counts with lines := counts.lines + if byte = lineFeed then 1 else 0, width }, false, column⟩
  else if isPrintable byte then
    ⟨{ counts with words := counts.words + if state.inWord then 0 else 1 }, true, state.column + 1⟩
  else { state with counts }

/-- Counts what is in a text. -/
def ofBytes (bytes : ByteArray) : Counts :=
  let state := bytes.toList.foldl step {}
  { state.counts with width := max state.counts.width state.column }

/-- The counts that options ask for, in their order. -/
def shown (counts : Counts) (letters : List Char) : List Nat :=
  letters.map fun
    | 'l' => counts.lines
    | 'w' => counts.words
    | 'L' => counts.width
    | _ => counts.bytes

end Counts

/-- The options of `wc`. -/
def wcOptions : OptionTable :=
  { letters := OptionTable.flags "clLmw"
    words := [("bytes", .none, 'c'), ("chars", .none, 'm'), ("lines", .none, 'l'),
      ("max-line-length", .none, 'L'), ("words", .none, 'w')] }

/-- What is known of a file before it is counted: its size if it is a regular file; the outer none
if there is no such file. -/
def sizeOf (file : String) : Routine (Option (Option Nat)) := do
  let info ←
    if file = "-" then pure (((← perform (.describe standardInput)).toOption).map Prod.fst)
    else pure (← perform (.stat file true)).toOption
  return info.map fun info => if info.kind = .regular then some info.size else none

/-- The width of the columns. -/
def countWidth (sizes : List (Option (Option Nat))) : Nat :=
  let known := sizes.filterMap id
  let least := if known.any Option.isNone then 7 else 1
  max least (toString ((known.map fun size => size.getD 0).foldl (· + ·) 0)).length

/-- Counts files one after another: a line for each that can be opened.  `alone` says that it is
standard input, and that no file was asked for. -/
def countFiles (name : String) (alone : Bool) (line : Counts → String → String) :
    List String → Routine (Bool × List String × Counts)
  | [] => return (true, [], {})
  | file :: rest => do
    let result ← readFile file
    let shown ← match result with
      | .ok bytes => pure (some (Counts.ofBytes bytes))
      | .error errno => do
        complainOfFile name (if alone then "standard input" else file) errno
        pure (if errno = .isDirectory then some {} else none)
    let (others, lines, total) ← countFiles name alone line rest
    let counts := shown.getD {}
    return (result.toOption.isSome && others,
      (shown.map fun counts => line counts file).toList ++ lines, counts.add total)

/-- Counts lines, words and bytes. -/
def wc : Program := fun image => do
  let name := image.name
  let parsed ← options wcOptions name image.words
  let given := ['l', 'w', 'm', 'c', 'L'].filter parsed.has
  let letters := if given.isEmpty then ['l', 'w', 'c'] else given
  let files := orStandardInput parsed.operands
  let width ←
    if files.length = 1 && letters.length = 1 then pure 1
    else pure (countWidth (← files.mapM sizeOf))
  let line (counts : Counts) (file : String) : String :=
    " ".intercalate ((counts.shown letters).map (padLeft width))
      ++ (if parsed.operands.isEmpty then "" else " " ++ file) ++ "\n"
  let (succeeded, lines, total) ← countFiles name parsed.operands.isEmpty line files
  putText name (String.join lines ++ if files.length > 1 then line total "total" else "")
  return codeOf succeeded

end CommandShell.Machine.Program
