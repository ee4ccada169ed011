import CommandShell.Machine.Program.Escape
set_option autoImplicit false

/-!
# Showing bytes

Programs that write the bytes of files in digits and letters, or read them back from letters.
-/

namespace CommandShell.Machine.Program

/-! ## Dumps -/

/-- How the bytes of a dump are shown. -/
inductive DumpStyle where
  /-- Characters, with escapes. -/
  | characters
  /-- The names of characters. -/
  | names
  | signed
  | unsigned (base : Nat)

/-- How a row of a dump is shown: so many bytes at a time, and the text of the row at its end. -/
structure DumpFormat where
  style : DumpStyle
  size : Nat
  showsText : Bool := false

/-- The number that bytes stand for, the least one first. -/
def littleEndian (bytes : List UInt8) : Nat :=
  bytes.foldr (fun byte n => byte.toNat + 256 * n) 0

/-- The digits of a number. -/
def digitsOf (base n : Nat) : String := String.ofList (Nat.toDigits base n)

/-- How many digits the largest number of so many bytes has. -/
def digitCount (base size : Nat) : Nat := (digitsOf base (Nat.pow 256 size - 1)).length

/-- A text with another one before it, up to a width. -/
def padWith (c : Char) (width : Nat) (text : String) : String :=
  String.ofList (List.replicate (width - text.length) c) ++ text

/-- The names of the characters that cannot be shown. -/
def characterNames : List String :=
  ["nul", "soh", "stx", "etx", "eot", "enq", "ack", "bel", "bs", "ht", "nl", "vt", "ff", "cr",
    "so", "si", "dle", "dc1", "dc2", "dc3", "dc4", "nak", "syn", "etb", "can", "em", "sub", "esc",
    "fs", "gs", "rs", "us", "sp"]

namespace DumpFormat

/-- The width of a field, without the blank before it. -/
def width (format : DumpFormat) : Nat :=
  match format.style with
  | .characters | .names => 3
  | .signed => digitCount 10 format.size + (if format.size = 8 then 0 else 1)
  | .unsigned base => digitCount base format.size

/-- A byte as a character. -/
def character (byte : UInt8) : String :=
  match byte.toNat with
  | 0 => "\\0"
  | 7 => "\\a"
  | 8 => "\\b"
  | 9 => "\\t"
  | 10 => "\\n"
  | 11 => "\\v"
  | 12 => "\\f"
  | 13 => "\\r"
  | n => if isPrintable byte then (asciiChar byte).toString else octalDigits n

/-- A byte by its name. -/
def named (byte : UInt8) : String :=
  let n := byte.toNat % 128
  if n = 127 then "del" else (characterNames[n]?).getD (Char.ofNat n).toString

/-- What a field shows. -/
def field (format : DumpFormat) (bytes : List UInt8) : String :=
  let first := bytes.head?.getD 0
  let n := littleEndian bytes
  match format.style with
  | .characters => character first
  | .names => named first
  | .signed =>
    let limit := Nat.pow 256 format.size
    if 2 * n ≥ limit then "-" ++ toString (limit - n) else toString n
  | .unsigned 10 => toString n
  | .unsigned base => padWith '0' (digitCount base format.size) (digitsOf base n)

end DumpFormat

/-- How a dump is made. -/
structure DumpRequest where
  formats : List DumpFormat
  /-- The base of the addresses, if they are shown. -/
  base : Option Nat
  rowSize : Nat
  /-- Rows like the one before are shown as well. -/
  showsAll : Bool

namespace DumpRequest

/-- An address. -/
def address (request : DumpRequest) (n : Nat) : String :=
  match request.base with
  | none => ""
  | some base => padWith '0' (if base = 16 then 6 else 7) (digitsOf base n)

/-- The blanks in place of an address. -/
def noAddress (request : DumpRequest) : String :=
  String.ofList (List.replicate (request.address 0).length ' ')

/-- The width of a row in a format, if nothing else is shown. -/
def ownWidth (request : DumpRequest) (format : DumpFormat) : Nat :=
  (format.width + 1) * (request.rowSize / format.size)

/-- The width of a row. -/
def rowWidth (request : DumpRequest) : Nat :=
  (request.formats.map request.ownWidth).foldl max 0

/-- The fields of a row; room that is left in it is spread over them. -/
def fields (request : DumpRequest) (format : DumpFormat) (bytes : List UInt8) : String :=
  let count := request.rowSize / format.size
  let room := request.rowWidth - request.ownWidth format
  let present := (bytes.length + format.size - 1) / format.size
  let field (i : Nat) : String :=
    let part := (bytes.drop (i * format.size)).take format.size
    let extra := room * (count - i) / count - room * (count - i - 1) / count
    padWith ' ' (format.width + 1 + extra) (format.field part)
  String.join ((List.range present).map field)

/-- The text of a row. -/
def text (request : DumpRequest) (fields : String) (bytes : List UInt8) : String :=
  let shown := bytes.map fun byte => if isPrintable byte then asciiChar byte else '.'
  String.ofList (List.replicate (request.rowWidth - fields.length) ' ') ++ "  >"
    ++ String.ofList shown ++ "<"

/-- A row of the dump. -/
def row (request : DumpRequest) (start : Nat) (bytes : List UInt8) : String :=
  String.join (request.formats.zipIdx.map fun (format, i) =>
    let fields := request.fields format bytes
    (if i = 0 then request.address start else request.noAddress) ++ fields
      ++ (if format.showsText then request.text fields bytes else "") ++ "\n")

/-- The rows of the dump.  A row like the one before is left out, with one mark for all of them. -/
def rows (request : DumpRequest) :
    (fuel start : Nat) → (before : Option (List UInt8)) → (isMarked : Bool) → List UInt8 →
      List String
  | 0, _, _, _, _ => []
  | fuel + 1, start, before, isMarked, bytes =>
    if bytes.isEmpty then
      if request.base.isSome then [request.address start ++ "\n"] else []
    else
      let now := bytes.take request.rowSize
      let rest := bytes.drop request.rowSize
      let isSame := !request.showsAll && before = some now && now.length = request.rowSize
      let next := request.rows fuel (start + now.length) (some now) isSame rest
      if isSame then (if isMarked then next else "*\n" :: next)
      else request.row start now :: next

end DumpRequest

/-- The options of `od`. -/
def odOptions : OptionTable :=
  { letters := OptionTable.flags "vabcdosxil" ++ OptionTable.valued "AjNt" ++ [('w', .optional)]
    words := [("address-radix", .required, 'A'), ("skip-bytes", .required, 'j'),
      ("read-bytes", .required, 'N'), ("format", .required, 't'),
      ("output-duplicates", .none, 'v'), ("width", .optional, 'w')] }

/-- The formats that a text names. -/
def readFormats : (fuel : Nat) → List Char → Except Char (List DumpFormat)
  | 0, _ => .ok []
  | _, [] => .ok []
  | fuel + 1, letter :: rest => do
    let digits := rest.takeWhile Char.isDigit
    let named : Option (Nat × List Char) :=
      if !digits.isEmpty then
        some (((String.ofList digits).toNat?).getD 4, rest.drop digits.length)
      else match rest with
        | 'C' :: rest => some (1, rest)
        | 'S' :: rest => some (2, rest)
        | 'I' :: rest => some (4, rest)
        | 'L' :: rest => some (8, rest)
        | _ => none
    let (style, size, rest) : DumpStyle × Nat × List Char ← match letter with
      | 'a' => pure (.names, 1, rest)
      | 'c' => pure (.characters, 1, rest)
      | 'd' => pure (.signed, (named.map Prod.fst).getD 4, (named.map Prod.snd).getD rest)
      | 'o' => pure (.unsigned 8, (named.map Prod.fst).getD 4, (named.map Prod.snd).getD rest)
      | 'u' => pure (.unsigned 10, (named.map Prod.fst).getD 4, (named.map Prod.snd).getD rest)
      | 'x' => pure (.unsigned 16, (named.map Prod.fst).getD 4, (named.map Prod.snd).getD rest)
      | letter => throw letter
    let (showsText, rest) := match rest with
      | 'z' :: rest => (true, rest)
      | rest => (false, rest)
    return ⟨style, size, showsText⟩ :: (← readFormats fuel rest)

/-- The formats that the letters of options stand for. -/
def formatOfLetter : Char → Option String
  | 'a' => some "a"
  | 'b' => some "o1"
  | 'c' => some "c"
  | 'd' => some "u2"
  | 'i' => some "d4"
  | 'l' => some "d8"
  | 'o' => some "o2"
  | 's' => some "d2"
  | 'x' => some "x2"
  | _ => none

/-- The formats that options name. -/
def formatsOf (name : String) (parsed : Parsed) : Routine (List DumpFormat) := do
  let texts := parsed.options.filterMap fun (letter, value) =>
    if letter = 't' then value else formatOfLetter letter
  let read (text : String) : Routine (List DumpFormat) := do
    match readFormats (text.length + 1) text.toList with
    | .ok formats =>
      match formats.find? fun format => !(([1, 2, 4, 8] : List Nat).contains format.size) with
      | none => return formats
      | some format =>
        complain name ("invalid type string " ++ quotedWord text ++ ";\nthis system doesn't "
          ++ "provide a " ++ toString format.size ++ "-byte integral type")
        quit 1
    | .error letter =>
      complain name ("invalid character " ++ quotedWord letter.toString ++ " in type string "
        ++ quotedWord text)
      quit 1
  let formats := (← texts.mapM read).flatten
  return if formats.isEmpty then [⟨.unsigned 8, 2, false⟩] else formats

/-- A count of bytes that an option gives. -/
def dumpCount (name : String) (parsed : Parsed) (letter : Char) : Routine (Option Nat) := do
  match parsed.value? letter with
  | none => return none
  | some word =>
    match natural? word with
    | some n => return some n
    | none =>
      complain name ("invalid -" ++ letter.toString ++ " argument " ++ quotedWord word)
      quit 1

/-- Shows the bytes of files. -/
def od : Program := fun image => do
  let name := image.name
  let parsed ← options odOptions name image.words
  let base ←
    match parsed.value? 'A' with
    | none => pure (some 8)
    | some "d" => pure (some 10)
    | some "o" => pure (some 8)
    | some "x" => pure (some 16)
    | some "n" => pure none
    | some word =>
      complain name ("invalid output address radix " ++ quotedWord word
        ++ "; it must be one character from [doxn]")
      return 1
  let formats ← formatsOf name parsed
  let skipped := (← dumpCount name parsed 'j').getD 0
  let limit ← dumpCount name parsed 'N'
  let unit := (formats.map DumpFormat.size).foldl max 1
  let rowSize := if parsed.has 'w' then ((parsed.value? 'w').bind natural?).getD 32 else 16
  let rowSize := if rowSize = 0 || rowSize % unit ≠ 0 then unit else rowSize
  let mut all : List UInt8 := []
  let mut succeeded := true
  for file in orStandardInput parsed.operands do
    match ← readFile file with
    | .ok bytes => all := all ++ bytes.toList
    | .error errno =>
      complainOfFile name file errno
      succeeded := false
  if skipped > all.length && succeeded then
    complain name "cannot skip past end of combined input"
    return 1
  let shown := match limit with
    | some limit => (all.drop skipped).take limit
    | none => all.drop skipped
  let request : DumpRequest := { formats, base, rowSize, showsAll := parsed.has 'v' }
  if !all.isEmpty || succeeded then
    putText name (String.join (request.rows (shown.length + 2) skipped none false shown))
  return codeOf succeeded

/-! ## Letters for bytes -/

/-- The letters of six bits each. -/
def sextetLetters : Array Char :=
  "ABCDEFGHIJKLMNOPQRSTUVWXYZabcdefghijklmnopqrstuvwxyz0123456789+/".toList.toArray

/-- The letters for bytes, four for every three of them. -/
def sextetText : List UInt8 → List Char
  | [] => []
  | [a] =>
    let n := a.toNat * 16
    [sextetLetters.getD (n / 64) 'A', sextetLetters.getD (n % 64) 'A', '=', '=']
  | [a, b] =>
    let n := (a.toNat * 256 + b.toNat) * 4
    [sextetLetters.getD (n / 4096) 'A', sextetLetters.getD (n / 64 % 64) 'A',
      sextetLetters.getD (n % 64) 'A', '=']
  | a :: b :: c :: rest =>
    let n := (a.toNat * 256 + b.toNat) * 256 + c.toNat
    sextetLetters.getD (n / 262144) 'A' :: sextetLetters.getD (n / 4096 % 64) 'A'
      :: sextetLetters.getD (n / 64 % 64) 'A' :: sextetLetters.getD (n % 64) 'A'
      :: sextetText rest

/-- The bytes that letters stand for, and whether all of them could be understood. -/
def sextetBytes : (fuel : Nat) → List UInt8 → List UInt8 × Bool
  | 0, _ => ([], true)
  | _, [] => ([], true)
  | fuel + 1, letters =>
    let value? (byte : UInt8) : Option Nat := sextetLetters.findIdx? (· = asciiChar byte)
    match (letters.take 4).map fun byte => (byte, value? byte) with
    | [(_, some a), (_, some b), (_, some c), (_, some d)] =>
      let n := ((a * 64 + b) * 64 + c) * 64 + d
      let (rest, succeeded) := sextetBytes fuel (letters.drop 4)
      (UInt8.ofNat (n / 65536) :: UInt8.ofNat (n / 256) :: UInt8.ofNat n :: rest, succeeded)
    | [(_, some a), (_, some b), (_, some c), (0x3D, none)] =>
      let n := (a * 64 + b) * 64 + c
      let (rest, succeeded) := sextetBytes fuel (letters.drop 4)
      (UInt8.ofNat (n / 1024) :: UInt8.ofNat (n / 4) :: rest, succeeded)
    | [(_, some a), (_, some b), (0x3D, none), (0x3D, none)] =>
      let n := a * 64 + b
      let (rest, succeeded) := sextetBytes fuel (letters.drop 4)
      (UInt8.ofNat (n / 16) :: rest, succeeded)
    | (_, some a) :: (_, some b) :: (_, some c) :: _ =>
      let n := (a * 64 + b) * 64 + c
      ([UInt8.ofNat (n / 1024), UInt8.ofNat (n / 4)], false)
    | (_, some a) :: (_, some b) :: _ => ([UInt8.ofNat ((a * 64 + b) / 16)], false)
    | _ => ([], false)

/-- Cuts letters into rows. -/
def rowsOf (width : Nat) : (fuel : Nat) → List Char → List (List Char)
  | 0, _ => []
  | _, [] => []
  | fuel + 1, letters => letters.take width :: rowsOf width fuel (letters.drop width)

/-- Writes bytes in letters, or reads them back. -/
def base64 : Program := fun image => do
  let name := image.name
  let parsed ← options
    { letters := OptionTable.flags "di" ++ OptionTable.valued "w"
      words := [("decode", .none, 'd'), ("ignore-garbage", .none, 'i'), ("wrap", .required, 'w')] }
    name image.words
  let width ←
    match parsed.value? 'w' with
    | none => pure 76
    | some word =>
      match natural? word with
      | some n => pure n
      | none =>
        complain name ("invalid wrap size: " ++ quotedWord word)
        return 1
  match parsed.operands with
  | _ :: extra :: _ => extraOperand name extra
  | operands =>
    let file := operands.head?.getD "-"
    match ← readFile file with
    | .error errno =>
      complainOfFile name file errno
      return 1
    | .ok bytes =>
      if parsed.has 'd' then
        let letters := bytes.toList.filter fun byte =>
          if parsed.has 'i' then sextetLetters.contains (asciiChar byte) || byte = 0x3D
          else byte ≠ lineFeed
        let (decoded, succeeded) := sextetBytes (letters.length + 1) letters
        put name (pack decoded)
        if !succeeded then complain name "invalid input"
        return codeOf succeeded
      else
        let letters := sextetText bytes.toList
        let text :=
          if width = 0 then String.ofList letters
          else String.join ((rowsOf width (letters.length + 1) letters).map fun row =>
            String.ofList row ++ "\n")
        putText name text
        return 0

end CommandShell.Machine.Program
