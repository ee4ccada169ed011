import CommandShell.Machine.Program.Basic
set_option autoImplicit false

/-!
# Quoting

How the extended dialect writes a text so that it reads back as the same word, and what the escapes
between `$'` and `'` stand for.
-/

namespace CommandShell.Machine.SystemShell.Quoting

/-! ## Escapes -/

/-- The bytes that a letter after a backslash stands for. -/
def letterEscapes : List (Char × UInt8) :=
  [('a', 0x07), ('b', 0x08), ('e', 0x1B), ('E', 0x1B), ('f', 0x0C), ('n', 0x0A), ('r', 0x0D),
    ('t', 0x09), ('v', 0x0B), ('\\', 0x5C), ('\'', 0x27), ('"', 0x22), ('?', 0x3F)]

/-- The value of a hexadecimal digit. -/
def hexValue? (byte : UInt8) : Option Nat :=
  let c := Program.asciiChar byte
  if c.isDigit then some (c.toNat - 48)
  else if 'a' ≤ c && c ≤ 'f' then some (c.toNat - 87)
  else if 'A' ≤ c && c ≤ 'F' then some (c.toNat - 55)
  else none

/-- The number of at most `count` digits at the front of bytes, and what follows them; none if there
is no digit. -/
def frontNumber (base count : Nat) (bytes : List UInt8) : Option (Nat × List UInt8) :=
  let digits := (bytes.take count).takeWhile fun b => (hexValue? b).any (· < base)
  if digits.isEmpty then none
  else
    some (digits.foldl (fun n b => base * n + (hexValue? b).getD 0) 0, bytes.drop digits.length)

/-- A number in hexadecimal with at least so many digits. -/
def paddedHex (width n : Nat) : String :=
  let digits := (Nat.toDigits 16 n).map Char.toUpper
  String.ofList (List.replicate (width - digits.length) '0' ++ digits)

/-- The bytes of a character by its number; outside of ASCII it stays as it is written. -/
def numberedChar (n : Nat) : List UInt8 :=
  if n < 128 then [UInt8.ofNat n]
  else
    let text := if n ≤ 0xFFFF then "\\u" ++ paddedHex 4 n else "\\U" ++ paddedHex 8 n
    (Text.toBytes text).toList

/-- The bytes that a text with escapes stands for, up to a zero byte. -/
def decode : (fuel : Nat) → List UInt8 → List UInt8
  | 0, _ | _, [] => []
  | fuel + 1, 0x5C :: byte :: rest =>
    let one (n : Nat) (rest : List UInt8) : List UInt8 :=
      if n % 256 = 0 then [] else UInt8.ofNat n :: decode fuel rest
    let asWritten : List UInt8 := 0x5C :: byte :: decode fuel rest
    let c := Program.asciiChar byte
    match letterEscapes.lookup c with
    | some b => b :: decode fuel rest
    | none =>
      if '0' ≤ c && c ≤ '7' then
        match frontNumber 8 3 (byte :: rest) with
        | some (n, rest) => one n rest
        | none => asWritten
      else if c = 'x' then
        match frontNumber 16 2 rest with
        | some (n, rest) => one n rest
        | none => asWritten
      else if c = 'u' || c = 'U' then
        match frontNumber 16 (if c = 'u' then 4 else 8) rest with
        | some (0, _) => []
        | some (n, rest) => numberedChar n ++ decode fuel rest
        | none => asWritten
      else if c = 'c' then
        match rest with
        | key :: rest =>
          let rest := if key = 0x5C && rest.head? = some 0x5C then rest.drop 1 else rest
          let upper := Program.asciiChar key |>.toUpper
          one (if key = 0x3F then 127 else upper.toNat % 32) rest
        | [] => asWritten
      else asWritten
  | fuel + 1, byte :: rest => byte :: decode fuel rest

/-- The text that a text with escapes stands for. -/
def decodeText (text : String) : String :=
  let bytes := (Text.toBytes text).toList
  Text.ofBytes (Program.pack (decode (bytes.length + 1) bytes))

/-! ## Writing -/

/-- A byte that is shown as it is. -/
def isShown (byte : UInt8) : Bool := 0x20 ≤ byte && byte < 0x7F

/-- The byte as it is written between `$'` and `'`. -/
def escapeByte (byte : UInt8) : String :=
  let named : List (UInt8 × String) :=
    [(0x07, "\\a"), (0x08, "\\b"), (0x09, "\\t"), (0x0A, "\\n"), (0x0B, "\\v"), (0x0C, "\\f"),
      (0x0D, "\\r"), (0x1B, "\\E"), (0x5C, "\\\\"), (0x27, "\\'")]
  match named.lookup byte with
  | some text => text
  | none =>
    if isShown byte then (Program.asciiChar byte).toString
    else
      let digits := Nat.toDigits 8 byte.toNat
      "\\" ++ String.ofList (List.replicate (3 - digits.length) '0' ++ digits)

/-- The text between `$'` and `'`. -/
def escaped (text : String) : String :=
  "$'" ++ String.join ((Text.toBytes text).toList.map escapeByte) ++ "'"

/-- Something in the text is not shown as it is. -/
def needsEscapes (text : String) : Bool := (Text.toBytes text).toList.any fun b => !isShown b

/-- The text between single quotes. -/
def singleQuoted (text : String) : String := "'" ++ text.replace "'" "'\\''" ++ "'"

/-- The text between double quotes. -/
def doubleQuoted (text : String) : String :=
  "\"" ++ String.ofList (text.toList.flatMap fun c =>
    if "\"$\u0060\\".contains c then ['\\', c] else [c]) ++ "\""

/-- The text with a backslash before every character that has a meaning. -/
def backslashed (text : String) : String :=
  let cs := text.toList
  String.ofList ((cs.zip (' ' :: cs)).zipIdx.flatMap fun ((c, before), i) =>
    let isSpecial := " '\"\\|&;()<>!\x7b\x7d*[]?^$\u0060,".contains c
      || (c = '#' && i = 0)
      || (c = '~' && (i = 0 || before = ':' || before = '='))
    if isSpecial then ['\\', c] else [c])

/-- Something in the text has a meaning to the shell. -/
def hasMeaning (text : String) : Bool :=
  let cs := text.toList
  (cs.zip (' ' :: cs)).zipIdx.any fun ((c, before), i) =>
    " \t\n'\"\\|&;()<>!\x7b\x7d*[]?^$\u0060".contains c
      || (c = '#' && i = 0)
      || (c = '~' && (i = 0 || before = ':' || before = '='))

/-- A text as one word, with backslashes where they will do. -/
def asWord (text : String) : String :=
  if text = "" then "''" else if needsEscapes text then escaped text else backslashed text

/-- A text as one word in quotes. -/
def asQuoted (text : String) : String :=
  if needsEscapes text then escaped text else singleQuoted text

/-- A text as one word, in quotes only where they are needed. -/
def asNeeded (text : String) : String :=
  if needsEscapes text then escaped text else if hasMeaning text then singleQuoted text else text

/-- A text as the value of a declaration. -/
def asValue (text : String) : String :=
  if needsEscapes text then escaped text else doubleQuoted text

end CommandShell.Machine.SystemShell.Quoting
