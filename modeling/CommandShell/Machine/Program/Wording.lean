import CommandShell.Text.Bytes
set_option autoImplicit false

/-!
# Names in messages

A program of the system quotes a name that it complains about so that a shell would read it as that
name again.  Only the printable characters of ASCII are shown as themselves.
-/

namespace CommandShell.Machine.Program

/-- A byte that is a printable character of ASCII. -/
def isPrintable (byte : UInt8) : Bool := 0x20 ≤ byte && byte < 0x7F

/-- The character of an ASCII byte. -/
def asciiChar (byte : UInt8) : Char := Char.ofNat byte.toNat

/-- Three octal digits. -/
def octalDigits (n : Nat) : String :=
  String.ofList [Nat.digitChar (n / 64 % 8), Nat.digitChar (n / 8 % 8), Nat.digitChar (n % 8)]

/-- A byte that is not printable, as an escape. -/
def byteEscape (byte : UInt8) : String :=
  match byte.toNat with
  | 7 => "\\a"
  | 8 => "\\b"
  | 9 => "\\t"
  | 10 => "\\n"
  | 11 => "\\v"
  | 12 => "\\f"
  | 13 => "\\r"
  | n => "\\" ++ octalDigits n

/-- The characters that have a meaning in a shell wherever they stand. -/
def specialCharacters : String := " !\"$&()*;<=>[^\u0060|\\?'"

/-- A name that a shell would not read as it stands. -/
def needsQuotes (bytes : List UInt8) : Bool :=
  bytes.isEmpty || bytes = [0x7B] || bytes = [0x7D]
    || bytes.head? = some 0x23 || bytes.head? = some 0x7E
    || bytes.any fun byte =>
      !isPrintable byte || specialCharacters.contains (asciiChar byte)

/-- A character that double quotes leave alone. -/
def isPlainInDoubleQuotes (byte : UInt8) : Bool :=
  isPrintable byte && !"!\"$&()*;<=>[^\u0060|\\?".contains (asciiChar byte)

/-- The inside of a name in single quotes; `escaping` inside of an escape. -/
def quotedBytes (escaping : Bool) : List UInt8 → String
  | [] => ""
  | byte :: rest =>
    if byte = 0x27 then
      "'\\''" ++ quotedBytes false rest
    else if isPrintable byte then
      (if escaping then "''" else "") ++ (asciiChar byte).toString ++ quotedBytes false rest
    else (if escaping then "" else "'$'") ++ byteEscape byte ++ quotedBytes true rest

/-- A name in quotes. -/
def quotedAlways (name : String) : String :=
  let bytes := (Text.toBytes name).toList
  if bytes.contains 0x27 && bytes.all isPlainInDoubleQuotes then "\"" ++ name ++ "\""
  else "'" ++ quotedBytes false bytes ++ "'"

/-- A name in quotes, if it needs them. -/
def quoted (name : String) : String :=
  if needsQuotes (Text.toBytes name).toList then quotedAlways name else name

/-- A name before a colon: in quotes also if it holds one. -/
def quotedBeforeColon (name : String) : String :=
  if name.contains ':' then quotedAlways name else quoted name

/-- A word in quotes, with escapes for what would not be readable in them. -/
def quotedWord (word : String) : String :=
  let shown (byte : UInt8) : String :=
    if byte = 0x27 then "\\'" else if byte = 0x5C then "\\\\"
    else if isPrintable byte then (asciiChar byte).toString else byteEscape byte
  "'" ++ String.join ((Text.toBytes word).toList.map shown) ++ "'"

end CommandShell.Machine.Program
