import CommandShell.Machine.Program.Fraction
set_option autoImplicit false

/-!
# Escapes and formats

The escapes that programs replace in their arguments, and the formats by which they print words and
numbers.
-/

namespace CommandShell.Machine.Program

/-! ## Escapes -/

/-- The value of an octal digit. -/
def octalDigit? (byte : UInt8) : Option Nat :=
  if 0x30 ≤ byte && byte ≤ 0x37 then some (byte.toNat - 0x30) else none

/-- The value of a hexadecimal digit. -/
def hexDigit? (byte : UInt8) : Option Nat :=
  if isDigit byte then some (byte.toNat - 0x30)
  else if 0x61 ≤ toLower byte && toLower byte ≤ 0x66 then some ((toLower byte).toNat - 0x61 + 10)
  else none

/-- The number at the front of some bytes, of at most `limit` digits, and how many it has. -/
def frontNumber (digit : UInt8 → Option Nat) (base : Nat) (limit : Nat) (bytes : List UInt8) :
    Nat × Nat :=
  let digits := (bytes.take limit).map digit |>.takeWhile Option.isSome |>.filterMap id
  (digits.foldl (fun n d => base * n + d) 0, digits.length)

/-- The byte that a letter after a backslash stands for. -/
def letterEscape? (byte : UInt8) : Option UInt8 :=
  match asciiChar byte with
  | 'a' => some 7
  | 'b' => some 8
  | 'f' => some 12
  | 'n' => some 10
  | 'r' => some 13
  | 't' => some 9
  | 'v' => some 11
  | '\\' => some 0x5C
  | _ => none

/-- Which escapes are known besides the letters. -/
structure EscapeRules where
  /-- Octal digits count only after a zero, which is not one of the three. -/
  octalAfterZero : Bool := false
  /-- Octal digits count also without a zero. -/
  octalDirectly : Bool := true
  hexadecimal : Bool := false
  escapeLetter : Bool := false
  /-- `\E` is the same as `\e`. -/
  capitalEscape : Bool := false
  doubleQuote : Bool := false
  /-- `\'` and `\?` stand for the characters after the backslash. -/
  otherMarks : Bool := false
  /-- What the number of a character after `\u` or `\U` stands for, if such escapes are known. -/
  numbered : Option (Nat → List UInt8) := none
  /-- The number of a character has all of its digits. -/
  wantsAllDigits : Bool := false
  /-- An escape without the digits that it needs ends the text. -/
  endsWithoutDigits : Bool := false
  /-- How many binary digits a number with a fraction keeps. -/
  fractionBits : Nat := 64
  /-- Everything after `\c` is left out. -/
  stops : Bool := true
  /-- A word can be printed in quotes. -/
  quotes : Bool := false
  /-- How a word is quoted. -/
  quote : List UInt8 → List UInt8 := id
  /-- Further letters that end a directive. -/
  further : String := ""
  /-- A quote with nothing behind it counts as zero. -/
  takesLoneQuotes : Bool := false
  /-- How a moment is written in a format of its own, if that is known. -/
  moment : Option (Option Int → String → String) := none

/-- What an escape comes to: the bytes, how many bytes it takes up after the backslash, and whether
it ends the text. -/
structure Escaped where
  bytes : List UInt8
  size : Nat
  stops : Bool := false
  /-- The escape does not have the digits that it needs. -/
  lacksDigits : Bool := false

/-- An escape without the digits that it needs, which stands for itself. -/
def EscapeRules.digitless (rules : EscapeRules) (byte : UInt8) : Escaped :=
  { bytes := if rules.endsWithoutDigits then [] else [0x5C, byte], size := 1
    stops := rules.endsWithoutDigits, lacksDigits := true }

/-- The escape after a backslash; none if it is not known. -/
def EscapeRules.read? (rules : EscapeRules) : List UInt8 → Option Escaped
  | [] => none
  | byte :: rest =>
    match letterEscape? byte with
    | some b => some { bytes := [b], size := 1 }
    | none =>
      let c := asciiChar byte
      if c = 'c' && rules.stops then some { bytes := [], size := 1, stops := true }
      else if c = 'e' && rules.escapeLetter || c = 'E' && rules.capitalEscape then
        some { bytes := [27], size := 1 }
      else if c = '"' && rules.doubleQuote || (c = '\'' || c = '?') && rules.otherMarks then
        some { bytes := [byte], size := 1 }
      else if let some numbered := if c = 'u' || c = 'U' then rules.numbered else none then
        let limit := if c = 'u' then 4 else 8
        let (n, size) := frontNumber hexDigit? 16 limit rest
        if size = 0 || (rules.wantsAllDigits && size < limit) then some (rules.digitless byte)
        else some { bytes := numbered n, size := size + 1 }
      else if c = 'x' && rules.hexadecimal then
        let (n, size) := frontNumber hexDigit? 16 2 rest
        if size = 0 then some (rules.digitless byte)
        else some { bytes := [UInt8.ofNat n], size := size + 1 }
      else if c = '0' && rules.octalAfterZero then
        let (n, size) := frontNumber octalDigit? 8 3 rest
        some { bytes := [UInt8.ofNat n], size := size + 1 }
      else if rules.octalDirectly && (octalDigit? byte).isSome then
        let (n, size) := frontNumber octalDigit? 8 3 (byte :: rest)
        some { bytes := [UInt8.ofNat n], size }
      else none

/-- Replaces the escapes of a text, of which the first `skip` bytes belong to an escape before.
Says whether an escape ended it. -/
def EscapeRules.replace (rules : EscapeRules) (skip : Nat) : List UInt8 → List UInt8 × Bool
  | [] => ([], false)
  | byte :: rest =>
    match skip with
    | skip + 1 => rules.replace skip rest
    | 0 =>
      let escaped := if byte = 0x5C then rules.read? rest else none
      match escaped with
      | none =>
        let (bytes, stopped) := rules.replace 0 rest
        (byte :: bytes, stopped)
      | some escaped =>
        if escaped.stops then (escaped.bytes, true)
        else
          let (bytes, stopped) := rules.replace escaped.size rest
          (escaped.bytes ++ bytes, stopped)

/-- The letters of the escapes in a text that do not have the digits that they need. -/
def EscapeRules.lacking (rules : EscapeRules) (skip : Nat) : List UInt8 → List UInt8
  | [] => []
  | byte :: rest =>
    match skip with
    | skip + 1 => rules.lacking skip rest
    | 0 =>
      match (if byte = 0x5C then rules.read? rest else none) with
      | none => rules.lacking 0 rest
      | some escaped =>
        let letters := if escaped.lacksDigits then rest.take 1 else []
        letters ++ if escaped.stops then [] else rules.lacking escaped.size rest

/-! ## Formats -/

/-- A directive of a format. -/
structure Directive where
  flags : List Char
  width : Option Int
  precision : Option Int
  conversion : Char
  /-- The directive as it was written. -/
  text : List UInt8
  /-- The format of its own that the directive has. -/
  inner : String := ""

/-- Bytes filled up to a width: after them if `left`. -/
def fill (width : Nat) (left : Bool) (bytes : List UInt8) : List UInt8 :=
  let blanks := List.replicate (width - bytes.length) (0x20 : UInt8)
  if left then bytes ++ blanks else blanks ++ bytes

namespace Directive

/-- The text stands at the left of its field. -/
def isLeft (directive : Directive) : Bool :=
  directive.flags.contains '-' || directive.width.any (· < 0)

/-- The width of the field. -/
def fieldWidth (directive : Directive) : Nat := (directive.width.map Int.natAbs).getD 0

/-- The precision, where a negative one is none. -/
def precision? (directive : Directive) : Option Nat :=
  directive.precision.bind fun n => if n < 0 then none else some n.toNat

/-- A word in its field. -/
def showBytes (directive : Directive) (bytes : List UInt8) : List UInt8 :=
  let bytes := match directive.precision? with
    | some precision => bytes.take precision
    | none => bytes
  fill directive.fieldWidth directive.isLeft bytes

/-- The digits of a number. -/
def digitsOf (base : Nat) (upper : Bool) (n : Nat) : List Char :=
  let digits := Nat.toDigits base n
  if upper then digits.map Char.toUpper else digits

/-- A sign as the flags ask for it. -/
def signOf (directive : Directive) (isNegative : Bool) : List Char :=
  if isNegative then ['-']
  else if directive.flags.contains '+' then ['+']
  else if directive.flags.contains ' ' then [' ']
  else []

/-- Digits in their field, after what comes before them; zeros fill the field if `zeros`. -/
def showDigits (directive : Directive) (front digits : List Char) (zeros : Bool) : List UInt8 :=
  let count :=
    if zeros && directive.flags.contains '0' && !directive.isLeft then
      directive.fieldWidth - front.length - digits.length
    else 0
  let chars := front ++ List.replicate count '0' ++ digits
  fill directive.fieldWidth directive.isLeft (chars.map fun c => UInt8.ofNat c.toNat)

/-- A number with a fraction, of which so many binary digits have been kept, in its field. -/
def showFraction (directive : Directive) (bits : Nat) (number : Fraction) : List UInt8 :=
  let text := number.shown bits directive.conversion.toLower directive.precision?
    (directive.flags.contains '#')
  let text := if directive.conversion.isUpper then text.map Char.toUpper else text
  let sign := directive.signOf number.isNegative
  if directive.conversion.toLower = 'a' then
    directive.showDigits (sign ++ text.toList.take 2) (text.toList.drop 2) true
  else directive.showDigits sign text.toList true

/-- A number in its field.  Numbers without sign wrap around. -/
def showInteger (directive : Directive) (value : Int) : List UInt8 :=
  let isSigned := directive.conversion = 'd' || directive.conversion = 'i'
  let magnitude : Nat :=
    if isSigned then value.natAbs else (value % 18446744073709551616).toNat
  let base := match directive.conversion with
    | 'o' => 8
    | 'x' | 'X' => 16
    | _ => 10
  let digits := digitsOf base (directive.conversion = 'X') magnitude
  let digits := if directive.precision? = some 0 && magnitude = 0 then [] else digits
  let digits := List.replicate (directive.precision?.getD 0 - digits.length) '0' ++ digits
  let alternative := directive.flags.contains '#'
  let digits :=
    if alternative && base = 8 && digits.head? ≠ some '0' then '0' :: digits else digits
  let mark : List Char :=
    if alternative && base = 16 && magnitude ≠ 0 then ['0', directive.conversion] else []
  let sign := if isSigned then directive.signOf (value < 0) else []
  directive.showDigits (sign ++ mark) digits directive.precision?.isNone

end Directive

/-- A piece of a format. -/
inductive FormatPiece where
  | plain (bytes : List UInt8)
  /-- The rest of the output is left out. -/
  | stop
  /-- An escape that does not have the digits that it needs. -/
  | lacking (letter : UInt8)
  /-- A directive whose width or precision may stand for further arguments. -/
  | directive (directive : Directive) (starWidth starPrecision : Bool)
  | invalid (text : List UInt8)

/-- A number at the front of some bytes. -/
def frontDecimal (bytes : List UInt8) : Option Int × List UInt8 :=
  let digits := bytes.takeWhile isDigit
  let value : Nat := digits.foldl (fun n b => 10 * n + (b.toNat - 0x30)) 0
  (if digits.isEmpty then none else some (value : Int), bytes.drop digits.length)

/-- The format in parentheses at the front of some bytes, and what follows it and the letter `T`. -/
def innerFormat? : (depth : Nat) → List UInt8 → Option (List UInt8 × List UInt8)
  | _, [] => none
  | 0, 0x29 :: 0x54 :: rest => some ([], rest)
  | 0, 0x29 :: _ => none
  | depth, byte :: rest =>
    let depth := if byte = 0x28 then depth + 1 else if byte = 0x29 then depth - 1 else depth
    (innerFormat? depth rest).map fun (inner, rest) => (byte :: inner, rest)

/-- The directive after a percent sign, and the bytes after it; one that quotes a word is known only
if `quotes`, and one with a format of its own if `hasInner`. -/
def readDirective (quotes : Bool) (bytes : List UInt8) (further : String := "")
    (hasInner : Bool := false) : FormatPiece × List UInt8 :=
  let isFlag (byte : UInt8) : Bool := "-+ #0'".contains (asciiChar byte)
  let isModifier (byte : UInt8) : Bool := "hljztL".contains (asciiChar byte)
  let flags := bytes.takeWhile isFlag
  let rest := bytes.drop flags.length
  let (starWidth, width, rest) : Bool × Option Int × List UInt8 :=
    match rest with
    | 0x2A :: rest => (true, none, rest)
    | rest =>
      let (width, rest) := frontDecimal rest
      (false, width, rest)
  let (starPrecision, precision, rest) : Bool × Option Int × List UInt8 :=
    match rest with
    | 0x2E :: 0x2A :: rest => (true, none, rest)
    | 0x2E :: rest =>
      let (precision, rest) := frontDecimal rest
      (false, some (precision.getD 0), rest)
    | rest => (false, none, rest)
  let rest := rest.dropWhile isModifier
  let inner? := match rest with
    | 0x28 :: rest => if hasInner then innerFormat? 0 rest else none
    | _ => none
  match rest, inner? with
  | [], _ => (.invalid (0x25 :: bytes), [])
  | _, some (inner, rest) =>
    let text := 0x25 :: bytes.take (bytes.length - rest.length)
    (.directive ⟨flags.map asciiChar, width, precision, 'T', text, Text.ofBytes (pack inner)⟩
      starWidth starPrecision, rest)
  | conversion :: rest, none =>
    let text := 0x25 :: bytes.take (bytes.length - rest.length)
    if "diouxXcsbaAeEfFgG".contains (asciiChar conversion)
        || (quotes && text = [0x25, 0x71]) || further.contains (asciiChar conversion) then
      (.directive ⟨flags.map asciiChar, width, precision, asciiChar conversion, text, ""⟩
        starWidth starPrecision, rest)
    else (.invalid text, rest)

/-- Cuts a format into pieces. -/
def formatPieces (rules : EscapeRules) : (fuel : Nat) → List UInt8 → List FormatPiece
  | 0, _ => []
  | _, [] => []
  | fuel + 1, 0x25 :: 0x25 :: rest => .plain [0x25] :: formatPieces rules fuel rest
  | fuel + 1, 0x25 :: rest =>
    let (piece, rest) := readDirective rules.quotes rest rules.further rules.moment.isSome
    piece :: formatPieces rules fuel rest
  | fuel + 1, byte :: rest =>
    match (if byte = 0x5C then rules.read? rest else none) with
    | none => .plain [byte] :: formatPieces rules fuel rest
    | some escaped =>
      let lacking := if escaped.lacksDigits then (rest.take 1).map FormatPiece.lacking else []
      if escaped.stops then lacking ++ [.stop]
      else lacking ++ .plain escaped.bytes :: formatPieces rules fuel (rest.drop escaped.size)

/-- What is wrong with an argument that should be a number. -/
inductive NumberFault where
  | notNumeric
  | notAllNumeric
  | outOfRange
  deriving DecidableEq

/-- A byte that is a quote. -/
def isQuote (byte : UInt8) : Bool := byte = 0x27 || byte = 0x22

/-- The value of a binary digit. -/
def binaryDigit? (byte : UInt8) : Option Nat :=
  if byte = 0x30 then some 0 else if byte = 0x31 then some 1 else none

/-- The value of a decimal digit. -/
def decimalDigit? (byte : UInt8) : Option Nat :=
  if isDigit byte then some (byte.toNat - 0x30) else none

/-- The number that an argument stands for: decimal, octal after `0`, hexadecimal after `0x`, binary
after `0b`, or the code of the character after a quote. -/
def readInteger (word : List UInt8) (isSigned : Bool) : Int × Option NumberFault :=
  match word with
  | quote :: byte :: _ => if isQuote quote then ((byte.toNat : Int), none) else number
  | _ => number
where
  /-- The number at the front of the argument. -/
  number : Int × Option NumberFault :=
    let body := word.dropWhile isSpace
    let (negative, body) : Bool × List UInt8 := match body with
      | 0x2D :: body => (true, body)
      | 0x2B :: body => (false, body)
      | body => (false, body)
    let hasMark (letter : UInt8) (digit? : UInt8 → Option Nat) : Bool := match body with
      | 0x30 :: x :: digit :: _ => toLower x = letter && (digit? digit).isSome
      | _ => false
    let marked (digit? : UInt8 → Option Nat) (base : Nat) : Nat × Nat :=
      let (value, size) := frontNumber digit? base body.length (body.drop 2)
      (value, size + 2)
    let (value, used) : Nat × Nat :=
      if hasMark 0x78 hexDigit? then marked hexDigit? 16
      else if hasMark 0x62 binaryDigit? then marked binaryDigit? 2
      else if body.head? = some 0x30 then frontNumber octalDigit? 8 body.length body
      else frontNumber decimalDigit? 10 body.length body
    let signed : Int := if negative then -(value : Int) else value
    let low : Int := if isSigned then -9223372036854775808 else -18446744073709551615
    let high : Int := if isSigned then 9223372036854775807 else 18446744073709551615
    if used = 0 then (0, if word.isEmpty then none else some .notNumeric)
    else if signed < low then (if isSigned then low else high, some .outOfRange)
    else if signed > high then (high, some .outOfRange)
    else (signed, if used < body.length then some .notAllNumeric else none)

/-- What printing by a format comes to. -/
structure Printed where
  /-- The output, the last piece first. -/
  output : List (List UInt8) := []
  /-- Arguments that are no numbers, with what is wrong, the last one first. -/
  faults : List (String × NumberFault) := []
  /-- The arguments that are left. -/
  arguments : List String
  stopped : Bool := false
  /-- A directive that is not known. -/
  invalid : Option (List UInt8) := none
  /-- The letters of escapes that do not have the digits that they need, the last one first. -/
  lacking : List UInt8 := []
  /-- The arguments that name where the size of the output so far is to be kept, with that size. -/
  sizes : List (String × Nat) := []

namespace Printed

/-- The next argument. -/
def next (printed : Printed) : String × Printed :=
  (printed.arguments.head?.getD "", { printed with arguments := printed.arguments.drop 1 })

/-- The next argument as a number. -/
def nextInteger (printed : Printed) (rules : EscapeRules) (isSigned : Bool) : Int × Printed :=
  let isMissing := printed.arguments.isEmpty
  let (word, printed) := printed.next
  let bytes := (Text.toBytes word).toList
  if isMissing || (rules.takesLoneQuotes && bytes.length = 1 && bytes.all isQuote) then
    (0, printed)
  else
    let (value, fault) := readInteger bytes isSigned
    (value, { printed with
      faults := (fault.map fun fault => (word, fault)).toList ++ printed.faults })

/-- The next argument as a number with a fraction. -/
def nextFraction (printed : Printed) (rules : EscapeRules) : Fraction × Printed :=
  let isMissing := printed.arguments.isEmpty
  let (word, printed) := printed.next
  let bytes := (Text.toBytes word).toList
  let withFault (fault : Option NumberFault) : Printed :=
    { printed with faults := (fault.map fun fault => (word, fault)).toList ++ printed.faults }
  let startsQuoted := bytes.head?.any isQuote
  let isQuoted := startsQuoted && bytes.length > 1
  if isMissing || (startsQuoted && !isQuoted && rules.takesLoneQuotes) then (.ofInt 0, printed)
  else if isQuoted then (.ofInt (readInteger bytes true).1, printed)
  else
    match Fraction.read? bytes with
    | none => (.ofInt 0, withFault (if bytes.isEmpty then none else some .notNumeric))
    | some (number, rest) =>
      let fault? := if rest.isEmpty then none else some .notAllNumeric
      (number.keepBits rules.fractionBits, withFault fault?)

/-- More output. -/
def add (printed : Printed) (bytes : List UInt8) : Printed :=
  { printed with output := bytes :: printed.output }

/-- Prints one piece of a format; `rules` are those for escapes in arguments. -/
def piece (rules : EscapeRules) (printed : Printed) (piece : FormatPiece) : Printed :=
  if printed.stopped || printed.invalid.isSome then printed
  else
    match piece with
    | .plain bytes => printed.add bytes
    | .stop => { printed with stopped := true }
    | .lacking letter => { printed with lacking := letter :: printed.lacking }
    | .invalid text => { printed with invalid := some text }
    | .directive directive starWidth starPrecision =>
      let (directive, printed) :=
        if starWidth then
          let (width, printed) := printed.nextInteger rules true
          ({ directive with width := some width }, printed)
        else (directive, printed)
      let (directive, printed) :=
        if starPrecision then
          let (precision, printed) := printed.nextInteger rules true
          ({ directive with precision := some precision }, printed)
        else (directive, printed)
      match directive.conversion with
      | 's' =>
        let (word, printed) := printed.next
        printed.add (directive.showBytes (Text.toBytes word).toList)
      | 'b' =>
        let (word, printed) := printed.next
        let text := (Text.toBytes word).toList
        let (bytes, stopped) := rules.replace 0 text
        { printed.add (directive.showBytes bytes) with
          stopped, lacking := (rules.lacking 0 text).reverse ++ printed.lacking }
      | 'c' =>
        let (word, printed) := printed.next
        let byte := (Text.toBytes word).toList.head?.getD 0
        printed.add (fill directive.fieldWidth directive.isLeft [byte])
      | 'q' =>
        let (word, printed) := printed.next
        printed.add (directive.showBytes (rules.quote (Text.toBytes word).toList))
      | 'Q' =>
        let (word, printed) := printed.next
        let bytes := (Text.toBytes word).toList
        let bytes := (directive.precision?.map bytes.take).getD bytes
        printed.add (fill directive.fieldWidth directive.isLeft (rules.quote bytes))
      | 'n' =>
        let (word, printed) := printed.next
        { printed with sizes := (word, printed.output.flatten.length) :: printed.sizes }
      | 'T' =>
        let isMissing := printed.arguments.isEmpty
        let (seconds, printed) := printed.nextInteger rules true
        let write := rules.moment.getD fun _ _ => ""
        let text := write (if isMissing then none else some seconds)
          (if directive.inner = "" then "%X" else directive.inner)
        printed.add (directive.showBytes (Text.toBytes text).toList)
      | 'a' | 'A' | 'e' | 'E' | 'f' | 'F' | 'g' | 'G' =>
        let (number, printed) := printed.nextFraction rules
        printed.add (directive.showFraction rules.fractionBits number)
      | conversion =>
        let (value, printed) := printed.nextInteger rules (conversion = 'd' || conversion = 'i')
        printed.add (directive.showInteger value)

/-- Prints a format again and again while it takes arguments and some are left. -/
def all (rules : EscapeRules) (pieces : List FormatPiece) : (fuel : Nat) → Printed → Printed
  | 0, printed => printed
  | fuel + 1, printed =>
    let before := printed.arguments.length
    let printed := pieces.foldl (piece rules) printed
    if printed.stopped || printed.invalid.isSome || printed.arguments.isEmpty
        || printed.arguments.length = before then printed
    else all rules pieces fuel printed

/-- The output in order. -/
def bytes (printed : Printed) : ByteArray := pack printed.output.reverse.flatten

end Printed

/-- Prints arguments by a format. -/
def printByFormat (formatRules argumentRules : EscapeRules) (format : String)
    (arguments : List String) : Printed :=
  let bytes := (Text.toBytes format).toList
  Printed.all argumentRules (formatPieces formatRules (bytes.length + 1) bytes)
    (arguments.length + 1) { arguments }

end CommandShell.Machine.Program
