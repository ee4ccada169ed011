import CommandShell.Machine.Program.Escape
import CommandShell.Path
set_option autoImplicit false

/-!
# Programs that write what they are told

Their output depends on their arguments and their environment alone.
-/

namespace CommandShell.Machine.Program

/-! ## Words -/

/-- The escapes of `echo -e`. -/
def echoRules : EscapeRules :=
  { octalAfterZero := true, hexadecimal := true, escapeLetter := true }

/-- A flag of `echo`. -/
def isEchoFlag (word : String) : Bool :=
  match word.toList with
  | '-' :: flags => !flags.isEmpty && flags.all fun c => c = 'n' || c = 'e' || c = 'E'
  | _ => false

/-- Writes its arguments. -/
def echo : Program := fun image => do
  let flags := (image.words.takeWhile isEchoFlag).flatMap fun word => word.toList.drop 1
  let text := (Text.toBytes (" ".intercalate (image.words.dropWhile isEchoFlag))).toList
  let escapes := (flags.reverse.find? fun c => c = 'e' || c = 'E') = some 'e'
  let (bytes, stopped) := if escapes then echoRules.replace 0 text else (text, false)
  put image.name (pack (if stopped || flags.contains 'n' then bytes else bytes ++ [lineFeed]))
  return 0

/-- A character by its number: beyond the first ones the number is written. -/
def writtenNumber (n : Nat) : List UInt8 :=
  let digits (width : Nat) : String :=
    let digits := (Nat.toDigits 16 n).map Char.toUpper
    String.ofList (List.replicate (width - digits.length) '0' ++ digits)
  if n < 0x80 then [UInt8.ofNat n]
  else
    let text := if n < 0x10000 then "\\u" ++ digits 4 else "\\U" ++ digits 8
    (Text.toBytes text).toList

/-- The escapes in the format of `printf`. -/
def formatRules : EscapeRules :=
  { hexadecimal := true, escapeLetter := true, doubleQuote := true, quotes := true
    numbered := some writtenNumber, wantsAllDigits := true, endsWithoutDigits := true
    quote := fun bytes => (Text.toBytes (quoted (Text.ofBytes (pack bytes)))).toList }

/-- The escapes in the arguments of `printf`. -/
def argumentRules : EscapeRules := { formatRules with octalAfterZero := true }

/-- What is wrong with a number, in words. -/
def NumberFault.message : NumberFault → String
  | notNumeric => "expected a numeric value"
  | notAllNumeric => "value not completely converted"
  | outOfRange => "Numerical result out of range"

/-- Writes its arguments as a format says. -/
def printf : Program := fun image => do
  let name := image.name
  let words := match image.words with
    | "--" :: rest => rest
    | words => words
  match words with
  | [] => missingOperand name
  | format :: arguments =>
    let printed := printByFormat formatRules argumentRules format arguments
    for (word, fault) in printed.faults.reverse do
      complain name (quotedWord word ++ ": " ++ fault.message)
    put name printed.bytes
    if !printed.lacking.isEmpty then
      complain name "missing hexadecimal number in escape"
      return 1
    if let some text := printed.invalid then
      complain name (Text.ofBytes (pack text) ++ ": invalid conversion specification")
      return 1
    if let excess :: _ := printed.arguments then
      if !printed.stopped then
        complain name ("warning: ignoring excess arguments, starting with " ++ quotedWord excess)
    return codeOf printed.faults.isEmpty

/-- Writes a block again and again. -/
def putForever (name : String) (block : ByteArray) : (fuel : Nat) → Routine Unit
  | 0 => return
  | fuel + 1 => do
    put name block
    putForever name block fuel

/-- Writes a line again and again. -/
def yes : Program := fun image => do
  let text := if image.words.isEmpty then "y" else " ".intercalate image.words
  let line := Text.toBytes (text ++ "\n")
  let block := (List.replicate (blockSize / line.size + 1) line).foldl (· ++ ·) .empty
  putForever image.name block budget
  return 1

/-! ## Numbers -/

/-- A decimal number: `units` of the size that `places` decimal places give. -/
structure Decimal where
  units : Int
  places : Nat

namespace Decimal

/-- Reads a decimal number. -/
def read? (word : String) : Option Decimal :=
  let (negative, body) : Bool × List Char := match word.toList with
    | '-' :: rest => (true, rest)
    | '+' :: rest => (false, rest)
    | cs => (false, cs)
  let whole := body.takeWhile Char.isDigit
  let fraction? : Option (List Char) := match body.drop whole.length with
    | [] => some []
    | '.' :: rest => if rest.all Char.isDigit then some rest else none
    | _ => none
  match fraction? with
  | none => none
  | some fraction =>
    if whole.isEmpty && fraction.isEmpty then none
    else
      let n : Nat := (whole ++ fraction).foldl (fun n c => 10 * n + (c.toNat - 48)) 0
      some ⟨if negative then -(n : Int) else n, fraction.length⟩

/-- The units of a number with that many places. -/
def scaled (decimal : Decimal) (places : Nat) : Int :=
  decimal.units * ((Nat.pow 10 (places - decimal.places) : Nat) : Int)

/-- Units as text, with at least so many characters. -/
def render (units : Int) (places width : Nat) : String :=
  let digits := (toString units.natAbs).toList
  let digits := List.replicate (places + 1 - digits.length) '0' ++ digits
  let whole := digits.take (digits.length - places)
  let fraction := digits.drop (digits.length - places)
  let sign := if units < 0 then ['-'] else []
  let body := whole ++ (if places = 0 then [] else '.' :: fraction)
  String.ofList (sign ++ List.replicate (width - sign.length - body.length) '0' ++ body)

end Decimal

/-- The options of `seq`. -/
def seqOptions : OptionTable :=
  { letters := OptionTable.valued "fs" ++ OptionTable.flags "w"
    words := [("format", .required, 'f'), ("separator", .required, 's'),
      ("equal-width", .none, 'w')]
    mixed := false }

/-- A word that looks like a negative number. -/
def looksNegative (word : String) : Bool :=
  match word.toList with
  | '-' :: c :: _ => c.isDigit || c = '.'
  | _ => false

/-- Writes numbers in order. -/
def seq : Program := fun image => do
  let name := image.name
  let front := image.words.takeWhile fun word => word.startsWith "-" && !looksNegative word
  let arguments := if image.words[front.length]?.any looksNegative then
      front ++ "--" :: image.words.drop front.length
    else image.words
  let parsed ← options seqOptions name arguments
  if parsed.operands.isEmpty then missingOperand name
  if let some extra := parsed.operands[3]? then extraOperand name extra
  let numbers ← parsed.operands.mapM fun word => do
    match Decimal.read? word with
    | some number => pure number
    | none =>
      complainOfUse name ("invalid floating point argument: " ++ quotedWord word)
      quit 1
  let one : Decimal := ⟨1, 0⟩
  let (first, step, last) := match numbers with
    | [last] => (one, one, last)
    | [first, last] => (first, one, last)
    | first :: step :: last :: _ => (first, step, last)
    | [] => (one, one, ⟨0, 0⟩)
  if step.units = 0 then
    complainOfUse name ("invalid Zero increment value: "
      ++ quotedWord ((parsed.operands[1]?).getD ""))
    quit 1
  let places := max first.places step.places
  let scale := max places last.places
  let low := first.scaled scale
  let stride := step.scaled scale
  let high := last.scaled scale
  let count : Nat :=
    if stride > 0 then (if high < low then 0 else ((high - low) / stride).toNat + 1)
    else if high > low then 0 else ((low - high) / (-stride)).toNat + 1
  let shown (i : Nat) (width : Nat) : String :=
    Decimal.render ((low + stride * i) / ((Nat.pow 10 (scale - places) : Nat) : Int)) places width
  let width :=
    if parsed.has 'w' then max (shown 0 0).length (shown (count - 1) 0).length else 0
  let separator := (parsed.value? 's').getD "\n"
  if count > 0 then
    putText name (separator.intercalate ((List.range count).map fun i => shown i width) ++ "\n")
  return 0

/-! ## The system -/

/-- Tells which terminal standard input is: none. -/
def tty : Program := fun image => do
  let parsed ← options
    { letters := OptionTable.flags "s", words := [("silent", .none, 's'), ("quiet", .none, 's')] }
    image.name image.words 2
  if let some extra := parsed.operands.head? then extraOperand image.name extra 2
  if !parsed.has 's' then putText image.name "not a tty\n"
  return 1

/-- Tells the name of the system. -/
def uname : Program := fun image => do
  let parsed ← options
    { letters := OptionTable.flags "so"
      words := [("kernel-name", .none, 's'), ("operating-system", .none, 'o')] }
    image.name image.words
  if let some extra := parsed.operands.head? then extraOperand image.name extra
  let names := (if parsed.has 's' || !parsed.has 'o' then ["Linux"] else [])
    ++ (if parsed.has 'o' then ["GNU/Linux"] else [])
  putText image.name (" ".intercalate names ++ "\n")
  return 0

/-! ## Time -/

/-- Milliseconds that an argument of `sleep` stands for. -/
def milliseconds? (word : String) : Option Nat :=
  let (body, unit) : String × Nat := match word.toList.getLast? with
    | some 's' => ((word.dropEnd 1).toString, 1)
    | some 'm' => ((word.dropEnd 1).toString, 60)
    | some 'h' => ((word.dropEnd 1).toString, 3600)
    | some 'd' => ((word.dropEnd 1).toString, 86400)
    | _ => (word, 1)
  match Decimal.read? body with
  | some ⟨units, places⟩ =>
    if units < 0 || body.startsWith "-" then none
    else some (units.toNat * unit * 1000 / Nat.pow 10 places)
  | none => none

/-- Waits. -/
def sleep : Program := fun image => do
  let parsed ← options { letters := [] } image.name image.words
  if parsed.operands.isEmpty then missingOperand image.name
  let mut total := 0
  let mut succeeded := true
  for word in parsed.operands do
    match milliseconds? word with
    | some time => total := total + time
    | none =>
      complain image.name ("invalid time interval " ++ quotedWord word)
      succeeded := false
  if !succeeded then
    let _ ← perform (.write standardError
      (Text.toBytes ("Try '" ++ image.name ++ " --help' for more information.\n")))
    return 1
  perform (.sleep total)
  return 0

/-! ## Names -/

/-- The options of `basename`. -/
def basenameOptions : OptionTable :=
  { letters := OptionTable.flags "az" ++ OptionTable.valued "s"
    words := [("multiple", .none, 'a'), ("suffix", .required, 's'), ("zero", .none, 'z')]
    mixed := false }

/-- The last name of a path without a suffix, unless nothing else is left. -/
def baseName (suffix path : String) : String :=
  let name := Path.lastName path
  if suffix ≠ "" && name ≠ suffix && name.endsWith suffix && name ≠ "/" then
    (name.dropEnd suffix.length).toString
  else name

/-- Writes the last names of paths. -/
def basename : Program := fun image => do
  let name := image.name
  let parsed ← options basenameOptions name image.words
  let several := parsed.has 'a' || parsed.has 's'
  let ending := if parsed.has 'z' then "\u0000" else "\n"
  match parsed.operands with
  | [] => missingOperand name
  | path :: rest =>
    if several then
      let suffix := (parsed.value? 's').getD ""
      putText name (String.join (parsed.operands.map fun path => baseName suffix path ++ ending))
    else
      if let some extra := rest[1]? then extraOperand name extra
      putText name (baseName (rest.head?.getD "") path ++ ending)
    return 0

/-- The part of a path before its last name. -/
def directoryName (path : String) : String :=
  let path := Path.withoutEndSlashes path
  if !path.contains '/' then "."
  else if path = "/" then "/"
  else
    let front := String.ofList (path.toList.reverse.dropWhile (· ≠ '/')).reverse
    Path.withoutEndSlashes front

/-- Writes the directories of paths. -/
def dirname : Program := fun image => do
  let parsed ← options { letters := OptionTable.flags "z", words := [("zero", .none, 'z')] }
    image.name image.words
  if parsed.operands.isEmpty then missingOperand image.name
  let ending := if parsed.has 'z' then "\u0000" else "\n"
  putText image.name (String.join (parsed.operands.map fun path => directoryName path ++ ending))
  return 0

/-- Writes the path of the working directory. -/
def pwd : Program := fun image => do
  putText image.name ((← perform .workingPath) ++ "\n")
  return 0

end CommandShell.Machine.Program
