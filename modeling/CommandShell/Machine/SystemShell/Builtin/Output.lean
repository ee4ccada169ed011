import CommandShell.Machine.Program.Calendar
import CommandShell.Machine.Program.Escape
import CommandShell.Machine.SystemShell.Assigning
import CommandShell.Machine.SystemShell.Builtin.Basic
set_option autoImplicit false

/-!
# Builtin commands that write

How the arguments of `echo` and `printf` are written in either dialect.
-/

namespace CommandShell.Machine.SystemShell

/-! ## Words -/

/-- The escapes that the `echo` of the plain dialect knows. -/
def echoRules : Program.EscapeRules :=
  { octalAfterZero := true, fractionBits := 53, takesLoneQuotes := true }

/-- Writes words with their escapes replaced. -/
def echoWith (rules : Program.EscapeRules) (newline : Bool) (words : List String) : Eval Nat := do
  let (bytes, stopped) := rules.replace 0 (Text.toBytes (" ".intercalate words)).toList
  putBytes (Program.pack (if newline && !stopped then bytes ++ [Program.lineFeed] else bytes))

/-- Writes its arguments. -/
def echo : Builtin := fun _ arguments => do
  let (newline, words) := match arguments with
    | "-n" :: rest => (false, rest)
    | words => (true, words)
  echoWith echoRules newline words

/-- The escapes of the extended dialect. -/
def extendedRules : Program.EscapeRules :=
  { hexadecimal := true, escapeLetter := true, capitalEscape := true
    numbered := some Quoting.numberedChar }

/-- The escapes that the `echo` of the extended dialect knows. -/
def extendedEchoRules : Program.EscapeRules :=
  { extendedRules with octalAfterZero := true, octalDirectly := false }

/-- The options of `echo` at the front of its arguments: whether there is a line feed and whether
escapes are replaced.  A word with other letters is no option. -/
def echoOptions (newline escapes : Bool) : List String → Bool × Bool × List String
  | [] => (newline, escapes, [])
  | word :: rest =>
    match word.toList with
    | '-' :: c :: cs =>
      if (c :: cs).all (fun letter => "neE".contains letter) then
        let escapes := (c :: cs).foldl (fun escapes letter =>
          if letter = 'e' then true else if letter = 'E' then false else escapes) escapes
        echoOptions (newline && !(c :: cs).contains 'n') escapes rest
      else (newline, escapes, word :: rest)
    | _ => (newline, escapes, word :: rest)

/-- Writes its arguments, in the extended dialect. -/
def extendedEcho : Builtin := fun _ arguments => do
  let (newline, escapes, words) := echoOptions true (← hasFeature "xpg_echo") arguments
  if escapes then echoWith extendedEchoRules newline words
  else
    let text := " ".intercalate words
    putText (if newline then text ++ "\n" else text)

/-! ## Formats -/

/-- The escapes in the format of `printf`. -/
def formatRules : Program.EscapeRules := { stops := false }

/-- What is wrong with a number, in words. -/
def numberFault : Program.NumberFault → String
  | .notNumeric => "expected numeric value"
  | .notAllNumeric => "not completely converted"
  | .outOfRange => "Numerical result out of range"

/-- A directive that is not known up to its letter, and the letter if there is one. -/
def splitDirective (text : List UInt8) : List UInt8 × Option UInt8 :=
  let body := (text.drop 1).dropWhile fun b => "#-+ 0123456789.*".contains (Program.asciiChar b)
  (text.take (text.length - body.length), body.head?)

/-- The complaint about a directive that is not known. -/
def directiveFault (text : List UInt8) : String :=
  match splitDirective text with
  | (_, none) => "missing format character"
  | (front, some letter) => Text.ofBytes (Program.pack (front ++ [letter])) ++ ": invalid directive"

/-- Writes its arguments as a format says. -/
def printf : Builtin := fun _ arguments => do
  match ← withoutOptions arguments with
  | [] => fail "usage: printf format [arg ...]"
  | format :: words =>
    let printed := Program.printByFormat formatRules echoRules format words
    for (word, fault) in printed.faults.reverse do
      warn (word ++ ": " ++ numberFault fault)
    let status ← putBytes printed.bytes
    match printed.invalid with
    | some text => fail (directiveFault text)
    | none => return if printed.faults.isEmpty then status else 1

/-- A text as one word of the extended dialect. -/
def quoteBytes (bytes : List UInt8) : List UInt8 :=
  (Text.toBytes (Quoting.asWord (Text.ofBytes (Program.pack bytes)))).toList

/-- A moment in a format of its own; the present one counts as the beginning of 1970. -/
def showMoment (seconds : Option Int) (format : String) : String :=
  (Program.Calendar.Moment.ofSeconds (seconds.getD 0)).format format

/-- The escapes and directives in the format of the extended `printf`. -/
def extendedFormatRules : Program.EscapeRules :=
  { extendedRules with
    stops := false, doubleQuote := true, otherMarks := true, further := "qQn"
    moment := some showMoment }

/-- The escapes and directives for the arguments of the extended `printf`. -/
def extendedArgumentRules : Program.EscapeRules :=
  { extendedRules with
    octalAfterZero := true, takesLoneQuotes := true, quote := quoteBytes
    moment := some showMoment }

/-- Complains about an argument of the extended `printf` that is no number; the result says whether
that is a failure. -/
def warnOfNumber (word : String) (fault : Program.NumberFault) : Eval Bool := do
  if fault = .outOfRange then
    warn ("warning: " ++ word ++ ": Numerical result out of range")
    return false
  let kind := match word.toList with
    | '0' :: 'x' :: _ => "hex "
    | '0' :: c :: _ => if c.isDigit then "octal " else ""
    | _ => ""
  warn (word ++ ": invalid " ++ kind ++ "number")
  return true

/-- The complaint of the extended `printf` about a directive that is not known. -/
def extendedDirectiveFault (text : List UInt8) : String :=
  match splitDirective text with
  | (_, none) => "\u0060" ++ Text.ofBytes (Program.pack text) ++ "': missing format character"
  | (_, some letter) =>
    if "hljztL".contains (Program.asciiChar letter) && text.getLast? = some letter then
      "\u0060" ++ Text.ofBytes (Program.pack text) ++ "': missing format character"
    else
      let last := (text.getLast?.getD letter)
      "\u0060" ++ Text.ofBytes (Program.pack [last]) ++ "': invalid format character"

/-- How `printf` is used. -/
def printfUsage : String := "printf [-v var] format [arguments]"

/-- Writes its arguments as a format says, or puts them into a variable. -/
def extendedPrintf : Builtin := fun _ arguments => do
  let (options, words) ← extendedOptions printfUsage "v:" arguments
  let target := optionValue? options 'v'
  if let some name := target then
    if !isElementName name then refuseCommand ("\u0060" ++ name ++ "': not a valid identifier") 2
  match words with
  | [] => refuseUse printfUsage
  | format :: words =>
    let printed := Program.printByFormat extendedFormatRules extendedArgumentRules format words
    for letter in printed.lacking.reverse do
      let kind := if letter = 0x78 then "hex" else "unicode"
      warn ("missing " ++ kind ++ " digit for \\" ++ (Program.asciiChar letter).toString)
    let mut failed := false
    for (word, fault) in printed.faults.reverse do
      if ← warnOfNumber word fault then failed := true
    for (name, size) in printed.sizes.reverse do
      if isElementName name then assignNamed name (toString size)
    let status ←
      match target with
      | some name => do
        let bytes := printed.bytes.toList.takeWhile (· ≠ 0)
        assignNamed name (Text.ofBytes (Program.pack bytes))
        pure 0
      | none => putBytes printed.bytes
    match printed.invalid with
    | some text => refuseCommand (extendedDirectiveFault text)
    | none => return if failed then 1 else status

end CommandShell.Machine.SystemShell
