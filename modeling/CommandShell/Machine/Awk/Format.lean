import CommandShell.Machine.Awk.Value
set_option autoImplicit false

/-!
# Formats of record programs

A format is copied, but each of its directives is replaced by the next value.  There must be a value
for each directive; values that are left over are not printed.
-/

namespace CommandShell.Machine.Awk

open Program (Directive)

/-- Why values cannot be printed by a format. -/
inductive FormatFault where
  | tooFewValues
  /-- A directive is not known; they are counted from 1. -/
  | badDirective (number : Nat)

/-- The wording of a fault in the format of a function. -/
def FormatFault.message (function : String) (format : ByteArray) : FormatFault → String
  | tooFewValues =>
    "not enough arguments passed to " ++ function ++ "(\"" ++ Text.ofBytes format ++ "\")"
  | badDirective number =>
    "improper conversion(number " ++ toString number ++ ") in " ++ function ++ "(\""
      ++ Text.ofBytes format ++ "\")"

/-- A width or a precision: a number in the format, or the next value. -/
inductive Extent where
  | missing
  | written (n : Int)
  | given

/-- A width or a precision at the front of some bytes. -/
def readExtent (bytes : List UInt8) : Extent × List UInt8 :=
  match bytes with
  | 0x2A :: rest => (.given, rest)
  | bytes =>
    match Program.frontDecimal bytes with
    | (some n, rest) => (.written n, rest)
    | (none, rest) => (.missing, rest)

/-- The number of an extent, and the values that are left. -/
def Extent.take (extent : Extent) (values : List Value) : Option Int × List Value :=
  match extent, values with
  | .missing, values => (none, values)
  | .written n, values => (some n, values)
  | .given, value :: values => ((toInt? value.toNumber).map id, values)
  | .given, [] => (none, [])

/-- A value as one byte: that with its number, or the first of its text. -/
def oneByte (format : ByteArray) (value : Value) : List UInt8 :=
  match value, value.number? with
  | .unset, _ => [0]
  | .text bytes, _ =>
    if looksNumeric bytes.toList then numbered (frontNumber bytes.toList)
    else [bytes.toList.head?.getD 0]
  | _, some n => numbered n
  | value, none => [(value.toText format).toList.head?.getD 0]
where
  /-- The byte with a number. -/
  numbered (n : Float) : List UInt8 := [UInt8.ofNat ((signedOf n) % 256).toNat]

/-- A value by a directive; none if the directive is not known. -/
def showValue (format : ByteArray) (directive : Directive) (value : Value) : Option (List UInt8) :=
  match directive.conversion with
  | 's' => some (directive.showBytes (value.toText format).toList)
  | 'c' =>
    some (Program.fill directive.fieldWidth directive.isLeft (oneByte format value))
  | 'd' | 'i' => some ({ directive with conversion := 'd' }.showInteger (signedOf value.toNumber))
  | 'o' | 'x' | 'X' | 'u' => some (directive.showInteger (unsignedOf value.toNumber))
  | 'e' | 'E' | 'f' | 'F' | 'g' | 'G' => some (showFloat directive value.toNumber)
  | _ => none

/-- Prints values by a format; `text` is the format for numbers that become texts.  What is printed
before a fault counts as well. -/
def printFrom (text : ByteArray) : (fuel count : Nat) → List UInt8 → List Value →
    List UInt8 × Option FormatFault
  | 0, _, _, _ => ([], none)
  | _, _, [], _ => ([], none)
  | fuel + 1, count, 0x25 :: 0x25 :: rest, values =>
    (printFrom text fuel count rest values).map (0x25 :: ·) id
  | fuel + 1, count, 0x25 :: rest, values =>
    let flags := rest.takeWhile fun b => "-+ #0".contains (Program.asciiChar b)
    let (width, rest) := readExtent (rest.drop flags.length)
    let (precision, rest) : Extent × List UInt8 := match rest with
      | 0x2E :: rest =>
        match readExtent rest with
        | (.missing, rest) => (.written 0, rest)
        | other => other
      | rest => (.missing, rest)
    let (width, values) := width.take values
    let (precision, values) := precision.take values
    match values with
    | [] => ([], some .tooFewValues)
    | value :: values =>
      match rest.dropWhile fun b => b = 0x6C || b = 0x68 with
      | [] => ([], some (.badDirective (count + 1)))
      | conversion :: rest =>
        let directive : Directive :=
          { flags := flags.map Program.asciiChar, width, precision
            conversion := Program.asciiChar conversion, text := [] }
        match showValue text directive value with
        | none => ([], some (.badDirective (count + 1)))
        | some shown => (printFrom text fuel (count + 1) rest values).map (shown ++ ·) id
  | fuel + 1, count, b :: rest, values =>
    (printFrom text fuel count rest values).map (b :: ·) id

/-- Prints values by a format. -/
def printValues (text format : ByteArray) (values : List Value) :
    ByteArray × Option FormatFault :=
  (printFrom text (format.size + 1) 0 format.toList values).map Program.pack id

end CommandShell.Machine.Awk
