import CommandShell.Machine.Awk.Syntax
import CommandShell.Machine.Program.Escape
set_option autoImplicit false

/-!
# Values

A value is a number or a text.  Text that comes from the input counts as a number where it looks
like one, and a variable that has not been set counts as both the empty text and zero.
-/

namespace CommandShell.Machine.Awk

open Program (Fraction Directive isDigit)

/-! ## Numbers -/

/-- The number that a fraction is nearest to. -/
def ofFraction (number : Fraction) : Float :=
  let rounded := number.keepBits 53
  let magnitude :=
    (Float.ofNat rounded.numerator).scaleB (-(Nat.log2 rounded.denominator : Int))
  if number.isNegative then -magnitude else magnitude

/-- How many binary places a number has. -/
def significandBits : Nat := 52

/-- A number as a fraction; none if it is infinite or undefined. -/
def toFraction? (n : Float) : Option Fraction :=
  let bits := n.toBits.toNat
  let isNegative := bits ≥ Nat.pow 2 63
  let exponent := bits / Nat.pow 2 significandBits % 2048
  let fraction := bits % Nat.pow 2 significandBits
  if exponent = 2047 then none
  else
    let (digits, power) : Nat × Int :=
      if exponent = 0 then (fraction, -1074)
      else (fraction + Nat.pow 2 significandBits, (exponent : Int) - 1075)
    some (if power ≥ 0 then ⟨isNegative, digits * Nat.pow 2 power.toNat, 1⟩
      else ⟨isNegative, digits, Nat.pow 2 power.natAbs⟩)

/-- A number without what is after its point; none if it is infinite or undefined. -/
def toInt? (n : Float) : Option Int :=
  (toFraction? n).map fun number =>
    let magnitude : Int := ((number.numerator / number.denominator : Nat) : Int)
    if number.isNegative then -magnitude else magnitude

/-- A number without what is after its point. -/
def truncated (n : Float) : Float := if n < 0 then n.ceil else n.floor

/-- A whole number as a number. -/
def ofInt (n : Int) : Float := Float.ofInt n

/-- What is left when a number is divided by another one so that the quotient is whole and goes
toward zero. -/
def remainder (a b : Float) : Float :=
  match toFraction? a, toFraction? b with
  | some x, some y =>
    if y.numerator = 0 then 0.0 / 0.0
    else
      let size := x.denominator * y.denominator
      ofFraction ⟨x.isNegative,
        (x.numerator * y.denominator) % (y.numerator * x.denominator), size⟩
  | some _, none => if b.isNaN then b else a
  | none, _ => 0.0 / 0.0

/-- The result of an operation. -/
def Arithmetic.apply : Arithmetic → Float → Float → Float
  | add, a, b => a + b
  | subtract, a, b => a - b
  | multiply, a, b => a * b
  | divide, a, b => a / b
  | remainder, a, b => Awk.remainder a b
  | power, a, b => Float.pow a b

/-- The bytes begin with a word in any case. -/
def hasWord (word : String) (bytes : List UInt8) : Bool :=
  (bytes.take word.length).map Program.toLower = word.toUTF8.toList

/-- The number at the front of some bytes, after white space; zero if there is none. -/
def frontNumber (bytes : List UInt8) : Float :=
  let body := bytes.dropWhile Program.isSpace
  let (isNegative, body) : Bool × List UInt8 := match body with
    | 0x2D :: rest => (true, rest)
    | 0x2B :: rest => (false, rest)
    | rest => (false, rest)
  let signed (n : Float) : Float := if isNegative then -n else n
  if hasWord "inf" body then signed (1.0 / 0.0)
  else if hasWord "nan" body then 0.0 / 0.0
  else if hasWord "0x" body && ((body.drop 2).head?.bind Program.hexDigit?).isSome then
    let (n, _) := Program.frontNumber Program.hexDigit? 16 body.length (body.drop 2)
    signed (Float.ofNat n)
  else match Fraction.read? body with
    | some (number, _) => if body.head?.any (fun b => isDigit b || b = 0x2E) then
        signed (ofFraction number) else 0
    | none => 0

/-- Hexadecimal digits of which the last one is decimal, after their mark. -/
def looksHexadecimal (bytes : List UInt8) : Bool :=
  hasWord "0x" bytes && bytes.length > 2
    && (bytes.drop 2).all (fun b => (Program.hexDigit? b).isSome)
    && bytes.getLast?.any isDigit

/-- A number with nothing before or after it but blanks. -/
def looksNumeric (bytes : List UInt8) : Bool :=
  let isBlank (byte : UInt8) : Bool := byte ≠ 0x0A && Program.isSpace byte
  let body := ((bytes.dropWhile isBlank).reverse.dropWhile isBlank).reverse
  let unsigned := match body with
    | 0x2D :: rest | 0x2B :: rest => rest
    | rest => rest
  looksHexadecimal unsigned
    || (unsigned.head?.any (fun b => isDigit b || b = 0x2E)
      && match Fraction.read? unsigned with
        | some (_, rest) => rest.isEmpty
        | none => false)

/-! ## Printing -/

/-- A directive that a number may be printed by. -/
def numberDirective? (format : ByteArray) : Option (List UInt8 × Directive × List UInt8) :=
  let bytes := format.toList
  let front := bytes.takeWhile (· ≠ 0x25)
  match bytes.drop front.length with
  | _ :: rest =>
    match Program.readDirective false rest with
    | (.directive directive false false, rest) => some (front, directive, rest)
    | _ => none
  | [] => none

/-- The bytes of ASCII text. -/
def asciiBytes (text : String) : List UInt8 := text.toUTF8.toList

/-- A number that may be infinite or undefined by a directive. -/
def showFloat (directive : Directive) (n : Float) : List UInt8 :=
  match toFraction? n with
  | some number => directive.showFraction 53 number
  | none =>
    let word := if n.isNaN then "-nan" else if n < 0 then "-inf" else "inf"
    let sign := if n.isNaN || n < 0 then "" else String.ofList (directive.signOf false)
    let word := if directive.conversion.isUpper then word.map Char.toUpper else word
    Program.fill directive.fieldWidth directive.isLeft (asciiBytes (sign ++ word))

/-- The greatest whole number with a sign. -/
def greatestSigned : Int := 9223372036854775807

/-- The greatest whole number without a sign. -/
def greatestUnsigned : Int := 18446744073709551615

/-- A number as a whole one with a sign; one that is too great is taken without a sign. -/
def signedOf (n : Float) : Int :=
  match toInt? n with
  | some value =>
    if value > greatestUnsigned then greatestUnsigned
    else if value < -greatestSigned then -greatestSigned else value
  | none => if n < 0 then -greatestSigned else greatestUnsigned

/-- A number as a whole one without a sign. -/
def unsignedOf (n : Float) : Int :=
  let value := signedOf n
  if value < 0 then value + greatestUnsigned + 1 else value

/-- The text of a number: its digits if it is whole, and else what a format makes of it. -/
def numberText (format : ByteArray) (n : Float) : ByteArray :=
  let asFormatted : ByteArray :=
    match numberDirective? format with
    | some (front, directive, rest) =>
      if "aAeEfFgG".contains directive.conversion then
        Program.pack (front ++ showFloat directive n ++ rest)
      else Program.pack (front ++ directive.showInteger (signedOf n) ++ rest)
    | none => format
  match toInt? n with
  | some value =>
    if ofInt value == n && -greatestSigned - 1 ≤ value && value ≤ greatestUnsigned + 1 then
      (toString (min value greatestUnsigned)).toUTF8
    else asFormatted
  | none => (asciiBytes (if n.isNaN then "-nan" else if n < 0 then "-inf" else "inf")).toByteArray

/-! ## Values -/

/-- A value. -/
inductive Value where
  | unset
  | number (n : Float)
  | text (bytes : ByteArray)
  /-- Text from the input. -/
  | input (bytes : ByteArray)

namespace Value

/-- A truth value. -/
def ofBool (holds : Bool) : Value := .number (if holds then 1 else 0)

/-- A text that is written in ASCII. -/
def ofString (text : String) : Value := .text text.toUTF8

/-- The value as a number. -/
def toNumber : Value → Float
  | unset => 0
  | number n => n
  | text bytes | input bytes => frontNumber bytes.toList

/-- The value as a text; numbers that are not whole are written by a format. -/
def toText (format : ByteArray) : Value → ByteArray
  | unset => .empty
  | number n => numberText format n
  | text bytes | input bytes => bytes

/-- The number, if the value counts as one. -/
def number? : Value → Option Float
  | unset => some 0
  | number n => some n
  | text _ => none
  | input bytes => if looksNumeric bytes.toList then some (frontNumber bytes.toList) else none

/-- The value counts as true. -/
def isTrue : Value → Bool
  | unset => false
  | number n => n != 0
  | text bytes => bytes.size > 0
  | input bytes =>
    match number? (.input bytes) with
    | some n => n != 0
    | none => bytes.size > 0

/-- How two numbers lie to each other. -/
def compareNumbers (a b : Float) : Ordering := if a < b then .lt else if a > b then .gt else .eq

/-- How two texts lie to each other. -/
def compareTexts (a b : ByteArray) : Ordering :=
  match (a.toList.zip b.toList).find? fun (x, y) => x != y with
  | some (x, y) => if x < y then .lt else .gt
  | none => compare a.size b.size

/-- How two values lie to each other: as numbers if both count as numbers, else as texts. -/
def compareBy (format : ByteArray) (a b : Value) : Ordering :=
  match a.number?, b.number? with
  | some x, some y => compareNumbers x y
  | _, _ => compareTexts (a.toText format) (b.toText format)

end Value

end CommandShell.Machine.Awk
