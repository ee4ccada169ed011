import CommandShell.Machine.Program.Basic
set_option autoImplicit false

/-!
# Numbers with a fraction

A number is read exactly, rounded to the binary digits that a program keeps, and written with as
many decimal digits as are asked for.  Rounding goes to the nearest number, and to the even one of
two that are as near.
-/

namespace CommandShell.Machine.Program

/-- A number with a fraction. -/
structure Fraction where
  isNegative : Bool
  numerator : Nat
  denominator : Nat

namespace Fraction

/-- A quotient rounded to a whole number. -/
def rounded (numerator denominator : Nat) : Nat :=
  let whole := numerator / denominator
  let twice := 2 * (numerator % denominator)
  if twice > denominator || (twice = denominator && whole % 2 = 1) then whole + 1 else whole

/-- The value of decimal digits. -/
def digitsValue (digits : List UInt8) : Nat :=
  digits.foldl (fun (n : Nat) b => 10 * n + (b.toNat - 0x30)) 0

/-- The exponent at the front of some bytes, and how many bytes it has. -/
def readExponent (bytes : List UInt8) : Int × Nat :=
  match bytes with
  | mark :: rest =>
    if toLower mark ≠ 0x65 then (0, 0)
    else
      let (negative, size, rest) : Bool × Nat × List UInt8 := match rest with
        | 0x2D :: rest => (true, 2, rest)
        | 0x2B :: rest => (false, 2, rest)
        | rest => (false, 1, rest)
      let digits := rest.takeWhile isDigit
      if digits.isEmpty then (0, 0)
      else
        let value := min (digitsValue digits) 5000
        (if negative then -(value : Int) else value, size + digits.length)
  | [] => (0, 0)

/-- The number at the front of some bytes, and the bytes after it; none if there is no number. -/
def read? (bytes : List UInt8) : Option (Fraction × List UInt8) :=
  let body := bytes.dropWhile isSpace
  let (isNegative, body) : Bool × List UInt8 := match body with
    | 0x2D :: body => (true, body)
    | 0x2B :: body => (false, body)
    | body => (false, body)
  let whole := body.takeWhile isDigit
  let rest := body.drop whole.length
  let fraction := match rest with
    | 0x2E :: rest => rest.takeWhile isDigit
    | _ => []
  let hasPoint := rest.head? = some 0x2E && !(whole.isEmpty && fraction.isEmpty)
  let rest := rest.drop (if hasPoint then fraction.length + 1 else 0)
  if whole.isEmpty && fraction.isEmpty then none
  else
    let (exponent, size) := readExponent rest
    let exponent := exponent - fraction.length
    let digits := digitsValue (whole ++ fraction)
    let number : Fraction :=
      if exponent < 0 then ⟨isNegative, digits, Nat.pow 10 exponent.natAbs⟩
      else ⟨isNegative, digits * Nat.pow 10 exponent.natAbs, 1⟩
    some (number, rest.drop size)

/-- A whole number. -/
def ofInt (n : Int) : Fraction := ⟨n < 0, n.natAbs, 1⟩

/-- The number with so many binary digits. -/
def keepBits (bits : Nat) (number : Fraction) : Fraction :=
  if number.numerator = 0 then number
  else
    let excess : Int := (Nat.log2 number.numerator : Int) - Nat.log2 number.denominator
    let scaled (shift : Int) : Nat × Nat :=
      if shift ≥ 0 then (number.numerator, number.denominator * Nat.pow 2 shift.toNat)
      else (number.numerator * Nat.pow 2 shift.natAbs, number.denominator)
    let least := excess - bits
    let (a, b) := scaled least
    let shift := if a / b ≥ Nat.pow 2 bits then least + 1 else least
    let (a, b) := scaled shift
    let digits := rounded a b
    if shift ≥ 0 then
      { number with numerator := digits * Nat.pow 2 shift.toNat, denominator := 1 }
    else { number with numerator := digits, denominator := Nat.pow 2 shift.natAbs }

/-- A number of tenths and their like, with so many places. -/
def placed (digits places : Nat) : String :=
  let text := (toString digits).toList
  let text := List.replicate (places + 1 - text.length) '0' ++ text
  let whole := text.take (text.length - places)
  String.ofList (whole ++ (if places = 0 then [] else '.' :: text.drop whole.length))

/-- The magnitude with so many decimal places. -/
def fixed (number : Fraction) (places : Nat) : String :=
  placed (rounded (number.numerator * Nat.pow 10 places) number.denominator) places

/-- The digits of the magnitude divided by a power of ten. -/
def digitsAt (number : Fraction) (power : Int) : Nat :=
  if power ≥ 0 then rounded number.numerator (number.denominator * Nat.pow 10 power.toNat)
  else rounded (number.numerator * Nat.pow 10 power.natAbs) number.denominator

/-- The decimal exponent of the magnitude, looking at most so far from a first guess. -/
def exponentFrom (number : Fraction) : (fuel : Nat) → (guess : Int) → Int
  | 0, guess => guess
  | fuel + 1, guess =>
    let isAtLeast (power : Int) : Bool :=
      if power ≥ 0 then number.numerator ≥ number.denominator * Nat.pow 10 power.toNat
      else number.numerator * Nat.pow 10 power.natAbs ≥ number.denominator
    if !isAtLeast guess then number.exponentFrom fuel (guess - 1)
    else if isAtLeast (guess + 1) then number.exponentFrom fuel (guess + 1)
    else guess

/-- The digits and the decimal exponent of the magnitude, with so many places after the first
digit. -/
def scientific (number : Fraction) (places : Nat) : Nat × Int :=
  if number.numerator = 0 then (0, 0)
  else
    let guess := (((toString number.numerator).length : Int) - (toString number.denominator).length)
    let exponent := number.exponentFrom 4 guess
    let digits := number.digitsAt (exponent - places)
    if digits ≥ Nat.pow 10 (places + 1) then (number.digitsAt (exponent + 1 - places), exponent + 1)
    else (digits, exponent)

/-- An exponent of at least two digits. -/
def exponentText (exponent : Int) : String :=
  let digits := toString exponent.natAbs
  "e" ++ (if exponent < 0 then "-" else "+") ++ (if digits.length < 2 then "0" else "") ++ digits

/-- A text without the zeros at the end of its fraction. -/
def trimmed (text : String) : String :=
  if text.contains '.' then
    let body := text.toList.reverse.dropWhile (· = '0')
    let body := if body.head? = some '.' then body.drop 1 else body
    String.ofList body.reverse
  else text

/-- The exponent of the first binary digit of the magnitude. -/
def binaryExponent (number : Fraction) : Int :=
  let guess : Int := (Nat.log2 number.numerator : Int) - Nat.log2 number.denominator
  let isAtLeast : Bool :=
    if guess ≥ 0 then number.numerator ≥ number.denominator * Nat.pow 2 guess.toNat
    else number.numerator * Nat.pow 2 guess.natAbs ≥ number.denominator
  if isAtLeast then guess else guess - 1

/-- The magnitude in hexadecimal digits with a binary exponent.  Of the `bits` binary digits that
are kept, as many stand before the point as do not fill whole places after it. -/
def hexadecimal (number : Fraction) (bits : Nat) (precision : Option Nat) (keepsPoint : Bool) :
    String :=
  let lead := (bits - 1) % 4 + 1
  let places := precision.getD ((bits - lead) / 4)
  let isZero := number.numerator = 0
  let power := if isZero then 0 else number.binaryExponent - (lead - 1 : Nat)
  let shift := power - (4 * places : Nat)
  let digits :=
    if shift ≥ 0 then rounded number.numerator (number.denominator * Nat.pow 2 shift.toNat)
    else rounded (number.numerator * Nat.pow 2 shift.natAbs) number.denominator
  let whole := digits / Nat.pow 16 places
  let (whole, power) := if whole = 16 then (1, power + 4) else (whole, power)
  let tail := if places = 0 then [] else Nat.toDigits 16 (digits % Nat.pow 16 places)
  let tail := List.replicate (places - tail.length) '0' ++ tail
  let tail := if precision.isSome then tail else (tail.reverse.dropWhile (· = '0')).reverse
  "0x" ++ String.ofList (Nat.toDigits 16 whole)
    ++ (if tail.isEmpty && !keepsPoint then "" else "." ++ String.ofList tail)
    ++ "p" ++ (if power < 0 then "-" else "+") ++ toString power.natAbs

/-- The magnitude as a directive of a format writes it; so many binary digits have been kept. -/
def shown (number : Fraction) (bits : Nat) (conversion : Char) (precision : Option Nat)
    (keepsZeros : Bool) : String :=
  match conversion with
  | 'a' => number.hexadecimal bits precision keepsZeros
  | 'e' =>
    let places := precision.getD 6
    let (digits, exponent) := number.scientific places
    placed digits places ++ exponentText exponent
  | 'g' =>
    let significant := max (precision.getD 6) 1
    let (digits, exponent) := number.scientific (significant - 1)
    let trim (text : String) : String := if keepsZeros then text else trimmed text
    if -4 ≤ exponent && exponent < significant then
      trim (number.fixed ((significant : Int) - 1 - exponent).toNat)
    else trim (placed digits (significant - 1)) ++ exponentText exponent
  | _ => number.fixed (precision.getD 6)

end Fraction

end CommandShell.Machine.Program
