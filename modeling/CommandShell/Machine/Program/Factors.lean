import CommandShell.Machine.Program.Basic
set_option autoImplicit false

/-!
# Prime factors

Small factors are found by division.  What is left is either prime, which a test by powers tells, or
it is split by looking for a cycle in a sequence of remainders.
-/

namespace CommandShell.Machine.Program

/-! ## Primes -/

/-- A power modulo `modulus`; `fuel` is at least the number of binary digits of the exponent. -/
def powerModulo (modulus base : Nat) : (fuel exponent : Nat) → Nat
  | 0, _ => 1 % modulus
  | fuel + 1, exponent =>
    if exponent = 0 then 1 % modulus
    else
      let half := powerModulo modulus base fuel (exponent / 2)
      let square := half * half % modulus
      if exponent % 2 = 1 then square * base % modulus else square

/-- How often 2 divides a number, and what is left of it. -/
def splitEven : (fuel n : Nat) → Nat × Nat
  | 0, n => (0, n)
  | fuel + 1, n =>
    if n % 2 = 0 && n ≠ 0 then
      let (twos, rest) := splitEven fuel (n / 2)
      (twos + 1, rest)
    else (0, n)

/-- Repeated squares reach -1 modulo `n`. -/
def reachesMinusOne (n : Nat) : (fuel value : Nat) → Bool
  | 0, _ => false
  | fuel + 1, value => value = n - 1 || reachesMinusOne n fuel (value * value % n)

/-- The bases that primes are tested with. -/
def primeBases : List Nat :=
  [2, 3, 5, 7, 11, 13, 17, 19, 23, 29, 31, 37, 41, 43, 47, 53, 59, 61, 67, 71]

/-- A number that passes for a prime with all bases. -/
def isPrimeNumber (n : Nat) : Bool :=
  if n < 2 then false
  else if primeBases.contains n then true
  else if primeBases.any (n % · = 0) then false
  else
    let size := Nat.log2 n + 1
    let (twos, odd) := splitEven size (n - 1)
    primeBases.all fun base =>
      let first := powerModulo n base size odd
      first = 1 || reachesMinusOne n twos first

/-! ## Factors -/

/-- Takes a factor out of a number as often as it is in it. -/
def takeOut (factor : Nat) : (fuel n : Nat) → List Nat × Nat
  | 0, n => ([], n)
  | fuel + 1, n =>
    if n % factor = 0 && n ≠ 0 then
      let (taken, rest) := takeOut factor fuel (n / factor)
      (factor :: taken, rest)
    else ([], n)

/-- Takes the factors from 2 to a limit out of a number: those found, the last one first, and what
is left. -/
def smallFactors (limit : Nat) (n : Nat) : List Nat × Nat :=
  ((List.range (limit - 1)).map (· + 2)).foldl (fun (found, rest) factor =>
    if rest < factor then (found, rest)
    else
      let (taken, rest) := takeOut factor (Nat.log2 rest + 1) rest
      (taken ++ found, rest)) ([], n)

/-- A factor of `n` from the sequence `x ↦ x² + offset`: the gcd of `n` and the difference of two
members, of which one runs twice as fast. -/
def cycleFactor (n offset : Nat) : (fuel slow fast : Nat) → Option Nat
  | 0, _, _ => none
  | fuel + 1, slow, fast =>
    let step (x : Nat) : Nat := (x * x + offset) % n
    let slow := step slow
    let fast := step (step fast)
    let divisor := Nat.gcd (max slow fast - min slow fast) n
    if divisor = 1 then cycleFactor n offset fuel slow fast
    else if divisor = n then none
    else some divisor

/-- The prime factors of a number without small factors. -/
def largeFactors : (fuel n : Nat) → List Nat
  | 0, n => [n]
  | fuel + 1, n =>
    if n < 2 then []
    else if isPrimeNumber n then [n]
    else match (List.range' 1 20).findSome? fun offset => cycleFactor n offset 2000000 2 2 with
      | none => [n]
      | some factor => largeFactors fuel factor ++ largeFactors fuel (n / factor)

/-- The prime factors of a number in order. -/
def primeFactors (n : Nat) : List Nat :=
  if n < 2 then []
  else
    let (small, rest) := smallFactors 5000 n
    (small ++ largeFactors (Nat.log2 n + 1) rest).mergeSort (· ≤ ·)

/-- Factors as they are shown: one by one, or each with its exponent. -/
def shownFactors (withExponents : Bool) (factors : List Nat) : String :=
  if withExponents then
    String.join (factors.eraseDups.map fun factor =>
      let count := factors.count factor
      " " ++ toString factor ++ if count = 1 then "" else "^" ++ toString count)
  else String.join (factors.map fun factor => " " ++ toString factor)

/-- Shows the factors of one number, which may have blanks and a sign before it. -/
def factorWord (name : String) (withExponents : Bool) (word : String) : Routine Bool := do
  let digits := match word.toList.dropWhile (· = ' ') with
    | '+' :: rest => rest
    | rest => rest
  match natural? (String.ofList digits) with
  | some n =>
    putText name (toString n ++ ":" ++ shownFactors withExponents (primeFactors n) ++ "\n")
    return true
  | none =>
    complain name (quotedWord word ++ " is not a valid positive integer")
    return false

/-- Shows the prime factors of numbers. -/
def factor : Program := fun image => do
  let name := image.name
  let parsed ← options
    { letters := OptionTable.flags "h", words := [("exponents", .none, 'h')] } name image.words
  let words ←
    if parsed.operands.isEmpty then do
      match ← readAll standardInput .empty budget with
      | .ok bytes =>
        let marks := bytes.toList.map fun byte => if isBlank byte then lineFeed else byte
        pure ((linesOf (pack marks)).filterMap fun line =>
          if line.isEmpty then none else some (Text.ofBytes (pack line)))
      | .error errno =>
        complain name ("error reading input: " ++ errno.description)
        quit 1
    else pure parsed.operands
  let mut succeeded := true
  for word in words do
    if !(← factorWord name (parsed.has 'h') word) then succeeded := false
  return codeOf succeeded

end CommandShell.Machine.Program
