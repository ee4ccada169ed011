import CommandShell.Machine.Program.Escape
import CommandShell.Machine.Regex
set_option autoImplicit false

/-!
# Patterns of record programs

Patterns are extended regular expressions with the escapes of texts.  A branch must not be empty,
a closing parenthesis without an opening one stands for itself, and braces that are no interval do
so as well.
-/

namespace CommandShell.Machine.Awk.Pattern

open Regex (Expr tableWhere)

/-- Why a pattern is refused. -/
inductive Fault where
  | missingOperand
  | missingParenthesis
  | badClass
  | badInterval
  | repeatedAnchor
  deriving DecidableEq

/-- The wording of a refusal. -/
def Fault.message : Fault → String
  | missingOperand => "missing operand"
  | missingParenthesis => "missing ')'"
  | badClass => "bad class -- [], [^] or ["
  | badInterval => "bad interval expression"
  | repeatedAnchor => "syntax error ^* or ^+"

/-- One byte. -/
def byte (b : UInt8) : Expr := .set (tableWhere (· = b))

/-- The byte of an escape, and how many bytes it takes up after the backslash; none if the backslash
means nothing. -/
def readEscape? (bytes : List UInt8) : Option (UInt8 × Nat) :=
  match bytes with
  | [] => none
  | mark :: rest =>
    match Program.letterEscape? mark with
    | some b => some (b, 1)
    | none =>
      if mark = 0x78 then
        let (n, size) := Program.frontNumber Program.hexDigit? 16 2 rest
        if size = 0 then none else some (UInt8.ofNat n, size + 1)
      else if (Program.octalDigit? mark).isSome then
        let (n, size) := Program.frontNumber Program.octalDigit? 8 3 bytes
        some (UInt8.ofNat n, size)
      else none

/-! ## Classes -/

/-- The members of a class after its opening, and what is after its end. -/
def readMembers : (fuel : Nat) → (isFirst : Bool) → List UInt8 →
    Except Fault (List UInt8 × List UInt8)
  | 0, _, _ => .error .badClass
  | _, _, [] => .error .badClass
  | fuel + 1, isFirst, 0x5D :: rest =>
    if isFirst then member fuel 0x5D rest else .ok ([], rest)
  | fuel + 1, _, 0x5B :: 0x3A :: rest =>
    let name := rest.takeWhile fun b => b ≠ 0x3A
    match rest.drop name.length with
    | 0x3A :: 0x5D :: after =>
      match Program.classBytes? (Text.ofBytes (Program.pack name)) with
      | some bytes => (readMembers fuel false after).map fun (more, rest) => (bytes ++ more, rest)
      | none => .error .badClass
    | _ => member fuel 0x5B (0x3A :: rest)
  | fuel + 1, _, 0x5C :: rest =>
    match readEscape? rest, rest with
    | some (b, size), _ => member fuel b (rest.drop size)
    | none, b :: rest => member fuel b rest
    | none, [] => .error .badClass
  | fuel + 1, _, b :: rest => member fuel b rest
where
  /-- A member that may be the beginning of a range. -/
  member (fuel : Nat) (low : UInt8) (rest : List UInt8) : Except Fault (List UInt8 × List UInt8) :=
    match rest with
    | 0x2D :: 0x5D :: _ => (readMembers fuel false rest).map fun (more, rest) => (low :: more, rest)
    | 0x2D :: 0x5C :: after =>
      match readEscape? after, after with
      | some (high, size), _ => range fuel low high (after.drop size)
      | none, high :: after => range fuel low high after
      | none, [] => .error .badClass
    | 0x2D :: high :: after => range fuel low high after
    | rest => (readMembers fuel false rest).map fun (more, rest) => (low :: more, rest)
  /-- The bytes of a range. -/
  range (fuel : Nat) (low high : UInt8) (rest : List UInt8) :
      Except Fault (List UInt8 × List UInt8) :=
    let bytes := (List.range' low.toNat (high.toNat + 1 - low.toNat)).map UInt8.ofNat
    (readMembers fuel false rest).map fun (more, rest) => (bytes ++ more, rest)

/-- A class after its opening bracket. -/
def readClass (bytes : List UInt8) : Except Fault (Expr × List UInt8) := do
  let (isNegated, bytes) : Bool × List UInt8 := match bytes with
    | 0x5E :: rest => (true, rest)
    | bytes => (false, bytes)
  let (members, rest) ← readMembers (2 * bytes.length + 2) true bytes
  let table := Program.tableOf members
  return (.set (if isNegated then table.map (!·) else table), rest)

/-! ## Repetition -/

/-- The bytes after an opening brace are an interval. -/
def isInterval (bytes : List UInt8) : Bool :=
  let inside := bytes.takeWhile fun b => Program.isDigit b || b = 0x2C
  inside.count 0x2C ≤ 1 && bytes[inside.length]? = some 0x7D

/-- An operator at the front of some bytes that repeats what is before it. -/
def readRepeat (bytes : List UInt8) :
    Except Fault (Option (Nat × Option Nat × List UInt8)) :=
  match bytes with
  | 0x2A :: rest => .ok (some (0, none, rest))
  | 0x2B :: rest => .ok (some (1, none, rest))
  | 0x3F :: rest => .ok (some (0, some 1, rest))
  | 0x7B :: rest =>
    if !isInterval rest then .ok none
    else
      let number (digits : List UInt8) : Option Nat :=
        if digits.isEmpty then none
        else some (digits.foldl (fun n b => 10 * n + (b.toNat - 0x30)) 0)
      let inside := rest.takeWhile (· ≠ 0x7D)
      let after := rest.drop (inside.length + 1)
      let least := inside.takeWhile (· ≠ 0x2C)
      if inside.isEmpty then .error .badInterval
      else if least.length = inside.length then
        let count := (number least).getD 0
        .ok (some (count, some count, after))
      else
        let most := number (inside.drop (least.length + 1))
        if most.any (· < (number least).getD 0) then .error .badInterval
        else .ok (some ((number least).getD 0, most, after))
  | _ => .ok none

/-- Applies the operators that repeat an expression. -/
def readRepeats : (fuel : Nat) → Expr → List UInt8 → Except Fault (Expr × List UInt8)
  | 0, expr, bytes => .ok (expr, bytes)
  | fuel + 1, expr, bytes => do
    match ← readRepeat bytes with
    | none => return (expr, bytes)
    | some (least, most, rest) => readRepeats fuel (.repeat expr least most) rest

/-! ## Branches -/

/-- Reads one atom with the operators that repeat it.  `choices` reads what is in parentheses. -/
def readAtom (choices : (depth : Nat) → List UInt8 → Except Fault (Expr × List UInt8))
    (depth : Nat) (bytes : List UInt8) : Except Fault (Expr × List UInt8) := do
  let repeated (expr : Expr) (rest : List UInt8) : Except Fault (Expr × List UInt8) :=
    readRepeats (rest.length + 1) expr rest
  match bytes with
  | [] => return (.empty, [])
  | 0x28 :: rest =>
    let (inner, rest) ← choices (depth + 1) rest
    match rest with
    | 0x29 :: rest => repeated inner rest
    | _ => throw .missingParenthesis
  | 0x5B :: rest =>
    let (expr, rest) ← readClass rest
    repeated expr rest
  | 0x2E :: rest => repeated (.set (tableWhere fun _ => true)) rest
  | 0x5E :: rest =>
    match rest with
    | 0x2A :: _ | 0x2B :: _ => throw .repeatedAnchor
    | _ => return (.lineStart, rest)
  | 0x24 :: rest => return (.lineEnd, rest)
  | 0x2A :: _ | 0x2B :: _ | 0x3F :: _ => throw .missingOperand
  | [0x5C] => return (byte 0x5C, [])
  | 0x5C :: b :: rest =>
    match readEscape? (b :: rest) with
    | some (b, size) => repeated (byte b) ((bytes.drop 1).drop size)
    | none => repeated (byte b) rest
  | b :: rest => repeated (byte b) rest

/-- Reads atoms in a row, of which there must be one. -/
def readSequence (choices : (depth : Nat) → List UInt8 → Except Fault (Expr × List UInt8))
    (depth : Nat) : (fuel : Nat) → (isFirst : Bool) → List UInt8 →
    Except Fault (Expr × List UInt8)
  | 0, _, rest => .ok (.empty, rest)
  | fuel + 1, isFirst, bytes => do
    let isEnd := match bytes with
      | [] => true
      | b :: _ => b = 0x7C || (b = 0x29 && depth > 0)
    if isEnd then
      if isFirst then throw .missingOperand
      return (.empty, bytes)
    let (first, rest) ← readAtom choices depth bytes
    let (second, rest) ← readSequence choices depth fuel false rest
    return (.sequence first second, rest)

/-- Reads branches with choices between them. -/
def readChoices : (fuel : Nat) → (depth : Nat) → List UInt8 → Except Fault (Expr × List UInt8)
  | 0, _, _ => .error .missingParenthesis
  | fuel + 1, depth, bytes => do
    if depth > 0 && bytes.isEmpty then throw .missingParenthesis
    let (first, rest) ← readSequence (readChoices fuel) depth (bytes.length + 1) true bytes
    match rest with
    | 0x7C :: rest =>
      let (second, rest) ← readChoices fuel depth rest
      return (.choice first second, rest)
    | _ => return (first, rest)

/-- Reads a pattern; the empty one matches everywhere. -/
def read (bytes : ByteArray) : Except Fault Expr := do
  if bytes.isEmpty then return .empty
  let (expr, _) ← readChoices (2 * bytes.size + 2) 0 bytes.toList
  return expr

end CommandShell.Machine.Awk.Pattern
