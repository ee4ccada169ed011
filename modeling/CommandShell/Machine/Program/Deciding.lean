import CommandShell.Machine.Program.Condition
import CommandShell.Machine.Regex
set_option autoImplicit false

/-!
# Programs that decide and calculate

Their arguments are an expression, one word for each operand and operator.  What they find out is
their exit code, or the value that they write.
-/

namespace CommandShell.Machine.Program

variable {α : Type}

/-- Reading an expression word by word: where the reading is, or why it fails. -/
abbrev WordReader (α : Type) := StateT Nat (ExceptT String Routine) α

/-- Ends the reading. -/
def refuseWords (text : String) : WordReader α := throw text

/-- Makes a routine's result part of a reading. -/
def lookAside (routine : Routine α) : WordReader α :=
  fun position => ExceptT.mk (routine.bind fun result => .done (.ok (result, position)))

/-! ## Tests -/

/-- Answers a question about texts, numbers and files by its exit code. -/
def test : Program := fun image => do
  let bracket := image.name = "[" || image.name.endsWith "/["
  if bracket && image.words.getLast? ≠ some "]" then
    complain image.name "missing ']'"
    return 2
  let words := (if bracket then image.words.dropLast else image.words).toArray
  match ← Condition.answer {} words with
  | .ok answer => return codeOf answer
  | .error fault =>
    complain image.name fault.message
    return 2

/-! ## Calculations -/

namespace Calculation

/-- Texts to which no operator has been applied stand for themselves; a number is kept as one. -/
inductive Value where
  | text (text : String)
  | number (number : Int)

namespace Value

/-- A value as it is written. -/
def written : Value → String
  | text word => word
  | number n => toString n

/-- The number of a value. -/
def number? : Value → Option Int
  | number n => some n
  | text word => if word.startsWith "+" then none else integer? word

/-- The value counts as nothing. -/
def isNull (value : Value) : Bool :=
  let word := value.written
  let digits := if word.startsWith "-" then word.toList.drop 1 else word.toList
  word = "" || (!digits.isEmpty && digits.all (· = '0'))

/-- One or zero. -/
def ofBool (answer : Bool) : Value := number (if answer then 1 else 0)

/-- The bytes of a value. -/
def bytes (value : Value) : List UInt8 := (Text.toBytes value.written).toList

end Value

/-- The next word. -/
def peek (words : Array String) : WordReader (Option String) := do return words[← get]?

/-- The next word is one of several; it is passed over. -/
def accept (words : Array String) (operators : List String) : WordReader (Option String) := do
  match ← peek words with
  | some word =>
    if operators.contains word then
      modify (· + 1)
      return some word
    else return none
  | none => return none

/-- The number of a value that must be one. -/
def need (value : Value) : WordReader Int :=
  match value.number? with
  | some n => return n
  | none => refuseWords "non-integer argument"

/-- Matches a text from its beginning: what the first group stands for, or how long the match
is. -/
def matchAtStart (value pattern : Value) : WordReader Value := do
  match Regex.read false pattern.bytes with
  | .error .openBracket => refuseWords "Invalid regular expression"
  | .error fault => refuseWords fault.message
  | .ok expr =>
    let bytes := value.bytes.toArray
    let hasGroup := expr.groupCount > 0
    match expr.matchAt? { bytes } 0 with
    | none => return if hasGroup then .text "" else .number 0
    | some found =>
      if hasGroup then
        let part := match found.groups.lookup 1 with
          | some (start, finish) => bytes.extract start finish
          | none => #[]
        return .text (Text.ofBytes ⟨part⟩)
      else return .number found.finish

/-- A part of a text: so many bytes from a position on, counted from one. -/
def part (value : Value) (start count : Option Int) : Value :=
  match start, count with
  | some start, some count =>
    if start < 1 || count < 1 then .text ""
    else .text (Text.ofBytes (pack ((value.bytes.drop (start.toNat - 1)).take count.toNat)))
  | _, _ => .text ""

/-- A single value; `inner` reads what is in parentheses. -/
def primary (words : Array String) (inner : WordReader Value) : WordReader Value := do
  match ← peek words with
  | none =>
    refuseWords ("syntax error: missing argument after " ++ quotedWord (words.back?.getD ""))
  | some "(" =>
    modify (· + 1)
    let value ← inner
    match ← peek words with
    | some ")" =>
      modify (· + 1)
      return value
    | some word => refuseWords ("syntax error: expecting ')' instead of " ++ quotedWord word)
    | none =>
      refuseWords ("syntax error: expecting ')' after " ++ quotedWord (words.back?.getD ""))
  | some ")" => refuseWords "syntax error: unexpected ')'"
  | some word =>
    modify (· + 1)
    return .text word

/-- A value, or a word that asks for something about values. -/
def prefixed (words : Array String) (inner : WordReader Value) :
    (fuel : Nat) → WordReader Value
  | 0 => primary words inner
  | fuel + 1 => do
    let next := prefixed words inner fuel
    match ← accept words ["+", "length", "index", "match", "substr"] with
    | some "+" =>
      match ← peek words with
      | some word =>
        modify (· + 1)
        return .text word
      | none => refuseWords "syntax error: missing argument after '+'"
    | some "length" => return .number (← next).bytes.length
    | some "index" =>
      let value ← next
      let members := (← next).bytes
      match value.bytes.findIdx? members.contains with
      | some i => return .number (i + 1)
      | none => return .number 0
    | some "match" =>
      let value ← next
      matchAtStart value (← next)
    | some _ =>
      let value ← next
      let start ← next
      return part value start.number? (← next).number?
    | none => primary words inner

/-- Values with operators of one rank between them, from left to right. -/
def chain (words : Array String) (operators : List String) (operand : WordReader Value)
    (apply : String → Value → Value → WordReader Value) :
    (fuel : Nat) → Value → WordReader Value
  | 0, value => return value
  | fuel + 1, value => do
    match ← accept words operators with
    | none => return value
    | some operator =>
      let next ← operand
      let combined ← apply operator value next
      chain words operators operand apply fuel combined

/-- Adds or subtracts. -/
def addition (operator : String) (a b : Value) : WordReader Value := do
  let (a, b) := (← need a, ← need b)
  return .number (if operator = "+" then a + b else a - b)

/-- Multiplies, divides, or takes the rest of a division. -/
def multiplication (operator : String) (a b : Value) : WordReader Value := do
  let (a, b) := (← need a, ← need b)
  if operator = "*" then return .number (a * b)
  if b = 0 then refuseWords "division by zero"
  return .number (if operator = "/" then a.tdiv b else a.tmod b)

/-- Compares: numbers by value, and everything else as texts. -/
def comparison (operator : String) (a b : Value) : WordReader Value := do
  let order : Ordering := match a.number?, b.number? with
    | some x, some y => compare x y
    | _, _ => if a.written = b.written then .eq else if bytesLe a.bytes b.bytes then .lt else .gt
  return .ofBool <| match operator with
    | "<" => order = .lt
    | "<=" => order ≠ .gt
    | "=" | "==" => order = .eq
    | "!=" => order ≠ .eq
    | ">=" => order ≠ .lt
    | _ => order = .gt

/-- The second value if both count, and else zero. -/
def conjunction (_ : String) (a b : Value) : WordReader Value :=
  return if a.isNull || b.isNull then .number 0 else a

/-- The first value that counts, and else zero. -/
def disjunction (_ : String) (a b : Value) : WordReader Value :=
  return if !a.isNull then a else if !b.isNull then b else .number 0

/-- A whole expression, in which parentheses nest no deeper than that. -/
def whole (words : Array String) : (depth : Nat) → WordReader Value
  | 0 => refuseWords "syntax error"
  | depth + 1 => do
    let level (operators : List String) (operand : WordReader Value)
        (apply : String → Value → Value → WordReader Value) : WordReader Value := do
      chain words operators operand apply words.size (← operand)
    let atoms := prefixed words (whole words depth) words.size
    let matched := level [":"] atoms fun _ value pattern => matchAtStart value pattern
    let products := level ["*", "/", "%"] matched multiplication
    let sums := level ["+", "-"] products addition
    let compared := level ["<", "<=", "=", "==", "!=", ">=", ">"] sums comparison
    let both := level ["&"] compared conjunction
    level ["|"] both disjunction

/-- The value of all words. -/
def readAll (words : Array String) : WordReader Value := do
  let value ← whole words (words.size + 1)
  match ← peek words with
  | some word => refuseWords ("syntax error: unexpected argument " ++ quotedWord word)
  | none => return value

end Calculation

/-- Writes the value of an expression. -/
def expr : Program := fun image => do
  let words := match image.words with
    | "--" :: rest => rest
    | words => words
  if words.isEmpty then missingOperand image.name 2
  match ← ((Calculation.readAll words.toArray).run 0).run with
  | .error text =>
    complain image.name text
    return 2
  | .ok (value, _) =>
    put image.name (Text.toBytes (value.written ++ "\n")) 3
    return codeOf (!value.isNull)

end CommandShell.Machine.Program
