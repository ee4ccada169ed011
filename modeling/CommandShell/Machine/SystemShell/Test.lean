import CommandShell.Machine.Program.FileTest
import CommandShell.Machine.SystemShell.State
set_option autoImplicit false

/-!
# The test command of the system's shell

Its words are read from left to right.  A word that could be an operator is one only where an
operand is to follow; with three words, an operator in the middle always is one.
-/

namespace CommandShell.Machine.SystemShell.Test

/-- What a word means at its place. -/
inductive Meaning where
  | missing
  | operand
  | conjunction
  | disjunction
  | negation
  | openParen
  | closeParen
  /-- An operator before an operand. -/
  | unary (letter : Char)
  /-- An operator between two operands. -/
  | binary (operator : String)
  deriving DecidableEq

/-- The operator that a word can be. -/
def operator? (word : String) : Option Meaning :=
  match word with
  | "-a" => some .conjunction
  | "-o" => some .disjunction
  | "!" => some .negation
  | "(" => some .openParen
  | ")" => some .closeParen
  | word =>
    if ["=", "!=", "<", ">", "-eq", "-ne", "-ge", "-gt", "-le", "-lt", "-nt", "-ot", "-ef"].contains
        word then
      some (.binary word)
    else
      match word.toList with
      | ['-', letter] =>
        if "rwxefdcbpugkstznhOGLS".contains letter then some (.unary letter) else none
      | _ => none

/-- The word is an operator between two operands. -/
def isBinary (word : String) : Bool :=
  match operator? word with
  | some (.binary _) => true
  | _ => false

/-- What the word with a number means. -/
def meaningAt (words : Array String) (i : Nat) : Meaning :=
  match words[i]? with
  | none => .missing
  | some word =>
    match operator? word with
    | some (.unary letter) =>
      let isOperand :=
        match words[i + 1]?, words[i + 2]? with
        | none, _ => true
        | some _, none => false
        | some next, some _ => isBinary next
      if isOperand then .operand else .unary letter
    | some .openParen => if words[i + 1]?.isNone then .operand else .openParen
    | some meaning => meaning
    | none => .operand

/-- The number that a word stands for. -/
def number (word : String) : Eval Int := do
  let blank (c : Char) : Bool := c = ' ' || ('\t' ≤ c && c ≤ '\r')
  let trimmed := ((word.toList.dropWhile blank).reverse.dropWhile blank).reverse
  match Program.integer? (String.ofList trimmed) with
  | some n => return n
  | none => fail ("Illegal number: " ++ word)

/-- The answer of an operator before an operand. -/
def unaryAnswer (letter : Char) (word : String) : Eval Bool := do
  match letter with
  | 'z' => return word = ""
  | 'n' => return word ≠ ""
  | 't' =>
    let _ ← number word
    return false
  | letter => doRoutine (Program.fileTest letter word)

/-- The answer of an operator between two operands. -/
def binaryAnswer (operator first second : String) : Eval Bool := do
  match Program.compareTexts? operator first second with
  | some answer => return answer
  | none =>
    if Program.fileComparisons.contains operator then
      doRoutine (Program.compareFiles operator first second)
    else
      let a ← number first
      let b ← number second
      return (Program.compareIntegers? operator a b).getD false

/-- The answer of what begins at a word with that meaning, and the number of its last word. -/
abbrev Answering := Meaning → Nat → Eval (Bool × Nat)

/-- The answer of an operand, or of an operator with its operands. -/
def primary (words : Array String) (whole : Answering) : Answering := fun meaning i => do
  match meaning with
  | .missing => return (false, i)
  | .openParen =>
    let inside := meaningAt words (i + 1)
    if inside = .closeParen then return (false, i + 1)
    let (answer, i) ← whole inside (i + 1)
    if meaningAt words (i + 1) ≠ .closeParen then fail "closing paren expected"
    return (answer, i + 1)
  | .unary letter =>
    match words[i + 1]? with
    | none => fail ("-" ++ letter.toString ++ ": argument expected")
    | some word => return (← unaryAnswer letter word, i + 1)
  | _ =>
    let word := words[i]?.getD ""
    match meaningAt words (i + 1) with
    | .binary operator =>
      match words[i + 2]? with
      | none => fail (operator ++ ": argument expected")
      | some second => return (← binaryAnswer operator word second, i + 2)
    | _ => return (word ≠ "", i)

/-- The answer of negations. -/
def negations (words : Array String) (whole : Answering) : (fuel : Nat) → Answering
  | 0, meaning, i => primary words whole meaning i
  | fuel + 1, meaning, i =>
    if meaning = .negation then do
      let next := meaningAt words (i + 1)
      let (answer, i) ← negations words whole fuel next (if next = .missing then i else i + 1)
      return (!answer, i)
    else primary words whole meaning i

/-- The answer of conjunctions. -/
def conjunctions (words : Array String) (whole : Answering) : (fuel : Nat) → Answering
  | 0, meaning, i => negations words whole 0 meaning i
  | fuel + 1, meaning, i => do
    let (answer, i) ← negations words whole (fuel + 1) meaning i
    if meaningAt words (i + 1) = .conjunction then
      let (others, i) ← conjunctions words whole fuel (meaningAt words (i + 2)) (i + 2)
      return (answer && others, i)
    else return (answer, i)

/-- The answer of disjunctions. -/
def disjunctions (words : Array String) (whole : Answering) : (fuel : Nat) → Answering
  | 0, meaning, i => conjunctions words whole 0 meaning i
  | fuel + 1, meaning, i => do
    let (answer, i) ← conjunctions words whole (fuel + 1) meaning i
    if meaningAt words (i + 1) = .disjunction then
      let (others, i) ← disjunctions words whole fuel (meaningAt words (i + 2)) (i + 2)
      return (answer || others, i)
    else return (answer, i)

/-- The answer of a whole expression, in which expressions are nested no deeper than that. -/
def whole (words : Array String) : (depth : Nat) → Answering
  | 0, meaning, i => disjunctions words (fun _ i => pure (false, i)) words.size meaning i
  | depth + 1, meaning, i => disjunctions words (whole words depth) words.size meaning i

/-- The answer of all words, from the first meaning on. -/
def answerFrom (words : Array String) (first : Meaning) : Eval Bool := do
  let (answer, i) ← whole words words.size first 0
  if i + 1 < words.size && words[i]?.isSome then
    fail ((words[i]?).getD "" ++ ": unexpected operator")
  return answer

/-- The answer to the words of a test. -/
def answer : List String → Eval Bool
  | [] => return false
  | [first, operator, last] =>
    if isBinary operator then answerFrom #[first, operator, last] .operand
    else if first = "(" && last = ")" then answerFrom #[operator] (meaningAt #[operator] 0)
    else if first = "!" then return !(← answer [operator, last])
    else answerFrom #[first, operator, last] (meaningAt #[first, operator, last] 0)
  | [first, second, third, last] =>
    let words := #[first, second, third, last]
    if first = "(" && last = ")" then answerFrom #[second, third] (meaningAt #[second, third] 0)
    else if first = "!" then return !(← answer [second, third, last])
    else answerFrom words (meaningAt words 0)
  | words => answerFrom words.toArray (meaningAt words.toArray 0)

/-- The test command. -/
def run (name : String) (words : List String) : Eval Nat := do
  let words ←
    if name = "[" then do
      if words.getLast? ≠ some "]" then fail "missing ]"
      pure words.dropLast
    else pure words
  return if ← answer words then 0 else 1

end CommandShell.Machine.SystemShell.Test
