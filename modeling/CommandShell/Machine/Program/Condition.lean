import CommandShell.Machine.Program.FileTest
set_option autoImplicit false

/-!
# Conditions

A condition is a list of words, one for each operand and operator.  Up to four words mean what their
number says; more are read as operators with their operands.
-/

namespace CommandShell.Machine.Program.Condition

variable {α : Type}

/-- Why a condition has no answer. -/
inductive Fault where
  /-- Something is missing after the last word. -/
  | missingAfter (word : String)
  | notInteger (word : String)
  | notUnary (word : String)
  | notBinary (word : String)
  /-- A parenthesis is not closed before the end or another word. -/
  | unclosed (found : Option String)
  /-- There are two words, of which the first one is no operator. -/
  | twoWords (first last : String)
  /-- A word is left over. -/
  | extra (word : String)
  deriving DecidableEq

/-- The wording of a fault. -/
def Fault.message : Fault → String
  | missingAfter word | twoWords _ word => "missing argument after " ++ quotedWord word
  | notInteger word => "invalid integer " ++ quotedWord word
  | notUnary word => quotedWord word ++ ": unary operator expected"
  | notBinary word => quotedWord word ++ ": binary operator expected"
  | unclosed none => "')' expected"
  | unclosed (some word) => "')' expected, found " ++ quotedWord word
  | extra word => "extra argument " ++ quotedWord word

/-- What conditions may be made of. -/
structure Rules where
  /-- Texts can be compared with `<` and `>`. -/
  ordersTexts : Bool := false
  /-- Letters that ask the same as others. -/
  synonyms : List (Char × Char) := []
  /-- The answers to further questions before a word. -/
  answer? : (letter : Char) → (word : String) → Option Bool := fun _ _ => none

/-- Reading a condition word by word: where the reading is, or why it fails. -/
abbrev Reading (α : Type) := StateT Nat (ExceptT Fault Routine) α

/-- Makes a routine's result part of a reading. -/
def ask (routine : Routine α) : Reading α :=
  fun position => ExceptT.mk (routine.bind fun result => .done (.ok (result, position)))

/-- What a condition is read from. -/
structure Source where
  rules : Rules
  words : Array String
  /-- Reads the `count` words from the next one on. -/
  inner : (count : Nat) → Reading Bool

/-- The operators between two source. -/
def Rules.binaryOperators (rules : Rules) : List String :=
  ["=", "==", "!=", "-nt", "-ot", "-ef", "-eq", "-ne", "-lt", "-le", "-gt", "-ge"]
    ++ if rules.ordersTexts then ["<", ">"] else []

/-- The word so many places after the next one. -/
def ahead (words : Array String) (offset : Nat) : Reading (Option String) := do
  return words[(← get) + offset]?

/-- Passes over words. -/
def skip (count : Nat) : Reading Unit := modify (· + count)

/-- A word is missing after the last one. -/
def beyond (words : Array String) : Reading α :=
  throw (.missingAfter (words.back?.getD ""))

/-- Passes over one word; another one must follow. -/
def skipToNext (words : Array String) : Reading Unit := do
  skip 1
  if (← ahead words 0).isNone then beyond words

/-- The number that a word stands for. -/
def number (word : String) : Reading Int :=
  let isBlank (c : Char) : Bool := c = ' ' || c = '\t'
  let body := ((word.toList.dropWhile isBlank).reverse.dropWhile isBlank).reverse
  match integer? (String.ofList body) with
  | some n => return n
  | none => throw (.notInteger word)

/-- An operator between two source. -/
def binary (words : Array String) : Reading Bool := do
  let first := (← ahead words 0).getD ""
  let operator := (← ahead words 1).getD ""
  skip 1
  skipToNext words
  let second := (← ahead words 0).getD ""
  skip 1
  match compareTexts? (if operator = "==" then "=" else operator) first second with
  | some answer => return answer
  | none =>
    if fileComparisons.contains operator then ask (compareFiles operator first second)
    else
      let a ← number first
      let b ← number second
      return (compareIntegers? operator a b).getD false

/-- An operator before a word. -/
def unary (rules : Rules) (words : Array String) : Reading Bool := do
  let operator := (← ahead words 0).getD ""
  match operator.toList with
  | ['-', given] =>
    let letter := (rules.synonyms.lookup given).getD given
    let isFurther := (rules.answer? letter "").isSome
    if !isFurther && !(fileTestLetters ++ ['n', 'z', 't']).contains letter then
      throw (.notUnary operator)
    skipToNext words
    let word := (← ahead words 0).getD ""
    skip 1
    if let some answer := rules.answer? letter word then return answer
    match letter with
    | 'n' => return word ≠ ""
    | 'z' => return word = ""
    | 't' =>
      let _ ← number word
      return false
    | letter => ask (fileTest letter word)
  | _ => throw (.notUnary operator)

/-- A word alone. -/
def single (words : Array String) : Reading Bool := do
  let word := (← ahead words 0).getD ""
  skip 1
  return word ≠ ""

/-- A word that may be an operator before another word. -/
def isUnaryForm (word : String) : Bool := word.length = 2 && word.startsWith "-"

/-- A condition without connectives. -/
def term (source : Source) : Reading Bool := do
  let words := source.words
  let start ← get
  let marks := ((words.toList.drop start).takeWhile (· = "!")).length
  skip marks
  if (← ahead words 0).isNone then beyond words
  let left := words.size - (← get)
  let isBinary := left ≥ 3 && source.rules.binaryOperators.contains ((← ahead words 1).getD "")
  let answer ←
    if (← ahead words 0) = some "(" then do
      skipToNext words
      let rest := words.toList.drop (← get)
      let inside := (rest.drop 1).takeWhile (· ≠ ")")
      let count := if inside.length ≥ 3 then rest.length else inside.length + 1
      let answer ← source.inner count
      match ← ahead words 0 with
      | none => throw (.unclosed none)
      | some ")" => skip 1
      | some word => throw (.unclosed (some word))
      pure answer
    else if isBinary then binary words
    else if isUnaryForm ((← ahead words 0).getD "") then unary source.rules words
    else single words
  return answer != (marks % 2 = 1)

/-- Conditions that must all hold. -/
def conjunction (source : Source) : (fuel : Nat) → Reading Bool
  | 0 => term source
  | fuel + 1 => do
    let first ← term source
    if (← ahead source.words 0) = some "-a" then
      skip 1
      let others ← conjunction source fuel
      return first && others
    else return first

/-- Conditions of which one must hold. -/
def disjunction (source : Source) : (fuel : Nat) → Reading Bool
  | 0 => conjunction source source.words.size
  | fuel + 1 => do
    let first ← conjunction source source.words.size
    if (← ahead source.words 0) = some "-o" then
      skip 1
      let others ← disjunction source fuel
      return first || others
    else return first

/-- Two words. -/
def two (source : Source) : Reading Bool := do
  let words := source.words
  let word := (← ahead words 0).getD ""
  if word = "!" then
    skip 1
    return !(← single words)
  else if isUnaryForm word then unary source.rules words
  else throw (.twoWords word (words.back?.getD ""))

/-- Three words. -/
def three (source : Source) : Reading Bool := do
  let words := source.words
  let first := (← ahead words 0).getD ""
  let second := (← ahead words 1).getD ""
  if source.rules.binaryOperators.contains second then binary words
  else if first = "!" then
    skip 1
    return !(← two source)
  else if first = "(" && (← ahead words 2) = some ")" then
    skip 1
    let answer ← single words
    skip 1
    return answer
  else if second = "-a" || second = "-o" then disjunction source words.size
  else throw (.notBinary second)

/-- The `count` words from the next one on, in which parentheses nest no deeper than that. -/
def read (rules : Rules) (words : Array String) : (depth : Nat) → (count : Nat) → Reading Bool
  | 0, _ => throw (.unclosed none)
  | depth + 1, count => do
    let source : Source := ⟨rules, words, read rules words depth⟩
    match count with
    | 0 => return false
    | 1 => single words
    | 2 => two source
    | 3 => three source
    | 4 =>
      let first := (← ahead words 0).getD ""
      if first = "!" then
        skip 1
        return !(← three source)
      else if first = "(" && (← ahead words 3) = some ")" then
        skip 1
        let answer ← two source
        skip 1
        return answer
      else disjunction source words.size
    | _ => disjunction source words.size

/-- A whole condition. -/
def readAll (rules : Rules) (words : Array String) : Reading Bool := do
  let answer ← read rules words (words.size + 1) words.size
  match ← ahead words 0 with
  | some word => throw (.extra word)
  | none => return answer

/-- The answer of a condition. -/
def answer (rules : Rules) (words : Array String) : Routine (Except Fault Bool) := do
  return (← ((readAll rules words).run 0).run).map Prod.fst

end CommandShell.Machine.Program.Condition

