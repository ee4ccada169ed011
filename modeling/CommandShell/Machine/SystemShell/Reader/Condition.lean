import CommandShell.Machine.SystemShell.Reader.Token
set_option autoImplicit false

/-!
# Reading conditions

What stands between `[[` and `]]` in the extended dialect.  Conjunctions bind more tightly than
disjunctions, and line feeds between the parts do not count.
-/

namespace CommandShell.Machine.SystemShell

/-- The operators before a word. -/
def unaryConditions : List String :=
  ["a", "b", "c", "d", "e", "f", "g", "h", "k", "n", "o", "p", "r", "s", "t", "u", "v", "w", "x",
    "z", "G", "L", "N", "O", "R", "S"].map ("-" ++ ·)

/-- The operators between two words, other than `<` and `>`. -/
def binaryConditions : List String :=
  ["=", "==", "!=", "=~", "-eq", "-ne", "-lt", "-le", "-gt", "-ge", "-nt", "-ot", "-ef"]

/-- The text on the right of the operator is a pattern. -/
def takesPattern (operator : String) : Bool :=
  operator = "=" || operator = "==" || operator = "!="

/-- The last token, unless it is a word, in quotes. -/
def lastOperator : ReadM String := do
  let written ← lastWritten
  return match (← get).last with
    | .word _ | .keyword .. => ""
    | _ => hooked written ++ " "

/-- The word that ends a condition. -/
def isConditionEnd (parts : List Part) : Bool := Part.literal? parts = some "]]"

/-- Refuses a word that stands where an operator needs an operand. -/
def refuseOperand {α : Type} (word kind : String) : ReadM α :=
  refuseNear ["unexpected argument " ++ word ++ "to conditional " ++ kind ++ " operator"]

/-- Reads the operand after an operator. -/
def readOperand (inner : InnerReaders) (kind : String) : ReadM (List Part) := do
  match ← readPlainToken inner with
  | .word parts =>
    if isConditionEnd parts then refuseOperand (hooked "]]" ++ " ") kind
    return parts
  | _ => refuseOperand (← lastOperator) kind

/-- Reads the right-hand side of an operator. -/
def readRightSide (inner : InnerReaders) (operator : String) : ReadM (List Part) := do
  if operator = "=~" then
    skipBlanks (← readingFuel)
    let before ← get
    let parts ← inner.parts .regex
    if !parts.isEmpty then
      if isConditionEnd parts then refuseOperand (hooked "]]" ++ " ") "binary"
      return parts ++ [.spelling (← readSince before)]
  let hadGroups := (← get).hasGroups
  if takesPattern operator then modify fun reader => { reader with hasGroups := true }
  let parts ← readOperand inner "binary"
  modify fun reader => { reader with hasGroups := hadGroups }
  return parts

/-- Reads what follows the first word of a term. -/
def readComparison (inner : InnerReaders) (left : List Part) : ReadM Condition := do
  let token ← readPlainToken inner
  let symbol? : Option String ←
    match token with
    | .word parts =>
      match Part.literal? parts with
      | some text => pure (if binaryConditions.contains text then some text else none)
      | none => pure none
    | .redirection _ _ =>
      let text := (← get).lastText
      pure (if text = "<" || text = ">" then some text else none)
    | _ => pure none
  match symbol?, token with
  | some symbol, _ => return .binary symbol left (← readRightSide inner symbol)
  | none, .word parts =>
    if isConditionEnd parts then
      pushBack
      return .filled left
    refuseNear ["conditional binary operator expected"]
  | none, .andIf | none, .orIf | none, .closeParen =>
    pushBack
    return .filled left
  | none, _ =>
    refuseNear ["unexpected token " ++ hooked (← lastWritten)
      ++ ", conditional binary operator expected"]

/-- Reads a term; `whole` reads a condition in parentheses. -/
def readTerm (inner : InnerReaders) (whole : ReadM Condition) : (fuel : Nat) → ReadM Condition
  | 0 => refuse "condition too long"
  | fuel + 1 => do
    match ← readPastNewlines inner (← readingFuel) with
    | .openParen =>
      let condition ← whole
      match ← readPastNewlines inner (← readingFuel) with
      | .closeParen => return condition
      | .word parts =>
        refuseNear ["unexpected token " ++ hooked (Part.spelled parts) ++ ", expected "
          ++ hooked ")"]
      | _ => refuseNear ["expected " ++ hooked ")"]
    | .word parts =>
      match Part.literal? parts with
      | some "]]" => refuseNear []
      | some "!" => return .negation (← readTerm inner whole fuel)
      | some text =>
        if unaryConditions.contains text then return .unary text (← readOperand inner "unary")
        else readComparison inner parts
      | none => readComparison inner parts
    | .finish => refuseEnd
    | _ =>
      refuseNear ["unexpected token " ++ hooked (← lastWritten) ++ " in conditional command"]

/-- Reads terms that must all hold. -/
def readTerms (inner : InnerReaders) (whole : ReadM Condition) : (fuel : Nat) → ReadM Condition
  | 0 => refuse "condition too long"
  | fuel + 1 => do
    let first ← readTerm inner whole (fuel + 1)
    match ← readPastNewlines inner (← readingFuel) with
    | .andIf => return .both first (← readTerms inner whole fuel)
    | _ =>
      pushBack
      return first

/-- Reads conditions of which one must hold. -/
def readAlternatives (inner : InnerReaders) (whole : ReadM Condition) :
    (fuel : Nat) → ReadM Condition
  | 0 => refuse "condition too long"
  | fuel + 1 => do
    let first ← readTerms inner whole (fuel + 1)
    match ← readPastNewlines inner (← readingFuel) with
    | .orIf => return .either first (← readAlternatives inner whole fuel)
    | _ =>
      pushBack
      return first

/-- Reads a condition in which conditions are nested no deeper than that. -/
def readWhole (inner : InnerReaders) : (depth : Nat) → ReadM Condition
  | 0 => refuse "nesting too deep"
  | depth + 1 => do
    readAlternatives inner (readWhole inner depth) (← readingFuel)

/-- Reads a condition up to its end. -/
def readCondition (inner : InnerReaders) : ReadM Condition := do
  let condition ← readWhole inner (← readingFuel)
  match ← readPastNewlines inner (← readingFuel) with
  | .word parts =>
    if isConditionEnd parts then return condition
    refuseNear []
  | _ => refuseNear []

end CommandShell.Machine.SystemShell
