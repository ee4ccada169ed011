import CommandShell.Machine.Regex
import CommandShell.Machine.SystemShell.Builtin.Condition
import CommandShell.Machine.SystemShell.Evaluation.Settling
set_option autoImplicit false

/-!
# Deciding

Conditions and calculations as commands, and the choice of a case by its patterns.
-/

namespace CommandShell.Machine.SystemShell

/-! ## Calculations -/

/-- The value of an expression that is a command or part of one; a fault is complained about. -/
def calculateAside (runner : Runner) (expression : List Part) : Eval (Option Int) := do
  let text := pieceText (← expandParts runner.expander false expression)
  trace runner.expander ("(( " ++ text ++ " ))")
  match ← calculate? text with
  | .ok value => return some value
  | .error fault =>
    warnOfCalculation "((" fault
    return none

/-- The exit status of a calculation. -/
def runCalculation (runner : Runner) (expression : List Part) : Eval Nat := do
  match ← calculateAside runner expression with
  | none | some 0 => return 1
  | some _ => return 0

/-! ## Regular expressions -/

/-- The bytes that mean something in a regular expression. -/
def regexSigns : List Char := ['.', '[', '\\', '(', ')', '*', '+', '?', '\x7b', '|', '^', '$']

/-- The regular expression that a word stands for: what was in quotes stands for itself. -/
def regexSource : (inBrackets : Bool) → List Glyph → List UInt8
  | _, [] => []
  | true, glyph :: rest => glyph.byte :: regexSource (!glyph.is ']') rest
  | false, glyph :: rest =>
    if glyph.quoted && regexSigns.any (·.toNat = glyph.byte.toNat) then
      0x5C :: glyph.byte :: regexSource false rest
    else glyph.byte :: regexSource (glyph.is '[') rest

/-- The variable that gets what a regular expression and its groups have matched. -/
def matchVariable : String := "BASH_REMATCH"

/-- Puts texts into the variable for what has been matched. -/
def storeMatches (texts : List String) : Eval Unit :=
  modify fun state => state.putVariable matchVariable
    { value := some "", shape := .indexed
      elements := texts.zipIdx.map fun (text, i) => (toString i, text) }

/-- The exit status of matching a text against a regular expression. -/
def runMatch (text : List UInt8) (pattern : List UInt8) : Eval Nat := do
  match Regex.read true pattern with
  | .error _ => return 2
  | .ok expr =>
    let ignoreCase ← hasFeature "nocasematch"
    let expr := if ignoreCase then expr.ignoreCase else expr
    let bytes := text.toArray
    match expr.search { bytes, ignoreCase } with
    | none =>
      storeMatches []
      return 1
    | some found =>
      let textBetween (start finish : Nat) : String :=
        textOfBytes (bytes.extract start finish).toList
      let groups := (List.range' 1 expr.groupCount).map fun number =>
        match found.groups.lookup number with
        | some (start, finish) => textBetween start finish
        | none => ""
      storeMatches (textBetween found.start found.finish :: groups)
      return 0

/-! ## Conditions -/

/-- The exit status of an answer. -/
def answerStatus (answer : Bool) : Nat := if answer then 0 else 1

/-- The exit status of the opposite. -/
def oppositeStatus (status : Nat) : Nat := if status = 0 then 1 else 0

/-- A text in a condition that is shown. -/
def shownOperand (text : String) : String := if text = "" then "''" else text

/-- A pattern as it is shown: a backslash stands before what was in quotes. -/
def shownPattern (pattern : List Glyph) : String :=
  textOfBytes (pattern.flatMap fun glyph =>
    if glyph.quoted then [0x5C, glyph.byte] else [glyph.byte])

/-- Shows a term of a condition. -/
def traceTerm (runner : Runner) (isNegated : Bool) (words : List String) : Eval Unit :=
  trace runner.expander
    ("[[ " ++ (if isNegated then "! " else "") ++ " ".intercalate words ++ " ]]")

/-- The answer to a question about one text. -/
def answerUnary (operator text : String) : Eval Bool := do
  let rules := (← get).conditionRules
  match operator.toList with
  | ['-', given] =>
    let letter := (rules.synonyms.lookup given).getD given
    match rules.answer? letter text, letter with
    | some answer, _ => return answer
    | none, 'n' => return text ≠ ""
    | none, 'z' => return text = ""
    | none, 't' => return false
    | none, letter => doRoutine (Program.fileTest letter text)
  | _ => return false

/-- The number of an operand; a fault is complained about. -/
def operandNumber? (text : String) : Eval (Option Int) := do
  match ← calculate? text with
  | .ok value => return some value
  | .error fault =>
    warnOfCalculation "[[" fault
    return none

/-- The answer to a question about two numbers. -/
def answerNumbers (operator first second : String) : Eval Bool := do
  let some a ← operandNumber? first | return false
  let some b ← operandNumber? second | return false
  return (Program.compareIntegers? operator a b).getD false

/-- The exit status of a term with two operands. -/
def runBinary (runner : Runner) (isNegated : Bool) (operator : String) (left right : List Part) :
    Eval Nat := do
  let expander := runner.expander
  let first ← expandText expander left
  let display (shown : String) : Eval Unit :=
    traceTerm runner isNegated [shownOperand first, operator, shownOperand shown]
  match operator with
  | "=" | "==" | "!=" =>
    let pattern ← expandPattern expander right
    display (shownPattern pattern)
    let rules := { (← patternRules) with hasGroups := true }
    let isFit := patternFits pattern (bytesOfText first) rules
    return answerStatus (isFit = (operator ≠ "!="))
  | "=~" =>
    let pattern := regexSource false (← expandPattern expander right)
    display (textOfBytes pattern)
    runMatch (bytesOfText first) pattern
  | operator =>
    let second ← expandText expander right
    display second
    if Program.fileComparisons.contains operator then
      return answerStatus (← doRoutine (Program.compareFiles operator first second))
    match Program.compareTexts? operator first second with
    | some answer => return answerStatus answer
    | none => return answerStatus (← answerNumbers operator first second)

/-- The exit status of a condition, or of its opposite. -/
def runCondition (runner : Runner) : (isNegated : Bool) → Condition → Eval Nat
  | isNegated, .negation condition => runCondition runner (!isNegated) condition
  | isNegated, .both first second => do
    let status ← runCondition runner false first
    let status ← if status = 0 then runCondition runner false second else pure status
    return if isNegated then oppositeStatus status else status
  | isNegated, .either first second => do
    let status ← runCondition runner false first
    let status ← if status = 0 then pure status else runCondition runner false second
    return if isNegated then oppositeStatus status else status
  | isNegated, .filled word => do
    let text ← expandText runner.expander word
    traceTerm runner isNegated ["-n", shownOperand text]
    return answerStatus ((text ≠ "") ≠ isNegated)
  | isNegated, .unary operator word => do
    let text ← expandText runner.expander word
    traceTerm runner isNegated [operator, shownOperand text]
    return answerStatus ((← answerUnary operator text) ≠ isNegated)
  | isNegated, .binary operator left right => do
    let status ← runBinary runner isNegated operator left right
    return if isNegated then oppositeStatus status else status

/-! ## Cases -/

/-- A case of a selection. -/
abbrev Case := List (List Part) × Command × CaseEnd

/-- One of the patterns fits a text; the ones after it are not expanded. -/
def anyPatternFits (expander : Expander) (text : List UInt8) : List (List Part) → Eval Bool
  | [] => return false
  | parts :: rest => do
    if patternFits (← expandPattern expander parts) text (← patternRules) then return true
    anyPatternFits expander text rest

/-- The cases from the first one on that has a pattern that fits. -/
def findCase (expander : Expander) (text : List UInt8) : List Case → Eval (List Case)
  | [] => return []
  | (patterns, body, ending) :: rest => do
    if ← anyPatternFits expander text patterns then return (patterns, body, ending) :: rest
    findCase expander text rest

/-- Runs the first of some cases, and what follows it as its end says. -/
def runCases (runner : Runner) (final : Bool) (text : List UInt8) :
    (fuel : Nat) → (status : Nat) → List Case → Eval Nat
  | 0, status, _ => return status
  | _, status, [] => return status
  | fuel + 1, _, (_, body, ending) :: rest => do
    match ending with
    | .leave => runner.command final body
    | .fallThrough =>
      let status ← runner.command false body
      runCases runner final text fuel status rest
    | .lookOn =>
      let status ← runner.command false body
      runCases runner final text fuel status (← findCase runner.expander text rest)

/-- Runs the cases that the value of a word chooses. -/
def runSelection (runner : Runner) (final : Bool) (line : Nat) (word : List Part)
    (cases : List Case) : Eval Nat := do
  modify fun state => { state with line }
  if ← speaksExtended then
    let head := "case " ++ Part.spelled word ++ " in "
    trace runner.expander head.trimAsciiEnd.toString
    beginCommand runner line (.ofText head)
  let text := bytesOfText (← expandText runner.expander word)
  runCases runner final text (cases.length + 1) 0 (← findCase runner.expander text cases)

end CommandShell.Machine.SystemShell
