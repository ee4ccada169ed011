import CommandShell.Machine.SystemShell.Builtin.Input
import CommandShell.Machine.SystemShell.Evaluation.Deciding
set_option autoImplicit false

/-!
# Loops

A loop runs its body round by round.  A round may be cut short, and a jump may leave several loops
at once.
-/

namespace CommandShell.Machine.SystemShell

/-- How many rounds a loop has at most. -/
def maxRounds : Nat := 1000000

/-- What the end of a round means for a loop. -/
inductive Round (α : Type) where
  | ended (result : α)
  /-- The round was cut short, and the next one begins. -/
  | next
  | stop

/-- Does one round of a loop. -/
def runRound {α : Type} (body : Eval α) : Eval (Round α) := do
  modify fun state => { state with loops := state.loops + 1 }
  let leave : Eval Unit := modify fun state => { state with loops := state.loops - 1 }
  let result ← tryCatch (Round.ended <$> body) fun jump => do
    match jump with
    | .leaveLoops (count + 2) =>
      leave
      throw (.leaveLoops (count + 1))
    | .leaveLoops _ => return .stop
    | .nextRound (count + 2) =>
      leave
      throw (.nextRound (count + 1))
    | .nextRound _ => return .next
    | jump =>
      leave
      throw jump
  leave
  return result

/-- Runs a loop with a test. -/
def runLoop (runner : Runner) (isUntil : Bool) (test body : Command) :
    (fuel : Nat) → (status : Nat) → Eval Nat
  | 0, status => return status
  | fuel + 1, status => do
    let round ← runRound do
      let succeeded := (← tested (runner.command false test)) = 0
      if succeeded = isUntil then return none
      return some (← runner.command false body)
    match round with
    | .stop => return 0
    | .next => runLoop runner isUntil test body fuel 0
    | .ended none => return status
    | .ended (some status) => runLoop runner isUntil test body fuel status

/-! ## Loops over words -/

/-- The words of a loop; without any, the arguments. -/
def loopWords (runner : Runner) : Option (List (List Part)) → Eval (List String)
  | none => return (← get).arguments
  | some words => expandWords runner.expander words

/-- The beginning of a loop over words as it is written. -/
def loopHead (keyword name : String) (words : Option (List (List Part))) : String :=
  keyword ++ " " ++ name ++ " in "
    ++ ((words.map fun words => Printing.wordList words).getD "\"$@\"")

/-- A round of a loop of the extended dialect begins. -/
def beginRound (runner : Runner) (line : Nat) (head : String) : Eval Unit := do
  modify fun state => { state with line }
  trace runner.expander head
  beginCommand runner line (.ofText head)

/-- Gives the variable of a loop the next word.  A reference to a variable then refers to another
one. -/
def setLoopVariable (name word : String) : Eval Unit := do
  match (← get).stored? name with
  | some v =>
    if v.isReference then
      modify fun state => state.putVariable name { v with value := some word }
    else setVariable name word
  | none => setVariable name word

/-- Gives the variable of a loop the next word.  Where that fails, a loop of the extended dialect
comes to its end. -/
def takeLoopWord (name word : String) : Eval Bool := do
  let extended ← speaksExtended
  tryCatch (do
      setLoopVariable name word
      return true)
    fun jump => do
      match jump, extended with
      | .fail _, true => return false
      | jump, _ => throw jump

/-- Runs a loop over words; `begin` is done at the beginning of every round. -/
def runEach (runner : Runner) (begin : Eval Unit) (name : String) (body : Command) :
    (words : List String) → (status : Nat) → Eval Nat
  | [], status => return status
  | word :: rest, _ => do
    begin
    if !(← takeLoopWord name word) then return 1
    match ← runRound (runner.command false body) with
    | .stop => return 0
    | .next => runEach runner begin name body rest 0
    | .ended status => runEach runner begin name body rest status

/-- A name that a loop of the extended dialect may give to its variable. -/
def acceptLoopName (name : String) : Eval Bool := do
  if isName name then return true
  warnOutside ("\u0060" ++ name ++ "': not a valid identifier")
  return false

/-- Runs a loop over the words that are given. -/
def runGivenEach (runner : Runner) (line : Nat) (name : String)
    (words : Option (List (List Part))) (body : Command) : Eval Nat := do
  modify fun state => { state with line }
  if !(← speaksExtended) then
    return ← runEach runner (pure ()) name body (← loopWords runner words) 0
  if !(← acceptLoopName name) then return 1
  let begin := beginRound runner line (loopHead "for" name words)
  runEach runner begin name body (← loopWords runner words) 0

/-! ## Counted loops -/

/-- The value of one of the three expressions of a counted loop. -/
def calculatePart (runner : Runner) (line : Nat) (expression : List Part) : Eval (Option Int) := do
  let source := (Part.spelled expression).toList.dropWhile Char.isWhitespace
  let isMissing := source.isEmpty && Part.areNothing expression
  let expression := if isMissing then [.text "1" false] else expression
  beginCommand runner line
    (.ofText ("((" ++ (if isMissing then "1" else String.ofList source) ++ "))"))
  calculateAside runner expression

/-- Runs a counted loop from a test on. -/
def runCountedRounds (runner : Runner) (line : Nat) (test step : List Part) (body : Command) :
    (fuel : Nat) → (status : Nat) → Eval Nat
  | 0, status => return status
  | fuel + 1, status => do
    match ← calculatePart runner line test with
    | none => return 1
    | some 0 => return status
    | some _ =>
      let goOn (status : Nat) : Eval Nat := do
        match ← calculatePart runner line step with
        | none => return 1
        | some _ => runCountedRounds runner line test step body fuel status
      match ← runRound (runner.command false body) with
      | .stop => return 0
      | .next => goOn 0
      | .ended status => goOn status

/-- Runs a counted loop. -/
def runCounted (runner : Runner) (line : Nat) (first test step : List Part) (body : Command) :
    Eval Nat := do
  match ← calculatePart runner line first with
  | none => return 1
  | some _ => runCountedRounds runner line test step body maxRounds 0

/-! ## Menus -/

/-- How wide a menu may be. -/
def menuWidth : Nat := 80

/-- Blanks from one column to another one, as far as possible with tabs. -/
def columnGap : (fuel : Nat) → (start finish : Nat) → String
  | 0, _, _ => ""
  | fuel + 1, start, finish =>
    if start ≥ finish then ""
    else if finish / 8 > start / 8 then
      "\t" ++ columnGap fuel (start + 8 - start % 8) finish
    else " " ++ columnGap fuel (start + 1) finish

/-- The layout of a menu. -/
structure MenuLayout where
  words : Array String
  rows : Nat
  /-- How wide a column is. -/
  width : Nat
  /-- How wide the numbers of the first column are, and of the other ones. -/
  firstDigits : Nat
  otherDigits : Nat

/-- The layout of a menu of words. -/
def MenuLayout.of (words : List String) : MenuLayout :=
  let count := words.length
  let digits (n : Nat) : Nat := (toString n).length
  let longest := (words.map String.length).foldl max 0
  let width := longest + digits count + 4
  let columns := max 1 (menuWidth / width)
  let rows := (count + columns - 1) / columns
  let columns := (count + rows - 1) / rows
  let rows := if rows = 1 then columns else rows
  { words := words.toArray, rows, width, firstDigits := digits rows, otherDigits := digits count }

/-- The rest of a row of a menu, from an item on that begins in a column of the screen. -/
def MenuLayout.row (menu : MenuLayout) : (fuel : Nat) → (place column : Nat) → String
  | 0, _, _ => "\n"
  | fuel + 1, place, column =>
    let digits := if column = 0 then menu.firstDigits else menu.otherDigits
    let number := toString (place + 1)
    let word := menu.words.getD place ""
    let gap := String.ofList (List.replicate (digits - number.length) ' ')
    let text := gap ++ number ++ ") " ++ word
    if place + menu.rows ≥ menu.words.size then text ++ "\n"
    else
      let finish := column + menu.width
      text ++ columnGap menu.width (column + digits + 2 + word.length) finish
        ++ menu.row fuel (place + menu.rows) finish

/-- The text of a menu. -/
def menuText (words : List String) : String :=
  let menu := MenuLayout.of words
  String.join ((List.range menu.rows).map fun place => menu.row words.length place 0)

/-- Shows a menu and asks for a word of it; none if there is no answer.  An empty answer asks for
the menu once more. -/
def chooseWord (words : List String) : (fuel : Nat) → Eval (Option String)
  | 0 => return none
  | fuel + 1 => do
    putError (menuText words)
    putError (((← get).value? "PS3").getD "#? ")
    let rules : LineRules := {}
    let (line, ending) ← rules.read Program.budget []
    setVariable "REPLY" (textOf line)
    match ending, line with
    | .whole, [] => chooseWord words fuel
    | .whole, line =>
      return some <|
        match signedNumber? (textOf line) with
        | some (.ofNat (n + 1)) => (words[n]?).getD ""
        | _ => ""
    | _, _ =>
      let _ ← putText "\n"
      return none

/-- Runs a loop over the words that are chosen from a menu. -/
def runMenuRounds (runner : Runner) (name : String) (words : List String) (body : Command) :
    (fuel : Nat) → (status : Nat) → Eval Nat
  | 0, status => return status
  | fuel + 1, _ => do
    match ← chooseWord words maxRounds with
    | none => return 1
    | some word =>
      setVariable name word
      match ← runRound (runner.command false body) with
      | .stop => return 0
      | .next => runMenuRounds runner name words body fuel 0
      | .ended status => runMenuRounds runner name words body fuel status

/-- Runs a loop with a menu. -/
def runMenu (runner : Runner) (line : Nat) (name : String) (words : Option (List (List Part)))
    (body : Command) : Eval Nat := do
  modify fun state => { state with line }
  if !(← acceptLoopName name) then return 1
  let given ← loopWords runner words
  beginRound runner line (loopHead "select" name words)
  if given.isEmpty then return 0
  runMenuRounds runner name given body maxRounds 0

end CommandShell.Machine.SystemShell
