import CommandShell.Machine.Awk.Token
import Std.Data.HashMap
set_option autoImplicit false

/-!
# Reading record programs

The tokens of a program are read as rules and functions.  Operators bind by level: a level takes its
operands from the next one.  After a token that does not belong the reader complains and goes on
with the next statement, so that one reading can find several faults.
-/

namespace CommandShell.Machine.Awk

/-- What a name is used as. -/
inductive Kind where
  | scalar
  | table
  deriving DecidableEq

/-- How a kind is named in a complaint. -/
def Kind.shown : Kind → String
  | scalar => "variable"
  | table => "array"

/-- How reading is interrupted. -/
inductive Interruption where
  /-- Reading can go on with the next statement. -/
  | statement
  /-- Nothing more can be read. -/
  | reading
  deriving DecidableEq

/-- A call of a function of the program, to be looked at when all functions are known. -/
structure CallNote where
  function : String
  arguments : Nat
  line : Nat

/-- How far reading has come. -/
structure ReaderState where
  tokens : Array (Token × Nat)
  position : Nat := 0
  /-- The complaints, the last one first. -/
  complaints : List String := []
  /-- What the variables of the program are used as. -/
  kinds : Std.HashMap String Kind := {}
  /-- The parameters of the function under way, with what they are used as. -/
  parameters : List (String × Option Kind) := []
  inFunction : Bool := false
  /-- The statement under way belongs to a rule for records. -/
  inRule : Bool := false
  /-- How many loops the statement is in. -/
  loops : Nat := 0
  functions : List (String × Function) := []
  calls : List CallNote := []
  /-- How many ranges have been read. -/
  ranges : Nat := 0
  /-- How many tokens are still to be taken before another token is refused aloud. -/
  quiet : Nat := 0

/-- Reads a program. -/
abbrev Reader := ExceptT Interruption (StateM ReaderState)

namespace Reader

variable {α : Type}

/-! ## Tokens and complaints -/

/-- The token that is to be read next, or one after it. -/
def peek (ahead : Nat := 0) : Reader Token := do
  let state ← get
  return (state.tokens[state.position + ahead]?.map Prod.fst).getD .finish

/-- The line of the token that is to be read next. -/
def line : Reader Nat := do
  let state ← get
  match state.tokens[state.position]? <|> state.tokens.back? with
  | some (_, line) => return line
  | none => return 1

/-- Goes on to the next token. -/
def advance : Reader Unit :=
  modify fun state => { state with position := state.position + 1, quiet := state.quiet - 1 }

/-- The greatest number of complaints. -/
def maxComplaints : Nat := 5

/-- How many tokens are taken after a refusal before there can be another one. -/
def quietTokens : Nat := 3

/-- Complains about the line that is being read. -/
def complain (text : String) : Reader Unit := do
  let line ← line
  modify fun state =>
    { state with complaints := ("line " ++ toString line ++ ": " ++ text) :: state.complaints }
  if (← get).complaints.length ≥ maxComplaints then throw .reading

/-- How many more opening than closing marks there are before the next token. -/
def openMarks (opening closing : String) : Reader Nat := do
  let state ← get
  return (state.tokens.toList.take state.position).foldl (fun (count : Nat) (token, _) =>
    match token with
    | .mark sign =>
      if sign = opening then count + 1 else if sign = closing then count - 1 else count
    | _ => count) 0

/-- Complains about the next token. -/
def refuse : Reader α := do
  let token ← peek
  match token with
  | .invalid complaint =>
    let state ← get
    let line ← line
    let front := if complaint.startsWith "unexpected" then "" else "line "
    let place := front ++ toString line
    set { state with complaints := (place ++ ": " ++ complaint) :: state.complaints }
    throw .reading
  | _ => pure ()
  let endsStatement : Bool := match token with
    | .finish | .newline => true
    | .mark sign => sign = ";" || sign = "\x7d"
    | _ => false
  let endsBlock : Bool := match token with
    | .finish => true
    | .keyword keyword _ => keyword = .opening || keyword = .closing
    | _ => false
  if (← get).quiet = 0 then
    if endsStatement && (← openMarks "(" ")") > 0 then complain ("missing ) near " ++ token.shown)
    else if endsBlock && (← openMarks "\x7b" "\x7d") > 0 then
      complain ("missing \x7d near " ++ token.shown)
    else complain ("syntax error at or near " ++ token.shown)
  throw (match token with
    | .finish => .reading
    | _ => .statement)

/-- The next token is a given operator or bracket. -/
def atMark (sign : String) (ahead : Nat := 0) : Reader Bool := do
  match ← peek ahead with
  | .mark other => return other = sign
  | _ => return false

/-- The next token is a given word. -/
def atKeyword (keyword : Keyword) (ahead : Nat := 0) : Reader Bool := do
  match ← peek ahead with
  | .keyword other _ => return other = keyword
  | _ => return false

/-- Takes a given operator or bracket, if it is there. -/
def takeMark (sign : String) : Reader Bool := do
  if ← atMark sign then
    advance
    return true
  return false

/-- Takes a given operator or bracket, which must be there. -/
def expectMark (sign : String) : Reader Unit := do
  if !(← takeMark sign) then refuse

/-- Takes ends of lines, at most `fuel` many. -/
def skipNewlines : (fuel : Nat) → Reader Unit
  | 0 => return
  | fuel + 1 => do
    match ← peek with
    | .newline =>
      advance
      skipNewlines fuel
    | _ => return

/-- Takes all ends of lines that come next. -/
def skipLines : Reader Unit := do skipNewlines (← get).tokens.size

/-! ## Names -/

/-- Complains that a name is not used as it was before. -/
def refuseKind (owner kind : String) (name : String) : Reader Unit :=
  complain ("illegal reference to " ++ owner ++ kind ++ " " ++ name)

/-- The meaning of a name that is used in some way, or passed on. -/
def resolve (name : String) (kind : Option Kind) : Reader Name := do
  let state ← get
  match state.parameters.findIdx? (·.1 = name) with
  | some index =>
    if let some kind := kind then
      let known := (state.parameters[index]?.bind Prod.snd)
      match known with
      | some known => if known ≠ kind then refuseKind "local " known.shown name
      | none =>
        set { state with
          parameters := state.parameters.modify index fun entry => (entry.1, some kind) }
    return .parameter index
  | none =>
    if state.functions.any (·.1 = name) then refuseKind "" "function" name
    else if let some kind := kind then
      match state.kinds[name]? with
      | some known => if known ≠ kind then refuseKind "" known.shown name
      | none => set { state with kinds := state.kinds.insert name kind }
    return .global name

/-! ## Expressions -/

/-- Operators that change what stands before them. -/
def assignments : List (String × Option Arithmetic) :=
  [("=", none), ("+=", some .add), ("-=", some .subtract), ("*=", some .multiply),
    ("/=", some .divide), ("%=", some .remainder), ("^=", some .power)]

/-- The operator that the next token is, of some. -/
def atOperator {β : Type} (operators : List (String × β)) : Reader (Option β) := do
  match ← peek with
  | .mark sign => return operators.lookup sign
  | _ => return none

/-- The comparisons; in the arguments of a printing statement one sign directs the output. -/
def relations (inPrint : Bool) : List (String × Relation) :=
  [("<", .less), ("<=", .atMost), ("==", .equal), ("!=", .unequal), (">=", .atLeast)]
    ++ if inPrint then [] else [(">", .greater)]

/-- Operators for sums. -/
def sums : List (String × Arithmetic) := [("+", .add), ("-", .subtract)]

/-- Operators for products. -/
def products : List (String × Arithmetic) :=
  [("*", .multiply), ("/", .divide), ("%", .remainder)]

/-- An expression that can be given a value. -/
def isTarget : Expr → Bool
  | .scalar _ | .element .. | .field _ | .group (.field _) => true
  | _ => false

/-- The next token can begin the right side of two texts that are put together. -/
def beginsText : Reader Bool := do
  match ← peek with
  | .number .. | .text _ | .pattern _ | .name _ | .functionName _ | .builtin .. => return true
  | .mark sign => return sign = "$" || sign = "!" || sign = "(" || sign = "++" || sign = "--"
  | _ => return false

/-- Compiles a pattern that stands in the program. -/
def compile (source : ByteArray) : Reader Regex.Expr := do
  match Pattern.read source with
  | .ok expr => return expr
  | .error fault =>
    complain ("regular expression compile failed (" ++ fault.message ++ ")\n"
      ++ Text.ofBytes source)
    return .empty

/-- An operand that is used as a pattern; a text that stands in the program is one. -/
def asPattern (expr : Expr) : Reader Expr := do
  match expr with
  | .text source => return .pattern (← compile source)
  | expr => return expr

/-- The level of an assignment. -/
def lowest : Nat := 0

/-- The level of the operands of a comparison. -/
def textLevel : Nat := 6

/-- The level of a sign before its operand. -/
def signLevel : Nat := 9

/-- The level of a power. -/
def powerLevel : Nat := 11

mutual

/-- Reads an expression of a level; in the arguments of a printing statement signs that direct the
output end it. -/
def readAt (inPrint : Bool) : (fuel level : Nat) → Reader Expr
  | 0, _ => refuse
  | fuel + 1, level => do
    match level with
    | 0 =>
      let left ← readOperand inPrint fuel 1
      if ← takeMark "?" then
        let yes ← readAt inPrint fuel lowest
        expectMark ":"
        let no ← readAt inPrint fuel lowest
        return .conditional left yes no
      return left
    | 9 =>
      if ← takeMark "!" then return .not (← readAt inPrint fuel signLevel)
      if ← takeMark "-" then return .negate (← readAt inPrint fuel signLevel)
      if ← takeMark "+" then return .plus (← readAt inPrint fuel signLevel)
      readAt inPrint fuel 10
    | 11 =>
      let base ← readStepped fuel
      if ← takeMark "^" then return .arithmetic .power base (← readExponent inPrint fuel)
      return base
    | level =>
      let left ← readAt inPrint fuel (level + 1)
      continueAt inPrint fuel level left

/-- Reads an operand of a level, which may be an assignment. -/
def readOperand (inPrint : Bool) : (fuel level : Nat) → Reader Expr
  | 0, _ => refuse
  | fuel + 1, level => do
    let expr ← readAt inPrint fuel level
    if !isTarget expr then return expr
    match ← atOperator assignments with
    | some operation =>
      advance
      return .assign expr operation (← readAt inPrint fuel lowest)
    | none => return expr

/-- Reads on after the first operand of a level. -/
def continueAt (inPrint : Bool) : (fuel level : Nat) → Expr → Reader Expr
  | 0, _, _ => refuse
  | fuel + 1, level, left => do
    match level with
    | 1 =>
      if ← takeMark "||" then
        skipLines
        let right ← readOperand inPrint fuel 2
        return ← continueAt inPrint fuel level (.or left right)
      return left
    | 2 =>
      if ← takeMark "&&" then
        skipLines
        let right ← readOperand inPrint fuel 3
        return ← continueAt inPrint fuel level (.and left right)
      return left
    | 3 =>
      if ← atKeyword .inWord then
        advance
        return ← continueAt inPrint fuel level (.contains [left] (← readTable))
      return left
    | 4 =>
      match ← atOperator [("~", false), ("!~", true)] with
      | some isNegated =>
        advance
        let right ← asPattern (← readOperand inPrint fuel 5)
        continueAt inPrint fuel level (.matching isNegated left right)
      | none => return left
    | 5 =>
      match ← atOperator (relations inPrint) with
      | some relation =>
        advance
        let right ← readOperand inPrint fuel textLevel
        continueAt inPrint fuel level (.relation relation left right)
      | none => return left
    | 6 =>
      if ← beginsText then
        let right ← readAt inPrint fuel 7
        return ← continueAt inPrint fuel level (.concat left right)
      return left
    | 7 =>
      match ← atOperator sums with
      | some operation =>
        advance
        let right ← readAt inPrint fuel 8
        continueAt inPrint fuel level (.arithmetic operation left right)
      | none => return left
    | 8 =>
      match ← atOperator products with
      | some operation =>
        advance
        let right ← readAt inPrint fuel signLevel
        continueAt inPrint fuel level (.arithmetic operation left right)
      | none => return left
    | 10 =>
      if !inPrint && (← atMark "|") && (← atKeyword .getline 1) then
        advance
        advance
        let target ← readLineTarget fuel
        return ← continueAt inPrint fuel level (.readCommand target left)
      return left
    | _ => return left

/-- Reads an exponent, which may have a sign. -/
def readExponent (inPrint : Bool) : (fuel : Nat) → Reader Expr
  | 0 => refuse
  | fuel + 1 => do
    if ← takeMark "-" then return .negate (← readExponent inPrint fuel)
    if ← takeMark "+" then return .plus (← readExponent inPrint fuel)
    if ← takeMark "!" then return .not (← readExponent inPrint fuel)
    readAt inPrint fuel powerLevel

/-- Reads an expression with a step before or after it. -/
def readStepped : (fuel : Nat) → Reader Expr
  | 0 => refuse
  | fuel + 1 => do
    match ← atOperator [("++", true), ("--", false)] with
    | some isUp =>
      advance
      let target ← readPrimary fuel
      if !isTarget target then refuse
      return .step target isUp false
    | none =>
      let primary ← readPrimary fuel
      if !isTarget primary then return primary
      match ← atOperator [("++", true), ("--", false)] with
      | some isUp =>
        advance
        return .step primary isUp true
      | none => return primary

/-- Reads the index of a field. -/
def readIndex : (fuel : Nat) → Reader Expr
  | 0 => refuse
  | fuel + 1 => do
    if ← takeMark "-" then return .negate (← readIndex fuel)
    if ← takeMark "+" then return .plus (← readIndex fuel)
    if ← takeMark "!" then return .not (← readIndex fuel)
    match ← atOperator [("++", true), ("--", false)] with
    | some isUp =>
      advance
      return .step (← readPrimary fuel) isUp false
    | none => readPrimary fuel

/-- Reads a name that is used as a table. -/
def readTable : Reader Name := do
  match ← peek with
  | .name name =>
    let table ← resolve name (some .table)
    advance
    return table
  | _ => refuse

/-- Reads where a record goes that is read from somewhere; without a target it becomes the record
of the program. -/
def readLineTarget : (fuel : Nat) → Reader Expr
  | 0 => refuse
  | fuel + 1 => do
    match ← peek with
    | .name _ => readPrimary fuel
    | .mark "$" => readPrimary fuel
    | _ => return .field (.number 0)

/-- Reads expressions with commas between them, and the bracket after them. -/
def readList : (fuel : Nat) → (closing : String) → Reader (List Expr)
  | 0, _ => refuse
  | fuel + 1, closing => do
    let expr ← readAt false fuel lowest
    if ← takeMark "," then
      skipLines
      return expr :: (← readList fuel closing)
    expectMark closing
    return [expr]

/-- Reads the arguments of a function after the opening parenthesis; a name alone may be that of a
table. -/
def readArguments : (fuel : Nat) → Reader (List Expr)
  | 0 => refuse
  | fuel + 1 => do
    let isLone := (← atMark "," 1) || (← atMark ")" 1)
    let expr ← match ← peek with
      | .name name => do
        if isLone then do
          let resolved ← resolve name none
          advance
          pure (.scalar resolved)
        else readAt false fuel lowest
      | _ => readAt false fuel lowest
    if ← takeMark "," then
      skipLines
      return expr :: (← readArguments fuel)
    expectMark ")"
    return [expr]

/-- Reads an expression that no operator divides. -/
def readPrimary : (fuel : Nat) → Reader Expr
  | 0 => refuse
  | fuel + 1 => do
    match ← peek with
    | .number value _ =>
      advance
      return .number value
    | .text bytes =>
      advance
      return .text bytes
    | .pattern source =>
      let pattern ← compile source
      advance
      return .pattern pattern
    | .mark "(" =>
      advance
      let first ← readAt false fuel lowest
      if ← takeMark "," then
        skipLines
        let others ← readList fuel ")"
        if !(← atKeyword .inWord) then refuse
        advance
        return .contains (first :: others) (← readTable)
      expectMark ")"
      return .group first
    | .mark "$" =>
      advance
      return .field (← readIndex fuel)
    | .name name =>
      if ← atMark "[" 1 then
        let table ← resolve name (some .table)
        advance
        advance
        return .element table (← readList fuel "]")
      let scalar ← resolve name (some .scalar)
      advance
      return .scalar scalar
    | .functionName name =>
      let start ← line
      advance
      advance
      let arguments ← if ← takeMark ")" then pure [] else readArguments fuel
      modify fun state =>
        { state with calls := ⟨name, arguments.length, start⟩ :: state.calls }
      return .call name arguments
    | .builtin name function least most => do
      advance
      if !(← atMark "(") then
        if function = .length then return .builtin .length []
        refuse
      advance
      let arguments ← if ← atMark ")" then do
          if function = .split || function = .sub || function = .gsub then refuse
          advance
          pure []
        else readBuiltinArguments fuel function
      if arguments.length < least || arguments.length > most then
        complain ("wrong number of arguments in call to " ++ name)
      return .builtin function arguments
    | .keyword .getline _ =>
      advance
      let target ← readLineTarget fuel
      if ← takeMark "<" then return .readFile target (← readAt false fuel powerLevel)
      return .readRecord target
    | _ => refuse

/-- Reads the arguments of a function that every program knows. -/
def readBuiltinArguments : (fuel : Nat) → Builtin → Reader (List Expr)
  | 0, _ => refuse
  | fuel + 1, function => do
    if function = .split then
      let text ← readAt false fuel lowest
      expectMark ","
      skipLines
      let table ← readTable
      if ← takeMark "," then
        skipLines
        let separator ← readAt false fuel lowest
        expectMark ")"
        return [text, .scalar table, separator]
      expectMark ")"
      return [text, .scalar table]
    if function = .length then return ← readArguments fuel
    let arguments ← readList fuel ")"
    match function, arguments with
    | .matchText, [text, pattern] => return [text, ← asPattern pattern]
    | .sub, pattern :: rest | .gsub, pattern :: rest => return (← asPattern pattern) :: rest
    | _, arguments => return arguments

end

/-- As much fuel as the longest expression needs. -/
def fuelFor (tokens : Nat) : Nat := 30 * tokens + 100

/-- Reads an expression. -/
def readExpr (inPrint : Bool := false) : Reader Expr := do
  readAt inPrint (fuelFor (← get).tokens.size) lowest

/-! ## Statements -/

/-- The next token ends a statement. -/
def atEnd (ahead : Nat := 0) : Reader Bool := do
  match ← peek ahead with
  | .newline | .finish => return true
  | .mark sign => return sign = ";" || sign = "\x7d"
  | _ => return false

/-- The next token directs output. -/
def atOutput (ahead : Nat := 0) : Reader Bool := do
  match ← peek ahead with
  | .mark sign => return sign = ">" || sign = ">>" || sign = "|"
  | _ => return false

/-- Takes the end of a statement. -/
def endStatement : Reader Unit := do
  match ← peek with
  | .newline =>
    advance
    skipLines
  | .mark ";" =>
    advance
    skipLines
  | .mark "\x7d" => return
  | _ => refuse

/-- How many tokens there are up to the parenthesis that closes the one at `ahead`. -/
def closingFrom : (fuel depth ahead : Nat) → Reader (Option Nat)
  | 0, _, _ => return none
  | fuel + 1, depth, ahead => do
    match ← peek ahead with
    | .mark "(" => closingFrom fuel (depth + 1) (ahead + 1)
    | .mark ")" => if depth ≤ 1 then return some ahead else closingFrom fuel (depth - 1) (ahead + 1)
    | .finish => return none
    | _ => closingFrom fuel depth (ahead + 1)

/-- Reads expressions with commas between them. -/
def readPrinted : (fuel : Nat) → Reader (List Expr)
  | 0 => refuse
  | fuel + 1 => do
    let expr ← readExpr true
    if ← takeMark "," then
      skipLines
      return expr :: (← readPrinted fuel)
    return [expr]

/-- Reads what a printing statement prints; parentheses may stand around all of it. -/
def readPrintArguments : Reader (List Expr) := do
  if (← atEnd) || (← atOutput) then return []
  let size := (← get).tokens.size
  if ← atMark "(" then
    if let some closing ← closingFrom size 0 0 then
      if (← atEnd (closing + 1)) || (← atOutput (closing + 1)) then
        advance
        if ← takeMark ")" then return []
        return ← readList (fuelFor size) ")"
  readPrinted size

/-- Reads where output goes. -/
def readOutput : Reader Output := do
  if ← takeMark ">>" then return .append (← readExpr)
  if ← takeMark ">" then return .file (← readExpr)
  if ← takeMark "|" then return .command (← readExpr)
  return .standard

/-- Reads an expression between parentheses. -/
def readCondition : Reader Expr := do
  expectMark "("
  let condition ← readExpr
  expectMark ")"
  skipLines
  return condition

/-- Skips what is left of a statement that was refused. -/
def skipStatement : (fuel : Nat) → Reader Unit
  | 0 => return
  | fuel + 1 => do
    if ← atEnd then
      match ← peek with
      | .finish | .mark "\x7d" => return
      | _ => endStatement
    else
      advance
      skipStatement fuel

/-- The next tokens are not refused aloud. -/
def beQuiet : Reader Unit := modify fun state => { state with quiet := quietTokens }

/-- Reads the body of a loop. -/
def inLoop (body : Reader α) : Reader α := do
  modify fun state => { state with loops := state.loops + 1 }
  let result ← body
  modify fun state => { state with loops := state.loops - 1 }
  return result

/-- Complains unless a statement stands where it may. -/
def require (isAllowed : Bool) (complaint : String) : Reader Unit := do
  if !isAllowed then complain complaint

mutual

/-- Reads a statement with what ends it. -/
def readStatement : (fuel : Nat) → Reader Statement
  | 0 => refuse
  | fuel + 1 => do
    match ← peek with
    | .mark "\x7b" => readBlock fuel
    | .mark ";" | .newline =>
      advance
      skipLines
      return .block []
    | .keyword .ifWord _ =>
      advance
      let condition ← readCondition
      let yes ← readStatement fuel
      if ← atKeyword .elseWord then
        advance
        skipLines
        return .ifThen condition yes (← readStatement fuel)
      return .ifThen condition yes (.block [])
    | .keyword .whileWord _ =>
      advance
      let condition ← readCondition
      return .whileLoop condition (← inLoop (readStatement fuel))
    | .keyword .doWord _ =>
      advance
      skipLines
      let body ← inLoop (readStatement fuel)
      if !(← atKeyword .whileWord) then refuse
      advance
      expectMark "("
      let condition ← readExpr
      expectMark ")"
      endStatement
      return .doLoop body condition
    | .keyword .forWord _ => readFor fuel
    | _ =>
      let statement ← readSimple
      endStatement
      return statement

/-- Reads a loop over keys, or one with a counter. -/
def readFor : (fuel : Nat) → Reader Statement
  | 0 => refuse
  | fuel + 1 => do
    advance
    expectMark "("
    let isOverKeys ← match ← peek with
      | .name _ => do
        pure ((← atKeyword .inWord 1) && (← atMark ")" 3))
      | _ => pure false
    if isOverKeys then
      let target ← readPrimary 10
      advance
      let table ← readTable
      expectMark ")"
      skipLines
      return .forKeys target table (← inLoop (readStatement fuel))
    let part (closing : String) : Reader (Option Expr) := do
      if ← takeMark closing then return none
      let expr ← readExpr
      expectMark closing
      return some expr
    let first ← part ";"
    skipLines
    let condition ← part ";"
    skipLines
    let next ← part ")"
    skipLines
    return .forLoop first condition next (← inLoop (readStatement fuel))

/-- Reads the statements up to the end of a block. -/
def readStatements : (fuel : Nat) → Reader (List Statement)
  | 0 => refuse
  | fuel + 1 => do
    if ← takeMark "\x7d" then
      skipLines
      return []
    let statement ← tryCatch (readStatement fuel) fun interruption => do
      if interruption = .reading then throw .reading
      beQuiet
      skipStatement (← get).tokens.size
      beQuiet
      return .block []
    return statement :: (← readStatements fuel)

/-- Reads a block. -/
def readBlock : (fuel : Nat) → Reader Statement
  | 0 => refuse
  | fuel + 1 => do
    expectMark "\x7b"
    skipLines
    return .block (← readStatements fuel)

/-- Reads a statement that has no other statements in it. -/
def readSimple : Reader Statement := do
  let state ← get
  match ← peek with
  | .keyword .printWord _ =>
    advance
    let arguments ← readPrintArguments
    return .print arguments (← readOutput)
  | .keyword .printfWord _ =>
    advance
    let arguments ← readPrintArguments
    if arguments.isEmpty then complain "no arguments in call to printf"
    return .printf arguments (← readOutput)
  | .keyword .nextWord _ =>
    require state.inRule "improper use of next"
    advance
    return .next
  | .keyword .nextFileWord _ =>
    require state.inRule "improper use of nextfile"
    advance
    return .nextFile
  | .keyword .exitWord _ =>
    advance
    if ← atEnd then return .exit none
    return .exit (some (← readExpr))
  | .keyword .returnWord _ =>
    require state.inFunction "return outside function body"
    advance
    if ← atEnd then return .giveBack none
    return .giveBack (some (← readExpr))
  | .keyword .breakWord _ =>
    require (state.loops > 0) "break statement outside of loop"
    advance
    return .breakLoop
  | .keyword .continueWord _ =>
    require (state.loops > 0) "continue statement outside of loop"
    advance
    return .continueLoop
  | .keyword .deleteWord _ =>
    advance
    let table ← readTable
    if ← takeMark "[" then
      return .delete table (← readList (fuelFor state.tokens.size) "]")
    return .deleteAll table
  | _ => return .simple (← readExpr)

end

/-! ## Rules and functions -/

/-- Reads the names of parameters. -/
def readParameters : (fuel : Nat) → Reader (List String)
  | 0 => refuse
  | fuel + 1 => do
    match ← peek with
    | .name name =>
      advance
      if ← takeMark "," then
        skipLines
        return name :: (← readParameters fuel)
      expectMark ")"
      return [name]
    | _ => refuse

/-- Reads a function. -/
def readFunction (fuel : Nat) : Reader Unit := do
  let name ← match ← peek with
    | .name name | .functionName name => pure name
    | _ => refuse
  let state ← get
  if state.functions.any (·.1 = name) then complain ("redefinition of " ++ name)
  else if let some kind := state.kinds[name]? then refuseKind "" kind.shown name
  advance
  expectMark "("
  let parameters ← if ← takeMark ")" then pure [] else readParameters fuel
  skipLines
  modify fun state =>
    { state with
      parameters := parameters.map (·, none), inFunction := true, inRule := false
      functions := (name, ⟨parameters.length, .block []⟩) :: state.functions }
  let body ← readBlock fuel
  modify fun state =>
    { state with
      parameters := [], inFunction := false
      functions := (name, ⟨parameters.length, body⟩) :: state.functions.drop 1 }
  let _ ← takeMark ";"

/-- Reads the block of a rule. -/
def readAction (fuel : Nat) (isRule : Bool) : Reader Statement := do
  modify fun state => { state with inRule := isRule, inFunction := false, loops := 0 }
  let body ← readBlock fuel
  modify fun state => { state with inRule := false }
  let _ ← takeMark ";"
  return body

/-- Reads what selects records. -/
def readSelector : Reader Selector := do
  if ← atMark "\x7b" then return .every
  let first ← readExpr
  if ← takeMark "," then
    skipLines
    let last ← readExpr
    let number := (← get).ranges
    modify fun state => { state with ranges := number + 1 }
    return .range number first last
  return .when first

/-- Reads one rule or function, and adds it to the program. -/
def readItem (fuel : Nat) (script : Script) : Reader Script := do
  match ← peek with
  | .keyword .opening _ =>
    advance
    if !(← atMark "\x7b") then refuse
    let action ← readAction fuel false
    return { script with openings := action :: script.openings }
  | .keyword .closing _ =>
    advance
    if !(← atMark "\x7b") then refuse
    let action ← readAction fuel false
    return { script with closings := action :: script.closings }
  | .keyword .function _ =>
    advance
    readFunction fuel
    return script
  | .mark "\x7d" =>
    complain "extra '\x7d'"
    advance
    refuse
  | _ =>
    let selector ← readSelector
    let action ←
      if ← atMark "\x7b" then readAction fuel true
      else do
        endStatement
        pure (.print [] .standard)
    return { script with rules := ⟨selector, action⟩ :: script.rules }

/-- Skips to the next block after a rule that was refused. -/
def skipToBlock : (fuel : Nat) → Reader Unit
  | 0 => return
  | fuel + 1 => do
    match ← peek with
    | .finish | .mark "\x7b" => return
    | _ =>
      advance
      skipToBlock fuel

/-- Reads rules and functions up to the end. -/
def readItems : (fuel : Nat) → Script → Reader Script
  | 0, script => return script
  | fuel + 1, script => do
    match ← peek with
    | .finish => return script
    | .newline =>
      advance
      readItems fuel script
    | _ =>
      let script ← tryCatch (readItem (fuelFor (← get).tokens.size) script)
        fun interruption => do
          if interruption = .reading then throw .reading
          skipToBlock (← get).tokens.size
          beQuiet
          if ← atMark "\x7b" then
            let _ ← readAction (fuelFor (← get).tokens.size) true
          return script
      readItems fuel script

/-- Complains about calls that do not fit the functions of the program. -/
def checkCalls : Reader Unit := do
  let state ← get
  for call in state.calls.reverse do
    match state.functions.lookup call.function with
    | none => complain ("function " ++ call.function ++ " never defined")
    | some function =>
      if call.arguments > function.parameters then
        modify fun state =>
          { state with complaints :=
              ("line " ++ toString call.line ++ ": too many arguments in call to "
                ++ call.function) :: state.complaints }

/-- Reads a whole program. -/
def readScript : Reader Script := do
  let script ← readItems (2 * (← get).tokens.size + 2) {}
  if (← get).complaints.isEmpty then checkCalls
  return { script with
    openings := script.openings.reverse
    rules := script.rules.reverse
    closings := script.closings.reverse
    functions := (← get).functions }

end Reader

/-- Reads a program: the program, or what is wrong with it. -/
def readScript (text : ByteArray) : Except (List String) Script :=
  let (result, state) := (ExceptT.run Reader.readScript).run { tokens := tokens text }
  match result, state.complaints with
  | .ok script, [] => .ok script
  | _, complaints => .error complaints.reverse

end CommandShell.Machine.Awk
