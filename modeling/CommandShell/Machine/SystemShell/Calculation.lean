import CommandShell.Machine.SystemShell.Arithmetic
import CommandShell.Machine.SystemShell.State
set_option autoImplicit false

/-!
# Calculations of the extended dialect

An expression is worked out while it is read, token by token.  The value of a variable is an
expression of its own.  A part that does not count, such as the branch of a choice that is not
taken, is read all the same, but nothing in it is looked up or assigned.
-/

namespace CommandShell.Machine.SystemShell

namespace Calculation

open Arithmetic (Operator wrap truth)

/-! ## Tokens -/

/-- A token of an expression. -/
inductive Token where
  | finish
  | number
  | name
  | symbol (text : String)
  /-- An assignment that combines the old value with the new one. -/
  | combine (operator : Operator)
  | preChange (step : Int)
  | postChange (step : Int)
  deriving DecidableEq

/-- What is wrong with an expression. -/
structure Fault where
  expression : String
  message : String
  /-- The expression from the token on that is wrong. -/
  token : String

/-- The work on an expression. -/
structure Work where
  expression : String
  /-- What follows the last token. -/
  rest : List Char
  /-- The expression from the last token on. -/
  front : List Char
  token : Token := .finish
  previous : Token := .finish
  /-- The variable that was named last, perhaps with brackets. -/
  name : Option String := none
  /-- The place of the element that was named last, once it is known. -/
  place : Option String := none
  value : Int := 0
  /-- How many parts are under way that do not count. -/
  ignored : Nat := 0

/-- Working on an expression. -/
abbrev CalcM := StateT Work (ExceptT Fault Eval)

/-- Does something that belongs to the shell. -/
def inShell {α : Type} (body : Eval α) : CalcM α := liftM (liftM body : ExceptT Fault Eval α)

/-- Gives up the expression. -/
def refuse {α : Type} (message : String) : CalcM α := do
  let work ← get
  throw ⟨String.ofList (work.expression.toList.dropWhile Char.isWhitespace), message,
    String.ofList work.front⟩

/-- What an expression is worked out with: how to find the value of a variable, and how to assign
one. -/
structure Access where
  /-- The value, and the place of the element if there is one. -/
  lookUp : String → CalcM (Int × Option String)
  assign : (name : String) → (place : Option String) → Int → CalcM Unit

/-- The symbols of one character. -/
def singleSymbols : List Char :=
  ['=', '>', '<', '+', '-', '*', '/', '%', '!', '(', ')', '&', '|', '^', '~', '?', ':', ',']

/-- The symbols of two characters. -/
def doubleSymbols : List String := ["==", "!=", ">=", "<=", "<<", ">>", "&&", "||", "**"]

/-- The operators that can be combined with an assignment. -/
def combinable : List (Char × Operator) :=
  [('*', .times), ('/', .dividedBy), ('%', .modulo), ('+', .plus), ('-', .minus), ('&', .bitAnd),
    ('^', .bitXor), ('|', .bitOr)]

/-- The value of a digit in a base. -/
def digitValue (base : Nat) (c : Char) : Nat :=
  if c.isDigit then c.toNat - 48
  else if 'a' ≤ c && c ≤ 'z' then c.toNat - 87
  else if 'A' ≤ c && c ≤ 'Z' then if base ≤ 36 then c.toNat - 55 else c.toNat - 29
  else if c = '@' then 62
  else 63

/-- The number that digits stand for in a base. -/
def numberIn (base : Nat) (digits : List Char) : CalcM Int := do
  let mut sum : Nat := 0
  for c in digits do
    let digit := digitValue base c
    if c = '#' then refuse "invalid number"
    if digit ≥ base then refuse "value too great for base"
    sum := sum * base + digit
  return wrap sum

/-- The number that a token stands for. -/
def readNumber (digits : List Char) : CalcM Int := do
  match digits with
  | ['0'] => return 0
  | '0' :: 'x' :: rest | '0' :: 'X' :: rest => numberIn 16 rest
  | '0' :: rest => numberIn 8 rest
  | digits =>
    let front := digits.takeWhile (· ≠ '#')
    if front.length = digits.length then numberIn 10 digits
    else
      let base ← numberIn 10 front
      if base < 2 || base > 64 then refuse "invalid arithmetic base"
      let rest := digits.drop (front.length + 1)
      if rest.isEmpty then refuse "invalid integer constant"
      numberIn base.toNat rest

/-- How long the brackets at the front of a text are; none if nothing closes them. -/
def bracketLength? : (depth length : Nat) → List Char → Option Nat
  | _, _, [] => none
  | depth, length, c :: rest =>
    if c = '[' then bracketLength? (depth + 1) (length + 1) rest
    else if c = ']' then
      if depth ≤ 1 then some (length + 1) else bracketLength? (depth - 1) (length + 1) rest
    else bracketLength? depth (length + 1) rest

/-- The symbol at the front of a text, after the given token, and what follows it. -/
def readSymbol (before : Token) (c : Char) (rest : List Char) : CalcM (Token × List Char) := do
  let next := rest.head?
  let two := String.ofList (c :: next.toList)
  let shift? : Option Operator :=
    if two = "<<" then some .shiftLeft else if two = ">>" then some .shiftRight else none
  match shift?, rest.drop 1 with
  | some operator, '=' :: rest => return (.combine operator, rest)
  | _, _ =>
    if doubleSymbols.contains two then return (.symbol two, rest.drop 1)
    if (c = '+' || c = '-') && next = some c then
      let step : Int := if c = '+' then 1 else -1
      let others := rest.drop 1
      match before, (← get).previous with
      | .name, _ => return (.postChange step, others)
      | .number, .preChange _ => refuse (two ++ ": assignment requires lvalue")
      | _, _ =>
        if (others.dropWhile Char.isWhitespace).head?.any isNameStart then
          return (.preChange step, others)
        return (.symbol c.toString, rest)
    match combinable.lookup c, next with
    | some operator, some '=' => return (.combine operator, rest.drop 1)
    | _, _ =>
      if singleSymbols.contains c then return (.symbol c.toString, rest)
      match before with
      | .name | .number => refuse "syntax error: invalid arithmetic operator"
      | _ => refuse "syntax error: operand expected"

/-- The length of the name at the front of a text, with brackets after it. -/
def nameLength (text : List Char) : CalcM Nat := do
  let name := text.takeWhile isNameChar
  match text.drop name.length with
  | '[' :: rest =>
    match bracketLength? 0 0 ('[' :: rest) with
    | some length => return name.length + length
    | none => refuse "bad array subscript"
  | _ => return name.length

/-- Goes on to the next token, without looking up any variable.  The result is the text of a name.
-/
def scan : CalcM String := do
  let work ← get
  let rest := work.rest.dropWhile Char.isWhitespace
  match rest with
  | [] =>
    set { work with previous := work.token, token := .finish, rest := [] }
    return ""
  | c :: others =>
    set { work with front := rest }
    if isNameStart c then
      let length ← nameLength rest
      modify fun work => { work with
        previous := work.token, token := .name, rest := rest.drop length }
      return String.ofList (rest.take length)
    else if c.isDigit then
      let digits := rest.takeWhile fun c => isNameChar c || c = '#' || c = '@'
      let value ← readNumber digits
      modify fun work => { work with
        previous := work.token, token := .number, value, rest := rest.drop digits.length }
      return ""
    else
      let (token, rest) ← readSymbol work.token c others
      modify fun work => { work with previous := work.token, token, rest }
      return ""

/-- The token after the next one, which is a name that has just been scanned. -/
def peekAfterName : CalcM Token := do
  let work ← get
  let _ ← scan
  let token := (← get).token
  set work
  return token

/-- Goes on to the next token.  A variable is looked up unless it is about to be assigned. -/
def next (access : Access) : CalcM Unit := do
  let before := (← get).token
  let name ← scan
  if (← get).token = .name then
    let after ← peekAfterName
    let isChanged := match before with
      | .preChange _ => true
      | _ => false
    let (value, place) ←
      if (isChanged || after ≠ .symbol "=") && (← get).ignored = 0 then access.lookUp name
      else pure (0, none)
    modify fun work => { work with name := some name, value, place }

/-! ## Operators -/

/-- Does something that does not count if the condition holds. -/
def ignoringIf (condition : Bool) (body : CalcM Int) : CalcM Int := do
  if !condition then body
  else
    modify fun work => { work with ignored := work.ignored + 1 }
    let value ← body
    modify fun work => { work with ignored := work.ignored - 1 }
    return value

/-- The last operand has been a value, not a variable that could be assigned. -/
def settle (value : Int) : CalcM Int := do
  modify fun work => { work with previous := .number }
  return value

/-- What an operator makes of two numbers. -/
def combine (operator : Operator) (a b : Int) : CalcM Int := do
  match operator with
  | .dividedBy | .modulo =>
    if b = 0 then
      if (← get).ignored = 0 then refuse "division by 0"
      return 0
    if Arithmetic.overflows a b then return if operator = .dividedBy then a else 0
    return (operator.apply a b).toOption.getD 0
  | _ => return (operator.apply a b).toOption.getD 0

/-- Operands with operators of one level between them, from left to right. -/
def leftToRight (access : Access) (operand : CalcM Int) (operators : List (String × Operator)) :
    (fuel : Nat) → (left : Int) → CalcM Int
  | 0, left => return left
  | fuel + 1, left => do
    match (← get).token with
    | .symbol symbol =>
      match operators.lookup symbol with
      | none => return left
      | some operator =>
        let after := (← get).rest.dropWhile Char.isWhitespace
        next access
        let right ← operand
        let front := (← get).front
        -- A division by zero is blamed on the divisor.
        if operator = .dividedBy || operator = .modulo then
          modify fun work => { work with front := after }
        let value ← combine operator left right
        modify fun work => { work with front }
        leftToRight access operand operators fuel (← settle value)
    | _ => return left

/-- The operators of the levels between powers and conjunctions, the tightest first. -/
def levels : List (List (String × Operator)) :=
  [[("*", .times), ("/", .dividedBy), ("%", .modulo)], [("+", .plus), ("-", .minus)],
    [("<<", .shiftLeft), (">>", .shiftRight)],
    [("<=", .lessEqual), (">=", .greaterEqual), ("<", .less), (">", .greater)],
    [("==", .equal), ("!=", .unequal)], [("&", .bitAnd)], [("^", .bitXor)], [("|", .bitOr)]]

/-- Assigns the variable that was named last. -/
def assignNamed (access : Access) (name : String) (place : Option String) (value : Int) :
    CalcM Unit := do
  if (← get).ignored = 0 then access.assign name place value

/-- A single operand; `whole` works out what is in parentheses. -/
def primary (access : Access) (whole : CalcM Int) : CalcM Int := do
  let work ← get
  match work.token with
  | .preChange step =>
    next access
    let named ← get
    if named.token ≠ .name then
      refuse "identifier expected after pre-increment or pre-decrement"
    let value := wrap (named.value + step)
    assignNamed access (named.name.getD "") named.place value
    modify fun work => { work with token := .number }
    next access
    return value
  | .symbol "(" =>
    next access
    let value ← whole
    if (← get).token ≠ .symbol ")" then refuse "missing \u0060)'"
    next access
    return value
  | .number =>
    next access
    return work.value
  | .name =>
    match ← peekAfterName with
    | .postChange step =>
      let _ ← scan
      assignNamed access (work.name.getD "") work.place (wrap (work.value + step))
      modify fun work => { work with previous := .name, token := .number }
    | _ => pure ()
    next access
    return work.value
  | _ => refuse "syntax error: operand expected"

/-- An operand with signs before it. -/
def unary (access : Access) (whole : CalcM Int) : (fuel : Nat) → CalcM Int
  | 0 => primary access whole
  | fuel + 1 => do
    let after (change : Int → Int) : CalcM Int := do
      next access
      settle (change (← unary access whole fuel))
    match (← get).token with
    | .symbol "!" => after fun n => truth (n = 0)
    | .symbol "~" => after fun n => wrap (-n - 1)
    | .symbol "-" => after fun n => wrap (-n)
    | .symbol "+" => after id
    | _ => primary access whole

/-- A power of a number, modulo the numbers of 64 bits. -/
def power (base : Int) (exponent : Nat) : Int :=
  let factor := BitVec.ofInt 64 base
  let product := (Nat.toDigits 2 exponent).foldl (fun (product : BitVec 64) digit =>
    let square := product * product
    if digit = '1' then square * factor else square) 1
  product.toInt

/-- Powers, from right to left. -/
def powers (access : Access) (operand : CalcM Int) : (fuel : Nat) → CalcM Int
  | 0 => operand
  | fuel + 1 => do
    let base ← operand
    if (← get).token ≠ .symbol "**" then return base
    next access
    let exponent ← powers access operand fuel
    if exponent < 0 then refuse "exponent less than 0"
    settle (power base exponent.toNat)

/-- Operands of which all must be other than zero; the first one has been worked out. -/
def conjunctions (access : Access) (operand : CalcM Int) : (fuel : Nat) → (left : Int) → CalcM Int
  | 0, left => return left
  | fuel + 1, left => do
    if (← get).token ≠ .symbol "&&" then return left
    let right ← ignoringIf (left = 0) do
      next access
      operand
    conjunctions access operand fuel (← settle (truth (left ≠ 0 && right ≠ 0)))

/-- Operands of which one must be other than zero; the first one has been worked out. -/
def disjunctions (access : Access) (operand : CalcM Int) : (fuel : Nat) → (left : Int) → CalcM Int
  | 0, left => return left
  | fuel + 1, left => do
    if (← get).token ≠ .symbol "||" then return left
    let right ← ignoringIf (left ≠ 0) do
      next access
      operand
    disjunctions access operand fuel (← settle (truth (left ≠ 0 || right ≠ 0)))

/-- A choice between two values. -/
def choice (access : Access) (operand whole : CalcM Int) : (fuel : Nat) → CalcM Int
  | 0 => operand
  | fuel + 1 => do
    let test ← operand
    if (← get).token ≠ .symbol "?" then return test
    let yes ← ignoringIf (test = 0) do
      next access
      let token := (← get).token
      if token = .finish || token = .symbol ":" then refuse "expression expected"
      whole
    if (← get).token ≠ .symbol ":" then
      refuse "\u0060:' expected for conditional expression"
    let no ← ignoringIf (test ≠ 0) do
      next access
      if (← get).token = .finish then refuse "expression expected"
      choice access operand whole fuel
    settle (if test ≠ 0 then yes else no)

/-- An assignment, or a value. -/
def assignment (access : Access) (operand : CalcM Int) : (fuel : Nat) → CalcM Int
  | 0 => operand
  | fuel + 1 => do
    let old ← operand
    let work ← get
    let operator? : Option (Option Operator) := match work.token with
      | .symbol "=" => some none
      | .combine operator => some (some operator)
      | _ => none
    match operator? with
    | none => return old
    | some operator? =>
      if work.previous ≠ .name then refuse "attempted assignment to non-variable"
      let name := work.name.getD ""
      next access
      let new ← assignment access operand fuel
      let value ← match operator? with
        | none => pure new
        | some operator => combine operator old new
      assignNamed access name work.place value
      return value

/-- Expressions of which the last one counts. -/
def sequence (access : Access) (operand : CalcM Int) : (fuel : Nat) → CalcM Int
  | 0 => operand
  | fuel + 1 => do
    let value ← operand
    if (← get).token ≠ .symbol "," then return value
    next access
    sequence access operand fuel

/-- A whole expression with parentheses that are nested no deeper than that. -/
def whole (access : Access) (size : Nat) : (depth : Nat) → CalcM Int
  | 0 => refuse "expression recursion level exceeded"
  | depth + 1 =>
    let inside := whole access size depth
    let tight := powers access (unary access inside size) size
    let binary := levels.foldl (fun (operand : CalcM Int) operators => do
      leftToRight access operand operators size (← operand)) tight
    let both : CalcM Int := do conjunctions access binary size (← binary)
    let either : CalcM Int := do disjunctions access both size (← both)
    sequence access (assignment access (choice access either inside size) size) size

/-- The value of an expression. -/
def valueOf (access : Access) (text : String) : ExceptT Fault Eval Int := do
  let cs := text.toList
  if cs.all Char.isWhitespace then return 0
  let work : Work := { expression := text, rest := cs, front := cs }
  let size := cs.length + 1
  let (value, _) ←
    (do
      next access
      let value ← whole access size size
      if (← get).token ≠ .finish then refuse "syntax error in expression"
      return value : CalcM Int).run work
  return value

/-! ## Elements -/

/-- The name and the text in the brackets after it. -/
def splitName (text : String) : String × Option String :=
  let cs := text.toList
  let name := cs.takeWhile isNameChar
  match cs.drop name.length with
  | '[' :: rest => (String.ofList name, some (String.ofList rest.dropLast))
  | _ => (String.ofList name, none)

/-- The place of an element by the text in brackets; none if it is no place. -/
def placeOf (calculate : String → ExceptT Fault Eval Int) (v : Variable) (key : String) :
    ExceptT Fault Eval (Option String) := do
  match v.shape with
  | .associative => return some key
  | _ =>
    let index ← calculate key
    if index ≥ 0 then return some (toString index)
    let last : Int := ({ v with elements := v.allElements } : Variable).nextIndex
    return if last + index ≥ 0 then some (toString (last + index)) else none

/-- Gives an element of a variable a value. -/
def storeElement (name place value : String) : Eval Unit := do
  let name := (← get).target name maxReferences
  let old := ((← get).stored? name).getD { value := none }
  if old.isReadOnly then
    warnOutside (name ++ ": readonly variable")
    throw (.fail 1)
  let value := match old.letters with
    | some change => value.map change.apply
    | none => value
  modify fun state =>
    state.putVariable name ((old.withShape .indexed).putElement place value)

/-- A variable that is not there, where the options say that this is a fault. -/
def failUnbound {α : Type} (name : String) : Eval α := do
  warnOutside (name ++ ": unbound variable")
  throw (.leave (← get).abortStatus)

/-- The variables of the shell, whose values are worked out no deeper than `depth`. -/
def shellAccess (random : Eval Nat) : (depth : Nat) → Access
  | 0 =>
    { lookUp := fun _ => refuse "expression recursion level exceeded"
      assign := fun _ _ _ => pure () }
  | depth + 1 =>
    let calculate (text : String) : ExceptT Fault Eval Int :=
      valueOf (shellAccess random depth) text
    let place? (name key : String) : CalcM (Option String) := do
      let v := ((← inShell get).resolved? name).getD { value := none }
      match ← liftM (placeOf calculate v key) with
      | some place => return some place
      | none =>
        inShell (warnOutside (name ++ ": bad array subscript"))
        return none
    { lookUp := fun text => do
        let (name, key?) := splitName text
        let state ← inShell get
        match key? with
        | none =>
          let value? ← match name with
            | "RANDOM" => (fun n => some (toString n)) <$> inShell random
            | "LINENO" => pure (some (toString state.line))
            | name => pure (state.value? name)
          if value?.isNone && state.flags.contains 'u' then inShell (failUnbound name)
          let value ← liftM (calculate (value?.getD ""))
          return (value, none)
        | some key =>
          let place ← place? name key
          let v := (state.resolved? name).getD { value := none }
          let value? := place.bind fun place => v.allElements.lookup place
          let value ← liftM (calculate (value?.getD ""))
          return (value, place)
      assign := fun text place value => do
        let (name, key?) := splitName text
        match key?, place with
        | none, _ => inShell (setVariable name (toString value))
        | some _, some place => inShell (storeElement name place (toString value))
        | some key, none =>
          if let some place ← place? name key then
            inShell (storeElement name place (toString value)) }

end Calculation

/-! ## The numbers of the shell -/

/-- The next random number. -/
def nextRandom : Eval Nat := do
  let seed := (← get).seed
  let seed := if seed = 0 then 123459876 else seed
  let next := seed * 16807 % 2147483647
  modify fun state => { state with seed := next }
  return Nat.xor (next / 65536) (next % 65536) % 32768

/-- How deep the values of variables are worked out. -/
def maxCalculationDepth : Nat := 1024

/-- The value of an expression, or what is wrong with it. -/
def calculate? (text : String) : Eval (Except Calculation.Fault Int) :=
  (Calculation.valueOf (Calculation.shellAccess nextRandom maxCalculationDepth) text).run

/-- Complains about an expression, which a command has to do with. -/
def warnOfCalculation (command : String) (fault : Calculation.Fault) : Eval Unit :=
  let front := if command = "" then "" else command ++ ": "
  warnOutside (front ++ fault.expression ++ ": " ++ fault.message ++ " (error token is \""
    ++ fault.token ++ "\")")

/-- The value of an expression; a fault ends the command. -/
def calculate (text : String) : Eval Int := do
  match ← calculate? text with
  | .ok value => return value
  | .error fault =>
    warnOfCalculation "" fault
    throw (.fail 1)

/-- The place of an element by the text in brackets; a fault ends the command. -/
def elementPlace (v : Variable) (key : String) : Eval (Option String) := do
  let access := Calculation.shellAccess nextRandom maxCalculationDepth
  match ← (Calculation.placeOf (Calculation.valueOf access) v key).run with
  | .ok place => return place
  | .error fault =>
    warnOfCalculation "" fault
    throw (.fail 1)

end CommandShell.Machine.SystemShell
