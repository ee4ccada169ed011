import CommandShell.Machine.SystemShell.Syntax
set_option autoImplicit false

/-!
# Arithmetic

The expressions between `$((` and `))`: whole numbers of 64 bits that wrap around, variables, and
the operators of C without increments.
-/

namespace CommandShell.Machine.SystemShell.Arithmetic

/-- An operator between two numbers. -/
inductive Operator where
  | times
  | dividedBy
  | modulo
  | plus
  | minus
  | shiftLeft
  | shiftRight
  | less
  | lessEqual
  | greater
  | greaterEqual
  | equal
  | unequal
  | bitAnd
  | bitXor
  | bitOr
  deriving DecidableEq

/-- An expression. -/
inductive Expr where
  | number (value : Int)
  | variable (name : String)
  | negate (operand : Expr)
  | complement (operand : Expr)
  | lacks (operand : Expr)
  | binary (operator : Operator) (left right : Expr)
  | both (left right : Expr)
  | either (left right : Expr)
  | choice (test yes no : Expr)
  /-- Gives a variable a value, which an operator may work out from its old one. -/
  | assign (name : String) (operator : Option Operator) (value : Expr)

/-- Why an expression has no value. -/
inductive Fault where
  | primaryExpected
  | endExpected
  | parenthesisExpected
  | colonExpected
  | divisionByZero
  /-- The quotient does not fit into 64 bits, which the processor does not put up with. -/
  | overflow
  deriving DecidableEq

/-- The wording of a fault. -/
def Fault.message : Fault → String
  | primaryExpected => "expecting primary"
  | endExpected => "expecting EOF"
  | parenthesisExpected => "expecting ')'"
  | colonExpected => "expecting ':'"
  | divisionByZero => "division by zero"
  | overflow => "division overflow"

/-! ## Numbers -/

/-- The number of 64 bits that a number wraps around to. -/
def wrap (n : Int) : Int := n.bmod 18446744073709551616

/-- A number between the least and the greatest of 64 bits. -/
def clamp (n : Int) : Int := max (-9223372036854775808) (min 9223372036854775807 n)

/-- The value of a digit. -/
def digitValue (c : Char) : Nat :=
  if c.isDigit then c.toNat - 48
  else if 'a' ≤ c && c ≤ 'f' then c.toNat - 87
  else if 'A' ≤ c && c ≤ 'F' then c.toNat - 55
  else 99

/-- The number at the front of a text, in a base. -/
def frontDigits (base : Nat) (cs : List Char) : Nat × List Char :=
  let digits := cs.takeWhile fun c => digitValue c < base
  (digits.foldl (fun n c => base * n + digitValue c) 0, cs.drop digits.length)

/-- The number at the front of a text that begins with a digit: octal after `0`, hexadecimal after
`0x`. -/
def frontNumber : List Char → Nat × List Char
  | '0' :: x :: digit :: rest =>
    if (x = 'x' || x = 'X') && digitValue digit < 16 then frontDigits 16 (digit :: rest)
    else if (x = 'b' || x = 'B') && digitValue digit < 2 then frontDigits 2 (digit :: rest)
    else frontDigits 8 ('0' :: x :: digit :: rest)
  | '0' :: rest => frontDigits 8 ('0' :: rest)
  | cs => frontDigits 10 cs

/-! ## Reading -/

/-- A token of an expression. -/
inductive Token where
  | number (value : Int)
  | name (name : String)
  | symbol (text : String)
  deriving DecidableEq

/-- The symbols, longer ones before those they begin with. -/
def symbols : List String :=
  ["<<=", ">>=", "&&", "||", "==", "!=", "<=", ">=", "<<", ">>", "*=", "/=", "%=", "+=", "-=",
    "&=", "^=", "|=", "=", "?", ":", "|", "^", "&", "<", ">", "+", "-", "*", "/", "%", "!", "~",
    "(", ")"]

/-- The tokens of an expression, up to what is none. -/
def tokens : (fuel : Nat) → List Char → List Token
  | 0, _ => []
  | _, [] => []
  | fuel + 1, c :: cs =>
    if c = ' ' || c = '\t' || c = '\n' then tokens fuel cs
    else if c.isDigit then
      let (value, rest) := frontNumber (c :: cs)
      .number (clamp value) :: tokens fuel rest
    else if isNameStart c then
      let name := (c :: cs).takeWhile isNameChar
      .name (String.ofList name) :: tokens fuel ((c :: cs).drop name.length)
    else
      match symbols.find? fun symbol => symbol.toList.isPrefixOf (c :: cs) with
      | some symbol => .symbol symbol :: tokens fuel ((c :: cs).drop symbol.length)
      | none => [.symbol c.toString]

/-- The operators between two numbers, with how tightly they bind. -/
def operators : List (String × Operator × Nat) :=
  [("*", .times, 10), ("/", .dividedBy, 10), ("%", .modulo, 10), ("+", .plus, 9), ("-", .minus, 9),
    ("<<", .shiftLeft, 8), (">>", .shiftRight, 8), ("<", .less, 7), ("<=", .lessEqual, 7),
    (">", .greater, 7), (">=", .greaterEqual, 7), ("==", .equal, 6), ("!=", .unequal, 6),
    ("&", .bitAnd, 5), ("^", .bitXor, 4), ("|", .bitOr, 3)]

/-- The assignments. -/
def assignments : List (String × Option Operator) :=
  [("=", none), ("*=", some .times), ("/=", some .dividedBy), ("%=", some .modulo),
    ("+=", some .plus),
    ("-=", some .minus), ("<<=", some .shiftLeft), (">>=", some .shiftRight),
    ("&=", some .bitAnd), ("^=", some .bitXor), ("|=", some .bitOr)]

/-- A reader of an expression: the expression, and the tokens that are left. -/
abbrev Reading := List Token → Except Fault (Expr × List Token)

/-- A single operand. -/
def readPrimary (whole : Reading) : (fuel : Nat) → Reading
  | 0, _ => .error .primaryExpected
  | fuel + 1, tokens =>
    match tokens with
    | .number value :: rest => .ok (.number value, rest)
    | .name name :: rest => .ok (.variable name, rest)
    | .symbol "(" :: rest => do
      match ← whole rest with
      | (expr, .symbol ")" :: rest) => return (expr, rest)
      | _ => throw .parenthesisExpected
    | .symbol "+" :: rest => readPrimary whole fuel rest
    | .symbol "-" :: rest => (readPrimary whole fuel rest).map fun (e, rest) => (.negate e, rest)
    | .symbol "!" :: rest => (readPrimary whole fuel rest).map fun (e, rest) => (.lacks e, rest)
    | .symbol "~" :: rest =>
      (readPrimary whole fuel rest).map fun (e, rest) => (.complement e, rest)
    | _ => .error .primaryExpected

/-- Operands with operators between them that bind at least so tightly, after a first operand. -/
def readBinary (primary : Reading) (level : Nat) :
    (fuel : Nat) → Expr → Reading
  | 0, left, tokens => .ok (left, tokens)
  | fuel + 1, left, tokens =>
    match tokens with
    | .symbol symbol :: rest =>
      match operators.lookup symbol with
      | some (operator, binding) =>
        if binding < level then .ok (left, tokens)
        else do
          let (right, rest) ← primary rest
          let (right, rest) ← readBinary primary (binding + 1) fuel right rest
          readBinary primary level fuel (.binary operator left right) rest
      | none => .ok (left, tokens)
    | _ => .ok (left, tokens)

/-- Conjunctions. -/
def readBoth (operand : Reading) : (fuel : Nat) → Reading
  | 0, tokens => operand tokens
  | fuel + 1, tokens => do
    match ← operand tokens with
    | (left, .symbol "&&" :: rest) =>
      let (right, rest) ← readBoth operand fuel rest
      return (.both left right, rest)
    | result => return result

/-- Disjunctions. -/
def readEither (operand : Reading) : (fuel : Nat) → Reading
  | 0, tokens => operand tokens
  | fuel + 1, tokens => do
    match ← operand tokens with
    | (left, .symbol "||" :: rest) =>
      let (right, rest) ← readEither operand fuel rest
      return (.either left right, rest)
    | result => return result

/-- Choices between two values. -/
def readChoice (operand whole : Reading) : (fuel : Nat) → Reading
  | 0, tokens => operand tokens
  | fuel + 1, tokens => do
    match ← operand tokens with
    | (test, .symbol "?" :: rest) =>
      match ← whole rest with
      | (yes, .symbol ":" :: rest) =>
        let (no, rest) ← readChoice operand whole fuel rest
        return (.choice test yes no, rest)
      | _ => throw .colonExpected
    | result => return result

/-- A whole expression. -/
def readWhole : (fuel : Nat) → Reading
  | 0, _ => .error .primaryExpected
  | fuel + 1, tokens =>
    let primary := readPrimary (readWhole fuel) (fuel + 1)
    let binary : Reading := fun tokens => do
      let (first, rest) ← primary tokens
      readBinary primary 0 (fuel + 1) first rest
    let choice := readChoice (readEither (readBoth binary (fuel + 1)) (fuel + 1))
      (readWhole fuel) (fuel + 1)
    match tokens with
    | .name name :: .symbol symbol :: rest =>
      match assignments.lookup symbol with
      | some operator =>
        (readWhole fuel rest).map fun (value, rest) => (.assign name operator value, rest)
      | none => choice tokens
    | _ => choice tokens

/-- Reads an expression. -/
def read (text : String) : Except Fault Expr := do
  let cs := text.toList
  match ← readWhole (cs.length + 1) (tokens (cs.length + 1) cs) with
  | (expr, []) => return expr
  | _ => throw .endExpected

/-! ## Values -/

/-- The number for a truth value. -/
def truth (b : Bool) : Int := if b then 1 else 0

/-- The bits of a number. -/
def bits (n : Int) : BitVec 64 := BitVec.ofInt 64 n

/-- The quotient of two numbers is too large. -/
def overflows (a b : Int) : Bool := a = -9223372036854775808 && b = -1

/-- What an operator makes of two numbers. -/
def Operator.apply (operator : Operator) (a b : Int) : Except Fault Int :=
  match operator with
  | times => .ok (wrap (a * b))
  | dividedBy => if b = 0 then .error .divisionByZero else if overflows a b then .error .overflow
    else .ok (Int.tdiv a b)
  | modulo => if b = 0 then .error .divisionByZero else if overflows a b then .error .overflow
    else .ok (Int.tmod a b)
  | plus => .ok (wrap (a + b))
  | minus => .ok (wrap (a - b))
  | shiftLeft => .ok ((bits a) <<< (b % 64).toNat).toInt
  | shiftRight => .ok ((bits a).sshiftRight (b % 64).toNat).toInt
  | less => .ok (truth (a < b))
  | lessEqual => .ok (truth (a ≤ b))
  | greater => .ok (truth (a > b))
  | greaterEqual => .ok (truth (a ≥ b))
  | equal => .ok (truth (a = b))
  | unequal => .ok (truth (a ≠ b))
  | bitAnd => .ok (bits a &&& bits b).toInt
  | bitXor => .ok (bits a ^^^ bits b).toInt
  | bitOr => .ok (bits a ||| bits b).toInt

/-- The value of an expression; variables are looked up and assigned in `m`, where a fault ends
the work. -/
def Expr.value {m : Type → Type} [Monad m] (lookUp : String → m Int)
    (assign : String → Int → m Unit) (fail : Fault → m Int) : Expr → m Int
  | .number value => return value
  | .variable name => lookUp name
  | .negate e => return wrap (-(← e.value lookUp assign fail))
  | .complement e => return wrap (-(← e.value lookUp assign fail) - 1)
  | .lacks e => return truth ((← e.value lookUp assign fail) = 0)
  | .binary operator left right => do
    let a ← left.value lookUp assign fail
    let b ← right.value lookUp assign fail
    match operator.apply a b with
    | .ok n => return n
    | .error fault => fail fault
  | .both left right => do
    if (← left.value lookUp assign fail) = 0 then return 0
    return truth ((← right.value lookUp assign fail) ≠ 0)
  | .either left right => do
    if (← left.value lookUp assign fail) ≠ 0 then return 1
    return truth ((← right.value lookUp assign fail) ≠ 0)
  | .choice test yes no => do
    if (← test.value lookUp assign fail) ≠ 0 then yes.value lookUp assign fail
    else no.value lookUp assign fail
  | .assign name operator value => do
    let new ← value.value lookUp assign fail
    let result ←
      match operator with
      | none => pure new
      | some operator =>
        match operator.apply (← lookUp name) new with
        | .ok n => pure n
        | .error fault => fail fault
    assign name result
    return result

end CommandShell.Machine.SystemShell.Arithmetic
