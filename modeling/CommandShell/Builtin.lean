import CommandShell.Executor
import CommandShell.Text.Blank
set_option autoImplicit false

/-!
# Builtins

`exit` ends the interpreter with a code, `test` looks at what a path leads to.
-/

namespace CommandShell

/-- The value of decimal digits, read from the left. -/
def decimalValue (digits : List Char) : Nat :=
  digits.foldl (fun value digit => 10 * value + (digit.toNat - '0'.toNat)) 0

/-- The codes that `exit` can be given: the integers of 32 bits. -/
def isExitCode (n : Int) : Bool := -2147483648 ≤ n && n ≤ 2147483647

/-- The number at the front of a text: blanks, at most one sign and at least one digit.  A number
of more than 32 bits is none. -/
def leadingInteger (text : String) : Option Int :=
  let cs := Text.trimStart text.toList
  let (negative, cs) := match cs with
    | '-' :: cs => (true, cs)
    | '+' :: cs => (false, cs)
    | cs => (false, cs)
  let digits := cs.takeWhile Char.isDigit
  let value : Int := decimalValue digits
  let value := if negative then -value else value
  if digits.isEmpty || !isExitCode value then none else some value

/-- The code that the arguments of `exit` give.  Only the number at the front of the first one
counts; without one the code is 0. -/
def exitCode (arguments : List String) : Int :=
  (arguments.head?.bind leadingInteger).getD 0

/-- What is to be said about the arguments of `exit`. -/
def exitNotice (arguments : List String) : Option Notice :=
  match arguments with
  | [] => none
  | argument :: _ =>
    if (leadingInteger argument).isSome then none else some (.exitNotNumeric argument)

/-- What `test` asks of a path. -/
inductive TestFlag where
  | exists
  | file
  | directory
  deriving DecidableEq

namespace TestFlag

/-- The question that a word stands for. -/
def ofWord? (word : String) : Option TestFlag :=
  if word = "-e" then some «exists»
  else if word = "-f" then some file
  else if word = "-d" then some directory
  else none

/-- The answer for a path that leads to the given kind of thing, or to nothing. -/
def holds (flag : TestFlag) (kind : Option FileKind) : Bool :=
  match flag, kind with
  | _, none => false
  | «exists», some _ => true
  | file, some kind => kind = .file
  | directory, some kind => kind = .directory

end TestFlag

/-- What a call of `test` comes to, before the path is looked at. -/
inductive TestCall where
  /-- The arguments are refused with a notice. -/
  | refused (notice : Notice)
  /-- The number of arguments is wrong. -/
  | usage
  | question (flag : TestFlag) (path : String)
  deriving DecidableEq

/-- Reads the arguments of `test`.  With a bracket the last one has to be `]`, which is left out. -/
def TestCall.ofArguments (bracket : Bool) (arguments : List String) : TestCall :=
  if bracket && arguments.getLast? ≠ some "]" then refused .missingBracket
  else
    match if bracket then arguments.dropLast else arguments with
    | [path] => question .exists path
    | [flag, path] =>
      match TestFlag.ofWord? flag with
      | some flag => question flag path
      | none => refused .unknownTestFlag
    | _ => usage

/-- What `test` writes when it is called with the wrong number of arguments. -/
def testUsage : String := "usage: test [-e|-f|-d] path\n"

variable {m : Type → Type} [Monad m] [Executor m]

/-- Runs `test`: the code is 0 for yes and 1 for everything else. -/
def runTest (bracket : Bool) (arguments : List String) : ExceptT ExecError m Int := do
  match TestCall.ofArguments bracket arguments with
  | .refused notice =>
    (Executor.report notice : m Unit)
    return 1
  | .usage =>
    Executor.writeOutput testUsage
    return 1
  | .question flag path =>
    if flag.holds (← (Executor.fileKind path : m _)) then
      Executor.writeOutput "(True)\n"
      return 0
    else
      Executor.writeOutput "(False)\n"
      return 1

/-- Runs a builtin. -/
def Builtin.run : Builtin → ExceptT ExecError m Outcome
  | exit arguments => do
    if let some notice := exitNotice arguments then (Executor.report notice : m Unit)
    return .terminate (exitCode arguments)
  | test bracket arguments => do
    return .completed (← runTest bracket arguments)

end CommandShell
