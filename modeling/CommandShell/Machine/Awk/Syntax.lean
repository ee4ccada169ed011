import CommandShell.Machine.Regex
set_option autoImplicit false

/-!
# Programs that process records

A program is a list of rules: what is to be done before the first record, for each record that a
pattern selects, and after the last one.  What is done is said by statements and expressions over
numbers, texts and tables.
-/

namespace CommandShell.Machine.Awk

/-- What a name stands for: a variable of the whole program, or a parameter of the function that is
being read. -/
inductive Name where
  | global (name : String)
  | parameter (index : Nat)
  deriving DecidableEq

/-- An operation on two numbers. -/
inductive Arithmetic where
  | add
  | subtract
  | multiply
  | divide
  | remainder
  | power
  deriving DecidableEq

/-- A comparison. -/
inductive Relation where
  | less
  | atMost
  | equal
  | unequal
  | greater
  | atLeast
  deriving DecidableEq

/-- How two values that compare so are related. -/
def Relation.holds : Relation → Ordering → Bool
  | less, order => order = .lt
  | atMost, order => order ≠ .gt
  | equal, order => order = .eq
  | unequal, order => order ≠ .eq
  | greater, order => order = .gt
  | atLeast, order => order ≠ .lt

/-- A function that every program knows. -/
inductive Builtin where
  | length
  | substr
  | index
  | split
  | sub
  | gsub
  | matchText
  | sprintf
  | sine
  | cosine
  | arcTangent
  | exponential
  | logarithm
  | squareRoot
  | int
  | rand
  | srand
  | toLower
  | toUpper
  | system
  | close
  | flush
  deriving DecidableEq

namespace Builtin

/-- The functions by name, with the least and the greatest number of arguments. -/
def table : List (String × Builtin × Nat × Nat) :=
  [("length", length, 0, 1), ("substr", substr, 2, 3), ("index", index, 2, 2),
    ("split", split, 2, 3), ("sub", sub, 2, 3), ("gsub", gsub, 2, 3), ("match", matchText, 2, 2),
    ("sprintf", sprintf, 1, 255), ("sin", sine, 1, 1), ("cos", cosine, 1, 1),
    ("atan2", arcTangent, 2, 2), ("exp", exponential, 1, 1), ("log", logarithm, 1, 1),
    ("sqrt", squareRoot, 1, 1), ("int", int, 1, 1), ("rand", rand, 0, 0), ("srand", srand, 0, 1),
    ("tolower", toLower, 1, 1), ("toupper", toUpper, 1, 1), ("system", system, 1, 1),
    ("close", close, 1, 1), ("fflush", flush, 0, 1)]

end Builtin

/-- An expression. -/
inductive Expr where
  | number (value : Float)
  | text (bytes : ByteArray)
  /-- A pattern; where a value is wanted, whether it matches the record. -/
  | pattern (pattern : Regex.Expr)
  | scalar (name : Name)
  | element (table : Name) (subscripts : List Expr)
  /-- A field of the record, or the record itself for 0. -/
  | field (index : Expr)
  /-- An expression in parentheses. -/
  | group (inner : Expr)
  | assign (target : Expr) (operation : Option Arithmetic) (value : Expr)
  /-- Adds 1 to a number or takes it away; the value is that before or after the change. -/
  | step (target : Expr) (isUp givesOld : Bool)
  | arithmetic (operation : Arithmetic) (left right : Expr)
  | concat (left right : Expr)
  | relation (relation : Relation) (left right : Expr)
  | matching (isNegated : Bool) (text pattern : Expr)
  | not (inner : Expr)
  | negate (inner : Expr)
  | plus (inner : Expr)
  | and (left right : Expr)
  | or (left right : Expr)
  | conditional (condition yes no : Expr)
  | contains (subscripts : List Expr) (table : Name)
  | call (function : String) (arguments : List Expr)
  | builtin (function : Builtin) (arguments : List Expr)
  /-- Reads the next record of the input. -/
  | readRecord (target : Expr)
  | readFile (target file : Expr)
  | readCommand (target command : Expr)

/-- Where output goes. -/
inductive Output where
  | standard
  | file (name : Expr)
  | append (name : Expr)
  | command (text : Expr)

/-- A statement. -/
inductive Statement where
  | simple (expr : Expr)
  | print (arguments : List Expr) (output : Output)
  | printf (arguments : List Expr) (output : Output)
  | ifThen (condition : Expr) (yes no : Statement)
  | whileLoop (condition : Expr) (body : Statement)
  | doLoop (body : Statement) (condition : Expr)
  | forLoop (first condition next : Option Expr) (body : Statement)
  | forKeys (target : Expr) (table : Name) (body : Statement)
  | block (statements : List Statement)
  | next
  | nextFile
  | exit (code : Option Expr)
  | giveBack (value : Option Expr)
  | breakLoop
  | continueLoop
  | delete (table : Name) (subscripts : List Expr)
  | deleteAll (table : Name)

/-- Which records a rule is for. -/
inductive Selector where
  | every
  | when (condition : Expr)
  /-- From a record that meets the first condition to one that meets the second; ranges are numbered
  so that it can be remembered which are open. -/
  | range (number : Nat) (first last : Expr)

/-- What is done for some records. -/
structure Rule where
  selector : Selector
  action : Statement

/-- A function of a program. -/
structure Function where
  parameters : Nat
  body : Statement

/-- A program. -/
structure Script where
  /-- What is done before the first record. -/
  openings : List Statement := []
  rules : List Rule := []
  /-- What is done after the last record. -/
  closings : List Statement := []
  functions : List (String × Function) := []

end CommandShell.Machine.Awk
