set_option autoImplicit false

/-!
# Options

The arguments of a program of the system are options and operands.  An option is a letter after `-`
or a word after `--`; letters may share one argument, and a word may be cut short while it stays
unambiguous.  Everything after `--` is an operand.
-/

namespace CommandShell.Machine.Program

/-- Whether an option takes a value. -/
inductive ValueRule where
  | none
  | required
  | optional
  deriving DecidableEq

/-- The options that a program knows. -/
structure OptionTable where
  letters : List (Char × ValueRule)
  /-- The words, each with the letter that it stands for. -/
  words : List (String × ValueRule × Char) := []
  /-- Options may stand after operands. -/
  mixed : Bool := true

/-- Letters that take no value. -/
def OptionTable.flags (letters : String) : List (Char × ValueRule) :=
  letters.toList.map fun letter => (letter, .none)

/-- Letters that take a value. -/
def OptionTable.valued (letters : String) : List (Char × ValueRule) :=
  letters.toList.map fun letter => (letter, .required)

/-- Why arguments were refused. -/
inductive OptionFault where
  | unknownLetter (letter : Char)
  | unknownWord (argument : String)
  | letterWithoutValue (letter : Char)
  | wordWithoutValue (word : String)
  | unwantedValue (word : String)
  | ambiguous (argument : String) (words : List String)

/-- The wording of a refusal. -/
def OptionFault.message : OptionFault → String
  | unknownLetter letter => "invalid option -- '" ++ letter.toString ++ "'"
  | unknownWord argument => "unrecognized option '" ++ argument ++ "'"
  | letterWithoutValue letter => "option requires an argument -- '" ++ letter.toString ++ "'"
  | wordWithoutValue word => "option '--" ++ word ++ "' requires an argument"
  | unwantedValue word => "option '--" ++ word ++ "' doesn't allow an argument"
  | ambiguous argument words =>
    "option '" ++ argument ++ "' is ambiguous; possibilities:"
      ++ String.join (words.map fun word => " '--" ++ word ++ "'")

/-- Arguments that have been understood. -/
structure Parsed where
  /-- The options in order, by letter, with their values. -/
  options : List (Char × Option String) := []
  operands : List String := []

namespace Parsed

/-- An option is given. -/
def has (parsed : Parsed) (letter : Char) : Bool := parsed.options.any (·.1 = letter)

/-- The value of the last such option. -/
def value? (parsed : Parsed) (letter : Char) : Option String :=
  (parsed.options.reverse.find? (·.1 = letter)).bind Prod.snd

/-- The values of all such options, in order. -/
def values (parsed : Parsed) (letter : Char) : List String :=
  parsed.options.filterMap fun option => if option.1 = letter then option.2 else none

/-- The last of several options that exclude each other. -/
def last? (parsed : Parsed) (letters : String) : Option Char :=
  (parsed.options.reverse.find? fun option => letters.contains option.1).map Prod.fst

/-- One more option before the others. -/
def addOption (parsed : Parsed) (letter : Char) (value : Option String) : Parsed :=
  { parsed with options := (letter, value) :: parsed.options }

end Parsed

namespace OptionTable

/-- The letters of one argument.  The value of a letter is the rest of the argument, or the next
one: then the result says that it was used up. -/
def readLetters (table : OptionTable) (next : Option String) :
    List Char → Except OptionFault (List (Char × Option String) × Bool)
  | [] => .ok ([], false)
  | letter :: rest =>
    match table.letters.lookup letter with
    | none => .error (.unknownLetter letter)
    | some .none =>
      (table.readLetters next rest).map fun (options, used) => ((letter, none) :: options, used)
    | some .optional =>
      .ok ([(letter, if rest.isEmpty then none else some (String.ofList rest))], false)
    | some .required =>
      if rest.isEmpty then
        match next with
        | some value => .ok ([(letter, some value)], true)
        | none => .error (.letterWithoutValue letter)
      else .ok ([(letter, some (String.ofList rest))], false)

/-- Words that every program knows. -/
def commonWords : List String := ["help", "version"]

/-- The word of one argument, with the next argument if it is its value. -/
def readWord (table : OptionTable) (next : Option String) (argument : String) :
    Except OptionFault ((Char × Option String) × Bool) := do
  let body := (argument.drop 2).toString
  let name := String.ofList (body.toList.takeWhile (· ≠ '='))
  let value : Option String :=
    if name.length < body.length then some (body.drop (name.length + 1)).toString else none
  let matching := table.words.filter fun entry => entry.1.startsWith name
  let common := commonWords.filter fun word => word.startsWith name
  let found ←
    match table.words.find? (·.1 = name) with
    | some entry => pure entry
    | none =>
      match matching with
      | [] => throw (.unknownWord argument)
      | entry :: others =>
        if common.isEmpty && others.all (fun other => other.2 = entry.2) then pure entry
        else throw (.ambiguous argument (matching.map Prod.fst ++ common))
  let (word, rule, letter) := found
  match rule, value, next with
  | .none, some _, _ => throw (.unwantedValue word)
  | .none, none, _ => return ((letter, none), false)
  | .optional, value, _ => return ((letter, value), false)
  | .required, some value, _ => return ((letter, some value), false)
  | .required, none, some value => return ((letter, some value), true)
  | .required, none, none => throw (.wordWithoutValue word)

/-- Understands arguments, of which the first is left out if `skip`. -/
def parseFrom (table : OptionTable) (skip : Bool) : List String → Except OptionFault Parsed
  | [] => .ok {}
  | argument :: rest =>
    if skip then table.parseFrom false rest
    else if argument = "--" then .ok { operands := rest }
    else if argument.startsWith "--" then do
      let ((letter, value), used) ← table.readWord rest.head? argument
      return (← table.parseFrom used rest).addOption letter value
    else if argument.startsWith "-" && argument ≠ "-" then do
      let (options, used) ← table.readLetters rest.head? (argument.toList.drop 1)
      let parsed ← table.parseFrom used rest
      return { parsed with options := options ++ parsed.options }
    else if table.mixed then do
      let parsed ← table.parseFrom false rest
      return { parsed with operands := argument :: parsed.operands }
    else .ok { operands := argument :: rest }

/-- Understands the arguments of a program. -/
def parse (table : OptionTable) (arguments : List String) : Except OptionFault Parsed :=
  table.parseFrom false arguments

end OptionTable

end CommandShell.Machine.Program
