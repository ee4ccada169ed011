import CommandShell.Machine.SystemShell.Reader.Command
import CommandShell.Machine.SystemShell.Running
set_option autoImplicit false

/-!
# What builtin commands have in common

A builtin command gets its arguments and may ask the shell to run something.  Its result is its
exit status.
-/

namespace CommandShell.Machine.SystemShell

/-- A script that is run as a whole. -/
structure Script where
  text : String
  /-- What the script is called where it is wrongly written. -/
  label : Option String := none
  /-- The script is in a file. -/
  isFile : Bool := false
  /-- Its first line is line 1 and not the line under way. -/
  countsAnew : Bool := false
  /-- Its commands are shown as those of a script within the one under way. -/
  isInner : Bool := true
  /-- Its output takes its place. -/
  isOutput : Bool := false

namespace Script

/-- A script that is an argument. -/
def ofArgument (text : String) : Script := { text, label := some "eval" }

/-- A script in a file. -/
def ofFile (text : String) : Script := { text, isFile := true, countsAnew := true }

/-- A script whose output takes its place. -/
def ofOutput (text : String) : Script :=
  { text, label := some "command substitution", isOutput := true }

/-- A script for a signal or for the end of the shell. -/
def ofTrap (text : String) (countsAnew : Bool) : Script :=
  { text, label := some "trap", countsAnew }

end Script

/-- What a builtin command may ask the shell for. -/
structure Runner where
  /-- Runs a command; nothing follows it if `final`. -/
  command : (final : Bool) → Command → Eval Nat
  /-- Runs a command whose output takes its place. -/
  output : Command → Eval Nat
  /-- Runs a script. -/
  script : Script → Eval Nat

/-- Runs the script that was kept for the end of the shell. -/
def Runner.atEnd (runner : Runner) (text : String) : Eval Nat :=
  runner.script { Script.ofTrap text true with isInner := false }

/-- Does what a builtin command does with its arguments. -/
abbrev Builtin := Runner → List String → Eval Nat

/-! ## Output -/

/-- Writes bytes to standard output. -/
def putBytes (bytes : ByteArray) : Eval Nat := do
  if bytes.isEmpty then return 0
  match ← doCall (.write standardOutput bytes) with
  | .ok () => return 0
  | .error errno =>
    if ← speaksExtended then warn ("write error: " ++ errno.description)
    else warn (((← get).builtin).getD "" ++ ": I/O error")
    return 1

/-- Writes a text to standard output. -/
def putText (text : String) : Eval Nat := putBytes (Text.toBytes text)

/-- A value as the plain dialect shows it. -/
def shownValue (value : String) : String := "'" ++ value.replace "'" "'\"'\"'" ++ "'"

/-! ## Options of the plain dialect -/

/-- The letters of options at the front of arguments, and the other arguments.  Only `known`
letters may stand there. -/
def takeOptions (known : String) : List String → Eval (List Char × List String)
  | [] => return ([], [])
  | "--" :: rest => return ([], rest)
  | word :: rest => do
    match word.toList with
    | '-' :: c :: cs =>
      match (c :: cs).find? fun letter => !known.contains letter with
      | some letter => fail ("Illegal option -" ++ letter.toString)
      | none =>
        let (letters, rest) ← takeOptions known rest
        return (c :: cs ++ letters, rest)
    | _ => return ([], word :: rest)

/-- Refuses options. -/
def withoutOptions (arguments : List String) : Eval (List String) :=
  return (← takeOptions "" arguments).2

/-- Does nothing. -/
def doNothing (status : Nat) : Builtin := fun _ _ => return status

/-- A status or a count, if one is given. -/
def optionalNumber (arguments : List String) (default : Nat) : Eval Nat :=
  match arguments with
  | [] => return default
  | word :: _ => natural word

/-! ## Options of the extended dialect -/

/-- An option of the extended dialect. -/
structure GivenOption where
  /-- The option is taken back. -/
  isOff : Bool := false
  letter : Char
  /-- The argument of the option, if it has one. -/
  value : String := ""

/-- Complains, and ends the builtin command. -/
def refuseCommand {α : Type} (text : String) (status : Nat := 1) : Eval α := do
  warn text
  throw (.fail status)

/-- Ends the builtin command after a line that says how it is used. -/
def refuseUse {α : Type} (usage : String) : Eval α := do
  let name := ((← get).builtin).getD ""
  putError (name ++ ": usage: " ++ usage ++ "\n")
  throw (.fail 2)

/-- The options in the letters of a word; the last one may take the next word as its argument.  A
letter that takes an argument has a colon behind it in `known`. -/
def letterOptions (usage known : String) (isOff : Bool) :
    List Char → (rest : List String) → Eval (List GivenOption × List String)
  | [], rest => return ([], rest)
  | letter :: letters, rest => do
    let sign := if isOff then "+" else "-"
    match known.toList.dropWhile (· ≠ letter) with
    | [] =>
      warn (sign ++ letter.toString ++ ": invalid option")
      refuseUse usage
    | _ :: ':' :: _ =>
      if letter = ':' then
        warn (sign ++ letter.toString ++ ": invalid option")
        refuseUse usage
      match letters, rest with
      | _ :: _, rest => return ([{ letter, isOff, value := String.ofList letters }], rest)
      | [], value :: rest => return ([{ letter, isOff, value }], rest)
      | [], [] =>
        warn (sign ++ letter.toString ++ ": option requires an argument")
        refuseUse usage
    | _ =>
      let (options, rest) ← letterOptions usage known isOff letters rest
      return ({ letter, isOff } :: options, rest)

/-- The options at the front of arguments, and the other arguments.  Words with a plus sign are
options too if `takesBack`. -/
def readOptions (usage known : String) (takesBack : Bool := false) :
    (fuel : Nat) → List String → Eval (List GivenOption × List String)
  | 0, words => return ([], words)
  | _, [] => return ([], [])
  | fuel + 1, word :: rest => do
    match word.toList with
    | ['-', '-'] => return ([], rest)
    | sign :: letter :: letters =>
      if sign = '-' || (sign = '+' && takesBack) then
        let (options, rest) ← letterOptions usage known (sign = '+') (letter :: letters) rest
        let (others, rest) ← readOptions usage known takesBack fuel rest
        return (options ++ others, rest)
      return ([], word :: rest)
    | _ => return ([], word :: rest)

/-- The options of a builtin command of the extended dialect, and its other arguments. -/
def extendedOptions (usage known : String) (arguments : List String) (takesBack : Bool := false) :
    Eval (List GivenOption × List String) :=
  readOptions usage known takesBack arguments.length arguments

/-- An option is among those that are given. -/
def hasOption (options : List GivenOption) (letter : Char) : Bool :=
  options.any fun option => option.letter = letter && !option.isOff

/-- The argument of an option, if it is given. -/
def optionValue? (options : List GivenOption) (letter : Char) : Option String :=
  (options.reverse.find? (·.letter = letter)).map GivenOption.value

/-- A number with an optional sign, and blanks around it. -/
def signedNumber? (word : String) : Option Int :=
  let isBlank (c : Char) : Bool := c = ' ' || c = '\t' || c = '\n'
  let body := (word.toList.dropWhile isBlank).reverse.dropWhile isBlank |>.reverse
  let (negative, digits) : Bool × List Char := match body with
    | '-' :: digits => (true, digits)
    | '+' :: digits => (false, digits)
    | digits => (false, digits)
  (Program.natural? (String.ofList digits)).map fun n => if negative then -(n : Int) else n

end CommandShell.Machine.SystemShell
