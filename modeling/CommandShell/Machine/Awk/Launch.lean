import CommandShell.Machine.Awk.Reader
import CommandShell.Machine.Awk.Statement
set_option autoImplicit false

/-!
# The program for record programs

It runs the program that is its first argument, or that stands in files, on the files that the other
arguments name.
-/

namespace CommandShell.Machine.Awk

/-- What the arguments ask for. -/
structure Invocation where
  fieldBreak : Option String := none
  assignments : List (String × ByteArray) := []
  /-- The files that the program stands in. -/
  files : List String := []
  words : List String := []

/-- Ends with a complaint. -/
def giveUp {α : Type} (name text : String) : Routine α := do
  Program.complain name text
  Program.quit 2

/-- Understands one option with its value. -/
def readOption (name : String) (letter : Char) (value : String) (invocation : Invocation) :
    Routine Invocation := do
  match letter with
  | 'F' => return { invocation with fieldBreak := some value }
  | 'f' => return { invocation with files := invocation.files ++ [value] }
  | 'v' =>
    match Running.assignFrom? value unescaped with
    | some assignment =>
      return { invocation with assignments := invocation.assignments ++ [assignment] }
    | none => giveUp name ("improper assignment: -v " ++ value)
  | _ =>
    Program.complain name ("vacuous option: -W \"" ++ value ++ "\"")
    return invocation

/-- Understands the arguments. -/
def readInvocation (name : String) : (fuel : Nat) → List String → Invocation →
    Routine Invocation
  | 0, words, invocation => return { invocation with words }
  | _, [], invocation => return invocation
  | fuel + 1, word :: rest, invocation => do
    match word.toList with
    | ['-'] => return { invocation with words := word :: rest }
    | ['-', '-'] => return { invocation with words := rest }
    | '-' :: letter :: value =>
      if !"FfvW".contains letter then giveUp name ("not an option: " ++ word)
      match value, rest with
      | [], next :: rest =>
        readInvocation name fuel rest (← readOption name letter next invocation)
      | [], [] => giveUp name ("option -" ++ letter.toString ++ " lacks argument")
      | value, rest =>
        readInvocation name fuel rest
          (← readOption name letter (String.ofList value) invocation)
    | _ => return { invocation with words := word :: rest }

/-- The text of the program in files. -/
def readProgramFiles (name : String) : List String → Routine ByteArray
  | [] => return .empty
  | file :: rest => do
    match ← Program.readFile file with
    | .ok bytes => return bytes ++ "\n".toUTF8 ++ (← readProgramFiles name rest)
    | .error errno =>
      giveUp name ("cannot open \"" ++ file ++ "\" (" ++ errno.description ++ ")")

/-- Gives a table values by their keys. -/
def fillTable (name : String) (entries : List (Key × Value)) : Running Unit := do
  let number ← Running.tableOf (.global name)
  for (key, value) in entries do
    Running.setElement number key value

/-- Sets what every program begins with. -/
def begin (name : String) (environment : Environment) (invocation : Invocation)
    (words : List String) : Running Unit := do
  let texts := [("FS", " "), ("OFS", " "), ("ORS", "\n"), ("RS", "\n"), ("SUBSEP", "\u001c"),
    ("CONVFMT", "%.6g"), ("OFMT", "%.6g"), ("FILENAME", "")]
  for (variable_, text) in texts do
    Running.setPlain variable_ (.ofString text)
  for (variable_, n) in [("NR", 0.0), ("FNR", 0.0), ("RSTART", 0.0), ("RLENGTH", -1.0)] do
    Running.setPlain variable_ (.number n)
  let arguments := (name :: words).zipIdx.map fun (word, i) =>
    (Key.number i, Value.input (Text.toBytes word))
  Running.setPlain "ARGC" (.number (Float.ofNat arguments.length))
  fillTable "ARGV" arguments
  fillTable "ENVIRON" (environment.map fun (variable_, value) =>
    (Key.text (Text.toBytes variable_), Value.input (Text.toBytes value)))
  if let some fieldBreak := invocation.fieldBreak then
    Running.setScalar (.global "FS") (.text (unescaped (Text.toBytes fieldBreak)))
  for (variable_, value) in invocation.assignments do
    Running.setScalar (.global variable_) (.input value)

/-- Runs record programs. -/
def awk : Program := fun image => do
  let name := image.name
  let invocation ← readInvocation name (image.words.length + 1) image.words {}
  let (text, words) ←
    if invocation.files.isEmpty then
      match invocation.words with
      | [] => return 0
      | text :: words => pure (Text.toBytes text, words)
    else do pure (← readProgramFiles name invocation.files, invocation.words)
  match readScript text with
  | .error complaints =>
    let place := match invocation.files with
      | [file] => file ++ ": "
      | _ => ""
    for complaint in complaints do
      Program.complain name
        (if (complaint.splitOn ": ").head?.any (·.toNat?.isSome) then complaint
          else place ++ complaint)
    return 2
  | .ok script =>
    let memory : Memory :=
      { name, environment := image.environment
        sinks := [{ name := Running.outputName, descriptor := standardOutput }] }
    let whole : Running Unit := do
      begin name image.environment invocation words
      tryCatch (runScript script) fun _ => modify fun memory => { memory with exitCode := 2 }
      Running.closeAll
    let (_, memory) ← (ExceptT.run whole).run memory
    return memory.exitCode

end CommandShell.Machine.Awk
