set_option autoImplicit false

/-!
# Commands

A command line is a tree.  Its leaves start a program or a builtin; its inner nodes put commands
in sequence, join two of them, or send a stream of one to a file.
-/

namespace CommandShell

/-- How two commands are joined. -/
inductive Connective where
  /-- `&&`: the second runs if the first succeeds. -/
  | conjunction
  /-- `||`: the second runs if the first fails. -/
  | disjunction
  /-- `|`: the second reads what the first writes. -/
  | pipe
  deriving DecidableEq

/-- What a redirection does with its file. -/
inductive Redirect where
  /-- `<`: the command reads from the file. -/
  | input
  /-- `>`: the command's output replaces the file. -/
  | output
  /-- `>>`: the command's output goes after what the file holds. -/
  | append
  deriving DecidableEq

/-- The commands that run inside the interpreter.  Their arguments are checked when they run. -/
inductive Builtin where
  /-- `exit [code]` -/
  | exit (arguments : List String)
  /-- `test [-e|-f|-d] path`, or the same between square brackets. -/
  | test (bracket : Bool) (arguments : List String)
  deriving DecidableEq

/-- A command. -/
inductive Command where
  | executable (program : String) (arguments : List String)
  | builtin (action : Builtin)
  | sequential (commands : List Command)
  | binary (connective : Connective) (primary secondary : Command)
  | redirection (redirect : Redirect) (primary : Command) (path : String)
  deriving BEq

namespace Command

/-- The command that the words of a simple command stand for: `exit`, `test` and `[` are builtins,
any other first word names a program. -/
def ofWords (program : String) (arguments : List String) : Command :=
  if program = "exit" then builtin (.exit arguments)
  else if program = "test" then builtin (.test false arguments)
  else if program = "[" then builtin (.test true arguments)
  else executable program arguments

/-- Running the command involves more than one command, leaving redirections out. -/
def isComposite : Command → Bool
  | sequential _ | binary .. => true
  | executable .. | builtin _ | redirection .. => false

/-- The stages of a pipeline, from first to last: a chain of pipes is cut along its second
operands, and anything else is one stage. -/
def pipelineStages : Command → List Command
  | binary .pipe primary secondary => primary :: pipelineStages secondary
  | command => [command]

theorem pipelineStages_ne_nil (command : Command) : command.pipelineStages ≠ [] := by
  cases command with
  | binary connective => cases connective <;> simp [pipelineStages]
  | _ => simp [pipelineStages]

/-- The height of the tree; a simple command has height 0. -/
def height : Command → Nat
  | executable .. | builtin _ => 0
  | sequential commands => heights commands
  | binary _ primary secondary => max primary.height secondary.height + 1
  | redirection _ primary _ => primary.height + 1
where
  /-- One more than the largest height in the list, and 0 for the empty list. -/
  heights : List Command → Nat
    | [] => 0
    | command :: rest => max (command.height + 1) (heights rest)

end Command

end CommandShell
