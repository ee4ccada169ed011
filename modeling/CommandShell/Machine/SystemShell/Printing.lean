import CommandShell.Machine.SystemShell.Syntax
set_option autoImplicit false

/-!
# How commands are written

The text of a command as the extended dialect shows it: in the definition of a function one command
stands on a line, elsewhere they follow each other.  Words are written as they were.
-/

namespace CommandShell.Machine.SystemShell.Printing

/-- How commands are laid out. -/
structure Layout where
  /-- How far lines are indented. -/
  indent : Nat := 0
  /-- How much further lines within a command are indented. -/
  step : Nat := 4
  /-- Every command has a line of its own. -/
  inFunction : Bool := false

namespace Layout

/-- The layout of what stands within a command. -/
def inner (layout : Layout) : Layout := { layout with indent := layout.indent + layout.step }

/-- The beginning of a line. -/
def margin (layout : Layout) : String := String.ofList (List.replicate layout.indent ' ')

/-- A line feed and the beginning of the next line. -/
def newLine (layout : Layout) : String := "\n" ++ layout.margin

/-- The layout of what stands in the definition of a function. -/
def definition (layout : Layout) : Layout := { layout with inFunction := true }

/-- The definition of a function whose commands have been written. -/
def definitionText (layout : Layout) (front body : String) : String :=
  front ++ " () " ++ layout.newLine ++ "\x7b " ++ layout.inner.newLine ++ body ++ layout.newLine
    ++ "\x7d"

end Layout

/-- A text with a semicolon where one is needed. -/
def ended (text : String) : String :=
  if text.endsWith "&" || text.endsWith "\n" then text else text ++ ";"

/-- Words with something between them. -/
def wordList (words : List (List Part)) (between : String := " ") : String :=
  between.intercalate (words.map Part.spelled)

/-- A redirection; `number` writes the descriptor, given the usual one. -/
def redirectionText (number : (usual : Option Nat) → Nat → String) : Redirection → String
  | .file d .input path => number (some 0) d ++ "< " ++ Part.spelled path
  | .file d .output path => number (some 1) d ++ "> " ++ Part.spelled path
  | .file d .overwrite path => number (some 1) d ++ ">| " ++ Part.spelled path
  | .file d .append path => number (some 1) d ++ ">> " ++ Part.spelled path
  | .file d .both path => number none d ++ "<> " ++ Part.spelled path
  | .copy d word =>
    number none d ++ (if d = 0 then "<&" else ">&")
      ++ (Part.literal? word).getD (Part.spelled word)
  | .document d _ => number (some 0) d ++ "<<"
  | .word d word => number (some 0) d ++ "<<< " ++ Part.spelled word
  | .merged appends path => (if appends then "&>> " else "&> ") ++ Part.spelled path
  | .allotted name redirection =>
    redirectionText (fun _ _ => "\x7b" ++ name ++ "\x7d") redirection

/-- Redirections after a command. -/
def redirectionList (redirections : List Redirection) : String :=
  " ".intercalate (redirections.map (redirectionText fun usual d =>
    if some d = usual then "" else toString d))

/-- A condition; one that is part of another one stands in parentheses if it has parts itself. -/
def conditionText : Condition → String
  | .filled word => "-n " ++ Part.spelled word
  | .unary operator word => operator ++ " " ++ Part.spelled word
  | .binary operator left right =>
    Part.spelled left ++ " " ++ operator ++ " " ++ Part.spelled right
  | .negation condition =>
    let text := conditionText condition
    match condition with
    | .both .. | .either .. => "! ( " ++ text ++ " )"
    | _ => "! " ++ text
  | .both first second => conditionText first ++ " && " ++ conditionText second
  | .either first second => conditionText first ++ " || " ++ conditionText second

/-- The end of a case. -/
def caseEndText : CaseEnd → String
  | .leave => ";;"
  | .fallThrough => ";&"
  | .lookOn => ";;&"

mutual

/-- The text of a command, without the indentation of its first line. -/
def commandText (layout : Layout) : Command → String
  | .simple _ assignments words redirections =>
    let texts := assignments.map Assignment.spelled ++ words.map Part.spelled
    " ".intercalate (texts ++ if redirections.isEmpty then [] else [redirectionList redirections])
  | .pipeline stages => " | ".intercalate (commandTexts layout stages)
  | .negation command => "! " ++ commandText layout command
  | .both first second => commandText layout first ++ " && " ++ commandText layout second
  | .either first second => commandText layout first ++ " || " ++ commandText layout second
  | .sequence commands => sequenceText layout commands
  | .background command => commandText layout command ++ " &"
  | .subshell _ body redirections =>
    "( " ++ commandText layout body ++ " )"
      ++ (if redirections.isEmpty then "" else " " ++ redirectionList redirections)
  | .redirected _ body redirections =>
    commandText layout body ++ " " ++ redirectionList redirections
  | .conditional test body otherwise =>
    "if " ++ ended (commandText layout test) ++ " then" ++ layout.inner.newLine
      ++ ended (commandText layout.inner body) ++ layout.newLine
      ++ otherwiseText layout otherwise ++ "fi"
  | .loop isUntil test body =>
    (if isUntil then "until " else "while ") ++ commandText layout test ++ "; do"
      ++ loopText layout body
  | .each _ name words body =>
    "for " ++ name ++ " in " ++ ((words.map fun words => wordList words).getD "\"$@\"") ++ ";"
      ++ layout.newLine ++ "do" ++ loopText layout body
  | .menu _ name words body =>
    "select " ++ name ++ " in " ++ ((words.map fun words => wordList words).getD "\"$@\"") ++ ";"
      ++ layout.newLine ++ "do" ++ loopText layout body
  | .counted _ first test step body =>
    "for ((" ++ Part.spelled first ++ "; " ++ Part.spelled test ++ "; " ++ Part.spelled step
      ++ "))" ++ layout.newLine ++ "do" ++ loopText layout body
  | .select _ word cases =>
    "case " ++ Part.spelled word ++ " in " ++ casesText layout.inner cases ++ layout.newLine
      ++ "esac"
  | .define name (.group body) =>
    let text := commandText (layout.inner.definition) body
    layout.definitionText ("function " ++ name) text
  | .define name (.redirected _ (.group body) redirections) =>
    let text := commandText (layout.inner.definition) body
    layout.definitionText ("function " ++ name) text ++ " " ++ redirectionList redirections
  | .define name body =>
    let text := commandText (layout.inner.definition) body
    layout.definitionText ("function " ++ name) text
  | .group body =>
    if layout.inFunction then
      "\x7b " ++ layout.inner.newLine ++ commandText layout.inner body ++ layout.newLine ++ "\x7d"
    else "\x7b " ++ ended (commandText layout body) ++ " \x7d"
  | .calculation _ expression => "((" ++ Part.spelled expression ++ "))"
  | .condition _ condition => "[[ " ++ conditionText condition ++ " ]]"
  | .timed isPlain command =>
    (if isPlain then "time -p " else "time ") ++ commandText layout command

/-- The texts of commands. -/
def commandTexts (layout : Layout) : List Command → List String
  | [] => []
  | command :: rest => commandText layout command :: commandTexts layout rest

/-- The text of commands one after another. -/
def sequenceText (layout : Layout) : List Command → String
  | [] => ""
  | [command] => commandText layout command
  | command :: rest =>
    let text := commandText layout command
    let between :=
      if text.endsWith "&" then " "
      else if layout.inFunction then ";" ++ layout.newLine else "; "
    text ++ between ++ sequenceText layout rest

/-- What is done if a test fails. -/
def otherwiseText (layout : Layout) : Option Command → String
  | none => ""
  | some command =>
    "else" ++ layout.inner.newLine ++ ended (commandText layout.inner command) ++ layout.newLine

/-- The body of a loop and its end. -/
def loopText (layout : Layout) (body : Command) : String :=
  layout.inner.newLine ++ ended (commandText layout.inner body) ++ layout.newLine ++ "done"

/-- The cases of a selection. -/
def casesText (layout : Layout) : List (List (List Part) × Command × CaseEnd) → String
  | [] => ""
  | (patterns, body, ending) :: rest =>
    let text := commandText layout.inner body
    layout.newLine ++ wordList patterns " | " ++ ")\n"
      ++ (if text = "" then "" else layout.inner.margin ++ text)
      ++ layout.newLine ++ caseEndText ending ++ casesText layout rest

end

/-- The definition of a function. -/
def functionText (name : String) (body : Command) : String :=
  ((commandText {} (.define name body)).drop "function ".length).toString ++ "\n"

/-- The definition of a function as programs are given it. -/
def exportedText (body : Command) : String :=
  let inner := match body with
    | .group body => body
    | body => body
  "() \x7b  " ++ commandText { indent := 1, step := 0, inFunction := true } inner ++ "\n\x7d"

end CommandShell.Machine.SystemShell.Printing
