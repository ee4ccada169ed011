set_option autoImplicit false

/-!
# Commands of the system's shell

What a script of the system's shell is made of.  A word has parts, and each part knows whether it
stands in quotes: only what does not can be split into several words or stand for file names.

The language has two dialects.  Much of what a script can be made of belongs to the extended one
alone, and no reader of the plain one makes it.
-/

namespace CommandShell.Machine.SystemShell

/-- A form of the language. -/
inductive Dialect where
  | plain
  /-- With lists, conditions and arithmetic as commands of their own. -/
  | extended
  deriving DecidableEq

/-- How the file of a redirection is opened. -/
inductive FileUse where
  | input
  | output
  /-- As `output`, whatever the options say. -/
  | overwrite
  | append
  | both
  deriving DecidableEq

/-- When a word takes the place of a parameter, or goes with it. -/
inductive Substitute where
  /-- The word stands for a parameter without value. -/
  | default
  /-- The word becomes the value of a parameter without one. -/
  | assign
  /-- The word is the complaint about a parameter without value. -/
  | complain
  /-- The word stands for a parameter that has a value. -/
  | alternative
  deriving DecidableEq

/-- Where a pattern must fit to be replaced. -/
inductive ReplaceScope where
  | first
  | every
  | atBeginning
  | atEnd
  deriving DecidableEq

/-- What becomes of a letter. -/
inductive CaseChange where
  | upper
  | lower
  | toggle
  deriving DecidableEq

/-- What follows a case that has been chosen. -/
inductive CaseEnd where
  | leave
  /-- The commands of the next case, whatever its patterns. -/
  | fallThrough
  /-- The cases that come next are looked at as well. -/
  | lookOn
  deriving DecidableEq

mutual

/-- A part of a word. -/
inductive Part where
  | text (text : String) (quoted : Bool)
  | parameter (name : String) (subscript : Subscript) (use : ParameterUse) (quoted : Bool)
  /-- What a script writes. -/
  | output (script : Command) (quoted : Bool)
  /-- What a script writes that is read only when it is run. -/
  | textOutput (script : String) (quoted : Bool)
  | arithmetic (expression : List Part) (quoted : Bool)
  /-- The name of a file from which the output of a script is read, or to which its input is
  written. -/
  | process (isInput : Bool) (script : Command)
  /-- The elements that a variable gets. -/
  | list (elements : List Element)
  /-- An assignment among the arguments of a command that takes them. -/
  | assignment (assignment : Assignment)
  /-- How the parts before are written; nothing is made of it. -/
  | spelling (source : String)

/-- Which elements of a variable are meant. -/
inductive Subscript where
  | none
  /-- All elements, each a word of its own in quotes. -/
  | all
  /-- All elements, one word in quotes. -/
  | joined
  | at (key : List Part)

/-- An element of a list: its place, if that is given, and its value or what is added to it. -/
inductive Element where
  | element (subscript : Subscript) (appends : Bool) (value : List Part)

/-- An assignment of a value, or of something that is added to the old one. -/
inductive Assignment where
  | assign (name : String) (subscript : Subscript) (appends : Bool) (value : List Part)

/-- What is made of the value of a parameter. -/
inductive ParameterUse where
  | value
  | length
  /-- An empty value counts as none if `emptyToo`. -/
  | substitute (rule : Substitute) (emptyToo : Bool) (word : List Part)
  /-- The value without the part at its beginning or end that a pattern fits. -/
  | trim (atEnd longest : Bool) (pattern : List Part)
  /-- The value with another text in the place of what a pattern fits. -/
  | replace (scope : ReplaceScope) (pattern replacement : List Part)
  /-- A piece of the value from an offset on, which may have a length. -/
  | slice (offset : List Part) (hasLength : Bool) (length : List Part)
  /-- The value with other letters where a pattern fits. -/
  | changeCase (change : CaseChange) (every : Bool) (pattern : List Part)
  /-- The value in another form, which a letter names. -/
  | transform (letter : Char)
  /-- What is made of the parameter that the value names. -/
  | indirect (use : ParameterUse)
  /-- The places of the elements. -/
  | keys
  /-- The names of all variables that begin so. -/
  | names (joined : Bool)
  /-- Nothing that is known; the text is how it is written. -/
  | bad (source : String)

/-- A redirection of a descriptor. -/
inductive Redirection where
  | file (descriptor : Nat) (use : FileUse) (path : List Part)
  /-- The descriptor that the word names, or none for `-`. -/
  | copy (descriptor : Nat) (word : List Part)
  /-- The text in the script that has this number. -/
  | document (descriptor : Nat) (number : Nat)
  /-- A word and a line feed. -/
  | word (descriptor : Nat) (word : List Part)
  /-- Standard output and standard error to one file. -/
  | merged (appends : Bool) (path : List Part)
  /-- A redirection of a descriptor that is looked for and put into a variable. -/
  | allotted (name : String) (redirection : Redirection)

/-- What a condition asks. -/
inductive Condition where
  /-- The word is not empty. -/
  | filled (word : List Part)
  | unary (operator : String) (word : List Part)
  | binary (operator : String) (left right : List Part)
  | negation (condition : Condition)
  | both (first second : Condition)
  | either (first second : Condition)

/-- A command. -/
inductive Command where
  /-- Assignments and the words of a command, with the line of the script. -/
  | simple (line : Nat) (assignments : List Assignment) (words : List (List Part))
      (redirections : List Redirection)
  | pipeline (stages : List Command)
  | negation (command : Command)
  | both (first second : Command)
  | either (first second : Command)
  | sequence (commands : List Command)
  | background (command : Command)
  | subshell (line : Nat) (body : Command) (redirections : List Redirection)
  | redirected (line : Nat) (body : Command) (redirections : List Redirection)
  | conditional (test body : Command) (otherwise : Option Command)
  /-- A loop that goes on while its test succeeds, or until it does. -/
  | loop (isUntil : Bool) (test body : Command)
  /-- A loop over words; without any, over the arguments. -/
  | each (line : Nat) (name : String) (words : Option (List (List Part))) (body : Command)
  | select (line : Nat) (word : List Part) (cases : List (List (List Part) × Command × CaseEnd))
  | define (name : String) (body : Command)
  /-- A command in braces. -/
  | group (body : Command)
  /-- Succeeds if a number is not zero. -/
  | calculation (line : Nat) (expression : List Part)
  /-- A loop that begins with one calculation, goes on while another one is not zero and makes a
  third one after each round. -/
  | counted (line : Nat) (first test step : List Part) (body : Command)
  | condition (line : Nat) (condition : Condition)
  /-- A loop over the words that someone chooses from a menu. -/
  | menu (line : Nat) (name : String) (words : Option (List (List Part))) (body : Command)
  /-- A command whose time is taken. -/
  | timed (isPlain : Bool) (command : Command)

end

instance : Inhabited Command := ⟨.sequence []⟩

/-- The command that does nothing. -/
def Command.nothing : Command := .sequence []

/-- A command of which nothing but its text is known. -/
def Command.ofText (text : String) : Command := .simple 0 [] [[.spelling text]] []

/-- Commands one after another. -/
def Command.ofList : List Command → Command
  | [command] => command
  | commands => .sequence commands

/-- The part stands in quotes. -/
def Part.isQuoted : Part → Bool
  | .text _ quoted | .parameter _ _ _ quoted | .output _ quoted | .textOutput _ quoted
  | .arithmetic _ quoted => quoted
  | .process .. | .list _ | .assignment _ | .spelling _ => false

/-- The parts stand for nothing. -/
def Part.areNothing : List Part → Bool
  | [] | [.spelling _] => true
  | _ => false

/-- How parts are written, as far as that is known. -/
def Part.spelled (parts : List Part) : String :=
  (parts.findSome? fun
    | .spelling source => some source
    | _ => none).getD ""

/-- The text of a word that is nothing but text outside of quotes. -/
def Part.literal? : List Part → Option String
  | [.text word false] | [.text word false, .spelling _] => some word
  | _ => none

/-! ## Names -/

/-- A character that can begin a name. -/
def isNameStart (c : Char) : Bool := c.isAlpha || c = '_'

/-- A character that can stand in a name. -/
def isNameChar (c : Char) : Bool := c.isAlphanum || c = '_'

/-- A name of a variable. -/
def isName (word : String) : Bool :=
  match word.toList with
  | [] => false
  | c :: cs => isNameStart c && cs.all isNameChar

/-- A parameter that is named by a character of its own. -/
def isSpecialParameter (c : Char) : Bool := "$*@#?-!".contains c || c.isDigit

/-- The variable and the rest of a word that begins with a name and an equals sign. -/
def splitAssignment? (word : String) : Option (String × String) :=
  let name := word.toList.takeWhile isNameChar
  match word.toList.drop name.length with
  | '=' :: value =>
    if isName (String.ofList name) then some (String.ofList name, String.ofList value) else none
  | _ => none

/-- An assignment as it stands in a word. -/
def assignment? : List Part → Option Assignment
  | .assignment (.assign name subscript appends value) :: rest =>
    some (.assign name subscript appends (value ++ rest))
  | .text text false :: rest =>
    (splitAssignment? text).map fun (name, value) =>
      .assign name .none false (if value = "" then rest else .text value false :: rest)
  | _ => none

/-- The variable of an assignment. -/
def Assignment.name : Assignment → String
  | .assign name _ _ _ => name

/-- How an assignment is written. -/
def Assignment.spelled : Assignment → String
  | .assign _ _ _ value => Part.spelled value

end CommandShell.Machine.SystemShell
