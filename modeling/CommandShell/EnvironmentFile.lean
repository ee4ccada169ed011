import CommandShell.Text.Alphanumeric
import CommandShell.Text.Blank
set_option autoImplicit false

/-!
# Environment files

A file of lines `NAME=value` gives variables that the environment does not have.  A value may be
quoted, hold escapes, and refer to other variables; a comment may follow it.
-/

namespace CommandShell.EnvironmentFile

/-- Variables with their values; the first value of a variable counts. -/
abbrev Variables := List (String × String)

/-- The value that an environment has for a name.  The system finds it in a variable written out as
`NAME=value`, after the name and one `=`, so that a name with a `=` in it may reach into a value. -/
def valueIn (environment : Variables) (name : String) : Option String :=
  if name = "" then none
  else
    environment.findSome? fun (owner, value) =>
      let written := owner ++ "=" ++ value
      let start := name ++ "="
      if written.startsWith start then some (written.drop start.length).toString else none

/-- How a value is being read. -/
inductive Mode where
  | plain
  | singleQuoted
  | doubleQuoted
  /-- After a blank: nothing but a comment may follow. -/
  | ended
  deriving DecidableEq

/-- A reference to a variable that is being read: its name so far, the last character first, and
whether it stands between braces. -/
inductive Reference where
  | bare (name : List Char)
  | braced (name : List Char)

/-- The value under way. -/
structure Reading where
  mode : Mode
  escaped : Bool
  reference : Option Reference
  /-- The value so far, the last character first. -/
  value : List Char

/-- The value of the variable that a reversed name refers to, reversed. -/
def substitute (lookup : String → Option String) (name : List Char) : List Char :=
  ((lookup (String.ofList name.reverse)).getD "").toList.reverse

/-- Reads one character outside references. -/
def Reading.plainStep (r : Reading) (c : Char) : Reading :=
  if c = '$' then { r with reference := some (.bare []) }
  else
    match r.mode with
    | .doubleQuoted =>
      if c = '"' then { r with mode := .plain }
      else if c = '\\' then { r with escaped := true }
      else { r with value := c :: r.value }
    | _ =>
      if c = '\'' then { r with mode := .singleQuoted }
      else if c = '"' then { r with mode := .doubleQuoted }
      else if c = '\\' then { r with escaped := true }
      else if c = ' ' || c = '\t' then { r with mode := .ended }
      else { r with value := c :: r.value }

/-- Reads the characters of a value. -/
def readValue (lookup : String → Option String) (r : Reading) : List Char → Option String
  | [] =>
    let isOpen : Bool := match r.reference with
      | some (.braced _) => true
      | _ => r.mode == .singleQuoted || r.mode == .doubleQuoted
    if isOpen then none
    else
      let value := match r.reference with
        | some (.bare name) => substitute lookup name ++ r.value
        | _ => r.value
      some (String.ofList value.reverse)
  | c :: rest =>
    if r.mode = .ended then
      if c = ' ' || c = '\t' then readValue lookup r rest
      else if c = '#' then some (String.ofList r.value.reverse)
      else none
    else if r.escaped then
      if c = '\\' || c = '\'' || c = '"' || c = '$' || c = ' ' then
        readValue lookup { r with escaped := false, value := c :: r.value } rest
      else if c = 'n' then
        readValue lookup { r with escaped := false, value := '\n' :: r.value } rest
      else none
    else if r.mode = .singleQuoted then
      if c = '\'' then readValue lookup { r with mode := .plain } rest
      else readValue lookup { r with value := c :: r.value } rest
    else
      match r.reference with
      | some (.braced name) =>
        if c = '\x7d' then
          readValue lookup
            { r with reference := none, value := substitute lookup name ++ r.value } rest
        else readValue lookup { r with reference := some (.braced (c :: name)) } rest
      | some (.bare name) =>
        if Text.isAlphanumeric c then
          readValue lookup { r with reference := some (.bare (c :: name)) } rest
        else if c = '\x7b' && name.isEmpty then
          readValue lookup { r with reference := some (.braced []) } rest
        else
          let value := substitute lookup name ++ r.value
          if c = '$' then
            readValue lookup { r with reference := some (.bare []), value := value } rest
          else readValue lookup { r with reference := none, value := c :: value } rest
      | none => readValue lookup (r.plainStep c) rest

/-- The name at the front of a line, with the text after it. -/
def readName (cs : List Char) : Option (String × List Char) :=
  match cs with
  | c :: _ =>
    if c.isAlpha || c = '_' then
      let isPart (c : Char) : Bool := c.isAlphanum || c = '_' || c = '.'
      some (String.ofList (cs.takeWhile isPart), Text.trimStart (cs.dropWhile isPart))
    else none
  | [] => none

/-- The variable that a line gives: none if there is none on it.  The outer none is an error. -/
def readLine (lookup : String → Option String) (line : List Char) :
    Option (Option (String × String)) := do
  let line := Text.trimStart (Text.trimStart line.reverse).reverse
  if line.isEmpty || line.head? = some '#' then return none
  let (name, rest) ← readName line
  let (name, rest) ←
    match rest with
    | '=' :: rest => some (name, rest)
    | rest =>
      if name = "export" then
        match readName rest with
        | some (name, '=' :: rest) => some (name, rest)
        | _ => none
      else none
  let rest := Text.trimStart rest
  if rest.isEmpty || rest.head? = some '#' then return some (name, "")
  let value ← readValue lookup ⟨.plain, false, none, []⟩ rest
  return some (name, value)

/-- The environment with the variables of the lines that it does not have, up to the first line
that is in error.  A later line may refer to the variables of the file even if the environment has
other values for them. -/
def load (environment file : Variables) : List (List Char) → Variables
  | [] => environment
  | line :: rest =>
    let lookup (name : String) : Option String := valueIn environment name <|> file.lookup name
    match readLine lookup line with
    | none => environment
    | some none => load environment file rest
    | some (some (name, value)) =>
      let file := (name, value) :: file
      match environment.lookup name with
      | some _ => load environment file rest
      | none => load (environment ++ [(name, value)]) file rest

end CommandShell.EnvironmentFile
