import CommandShell.Machine.SystemShell.Builtin.Basic
set_option autoImplicit false

/-!
# Aliases

A text that takes the place of a word at the beginning of a command.  Aliases matter while a script
is read; here they are made, listed and forgotten.
-/

namespace CommandShell.Machine.SystemShell

/-- How many places the table of aliases has. -/
def aliasPlaces : Nat := 39

/-- The place of a name in the table of aliases, which decides in which order they are listed. -/
def aliasPlace (name : String) : Nat :=
  let bytes := (Text.toBytes name).toList
  let first := (bytes.head?.map UInt8.toNat).getD 0
  bytes.foldl (fun sum byte => sum + byte.toNat) (16 * first) % aliasPlaces

/-- An alias as it is shown. -/
def shownAlias (name value : String) : String := name ++ "=" ++ shownValue value ++ "\n"

/-- The aliases in the order in which they are listed. -/
def listedAliases (aliases : List (String × String)) : List (String × String) :=
  (List.range aliasPlaces).flatMap fun place =>
    aliases.filter fun entry => aliasPlace entry.1 = place

/-- The name and the value that a word gives; the name is not empty. -/
def aliasDefinition? (word : String) : Option (String × String) :=
  match word.toList with
  | first :: rest =>
    let more := rest.takeWhile (· ≠ '=')
    if more.length < rest.length then
      some (String.ofList (first :: more), String.ofList (rest.drop (more.length + 1)))
    else none
  | [] => none

/-- The aliases with one more, or with another value for one. -/
def putAlias (aliases : List (String × String)) (name value : String) : List (String × String) :=
  if aliases.any (·.1 = name) then
    aliases.map fun entry => if entry.1 = name then (name, value) else entry
  else aliases ++ [(name, value)]

/-- Makes aliases, or shows them. -/
def defineAliases : Builtin := fun _ arguments => do
  if arguments.isEmpty then
    let lines := (listedAliases (← get).aliases).map fun (name, value) => shownAlias name value
    putText (String.join lines)
  else
    let mut status := 0
    for word in arguments do
      match aliasDefinition? word with
      | some (name, value) =>
        modify fun state => { state with aliases := putAlias state.aliases name value }
      | none =>
        match (← get).aliases.lookup word with
        | some value =>
          let _ ← putText (shownAlias word value)
        | none =>
          let _ ← doCall (.write standardError
            (Text.toBytes ("alias: " ++ word ++ " not found\n")))
          status := 1
    return status

/-- Forgets aliases. -/
def dropAliases : Builtin := fun _ arguments => do
  let (letters, words) ← takeOptions "a" arguments
  if letters.contains 'a' then
    modify fun state => { state with aliases := [] }
    return 0
  let mut status := 0
  for word in words do
    if ((← get).aliases.lookup word).isSome then
      modify fun state => { state with aliases := state.aliases.filter (·.1 ≠ word) }
    else
      let _ ← doCall (.write standardError (Text.toBytes ("unalias: " ++ word ++ " not found\n")))
      status := 1
  return status

/-! ## The extended dialect -/

/-- An alias as the extended dialect shows it. -/
def shownExtendedAlias (name value : String) : String :=
  name ++ "=" ++ Quoting.singleQuoted value ++ "\n"

/-- A character that no name of an alias has. -/
def isNoAliasChar (c : Char) : Bool := " \t\n/$\u0060=|&;()<>\"'\\".contains c

/-- Makes aliases of the extended dialect, or shows them. -/
def extendedAlias : Builtin := fun _ arguments => do
  let (options, words) ← extendedOptions "alias [-p] [name[=value] ... ]" "p" arguments
  if words.isEmpty || hasOption options 'p' then
    let aliases := (← get).aliases.mergeSort fun a b => a.1 ≤ b.1
    let _ ← putText (String.join (aliases.map fun (name, value) =>
      "alias " ++ shownExtendedAlias name value))
  let mut status := 0
  for word in words do
    match aliasDefinition? word with
    | some (name, value) =>
      if name.toList.any isNoAliasChar then
        warn ("\u0060" ++ name ++ "': invalid alias name")
        status := 1
      else modify fun state => { state with aliases := putAlias state.aliases name value }
    | none =>
      match (← get).aliases.lookup word with
      | some value =>
        let _ ← putText ("alias " ++ shownExtendedAlias word value)
      | none =>
        warn (word ++ ": not found")
        status := 1
  return status

/-- Forgets aliases of the extended dialect. -/
def extendedUnalias : Builtin := fun _ arguments => do
  let usage := "unalias [-a] name [name ...]"
  let (options, words) ← extendedOptions usage "a" arguments
  if hasOption options 'a' then
    modify fun state => { state with aliases := [] }
    return 0
  if words.isEmpty then refuseUse usage
  let mut status := 0
  for word in words do
    if ((← get).aliases.lookup word).isSome then
      modify fun state => { state with aliases := state.aliases.filter (·.1 ≠ word) }
    else
      warn (word ++ ": not found")
      status := 1
  return status

end CommandShell.Machine.SystemShell
