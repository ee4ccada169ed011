import CommandShell.Machine.SystemShell.Builtin.Basic
set_option autoImplicit false

/-!
# Builtin commands for variables

How the plain dialect lists, marks and forgets variables.
-/

namespace CommandShell.Machine.SystemShell

/-- Variables in order of their names. -/
def sortedVariables (state : State) : List (String × Variable) :=
  state.bindings.mergeSort fun a b => a.1 ≤ b.1

/-- Lists variables. -/
def listVariables (front : String) (test : Variable → Bool) : Eval Nat := do
  let lines := (sortedVariables (← get)).filterMap fun (name, v) =>
    if !test v then none
    else
      let shown := (v.value.map fun value => "=" ++ shownValue value).getD ""
      some (front ++ name ++ shown ++ "\n")
  putText (String.join lines)

/-- Marks variables, and may give them values. -/
def markVariables (front : String) (test : Variable → Bool) (mark : Variable → Variable) :
    Builtin := fun _ arguments => do
  let (letters, words) ← takeOptions "p" arguments
  if words.isEmpty || letters.contains 'p' then listVariables front test
  else
    for word in words do
      let (name, value?) := match splitAssignment? word with
        | some (name, value) => (name, some value)
        | none => (word, none)
      if !isName name then
        fail (String.ofList (name.toList.takeWhile (· ≠ '=')) ++ ": bad variable name")
      if let some value := value? then setVariable name value
      modify fun state =>
        state.putVariable name (mark ((state.stored? name).getD { value := none }))
    return 0

/-- Exports variables. -/
def exportVariables : Builtin :=
  markVariables "export " Variable.isExported fun v => { v with isExported := true }

/-- Makes variables read-only. -/
def protectVariables : Builtin :=
  markVariables "readonly " Variable.isReadOnly fun v => { v with isReadOnly := true }

/-- Forgets variables or functions. -/
def unsetNames : Builtin := fun _ arguments => do
  let (letters, words) ← takeOptions "fv" arguments
  for word in words do
    if letters.getLast? = some 'f' then
      modify fun state => { state with functions := state.functions.filter (·.1 ≠ word) }
    else
      if !isName word then fail (word ++ ": bad variable name")
      unsetVariable word
  return 0

/-- Makes variables that belong to the function under way. -/
def localVariables : Builtin := fun _ arguments => do
  if (← get).functionDepth = 0 then
    warn "not in a function"
    throw (.leave 2)
  for word in arguments do
    let (name, value?) := match splitAssignment? word with
      | some (name, value) => (name, some value)
      | none => (word, none)
    if !isName name then fail (name ++ ": bad variable name")
    modify fun state => { state with locals := (name, state.stored? name) :: state.locals }
    if let some value := value? then setVariable name value
  return 0

end CommandShell.Machine.SystemShell
