import CommandShell.Machine.Program.Condition
import CommandShell.Machine.SystemShell.Builtin.Basic
set_option autoImplicit false

/-!
# The test command of the extended dialect

Besides what other tests ask it knows the variables and options of the shell.
-/

namespace CommandShell.Machine.SystemShell

open Program.Condition (Fault Rules)

/-- A variable, or an element of one, that a word names has a value. -/
def State.hasValue (state : State) (word : String) : Bool :=
  match splitReference word with
  | (name, .none) => (state.value? name).isSome || (state.ownList? name).any (!·.isEmpty)
  | (name, .at key) =>
    let v := state.variableOf name
    let place := match v.shape, signedNumber? key with
      | .associative, _ => key
      | _, some n =>
        let last : Int := ({ v with elements := v.allElements } : Variable).nextIndex
        toString (if n < 0 then last + n else n)
      | _, none => ((state.value? key).bind Program.natural?).elim Variable.mainPlace toString
    (v.allElements.lookup place).isSome
  | (name, _) => !(state.variableOf name).allElements.isEmpty

/-- The answers to what only the shell knows. -/
def State.answer? (state : State) (letter : Char) (word : String) : Option Bool :=
  match letter with
  | 'v' => some (state.hasValue word)
  | 'R' => some ((state.stored? word).any fun v => v.isReference && v.value.isSome)
  | 'o' =>
    some (((optionNames .extended).lookup word).any fun flag => state.flags.contains flag)
  | _ => none

/-- What the conditions of the extended dialect may be made of. -/
def State.conditionRules (state : State) : Rules where
  ordersTexts := true
  synonyms := [('a', 'e')]
  answer? := state.answer?

/-- The wording of a fault in a condition. -/
def conditionFault : Fault → String
  | .missingAfter _ => "argument expected"
  | .notInteger word => word ++ ": integer expression expected"
  | .notUnary word | .twoWords word _ => word ++ ": unary operator expected"
  | .notBinary word => word ++ ": binary operator expected"
  | .unclosed none => "\u0060)' expected"
  | .unclosed (some word) => "\u0060)' expected, found " ++ word
  | .extra _ => "too many arguments"

/-- Answers a question by its exit status. -/
def extendedTest : Builtin := fun _ arguments => do
  let state ← get
  let isBracket := state.builtin = some "["
  if isBracket && arguments.getLast? ≠ some "]" then refuseCommand "missing \u0060]'" 2
  let words := (if isBracket then arguments.dropLast else arguments).toArray
  match ← doRoutine (Program.Condition.answer state.conditionRules words) with
  | .ok answer => return if answer then 0 else 1
  | .error fault => refuseCommand (conditionFault fault) 2

end CommandShell.Machine.SystemShell
