import CommandShell.Machine.SystemShell.Syntax
import CommandShell.Text.Bytes
set_option autoImplicit false

/-!
# Variables

What a variable of the shell holds.  In the extended dialect it may hold several elements, each at a
place of its own: a number or a text.
-/

namespace CommandShell.Machine.SystemShell

/-- How the elements of a variable are named. -/
inductive Shape where
  /-- There is one value and no elements. -/
  | single
  /-- By numbers. -/
  | indexed
  /-- By texts. -/
  | associative
  deriving DecidableEq

/-- A variable. -/
structure Variable where
  /-- The value; for a variable with elements an empty text once it has been given any. -/
  value : Option String
  isExported : Bool := false
  isReadOnly : Bool := false
  shape : Shape := .single
  /-- The elements by their places, in the order in which they are listed. -/
  elements : List (String × String) := []
  /-- Values are the results of expressions. -/
  isInteger : Bool := false
  /-- What becomes of the letters of values. -/
  letters : Option CaseChange := none
  /-- The variable stands for another one, which its value names. -/
  isReference : Bool := false

/-! ## Places -/

/-- How many places a table of names has. -/
def tablePlaces : Nat := 1024

/-- The place of a name in a table, which decides in which order names are listed. -/
def tablePlace (name : String) : Nat :=
  let sum := (Text.toBytes name).toList.foldl
    (fun (sum : Nat) byte => Nat.xor (sum * 16777619 % 4294967296) byte.toNat) 2166136261
  sum % tablePlaces

/-- The first place is listed before the second one, or at the same time. -/
def Shape.isBefore (shape : Shape) (a b : String) : Bool :=
  match shape with
  | .associative => tablePlace a ≤ tablePlace b
  | _ => a.length < b.length || (a.length = b.length && a ≤ b)

namespace Variable

/-- The place that stands for the value as a whole. -/
def mainPlace : String := "0"

/-- The value, or that of the element which stands for all. -/
def text? (v : Variable) : Option String :=
  match v.shape with
  | .single => v.value
  | _ => v.elements.lookup mainPlace

/-- The elements by their places; a single value is one element. -/
def allElements (v : Variable) : List (String × String) :=
  match v.shape with
  | .single => (v.value.map fun value => (mainPlace, value)).toList
  | _ => v.elements

/-- The variable with another element, or another value for one. -/
def putElement (v : Variable) (place value : String) : Variable :=
  let new :=
    if v.elements.any (·.1 = place) then
      v.elements.map fun entry => if entry.1 = place then (place, value) else entry
    else
      let before := v.elements.takeWhile fun entry => !v.shape.isBefore place entry.1
      before ++ (place, value) :: v.elements.drop before.length
  { v with elements := new, value := some "" }

/-- The variable without one element. -/
def dropElement (v : Variable) (place : String) : Variable :=
  { v with elements := v.elements.filter (·.1 ≠ place) }

/-- The variable with elements, in which a single value becomes the first one. -/
def withShape (v : Variable) (shape : Shape) : Variable :=
  if v.shape ≠ .single then v
  else { v with shape, value := v.value.map fun _ => "", elements := v.allElements }

/-- The variable with another value for the whole. -/
def putText (v : Variable) (value : String) : Variable :=
  match v.shape with
  | .single => { v with value := some value }
  | _ => v.putElement mainPlace value

/-- The number after the greatest one of an element. -/
def nextIndex (v : Variable) : Nat :=
  ((v.elements.getLast?.bind fun entry => entry.1.toNat?).map (· + 1)).getD 0

end Variable

/-- A text with its letters changed. -/
def CaseChange.apply (change : CaseChange) (c : Char) : Char :=
  match change with
  | .upper => c.toUpper
  | .lower => c.toLower
  | .toggle => if c.isUpper then c.toLower else c.toUpper

end CommandShell.Machine.SystemShell
