import CommandShell.Machine.SystemShell.Expansion
set_option autoImplicit false

/-!
# Assigning

How the variables of the extended dialect get values: what an attribute makes of a value, what is
added to an old one, and lists of elements.
-/

namespace CommandShell.Machine.SystemShell

/-- The value that a variable gets by an assignment, where it had an old one. -/
def newValue (v : Variable) (old : Option String) (appends : Bool) (value : String) :
    Eval String := do
  if v.isInteger then
    let number ← calculate value
    if !appends then return toString number
    let before ← calculate (old.getD "")
    return toString (before + number)
  return if appends then old.getD "" ++ value else value

/-- The place of an element that is to get a value. -/
def placeForValue (name : String) (v : Variable) (key : String) : Eval String := do
  let refuse {β : Type} : Eval β := do
    warnOfKey name key
    throw (.fail 1)
  if key.toList.all Char.isWhitespace && v.shape ≠ .associative || key = "" then refuse
  match ← elementPlace v key with
  | some place => return place
  | none => refuse

/-- Gives a variable, or one of its elements, a value. -/
def assignValue (name : String) (key : Key) (appends : Bool) (value : String)
    (exported : Bool := false) : Eval Unit := do
  let v := ((← get).resolved? name).getD { value := none }
  match key with
  | .none => setVariable name (← newValue v v.text? appends value) exported
  | .at text =>
    let place ← placeForValue name v text
    Calculation.storeElement name place
      (← newValue v (v.allElements.lookup place) appends value)
  | .all | .joined =>
    warnOutside (namedWith name key ++ ": bad array subscript")
    throw (.fail 1)

/-- A name of a variable, which may have brackets after it. -/
def isElementName (word : String) : Bool :=
  let (name, key?) := Calculation.splitName word
  isName name && match key? with
    | none => name = word
    | some key => key ≠ "" && word.endsWith "]"

/-- Gives a variable, or one of its elements, which a word names, a value. -/
def assignNamed (word value : String) : Eval Unit := do
  let (name, key) := splitReference word
  assignValue name key false value

/-! ## Lists -/

/-- An element of a list that has been expanded. -/
structure GivenElement where
  key : Option String
  appends : Bool := false
  value : String

/-- Expands the elements of a list. -/
def expandElements (expander : Expander) : List Element → Eval (List GivenElement)
  | [] => return []
  | .element subscript appends value :: rest => do
    let given ←
      match ← expandSubscript expander subscript with
      | .none => do pure ((← expandWord expander value).map fun word => ⟨none, false, word⟩)
      | .at key => do pure [⟨some key, appends, ← expandValue expander value⟩]
      | .all => do pure [⟨some "@", appends, ← expandValue expander value⟩]
      | .joined => do pure [⟨some "*", appends, ← expandValue expander value⟩]
    return given ++ (← expandElements expander rest)

/-- A variable with further elements that have numbers; those without a place follow each other from
`next` on. -/
def putNumbered (name : String) (v : Variable) :
    (next : Nat) → List GivenElement → Eval Variable
  | _, [] => return v
  | next, element :: rest => do
    let place ←
      match element.key with
      | none => pure (toString next)
      | some key => placeForValue name v key
    let value ← newValue v (v.elements.lookup place) element.appends element.value
    putNumbered name (v.putElement place value) ((place.toNat?.getD next) + 1) rest

/-- A variable with further elements that have names.  Without any places, names and values take
turns. -/
def putNamed (name : String) (v : Variable) : List GivenElement → Eval Variable
  | [] => return v
  | element :: rest => do
    match element.key with
    | some key =>
      let place ← placeForValue name v key
      let value ← newValue v (v.elements.lookup place) element.appends element.value
      putNamed name (v.putElement place value) rest
    | none =>
      warnOutside (name ++ ": " ++ element.value
        ++ ": must use subscript when assigning associative array")
      putNamed name v rest

/-- Words that take turns as names and values. -/
def pairElements : List GivenElement → List GivenElement
  | name :: value :: rest => ⟨some name.value, false, value.value⟩ :: pairElements rest
  | [name] => [⟨some name.value, false, ""⟩]
  | [] => []

/-- The elements of a list as they are shown. -/
def shownList (given : List GivenElement) : String :=
  let shown := given.map fun element =>
    let value := Quoting.singleQuoted element.value
    match element.key with
    | none => value
    | some key =>
      "[" ++ Quoting.singleQuoted key ++ "]" ++ (if element.appends then "+=" else "=") ++ value
  "(" ++ " ".intercalate shown ++ ")"

/-- Gives a variable the elements of a list, or adds them to those that it has. -/
def assignList (name : String) (appends : Bool) (given : List GivenElement) : Eval Unit := do
  let name := (← get).target name maxReferences
  let old := ((← get).stored? name).getD { value := none }
  if old.isReadOnly then
    warnOutside (name ++ ": readonly variable")
    throw (.fail 1)
  let shaped := old.withShape .indexed
  let start := if appends then shaped else { shaped with elements := [] }
  let given := match old.letters with
    | some change => given.map fun element =>
      { element with value := element.value.map change.apply }
    | none => given
  let new ←
    match start.shape with
    | .associative =>
      putNamed name start
        (if given.head?.any (·.key.isNone) then pairElements given else given)
    | _ => putNumbered name start start.nextIndex given
  modify fun state => state.putVariable name { new with value := some "" }

/-- The elements of a list, if a value is one. -/
def listElements? : List Part → Option (List Element)
  | .list elements :: _ => some elements
  | _ => none

/-- Carries out an assignment, which is shown before. -/
def assign (expander : Expander) (exported : Bool) (display : String → Eval Unit) :
    Assignment → Eval Unit
  | .assign name subscript appends value => do
    match listElements? value with
    | some elements =>
      display (Part.spelled value)
      assignList name appends (← expandElements expander elements)
    | none =>
      let text ← expandValue expander value
      let key ← expandSubscript expander subscript
      display (namedWith name key ++ (if appends then "+=" else "=") ++ Quoting.asNeeded text)
      assignValue name key appends text exported

end CommandShell.Machine.SystemShell
