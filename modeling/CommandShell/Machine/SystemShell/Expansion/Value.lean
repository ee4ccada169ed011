import CommandShell.Machine.SystemShell.Calculation
import CommandShell.Machine.SystemShell.Expansion.Change
set_option autoImplicit false

/-!
# Values of parameters

What a parameter stands for: one value, or several, as the arguments of the script and the elements
of a variable are.
-/

namespace CommandShell.Machine.SystemShell

variable {α : Type}

/-- Which elements of a variable are meant, once the brackets have been expanded. -/
inductive Key where
  | none
  | all
  | joined
  | at (text : String)

/-- What a parameter stands for. -/
inductive Values where
  | one (value : Option String)
  /-- Several values, which are one word in quotes if `joined`. -/
  | many (values : List String) (joined : Bool)

namespace Values

/-- The values that are there. -/
def toList : Values → List String
  | one value => value.toList
  | many values _ => values

/-- The values with something done to each that is there. -/
def map (change : String → String) : Values → Values
  | one value => one (value.map change)
  | many values joined => many (values.map change) joined

end Values

/-! ## Parameters that the shell provides -/

/-- The letters of the options that are on, as `$-` has them. -/
def State.flagLetters (state : State) : String :=
  match state.dialect with
  | .plain =>
    String.ofList (((optionNames .plain).map Prod.snd).reverse.filter fun flag =>
      flag.isAlpha && state.flags.contains flag)
  | .extended => String.ofList ("abefhiknptuvxBCEHPTcs".toList.filter state.flags.contains)

/-- The values of a list that the shell itself keeps. -/
def State.ownList? (state : State) (name : String) : Option (List String) :=
  let frames (text : Frame → String) : List String := state.frames.map text
  match state.dialect, name with
  | .plain, _ => none
  | _, "PIPESTATUS" => some (state.stageStatuses.map toString)
  | _, "FUNCNAME" => if state.functionDepth = 0 then none else some (frames Frame.name)
  | _, "BASH_SOURCE" => some (frames Frame.source)
  | _, "BASH_LINENO" => some (frames fun frame => toString frame.line)
  | _, "DIRSTACK" => some ((state.value? "PWD").toList ++ state.directories)
  | _, "GROUPS" => some []
  | _, _ => none

/-- The value of a parameter that the shell itself keeps. -/
def ownValue? (name : String) : Eval (Option String) := do
  let state ← get
  if state.dialect = .plain then return none
  match name with
  | "RANDOM" => return some (toString (← nextRandom))
  | "LINENO" => return some (toString state.line)
  | "SECONDS" => return some ((state.value? "SECONDS").getD "0")
  | "BASHPID" => return some (toString (← doCall .self))
  | "BASH_SUBSHELL" => return some (toString state.level)
  | "_" => return some state.lastArgument
  | "HISTCMD" => return some "1"
  | "BASH_ARGV0" => return some state.name
  | "BASH_COMMAND" => return some (Printing.commandText {} state.underWay)
  | "SHELLOPTS" =>
    let names := (optionNames .extended).filter fun option => state.flags.contains option.2
    return some (":".intercalate (names.map Prod.fst))
  | "BASHOPTS" => return some (":".intercalate (state.features.mergeSort (· ≤ ·)))
  | name => return (state.ownList? name).bind List.head?

/-- The value of a parameter other than all arguments. -/
def parameterValue? (name : String) : Eval (Option String) := do
  let state ← get
  match name with
  | "#" => return some (toString state.arguments.length)
  | "?" => return some (toString state.status)
  | "$" => return some (toString state.pid)
  | "!" => return state.lastBackground.map toString
  | "-" => return some state.flagLetters
  | "0" => return some state.name
  | name =>
    match Program.natural? name with
    | some n => return state.arguments[n - 1]?
    | none =>
      match ← ownValue? name with
      | some value => return some value
      | none => return state.value? name

/-- A parameter that stands for all arguments. -/
def isAllArguments (name : String) : Bool := name = "@" || name = "*"

/-- The variable of a name; one that is not there has no elements. -/
def State.variableOf (state : State) (name : String) : Variable :=
  match state.ownList? name with
  | some values =>
    { value := none, shape := .indexed
      elements := values.zipIdx.map fun (value, i) => (toString i, value) }
  | none => (state.resolved? name).getD { value := none }

/-- Complains about brackets after a name. -/
def warnOfKey (name key : String) : Eval Unit :=
  warnOutside (name ++ "[" ++ key ++ "]: bad array subscript")

/-- What a parameter stands for. -/
def valuesOf (name : String) (key : Key) : Eval Values := do
  let state ← get
  if isAllArguments name then return .many state.arguments (name = "*")
  match key with
  | .none => return .one (← parameterValue? name)
  | .all => return .many ((state.variableOf name).allElements.map Prod.snd) false
  | .joined => return .many ((state.variableOf name).allElements.map Prod.snd) true
  | .at text =>
    let v := state.variableOf name
    match ← elementPlace v text with
    | some place => return .one (v.allElements.lookup place)
    | none =>
      warnOutside (name ++ ": bad array subscript")
      return .one none

/-- A parameter as it is named in a complaint. -/
def namedWith (name : String) : Key → String
  | .none => name
  | .all => name ++ "[@]"
  | .joined => name ++ "[*]"
  | .at text => name ++ "[" ++ text ++ "]"

/-- Gives up because of a parameter without value.  How far that goes depends on the dialect. -/
def failOfParameter (text : String) : Eval α := do
  if ← speaksExtended then
    warnOutside text
    throw (.leave (← get).abortStatus)
  fail text

/-- What a parameter stands for, which must be there if the options say so. -/
def knownValues (name : String) (key : Key) : Eval Values := do
  let values ← valuesOf name key
  if let .one none := values then
    if ← hasFlag 'u' then
      if ← speaksExtended then failOfParameter (namedWith name key ++ ": unbound variable")
      fail (name ++ ": parameter not set")
  return values

/-! ## Forms -/

/-- The statement that gives a variable its value and attributes. -/
def declarationOf (name : String) (v : Variable) (value : Option String) : String :=
  let letters := attributeLetters v
  let front := if letters = "" then "" else "declare -" ++ letters ++ " "
  match value with
  | some value => front ++ name ++ "=" ++ Quoting.asQuoted value
  | none => if letters = "" then "" else front ++ name

/-- A value in another form. -/
def transformText (letter : Char) (text : String) : String :=
  match letter with
  | 'U' => text.toUpper
  | 'L' => text.toLower
  | 'u' =>
    match text.toList with
    | c :: cs => String.ofList (c.toUpper :: cs)
    | [] => text
  | 'Q' | 'K' | 'k' => Quoting.asQuoted text
  | 'E' => Quoting.decodeText text
  | _ => text

/-- What a parameter stands for, in another form. -/
def transformValues (name : String) (letter : Char) (values : Values) : Eval Values := do
  let v := (← get).variableOf name
  match letter, values with
  | 'a', .one _ =>
    return .one (if (v.text?.isSome || v.shape ≠ .single) then some (attributeLetters v) else none)
  | 'a', .many all joined => return .many (all.map fun _ => attributeLetters v) joined
  | 'A', .one value =>
    let text := declarationOf name v value
    return .one (if text = "" then none else some text)
  | 'A', .many all _ =>
    if isAllArguments name then
      return .one (some ("set -- " ++ " ".intercalate (all.map Quoting.asQuoted)))
    else if v.shape = .single then return .one (some (declarationOf name v v.value))
    else
      return .one (some ("declare -" ++ attributeLetters v ++ " " ++ name ++ "="
        ++ shownElements v))
  | 'K', .many all joined =>
    if isAllArguments name then return .many (all.map Quoting.asQuoted) joined
    let pairs := v.allElements.map fun (place, value) =>
      shownPlace v.shape place ++ " " ++ Quoting.asValue value
    let text := " ".intercalate pairs
    return .one (some (if v.shape = .associative && text ≠ "" then text ++ " " else text))
  | 'k', .many all joined =>
    if isAllArguments name then return .many (all.map Quoting.asQuoted) joined
    return .many (v.allElements.flatMap fun (place, value) => [place, value]) joined
  | letter, values => return values.map (transformText letter)

/-! ## Pieces of values -/

/-- The bytes of a text. -/
def bytesOfText (text : String) : List UInt8 := (Text.toBytes text).toList

/-- The text of bytes. -/
def textOfBytes (bytes : List UInt8) : String := Text.ofBytes (Program.pack bytes)

/-- A text with something done to its bytes. -/
def changeBytes (change : List UInt8 → List UInt8) (text : String) : String :=
  textOfBytes (change (bytesOfText text))

/-- The piece of what a parameter stands for from an offset on; the text of the length is for
complaints. -/
def sliceValues (name : String) (offset : Int) (length : Option Int) (lengthText : String)
    (values : Values) : Eval Values := do
  let refuse : Eval Values := do
    warnOutside (lengthText ++ ": substring expression < 0")
    throw (.fail 1)
  let take {β : Type} (items : List β) (start : Nat) : Option (List β) :=
    (pieceLength? items.length start length).map fun count => (items.drop start).take count
  match values with
  | .one none => return .one none
  | .one (some text) =>
    let bytes := bytesOfText text
    match pieceStart? bytes.length offset with
    | none => return .one (some "")
    | some start =>
      match take bytes start with
      | some piece => return .one (some (textOfBytes piece))
      | none => refuse
  | .many all joined =>
    if length.any (· < 0) then refuse
    else
      let count := (length.map Int.toNat).getD (Nat.pow 2 32)
      let chosen ←
        if isAllArguments name then do
          let items := (← get).name :: all
          pure (((pieceStart? items.length offset).map (items.drop ·)).getD [])
        else do
          let v := (← get).variableOf name
          match v.shape with
          | .associative => pure (((pieceStart? all.length offset).map (all.drop ·)).getD [])
          | _ =>
            let size := ({ v with elements := v.allElements } : Variable).nextIndex
            match pieceStart? size offset with
            | none => pure []
            | some start =>
              pure ((v.allElements.filter fun entry => (entry.1.toNat?.getD 0) ≥ start).map
                Prod.snd)
      return .many (chosen.take count) joined

end CommandShell.Machine.SystemShell
