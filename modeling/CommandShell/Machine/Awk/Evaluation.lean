import CommandShell.Machine.Awk.Format
import CommandShell.Machine.Awk.Memory
import CommandShell.Machine.Awk.Token
set_option autoImplicit false

/-!
# Running record programs

Expressions have values, and statements are carried out one after another.  The opening rules come
first, then each record is handed to the rules that select it, and the closing rules come last.
-/

namespace CommandShell.Machine.Awk

open Running

/-- How a statement ends. -/
inductive Flow where
  /-- The next statement follows. -/
  | onward
  | leaveLoop
  | nextRound
  | giveBack (value : Value)

/-- Runs a function with its parameters: its value, and what the parameters are in the end. -/
abbrev Invoke := String → List Slot → Running (Value × Array Slot)

/-- Something that can be given a value. -/
inductive Place where
  | scalar (name : Name)
  | element (table : Nat) (key : Key)
  | field (index : Int)

namespace Place

/-- The value at a place. -/
def value : Place → Running Value
  | .scalar name => Running.scalar name
  | .element table key => Running.element table key
  | .field index => Running.field index

/-- Puts a value at a place. -/
def put (place : Place) (value : Value) : Running Unit :=
  match place with
  | .scalar name => setScalar name value
  | .element table key => setElement table key value
  | .field index => setField index value

end Place

/-! ## Functions that every program knows -/

/-- A part of a text: the number of the first byte, from 1 on, and how many bytes there are. -/
def partOf (text : ByteArray) (start : Float) (length : Option Float) : ByteArray :=
  let whole (n : Float) : Int :=
    match toInt? n with
    | some value => max (min value greatestSigned) (-greatestSigned)
    | none => if n < 0 then -greatestSigned else greatestSigned
  let first := whole start
  let length : Int := match length with
    | some n => whole n
    | none => greatestSigned
  let length := if first < 0 then length - first else length
  let first := max first 1
  if length ≤ 0 then .empty
  else text.extract (first - 1).toNat (min (first - 1 + length).toNat text.size)

/-- Where a text stands in another one, counted from 1; 0 if it does not. -/
def indexOf (text part : ByteArray) : Nat :=
  let found := (List.range (text.size + 1 - part.size)).find? fun i =>
    text.extract i (i + part.size) == part
  match found with
  | some i => i + 1
  | none => 0

/-- What stands in the place of a match: a sign that repeats the match can be made plain by a
backslash. -/
def replacement (matched : List UInt8) : (fuel : Nat) → List UInt8 → List UInt8
  | 0, _ => []
  | _, [] => []
  | fuel + 1, 0x5C :: 0x26 :: rest => 0x26 :: replacement matched fuel rest
  | fuel + 1, 0x5C :: 0x5C :: 0x26 :: rest => 0x5C :: (matched ++ replacement matched fuel rest)
  | fuel + 1, 0x26 :: rest => matched ++ replacement matched fuel rest
  | fuel + 1, b :: rest => b :: replacement matched fuel rest

/-- Replaces the matches of a pattern from a position on, all of them or only the first: the text,
and how many there were.  An empty match does not count right after another match. -/
def replaceFrom (pattern : Regex.Expr) (subject : Array UInt8) (by_ : List UInt8) (all : Bool) :
    (fuel start : Nat) → (afterMatch : Bool) → List UInt8 × Nat
  | 0, start, _ => ((subject.extract start subject.size).toList, 0)
  | fuel + 1, start, afterMatch =>
    match pattern.search ⟨subject, false⟩ start with
    | none => ((subject.extract start subject.size).toList, 0)
    | some found =>
      let isEmpty := found.finish = found.start
      if isEmpty && afterMatch && found.start = start then
        match subject[start]? with
        | none => ([], 0)
        | some b =>
          let (rest, count) := replaceFrom pattern subject by_ all fuel (start + 1) false
          (b :: rest, count)
      else
        let front := (subject.extract start found.start).toList
        let matched := (subject.extract found.start found.finish).toList
        let shown := replacement matched (by_.length + 1) by_
        if !all then (front ++ shown ++ (subject.extract found.finish subject.size).toList, 1)
        else if isEmpty then
          match subject[found.start]? with
          | none => (front ++ shown, 1)
          | some b =>
            let (rest, count) := replaceFrom pattern subject by_ all fuel (found.start + 1) false
            (front ++ shown ++ b :: rest, count + 1)
        else
          let (rest, count) := replaceFrom pattern subject by_ all fuel found.finish true
          (front ++ shown ++ rest, count + 1)

/-- The next random number, and the state after it. -/
def nextRandom (state : UInt64) : Float × UInt64 :=
  let a := state ^^^ (state <<< (13 : UInt64))
  let b := a ^^^ (a >>> (7 : UInt64))
  let c := b ^^^ (b <<< (17 : UInt64))
  (Float.ofNat (c.toNat / 2048) / Float.ofNat (Nat.pow 2 53), c)

/-- Waits for a command that is run by the system's shell. -/
def runCommand (command : ByteArray) : Running Nat := do
  flushAll
  let environment := (← get).environment
  match ← doCall .fork with
  | .error _ => return 127
  | .ok .child =>
    liftM (becomeShell environment command)
    return 0
  | .ok (.parent child) => await child

/-- Applies a function to the values of its arguments. -/
def applyBuiltin (function : Builtin) (arguments : List Value) : Running Value := do
  let first := arguments.head?.getD .unset
  let second := (arguments[1]?).getD .unset
  let ofFloat (f : Float → Float) : Running Value := return .number (f first.toNumber)
  match function with
  | .length =>
    let text ← if arguments.isEmpty then recordText else textOf first
    return .number (Float.ofNat text.size)
  | .substr =>
    return .text (partOf (← textOf first) second.toNumber
      ((arguments[2]?).map Value.toNumber))
  | .index => return .number (Float.ofNat (indexOf (← textOf first) (← textOf second)))
  | .sprintf =>
    let format ← textOf first
    match printValues (← textFormat) format (arguments.drop 1) with
    | (text, none) => return .text text
    | (_, some problem) => fault (problem.message "sprintf" format)
  | .sine => ofFloat Float.sin
  | .cosine => ofFloat Float.cos
  | .arcTangent => return .number (Float.atan2 first.toNumber second.toNumber)
  | .exponential => ofFloat Float.exp
  | .logarithm => ofFloat Float.log
  | .squareRoot => ofFloat Float.sqrt
  | .int => ofFloat truncated
  | .rand =>
    let (n, random) := nextRandom (← get).random
    modify fun memory => { memory with random }
    return .number n
  | .srand =>
    let old := (← get).seed
    let seed : Value := if arguments.isEmpty then .number 0 else first
    let random := 88172645463325252 + (UInt64.ofNat (unsignedOf seed.toNumber).toNat)
    modify fun memory => { memory with seed, random }
    return old
  | .toLower => return .text (Program.pack ((← textOf first).toList.map Program.toLower))
  | .toUpper => return .text (Program.pack ((← textOf first).toList.map Program.toUpper))
  | .system => return .number (Float.ofNat (← runCommand (← textOf first)))
  | .close => return .number (ofInt (← closeName (← textOf first)))
  | .flush =>
    flushAll
    return .number 0
  | .split | .sub | .gsub | .matchText => return .unset

/-! ## Expressions -/

/-- Reads a record to a place; the number tells whether there was one. -/
def storeRecord (place : Place) (record : Option ByteArray) : Running Value := do
  match record with
  | none => return .number 0
  | some text =>
    match place with
    | .field 0 => setRecord text
    | place => place.put (.input text)
    return .number 1

/-- Reads a record from a file or a command to a place; the number tells whether there was one, or
that nothing can be read there. -/
def readNamed (isCommand : Bool) (name : ByteArray) (place : Place) : Running Value := do
  match ← nextFrom isCommand name with
  | none => return .number (-1)
  | some record => storeRecord place record

/-- Puts pieces into a table; the number tells how many there are. -/
def putPieces (name : Name) (pieces : List ByteArray) : Running Value := do
  let number ← tableOf name
  onTable number (fun _ =>
    (.number (Float.ofNat pieces.length), Table.ofList (pieces.map Value.input))) .unset

/-- The pattern that an expression is, or that its value says. -/
def patternOf (expr : Expr) (value : Running Value) : Running Regex.Expr := do
  match expr with
  | .pattern pattern => return pattern
  | _ => compile (← textOf (← value))

/-- Replaces matches of a pattern in the text at a place. -/
def substitute (all : Bool) (pattern : Running Regex.Expr) (by_ : Running Value)
    (place : Running Place) : Running Value := do
  let pattern ← pattern
  let by_ ← textOf (← by_)
  let place ← place
  let text ← textOf (← place.value)
  let (result, count) :=
    replaceFrom pattern text.data by_.toList all (2 * text.size + 2) 0 false
  if count > 0 then place.put (.text (Program.pack result))
  return .number (Float.ofNat count)

mutual

/-- The value of an expression. -/
def eval (invoke : Invoke) : Expr → Running Value
  | .number value => return .number value
  | .text bytes => return .text bytes
  | .pattern pattern => do
    return .ofBool (pattern.search ⟨(← recordText).data, false⟩).isSome
  | .scalar name => scalar name
  | .element table subscripts => do
    let key ← evalKey invoke subscripts
    element (← tableOf table) key
  | .field index => do
    let index ← eval invoke index
    field ((toInt? index.toNumber).getD 0)
  | .group inner => eval invoke inner
  | .assign target operation value => do
    let place ← evalPlace invoke target
    let value ← eval invoke value
    let result : Value ← match operation with
      | none => pure value
      | some operation =>
        pure (.number (operation.apply (← place.value).toNumber value.toNumber))
    place.put result
    return result
  | .step target isUp givesOld => do
    let place ← evalPlace invoke target
    let old := (← place.value).toNumber
    let new := if isUp then old + 1 else old - 1
    place.put (.number new)
    return .number (if givesOld then old else new)
  | .arithmetic operation left right => do
    let left ← eval invoke left
    let right ← eval invoke right
    return .number (operation.apply left.toNumber right.toNumber)
  | .concat left right => do
    let left ← textOf (← eval invoke left)
    let right ← textOf (← eval invoke right)
    return .text (left ++ right)
  | .relation relation left right => do
    let left ← eval invoke left
    let right ← eval invoke right
    return .ofBool (relation.holds (left.compareBy (← textFormat) right))
  | .matching isNegated text pattern => do
    let text ← textOf (← eval invoke text)
    let pattern ← patternOf pattern (eval invoke pattern)
    return .ofBool ((pattern.search ⟨text.data, false⟩).isSome != isNegated)
  | .not inner => do return .ofBool !(← eval invoke inner).isTrue
  | .negate inner => do return .number (-(← eval invoke inner).toNumber)
  | .plus inner => do return .number (← eval invoke inner).toNumber
  | .and left right => do
    let left ← eval invoke left
    if left.isTrue then return .ofBool (← eval invoke right).isTrue
    return .ofBool false
  | .or left right => do
    let left ← eval invoke left
    if left.isTrue then return .ofBool true
    return .ofBool (← eval invoke right).isTrue
  | .conditional condition yes no => do
    let condition ← eval invoke condition
    if condition.isTrue then eval invoke yes else eval invoke no
  | .contains subscripts table => do
    let key ← evalKey invoke subscripts
    let number ← tableOf table
    onTable number (fun table =>
      let (value, table) := table.find? key
      (.ofBool value.isSome, table)) .unset
  | .call function arguments => do
    let slots ← evalSlots invoke arguments
    let (value, after) ← invoke function (slots.map Prod.fst)
    for ((before, name), slot) in slots.zip after.toList do
      match before, name, slot with
      | .untouched, some name, .table number => adopt name number
      | _, _, _ => pure ()
    return value
  | .builtin function arguments => do
    match function, arguments with
    | .length, [.scalar name] =>
      match ← slotOf name with
      | .table number =>
        onTable number (fun table => (.number (Float.ofNat table.size), table)) .unset
      | _ => applyBuiltin .length [← scalar name]
    | .split, [text, .scalar name] =>
      let text ← textOf (← eval invoke text)
      putPieces name (← fieldsOf (← plainText "FS") text)
    | .split, [text, .scalar name, separator] =>
      let text ← textOf (← eval invoke text)
      match separator with
      | .pattern pattern =>
        putPieces name
          (if text.isEmpty then [] else piecesBetween pattern text (text.size + 1) 0 0)
      | separator =>
        let separator ← textOf (← eval invoke separator)
        putPieces name (← fieldsOf separator text)
    | .matchText, [text, pattern] =>
      let text ← textOf (← eval invoke text)
      let pattern ← patternOf pattern (eval invoke pattern)
      let (start, length) : Float × Float := match pattern.search ⟨text.data, false⟩ with
        | some found =>
          (Float.ofNat (found.start + 1), Float.ofNat (found.finish - found.start))
        | none => (0, -1)
      setPlain "RSTART" (.number start)
      setPlain "RLENGTH" (.number length)
      return .number start
    | .sub, [pattern, by_] =>
      substitute false (patternOf pattern (eval invoke pattern)) (eval invoke by_)
        (pure (.field 0))
    | .sub, [pattern, by_, target] =>
      substitute false (patternOf pattern (eval invoke pattern)) (eval invoke by_)
        (evalPlace invoke target)
    | .gsub, [pattern, by_] =>
      substitute true (patternOf pattern (eval invoke pattern)) (eval invoke by_)
        (pure (.field 0))
    | .gsub, [pattern, by_, target] =>
      substitute true (patternOf pattern (eval invoke pattern)) (eval invoke by_)
        (evalPlace invoke target)
    | function, arguments => applyBuiltin function (← evalAll invoke arguments)
  | .readRecord target => do
    let place ← evalPlace invoke target
    storeRecord place (← nextMain unescaped Program.budget)
  | .readFile target file => do
    let place ← evalPlace invoke target
    let file ← textOf (← eval invoke file)
    readNamed false file place
  | .readCommand target command => do
    let command ← textOf (← eval invoke command)
    let place ← evalPlace invoke target
    readNamed true command place

/-- The place that an expression stands for. -/
def evalPlace (invoke : Invoke) : Expr → Running Place
  | .scalar name => return .scalar name
  | .element table subscripts => do
    let key ← evalKey invoke subscripts
    return .element (← tableOf table) key
  | .field index => do
    let index ← eval invoke index
    return .field ((toInt? index.toNumber).getD 0)
  | .group inner => evalPlace invoke inner
  | _ => return .field 0

/-- The values of expressions. -/
def evalAll (invoke : Invoke) : List Expr → Running (List Value)
  | [] => return []
  | expr :: rest => do
    let value ← eval invoke expr
    return value :: (← evalAll invoke rest)

/-- The key that subscripts stand for. -/
def evalKey (invoke : Invoke) (subscripts : List Expr) : Running Key := do
  match ← evalAll invoke subscripts with
  | [value] => keyOf value
  | values =>
    let separator ← plainText "SUBSEP"
    let texts ← values.mapM textOf
    return .text (match texts with
      | [] => .empty
      | first :: others => others.foldl (fun all text => all ++ separator ++ text) first)

/-- What arguments hand to a function; a name alone is handed over as what it is. -/
def evalSlots (invoke : Invoke) : List Expr → Running (List (Slot × Option Name))
  | [] => return []
  | expr :: rest => do
    let slot : Slot × Option Name ← match expr with
      | .scalar name => do pure (← slotOf name, some name)
      | expr => do pure (.scalar (← eval invoke expr), none)
    return slot :: (← evalSlots invoke rest)

end

end CommandShell.Machine.Awk
