import CommandShell.Machine.SystemShell.Braces
import CommandShell.Machine.SystemShell.Expansion.Value
set_option autoImplicit false

/-!
# Expansion

What stands for something else in a word is replaced: parameters, the output of scripts and
arithmetic.  Outside of quotes the result is split into fields, and a field with a pattern in it
stands for file names.
-/

namespace CommandShell.Machine.SystemShell

/-- A piece of an expanded word. -/
inductive Piece where
  /-- A byte; the word may be split where it stands if `splits`. -/
  | glyph (glyph : Glyph) (splits : Bool)
  /-- Quotes stood here: there is a field even if nothing is in it. -/
  | mark
  /-- The next argument begins here. -/
  | boundary

/-- What a word is expanded with. -/
structure Expander where
  /-- The output of a script. -/
  output : Command → Eval ByteArray
  /-- The output of a script that is still to be read. -/
  textOutput : String → Eval ByteArray
  /-- The name of a file through which a script writes or reads. -/
  process : (isInput : Bool) → Command → Eval String

/-- The pieces of bytes. -/
def piecesOf (quoted splits : Bool) (bytes : List UInt8) : List Piece :=
  bytes.map fun byte => .glyph ⟨byte, quoted⟩ splits

/-- The pieces of a text that takes the place of something else. -/
def resultPieces (quoted : Bool) (text : String) : List Piece :=
  (if quoted then [Piece.mark] else []) ++ piecesOf quoted (!quoted) (Text.toBytes text).toList

/-- The bytes of pieces. -/
def pieceBytes (pieces : List Piece) : List UInt8 :=
  pieces.filterMap fun
    | .glyph glyph _ => some glyph.byte
    | .mark => none
    | .boundary => some 0x20

/-- The text of pieces. -/
def pieceText (pieces : List Piece) : String := Text.ofBytes (Program.pack (pieceBytes pieces))

/-! ## Parameters -/

/-- The separators of fields. -/
def separators : Eval (List UInt8) :=
  return (Text.toBytes (((← get).value? "IFS").getD " \t\n")).toList

/-- The text between values that become one word. -/
def joiner : Eval String := do
  return match (← get).value? "IFS" with
    | none => " "
    | some separators => String.ofList (separators.toList.take 1)

/-- The pieces of what a parameter stands for. -/
def piecesOfValues (quoted : Bool) : Values → Eval (List Piece)
  | .one value => return resultPieces quoted (value.getD "")
  | .many values joined => do
    if quoted && joined then return resultPieces true ((← joiner).intercalate values)
    return (values.map (resultPieces quoted)).intersperse [.boundary] |>.flatten

/-- The number in a variable. -/
def variableNumber (name : String) : Eval Int := do
  let text := ((← get).value? name).getD ""
  let trimmed := (text.toList.dropWhile Char.isWhitespace).reverse.dropWhile Char.isWhitespace
  let (negative, digits) : Bool × List Char := match trimmed.reverse with
    | '-' :: digits => (true, digits)
    | '+' :: digits => (false, digits)
    | digits => (false, digits)
  if digits.isEmpty && !negative then return 0
  let (value, rest) := Arithmetic.frontNumber digits
  if digits.isEmpty || !rest.isEmpty || !(digits.head?.any Char.isDigit) then
    fail ("Illegal number: " ++ text)
  return Arithmetic.clamp (if negative then -(value : Int) else value)

/-- The value of an arithmetic expression. -/
def arithmeticValue (text : String) : Eval Int := do
  if ← speaksExtended then return ← calculate text
  let refuse {β : Type} (fault : Arithmetic.Fault) : Eval β := do
    if fault = .overflow then
      let pid ← doCall .self
      let _ ← doCall (.arrange .floatingPoint .standard)
      let _ ← doCall (.kill pid .floatingPoint)
    fail ("arithmetic expression: " ++ fault.message ++ ": \"" ++ text ++ "\"")
  match Arithmetic.read text with
  | .error fault => refuse fault
  | .ok expr =>
    expr.value variableNumber (fun name value => setVariable name (toString value)) refuse

/-! ## Pieces of words -/

/-- What patterns of the script may be made of. -/
def patternRules : Eval PatternRules := do
  let state ← get
  if state.dialect = .plain then return {}
  return {
    hasCarets := true, hasGroups := state.features.contains "extglob"
    ignoresCase := state.features.contains "nocasematch" }

/-- The glyphs of pieces. -/
def glyphsOf (pieces : List Piece) : List Glyph :=
  pieces.filterMap fun
    | .glyph glyph _ => some glyph
    | _ => none

/-- The replacement that pieces stand for, in which `&` is what was there. -/
def replacementOf (pieces : List Piece) : Replacement :=
  (glyphsOf pieces).map fun glyph => if glyph.is '&' then none else some glyph.byte

/-- The pieces of the output of a script. -/
def outputPieces (quoted : Bool) (bytes : ByteArray) : Eval (List Piece) := do
  if bytes.toList.contains 0 && (← speaksExtended) then
    warnOutside "warning: command substitution: ignored null byte in input"
  let kept := bytes.toList.reverse.dropWhile (· = 0x0A) |>.reverse |>.filter (· ≠ 0)
  return (if quoted then [Piece.mark] else []) ++ piecesOf quoted (!quoted) kept

/-- The number of elements or the length of a value. -/
def lengthOf (name : String) (key : Key) : Eval Nat := do
  match ← knownValues name key with
  | .many values _ => return values.length
  | .one value => return (bytesOfText (value.getD "")).length

/-- The name of a variable and its brackets, as the value of another one gives them. -/
def splitReference (text : String) : String × Key :=
  let (name, key?) := Calculation.splitName text
  match key? with
  | none => (text, .none)
  | some "@" => (name, .all)
  | some "*" => (name, .joined)
  | some key => (name, .at key)

/-- The parameter that a value names. -/
def referredTo (name : String) (key : Key) : Eval (String × Key) := do
  match ← valuesOf name key with
  | .one none =>
    warnOutside (name ++ ": invalid indirect expansion")
    throw (.fail 1)
  | values =>
    let text := " ".intercalate values.toList
    let (other, key) := splitReference text
    let isKnown := isName other || (Program.natural? other).isSome
      || (other.length = 1 && other.toList.all isSpecialParameter)
    if !isKnown then
      warnOutside (text ++ ": invalid variable name")
      throw (.fail 1)
    return (other, key)

/-- The names of variables that begin so, in order. -/
def namesWith (front : String) : Eval (List String) := do
  let names := (← get).bindings.filterMap fun (name, v) =>
    if name.startsWith front && (v.value.isSome || v.shape ≠ .single) then some name else none
  return names.mergeSort (· ≤ ·)

/-- Gives a variable, or one of its elements, a value. -/
def assignTo (name : String) (key : Key) (value : String) : Eval Unit := do
  match key with
  | .at text =>
    match ← elementPlace ((← get).variableOf name) text with
    | some place => Calculation.storeElement name place value
    | none => warnOfKey name text
  | _ => setVariable name value

mutual

/-- The pieces of a part.  Text outside of quotes may be split if `splits`. -/
def expandPart (expander : Expander) (splits : Bool) : Part → Eval (List Piece)
  | .text text quoted =>
    return if quoted then .mark :: piecesOf true false (Text.toBytes text).toList
      else piecesOf false splits (Text.toBytes text).toList
  | .parameter name subscript use quoted => do
    let key ← expandSubscript expander subscript
    expandParameter expander name key quoted use
  | .output script quoted => do outputPieces quoted (← expander.output script)
  | .textOutput script quoted => do outputPieces quoted (← expander.textOutput script)
  | .arithmetic expression quoted => do
    let text := pieceText (← expandParts expander false expression)
    return resultPieces quoted (toString (← arithmeticValue text))
  | .process isInput script => do
    return piecesOf true false (Text.toBytes (← expander.process isInput script)).toList
  | .assignment assignment => expandAssignment expander assignment
  | .list _ | .spelling _ => return []

/-- The pieces of an assignment that is a word like others. -/
def expandAssignment (expander : Expander) : Assignment → Eval (List Piece)
  | .assign name subscript appends value => do
    let key ← expandSubscript expander subscript
    let front := namedWith name key ++ (if appends then "+=" else "=")
    let pieces ← expandParts expander false value
    return piecesOf false false (Text.toBytes front).toList ++ pieces

/-- The meaning of brackets after a name. -/
def expandSubscript (expander : Expander) : Subscript → Eval Key
  | .none => return .none
  | .all => return .all
  | .joined => return .joined
  | .at key => do return .at (pieceText (← expandParts expander false key))

/-- The pieces of parts. -/
def expandParts (expander : Expander) (splits : Bool) : List Part → Eval (List Piece)
  | [] => return []
  | part :: parts => do
    let pieces ← expandPart expander splits part
    return pieces ++ (← expandParts expander splits parts)

/-- The pieces of what is made of a parameter. -/
def expandParameter (expander : Expander) (name : String) (key : Key) (quoted : Bool) :
    ParameterUse → Eval (List Piece)
  | .value => do piecesOfValues quoted (← knownValues name key)
  | .length => do return resultPieces quoted (toString (← lengthOf name key))
  | .bad source => do
    if ← speaksExtended then
      warnOutside (source ++ ": bad substitution")
      throw (.fail 1)
    fail "Bad substitution"
  | .trim atEnd longest pattern => do
    let values ← knownValues name key
    let glyphs := glyphsOf (← expandParts expander false pattern)
    let rules ← patternRules
    piecesOfValues quoted
      (values.map (changeBytes fun value => trimPattern atEnd longest glyphs value rules))
  | .replace scope pattern replacement => do
    let values ← knownValues name key
    let glyphs := glyphsOf (← expandParts expander false pattern)
    let new := replacementOf (← expandParts expander false replacement)
    let rules ← patternRules
    piecesOfValues quoted (values.map (changeBytes (replacePattern rules scope glyphs new)))
  | .changeCase change every pattern => do
    let values ← knownValues name key
    let glyphs := glyphsOf (← expandParts expander false pattern)
    let steps := (← patternRules).steps glyphs
    piecesOfValues quoted (values.map (changeBytes (changeLetters change every steps)))
  | .slice offset hasLength length => do
    let values ← knownValues name key
    let offset ← calculate (pieceText (← expandParts expander false offset))
    let lengthText := pieceText (← expandParts expander false length)
    let length ← if hasLength then some <$> calculate lengthText else pure none
    piecesOfValues quoted (← sliceValues name offset length lengthText values)
  | .transform letter => do
    let values ← knownValues name key
    piecesOfValues quoted (← transformValues name letter values)
  | .keys => do
    let places := ((← get).variableOf name).allElements.map Prod.fst
    piecesOfValues quoted (.many places (match key with
      | .joined => true
      | _ => false))
  | .names joined => do piecesOfValues quoted (.many (← namesWith name) joined)
  | .indirect use => do
    match (← get).stored? name, key, use with
    | some { isReference := true, value := some other, .. }, .none, .value =>
      return resultPieces quoted other
    | _, _, _ =>
      let (other, otherKey) ← referredTo name key
      expandParameter expander other otherKey quoted use
  | .substitute rule emptyToo word => do
    let values ← valuesOf name key
    let isThere := match values with
      | .one none | .many [] _ => false
      | .one (some value) => !(emptyToo && value = "")
      | .many values _ => !(emptyToo && " ".intercalate values = "")
    match rule, isThere with
    | .default, true | .assign, true | .complain, true => piecesOfValues quoted values
    | .alternative, false => return resultPieces quoted ""
    | .default, false | .alternative, true => do
      let pieces ← expandParts expander true word
      return if quoted then .mark :: pieces else pieces
    | .assign, false => do
      let value := pieceText (← expandParts expander false word)
      if !isName name then
        if ← speaksExtended then
          warnOutside ("$" ++ name ++ ": cannot assign in this way")
          throw (.fail 1)
        fail (name ++ ": bad variable name")
      assignTo name key value
      return resultPieces quoted value
    | .complain, false => do
      let text := pieceText (← expandParts expander false word)
      let missing := if ← speaksExtended then
          "parameter " ++ (if emptyToo then "null or not set" else "not set")
        else "parameter not set" ++ (if emptyToo then " or null" else "")
      failOfParameter (name ++ ": " ++ (if text ≠ "" then text else missing))

end

/-! ## Fields -/

/-- Fields on the way. -/
structure Fields where
  /-- Finished fields, the latest first. -/
  finished : List (List Glyph) := []
  /-- The field under way, the latest byte first; none if nothing of it is there yet. -/
  current : Option (List Glyph) := none
  /-- Blanks have just ended a field, and one other separator may follow them. -/
  afterBlanks : Bool := false

namespace Fields

/-- Ends the field under way. -/
def close (fields : Fields) : Fields :=
  { fields with finished := fields.current.toList ++ fields.finished, current := none }

/-- Ends the field under way even if nothing of it is there. -/
def closeAnyway (fields : Fields) : Fields :=
  { fields with finished := fields.current.getD [] :: fields.finished, current := none }

/-- The fields after one more piece. -/
def add (separators : List UInt8) (fields : Fields) : Piece → Fields
  | .mark => { fields with current := some (fields.current.getD []), afterBlanks := false }
  | .boundary => { fields.close with afterBlanks := false }
  | .glyph glyph splits =>
    if splits && separators.contains glyph.byte then
      let isBlank := glyph.byte = 0x20 || glyph.byte = 0x09 || glyph.byte = 0x0A
      if isBlank then
        if fields.current.isSome then { fields.close with afterBlanks := true } else fields
      else if fields.afterBlanks then { fields with afterBlanks := false }
      else fields.closeAnyway
    else
      { fields with current := some (glyph :: fields.current.getD []), afterBlanks := false }

end Fields

/-- The fields of an expanded word. -/
def fieldsOf (separators : List UInt8) (pieces : List Piece) : List (List Glyph) :=
  let fields := (pieces.foldl (Fields.add separators) {}).close
  fields.finished.reverse.map List.reverse

/-! ## Words -/

/-- What a tilde with the text after it stands for. -/
def homeOf? (text : String) : Eval (Option String) := do
  let state ← get
  match state.dialect, text with
  | _, "" => return state.value? "HOME"
  | .extended, "+" => return state.value? "PWD"
  | .extended, "-" => return state.value? "OLDPWD"
  | .extended, "root" => return some "/root"
  | .extended, place => return state.stackedDirectory? place
  | _, _ => return none

/-- The home directory takes the place of a tilde. -/
def expandTilde (parts : List Part) : Eval (List Part) := do
  match parts with
  | .text text false :: rest =>
    match text.toList with
    | '~' :: cs =>
      let user := cs.takeWhile (· ≠ '/')
      let cs := cs.drop user.length
      if cs.head? = some '/' || Part.areNothing rest then
        match ← homeOf? (String.ofList user) with
        | some home => return .text home true :: .text (String.ofList cs) false :: rest
        | none => return parts
      else return parts
    | _ => return parts
  | _ => return parts

/-- A text with home directories where tildes follow colons, or stand at the beginning if `atStart`.
If the text goes on, a tilde in its last piece must have a slash behind it. -/
def expandTildes (atStart goesOn : Bool) (text : String) : Eval String := do
  let pieces := text.splitOn ":"
  let expanded ← pieces.zipIdx.mapM fun (piece, i) => do
    match piece.toList with
    | '~' :: cs =>
      let user := cs.takeWhile (· ≠ '/')
      let cs := cs.drop user.length
      if (i = 0 && !atStart) || (goesOn && i + 1 = pieces.length && cs.isEmpty) then return piece
      match ← homeOf? (String.ofList user) with
      | some home => return home ++ String.ofList cs
      | none => return piece
    | _ => return piece
  return ":".intercalate expanded

/-- Tildes in a word that looks like an assignment. -/
def expandArgumentTilde (parts : List Part) : Eval (List Part) := do
  match parts, ← speaksExtended with
  | .text text false :: rest, true =>
    match splitAssignment? text with
    | some (name, value) =>
      let replaced ← expandTildes true (!Part.areNothing rest) value
      return .text (name ++ "=" ++ replaced) false :: rest
    | none => return parts
  | _, _ => return parts

/-- The files that a word of the extended dialect stands for. -/
def extendedFileNames (field : List Glyph) : Eval (List String) := do
  let features := (← get).features
  let rules : NameRules :=
    { pattern :=
        { hasCarets := true, hasGroups := features.contains "extglob"
          ignoresCase := features.contains "nocaseglob" }
      findsHidden := features.contains "dotglob", findsDeep := features.contains "globstar"
      skipsDots := features.contains "globskipdots" }
  if !hasPattern field rules.pattern then return [textOf field]
  let found ← doRoutine (findFileNames rules field)
  if !found.isEmpty then return found
  if features.contains "failglob" then
    warnOutside ("no match: " ++ textOf field)
    throw (.fail 1)
  return if features.contains "nullglob" then [] else [textOf field]

/-- The words that a word without braces stands for. -/
def expandSingle (expander : Expander) (parts : List Part) : Eval (List String) := do
  let pieces ← expandParts expander false (← expandArgumentTilde (← expandTilde parts))
  let fields := fieldsOf (← separators) pieces
  if ← hasFlag 'f' then return fields.map textOf
  let extended ← speaksExtended
  let names ← fields.mapM fun field =>
    if extended then extendedFileNames field else doRoutine (expandFileNames field)
  return names.flatten

/-- The words that a word stands for. -/
def expandWord (expander : Expander) (parts : List Part) : Eval (List String) := do
  let state ← get
  if state.dialect = .extended && state.flags.contains 'B' then
    return (← (Braces.expand parts).mapM (expandSingle expander)).flatten
  expandSingle expander parts

/-- The words that words stand for. -/
def expandWords (expander : Expander) : List (List Part) → Eval (List String)
  | [] => return []
  | parts :: rest => do
    let words ← expandWord expander parts
    return words ++ (← expandWords expander rest)

/-- The text that a word stands for, which is not split. -/
def expandText (expander : Expander) (parts : List Part) : Eval String := do
  return pieceText (← expandParts expander false (← expandTilde parts))

/-- The value of an assignment, in which a tilde may also follow a colon. -/
def expandValue (expander : Expander) (parts : List Part) : Eval String := do
  let replaced ←
    match parts with
    | .text text false :: rest => do
      pure (.text (← expandTildes true (!Part.areNothing rest) text) false :: rest)
    | parts => pure parts
  return pieceText (← expandParts expander false replaced)

/-- The pattern that a word stands for. -/
def expandPattern (expander : Expander) (parts : List Part) : Eval (List Glyph) := do
  return glyphsOf (← expandParts expander false (← expandTilde parts))

end CommandShell.Machine.SystemShell
