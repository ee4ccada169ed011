import CommandShell.Machine.SystemShell.Quoting
import CommandShell.Machine.SystemShell.Reader.Basic
set_option autoImplicit false

/-!
# Reading words

A word is read part by part, up to the end of what is around it.
-/

namespace CommandShell.Machine.SystemShell

/-! ## Parts -/

/-- Parts with one more in front; texts of one kind are put together. -/
def consPart (part : Part) (parts : List Part) : List Part :=
  match part, parts with
  | .text a quoted, .text b quoted' :: rest =>
    if quoted = quoted' then .text (a ++ b) quoted :: rest else part :: parts
  | _, _ => part :: parts

/-- Parts in order from those in reverse. -/
def joinParts (reversed : List Part) : List Part := reversed.foldl (fun parts part =>
  consPart part parts) []

/-- A character that ends a word that stands by itself. -/
def endsBareWord (c : Char) : Bool := " \t\n;&|<>()".contains c

/-! ## Quotes -/

/-- The text up to a single quote; a backslash takes the meaning from the character after it if
`escapes`, and stays. -/
def readSingleQuoted (escapes : Bool) (line : Nat) : (fuel : Nat) → ReadM (List Char)
  | 0 => refuse "Unterminated quoted string"
  | fuel + 1 => do
    match ← peekRaw with
    | none => refuseUnclosed "Unterminated quoted string" "'" line
    | some '\'' =>
      advance
      return []
    | some c =>
      advance
      if escapes && c = '\\' then
        match ← peekRaw with
        | some next =>
          advance
          return c :: next :: (← readSingleQuoted escapes line fuel)
        | none => refuseUnclosed "Unterminated quoted string" "'" line
      return c :: (← readSingleQuoted escapes line fuel)

/-- The script up to a backquote. -/
def readBackquoted (quoted : Bool) (line : Nat) : (fuel : Nat) → ReadM (List Char)
  | 0 => refuse "EOF in backquote substitution"
  | fuel + 1 => do
    match ← peek with
    | none => refuseUnclosed "EOF in backquote substitution" "\u0060" line
    | some '\u0060' =>
      advance
      return []
    | some '\\' =>
      advance
      match ← peekRaw with
      | none => return ['\\']
      | some c =>
        advance
        let kept := if c = '\\' || c = '\u0060' || c = '$' || (quoted && c = '"') then [c]
          else ['\\', c]
        return kept ++ (← readBackquoted quoted line fuel)
    | some c =>
      advance
      return c :: (← readBackquoted quoted line fuel)

/-! ## Scripts in words -/

/-- The commands after a dollar sign and a parenthesis. -/
def readSubstitution (inner : InnerReaders) : ReadM Command := do
  let outer ← get
  set { outer with
    isPushedBack := false, checksKeywords := false, checksAliases := false
    checksAssignments := false, skipsNewlines := false, pending := [] }
  let commands ← tryCatch (inner.list .optional) fun stop => do
    match stop with
    | .refused line ["syntax error: unexpected end of file"] =>
      throw (.refused line ["unexpected EOF while looking for matching " ++ hooked ")"])
    | stop => throw stop
  let reader ← get
  match reader.dialect, reader.last with
  | _, .closeParen => pure ()
  | .extended, .finish => refuseUnclosed "" ")" (← lineAfterEnd)
  | _, _ => refuseLast (some (Token.name .closeParen))
  modify fun reader => { reader with
    isPushedBack := outer.isPushedBack, last := outer.last, pending := outer.pending
    checksKeywords := outer.checksKeywords, checksAliases := outer.checksAliases
    checksAssignments := outer.checksAssignments, skipsNewlines := outer.skipsNewlines }
  return .ofList commands

/-- What has been read since the rest was so long. -/
def readSince (before : Reader) : ReadM String := do
  let left := (← get).rest.length
  return String.ofList (before.rest.take (before.rest.length - left))

/-- Reads an expression up to two closing parentheses, with its spelling; none if a single one ends
it, and then nothing has been read. -/
def readArithmetic? (inner : InnerReaders) : ReadM (Option (List Part)) := do
  let before ← get
  tryCatch
    (do
      let parts ← inner.parts .arithmetic
      let source ← readSince before
      return some (parts ++ [.spelling (source.dropEnd 2).toString]))
    fun
      | .halfClosed => return none
      | stop => throw stop

/-! ## Parameters -/

/-- The name of a parameter; none if it is not there. -/
def readParameterName (fuel : Nat) : ReadM (Option String) := do
  match ← peek with
  | some c =>
    if isNameStart c then return some (String.ofList (← takeChars isNameChar fuel))
    else if c.isDigit then return some (String.ofList (← takeChars Char.isDigit fuel))
    else if isSpecialParameter c then
      advance
      return some c.toString
    else return none
  | none => return none

/-- The name of a parameter in braces, and whether its length is asked for; none if it is bad. -/
def readBracedName (fuel : Nat) : ReadM (Option (String × Bool)) := do
  let name? (c : Char) : ReadM (Option String) := do
    if isNameStart c then return some (String.ofList (← takeChars isNameChar fuel))
    else if c.isDigit then return some (String.ofList (← takeChars Char.isDigit fuel))
    else return none
  match ← peek with
  | none | some '\x7d' => return none
  | some '#' =>
    advance
    match ← peek with
    | some c =>
      match ← name? c with
      | some name => return some (name, true)
      | none =>
        -- A special parameter after `#` counts if the brace closes at once.
        let before ← get
        advance
        if isSpecialParameter c && (← peek) = some '\x7d' then
          return some (c.toString, true)
        set before
        return some ("#", false)
    | none => return some ("#", false)
  | some c =>
    match ← name? c with
    | some name => return some (name, false)
    | none =>
      if isSpecialParameter c then
        advance
        return some (c.toString, false)
      advance
      return none

/-- The sign before a word that goes with a parameter. -/
def substituteOf? (c : Char) : Option Substitute :=
  match c with
  | '-' => some .default
  | '=' => some .assign
  | '?' => some .complain
  | '+' => some .alternative
  | _ => none

/-- The rest of a parameter in braces, after the opening one. -/
def readBraces (inner : InnerReaders) (quoted : Bool) (fuel : Nat) : ReadM Part := do
  let bad : ReadM Part := do
    let _ ← inner.parts (.braces quoted)
    return .parameter "" .none (.bad "") quoted
  match ← readBracedName fuel with
  | none => bad
  | some (name, true) =>
    if ← accept '\x7d' then return .parameter name .none .length quoted else bad
  | some (name, false) =>
    if ← accept '\x7d' then return .parameter name .none .value quoted
    let emptyToo ← accept ':'
    match ← peek with
    | some c =>
      match substituteOf? c with
      | some rule =>
        advance
        let word ← inner.parts (.braces quoted)
        return .parameter name .none (.substitute rule emptyToo word) quoted
      | none =>
        if !emptyToo && (c = '%' || c = '#') then
          advance
          let longest ← accept c
          let pattern ← inner.parts (.braces false)
          return .parameter name .none (.trim (c = '%') longest pattern) quoted
        else bad
    | none => bad

/-! ## Parameters of the extended dialect -/

/-- Which elements are meant, if brackets follow a name. -/
def readSubscript (inner : InnerReaders) : ReadM Subscript := do
  if (← peek) ≠ some '[' then return .none
  advance
  if ← acceptTwo '@' ']' then return .all
  if ← acceptTwo '*' ']' then return .joined
  return .at (← inner.parts .subscript)

/-- What is made of a parameter, from the sign after it up to the closing brace; none if it is not
known. -/
def readUse (inner : InnerReaders) (quoted : Bool) : ReadM (Option ParameterUse) := do
  let pattern : ReadM (List Part) := inner.parts (.braces false)
  let changeCase (c : Char) (change : CaseChange) : ReadM (Option ParameterUse) := do
    advance
    let every ← accept c
    return some (.changeCase change every (← pattern))
  match ← peek with
  | some '\x7d' =>
    advance
    return some .value
  | some ':' =>
    advance
    match ← peek with
    | some '\x7d' | none => return none
    | some c =>
      match substituteOf? c with
      | some rule =>
        advance
        return some (.substitute rule true (← inner.parts (.braces quoted)))
      | none =>
        let offset ← inner.parts .offset
        if ← accept ':' then
          let length ← inner.parts .offset
          return if ← accept '\x7d' then some (.slice offset true length) else none
        else return if ← accept '\x7d' then some (.slice offset false []) else none
  | some '/' =>
    advance
    let scope : ReplaceScope ←
      if ← accept '/' then pure .every
      else if ← accept '#' then pure .atBeginning
      else if ← accept '%' then pure .atEnd
      else pure .first
    let front : List Part ←
      if scope = .every then do
        pure (if ← accept '/' then [.text "/" false] else [])
      else pure []
    let pattern ← inner.parts .replaced
    let replacement : List Part ←
      if ← accept '/' then inner.parts (.braces false)
      else do
        let _ ← accept '\x7d'
        pure []
    return some (.replace scope (front ++ pattern) replacement)
  | some '^' => changeCase '^' .upper
  | some ',' => changeCase ',' .lower
  | some '~' => changeCase '~' .toggle
  | some '@' =>
    advance
    match ← peek with
    | some letter =>
      advance
      return if "ULuLQEPAKak".contains letter && (← accept '\x7d') then some (.transform letter)
        else none
    | none => return none
  | some c =>
    match substituteOf? c with
    | some rule =>
      advance
      return some (.substitute rule false (← inner.parts (.braces quoted)))
    | none =>
      if c = '%' || c = '#' then
        advance
        let longest ← accept c
        return some (.trim (c = '%') longest (← pattern))
      return none
  | none => return none

/-- A parameter that the value of another one can name. -/
def canBeNamed (c : Char) : Bool := isNameStart c || c.isDigit || "#?@*".contains c

/-- A parameter in braces of the extended dialect, after the opening brace; none if it is bad. -/
def readKnownBraces (inner : InnerReaders) (quoted : Bool) (fuel : Nat) :
    ReadM (Option Part) := do
  let first ← peek
  let second ← peekSecond
  if first = some '!' && second.any canBeNamed then
    advance
    let some name ← readParameterName fuel | return none
    let _ ← peek
    if ← acceptTwo '*' '\x7d' then return some (.parameter name .none (.names true) quoted)
    if ← acceptTwo '@' '\x7d' then return some (.parameter name .none (.names false) quoted)
    let subscript ← if isName name then readSubscript inner else pure .none
    match subscript with
    | .all | .joined =>
      if ← accept '\x7d' then return some (.parameter name subscript .keys quoted)
    | _ => pure ()
    return (← readUse inner quoted).map fun use =>
      .parameter name subscript (.indirect use) quoted
  if first = some '#' && second ≠ some '\x7d' then
    let before ← get
    advance
    if let some name ← readParameterName fuel then
      let subscript ← if isName name then readSubscript inner else pure .none
      if ← accept '\x7d' then return some (.parameter name subscript .length quoted)
      if isName name || name.toList.all Char.isDigit then return none
    set before
  let some name ← readParameterName fuel | return none
  let subscript ← if isName name then readSubscript inner else pure .none
  return (← readUse inner quoted).map fun use => .parameter name subscript use quoted

/-- A parameter in braces of the extended dialect, after the opening brace. -/
def readExtendedBraces (inner : InnerReaders) (quoted : Bool) (fuel : Nat) : ReadM Part := do
  let before ← get
  match ← readKnownBraces inner quoted fuel with
  | some part => return part
  | none =>
    set before
    let _ ← inner.parts (.braces quoted)
    return .parameter "" .none (.bad ("$\x7b" ++ (← readSince before))) quoted

/-- What stands after a dollar sign. -/
def readDollar (inner : InnerReaders) (quoted : Bool) (fuel : Nat) : ReadM Part := do
  match ← peek with
  | some '(' =>
    advance
    let before ← get
    if ← accept '(' then
      match ← readArithmetic? inner with
      | some parts => return .arithmetic parts quoted
      | none => set before
    return .output (← readSubstitution inner) quoted
  | some '\x7b' =>
    advance
    if ← isExtended then readExtendedBraces inner quoted fuel
    else readBraces inner quoted fuel
  | some c =>
    if c = '[' && (← isExtended) then
      advance
      return .arithmetic (← inner.parts .bracketed) quoted
    if isNameStart c then
      return .parameter (String.ofList (← takeChars isNameChar fuel)) .none .value quoted
    else if isSpecialParameter c then
      advance
      return .parameter c.toString .none .value quoted
    else return .text "$" quoted
  | none => return .text "$" quoted

/-! ## Words -/

/-- The backslash before this character is left out in double quotes and their like. -/
def isEscapedInQuotes (around : Surrounding) (c : Char) : Bool :=
  c = '\\' || c = '\u0060' || c = '$' || (c = '"' && around ≠ .document)
    || (c = '\x7d' && around = .braces true)

/-- What parts at the end of the text come to. -/
def finishParts (around : Surrounding) (line : Nat) (reversed : List Part) :
    ReadM (List Part) := do
  let plain : Option String := match around with
    | .bare | .document | .regex => none
    | .doubleQuotes => some "Unterminated quoted string"
    | .braces _ => some "Missing '\x7d'"
    | _ => some "Missing '))'"
  match plain with
  | none => return joinParts reversed
  | some plain => refuseUnclosed plain around.closer line

/-- Parts that belong to the extended dialect alone; none if no such part comes next. -/
def readExtendedPart? (inner : InnerReaders) (around : Surrounding) (fuel : Nat) :
    ReadM (Option (List Part)) := do
  if !(← isExtended) then return none
  let line := (← get).line
  let some first ← peek | return none
  if !"$<>\u0060?*+@!".contains first then return none
  let second ← peekSecond
  match first, second with
  | '$', some '\'' =>
    if around.quotes then return none
    advance
    advance
    let text := String.ofList (← readSingleQuoted true line (fuel + 1))
    return some [.text (Quoting.decodeText text) true]
  | '$', some '"' =>
    if around.quotes then return none
    advance
    advance
    let parts ← inner.parts .doubleQuotes
    return some (if parts.isEmpty then [.text "" true] else parts)
  | '\u0060', _ =>
    advance
    let text ← readBackquoted around.quotes line (fuel + 1)
    return some [.textOutput (String.ofList text) around.quotes]
  | c, some '(' =>
    if c = '<' || c = '>' then
      if around ≠ .bare then return none
      advance
      advance
      return some [.process (c = '<') (← readSubstitution inner)]
    else if c ≠ '$' && (← get).hasGroups && !around.quotes then
      advance
      advance
      let parts ← inner.parts .group
      return some (.text (String.ofList [c, '(']) false :: (parts ++ [.text ")" false]))
    else return none
  | _, _ => return none

/-- Text that depends on what is around it comes to an end here, and the text is left where it is.
-/
def endsBefore (around : Surrounding) (depth : Nat) (c : Char) : Bool :=
  match around with
  | .bare => endsBareWord c
  | .replaced => c = '/' || c = '\x7d'
  | .offset => c = ':' || c = '\x7d'
  | .regex => depth = 0 && " \t\n;&<>)".contains c
  | _ => false

/-- Reads the parts of a word up to the end of what is around them, which begins on a line; `depth`
counts open parentheses or brackets. -/
def readParts (inner : InnerReaders) (around : Surrounding) (line : Nat) :
    (fuel : Nat) → (depth : Nat) → (reversed : List Part) → ReadM (List Part)
  | 0, _, reversed => finishParts around line reversed
  | fuel + 1, depth, reversed => do
    let quoted := around.quotes
    let next := readParts inner around line fuel
    if let some parts ← readExtendedPart? inner around fuel then
      next depth (parts.reverse ++ reversed)
    else
    match ← peek with
    | none => finishParts around line reversed
    | some '\\' =>
      advance
      match ← peekRaw with
      | none => next depth (.text "\\" true :: reversed)
      | some c =>
        advance
        let kept := if quoted && !isEscapedInQuotes around c then String.ofList ['\\', c]
          else c.toString
        next depth (.text kept true :: reversed)
    | some '\'' =>
      let start := (← get).line
      advance
      if quoted then next depth (.text "'" true :: reversed)
      else
        let text := String.ofList (← readSingleQuoted false start (fuel + 1))
        next depth (.text text true :: reversed)
    | some '"' =>
      advance
      match around with
      | .doubleQuotes => return joinParts reversed
      | .document => next depth (.text "\"" true :: reversed)
      | .arithmetic | .bracketed =>
        if ← isExtended then next depth reversed
        else next depth (.text "\"" true :: reversed)
      | .braces true => next depth reversed
      | _ =>
        let parts ← inner.parts .doubleQuotes
        next depth ((if parts.isEmpty then [.text "" true] else parts.reverse) ++ reversed)
    | some '$' =>
      advance
      next depth ((← readDollar inner quoted fuel) :: reversed)
    | some '\u0060' =>
      let start := (← get).line
      advance
      let text ← readBackquoted quoted start (fuel + 1)
      -- The lines of a script in backquotes are counted from its beginning on.
      let commands ← readApart text do
        modify fun reader => { reader with line := 1 }
        inner.list .optional
      next depth (.output (.ofList commands) quoted :: reversed)
    | some c =>
      if endsBefore around depth c then return joinParts reversed
      advance
      let literal := Part.text c.toString quoted
      match around, c with
      | .braces _, '\x7d' => return joinParts reversed
      | .subscript, '[' | .bracketed, '[' | .group, '(' | .regex, '(' | .arithmetic, '(' =>
        next (depth + 1) (literal :: reversed)
      | .subscript, ']' | .bracketed, ']' | .group, ')' =>
        if depth > 0 then next (depth - 1) (literal :: reversed) else return joinParts reversed
      | .regex, ')' => next (depth - 1) (literal :: reversed)
      | .arithmetic, ')' =>
        if depth > 0 then next (depth - 1) (literal :: reversed)
        else if ← accept ')' then return joinParts reversed
        else if ← isExtended then throw .halfClosed
        else next depth (literal :: reversed)
      | _, _ => next depth (literal :: reversed)

end CommandShell.Machine.SystemShell
