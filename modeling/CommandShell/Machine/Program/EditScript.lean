import CommandShell.Machine.Program.Basic
import CommandShell.Machine.Regex
set_option autoImplicit false

/-!
# Editing scripts

A script is a list of commands, each for the lines that its addresses select.  Reading one keeps
count of the bytes read, because a complaint says where it is about.
-/

namespace CommandShell.Machine.Program

open Regex (Expr)

variable {α : Type}

/-- A pattern of a script; none is the one that was used last. -/
abbrev EditPattern := Option Expr

/-- Which line is meant. -/
inductive EditAddress where
  | line (number : Nat)
  /-- From the first line on, one line in so many. -/
  | every (first step : Nat)
  | last
  | pattern (pattern : EditPattern)

/-- Where a range of lines ends. -/
inductive EditEnd where
  | at (address : EditAddress)
  | after (count : Nat)
  /-- The line whose number is a multiple. -/
  | multiple (divisor : Nat)

/-- The lines that a command is for. -/
structure EditRange where
  first : Option EditAddress := none
  finish : Option EditEnd := none
  /-- The other lines are meant. -/
  negated : Bool := false

/-- What happens to the case of letters in a replacement. -/
inductive CaseChange where
  | upper
  | lower
  /-- The next character alone. -/
  | upperNext
  | lowerNext
  /-- Letters are left alone from here on. -/
  | keep
  deriving DecidableEq

/-- A part of what replaces a match. -/
inductive Replacement where
  | byte (byte : UInt8)
  /-- What a group stands for; the whole match is group 0. -/
  | group (number : Nat)
  | change (change : CaseChange)

/-- What is to be replaced, and by what. -/
structure Substitution where
  pattern : EditPattern
  replacement : List Replacement
  everywhere : Bool := false
  /-- The first match of a line that is replaced. -/
  number : Nat := 1
  prints : Bool := false
  /-- The file that changed lines are also written to. -/
  file : Option String := none

/-- What is put out when a cycle ends. -/
inductive Appendix where
  | text (bytes : List UInt8)
  | file (path : String)
  /-- The next line of a file. -/
  | lineOf (path : String)

/-- What a command does. -/
inductive EditAction where
  /-- The commands up to the closing brace are for the selected lines. -/
  | block
  | nothing
  | append (appendix : Appendix)
  | insert (text : List UInt8)
  | change (text : List UInt8)
  | delete
  | deleteFirst
  | print
  | printFirst
  | next
  | joinNext
  | hold
  | holdMore
  | recall
  | recallMore
  | swap
  | clear
  | lineNumber
  | fileName
  | list (width : Option Nat)
  | quit (code : Nat) (silently : Bool)
  | write (path : String) (firstLineOnly : Bool)
  | substitute (substitution : Substitution)
  | exchange (table : List (UInt8 × UInt8))
  | jump (label : String)
  /-- Jumps if a replacement was made, or if none was. -/
  | jumpIf (replaced : Bool) (label : String)

/-- A command. -/
structure EditCommand where
  range : EditRange
  action : EditAction

/-- A script. -/
structure EditScript where
  commands : Array EditCommand := #[]
  /-- The labels, each with the place of the command after it. -/
  labels : List (String × Nat) := []
  /-- The blocks: the place of each with the place after it. -/
  blocks : List (Nat × Nat) := []
  /-- The blocks that are not closed, the innermost one first, with the part they are in. -/
  openBlocks : List (Nat × Nat) := []
  /-- The script asks that lines are not put out at the end of a cycle. -/
  isSilent : Bool := false

/-! ## Reading -/

/-- Why a script is refused: after how many bytes and lines of it. -/
structure EditFault where
  text : String
  count : Nat
  line : Nat

/-- What is left of a script, and how much of it has been read. -/
structure EditText where
  rest : List UInt8
  count : Nat := 0
  line : Nat := 1

/-- Reading a script. -/
abbrev EditReader := StateT EditText (Except EditFault)

namespace EditReader

/-- Refuses the script. -/
def refuse (text : String) : EditReader α := fun s => .error ⟨text, s.count, s.line⟩

/-- The next byte. -/
def next : EditReader (Option UInt8) := fun s =>
  match s.rest with
  | [] => .ok (none, s)
  | byte :: rest =>
    .ok (some byte, ⟨rest, s.count + 1, if byte = lineFeed then s.line + 1 else s.line⟩)

/-- Gives a byte back. -/
def putBack : Option UInt8 → EditReader Unit
  | none => return ()
  | some byte => fun s =>
    .ok ((), ⟨byte :: s.rest, s.count - 1, if byte = lineFeed then s.line - 1 else s.line⟩)

/-- Passes over the bytes for which a test holds, and gives them. -/
def takeWhile (test : UInt8 → Bool) : EditReader (List UInt8) := fun s =>
  let taken := s.rest.takeWhile test
  .ok (taken, ⟨s.rest.drop taken.length, s.count + taken.length,
    s.line + taken.count lineFeed⟩)

/-- The next byte that is no blank. -/
def nextNonblank : EditReader (Option UInt8) := do
  let _ ← takeWhile isBlank
  next

/-- A number that begins with a digit. -/
def numberFrom (digit : UInt8) : EditReader Nat := do
  let digits := digit :: (← takeWhile isDigit)
  return digits.foldl (fun n byte => 10 * n + (byte.toNat - 0x30)) (0 : Nat)

/-- A number, or zero if there is none. -/
def number : EditReader Nat := do
  match ← nextNonblank with
  | some byte => if isDigit byte then numberFrom byte else do putBack (some byte); return 0
  | none => return 0

/-- The end of a command. -/
def endCommand : EditReader Unit := do
  match ← nextNonblank with
  | none => return
  | some byte =>
    if byte = 0x7D || byte = 0x23 then putBack (some byte)
    else if byte ≠ lineFeed && byte ≠ 0x3B then refuse "extra characters after command"

/-- The name of a place in the script. -/
def label : EditReader String := do
  let _ ← takeWhile isBlank
  let bytes ← takeWhile fun byte => !isSpace byte && byte ≠ 0x3B && byte ≠ 0x7D
  return Text.ofBytes (pack bytes)

/-- The name of a file: the rest of the line. -/
def fileName : EditReader String := do
  let _ ← takeWhile isBlank
  let bytes ← takeWhile (· ≠ lineFeed)
  let _ ← next
  if bytes.isEmpty then refuse "missing filename in r/R/w/W commands"
  return Text.ofBytes (pack bytes)

/-! ### Escapes -/

/-- The value of digits, at most so many, with the bytes after them. -/
def digits (base most : Nat) (bytes : List UInt8) : Option (UInt8 × List UInt8) :=
  let value? (byte : UInt8) : Option Nat :=
    let n := byte.toNat
    let digit := if isDigit byte then some (n - 0x30)
      else if 0x61 ≤ n && n ≤ 0x66 then some (n - 0x57)
      else if 0x41 ≤ n && n ≤ 0x46 then some (n - 0x37)
      else none
    digit.filter (· < base)
  let values := ((bytes.take most).map value?).takeWhile Option.isSome |>.filterMap id
  if values.isEmpty then none
  else
    let value := values.foldl (fun n digit => base * n + digit) (0 : Nat)
    some (UInt8.ofNat value, bytes.drop values.length)

/-- The byte that the text after a backslash stands for. -/
def escape? : List UInt8 → Option (UInt8 × List UInt8)
  | [] => none
  | byte :: rest =>
    match asciiChar byte with
    | 'a' => some (0x07, rest)
    | 'f' => some (0x0C, rest)
    | 'n' => some (0x0A, rest)
    | 'r' => some (0x0D, rest)
    | 't' => some (0x09, rest)
    | 'v' => some (0x0B, rest)
    | 'c' => rest.head?.map fun c => (Program.toUpper c ^^^ 0x40, rest.drop 1)
    | 'd' => digits 10 3 rest
    | 'o' => digits 8 3 rest
    | 'x' => digits 16 2 rest
    | _ => none

/-- The bytes that have a meaning in a pattern or a replacement. -/
def special : List UInt8 := "*.[]\\^$+?()\x7b\x7d|&/\n".toUTF8.toList

/-- Replaces escapes that stand for one byte.  A byte that would have a meaning of its own stays
behind a backslash. -/
def unescape (guarding : Bool) : (fuel : Nat) → List UInt8 → List UInt8
  | 0, bytes => bytes
  | _, [] => []
  | fuel + 1, 0x5C :: rest =>
    match escape? rest with
    | some (byte, after) =>
      (if guarding && byte ≠ lineFeed && special.contains byte then [0x5C, byte] else [byte])
        ++ unescape guarding fuel after
    | none =>
      match rest with
      | [] => [0x5C]
      | byte :: rest => 0x5C :: byte :: unescape guarding fuel rest
  | fuel + 1, byte :: rest => byte :: unescape guarding fuel rest

/-! ### Texts between delimiters -/

/-- Where in a bracket expression a reading is. -/
inductive BracketState where
  | outside
  /-- Right after the opening bracket, or after a circumflex there. -/
  | first (maySee : Bool)
  | inside
  /-- In the name of a class, whose mark is this byte. -/
  | named (mark : UInt8)

/-- Reads up to a delimiter.  In a pattern a delimiter in brackets is a member of the list. -/
def between (delimiter : UInt8) (isPattern : Bool) :
    (fuel : Nat) → BracketState → List UInt8 → EditReader (Option (List UInt8))
  | 0, _, _ => return none
  | fuel + 1, state, sofar => do
    let go := between delimiter isPattern fuel
    match ← next with
    | none => return none
    | some byte =>
      match state with
      | .outside =>
        if byte = delimiter then return some sofar.reverse
        else if byte = lineFeed && isPattern then return none
        else if byte = 0x5C then
          match ← next with
          | none => return none
          | some escaped =>
            if escaped = delimiter && (isPattern || escaped ≠ 0x26) then
              if isPattern && special.contains escaped then
                go .outside (escaped :: 0x5B :: sofar |> fun text => 0x5D :: text)
              else go .outside (escaped :: sofar)
            else if escaped = lineFeed then
              go .outside (if isPattern then lineFeed :: sofar else lineFeed :: 0x5C :: sofar)
            else go .outside (escaped :: 0x5C :: sofar)
        else if byte = 0x5B && isPattern then go (.first true) (byte :: sofar)
        else go .outside (byte :: sofar)
      | .first maySee =>
        if byte = lineFeed then return none
        else if byte = 0x5E && maySee then go (.first false) (byte :: sofar)
        else if byte = 0x5B then
          match ← next with
          | some mark =>
            if mark = 0x3A || mark = 0x2E || mark = 0x3D then
              go (.named mark) (mark :: byte :: sofar)
            else do
              putBack (some mark)
              go .inside (byte :: sofar)
          | none => return none
        else go .inside (byte :: sofar)
      | .inside =>
        if byte = lineFeed then return none
        else if byte = 0x5D then go .outside (byte :: sofar)
        else if byte = 0x5B then
          match ← next with
          | some mark =>
            if mark = 0x3A || mark = 0x2E || mark = 0x3D then
              go (.named mark) (mark :: byte :: sofar)
            else do
              putBack (some mark)
              go .inside (byte :: sofar)
          | none => return none
        else go .inside (byte :: sofar)
      | .named mark =>
        if byte = mark then
          match ← next with
          | some 0x5D => go .inside (0x5D :: byte :: sofar)
          | other => do
            putBack other
            go (.named mark) (byte :: sofar)
        else go (.named mark) (byte :: sofar)

/-- Reads up to a delimiter; without one the script is refused. -/
def delimited (delimiter : UInt8) (isPattern : Bool) (complaint : String) :
    EditReader (List UInt8) := do
  match ← between delimiter isPattern ((← get).rest.length + 1) .outside [] with
  | some bytes => return bytes
  | none => refuse complaint

/-- The byte that delimits what follows. -/
def delimiter (complaint : String) : EditReader UInt8 := do
  match ← next with
  | some byte => if byte = lineFeed || byte = 0x5C then refuse complaint else return byte
  | none => refuse complaint

/-- Understands a pattern. -/
def pattern (extended ignoreCase : Bool) (bytes : List UInt8) : EditReader EditPattern := do
  let bytes := unescape true bytes.length bytes
  if bytes.isEmpty then
    if ignoreCase then refuse "cannot specify modifiers on empty regexp"
    return none
  match Regex.read extended bytes with
  | .ok expr => return some (if ignoreCase then expr.ignoreCase else expr)
  | .error fault => refuse fault.message

/-! ### Addresses -/

/-- The letters after a pattern: the case of letters does not matter. -/
def patternFlags : (fuel : Nat) → Bool → EditReader Bool
  | 0, ignoreCase => return ignoreCase
  | fuel + 1, ignoreCase => do
    match ← nextNonblank with
    | some 0x49 => patternFlags fuel true
    | some 0x4D => patternFlags fuel ignoreCase
    | other => do
      putBack other
      return ignoreCase

/-- The pattern of an address, after what delimits it. -/
def addressPattern (extended : Bool) (mark : UInt8) : EditReader EditAddress := do
  let bytes ← delimited mark true "unterminated address regex"
  let ignoreCase ← patternFlags ((← get).rest.length + 1) false
  return .pattern (← pattern extended ignoreCase bytes)

/-- The address that begins with a byte; none if none does. -/
def address? (extended : Bool) : Option UInt8 → EditReader (Option EditAddress)
  | none => return none
  | some byte => do
    if byte = 0x2F then return some (← addressPattern extended byte)
    else if byte = 0x5C then
      let mark ← delimiter "unterminated address regex"
      return some (← addressPattern extended mark)
    else if byte = 0x24 then return some .last
    else if isDigit byte then
      let first ← numberFrom byte
      match ← nextNonblank with
      | some 0x7E =>
        let step ← number
        return some (if step = 0 then .line first else .every first step)
      | other =>
        putBack other
        return some (.line first)
    else return none

/-- The end of a range that begins with a byte. -/
def end? (extended : Bool) (byte : Option UInt8) : EditReader (Option EditEnd) := do
  match byte with
  | some 0x2B => return some (.after (← number))
  | some 0x7E => return some (.multiple (← number))
  | byte => return (← address? extended byte).map .at

/-- An address that no line has. -/
def isLineZero : EditAddress → Bool
  | .line 0 => true
  | _ => false

/-- A range may begin before the first line if a pattern ends it. -/
def endsByPattern : Option EditEnd → Bool
  | some (.at (.pattern _)) => true
  | _ => false

/-- The range of a command, and the byte after it. -/
def range (extended : Bool) (byte : Option UInt8) : EditReader (EditRange × Option UInt8) := do
  if byte = some 0x2B || byte = some 0x7E then
    let _ ← number
    refuse "invalid usage of +N or ~N as first address"
  let first ← address? extended byte
  let byte ← if first.isSome then nextNonblank else pure byte
  let (finish, byte) ←
    if first.isSome && byte = some 0x2C then do
      let byte ← nextNonblank
      match ← end? extended byte with
      | some finish => pure (some finish, ← nextNonblank)
      | none => refuse "unexpected \u0060,'"
    else pure (none, byte)
  if first.any isLineZero && !endsByPattern finish then
    refuse "invalid usage of line address 0"
  if byte = some 0x21 then
    let byte ← nextNonblank
    if byte = some 0x21 then refuse "multiple \u0060!'s"
    return (⟨first, finish, true⟩, byte)
  return (⟨first, finish, false⟩, byte)

/-! ### Commands -/

/-- Reads lines of text, in which a line feed after a backslash does not end the text. -/
def textLines : (fuel : Nat) → List UInt8 → EditReader (List UInt8)
  | 0, sofar => return sofar.reverse
  | fuel + 1, sofar => do
    match ← next with
    | none => return (lineFeed :: sofar).reverse
    | some byte =>
      if byte = lineFeed then return (byte :: sofar).reverse
      else if byte = 0x5C then
        match ← next with
        | none => return (lineFeed :: sofar).reverse
        | some escaped =>
          match escape? [escaped] with
          | some (meant, _) => textLines fuel (meant :: sofar)
          | none => textLines fuel (escaped :: sofar)
      else textLines fuel (byte :: sofar)

/-- The text of a command that puts text out. -/
def text : EditReader (List UInt8) := do
  match ← nextNonblank with
  | none => refuse "expected \\ after \u0060a', \u0060c' or \u0060i'"
  | some 0x5C =>
    match ← next with
    | none => return []
    | some byte =>
      if byte ≠ lineFeed then putBack (some byte)
      if (← get).rest.isEmpty then return []
      textLines ((← get).rest.length + 1) []
  | some byte =>
    putBack (some byte)
    textLines ((← get).rest.length + 1) []

/-- Understands what replaces a match. -/
def replacement : List UInt8 → List Replacement
  | [] => []
  | 0x5C :: byte :: rest =>
    let part : Replacement :=
      match asciiChar byte with
      | 'U' => .change .upper
      | 'L' => .change .lower
      | 'E' => .change .keep
      | 'u' => .change .upperNext
      | 'l' => .change .lowerNext
      | _ => if isDigit byte then .group (byte.toNat - 0x30) else .byte byte
    part :: replacement rest
  | 0x26 :: rest => .group 0 :: replacement rest
  | byte :: rest => .byte byte :: replacement rest

/-- The last group that a replacement refers to. -/
def lastGroup (parts : List Replacement) : Nat :=
  parts.foldl (fun most part =>
    match part with
    | .group n => max most n
    | _ => most) 0

/-- What has been read after a replacement. -/
structure SubstitutionFlags where
  everywhere : Bool := false
  number : Option Nat := none
  prints : Bool := false
  ignoreCase : Bool := false
  file : Option String := none

/-- The letters after a replacement. -/
def substitutionFlags : (fuel : Nat) → SubstitutionFlags → EditReader SubstitutionFlags
  | 0, flags => return flags
  | fuel + 1, flags => do
    match ← nextNonblank with
    | none => return flags
    | some byte =>
      let letter := asciiChar byte
      if letter = 'i' || letter = 'I' then substitutionFlags fuel { flags with ignoreCase := true }
      else if letter = 'm' || letter = 'M' then substitutionFlags fuel flags
      else if letter = 'p' then
        if flags.prints then refuse "multiple \u0060p' options to \u0060s' command"
        substitutionFlags fuel { flags with prints := true }
      else if letter = 'g' then
        if flags.everywhere then refuse "multiple \u0060g' options to \u0060s' command"
        substitutionFlags fuel { flags with everywhere := true }
      else if isDigit byte then
        if flags.number.isSome then refuse "multiple number options to \u0060s' command"
        let n ← numberFrom byte
        if n = 0 then refuse "number option to \u0060s' command may not be zero"
        substitutionFlags fuel { flags with number := some n }
      else if letter = 'w' then return { flags with file := some (← fileName) }
      else if letter = '\x7d' || letter = '#' then
        putBack (some byte)
        return flags
      else if byte = lineFeed || letter = ';' then return flags
      else refuse "unknown option to \u0060s'"

/-- A substitution, after its letter. -/
def substitution (extended : Bool) : EditReader Substitution := do
  let complaint := "unterminated \u0060s' command"
  let mark ← delimiter complaint
  let bytes ← delimited mark true complaint
  let parts := replacement ((← delimited mark false complaint) |> fun bytes =>
    unescape true bytes.length bytes)
  let flags ← substitutionFlags ((← get).rest.length + 1) {}
  let pattern ← pattern extended flags.ignoreCase bytes
  if let some expr := pattern then
    let last := lastGroup parts
    if last > expr.groupCount then
      refuse ("invalid reference \\" ++ toString last ++ " on \u0060s' command's RHS")
  return {
    pattern, replacement := parts, everywhere := flags.everywhere
    number := flags.number.getD 1, prints := flags.prints, file := flags.file }

/-- The bytes of one side of an exchange of bytes. -/
def exchangeSide : List UInt8 → List UInt8
  | [] => []
  | 0x5C :: 0x5C :: rest => 0x5C :: exchangeSide rest
  | 0x5C :: 0x6E :: rest => lineFeed :: exchangeSide rest
  | byte :: rest => byte :: exchangeSide rest

/-- An exchange of bytes, after its letter. -/
def exchange : EditReader (List (UInt8 × UInt8)) := do
  let complaint := "unterminated \u0060y' command"
  let mark ← delimiter complaint
  let source := exchangeSide (← delimited mark false complaint)
  let target := exchangeSide (← delimited mark false complaint)
  if source.length ≠ target.length then
    refuse "strings for \u0060y' command are different lengths"
  endCommand
  return source.zip target

/-- An action that nothing but the end of the command follows. -/
def plain (action : EditAction) : EditReader EditAction := do
  endCommand
  return action

/-- A number after a command, and the end of it. -/
def argument? : EditReader (Option Nat) := do
  match ← nextNonblank with
  | some byte =>
    if isDigit byte then
      let n ← numberFrom byte
      endCommand
      return some n
    else
      putBack (some byte)
      endCommand
      return none
  | none => return none

/-- The action of a letter, except those that concern the script as a whole. -/
def action (extended : Bool) (range : EditRange) (letter : Char) : EditReader EditAction := do
  match letter with
  | 'a' => return .append (.text (← text))
  | 'i' => return .insert (← text)
  | 'c' => return .change (← text)
  | 'd' => plain .delete
  | 'D' => plain .deleteFirst
  | 'p' => plain .print
  | 'P' => plain .printFirst
  | 'n' => plain .next
  | 'N' => plain .joinNext
  | 'h' => plain .hold
  | 'H' => plain .holdMore
  | 'g' => plain .recall
  | 'G' => plain .recallMore
  | 'x' => plain .swap
  | 'z' => plain .clear
  | '=' => plain .lineNumber
  | 'F' => plain .fileName
  | 'l' => return .list (← argument?)
  | 'q' | 'Q' =>
    if range.finish.isSome then refuse "command only uses one address"
    return .quit ((← argument?).getD 0) (letter = 'Q')
  | 'r' => return .append (.file (← fileName))
  | 'R' => return .append (.lineOf (← fileName))
  | 'w' => return .write (← fileName) false
  | 'W' => return .write (← fileName) true
  | 's' => return .substitute (← substitution extended)
  | 'y' => return .exchange (← exchange)
  | 'v' => do
    let _ ← label
    return .nothing
  | 'b' => return .jump (← label)
  | 't' => return .jumpIf true (← label)
  | 'T' => return .jumpIf false (← label)
  | letter => refuse ("unknown command: \u0060" ++ letter.toString ++ "'")

/-- Passes over a comment.  The first line of a script may be one that has a meaning. -/
def comment (isFirst : Bool) (script : EditScript) : EditReader EditScript := do
  let atStart := isFirst && (← get).count = 1
  let bytes ← takeWhile (· ≠ lineFeed)
  return if atStart && bytes.head? = some 0x6E then { script with isSilent := true } else script

/-- Reads one command that begins with a byte, and adds it to the script. -/
def command (extended : Bool) (part : Nat) (script : EditScript) (byte : UInt8) :
    EditReader EditScript := do
  let (range, byte) ← range extended (some byte)
  let place := script.commands.size
  match byte with
  | none => refuse "missing command"
  | some 0x23 =>
    if range.first.isSome then refuse "comments don't accept any addresses"
    comment (part = 1) script
  | some 0x3A =>
    if range.first.isSome then refuse ": doesn't want any addresses"
    let name ← label
    if name = "" then refuse "\":\" lacks a label"
    return { script with labels := script.labels ++ [(name, place)] }
  | some 0x7B =>
    return { script with
      commands := script.commands.push ⟨range, .block⟩
      openBlocks := (place, part) :: script.openBlocks }
  | some 0x7D =>
    match script.openBlocks with
    | [] => refuse "unexpected \u0060\x7d'"
    | (start, _) :: outer =>
      if range.first.isSome then refuse "\x7d doesn't want any addresses"
      endCommand
      return { script with blocks := (start, place) :: script.blocks, openBlocks := outer }
  | some byte =>
    let action ← action extended range (asciiChar byte)
    return { script with commands := script.commands.push ⟨range, action⟩ }

/-- Reads commands. -/
def commands (extended : Bool) (part : Nat) : (fuel : Nat) → EditScript → EditReader EditScript
  | 0, script => return script
  | fuel + 1, script => do
    let _ ← takeWhile fun byte => isSpace byte || byte = 0x3B
    match ← next with
    | none => return script
    | some byte => commands extended part fuel (← command extended part script byte)

end EditReader

/-- Reads a part of a script, the number `part` of several, after those before it. -/
def EditScript.readPart (script : EditScript) (extended : Bool) (part : Nat)
    (bytes : List UInt8) : Except EditFault EditScript :=
  ((EditReader.commands extended part (bytes.length + 1) script).run ⟨bytes, 0, 1⟩).map Prod.fst

namespace EditScript

/-- The place of a label; the empty one is the end of the script. -/
def place? (script : EditScript) (label : String) : Option Nat :=
  if label = "" then some script.commands.size else script.labels.lookup label

/-- The label that a command jumps to. -/
def jumpOf? (command : EditCommand) : Option String :=
  match command.action with
  | .jump label | .jumpIf _ label => some label
  | _ => none

/-- A label that is jumped to and is not there. -/
def missingLabel? (script : EditScript) : Option String :=
  (script.commands.toList.filterMap jumpOf?).find? fun label => (script.place? label).isNone

/-- The files that commands write to. -/
def outputs (script : EditScript) : List String :=
  (script.commands.toList.filterMap fun command =>
    match command.action with
    | .write path _ => some path
    | .substitute substitution => substitution.file
    | _ => none).eraseDups

end EditScript

end CommandShell.Machine.Program
