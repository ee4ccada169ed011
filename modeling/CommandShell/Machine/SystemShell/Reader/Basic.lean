import CommandShell.Machine.SystemShell.Syntax
set_option autoImplicit false

/-!
# Readers of scripts

A script is read command by command, and no further than the line on which a command ends.  A
reader may be given the beginning of a script only: it asks for more where what follows matters.
-/

namespace CommandShell.Machine.SystemShell

/-! ## Tokens -/

/-- A reserved word. -/
inductive Keyword where
  | bang
  | caseWord
  | doWord
  | done
  | elif
  | elseWord
  | esac
  | fi
  | forWord
  | ifWord
  | inWord
  | thenWord
  | untilWord
  | whileWord
  | openBrace
  | closeBrace
  | functionWord
  | selectWord
  | timeWord
  | openCondition
  deriving DecidableEq

/-- The reserved words of the plain dialect as they are written. -/
def Keyword.plainSpellings : List (String × Keyword) :=
  [("!", .bang), ("case", .caseWord), ("do", .doWord), ("done", .done), ("elif", .elif),
    ("else", .elseWord), ("esac", .esac), ("fi", .fi), ("for", .forWord), ("if", .ifWord),
    ("in", .inWord), ("then", .thenWord), ("until", .untilWord), ("while", .whileWord),
    ("\x7b", .openBrace), ("\x7d", .closeBrace)]

/-- The reserved words of a dialect as they are written. -/
def Keyword.spellings : Dialect → List (String × Keyword)
  | .plain => Keyword.plainSpellings
  | .extended => Keyword.plainSpellings ++
    [("function", .functionWord), ("select", .selectWord), ("time", .timeWord),
      ("[[", .openCondition)]

/-- A reserved word as it is written. -/
def Keyword.spelling (keyword : Keyword) : String :=
  (((Keyword.spellings .extended).find? (·.2 = keyword)).map Prod.fst).getD ""

/-- What a redirection does with its descriptor. -/
inductive RedirectionKind where
  | file (use : FileUse)
  | copy
  /-- Text in the script, whose lines may be indented with tabs. -/
  | document (indented : Bool)
  | word
  | merged (appends : Bool)
  /-- The descriptor is looked for and put into a variable. -/
  | allotted (name : String) (kind : RedirectionKind)

/-- A token of a script. -/
inductive Token where
  | finish
  | newline
  | semicolon
  | ampersand
  | andIf
  | orIf
  | pipe
  /-- A pipe that standard error goes through as well. -/
  | fullPipe
  | openParen
  | closeParen
  | caseEnd (ending : CaseEnd)
  | redirection (descriptor : Nat) (kind : RedirectionKind)
  | word (parts : List Part)
  | keyword (keyword : Keyword) (parts : List Part)

/-- A kind of token in a message. -/
def quotedToken (text : String) : String := "\"" ++ text ++ "\""

namespace Token

/-- The token in a message. -/
def name : Token → String
  | finish => "end of file"
  | newline => "newline"
  | semicolon => quotedToken ";"
  | ampersand => quotedToken "&"
  | andIf => quotedToken "&&"
  | orIf => quotedToken "||"
  | pipe => quotedToken "|"
  | fullPipe => quotedToken "|&"
  | openParen => quotedToken "("
  | closeParen => quotedToken ")"
  | caseEnd _ => quotedToken ";;"
  | redirection .. => "redirection"
  | word _ => "word"
  | keyword k _ => quotedToken k.spelling

/-- The token is the reserved word. -/
def isKeyword (k : Keyword) : Token → Bool
  | keyword other _ => k = other
  | _ => false

/-- The parts of a word, reserved or not. -/
def parts? : Token → Option (List Part)
  | word parts | keyword _ parts => some parts
  | _ => none

/-- The token ends a list of commands. -/
def endsList : Token → Bool
  | finish | closeParen | caseEnd _ => true
  | keyword k _ =>
    k = .doWord || k = .done || k = .elif || k = .elseWord || k = .esac || k = .fi
      || k = .thenWord || k = .closeBrace
  | _ => false

end Token

/-! ## The reader -/

/-- Text in the script that is still to come. -/
structure PendingDocument where
  number : Nat
  delimiter : String
  indented : Bool
  /-- Nothing in the text is replaced. -/
  isLiteral : Bool

/-- A text in the script that the end of the script ends. -/
structure UnfinishedDocument where
  delimiter : String
  firstLine : Nat
  lastLine : Nat

/-- An alias whose text is being read. -/
structure AliasMark where
  name : String
  /-- How much is left when the text of the alias has been read. -/
  left : Nat
  /-- The word after the alias may be one too. -/
  goesOn : Bool

/-- What a reader has before it. -/
structure Reader where
  dialect : Dialect := .plain
  rest : List Char
  /-- Nothing comes after `rest`. -/
  atEnd : Bool
  line : Nat := 1
  /-- What was left at the beginning of the line. -/
  lineRest : List Char := []
  /-- What was left at the beginning of the line before. -/
  previousRest : List Char := []
  /-- The last token is to be read once more. -/
  isPushedBack : Bool := false
  last : Token := .newline
  /-- The last token as it is written. -/
  lastText : String := ""
  /-- The next word may be a reserved one. -/
  checksKeywords : Bool := false
  /-- The next word may be an alias. -/
  checksAliases : Bool := false
  /-- The next word may be an assignment of the extended dialect. -/
  checksAssignments : Bool := false
  /-- A sign before a parenthesis makes a group of patterns. -/
  hasGroups : Bool := false
  /-- What stands for a word at the beginning of a command. -/
  aliases : List (String × String) := []
  /-- The aliases that are being read, the innermost first. -/
  marks : List AliasMark := []
  /-- Line feeds before the next token do not count. -/
  skipsNewlines : Bool := false
  pending : List PendingDocument := []
  /-- The texts in the script that have been read, by number. -/
  documents : List (Nat × List Part) := []
  nextDocument : Nat := 0
  unfinished : List UnfinishedDocument := []

/-- Why a reader stops before the end of a command. -/
inductive ReadStop where
  /-- More of the script is needed. -/
  | hungry
  /-- The script is wrong, as one or more complaints say. -/
  | refused (line : Nat) (complaints : List String)
  /-- A single parenthesis ends what two have begun. -/
  | halfClosed

/-- Reading. -/
abbrev ReadM := StateT Reader (Except ReadStop)

/-- Where a list of commands stands. -/
inductive Place where
  /-- Up to the end of a line. -/
  | script
  /-- In another command; there must be one. -/
  | body
  /-- In another command; there may be none. -/
  | optional
  deriving DecidableEq

/-- What is around the parts of a word. -/
inductive Surrounding where
  | bare
  | doubleQuotes
  | braces (quoted : Bool)
  | document
  | arithmetic
  /-- An expression in brackets. -/
  | bracketed
  /-- The place of an element. -/
  | subscript
  /-- A pattern up to a slash or a brace. -/
  | replaced
  /-- An expression up to a colon or a brace. -/
  | offset
  /-- Patterns in parentheses. -/
  | group
  /-- A regular expression in a condition. -/
  | regex
  deriving DecidableEq

/-- Text in there counts as quoted. -/
def Surrounding.quotes : Surrounding → Bool
  | bare | braces false | subscript | replaced | offset | group | regex => false
  | doubleQuotes | braces true | document | arithmetic | bracketed => true

/-- What ends the parts of a word. -/
def Surrounding.closer : Surrounding → String
  | doubleQuotes => "\""
  | braces _ | replaced | offset => "\x7d"
  | subscript | bracketed => "]"
  | _ => ")"

/-- The readers of what words and commands contain. -/
structure InnerReaders where
  parts : Surrounding → ReadM (List Part)
  list : Place → ReadM (List Command)

variable {α : Type}

/-! ## Refusing -/

/-- The dialect is the extended one. -/
def isExtended : ReadM Bool := return (← get).dialect = .extended

/-- Refuses the script. -/
def refuse (text : String) : ReadM α := do
  throw (.refused (← get).line ["Syntax error: " ++ text])

/-- More than every loop of a reader takes. -/
def readingFuel : ReadM Nat := return (← get).rest.length + 16

/-- A text in the quotes of the extended dialect. -/
def hooked (text : String) : String := "\u0060" ++ text ++ "'"

/-- The line that has been read last, from its beginning on, and its number. -/
def lastLine : ReadM (List Char × Nat) := do
  let reader ← get
  if reader.rest.length = reader.lineRest.length && !reader.previousRest.isEmpty then
    return (reader.previousRest, reader.line - 1)
  return (reader.lineRest, reader.line)

/-- The complaint that shows the line that has been read last. -/
def shownLine : ReadM String :=
  return hooked (String.ofList ((← lastLine).1.takeWhile (· ≠ '\n')))

/-- The number of the line after the last one. -/
def lineAfterEnd : ReadM Nat := do
  let reader ← get
  return if reader.lineRest.isEmpty then reader.line else reader.line + 1

/-- Refuses the script because its end comes too early. -/
def refuseEnd : ReadM α := do
  throw (.refused (← lineAfterEnd) ["syntax error: unexpected end of file"])

/-- Refuses the script because nothing closes what was opened on a line. -/
def refuseUnclosed (plain : String) (closer : String) (line : Nat) : ReadM α := do
  if ← isExtended then
    throw (.refused line ["unexpected EOF while looking for matching " ++ hooked closer])
  refuse plain

/-- The last piece of the text that has been read, as far as no blank or separator is in it. -/
def nearText : ReadM String := do
  let (line, _) ← lastLine
  let read := line.take (line.length - (← get).rest.length)
  let blank (c : Char) : Bool := c = ' ' || c = '\t' || c = '\n'
  let reversed := read.reverse.dropWhile blank
  return String.ofList (reversed.takeWhile fun c => !(" \n\t;|&".contains c)).reverse

/-- Refuses the script near the text that has been read last, for reasons that are given before. -/
def refuseNear (reasons : List String) : ReadM α := do
  let (_, line) ← lastLine
  throw (.refused line
    (reasons ++ ["syntax error near " ++ hooked (← nearText), ← shownLine]))

/-- The last token as it is written. -/
def lastWritten : ReadM String := do
  let reader ← get
  return match reader.last with
    | .newline => "newline"
    | _ => reader.lastText

/-- Refuses the last token. -/
def refuseLast (expected : Option String) : ReadM α := do
  let reader ← get
  match reader.dialect, reader.last with
  | .plain, last =>
    refuse <| last.name ++ " unexpected" ++
      match expected with
      | some token => " (expecting " ++ token ++ ")"
      | none => ""
  | .extended, .finish => refuseEnd
  | .extended, _ =>
    let (_, line) ← lastLine
    throw (.refused line
      ["syntax error near unexpected token " ++ hooked (← lastWritten), ← shownLine])

/-! ## Characters -/

/-- What follows a backslash and a line feed, and how many lines that takes up. -/
def dropJoined : List Char → List Char × Nat
  | '\\' :: '\n' :: rest =>
    let (rest, lines) := dropJoined rest
    (rest, lines + 1)
  | cs => (cs, 0)

/-- The next character as it stands. -/
def peekRaw : ReadM (Option Char) := do
  let reader ← get
  match reader.rest with
  | c :: _ => return some c
  | [] => if reader.atEnd then return none else throw .hungry

/-- The next character, where a backslash at the end of a line joins it with the next one. -/
def peek : ReadM (Option Char) := do
  modify fun reader =>
    match dropJoined reader.rest with
    | (_, 0) => reader
    | (rest, lines) =>
      { reader with
        rest, line := reader.line + lines, lineRest := rest, previousRest := reader.lineRest }
  let reader ← get
  match reader.rest with
  | ['\\'] => if reader.atEnd then return some '\\' else throw .hungry
  | _ => peekRaw

/-- Goes on to the character after the next one. -/
def advance : ReadM Unit :=
  modify fun reader =>
    match reader.rest with
    | '\n' :: rest =>
      { reader with
        rest, line := reader.line + 1, lineRest := rest, previousRest := reader.lineRest }
    | _ :: rest => { reader with rest }
    | [] => reader

/-- Goes on if the next character is the given one. -/
def accept (c : Char) : ReadM Bool := do
  if (← peek) = some c then
    advance
    return true
  return false

/-- Goes on if the dialect is the extended one and the next character is the given one. -/
def acceptExtended (c : Char) : ReadM Bool := do
  if ← isExtended then accept c else return false

/-- The character after the next one. -/
def peekSecond : ReadM (Option Char) := do
  let before ← get
  advance
  let second ← peek
  set before
  return second

/-- Goes on if the next two characters are the given ones. -/
def acceptTwo (first second : Char) : ReadM Bool := do
  if (← peek) = some first && (← peekSecond) = some second then
    advance
    let _ ← peek
    advance
    return true
  return false

/-- The next characters for which a test holds. -/
def takeChars (test : Char → Bool) : (fuel : Nat) → ReadM (List Char)
  | 0 => return []
  | fuel + 1 => do
    match ← peek with
    | some c =>
      if test c then
        advance
        return c :: (← takeChars test fuel)
      else return []
    | none => return []

/-- Reads a script of its own with the state that belongs to this one. -/
def readApart (text : List Char) (reading : ReadM α) : ReadM α := do
  let outer ← get
  set { outer with
    rest := text, lineRest := text, previousRest := [], atEnd := true, isPushedBack := false
    checksKeywords := false, checksAliases := false, checksAssignments := false, marks := []
    skipsNewlines := false, pending := [] }
  let result ← reading
  modify fun reader => { outer with
    documents := reader.documents, nextDocument := reader.nextDocument }
  return result

end CommandShell.Machine.SystemShell
