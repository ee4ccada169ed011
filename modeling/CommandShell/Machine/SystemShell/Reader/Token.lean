import CommandShell.Machine.SystemShell.Reader.Word
set_option autoImplicit false

/-!
# Reading tokens

Words, operators and the texts that stand in a script after a line.  What a word can be depends on
its place: a reserved word, an alias or an assignment.
-/

namespace CommandShell.Machine.SystemShell

/-! ## Texts in the script -/

/-- A text up to a line that is the delimiter, and what follows it; none if more is needed.  The
result also says whether the delimiter was there. -/
def splitDocument (document : PendingDocument) (atEnd : Bool) :
    (fuel : Nat) → List Char → Option (List Char × List Char × Bool)
  | 0, _ => none
  | fuel + 1, cs =>
    let line := cs.takeWhile (· ≠ '\n')
    let rest := cs.drop line.length
    let line := if document.indented then line.dropWhile (· = '\t') else line
    if rest.isEmpty && !atEnd then none
    else if String.ofList line = document.delimiter then some ([], rest.drop 1, true)
    else if rest.isEmpty then some (line, [], false)
    else (splitDocument document atEnd fuel (rest.drop 1)).map fun (text, rest) =>
      (line ++ '\n' :: text, rest)

/-- Reads the texts in the script that are to come after the line. -/
def readDocuments (inner : InnerReaders) : ReadM Unit := do
  let pending := (← get).pending
  modify fun reader => { reader with pending := [] }
  for document in pending do
    let reader ← get
    match splitDocument document reader.atEnd (reader.rest.length + 2) reader.rest with
    | none => throw .hungry
    | some (text, rest, isFinished) =>
      let parts ←
        if document.isLiteral then pure [.text (String.ofList text) true]
        else readApart text (inner.parts .document)
      let lines := (reader.rest.take (reader.rest.length - rest.length)).count '\n'
      let text := if text.getLast? = some '\n' || isFinished then text else text ++ ['\n']
      let unfinished : List UnfinishedDocument :=
        if isFinished then []
        else [⟨document.delimiter, reader.line - 1, reader.line + text.count '\n' - 1⟩]
      modify fun reader => { reader with
        rest, line := reader.line + lines, lineRest := rest, previousRest := []
        documents := (document.number, parts) :: reader.documents
        unfinished := reader.unfinished ++ unfinished }

/-! ## Blanks -/

/-- Skips blanks and comments. -/
def skipBlanks : (fuel : Nat) → ReadM Unit
  | 0 => return
  | fuel + 1 => do
    match ← peek with
    | some ' ' | some '\t' =>
      advance
      skipBlanks fuel
    | some '#' =>
      let reader ← get
      let rest := reader.rest.dropWhile (· ≠ '\n')
      if rest.isEmpty && !reader.atEnd then throw .hungry
      set { reader with rest }
      skipBlanks fuel
    | _ => return

/-! ## Assignments of the extended dialect -/

/-- Reads the elements of a list up to a closing parenthesis; the list begins on a line. -/
def readElements (inner : InnerReaders) (line : Nat) : (fuel : Nat) → ReadM (List Element)
  | 0 => return []
  | fuel + 1 => do
    skipBlanks (← readingFuel)
    match ← peek with
    | none => refuseUnclosed "" ")" line
    | some '\n' =>
      advance
      readElements inner line fuel
    | some ')' =>
      advance
      return []
    | some c =>
      let before ← get
      if c = '[' then
        let subscript ← readSubscript inner
        let appends ← accept '+'
        if ← accept '=' then
          let value ← inner.parts .bare
          return .element subscript appends value :: (← readElements inner line fuel)
        set before
      let value ← inner.parts .bare
      if value.isEmpty then
        throw (.refused (← get).line
          ["syntax error near unexpected token " ++ hooked c.toString, ← shownLine])
      return .element .none false value :: (← readElements inner line fuel)

/-- Reads an assignment; none if none comes next, and then nothing has been read. -/
def readAssignment? (inner : InnerReaders) : ReadM (Option Assignment) := do
  let before ← get
  let name := String.ofList (← takeChars isNameChar (← readingFuel))
  if isName name then
    let subscript ← readSubscript inner
    let appends ← accept '+'
    if ← accept '=' then
      let line := (← get).line
      if ← accept '(' then
        let elements ← readElements inner line (← readingFuel)
        return some (.assign name subscript appends [.list elements])
      return some (.assign name subscript appends (← inner.parts .bare))
  set before
  return none

/-! ## Reading tokens -/

/-- The redirection after a possible descriptor. -/
def readRedirection (descriptor : Option Nat) : ReadM Token := do
  if ← accept '>' then
    let kind : RedirectionKind ←
      if ← accept '>' then pure (.file .append)
      else if ← accept '|' then pure (.file .overwrite)
      else if ← accept '&' then pure .copy
      else pure (.file .output)
    return .redirection (descriptor.getD 1) kind
  else
    advance
    let kind : RedirectionKind ←
      if ← accept '<' then
        if ← accept '-' then pure (.document true)
        else if ← acceptExtended '<' then pure .word
        else pure (.document false)
      else if ← accept '&' then pure .copy
      else if ← accept '>' then pure (.file .both)
      else pure (.file .input)
    return .redirection (descriptor.getD 0) kind

/-- The name in braces before a redirection of the extended dialect. -/
def allottedName? (text : String) : Option String :=
  match text.toList with
  | '\x7b' :: cs =>
    let name := String.ofList cs.dropLast
    if cs.getLast? = some '\x7d' && isName name then some name else none
  | _ => none

/-- Reads a word, or a redirection with what stands before it. -/
def readWord (inner : InnerReaders) : ReadM Token := do
  let reader ← get
  let extended := reader.dialect = .extended
  if extended && reader.checksAssignments then
    if let some assignment ← readAssignment? inner then return .word [.assignment assignment]
  let parts ← inner.parts .bare
  let next ← peek
  if next = some '<' || next = some '>' then
    match parts with
    | [] => readRedirection none
    | [.text front false] =>
      if front.toList.all Char.isDigit && (extended || front.length = 1) then
        readRedirection front.toNat?
      else if extended then
        match allottedName? front with
        | none => return .word parts
        | some name =>
          match ← readRedirection none with
          | .redirection descriptor kind => return .redirection descriptor (.allotted name kind)
          | token => return token
      else return .word parts
    | _ => return .word parts
  else return .word parts

/-- Reads the next token after blanks; no word is a reserved one yet. -/
def readFreshToken (inner : InnerReaders) : ReadM Token := do
  match ← peek with
  | none => return .finish
  | some '\n' =>
    advance
    return .newline
  | some '&' =>
    advance
    if ← accept '&' then return .andIf
    if ← acceptExtended '>' then
      return .redirection 1 (.merged (← accept '>'))
    return .ampersand
  | some '|' =>
    advance
    if ← accept '|' then return .orIf
    return if ← acceptExtended '&' then .fullPipe else .pipe
  | some ';' =>
    advance
    if ← accept ';' then
      return .caseEnd (if ← acceptExtended '&' then .lookOn else .leave)
    return if ← acceptExtended '&' then .caseEnd .fallThrough else .semicolon
  | some '(' =>
    advance
    return .openParen
  | some ')' =>
    advance
    return .closeParen
  | _ => readWord inner

/-- A token as it is written; what stands before a redirection does not count. -/
def writtenToken (token : Token) (text : String) : String :=
  match token with
  | .redirection .. => (text.dropWhile fun c => c ≠ '<' && c ≠ '>' && c ≠ '&').toString
  | _ => text

/-- Reads the next token, or the last one again. -/
def readPlainToken (inner : InnerReaders) : ReadM Token := do
  let reader ← get
  if reader.isPushedBack then
    set { reader with isPushedBack := false }
    return reader.last
  skipBlanks (← readingFuel)
  let before ← get
  let token ← readFreshToken inner
  if before.dialect = .plain then
    modify fun reader => { reader with last := token }
    return token
  let text ← readSince before
  let token := match token with
    | .word parts => .word (parts ++ [.spelling text])
    | token => token
  modify fun reader => { reader with last := token, lastText := writtenToken token text }
  return token

/-- Reads the next token that is no line feed. -/
def readPastNewlines (inner : InnerReaders) : (fuel : Nat) → ReadM Token
  | 0 => return .finish
  | fuel + 1 => do
    match ← readPlainToken inner with
    | .newline =>
      readDocuments inner
      readPastNewlines inner fuel
    | token => return token

/-- Forgets the aliases whose texts have been read. -/
def dropMarks : ReadM Unit :=
  modify fun reader =>
    { reader with marks := reader.marks.filter fun mark => reader.rest.length > mark.left }

/-- Puts the text of an alias in the place of a word that has been read. -/
def putAliasText (name value : String) : ReadM Unit :=
  modify fun reader =>
    { reader with
      rest := value.toList ++ reader.rest
      lineRest := value.toList ++ reader.rest
      marks := ⟨name, reader.rest.length, value.endsWith " " || value.endsWith "\t"⟩
        :: reader.marks }

/-- Reads the next token, as the reader has been told to. -/
def readTokenAs (inner : InnerReaders) (keywords aliases newlines : Bool) :
    (fuel : Nat) → ReadM Token
  | 0 => return .finish
  | fuel + 1 => do
    if !(← get).isPushedBack then dropMarks
    let token ←
      if newlines then readPastNewlines inner (← readingFuel) else readPlainToken inner
    let reader ← get
    let aliases := aliases || reader.marks.any fun mark =>
      mark.goesOn && reader.rest.length < mark.left
    match token with
    | .word parts =>
      match Part.literal? parts with
      | none => return token
      | some text =>
        match (Keyword.spellings reader.dialect).lookup text, keywords with
        | some keyword, true =>
          let token := Token.keyword keyword parts
          modify fun reader => { reader with last := token }
          return token
        | _, _ =>
          let isUsed := reader.marks.any fun mark =>
            mark.name = text && reader.rest.length ≥ mark.left
          match (if aliases && !isUsed then reader.aliases.lookup text else none) with
          | some value =>
            putAliasText text value
            readTokenAs inner keywords aliases newlines fuel
          | none => return token
    | _ => return token

/-- More than the number of aliases that stand for each other. -/
def maxAliases : Nat := 1000

/-- Reads the next token. -/
def readToken (inner : InnerReaders) : ReadM Token := do
  let reader ← get
  set { reader with checksKeywords := false, checksAliases := false, skipsNewlines := false }
  let token ←
    readTokenAs inner reader.checksKeywords reader.checksAliases reader.skipsNewlines maxAliases
  modify fun reader => { reader with checksAssignments := false }
  return token

/-- The last token is to be read again. -/
def pushBack : ReadM Unit := modify fun reader => { reader with isPushedBack := true }

/-- The next word may be a reserved one, an alias or an assignment, or the next line feeds may not
count. -/
def expect (keywords newlines : Bool) : ReadM Unit :=
  modify fun reader =>
    { reader with
      checksKeywords := keywords, checksAliases := keywords, checksAssignments := keywords
      skipsNewlines := newlines }

/-- The next word may be an alias. -/
def expectAlias : ReadM Unit := modify fun reader => { reader with checksAliases := true }

/-- The next word may be an assignment. -/
def expectAssignment : ReadM Unit :=
  modify fun reader => { reader with checksAssignments := true }

/-- Reads a token, which must be the given reserved word. -/
def readKeyword (inner : InnerReaders) (keyword : Keyword) : ReadM Unit := do
  if !(← readToken inner).isKeyword keyword then refuseLast (some (quotedToken keyword.spelling))

end CommandShell.Machine.SystemShell
