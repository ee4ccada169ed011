import CommandShell.Machine.SystemShell.Reader.Condition
set_option autoImplicit false

/-!
# Reading commands

Commands, from those that are made of words to lists of pipelines, and the reader of a whole script.
-/

namespace CommandShell.Machine.SystemShell

/-! ## Redirections -/

/-- The text of a word without its quotes. -/
def plainText (parts : List Part) : String :=
  String.join (parts.map fun
    | .text text _ => text
    | .parameter name _ _ _ => "$" ++ name
    | _ => "")

/-- The redirection of a kind, with its word. -/
def makeRedirection (descriptor : Nat) (parts : List Part) : RedirectionKind → ReadM Redirection
  | .file use => return .file descriptor use parts
  | .copy => return .copy descriptor parts
  | .word => return .word descriptor parts
  | .merged appends => return .merged appends parts
  | .allotted name kind => return .allotted name (← makeRedirection descriptor parts kind)
  | .document indented => do
    let number := (← get).nextDocument
    let document : PendingDocument :=
      { number, indented, delimiter := plainText parts, isLiteral := parts.any Part.isQuoted }
    modify fun reader => { reader with
      nextDocument := number + 1, pending := reader.pending ++ [document] }
    return .document descriptor number

/-- Reads the word of a redirection. -/
def readRedirectionWord (inner : InnerReaders) (descriptor : Nat) (kind : RedirectionKind) :
    ReadM Redirection := do
  match (← readToken inner).parts? with
  | none => refuseLast none
  | some parts => makeRedirection descriptor parts kind

/-- Reads redirections after a command. -/
def readRedirections (inner : InnerReaders) : (fuel : Nat) → ReadM (List Redirection)
  | 0 => return []
  | fuel + 1 => do
    match ← readToken inner with
    | .redirection descriptor kind =>
      let redirection ← readRedirectionWord inner descriptor kind
      return redirection :: (← readRedirections inner fuel)
    | _ =>
      pushBack
      return []

/-! ## Commands -/

/-- What a simple command has so far, the latest first. -/
structure SimpleParts where
  line : Nat
  assignments : List Assignment := []
  words : List (List Part) := []
  redirections : List Redirection := []

/-- The commands whose names no function of the plain dialect may have. -/
def specialBuiltins : List String :=
  [".", ":", "break", "continue", "eval", "exec", "exit", "export", "readonly", "return", "set",
    "shift", "times", "trap", "unset"]

/-- The commands of the extended dialect that take assignments as arguments. -/
def declaringCommands : List String := ["declare", "export", "local", "readonly", "typeset"]

/-- Reads the body of a function, which is no simple command. -/
def readBody (inner : InnerReaders) (command : ReadM Command) : ReadM Command := do
  expect true true
  match ← readToken inner with
  | .word _ | .redirection .. => refuseLast none
  | _ =>
    pushBack
    command

/-- Reads the rest of the definition of a function after its name and a parenthesis. -/
def readFunction (inner : InnerReaders) (command : ReadM Command) (name : List Part) :
    ReadM Command := do
  match ← readToken inner with
  | .closeParen =>
    if ← isExtended then return .define (Part.spelled name) (← readBody inner command)
    let name := (Part.literal? name).getD ""
    if !isName name || specialBuiltins.contains name then refuse "Bad function name"
    expect true true
    return .define name (← command)
  | _ => refuseLast (some (Token.name .closeParen))

/-- The line that counts as that of a command of the extended dialect: where the word after its
first one is, or where its first part ends if that is no word. -/
def SimpleParts.lineAfter (sofar : SimpleParts) (token : Token) : ReadM Nat := do
  if ← isExtended then
    let (_, line) ← lastLine
    match sofar, token with
    | ⟨_, [], [_], []⟩, _ => return line
    | ⟨_, [], [], []⟩, .word (.assignment _ :: _) | ⟨_, [], [], []⟩, .redirection .. => return line
    | _, _ => return sofar.line
  return sofar.line

/-- Reads a simple command, or the definition of a function; `command` reads its body. -/
def readSimple (inner : InnerReaders) (command : ReadM Command) :
    (fuel : Nat) → SimpleParts → ReadM Command
  | 0, _ => refuse "script too long"
  | fuel + 1, sofar => do
    if sofar.words.isEmpty then expectAlias
    let declares := ((sofar.words.getLast?.bind Part.literal?).map declaringCommands.contains)
    if declares.getD true then expectAssignment
    let token ← readToken inner
    let sofar := { sofar with line := ← sofar.lineAfter token }
    let finish : ReadM Command := do
      pushBack
      return .simple sofar.line sofar.assignments.reverse sofar.words.reverse
        sofar.redirections.reverse
    match token with
    | .word parts =>
      match sofar.words, assignment? parts with
      | [], some assignment =>
        readSimple inner command fuel
          { sofar with assignments := assignment :: sofar.assignments }
      | _, _ => readSimple inner command fuel { sofar with words := parts :: sofar.words }
    | .redirection descriptor kind =>
      let redirection ← readRedirectionWord inner descriptor kind
      readSimple inner command fuel
        { sofar with redirections := redirection :: sofar.redirections }
    | .openParen =>
      match sofar with
      | ⟨_, [], [name], []⟩ => readFunction inner command name
      | _ => finish
    | _ => finish

/-- Reads the words of a loop. -/
def readLoopWords (inner : InnerReaders) : (fuel : Nat) → ReadM (List (List Part))
  | 0 => return []
  | fuel + 1 => do
    match ← readToken inner with
    | .word parts => return parts :: (← readLoopWords inner fuel)
    | .newline | .semicolon => return []
    | _ => refuseLast none

/-- Reads the patterns of one case, of which the first token has been read. -/
def readPatterns (inner : InnerReaders) : (fuel : Nat) → ReadM (List (List Part))
  | 0 => return []
  | fuel + 1 => do
    let parts := (← get).last.parts?.getD []
    match ← readToken inner with
    | .pipe =>
      let _ ← readToken inner
      return parts :: (← readPatterns inner fuel)
    | .closeParen => return [parts]
    | _ => refuseLast (some (Token.name .closeParen))

/-- Reads the cases of a selection. -/
def readCases (inner : InnerReaders) :
    (fuel : Nat) → ReadM (List (List (List Part) × Command × CaseEnd))
  | 0 => return []
  | fuel + 1 => do
    expect true true
    let token ← readToken inner
    if token.isKeyword .esac then return []
    if let .openParen := token then
      let _ ← readToken inner
    let patterns ← readPatterns inner (fuel + 1)
    let body := Command.ofList (← inner.list .optional)
    expect true true
    match ← readToken inner with
    | .caseEnd ending => return (patterns, body, ending) :: (← readCases inner fuel)
    | token =>
      if token.isKeyword .esac then return [(patterns, body, .leave)]
      refuseLast (some (Token.name (.caseEnd .leave)))

/-- Reads the rest of a conditional after its first word. -/
def readConditional (inner : InnerReaders) : (fuel : Nat) → ReadM Command
  | 0 => refuse "script too long"
  | fuel + 1 => do
    let test ← inner.list .body
    readKeyword inner .thenWord
    let body ← inner.list .body
    let token ← readToken inner
    if token.isKeyword .elif then
      return .conditional (.ofList test) (.ofList body) (some (← readConditional inner fuel))
    else if token.isKeyword .elseWord then
      let otherwise ← inner.list .body
      return .conditional (.ofList test) (.ofList body) (some (.ofList otherwise))
    else
      pushBack
      return .conditional (.ofList test) (.ofList body) none

/-- Reads the rest of a loop over words after its first word. -/
def readEach (inner : InnerReaders) (line : Nat) : ReadM Command := do
  match ← readToken inner with
  | .word [.text name false] =>
    if !isName name then refuse "Bad for loop variable"
    expect true true
    let token ← readToken inner
    let words ←
      if token.isKeyword .inWord then some <$> readLoopWords inner (← readingFuel)
      else do
        if let .semicolon := token then pure () else pushBack
        pure none
    expect true true
    readKeyword inner .doWord
    return .each line name words (.ofList (← inner.list .body))
  | _ => refuse "Bad for loop variable"

/-- Reads the body of a loop of the extended dialect. -/
def readLoopBody (inner : InnerReaders) : ReadM Command := do
  expect true true
  let token ← readToken inner
  let closer : Keyword ←
    if token.isKeyword .doWord then pure .done
    else if token.isKeyword .openBrace then pure .closeBrace
    else refuseLast none
  let body := Command.ofList (← inner.list .body)
  readKeyword inner closer
  return body

/-- Parts divided where a character stands in text. -/
def divideParts (c : Char) : List Part → List (List Part)
  | [] => [[]]
  | part :: rest =>
    let others := divideParts c rest
    let join (first : List Part) : List (List Part) :=
      match others with
      | next :: more => (first ++ next) :: more
      | [] => [first]
    match part with
    | .text text quoted =>
      let pieces := (text.splitOn c.toString).map fun piece =>
        if piece = "" then [] else [Part.text piece quoted]
      match pieces.getLast? with
      | some last => pieces.dropLast ++ join last
      | none => others
    | part => join [part]

/-- Reads the rest of a counted loop after its two parentheses. -/
def readCounted (inner : InnerReaders) (line : Nat) : ReadM Command := do
  match ← readArithmetic? inner with
  | none => refuseNear []
  | some parts =>
    let source := Part.spelled parts
    let sections := divideParts ';' (parts.dropLast)
    let sources := source.splitOn ";"
    let written := (sections.zip sources).map fun (parts, source) =>
      parts ++ [.spelling source]
    match if sections.length = sources.length then written else sections with
    | [first, test, step] =>
      expect true true
      match ← readToken inner with
      | .semicolon => pure ()
      | _ => pushBack
      return .counted line first test step (← readLoopBody inner)
    | _ =>
      throw (.refused line ["syntax error: arithmetic expression required",
        "syntax error: " ++ hooked ("((" ++ source ++ "))")])

/-- Reads the rest of a loop over words of the extended dialect after its first word. -/
def readExtendedEach (inner : InnerReaders) (line : Nat) (isMenu : Bool) : ReadM Command := do
  skipBlanks (← readingFuel)
  if !isMenu then
    if ← acceptTwo '(' '(' then return ← readCounted inner line
  match ← readToken inner with
  | .word name =>
    expect true true
    let token ← readToken inner
    let words ←
      if token.isKeyword .inWord then some <$> readLoopWords inner (← readingFuel)
      else do
        if let .semicolon := token then pure () else pushBack
        pure none
    let body ← readLoopBody inner
    let name := Part.spelled name
    return if isMenu then .menu line name words body else .each line name words body
  | _ => refuseLast none

/-- Reads the rest of a selection after its first word. -/
def readSelection (inner : InnerReaders) (line : Nat) : ReadM Command := do
  match ← readToken inner with
  | .word word =>
    expect true true
    readKeyword inner .inWord
    return .select line word (← readCases inner (← readingFuel))
  | _ => refuseLast (some "word")

/-- A command with the redirections that follow it. -/
def redirect (inner : InnerReaders) (line : Nat) (command : Command) : ReadM Command := do
  expect true false
  let redirections ← readRedirections inner (← readingFuel)
  match command, redirections with
  | command, [] => return command
  | .subshell line body _, redirections => return .subshell line body redirections
  | command, redirections => return .redirected line command redirections

/-- Reads a token, which must be the given reserved word, and the redirections after it. -/
def close (inner : InnerReaders) (line : Nat) (keyword : Keyword) (command : Command) :
    ReadM Command := do
  readKeyword inner keyword
  redirect inner line command

/-- Reads a command. -/
def readCommand (inner : InnerReaders) : (fuel : Nat) → ReadM Command
  | 0 => refuse "script too long"
  | fuel + 1 => do
    let line := (← get).line
    match ← readToken inner with
    | .keyword .ifWord _ => close inner line .fi (← readConditional inner (fuel + 1))
    | .keyword .whileWord _ =>
      let test ← inner.list .body
      readKeyword inner .doWord
      close inner line .done (.loop false (.ofList test) (.ofList (← inner.list .body)))
    | .keyword .untilWord _ =>
      let test ← inner.list .body
      readKeyword inner .doWord
      close inner line .done (.loop true (.ofList test) (.ofList (← inner.list .body)))
    | .keyword .forWord _ =>
      if ← isExtended then redirect inner line (← readExtendedEach inner line false)
      else close inner line .done (← readEach inner line)
    | .keyword .selectWord _ => redirect inner line (← readExtendedEach inner line true)
    | .keyword .openCondition _ => redirect inner line (.condition line (← readCondition inner))
    | .keyword .functionWord _ =>
      match (← readToken inner).parts? with
      | none => refuseLast none
      | some name =>
        expect true true
        match ← readToken inner with
        | .openParen => readFunction inner (readCommand inner fuel) name
        | _ =>
          pushBack
          return .define (Part.spelled name) (← readBody inner (readCommand inner fuel))
    | .keyword .caseWord _ => redirect inner line (← readSelection inner line)
    | .keyword .openBrace _ =>
      let body := Command.ofList (← inner.list .body)
      close inner line .closeBrace (if ← isExtended then .group body else body)
    | .openParen =>
      let before ← get
      if ← acceptExtended '(' then
        match ← readArithmetic? inner with
        | some parts => return ← redirect inner line (.calculation line parts)
        | none => set before
      let body ← inner.list .body
      match ← readToken inner with
      | .closeParen => redirect inner line (.subshell line (.ofList body) [])
      | _ => refuseLast (some (Token.name .closeParen))
    | .word _ | .redirection .. =>
      pushBack
      readSimple inner (readCommand inner fuel) (← readingFuel) { line := (← get).line }
    | _ => refuseLast none

/-- A command whose standard error goes where its standard output goes. -/
def Command.withErrors : Command → Command
  | .simple line assignments words redirections =>
    .simple line assignments words (redirections ++ [.copy 2 [.text "1" false]])
  | command => .redirected 0 command [.copy 2 [.text "1" false]]

/-- Reads the further stages of a pipeline; `sofar` has the latest stage first. -/
def readStages (inner : InnerReaders) (sofar : List Command) :
    (fuel : Nat) → ReadM (List Command)
  | 0 => return sofar.reverse
  | fuel + 1 => do
    match ← readToken inner with
    | .pipe =>
      expect true true
      let command ← readCommand inner (← readingFuel)
      readStages inner (command :: sofar) fuel
    | .fullPipe =>
      expect true true
      let command ← readCommand inner (← readingFuel)
      let merged := match sofar with
        | last :: others => last.withErrors :: others
        | [] => []
      readStages inner (command :: merged) fuel
    | _ =>
      pushBack
      return sofar.reverse

/-- The token can follow a command. -/
def Token.followsCommand : Token → Bool
  | .finish | .newline | .semicolon | .ampersand | .andIf | .orIf | .closeParen => true
  | _ => false

/-- Reads a pipeline, with the words before it that say what is made of its status. -/
def readPipeline (inner : InnerReaders) : (fuel : Nat) → ReadM Command
  | 0 => refuse "script too long"
  | fuel + 1 => do
    let token ← readToken inner
    let extended ← isExtended
    if token.isKeyword .timeWord then
      expect true false
      let next ← readToken inner
      let isPlain := (next.parts?.bind Part.literal?) = some "-p"
      if isPlain then expect true false else pushBack
      if next.followsCommand then return .timed false .nothing
      return .timed isPlain (← readPipeline inner fuel)
    if token.isKeyword .bang then
      expect true false
      if extended then
        let next ← readToken inner
        pushBack
        if next.followsCommand then return .negation .nothing
        if next.isKeyword .bang || next.isKeyword .timeWord then
          return .negation (← readPipeline inner fuel)
    else pushBack
    let first ← readCommand inner (← readingFuel)
    let stages ← readStages inner [first] (← readingFuel)
    let pipeline := match stages with
      | [command] => command
      | stages => .pipeline stages
    return if token.isKeyword .bang then .negation pipeline else pipeline

/-- Reads pipelines that depend on each other. -/
def readAndOr (inner : InnerReaders) : (fuel : Nat) → Command → ReadM Command
  | 0, sofar => return sofar
  | fuel + 1, sofar => do
    match ← readToken inner with
    | .andIf =>
      expect true true
      readAndOr inner fuel (.both sofar (← readPipeline inner (← readingFuel)))
    | .orIf =>
      expect true true
      readAndOr inner fuel (.either sofar (← readPipeline inner (← readingFuel)))
    | _ =>
      pushBack
      return sofar

/-- Reads commands one after another. -/
def readList (inner : InnerReaders) (place : Place) :
    (fuel : Nat) → (isFirst : Bool) → ReadM (List Command)
  | 0, _ => return []
  | fuel + 1, isFirst => do
    let inScript := place = .script
    expect true !inScript
    let finish : ReadM (List Command) := do
      readDocuments inner
      modify fun reader => { reader with isPushedBack := true, last := .finish }
      return []
    match ← readToken inner with
    | .newline =>
      readDocuments inner
      return []
    | .finish => finish
    | token =>
      pushBack
      if token.endsList && !inScript && !(place = .body && isFirst) then return []
      let command ← readAndOr inner (← readingFuel)
        (← readPipeline inner (← readingFuel))
      let ending ← readToken inner
      let command := match ending with
        | .ampersand => .background command
        | _ => command
      match ending with
      | .finish => return command :: (← finish)
      | .newline =>
        pushBack
        return command :: (← readList inner place fuel false)
      | .ampersand | .semicolon => return command :: (← readList inner place fuel false)
      | _ =>
        if inScript then refuseLast none
        pushBack
        return [command]

/-- The readers of what is nested no deeper than `depth`. -/
def innerReaders : (depth : Nat) → InnerReaders
  | 0 => ⟨fun _ => refuse "nesting too deep", fun _ => refuse "nesting too deep"⟩
  | depth + 1 =>
    { parts := fun around => do
        readParts (innerReaders depth) around (← get).line (← readingFuel) 0 []
      list := fun place => do
        readList (innerReaders depth) place (← readingFuel) true }

/-- How deep commands and words may be nested. -/
def maxNesting : Nat := 1000

/-- What a reader comes to. -/
inductive Reading where
  /-- A command, or an empty line; `isLast` when nothing follows it. -/
  | command (command : Command) (isLast : Bool) (reader : Reader)
  /-- Nothing is left. -/
  | finished
  | hungry
  | refused (line : Nat) (complaints : List String)

/-- Reads a command up to the end of its line. -/
def Reader.next (reader : Reader) : Reading :=
  let reader : Reader :=
    { reader with isPushedBack := false, pending := [], lineRest := reader.rest }
  match ((innerReaders maxNesting).list .script).run reader with
  | .error .hungry => .hungry
  | .error .halfClosed => .refused reader.line []
  | .error (.refused line complaints) => .refused line complaints
  | .ok (commands, reader) =>
    let isLast := match reader.isPushedBack, reader.last with
      | true, .finish => true
      | _, _ => false
    if commands.isEmpty && isLast then .finished
    else .command (.ofList commands) isLast reader

end CommandShell.Machine.SystemShell
