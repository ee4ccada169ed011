import CommandShell.Token.Lexer
import CommandShell.Command.Parser
import CommandShell.Executor
set_option autoImplicit false

/-!
# The read loop

A shell reads lines until they make a complete command, runs it, and starts over, up to an `exit`,
the end of the input or a read error that ends the run.  Errors of a command only end that command.
-/

namespace CommandShell

/-- Why a line could not be read. -/
inductive ReadFault where
  /-- The user interrupted the line; the command under way is dropped. -/
  | interrupted
  | endOfFile
  | stream (fault : StreamFault)
  deriving DecidableEq

/-- The wording of a read fault. -/
def ReadFault.message : ReadFault → String
  | interrupted => "Interrupted"
  | endOfFile => "EOF"
  | stream fault => fault.message

/-- One thing that a source of lines gives.  After the last one comes the end of the input. -/
inductive SourceItem where
  | line (text : String)
  | fault (fault : ReadFault)
  deriving DecidableEq

/-- Why a command did not run, or a run ended. -/
inductive ShellError where
  | tokenize (error : TokenizeError)
  | parse (error : ParseError)
  | exec (error : ExecError)
  /-- The input ended inside a command. -/
  | unexpectedEnd
  | readline (fault : ReadFault)
  /-- The script could not be opened. -/
  | script (fault : StreamFault)
  deriving DecidableEq

/-- The wording of a shell error. -/
def ShellError.message : ShellError → String
  | tokenize error => error.message
  | parse error => error.message
  | exec error => error.message
  | unexpectedEnd => "unexpected end of input"
  | readline fault => "readline: " ++ fault.message
  | script fault => fault.message

/-! ## Reading one command -/

/-- What is done to the text of an incomplete command before the next line is added. -/
inductive Continuation where
  /-- The backslash at the end is dropped and the lines are joined. -/
  | joinEscaped
  /-- The line break is kept: it belongs to a quoted word, or a command is still to follow. -/
  | newline
  /-- The line break ends a command of an open scope. -/
  | newlineSequence
  deriving DecidableEq

/-- The text with which the next line is joined. -/
def Continuation.extend (continuation : Continuation) (text : String) : String :=
  match continuation with
  | joinEscaped => String.ofList text.toList.dropLast
  | newline => text ++ "\n"
  | newlineSequence => text ++ "\n;"

/-- The last token asks for a command: a connective or an opening parenthesis. -/
def Token.expectsCommand (token : Token) : Bool :=
  token.isConnective || token = .operator .openScope

/-- How the text goes on; none if it is complete. -/
def Lexed.continuation (lexed : Lexed) : Option Continuation :=
  if lexed.isComplete then none
  else if lexed.inEscape then some .joinEscaped
  else if lexed.inQuote then some .newline
  else if lexed.tokens.getLast?.any Token.expectsCommand then some .newline
  else some .newlineSequence

/-- What reading a command comes to. -/
inductive Reading where
  | command (text : String) (tokens : List Token)
  | endOfInput
  /-- The input ended inside a command. -/
  | unexpectedEnd
  | rejected (error : TokenizeError)
  | failed (fault : ReadFault)
  deriving DecidableEq

/-- How far a command under way has come. -/
inductive Progress where
  | finished (reading : Reading)
  /-- Another line is to be joined with this text. -/
  | unfinished (text : String)
  deriving DecidableEq

/-- How far a command has come when the source gives one more thing, or nothing any more.  `text` is
what there is of the command, of which a line has been read if `continued`. -/
def Progress.after (text : String) (continued : Bool) : Option SourceItem → Progress
  | none => .finished (if continued then .unexpectedEnd else .endOfInput)
  | some (.fault fault) => .finished (.failed fault)
  | some (.line line) =>
    let text := text ++ line
    match tokenize text with
    | .error error => .finished (.rejected error)
    | .ok lexed =>
      match lexed.continuation with
      | none => .finished (.command text lexed.tokens)
      | some continuation => .unfinished (continuation.extend text)

/-- A reading, and what the source still has. -/
structure CommandRead where
  reading : Reading
  rest : List SourceItem
  deriving DecidableEq

/-- Reads items onto `text` until they make a complete command. -/
def readCommandFrom (text : String) (continued : Bool) : List SourceItem → CommandRead
  | [] => ⟨if continued then .unexpectedEnd else .endOfInput, []⟩
  | item :: rest =>
    match Progress.after text continued (some item) with
    | .finished reading => ⟨reading, rest⟩
    | .unfinished text => readCommandFrom text true rest

/-- Reads the next command. -/
def readCommand (items : List SourceItem) : CommandRead := readCommandFrom "" false items

/-! ## The loop -/

/-- What a shell needs from the system around it. -/
class Host (m : Type → Type) where
  /-- Runs a command line. -/
  execute : Command → m (Except ExecError Outcome)
  /-- Collects the background children that have ended. -/
  reapChildren : m Nat
  /-- Tells the user why a command did not run. -/
  report : ShellError → m Unit
  /-- Reads one more line, after a prompt; none at the end of the input. -/
  readLine : (prompt : String) → m (Option SourceItem)
  loadHistory : m Unit
  addHistory : (text : String) → m Unit
  saveHistory : m Unit

/-- The settings of a read loop. -/
structure Shell where
  /-- The prompts are shown. -/
  interactive : Bool
  prompt : String
  continuationPrompt : String
  deriving DecidableEq

namespace Shell

variable {m : Type → Type} [Monad m] [Host m]

/-- The prompt for the first line of a command, or for a further one. -/
def promptFor (shell : Shell) (continued : Bool) : String :=
  if !shell.interactive then ""
  else if continued then shell.continuationPrompt
  else shell.prompt

/-- Reads lines onto `text` until they make a complete command.  No more than `limit` lines are
asked for; how many may still be is given with the reading. -/
def readFrom (shell : Shell) (text : String) (continued : Bool) : (limit : Nat) → m (Reading × Nat)
  | 0 => return (if continued then .unexpectedEnd else .endOfInput, 0)
  | limit + 1 => do
    let item ← Host.readLine (shell.promptFor continued)
    match Progress.after text continued item with
    | .finished reading => return (reading, limit)
    | .unfinished text => shell.readFrom text true limit

/-- Runs a complete command.  Gives the exit code if the shell is to stop. -/
def process (tokens : List Token) : m (Option Int) := do
  match parse tokens with
  | .error error =>
    Host.report (.parse error)
    return none
  | .ok none => return none
  | .ok (some command) =>
    match ← Host.execute command with
    | .error error =>
      Host.report (.exec error)
      return none
    | .ok (.completed _) => return none
    | .ok (.terminate code) => return some code

/-- What a shell does after reading a command. -/
inductive Next where
  | readOn
  | stop (result : Except ShellError Int)

/-- Does what a reading asks for. -/
def react : Reading → m Next
  | .command text tokens => do
    if !Text.isBlankText text then Host.addHistory text
    match ← process tokens with
    | some code => return .stop (.ok code)
    | none => return .readOn
  | .rejected error => do
    Host.report (.tokenize error)
    return .readOn
  | .failed .interrupted => return .readOn
  | .failed fault => return .stop (.error (.readline fault))
  | .unexpectedEnd => do
    Host.report .unexpectedEnd
    return .stop (.ok 1)
  | .endOfInput => return .stop (.ok 0)

/-- Reads and runs commands, at most `limit` of them, of at most `lines` lines. -/
def loop (shell : Shell) (lines : Nat) : (limit : Nat) → m (Except ShellError Int)
  | 0 => return .ok 0
  | limit + 1 => do
    let _ ← (Host.reapChildren : m Nat)
    let (reading, lines) ← shell.readFrom "" false lines
    match ← react reading with
    | .stop result => return result
    | .readOn => shell.loop lines limit

/-- Runs a shell on what its source gives, up to `limit` lines: the exit code, or the read error
that ended it.  A source with fewer lines than that is read to its end. -/
def run (shell : Shell) (limit : Nat) : m (Except ShellError Int) := do
  Host.loadHistory
  let result ← shell.loop limit limit
  Host.saveHistory
  return result

end Shell

end CommandShell
