import CommandShell.Machine.Program.Filing
import CommandShell.Machine.Regex
set_option autoImplicit false

/-!
# Searching files for lines

The lines that match a pattern are written as they are met, or counted, or only asked for.
-/

namespace CommandShell.Machine.Program

open Regex (Expr Subject)

/-- What is written of a file that is searched. -/
inductive GrepReport where
  | lines
  | count
  /-- The name, if a line is selected. -/
  | nameIfAny
  /-- The name, if no line is selected. -/
  | nameIfNone
  | nothing
  deriving DecidableEq

/-- What `grep` is asked for. -/
structure GrepRequest where
  name : String
  patterns : List Expr
  /-- The case of letters does not matter. -/
  ignoreCase : Bool
  /-- Lines without a match are selected. -/
  inverted : Bool
  /-- A match must be the whole line, or a whole word. -/
  wholeLine : Bool
  wholeWord : Bool
  report : GrepReport
  /-- Only the matches are written. -/
  onlyMatches : Bool
  numbers : Bool
  /-- At most so many lines are selected in a file. -/
  limit : Option Nat
  /-- How many lines are written before and after a selected one. -/
  before : Nat
  after : Nat
  /-- Lines of a file that is no text are written as well. -/
  binaryAsText : Bool
  /-- No complaint about files that cannot be read. -/
  silent : Bool
  /-- The byte that ends a line. -/
  ending : UInt8

namespace GrepRequest

/-- The ends of the matches of a pattern that begin at a position and may count. -/
def ends (request : GrepRequest) (subject : Subject) (start : Nat) (pattern : Expr) : List Nat :=
  let finishes := (pattern.paths subject ⟨start, []⟩).map (·.position)
  finishes.filter fun finish =>
    (!request.wholeLine || (start = 0 && finish = subject.bytes.size))
      && (!request.wholeWord
        || (!subject.isWordBefore start && !subject.isWordAt finish))

/-- The longest match from a position on, among so many positions. -/
def matchFrom (request : GrepRequest) (subject : Subject) :
    (count start : Nat) → Option (Nat × Nat)
  | 0, _ => none
  | count + 1, start =>
    match (request.patterns.flatMap (request.ends subject start)).max? with
    | some finish => some (start, finish)
    | none => request.matchFrom subject count (start + 1)

/-- The first match from a position on. -/
def search (request : GrepRequest) (subject : Subject) (start : Nat) : Option (Nat × Nat) :=
  request.matchFrom subject (subject.bytes.size + 1 - start) start

/-- The matches on a line that are not empty, from a position on. -/
def matchesFrom (request : GrepRequest) (subject : Subject) :
    (fuel : Nat) → (start : Nat) → List (List UInt8)
  | 0, _ => []
  | fuel + 1, start =>
    match request.search subject start with
    | none => []
    | some (start, finish) =>
      if finish = start then request.matchesFrom subject fuel (start + 1)
      else
        (subject.bytes.extract start finish).toList :: request.matchesFrom subject fuel finish

/-- A line as the patterns see it. -/
def subject (request : GrepRequest) (line : List UInt8) : Subject :=
  { bytes := line.toArray, ignoreCase := request.ignoreCase }

/-- The line is selected. -/
def selects (request : GrepRequest) (line : List UInt8) : Bool :=
  (request.search (request.subject line) 0).isSome != request.inverted

end GrepRequest

/-- How far the search of a file has come. -/
structure GrepState where
  line : Nat := 0
  selected : Nat := 0
  /-- The lines before, the last one first, that have not been written. -/
  held : List (List UInt8) := []
  /-- How many lines are still to be written after a selected one. -/
  owed : Nat := 0
  /-- The number of the last line written. -/
  written : Option Nat := none
  isBinary : Bool := false
  /-- Nothing more is to be read. -/
  stopped : Bool := false

namespace GrepRequest

/-- A line as it is written; `mark` stands between its title and its text. -/
def writtenLine (request : GrepRequest) (title : Option String) (mark : String) (number : Nat)
    (line : List UInt8) : List UInt8 :=
  let head := (title.map fun title => title ++ mark).getD ""
    ++ (if request.numbers then toString number ++ mark else "")
  (Text.toBytes head).toList ++ line ++ [request.ending]

/-- Lines around a selected one stand between marks of their own where lines are left out. -/
def separator (request : GrepRequest) (state : GrepState) (first : Nat) : List UInt8 :=
  if request.before + request.after = 0 then []
  else
    match state.written with
    | some last => if last + 1 < first then "--\n".toUTF8.toList else []
    | none => []

/-- What a selected line adds to the output. -/
def selectedText (request : GrepRequest) (title : Option String) (state : GrepState)
    (line : List UInt8) : List UInt8 :=
  let write := request.writtenLine title
  if request.onlyMatches then
    if request.inverted then []
    else
      (request.matchesFrom (request.subject line) (line.length + 2) 0).flatMap
        (write ":" state.line)
  else
    let held := state.held.reverse
    let first := state.line - held.length
    request.separator state first
      ++ (held.zipIdx first).flatMap (fun (line, number) => write "-" number line)
      ++ write ":" state.line line

/-- What one more line adds to the output. -/
def step (request : GrepRequest) (title : Option String) (state : GrepState)
    (line : List UInt8) : List UInt8 × GrepState :=
  let state := { state with line := state.line + 1 }
  let hold (state : GrepState) : GrepState :=
    { state with held := (line :: state.held).take request.before }
  if state.stopped then ([], state)
  else if request.limit.any fun limit => limit ≤ state.selected then
    if state.owed = 0 then ([], { state with stopped := true })
    else (request.writtenLine title "-" state.line line, { state with owed := state.owed - 1 })
  else if request.selects line then
    let state := { state with selected := state.selected + 1 }
    match request.report with
    | .lines =>
      if state.isBinary && !request.binaryAsText then ([], { state with stopped := true })
      else
        (request.selectedText title state line,
          { state with held := [], owed := request.after, written := some state.line })
    | .count => ([], state)
    | _ => ([], { state with stopped := true })
  else if state.owed > 0 && request.report = .lines && !request.onlyMatches then
    (request.writtenLine title "-" state.line line,
      { state with owed := state.owed - 1, written := some state.line })
  else ([], hold state)

/-- What several lines add to the output. -/
def steps (request : GrepRequest) (title : Option String) (state : GrepState)
    (lines : List (List UInt8)) : ByteArray × GrepState :=
  let (pieces, state) := lines.foldl (fun (pieces, state) line =>
    let (piece, state) := request.step title state line
    (piece :: pieces, state)) (([] : List (List UInt8)), state)
  (pack pieces.reverse.flatten, state)

/-- Searches an open file; `rest` is the beginning of a line that has been read. -/
def searchOpen (request : GrepRequest) (title : Option String) (descriptor : Descriptor) :
    (fuel : Nat) → (rest : List UInt8) → GrepState → Routine (Except Errno GrepState)
  | 0, _, state => return .ok state
  | fuel + 1, rest, state => do
    match ← perform (.read descriptor blockSize) with
    | .error errno => return .error errno
    | .ok bytes =>
      let state := { state with
        isBinary := state.isBinary || (request.ending ≠ 0 && bytes.toList.contains 0) }
      if bytes.isEmpty then
        let (output, state) := request.steps title state (if rest.isEmpty then [] else [rest])
        put request.name output 2
        return .ok state
      let all := rest ++ bytes.toList
      let rest := (all.reverse.takeWhile (· ≠ request.ending)).reverse
      let lines := linesOf (pack (all.take (all.length - rest.length))) request.ending
      let (output, state) := request.steps title state lines
      put request.name output 2
      if state.stopped then return .ok state
      searchOpen request title descriptor fuel rest state

end GrepRequest

/-- What the search of files comes to. -/
structure GrepResult where
  found : Bool := false
  failed : Bool := false

/-- Both results together. -/
def GrepResult.and (a b : GrepResult) : GrepResult := ⟨a.found || b.found, a.failed || b.failed⟩

/-- Searches an open file and writes what is asked for about it. -/
def grepOpen (request : GrepRequest) (titled : Bool) (file : String) (descriptor : Descriptor) :
    Routine GrepResult := do
  let label := if file = "-" then "(standard input)" else file
  let title := if titled then some label else none
  if request.limit = some 0 then return {}
  if request.report = .lines || request.report = .count then
    if let .ok (output, some _) ← perform (.describe standardOutput) then
      if let .ok (input, some _) ← perform (.describe descriptor) then
        if output.id = input.id then
          complain request.name (label ++ ": input file is also the output")
          return { failed := true }
  match ← request.searchOpen title descriptor budget [] {} with
  | .error errno =>
    if !request.silent then complain request.name (label ++ ": " ++ errno.description)
    return { failed := true }
  | .ok state =>
    let found := state.selected > 0
    let named := titled || request.report = .nameIfAny || request.report = .nameIfNone
    let head := if named then label else ""
    match request.report with
    | .count =>
      putText request.name ((if titled then head ++ ":" else "") ++ toString state.selected ++ "\n")
    | .nameIfAny => if found then putText request.name (head ++ "\n")
    | .nameIfNone => if !found then putText request.name (head ++ "\n")
    | .lines =>
      if state.isBinary && !request.binaryAsText && found then
        putText request.name (request.name ++ ": " ++ label ++ ": binary file matches\n")
    | .nothing => if found then quit 0
    return { found }

/-- Searches what is at a path, with the files below it if that is asked for. -/
def grepPath (request : GrepRequest) (titled recursive : Bool) :
    (fuel : Nat) → (path : String) → Routine GrepResult
  | 0, _ => return {}
  | fuel + 1, path => do
    let refuse (errno : Errno) : Routine GrepResult := do
      if !request.silent then complain request.name (path ++ ": " ++ errno.description)
      return { failed := true }
    if path = "-" then return ← grepOpen request titled path standardInput
    let isDirectory := (← kindAt path).toOption = some .directory
    if recursive && isDirectory then
      match ← perform (.entries path) with
      | .error errno => refuse errno
      | .ok entries =>
        let kept := entries.filter (·.2 ≠ .link)
        let names := (kept.map Prod.fst).mergeSort fun a b => a ≤ b
        names.foldlM (fun result name => do
          let path := if path = "." then name else below path name
          return result.and (← grepPath request titled recursive fuel path)) {}
    else
      match ← perform (.openFile path .input) with
      | .error errno => refuse errno
      | .ok descriptor =>
        let result ← grepOpen request titled path descriptor
        let _ ← perform (.close descriptor)
        return result

/-- The options of `grep`. -/
def grepOptions : OptionTable :=
  { letters := OptionTable.flags "EFGPiyvwxclLqsonHhrRaIUzZbTu0123456789"
      ++ OptionTable.valued "efmABCdD"
    words := [("extended-regexp", .none, 'E'), ("fixed-strings", .none, 'F'),
      ("basic-regexp", .none, 'G'), ("perl-regexp", .none, 'P'), ("regexp", .required, 'e'),
      ("file", .required, 'f'), ("ignore-case", .none, 'i'), ("invert-match", .none, 'v'),
      ("word-regexp", .none, 'w'), ("line-regexp", .none, 'x'), ("count", .none, 'c'),
      ("files-with-matches", .none, 'l'), ("files-without-match", .none, 'L'),
      ("quiet", .none, 'q'), ("silent", .none, 'q'), ("no-messages", .none, 's'),
      ("only-matching", .none, 'o'), ("max-count", .required, 'm'), ("line-number", .none, 'n'),
      ("with-filename", .none, 'H'), ("no-filename", .none, 'h'), ("recursive", .none, 'r'),
      ("text", .none, 'a'), ("null-data", .none, 'z'), ("after-context", .required, 'A'),
      ("before-context", .required, 'B'), ("context", .required, 'C'),
      ("color", .optional, '#'), ("colour", .optional, '#')] }

/-- The complaint about arguments that are not understood. -/
def grepUsage {α : Type} (name : String) (text : Option String) : Routine α := do
  if let some text := text then complain name text
  let _ ← perform (.write standardError (Text.toBytes
    ("Usage: " ++ name ++ " [OPTION]... PATTERNS [FILE]...\nTry '" ++ name
      ++ " --help' for more information.\n")))
  quit 2

/-- A list in brackets that was meant as the name of a class. -/
def isBareClass (bytes : List UInt8) : Bool :=
  match bytes with
  | 0x5B :: 0x3A :: rest => rest.reverse.take 2 = [0x5D, 0x3A]
  | _ => false

/-- Understands a pattern. -/
def readPattern (parsed : Parsed) (kind : Char) (bytes : List UInt8) : Except String Expr := do
  let expr ←
    if kind = 'F' then pure (Regex.literal bytes)
    else if isBareClass bytes then
      throw "character class syntax is [[:space:]], not [:space:]"
    else
      match Regex.read (kind ≠ 'G') bytes with
      | .ok expr => pure expr
      | .error .openBracket => throw "Invalid regular expression"
      | .error fault => throw fault.message
  return if parsed.has 'i' || parsed.has 'y' then expr.ignoreCase else expr

/-- The number of lines of context that the options ask for. -/
def contextOf (name : String) (parsed : Parsed) (letter : Char) : Routine Nat := do
  let digits := (parsed.options.map Prod.fst).filter Char.isDigit
  let usual := ((String.ofList digits).toNat?).getD 0
  match (parsed.value? letter) <|> (parsed.value? 'C') with
  | none => return usual
  | some word =>
    match natural? word with
    | some n => return n
    | none =>
      complain name (word ++ ": invalid context length argument")
      quit 2

/-- The patterns in a file, as one text. -/
def patternsIn (name file : String) : Routine (List UInt8) := do
  match ← readFile file with
  | .ok bytes => return if bytes.toList.getLast? = some lineFeed then bytes.toList.dropLast
      else bytes.toList
  | .error errno =>
    complain name (file ++ ": " ++ errno.description)
    quit 2

/-- Searches files; `kind` is how patterns are understood if the options do not say. -/
def grepWith (kind : Char) : Program := fun image => do
  let name := image.name
  let parsed ←
    match grepOptions.parse image.words with
    | .ok parsed => pure parsed
    | .error fault => grepUsage name (some fault.message)
  let given := (parsed.values 'e').map fun text => (Text.toBytes text).toList
  let inFiles ← (parsed.values 'f').mapM (patternsIn name)
  let isGiven := parsed.has 'e' || parsed.has 'f'
  let (texts, files) ←
    match isGiven, parsed.operands with
    | true, files => pure (given ++ inFiles, files)
    | false, [] => grepUsage name none
    | false, pattern :: files => pure ([(Text.toBytes pattern).toList], files)
  let kind := (parsed.last? "EFGP").getD kind
  let lines := texts.flatMap fun text =>
    if text.isEmpty then [[]]
    else linesOf (pack (text ++ [lineFeed]))
  let mut patterns := #[]
  for line in lines do
    if let some c := line.head?.map asciiChar then
      if kind = 'E' && "*+?".contains c then
        complain name ("warning: " ++ c.toString ++ " at start of expression")
    match readPattern parsed kind line with
    | .ok pattern => patterns := patterns.push pattern
    | .error message =>
      complain name message
      return 2
  let limit ←
    match parsed.value? 'm' with
    | none => pure none
    | some word =>
      match integer? word with
      | some n => pure (if n < 0 then none else some n.toNat)
      | none =>
        complain name "invalid max count"
        return 2
  let report : GrepReport :=
    if parsed.has 'q' then .nothing
    else
      match parsed.last? "lL" with
      | some 'l' => .nameIfAny
      | some _ => .nameIfNone
      | none => if parsed.has 'c' then .count else .lines
  let request : GrepRequest :=
    { name, patterns := patterns.toList, ignoreCase := parsed.has 'i' || parsed.has 'y'
      inverted := parsed.has 'v', wholeLine := parsed.has 'x'
      wholeWord := parsed.has 'w', report, onlyMatches := parsed.has 'o'
      numbers := parsed.has 'n', limit, before := ← contextOf name parsed 'B'
      after := ← contextOf name parsed 'A', binaryAsText := parsed.has 'a', silent := parsed.has 's'
      ending := if parsed.has 'z' then 0 else lineFeed }
  let recursive := parsed.has 'r' || parsed.has 'R'
  let files := match files with
    | [] => [if recursive then "." else "-"]
    | files => files
  let titled := match parsed.last? "Hh" with
    | some 'H' => true
    | some _ => false
    | none => files.length > 1 || recursive
  let result ← files.foldlM (fun (result : GrepResult) file => do
    return result.and (← grepPath request titled recursive maxDepth file)) {}
  return if result.failed then 2 else codeOf result.found

/-- Searches files for basic patterns. -/
def grep : Program := grepWith 'G'

/-- Searches files for extended patterns. -/
def egrep : Program := grepWith 'E'

/-- Searches files for texts. -/
def fgrep : Program := grepWith 'F'

end CommandShell.Machine.Program
