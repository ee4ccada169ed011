import CommandShell.Machine.Program.Dumping
import CommandShell.Machine.Program.Listing
import CommandShell.Machine.Program.Starting
import CommandShell.Machine.SystemShell.Pattern
set_option autoImplicit false

/-!
# Looking for files

A search goes through directories and asks of each file what its expression says.  Parts of the
expression have an effect besides: they write the path, remove the file or start a program.
-/

namespace CommandShell.Machine.Program

variable {α : Type}

/-- How a number is compared. -/
inductive Comparison where
  | less
  | equal
  | more
  deriving DecidableEq

/-- Which permissions a file must have. -/
inductive ModeTest where
  | exactly (mode : Nat)
  | allOf (mode : Nat)
  | anyOf (mode : Nat)

/-- What a search asks of a file, or does with it. -/
inductive Criterion where
  | constant (answer : Bool)
  /-- The name, or the whole path, fits a pattern. -/
  | name (ignoreCase : Bool) (pattern : String)
  | path (ignoreCase : Bool) (pattern : String)
  | kind (kinds : List NodeKind)
  | empty
  /-- The size in units of so many bytes, rounded up. -/
  | size (comparison : Comparison) (number unit : Nat)
  | mode (test : ModeTest)
  | permits (access : Access)
  | print (ending : String)
  | prune
  | quit
  | delete
  | exec (words : List String)
  /-- The paths are gathered for the program at the end. -/
  | execAll (words : List String)
  | negation (inner : Criterion)
  | conjunction (first second : Criterion)
  | disjunction (first second : Criterion)
  /-- Both are asked, and the second one counts. -/
  | list (first second : Criterion)

namespace Criterion

/-- The criterion has an effect, so that the path is not written without being asked for. -/
def acts : Criterion → Bool
  | print _ | quit | delete | exec _ | execAll _ => true
  | negation inner => inner.acts
  | conjunction first second | disjunction first second | list first second =>
    first.acts || second.acts
  | _ => false

/-- Some file is removed, so that directories are looked at after what is in them. -/
def removes : Criterion → Bool
  | delete => true
  | negation inner => inner.removes
  | conjunction first second | disjunction first second | list first second =>
    first.removes || second.removes
  | _ => false

end Criterion

/-- What concerns a search as a whole. -/
structure FindRequest where
  name : String
  environment : Environment
  criterion : Criterion := .constant true
  maxDepth : Option Nat := none
  minDepth : Nat := 0
  depthFirst : Bool := false
  /-- Links are followed: everywhere, or where the search begins. -/
  follows : Bool := false
  followsFirst : Bool := false

/-- How far a search has come. -/
structure FindState where
  failed : Bool := false
  stopped : Bool := false
  pruned : Bool := false
  /-- The paths gathered for programs. -/
  gathered : List (List String × List String) := []

/-! ## Reading an expression -/

/-- Reading an expression: the words that are left, and what concerns the search as a whole. -/
abbrev FindReader := StateT (List String × FindRequest) (Except String)

namespace FindReader

/-- Refuses the expression. -/
def refuse (text : String) : FindReader α := throw text

/-- The next word, if there is one. -/
def peek : FindReader (Option String) := do return (← get).1.head?

/-- Passes over a word. -/
def skip : FindReader Unit := modify fun (words, request) => (words.drop 1, request)

/-- The word after a predicate that needs one. -/
def argument (predicate : String) : FindReader String := do
  match ← peek with
  | some word =>
    skip
    return word
  | none => refuse ("missing argument to \u0060" ++ predicate ++ "'")

/-- Changes what concerns the search as a whole. -/
def change (f : FindRequest → FindRequest) : FindReader Criterion := do
  modify fun (words, request) => (words, f request)
  return .constant true

/-- A number of levels. -/
def levels (predicate : String) : FindReader Nat := do
  let word ← argument predicate
  match natural? word with
  | some n => return n
  | none => refuse ("Expected a positive decimal integer argument to " ++ predicate
      ++ ", but got " ++ quotedWord word)

/-- The kinds of files that letters stand for. -/
def kinds (predicate : String) : FindReader Criterion := do
  let word ← argument predicate
  let kind (letter : String) : FindReader NodeKind :=
    match letter with
    | "f" => return .regular
    | "d" => return .directory
    | "l" => return .link
    | "p" => return .pipe
    | "c" => return .device
    | letter => refuse ("Unknown argument to " ++ predicate ++ ": " ++ letter)
  return .kind (← (word.splitOn ",").mapM kind)

/-- A size with its unit. -/
def size : FindReader Criterion := do
  let word ← argument "-size"
  let (comparison, body) : Comparison × List Char := match word.toList with
    | '+' :: rest => (.more, rest)
    | '-' :: rest => (.less, rest)
    | rest => (.equal, rest)
  let digits := body.takeWhile Char.isDigit
  let number := ((String.ofList digits).toNat?).getD 0
  let unit ← match body.drop digits.length with
    | [] | ['b'] => pure 512
    | ['c'] => pure 1
    | ['w'] => pure 2
    | ['k'] => pure 1024
    | ['M'] => pure 1048576
    | ['G'] => pure 1073741824
    | rest => refuse ("invalid -size type \u0060" ++ (rest.getLast?.getD ' ').toString ++ "'")
  return .size comparison number unit

/-- Permissions, in digits or by letters. -/
def permissions : FindReader Criterion := do
  let word ← argument "-perm"
  let (make, body) : (Nat → ModeTest) × String := match word.toList with
    | '-' :: rest => (.allOf, String.ofList rest)
    | '/' :: rest => (.anyOf, String.ofList rest)
    | _ => (.exactly, word)
  match ModeChange.read body with
  | some changes => return .mode (make (ModeChange.applyAll changes false 0 0))
  | none => refuse ("invalid mode " ++ quotedWord word)

/-- The words of a program's call, up to the mark that ends it. -/
def callWords (predicate : String) : (fuel : Nat) → (words : List String) → FindReader Criterion
  | 0, _ => refuse ("missing argument to \u0060" ++ predicate ++ "'")
  | fuel + 1, words => do
    let word ← argument predicate
    if word = ";" && !words.isEmpty then return .exec words.reverse
    else if word = "+" && words.head? = some "\x7b\x7d" && words.length > 1 then
      return .execAll (words.drop 1).reverse
    else callWords predicate fuel (word :: words)

/-- A predicate. -/
def predicate (word : String) : FindReader Criterion := do
  match word with
  | "-true" | "-noleaf" | "-mount" | "-xdev" | "-warn" | "-nowarn" => return .constant true
  | "-false" => return .constant false
  | "-name" => return .name false (← argument word)
  | "-iname" => return .name true (← argument word)
  | "-path" | "-wholename" => return .path false (← argument word)
  | "-ipath" | "-iwholename" => return .path true (← argument word)
  | "-type" => kinds word
  | "-empty" => return .empty
  | "-size" => size
  | "-perm" => permissions
  | "-readable" => return .permits .read
  | "-writable" => return .permits .write
  | "-executable" => return .permits .execute
  | "-print" => return .print "\n"
  | "-print0" => return .print "\u0000"
  | "-prune" => return .prune
  | "-quit" => return .quit
  | "-delete" => return .delete
  | "-exec" => callWords word ((← get).1.length + 1) []
  | "-maxdepth" =>
    let n ← levels word
    change fun request => { request with maxDepth := some n }
  | "-mindepth" =>
    let n ← levels word
    change fun request => { request with minDepth := n }
  | "-depth" | "-d" => change fun request => { request with depthFirst := true }
  | "-follow" => change fun request => { request with follows := true }
  | word => refuse ("unknown predicate \u0060" ++ word ++ "'")

/-- The words that stand between two expressions. -/
def connectives : List String := ["-a", "-and", "-o", "-or", ","]

/-- An expression must follow a word. -/
def expectAfter (word : String) : FindReader Unit := do
  match ← peek with
  | none | some ")" => refuse ("expected an expression after " ++ quotedWord word)
  | some _ => return

/-- A predicate, what is in parentheses, or the negation of one of these. -/
def primary (inner : FindReader Criterion) : (fuel : Nat) → FindReader Criterion
  | 0 => refuse "expression is too long"
  | fuel + 1 => do
    match ← peek with
    | none => refuse "expected an expression"
    | some word =>
      if connectives.contains word then
        refuse ("invalid expression; you have used a binary operator " ++ quotedWord word
          ++ " with nothing before it.")
      skip
      if word = "!" || word = "-not" then
        expectAfter word
        return .negation (← primary inner fuel)
      else if word = "(" then
        if (← peek) = some ")" then
          refuse "invalid expression; empty parentheses are not allowed."
        let missing := "invalid expression; expected to find a ')' but didn't see one. "
          ++ "Perhaps you need an extra predicate after '('"
        if (← peek).isNone then refuse missing
        let criterion ← inner
        if (← peek) ≠ some ")" then refuse missing
        skip
        return criterion
      else if word = ")" then
        refuse "invalid expression; you have too many ')'"
      else if word.startsWith "-" then predicate word
      else
        refuse ("paths must precede expression: \u0060" ++ word ++ "'")

/-- Expressions that must all hold, after the first of them. -/
def conjunctionFrom (operand : FindReader Criterion) :
    (fuel : Nat) → Criterion → FindReader Criterion
  | 0, first => return first
  | fuel + 1, first => do
    match ← peek with
    | none | some ")" | some "-o" | some "-or" | some "," => return first
    | some word =>
      if word = "-a" || word = "-and" then
        skip
        expectAfter word
      let second ← operand
      conjunctionFrom operand fuel (.conjunction first second)

/-- Expressions of which one must hold, after the first of them. -/
def disjunctionFrom (operand : FindReader Criterion) :
    (fuel : Nat) → Criterion → FindReader Criterion
  | 0, first => return first
  | fuel + 1, first => do
    match ← peek with
    | some "-o" | some "-or" =>
      expectAfterConnective
      let second ← operand
      disjunctionFrom operand fuel (.disjunction first second)
    | _ => return first
where
  /-- Passes over a connective that an expression must follow. -/
  expectAfterConnective : FindReader Unit := do
    let word := (← peek).getD ""
    skip
    expectAfter word

/-- Expressions of which the last one counts, after the first of them. -/
def listFrom (operand : FindReader Criterion) : (fuel : Nat) → Criterion → FindReader Criterion
  | 0, first => return first
  | fuel + 1, first => do
    match ← peek with
    | some "," =>
      skip
      expectAfter ","
      let second ← operand
      listFrom operand fuel (.list first second)
    | _ => return first

/-- An expression in which parentheses nest no deeper than that. -/
def expression : (depth : Nat) → FindReader Criterion
  | 0 => refuse "expression is too long"
  | depth + 1 => do
    let fuel := (← get).1.length + 1
    let conjunction : FindReader Criterion := do
      let operand := primary (expression depth) fuel
      conjunctionFrom operand fuel (← operand)
    let disjunction : FindReader Criterion := do
      disjunctionFrom conjunction fuel (← conjunction)
    listFrom disjunction fuel (← disjunction)

end FindReader

/-- The word begins an expression. -/
def beginsExpression (word : String) : Bool :=
  (word.startsWith "-" && word ≠ "-") || word = "(" || word = "!"

/-- Understands an expression. -/
def FindRequest.read (request : FindRequest) (words : List String) :
    Except String FindRequest := do
  if words.isEmpty then return { request with criterion := .print "\n" }
  let (criterion, words, request) ←
    (FindReader.expression (words.length + 1)).run (words, request)
  if !words.isEmpty then throw "invalid expression; you have too many ')'"
  let criterion := if criterion.acts then criterion else .conjunction criterion (.print "\n")
  return { request with
    criterion, depthFirst := request.depthFirst || criterion.removes }

/-! ## The search -/

/-- A computation of a search. -/
abbrev Finding := StateT FindState Routine

namespace Finding

/-- Makes a call of the system. -/
def call (c : Call) : Finding c.Reply := liftM (perform c)

/-- Complains; the search goes on. -/
def fail (request : FindRequest) (text : String) : Finding Unit := do
  liftM (complain request.name text)
  modify fun s => { s with failed := true }

/-- A pattern fits a text. -/
def fits (ignoreCase : Bool) (pattern text : String) : Bool :=
  let fold (bytes : List UInt8) : List UInt8 := if ignoreCase then bytes.map toLower else bytes
  let rec glyphs : List UInt8 → List SystemShell.Glyph
    | 0x5C :: byte :: rest => ⟨byte, true⟩ :: glyphs rest
    | byte :: rest => ⟨byte, false⟩ :: glyphs rest
    | [] => []
  SystemShell.patternFits (glyphs (fold (Text.toBytes pattern).toList))
    (fold (Text.toBytes text).toList)

/-- A number compares as asked. -/
def compares (comparison : Comparison) (n number : Nat) : Bool :=
  match comparison with
  | .less => n < number
  | .equal => n = number
  | .more => n > number

/-- The file has nothing in it. -/
def isEmpty (path : String) (info : NodeInfo) : Finding Bool := do
  match info.kind with
  | .regular => return info.size = 0
  | .directory =>
    match ← call (.entries path) with
    | .ok entries => return entries.isEmpty
    | .error _ => return false
  | _ => return false

/-- Removes a file. -/
def delete (request : FindRequest) (path : String) (info : NodeInfo) : Finding Bool := do
  if path = "." then return true
  let result ← if info.kind = .directory then call (.removeDirectory path) else call (.remove path)
  match result with
  | .ok () => return true
  | .error errno =>
    fail request ("cannot delete " ++ quotedWord path ++ ": " ++ errno.description)
    return false

/-- Runs a program. -/
def start (request : FindRequest) (words : List String) : Finding Bool := do
  let complaint (program : String) (errno : Errno) : Routine Unit :=
    complain request.name (quotedWord program ++ ": " ++ errno.description)
  match ← liftM (runChild complaint request.environment false words) with
  | .ended (.exited 0) => return true
  | .ended _ => return false
  | .refused errno =>
    fail request ("cannot fork: " ++ errno.description)
    return false

/-- Asks a criterion of a file. -/
def ask (request : FindRequest) (path : String) (info : NodeInfo) : Criterion → Finding Bool
  | .constant answer => return answer
  | .name ignoreCase pattern =>
    return fits ignoreCase pattern (Path.lastName path)
  | .path ignoreCase pattern => return fits ignoreCase pattern path
  | .kind kinds => return kinds.contains info.kind
  | .empty => isEmpty path info
  | .size comparison number unit =>
    return compares comparison ((info.size + unit - 1) / unit) number
  | .mode test =>
    match test with
    | .exactly mode => return info.mode = mode
    | .allOf mode => return info.mode &&& mode = mode
    | .anyOf mode => return mode = 0 || info.mode &&& mode ≠ 0
  | .permits access => return info.permits access
  | .print ending => do
    liftM (putText request.name (path ++ ending))
    return true
  | .prune => do
    modify fun s => { s with pruned := true }
    return true
  | .quit => do
    modify fun s => { s with stopped := true }
    return true
  | .delete => delete request path info
  | .exec words => start request (words.map fun word => word.replace "\x7b\x7d" path)
  | .execAll words => do
    modify fun s =>
      let paths := (s.gathered.lookup words).getD []
      { s with gathered := (words, path :: paths) :: s.gathered.filter (·.1 ≠ words) }
    return true
  | .negation inner => return !(← ask request path info inner)
  | .conjunction first second => do
    if ← ask request path info first then
      if (← get).stopped then return true
      ask request path info second
    else return false
  | .disjunction first second => do
    if ← ask request path info first then return true
    ask request path info second
  | .list first second => do
    let _ ← ask request path info first
    ask request path info second

/-- Looks at the files from a path on, which has been reached by so many steps. -/
def visit (request : FindRequest) : (fuel : Nat) → (depth : Nat) → (path : String) → Finding Unit
  | 0, _, _ => return
  | fuel + 1, depth, path => do
    if (← get).stopped then return
    let follows := request.follows || (depth = 0 && request.followsFirst)
    let info ← do
      match ← call (.stat path follows) with
      | .error .noEntry => if follows then call (.stat path false) else pure (.error .noEntry)
      | reply => pure reply
    match info with
    | .error errno => fail request (quotedWord path ++ ": " ++ errno.description)
    | .ok info =>
      modify fun s => { s with pruned := false }
      let isAsked := depth ≥ request.minDepth
      if isAsked && !request.depthFirst then
        let _ ← ask request path info request.criterion
      let s ← get
      let descends := info.kind = .directory && !s.stopped
        && !(s.pruned && !request.depthFirst) && !request.maxDepth.any (depth ≥ ·)
      if descends then
        match ← call (.entries path) with
        | .error errno => fail request (quotedWord path ++ ": " ++ errno.description)
        | .ok entries =>
          for entry in entries.map Prod.fst do
            visit request fuel (depth + 1) (below path entry)
      if isAsked && request.depthFirst && !(← get).stopped then
        let _ ← ask request path info request.criterion

/-- Runs the programs for which paths were gathered. -/
def runGathered (request : FindRequest) : List (List String × List String) → Finding Unit
  | [] => return
  | (words, paths) :: rest => do
    if !(← start request (words ++ paths.reverse)) then
      modify fun s => { s with failed := true }
    runGathered request rest

/-- Looks at the files from several paths on. -/
def visitAll (request : FindRequest) : List String → Finding Unit
  | [] => return
  | path :: rest => do
    visit request maxDepth 0 path
    visitAll request rest

end Finding

/-- Looks for files. -/
def find : Program := fun image => do
  let name := image.name
  let flags := image.words.takeWhile fun word => ["-H", "-L", "-P"].contains word
  let words := image.words.drop flags.length
  let paths := words.takeWhile fun word => !beginsExpression word
  let request : FindRequest :=
    { name, environment := image.environment
      follows := flags.getLast? = some "-L", followsFirst := flags.getLast? = some "-H" }
  match request.read (words.drop paths.length) with
  | .error text =>
    complain name text
    return 1
  | .ok request =>
    let search : Finding Unit := do
      Finding.visitAll request (if paths.isEmpty then ["."] else paths)
      Finding.runGathered request (← get).gathered.reverse
    let ((), state) ← search.run {}
    return codeOf !state.failed

/-! ## What is known about a file -/

/-- What a letter of a format asks about a file. -/
def aboutFile (path : String) (info : NodeInfo) (target : Option String) : Char → String
  | 'a' => digitsOf 8 info.mode
  | 'A' => kindLetter info.kind ++ modeLetters info.mode
  | 'f' => digitsOf 16 (info.mode + kindBits info.kind)
  | 'F' => kindName info
  | 'n' => path
  | 'N' => quotedAlways path ++ ((target.map fun target => " -> " ++ quotedAlways target).getD "")
  | 's' => toString info.size
  | 'i' => toString info.id
  | '%' => "%"
  | _ => "?"
where
  /-- The bits that tell a kind of file. -/
  kindBits : NodeKind → Nat
    | .regular => 0o100000
    | .directory => 0o040000
    | .link => 0o120000
    | .device => 0o020000
    | .pipe => 0o010000

/-- A text in a field of a format: to the left or to the right, with blanks or zeros. -/
def inField (flags : List Char) (width : Nat) (text : String) : String :=
  let room := List.replicate (width - text.length) ' '
  if flags.contains '-' then text ++ String.ofList room
  else if flags.contains '0' then padWith '0' width text
  else padWith ' ' width text

/-- A format filled in for a file; `escapes` are understood if asked for. -/
def fillFormat (about : Char → String) (escapes : Bool) : (fuel : Nat) → List Char → String
  | 0, _ => ""
  | _, [] => ""
  | fuel + 1, '%' :: rest =>
    let flags := rest.takeWhile fun c => "-0# +'".contains c
    let rest := rest.drop flags.length
    let digits := rest.takeWhile Char.isDigit
    match rest.drop digits.length with
    | [] => "%"
    | letter :: rest =>
      inField flags (((String.ofList digits).toNat?).getD 0) (about letter)
        ++ fillFormat about escapes fuel rest
  | fuel + 1, '\\' :: c :: rest =>
    if !escapes then "\\" ++ fillFormat about escapes fuel (c :: rest)
    else
      let meant := match c with
        | 'n' => "\n"
        | 't' => "\t"
        | '\\' => "\\"
        | c => "\\" ++ c.toString
      meant ++ fillFormat about escapes fuel rest
  | fuel + 1, c :: rest => c.toString ++ fillFormat about escapes fuel rest

/-- The options of `stat`. -/
def statOptions : OptionTable :=
  { letters := OptionTable.flags "L" ++ OptionTable.valued "c"
    words := [("dereference", .none, 'L'), ("format", .required, 'c'),
      ("printf", .required, 'p')] }

/-- Tells about files, in a format. -/
def stat : Program := fun image => do
  let name := image.name
  let parsed ← options statOptions name image.words
  if parsed.operands.isEmpty then missingOperand name
  let (format, escapes) : String × Bool := match parsed.value? 'p', parsed.value? 'c' with
    | some format, _ => (format, true)
    | none, some format => (format, false)
    | none, none => ("  File: %N\n  Size: %-10s\t%F", false)
  let one (path : String) : Routine Bool := do
    match ← perform (.stat path (parsed.has 'L')) with
    | .error errno =>
      complain name ("cannot statx " ++ quotedAlways path ++ ": " ++ errno.description)
      return false
    | .ok info =>
      let target ← if info.kind = .link then pure (← perform (.readLink path)).toOption
        else pure none
      let text := fillFormat (aboutFile path info target) escapes (format.length + 1)
        format.toList
      putText name (text ++ (if escapes then "" else "\n"))
      return true
  return codeOf (← allOf one parsed.operands)

end CommandShell.Machine.Program
