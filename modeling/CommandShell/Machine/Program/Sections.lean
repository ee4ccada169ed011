import CommandShell.Machine.Program.Splitting
import CommandShell.Machine.Regex
set_option autoImplicit false

/-!
# Sections of a file

A file is cut into sections where it is told: before lines with a number, or before lines that a
pattern fits.  Each section goes to a file of its own, and its size is told.
-/

namespace CommandShell.Machine.Program

/-! ## Where a file is cut -/

/-- Where a section ends. -/
inductive SectionEnd where
  /-- Before the line with a number, or one with a multiple of it. -/
  | line (number : Nat)
  /-- So many lines after a line that a pattern fits; the section may be left out. -/
  | pattern (expr : Regex.Expr) (offset : Int) (isLeftOut : Bool)

/-- A rule for the end of a section, which may be used again. -/
structure SectionRule where
  ends : SectionEnd
  /-- How it is written. -/
  source : String
  /-- How often it is used again; none for as often as possible. -/
  again : Option Nat := some 0

/-- What `csplit` is asked for. -/
structure SectionRequest where
  name : String
  front : String := "xx"
  /-- How the number of a section is written. -/
  suffix : Nat → String
  keepsFiles : Bool := false
  leavesOutEmpty : Bool := false
  /-- Sizes are not told. -/
  isQuiet : Bool := false
  /-- The lines before which the file is cut are left out. -/
  dropsMatched : Bool := false

/-! ## Cutting -/

/-- A file that is being cut. -/
structure SectionState where
  /-- The lines that have not been used up. -/
  rest : List Line
  /-- How many lines have been used up. -/
  usedUp : Nat := 0
  /-- The line that has been looked at last. -/
  current : Nat := 0
  /-- The section that is being written, its last line first. -/
  pending? : Option (List Line) := none
  /-- The files that have been written, the last one first. -/
  files : List String := []

/-- Cuts a file. -/
abbrev Sectioning := StateT SectionState Routine

namespace Sectioning

/-- Does something that a routine does. -/
def lift {α : Type} (routine : Routine α) : Sectioning α := liftM routine

/-- Writes the section, and tells its size. -/
def close (request : SectionRequest) : Sectioning Unit := do
  let state ← get
  if let some lines := state.pending? then
    set { state with pending? := none }
    let bytes := pack lines.reverse.flatten
    if bytes.isEmpty && request.leavesOutEmpty then return
    let file := request.front ++ request.suffix state.files.length
    match ← lift (perform (.openFile file .output)) with
    | .error errno =>
      lift (complainOfFile request.name file errno)
      lift (quit 1)
    | .ok descriptor =>
      let _ ← lift (perform (.write descriptor bytes))
      let _ ← lift (perform (.close descriptor))
      modify fun state => { state with files := file :: state.files }
      if !request.isQuiet then lift (putText request.name (toString bytes.size ++ "\n"))

/-- Complains, and takes back the files that have been written. -/
def giveUp {α : Type} (request : SectionRequest) (text : String) : Sectioning α := do
  lift (complain request.name text)
  close request
  if !request.keepsFiles then
    for file in (← get).files do
      let _ ← lift (perform (.remove file))
  lift (quit 1)

/-- Begins a section. -/
def start : Sectioning Unit := modify fun state => { state with pending? := some [] }

/-- Uses up a line; it goes to the section unless it is left out. -/
def take (isKept : Bool) : Sectioning Bool := do
  let state ← get
  match state.rest with
  | [] => return false
  | line :: rest =>
    set { state with
      rest, usedUp := state.usedUp + 1, current := max state.current (state.usedUp + 1)
      pending? := if isKept then state.pending?.map (line :: ·) else state.pending? }
    return true

/-- Uses up all lines that are left. -/
def takeRest : Sectioning Unit :=
  modify fun state => { state with
    rest := [], usedUp := state.usedUp + state.rest.length
    pending? := state.pending?.map (state.rest.reverse ++ ·) }

/-- How the use of a rule is named in a complaint. -/
def onRepetition (count : Nat) : String :=
  if count = 0 then "" else " on repetition " ++ toString count

/-- Uses up lines before the one with a number. -/
def takeUpTo (request : SectionRequest) (isKept : Bool) (complaint : String) (stop : Nat) :
    (fuel : Nat) → Sectioning Unit
  | 0 => return
  | fuel + 1 => do
    if (← get).usedUp + 1 < stop then
      if ← take isKept then takeUpTo request isKept complaint stop fuel
      else giveUp request complaint

/-- A section up to a line with a number. -/
def upToLine (request : SectionRequest) (rule : SectionRule) (number count : Nat) :
    Sectioning Unit := do
  start
  let complaint := quotedWord rule.source ++ ": line number out of range" ++ onRepetition count
  let stop := number * (count + 1)
  if (← get).rest.isEmpty then
    if request.dropsMatched then giveUp request complaint
    close { request with isQuiet := true }
    lift (complain request.name "input disappeared")
    lift (quit 1)
  takeUpTo request true complaint stop (stop + 1)
  close request
  if request.dropsMatched then
    let _ ← take false
  else if (← get).rest.isEmpty then giveUp request complaint

/-- A pattern fits a line. -/
def fits (expr : Regex.Expr) (line : Line) : Bool :=
  let body := if line.getLast? = some lineFeed then line.dropLast else line
  (expr.search { bytes := body.toArray }).isSome

/-- Looks for a line that a pattern fits; the lines before it go to the section if `takes`. -/
def findLine (expr : Regex.Expr) (takes isKept : Bool) : (fuel : Nat) → Sectioning Bool
  | 0 => return false
  | fuel + 1 => do
    modify fun state => { state with current := state.current + 1 }
    let state ← get
    match state.rest[state.current - state.usedUp - 1]? with
    | none => return false
    | some line =>
      if fits expr line then return true
      if takes then
        let _ ← takeUpToCurrent (state.current - state.usedUp)
      findLine expr takes isKept fuel
where
  /-- Uses up so many lines. -/
  takeUpToCurrent : (count : Nat) → Sectioning Unit
    | 0 => return
    | count + 1 => do
      let _ ← take isKept
      takeUpToCurrent count

/-- A section up to a line that a pattern fits; the result tells whether there can be more. -/
def upToPattern (request : SectionRequest) (rule : SectionRule) (expr : Regex.Expr) (offset : Int)
    (isLeftOut : Bool) (count : Nat) : Sectioning Bool := do
  if !isLeftOut then start
  let found ← findLine expr (offset ≥ 0) (!isLeftOut) ((← get).rest.length + 2)
  if !found then
    if !isLeftOut then takeRest
    if rule.again.isNone then
      close request
      return false
    giveUp request (quotedWord rule.source ++ ": match not found" ++ onRepetition count)
  let stop : Int := (← get).current + offset
  let complaint := quotedWord rule.source ++ ": line number out of range"
  if stop < (← get).usedUp + 1 then giveUp request complaint
  takeUpTo request (!isLeftOut) complaint stop.toNat (stop.toNat + 1)
  if !isLeftOut then close request
  if offset > 0 then modify fun state => { state with current := stop.toNat }
  if request.dropsMatched then
    let _ ← take false
  return true

/-- Uses a rule as often as it says; the result tells whether there can be more. -/
def follow (request : SectionRequest) (rule : SectionRule) :
    (fuel count : Nat) → Sectioning Bool
  | 0, _ => return true
  | fuel + 1, count => do
    if rule.again.any (· < count) then return true
    let goesOn ← match rule.ends with
      | .line number => do
        upToLine request rule number count
        pure true
      | .pattern expr offset isLeftOut => upToPattern request rule expr offset isLeftOut count
    if goesOn then follow request rule fuel (count + 1) else return false

/-- Cuts a file as rules say. -/
def followAll (request : SectionRequest) (fuel : Nat) : List SectionRule → Sectioning Unit
  | [] => do
    start
    takeRest
    close request
  | rule :: rest => do
    if ← follow request rule fuel 0 then followAll request fuel rest

end Sectioning

/-! ## The arguments -/

/-- Refuses an argument. -/
def refuseSection {α : Type} (name text : String) : Routine α := do
  complain name text
  quit 1

/-- The body of a pattern and what follows it. -/
def patternBody (mark : Char) : List Char → Option (List Char × List Char)
  | [] => none
  | c :: rest =>
    if c = mark then some ([], rest)
    else match c, rest with
      | '\\', next :: rest =>
        (patternBody mark rest).map fun (body, after) => ('\\' :: next :: body, after)
      | c, rest => (patternBody mark rest).map fun (body, after) => (c :: body, after)

/-- The end of a section that an argument says; `last` is the number before. -/
def readSectionEnd (name : String) (last : Nat) (source : String) :
    Routine (SectionEnd × Nat) := do
  match source.toList with
  | mark :: rest =>
    if mark = '/' || mark = '%' then
      match patternBody mark rest with
      | none =>
        refuseSection name (source ++ ": closing delimiter '" ++ mark.toString ++ "' missing")
      | some (body, after) =>
        let offset ← match String.ofList after with
          | "" => pure 0
          | word =>
            match integer? word with
            | some n => pure n
            | none => refuseSection name (quotedWord source ++ ": integer expected after delimiter")
        match Regex.read false (Text.toBytes (String.ofList body)).toList with
        | .ok expr => return (.pattern expr offset (mark = '%'), last)
        | .error _ =>
          refuseSection name
            (quotedWord source ++ ": invalid regular expression: Invalid regular expression")
    else
      match natural? source with
      | some n =>
        if n = 0 then refuseSection name (source ++ ": line number must be greater than zero")
        if n < last then
          refuseSection name ("line number " ++ quotedWord source
            ++ " is smaller than preceding line number, " ++ toString last)
        if n = last then
          complain name ("warning: line number " ++ quotedWord source
            ++ " is the same as preceding line number")
        return (.line n, n)
      | none => refuseSection name (quotedWord source ++ ": invalid pattern")
  | [] => refuseSection name (quotedWord source ++ ": invalid pattern")

/-- How often a rule is used again, as an argument says. -/
def readAgain (name word : String) : Routine (Option Nat) := do
  if !word.endsWith "\x7d" then
    refuseSection name (quotedWord word ++ ": '\x7d' is required in repeat count")
  let body := ((word.drop 1).dropEnd 1).toString
  if body = "*" then return none
  match natural? body with
  | some n => return some n
  | none =>
    refuseSection name (quotedWord ("\x7b" ++ body)
      ++ "\x7d: integer required between '\x7b' and '\x7d'")

/-- The rules that arguments say. -/
def readSectionRules (name : String) (last : Nat) : List String → Routine (List SectionRule)
  | [] => return []
  | [source] => do
    let (ends, _) ← readSectionEnd name last source
    return [{ ends, source }]
  | source :: word :: rest => do
    let (ends, last) ← readSectionEnd name last source
    if word.startsWith "\x7b" then
      let again ← readAgain name word
      return { ends, source, again } :: (← readSectionRules name last rest)
    return { ends, source } :: (← readSectionRules name last (word :: rest))

/-- A number as a directive says. -/
def sectionNumber (isLeft fillsZero : Bool) (width least : Nat) (letter : Char) (n : Nat) :
    String :=
  let digits := match letter with
    | 'x' => String.ofList (Nat.toDigits 16 n)
    | 'X' => (String.ofList (Nat.toDigits 16 n)).toUpper
    | 'o' => String.ofList (Nat.toDigits 8 n)
    | _ => toString n
  let digits := String.ofList (List.replicate (least - digits.length) '0') ++ digits
  let gap (c : Char) : String := String.ofList (List.replicate (width - digits.length) c)
  if isLeft then digits ++ gap ' '
  else if fillsZero && least = 0 then gap '0' ++ digits else gap ' ' ++ digits

/-- The part of a format before its first directive, and the part after it. -/
def beforeDirective : List Char → List Char × Option (List Char)
  | '%' :: '%' :: rest =>
    let (front, after) := beforeDirective rest
    ('%' :: front, after)
  | '%' :: rest => ([], some rest)
  | c :: rest =>
    let (front, after) := beforeDirective rest
    (c :: front, after)
  | [] => ([], none)

/-- How a format writes the number of a section. -/
def readSectionSuffix (name format : String) : Routine (Nat → String) := do
  let (front, after?) := beforeDirective format.toList
  match after? with
  | none => refuseSection name "missing % conversion specification in suffix"
  | some cs =>
    let flags := cs.takeWhile fun c => "-0#' ".contains c
    let cs := cs.drop flags.length
    let width := cs.takeWhile Char.isDigit
    let cs := cs.drop width.length
    let (least, cs) := match cs with
      | '.' :: cs => (cs.takeWhile Char.isDigit, cs.dropWhile Char.isDigit)
      | cs => ([], cs)
    match cs with
    | [] => refuseSection name "missing conversion specifier in suffix"
    | letter :: rest =>
      if !"diouxX".contains letter then
        refuseSection name
          ("invalid conversion specifier in suffix: " ++ letter.toString)
      match beforeDirective rest with
      | (_, some _) => refuseSection name "too many % conversion specifications in suffix"
      | (back, none) =>
        let number (digits : List Char) : Nat := ((String.ofList digits).toNat?).getD 0
        return fun n =>
          String.ofList front
            ++ sectionNumber (flags.contains '-') (flags.contains '0') (number width)
              (number least) letter n
            ++ String.ofList back

/-- Cuts a file into sections. -/
def csplit : Program := fun image => do
  let name := image.name
  let parsed ← options
    { letters := OptionTable.flags "ksqz" ++ OptionTable.valued "bfn"
      words := [("suffix-format", .required, 'b'), ("prefix", .required, 'f'),
        ("keep-files", .none, 'k'), ("suppress-matched", .none, 'm'), ("digits", .required, 'n'),
        ("quiet", .none, 's'), ("silent", .none, 's'), ("elide-empty-files", .none, 'z')] }
    name image.words
  let digits ← match parsed.value? 'n' with
    | none => pure 2
    | some word =>
      match natural? word with
      | some n => pure n
      | none => refuseSection name ("invalid number: " ++ quotedWord word)
  let suffix ← match parsed.value? 'b' with
    | some format => readSectionSuffix name format
    | none => pure (sectionNumber false true digits 0 'd')
  match parsed.operands with
  | [] => missingOperand name
  | [_] =>
    complainOfUse name ("missing operand after " ++ quotedWord (image.words.getLast?.getD ""))
    return 1
  | file :: sources =>
    let opened ← if file = "-" then pure (.ok standardInput) else perform (.openFile file .input)
    match opened with
    | .error errno =>
      refuseSection name
        ("cannot open " ++ quotedAlways file ++ " for reading: " ++ errno.description)
    | .ok descriptor =>
      let rules ← readSectionRules name 0 sources
      match ← readAll descriptor .empty budget with
      | .error errno => refuseSection name ("read error: " ++ errno.description)
      | .ok bytes =>
        let request : SectionRequest :=
          { name, suffix, front := (parsed.value? 'f').getD "xx", keepsFiles := parsed.has 'k'
            leavesOutEmpty := parsed.has 'z', isQuiet := parsed.has 's' || parsed.has 'q'
            dropsMatched := parsed.has 'm' }
        let lines := endedLines lineFeed bytes
        let _ ← (Sectioning.followAll request (lines.length + 2) rules).run { rest := lines }
        return 0

end CommandShell.Machine.Program
