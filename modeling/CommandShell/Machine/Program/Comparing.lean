import CommandShell.Machine.Program.Filing
import CommandShell.Machine.Program.Sorting
import CommandShell.Text.Difference
import Std.Data.HashMap
set_option autoImplicit false

/-!
# Comparing files line by line

What has to be done to make one file of another one: lines are deleted, added or changed.  It is
shown with or without the lines around it.  Of directories the files with the same names are
compared.
-/

namespace CommandShell.Machine.Program

open CommandShell.Text.Difference (Change changes)

/-! ## Lines that count as equal -/

/-- Which differences between blanks do not count. -/
inductive BlankRule where
  | exact
  /-- Tabs stand for the blanks up to the next stop. -/
  | tabs
  /-- Blanks at the end of a line do not count. -/
  | atEnd
  /-- It does not count how many blanks there are. -/
  | amount
  | all
  deriving DecidableEq

/-- A line of a file. -/
structure TextLine where
  bytes : Line
  /-- A line feed ends the line. -/
  isWhole : Bool
  deriving DecidableEq

/-- The lines of a file. -/
def textLines (bytes : ByteArray) : Array TextLine :=
  let lines := linesOf bytes
  let isWhole := bytes.isEmpty || bytes.toList.getLast? = some lineFeed
  let last := lines.length - 1
  (lines.zipIdx.map fun (line, i) => ⟨line, isWhole || i < last⟩).toArray

/-- Blanks up to the next tab stop in the place of tabs. -/
def untabbed : (column : Nat) → Line → Line
  | _, [] => []
  | column, byte :: rest =>
    if byte = 0x09 then
      let gap := 8 - column % 8
      List.replicate gap 0x20 ++ untabbed (column + gap) rest
    else byte :: untabbed (column + 1) rest

/-- One blank in the place of several. -/
def withSingleBlanks : (afterBlank : Bool) → Line → Line
  | _, [] => []
  | afterBlank, byte :: rest =>
    if isSpace byte then (if afterBlank then [] else [0x20]) ++ withSingleBlanks true rest
    else byte :: withSingleBlanks false rest

/-- A line without the blanks at its end. -/
def withoutEndBlanks (line : Line) : Line := (line.reverse.dropWhile isSpace).reverse

/-- What is left of a line if such differences do not count. -/
def BlankRule.view : BlankRule → Line → Line
  | exact, line => line
  | tabs, line => untabbed 0 line
  | atEnd, line => withoutEndBlanks line
  | amount, line => withoutEndBlanks (withSingleBlanks false line)
  | all, line => line.filter fun byte => !isSpace byte

/-! ## What is asked for -/

/-- How differences are shown. -/
inductive DiffForm where
  | plain
  /-- With so many lines around them, those of both files together. -/
  | unified (context : Nat)
  /-- With so many lines around them, those of each file apart. -/
  | apart (context : Nat)
  /-- As commands for an editor. -/
  | script
  /-- As commands that count all lines before any is changed. -/
  | counted

/-- How many lines around a difference belong to it. -/
def DiffForm.context : DiffForm → Nat
  | unified n | apart n => n
  | plain | script | counted => 0

/-- The form can show that a file's last line has no end. -/
def DiffForm.showsMissingEnd : DiffForm → Bool
  | script => false
  | _ => true

/-- What `diff` is asked for. -/
structure DiffRequest where
  name : String
  form : DiffForm
  blanks : BlankRule
  foldCase : Bool
  /-- Added and deleted lines that are empty do not count. -/
  ignoresEmptyLines : Bool
  /-- Only whether files differ is told. -/
  isBrief : Bool
  tellsSame : Bool
  /-- Every file counts as text. -/
  asText : Bool
  recursive : Bool
  /-- A file that is not there counts as empty. -/
  missingIsEmpty : Bool
  /-- That holds for the first of two files only. -/
  firstMissingIsEmpty : Bool
  labels : List String
  /-- Tabs are shown as blanks. -/
  expandsTabs : Bool
  /-- A tab stands after the mark of a line. -/
  leadsWithTab : Bool
  excluded : List String
  /-- The options as they were given. -/
  given : String

namespace DiffRequest

/-- The key of a line: lines with the same key count as equal. -/
def key (request : DiffRequest) (line : TextLine) : Line × Bool :=
  let bytes := request.blanks.view line.bytes
  let counts := request.form.showsMissingEnd
    && (request.blanks = .exact || request.blanks = .tabs)
  (if request.foldCase then bytes.map toLower else bytes, line.isWhole || !counts)

/-- Numbers for the lines of two files: lines that count as equal have equal numbers. -/
def classes (request : DiffRequest) (first second : Array TextLine) : Array Nat × Array Nat :=
  let note (known : Std.HashMap (Line × Bool) Nat × Array Nat) (line : TextLine) :
      Std.HashMap (Line × Bool) Nat × Array Nat :=
    let key := request.key line
    match known.1[key]? with
    | some n => (known.1, known.2.push n)
    | none =>
      let n := known.1.size
      (known.1.insert key n, known.2.push n)
  let (known, firstClasses) := first.foldl note (({} : Std.HashMap (Line × Bool) Nat), #[])
  (firstClasses, (second.foldl note (known, #[])).2)

/-- How many lines at the front of two files are the same. -/
def sameFront (request : DiffRequest) (first second : Array TextLine) : Nat :=
  let agree (a b : TextLine) : Bool :=
    a.bytes = b.bytes && (a.isWhole = b.isWhole || !request.form.showsMissingEnd)
  ((first.toList.zip second.toList).takeWhile fun (a, b) => agree a b).length

/-- The differences between two files. -/
def changesOf (request : DiffRequest) (first second : Array TextLine) : List Change :=
  let context := request.form.context
  let front := request.sameFront first second
  let room := min first.size second.size - front
  let back := min room (request.sameFront first.reverse second.reverse) - context
  let front := front - context
  let middle (lines : Array TextLine) : Array TextLine := lines.extract front (lines.size - back)
  let (firstClasses, secondClasses) := request.classes (middle first) (middle second)
  (changes firstClasses secondClasses).map fun change =>
    { change with first := change.first + front, second := change.second + front }

end DiffRequest

/-! ## Showing differences -/

/-- The two files that are compared. -/
structure DiffPair where
  first : Array TextLine
  second : Array TextLine

namespace DiffRequest

/-- A line after the mark that tells what has happened to it. -/
def shownLine (request : DiffRequest) (mark : String) (isWide : Bool) (line : TextLine) :
    ByteArray :=
  let gap := if request.leadsWithTab then "\t" else if isWide then " " else ""
  let body := if request.expandsTabs then untabbed 0 line.bytes else line.bytes
  Text.toBytes (mark ++ gap) ++ pack body
    ++ Text.toBytes (if line.isWhole then "\n" else "\n\\ No newline at end of file\n")

/-- Some lines after their marks. -/
def shownLines (request : DiffRequest) (mark : String) (isWide : Bool) (lines : Array TextLine)
    (start count : Nat) : ByteArray :=
  (lines.extract start (start + count)).foldl
    (fun all line => all ++ request.shownLine mark isWide line) .empty

/-- The numbers of the first and the last of some lines, where the line before stands for none. -/
def lineRange (start count : Nat) : String :=
  if count ≤ 1 then toString (start + count)
  else toString (start + 1) ++ "," ++ toString (start + count)

/-- A difference without lines around it. -/
def plainChange (request : DiffRequest) (pair : DiffPair) (change : Change) : ByteArray :=
  let letter :=
    if change.firstCount = 0 then "a" else if change.secondCount = 0 then "d" else "c"
  let head := lineRange change.first change.firstCount ++ letter
    ++ lineRange change.second change.secondCount ++ "\n"
  Text.toBytes head
    ++ request.shownLines "<" true pair.first change.first change.firstCount
    ++ Text.toBytes (if letter = "c" then "---\n" else "")
    ++ request.shownLines ">" true pair.second change.second change.secondCount

/-- The added and deleted lines of a difference are all empty. -/
def isEmptyChange (request : DiffRequest) (pair : DiffPair) (change : Change) : Bool :=
  let isEmpty (line : TextLine) : Bool := (request.blanks.view line.bytes).isEmpty
  (pair.first.extract change.first (change.first + change.firstCount)).all isEmpty
    && (pair.second.extract change.second (change.second + change.secondCount)).all isEmpty

/-- The difference does not count. -/
def isIgnored (request : DiffRequest) (pair : DiffPair) (change : Change) : Bool :=
  request.ignoresEmptyLines && request.isEmptyChange pair change

/-- Differences that are so near to each other that the lines around them are shown together. -/
def hunks (request : DiffRequest) (pair : DiffPair) : List Change → List (List Change)
  | [] => []
  | change :: rest =>
    match request.hunks pair rest, rest with
    | hunk :: others, next :: _ =>
      let reach := if request.isIgnored pair next then request.form.context
        else 2 * request.form.context + 1
      if next.first - (change.first + change.firstCount) < reach then (change :: hunk) :: others
      else [change] :: hunk :: others
    | others, _ => [change] :: others

/-- The lines of a file that belong to a hunk: the first one, and the one after the last one. -/
def hunkLines (request : DiffRequest) (count start stop : Nat) : Nat × Nat :=
  (start - request.form.context, min count (stop + request.form.context))

/-- The differences of a hunk with the lines between and around them, from a line of the first file
on. -/
def unifiedLines (request : DiffRequest) (pair : DiffPair) (stop : Nat) :
    (line : Nat) → List Change → ByteArray
  | line, [] => request.shownLines " " false pair.first line (stop - line)
  | line, change :: rest =>
    request.shownLines " " false pair.first line (change.first - line)
      ++ request.shownLines "-" false pair.first change.first change.firstCount
      ++ request.shownLines "+" false pair.second change.second change.secondCount
      ++ request.unifiedLines pair stop (change.first + change.firstCount) rest

/-- The first line of some lines and how many there are. -/
def unifiedRange (start stop : Nat) : String :=
  if stop = start then (toString start ++ ",0")
  else if stop = start + 1 then toString stop
  else toString (start + 1) ++ "," ++ toString (stop - start)

/-- The lines of one file in a hunk, from a line on, with marks for those that have changed. -/
def sideLines (request : DiffRequest) (mark : Change → String) (lines : Array TextLine)
    (part : Change → Nat × Nat) (stop : Nat) : (line : Nat) → List Change → ByteArray
  | line, [] => request.shownLines " " true lines line (stop - line)
  | line, change :: rest =>
    let (start, count) := part change
    request.shownLines " " true lines line (start - line)
      ++ request.shownLines (mark change) true lines start count
      ++ request.sideLines mark lines part stop (start + count) rest

/-- A hunk. -/
def shownHunk (request : DiffRequest) (pair : DiffPair) (hunk : List Change) : ByteArray :=
  match hunk.head?, hunk.getLast? with
  | some head, some last =>
    let (start, stop) := request.hunkLines pair.first.size head.first (last.first + last.firstCount)
    let (secondStart, secondStop) :=
      request.hunkLines pair.second.size head.second (last.second + last.secondCount)
    match request.form with
    | .apart _ =>
      let range (start stop : Nat) : String :=
        if stop ≤ start + 1 then toString stop
        else toString (start + 1) ++ "," ++ toString stop
      let mark (sign : String) (change : Change) : String :=
        if change.firstCount > 0 && change.secondCount > 0 then "!" else sign
      let deletes := hunk.any fun change => change.firstCount > 0
      let adds := hunk.any fun change => change.secondCount > 0
      Text.toBytes ("***************\n*** " ++ range start stop ++ " ****\n")
        ++ (if deletes then request.sideLines (mark "-") pair.first
          (fun change => (change.first, change.firstCount)) stop start hunk else .empty)
        ++ Text.toBytes ("--- " ++ range secondStart secondStop ++ " ----\n")
        ++ (if adds then request.sideLines (mark "+") pair.second
          (fun change => (change.second, change.secondCount)) secondStop secondStart hunk
          else .empty)
    | _ =>
      Text.toBytes ("@@ -" ++ unifiedRange start stop ++ " +" ++ unifiedRange secondStart secondStop
        ++ " @@\n")
        ++ request.unifiedLines pair stop start hunk
  | _, _ => .empty

/-- The bytes of some lines, all with an end. -/
def wholeLines (lines : Array TextLine) (start count : Nat) : ByteArray :=
  unlines ((lines.extract start (start + count)).toList.map TextLine.bytes)

/-- The commands that an editor puts lines in with.  A line with nothing but a point would end them
too early, so it is put in with two points, one of which is taken away after. -/
def editorInput (afterPoint : Bool) : List TextLine → ByteArray
  | [] => Text.toBytes (if afterPoint then "" else ".\n")
  | line :: rest =>
    let start := Text.toBytes (if afterPoint then "a\n" else "")
    if line.bytes = [0x2E] then
      start ++ Text.toBytes "..\n.\ns/.//\n" ++ editorInput true rest
    else start ++ pack line.bytes ++ Text.toBytes "\n" ++ editorInput false rest

/-- A difference as a command for an editor. -/
def scriptChange (pair : DiffPair) (change : Change) : ByteArray :=
  let letter :=
    if change.firstCount = 0 then "a" else if change.secondCount = 0 then "d" else "c"
  let added := pair.second.extract change.second (change.second + change.secondCount)
  Text.toBytes (lineRange change.first change.firstCount ++ letter ++ "\n")
    ++ (if added.isEmpty then .empty else editorInput false added.toList)

/-- A difference as commands that count all lines before any is changed. -/
def countedChange (pair : DiffPair) (change : Change) : ByteArray :=
  let deleted := if change.firstCount = 0 then ""
    else "d" ++ toString (change.first + 1) ++ " " ++ toString change.firstCount ++ "\n"
  let added := if change.secondCount = 0 then ""
    else "a" ++ toString (change.first + change.firstCount) ++ " "
      ++ toString change.secondCount ++ "\n"
  let lines := pair.second.extract change.second (change.second + change.secondCount)
  Text.toBytes (deleted ++ added)
    ++ lines.foldl (fun all line =>
      all ++ pack line.bytes ++ Text.toBytes (if line.isWhole then "\n" else "")) .empty

/-- The two lines that name the files. -/
def headLines (request : DiffRequest) (first second : String) : ByteArray :=
  let (before, after, time) := match request.form with
    | .apart _ => ("*** ", "--- ", "Thu Jan  1 00:00:00 1970")
    | _ => ("--- ", "+++ ", "1970-01-01 00:00:00.000000000 +0000")
  let shown (label : Option String) (file : String) : String := label.getD (file ++ "\t" ++ time)
  Text.toBytes (before ++ shown request.labels[0]? first ++ "\n"
    ++ after ++ shown request.labels[1]? second ++ "\n")

/-- All differences between two files. -/
def shown (request : DiffRequest) (names : String × String) (pair : DiffPair)
    (all : List Change) : ByteArray :=
  let join (pieces : List ByteArray) : ByteArray := pieces.foldl (· ++ ·) .empty
  let counting := all.filter fun change => !request.isIgnored pair change
  match request.form with
  | .plain => join (counting.map (request.plainChange pair))
  | .script => join (counting.reverse.map (scriptChange pair))
  | .counted => join (counting.map (countedChange pair))
  | .unified _ | .apart _ =>
    let hunks := (request.hunks pair all).filter fun hunk =>
      hunk.any fun change => !request.isIgnored pair change
    request.headLines names.1 names.2 ++ join (hunks.map (request.shownHunk pair))

end DiffRequest

/-! ## Comparing -/

/-- How a comparison came out. -/
inductive DiffResult where
  | same
  | different
  | trouble
  deriving DecidableEq

namespace DiffResult

/-- The worse of two results. -/
def worse : DiffResult → DiffResult → DiffResult
  | trouble, _ | _, trouble => trouble
  | different, _ | _, different => different
  | same, same => same

/-- The exit code of a result. -/
def code : DiffResult → Nat
  | same => 0
  | different => 1
  | trouble => 2

end DiffResult

/-- A file that is compared. -/
structure DiffSide where
  path : String
  /-- What the path leads to; none for a file that counts as empty. -/
  info : Option NodeInfo

namespace DiffSide

/-- The side is a directory. -/
def isDirectory (side : DiffSide) : Bool := side.info.any (·.kind = .directory)

/-- What the side is in words. -/
def kindName (side : DiffSide) : String :=
  (side.info.map Program.kindName).getD "regular empty file"

end DiffSide

namespace DiffRequest

/-- Complains about a path. -/
def complain (request : DiffRequest) (path : String) (errno : Errno) : Routine Unit :=
  Program.complain request.name (path ++ ": " ++ errno.description)

/-- The bytes of a side. -/
def bytesOf (request : DiffRequest) (side : DiffSide) : Routine (Option ByteArray) := do
  if side.info.isNone then return some .empty
  match ← readFile side.path with
  | .ok bytes => return some bytes
  | .error errno =>
    request.complain side.path errno
    return none

/-- The line that names two files of directories. -/
def title (request : DiffRequest) (first second : DiffSide) : String :=
  "diff" ++ request.given ++ " " ++ request.labels[0]?.getD first.path ++ " "
    ++ request.labels[1]?.getD second.path ++ "\n"

/-- Compares two files; the line `title` stands before what is shown. -/
def compareFiles (request : DiffRequest) (title : String) (first second : DiffSide) :
    Routine DiffResult := do
  let name := request.name
  let tellSame : Routine DiffResult := do
    if request.tellsSame then
      putText name ("Files " ++ first.path ++ " and " ++ second.path ++ " are identical\n")
    return .same
  if let (some a, some b) := (first.info, second.info) then
    if a.id = b.id then return ← tellSame
  let some firstBytes ← request.bytesOf first | return .trouble
  let some secondBytes ← request.bytesOf second | return .trouble
  if firstBytes.data = secondBytes.data then return ← tellSame
  let isBinary (bytes : ByteArray) : Bool := !request.asText && bytes.toList.contains 0
  if isBinary firstBytes || isBinary secondBytes then
    let front := if request.isBrief then "Files " else "Binary files "
    putText name (front ++ first.path ++ " and " ++ second.path ++ " differ\n")
    return .different
  let pair : DiffPair := ⟨textLines firstBytes, textLines secondBytes⟩
  let all := request.changesOf pair.first pair.second
  let lacksEnd (lines : Array TextLine) : Bool := lines.back?.any fun line => !line.isWhole
  let unfinished := if request.form.showsMissingEnd then []
    else [(first.path, pair.first), (second.path, pair.second)].filter fun side => lacksEnd side.2
  if all.all (request.isIgnored pair) && unfinished.isEmpty then return ← tellSame
  if request.isBrief then
    putText name ("Files " ++ first.path ++ " and " ++ second.path ++ " differ\n")
    return .different
  putText name title
  put name (request.shown (first.path, second.path) pair all)
  for (path, _) in unfinished do
    Program.complain name (path ++ ": No newline at end of file\n")
  return if unfinished.isEmpty then .different else .trouble

/-- The names in two directories, in order. -/
def namesIn (request : DiffRequest) (first second : DiffSide) : Routine (Option (List String)) := do
  let listed (side : DiffSide) : Routine (Option (List String)) := do
    if side.info.isNone then return some []
    match ← perform (.entries side.path) with
    | .ok entries => return some (entries.map Prod.fst)
    | .error errno =>
      request.complain side.path errno
      return none
  let some names ← listed first | return none
  let some others ← listed second | return none
  let all := (names ++ others.filter fun name => !names.contains name).filter fun name =>
    !request.excluded.contains name
  return some (all.mergeSort fun a b => bytesLe (Text.toBytes a).toList (Text.toBytes b).toList)

/-- Compares what is on two sides, of which `isGiven` are operands. -/
def compareSides (request : DiffRequest) (isGiven : Bool) :
    (fuel : Nat) → (first second : DiffSide) → Routine DiffResult
  | 0, _, _ => return .trouble
  | fuel + 1, first, second => do
    let name := request.name
    let mayBeDirectory (side : DiffSide) : Bool := side.info.isNone || side.isDirectory
    let hasDirectory := first.isDirectory || second.isDirectory
    if hasDirectory && first.info.map NodeInfo.id = second.info.map NodeInfo.id then
      return .same
    if hasDirectory && mayBeDirectory first && mayBeDirectory second then
      if !isGiven && !request.recursive then
        putText name ("Common subdirectories: " ++ first.path ++ " and " ++ second.path ++ "\n")
        return .same
      let some names ← request.namesIn first second | return .trouble
      let mut result := DiffResult.same
      for entry in names do
        let look (side : DiffSide) : Routine (Option DiffSide) := do
          let path := Path.join side.path entry
          match ← perform (.stat path true) with
          | .ok info => return some ⟨path, some info⟩
          | .error _ => return none
        let one ← look first
        let other ← look second
        let absent (side : DiffSide) : DiffSide := ⟨Path.join side.path entry, none⟩
        let found ← match one, other with
          | some one, some other => request.compareSides false fuel one other
          | some one, none =>
            if request.missingIsEmpty && (!one.isDirectory || request.recursive) then
              request.compareSides false fuel one (absent second)
            else do
              putText name ("Only in " ++ first.path ++ ": " ++ entry ++ "\n")
              pure .different
          | none, some other =>
            if (request.missingIsEmpty || request.firstMissingIsEmpty)
                && (!other.isDirectory || request.recursive) then
              request.compareSides false fuel (absent first) other
            else do
              putText name ("Only in " ++ second.path ++ ": " ++ entry ++ "\n")
              pure .different
          | none, none => pure .same
        result := result.worse found
      return result
    if first.isDirectory || second.isDirectory then
      putText name (("File " ++ first.path ++ " is a " ++ first.kindName ++ " while file ")
        ++ (second.path ++ " is a " ++ second.kindName ++ "\n"))
      return .different
    request.compareFiles (if isGiven then "" else request.title first second) first second

end DiffRequest

/-! ## The arguments -/

/-- Complains about the arguments: that ends the program. -/
def refuseDiff {α : Type} (name text : String) : Routine α := do
  complain name text
  complain name ("Try '" ++ name ++ " --help' for more information.")
  quit 2

/-- The options of `diff`. -/
def diffOptions : OptionTable :=
  { letters := OptionTable.flags "0123456789abBcdeEfHilnNpPqrstTuwyZ"
      ++ OptionTable.valued "CDFILSUWxX"
    words := [("normal", .none, 'O'), ("brief", .none, 'q'), ("report-identical-files", .none, 's'),
      ("context", .optional, 'c'), ("unified", .optional, 'u'), ("ed", .none, 'e'),
      ("rcs", .none, 'n'), ("label", .required, 'L'), ("expand-tabs", .none, 't'),
      ("initial-tab", .none, 'T'), ("recursive", .none, 'r'), ("new-file", .none, 'N'),
      ("unidirectional-new-file", .none, 'P'), ("exclude", .required, 'x'),
      ("ignore-case", .none, 'i'), ("ignore-tab-expansion", .none, 'E'),
      ("ignore-trailing-space", .none, 'Z'), ("ignore-space-change", .none, 'b'),
      ("ignore-all-space", .none, 'w'), ("ignore-blank-lines", .none, 'B'), ("text", .none, 'a'),
      ("minimal", .none, 'd'), ("speed-large-files", .none, 'H'), ("color", .optional, 'o')] }

/-- The form that options ask for. -/
def diffForm (name : String) (parsed : Parsed) : Routine DiffForm := do
  let number (value : Option String) : Routine (Option Nat) := do
    match value with
    | none => return none
    | some word =>
      match natural? word with
      | some n => return some n
      | none =>
        refuseDiff name ("invalid context length " ++ quotedWord word)
  let digits := (parsed.options.map Prod.fst).filter Char.isDigit
  let given := if digits.isEmpty then none else (String.ofList digits).toNat?
  let mut form := DiffForm.plain
  for (letter, value) in parsed.options do
    match letter with
    | 'u' | 'U' => form := .unified ((← number value).getD 3)
    | 'c' | 'C' => form := .apart ((← number value).getD 3)
    | 'e' => form := .script
    | 'n' => form := .counted
    | _ => pure ()
  return match form, given with
    | .unified _, some n => .unified n
    | .apart _, some n => .apart n
    | form, _ => form

/-- What is asked for by options. -/
def DiffRequest.ofOptions (name : String) (form : DiffForm) (parsed : Parsed) (given : String) :
    DiffRequest :=
  { name, form, given
    blanks :=
      if parsed.has 'w' then .all else if parsed.has 'b' then .amount
      else if parsed.has 'Z' then .atEnd else if parsed.has 'E' then .tabs else .exact
    foldCase := parsed.has 'i'
    ignoresEmptyLines := parsed.has 'B'
    isBrief := parsed.has 'q'
    tellsSame := parsed.has 's'
    asText := parsed.has 'a'
    recursive := parsed.has 'r'
    missingIsEmpty := parsed.has 'N'
    firstMissingIsEmpty := parsed.has 'P'
    labels := parsed.values 'L'
    expandsTabs := parsed.has 't'
    leadsWithTab := parsed.has 'T'
    excluded := parsed.values 'x' }

/-- The words of the options, each after a blank. -/
def optionWords (words operands : List String) : String :=
  match words, operands with
  | word :: rest, operand :: others =>
    if word = operand then optionWords rest others
    else " " ++ word ++ optionWords rest operands
  | words, _ => String.join (words.map (" " ++ ·))

/-- Compares two files line by line. -/
def diff : Program := fun image => do
  let name := image.name
  let parsed ← match diffOptions.parse image.words with
    | .ok parsed => pure parsed
    | .error fault => refuseDiff name fault.message
  let form ← diffForm name parsed
  let request := DiffRequest.ofOptions name form parsed (optionWords image.words parsed.operands)
  match parsed.operands with
  | [first, second] =>
    let look (path : String) : Routine (Except Errno DiffSide) := do
      if path = "-" then
        match ← perform (.describe standardInput) with
        | .ok (info, _) => return .ok ⟨path, some info⟩
        | .error errno => return .error errno
      match ← perform (.stat path true) with
      | .ok info => return .ok ⟨path, some info⟩
      | .error errno => return .error errno
    let one ← look first
    let other ← look second
    let mayMiss (path : String) (side other : Except Errno DiffSide) (isFirst : Bool) :
        Except Errno DiffSide :=
      match side, other with
      | .error .noEntry, .ok _ =>
        if request.missingIsEmpty || (isFirst && request.firstMissingIsEmpty) then
          .ok ⟨path, none⟩ else side
      | side, _ => side
    match mayMiss first one other true, mayMiss second other one false with
    | .ok one, .ok other =>
      let mut one := one
      let mut other := other
      let isOneDirectory := one.info.isSome && other.info.isSome
        && one.isDirectory ≠ other.isDirectory
      if isOneDirectory then
        if first = "-" || second = "-" then
          Program.complain name "cannot compare '-' to a directory"
          return 2
        let (directory, file) := if one.isDirectory then (one, other) else (other, one)
        let path := Path.join directory.path (Path.lastName file.path)
        match ← perform (.stat path true) with
        | .ok info =>
          if one.isDirectory then one := ⟨path, some info⟩ else other := ⟨path, some info⟩
        | .error errno =>
          request.complain path errno
          return 2
      return (← request.compareSides true maxDepth one other).code
    | one, other =>
      for (path, side) in [(first, one), (second, other)] do
        if let .error errno := side then request.complain path errno
      return 2
  | _ :: _ :: extra :: _ => refuseDiff name ("extra operand " ++ quotedWord extra)
  | _ =>
    refuseDiff name ("missing operand after " ++ quotedWord (image.arguments.getLast?.getD name))

end CommandShell.Machine.Program
