import CommandShell.Machine.Program.Copying
import CommandShell.Machine.Program.Sorting
set_option autoImplicit false

/-!
# Splitting a file

A file is cut into files with numbered names: after so many lines or bytes, or into so many pieces.
-/

namespace CommandShell.Machine.Program

/-! ## Names of the pieces -/

/-- The digits that number the pieces. -/
inductive SuffixDigits where
  | letters
  | decimal
  | hexadecimal
  deriving DecidableEq

/-- The digits in order. -/
def SuffixDigits.all : SuffixDigits → List Char
  | letters => "abcdefghijklmnopqrstuvwxyz".toList
  | decimal => "0123456789".toList
  | hexadecimal => "0123456789abcdef".toList

/-- How the pieces are called. -/
structure PieceNames where
  front : String
  digits : SuffixDigits := .letters
  /-- How many digits a number has. -/
  width : Nat := 2
  /-- The numbers may get longer. -/
  mayGrow : Bool := true
  /-- The number of the first piece. -/
  first : Nat := 0
  ending : String := ""

namespace PieceNames

/-- A number in so many digits. -/
def numeral (digits : List Char) : (width : Nat) → Nat → List Char
  | 0, _ => []
  | width + 1, n =>
    numeral digits width (n / digits.length) ++ [digits.getD (n % digits.length) '0']

/-- The number of the piece with an index, of `width` digits after those in front of it.  Where
numbers get longer, the longer ones begin with the last digit. -/
def suffixFrom (digits : List Char) (mayGrow : Bool) :
    (fuel : Nat) → (front : List Char) → (width n : Nat) → Option (List Char)
  | 0, _, _, _ => none
  | fuel + 1, front, width, n =>
    let base := digits.length
    let room := if mayGrow then (base - 1) * Nat.pow base (width - 1) else Nat.pow base width
    if n < room then some (front ++ numeral digits width n)
    else if mayGrow then
      suffixFrom digits mayGrow fuel (front ++ [digits.getLast?.getD '0']) (width + 1) (n - room)
    else none

/-- The name of the piece with an index; none if there are not so many. -/
def name? (names : PieceNames) (index : Nat) : Option String :=
  let suffix := suffixFrom names.digits.all names.mayGrow 16 [] names.width (names.first + index)
  suffix.map fun suffix => names.front ++ String.ofList suffix ++ names.ending

end PieceNames

/-! ## What is asked for -/

/-- How a file is cut into so many pieces. -/
inductive PieceRule where
  /-- Of as many bytes each. -/
  | bytes
  /-- As before, but a line belongs to the piece in which it begins. -/
  | wholeLines
  /-- Lines are given out in turn. -/
  | inTurn
  deriving DecidableEq

/-- Where a file is cut. -/
inductive CutRule where
  | lines (count : Nat)
  | bytes (count : Nat)
  /-- After as many whole lines as have so many bytes at most. -/
  | lineBytes (count : Nat)
  /-- Into so many pieces; only the one with a number may be wanted, on standard output. -/
  | pieces (rule : PieceRule) (count : Nat) (only : Option Nat)

/-- What `split` is asked for. -/
structure SplitRequest where
  rule : CutRule := .lines 1000
  names : PieceNames := { front := "x" }
  /-- Pieces without bytes are left out. -/
  leavesOutEmpty : Bool := false
  verbose : Bool := false
  ending : UInt8 := lineFeed

/-! ## Cutting -/

/-- The lines of a text, each with the byte that ends it. -/
def endedLines (ending : UInt8) (bytes : ByteArray) : List Line :=
  let (done, last) := bytes.toList.foldl (fun (found : List Line × Line) byte =>
    if byte = ending then ((byte :: found.2).reverse :: found.1, [])
    else (found.1, byte :: found.2)) ([], [])
  (if last.isEmpty then done else last.reverse :: done).reverse

/-- Cuts a list into lists of a size. -/
def groupsOf {α : Type} (size : Nat) : (fuel : Nat) → List α → List (List α)
  | 0, _ | _, [] => []
  | fuel + 1, items => items.take size :: groupsOf size fuel (items.drop size)

/-- Puts lines together up to a number of bytes; a longer line is cut. -/
def byLineBytes (size : Nat) : (fuel : Nat) → (sofar : Line) → List Line → List Line
  | 0, sofar, _ | _, sofar, [] => if sofar.isEmpty then [] else [sofar]
  | fuel + 1, sofar, line :: rest =>
    if sofar.length + line.length ≤ size then byLineBytes size fuel (sofar ++ line) rest
    else if !sofar.isEmpty then sofar :: byLineBytes size fuel [] (line :: rest)
    else line.take size :: byLineBytes size fuel [] (line.drop size :: rest)

/-- Where each of so many pieces of a number of bytes ends. -/
def pieceEnds (count size : Nat) : List Nat :=
  (List.range count).map fun i => (i + 1) * (size / count) + min (i + 1) (size % count)

/-- The lines of each piece: those that begin in it. -/
def linesByStart (lines : List Line) (ends : List Nat) : List Line :=
  let starts := (lines.foldl (fun (found : List (Nat × Line) × Nat) line =>
    ((found.2, line) :: found.1, found.2 + line.length)) ([], 0)).1.reverse
  (ends.zip (0 :: ends)).map fun (stop, start) =>
    ((starts.filter fun entry => start ≤ entry.1 && entry.1 < stop).map Prod.snd).flatten

/-- The pieces of a file. -/
def SplitRequest.pieces (request : SplitRequest) (bytes : ByteArray) : List ByteArray :=
  let lines := endedLines request.ending bytes
  let all := bytes.toList
  let found : List Line := match request.rule with
    | .lines count => (groupsOf count lines.length lines).map List.flatten
    | .bytes count => groupsOf count all.length all
    | .lineBytes count => byLineBytes count (all.length + lines.length + 1) [] lines
    | .pieces .bytes count _ =>
      let ends := pieceEnds count all.length
      (ends.zip (0 :: ends)).map fun (stop, start) => (all.take stop).drop start
    | .pieces .wholeLines count _ => linesByStart lines (pieceEnds count all.length)
    | .pieces .inTurn count _ =>
      (List.range count).map fun i =>
        (lines.zipIdx.filterMap fun (line, n) =>
          if n % count = i then some line else none).flatten
  found.map pack

/-! ## Writing the pieces -/

/-- Writes pieces to their files. -/
def SplitRequest.writePieces (request : SplitRequest) (name : String) :
    (index : Nat) → List ByteArray → Routine Unit
  | _, [] => return
  | index, piece :: rest => do
    if piece.isEmpty && request.leavesOutEmpty then request.writePieces name index rest
    else
      match request.names.name? index with
      | none =>
        complain name "output file suffixes exhausted"
        quit 1
      | some file =>
        if request.verbose then putText name ("creating file " ++ quotedAlways file ++ "\n")
        match ← perform (.openFile file .output) with
        | .error errno =>
          complainOfFile name file errno
          quit 1
        | .ok descriptor =>
          if let .error errno ← perform (.write descriptor piece) then
            complainOfFile name file errno
            quit 1
          let _ ← perform (.close descriptor)
          request.writePieces name (index + 1) rest

/-! ## The arguments -/

/-- The options of `split`. -/
def splitOptions : OptionTable :=
  { letters := OptionTable.flags "0123456789deux" ++ OptionTable.valued "abClnt"
    words := [("bytes", .required, 'b'), ("lines", .required, 'l'),
      ("line-bytes", .required, 'C'), ("number", .required, 'n'),
      ("elide-empty-files", .none, 'e'), ("unbuffered", .none, 'u'),
      ("suffix-length", .required, 'a'), ("additional-suffix", .required, 'S'),
      ("numeric-suffixes", .optional, 'd'), ("hex-suffixes", .optional, 'x'),
      ("separator", .required, 't'), ("verbose", .none, 'v')] }

/-- A number that an option gives. -/
def splitNumber (name what word : String) : Routine Nat := do
  match count? word with
  | some (n + 1) => return n + 1
  | _ =>
    complain name ("invalid number of " ++ what ++ ": " ++ quotedWord word)
    quit 1

/-- How a file is cut into pieces. -/
def pieceRule (name word : String) : Routine CutRule := do
  let (rule, body) : PieceRule × String :=
    if word.startsWith "l/" then (.wholeLines, (word.drop 2).toString)
    else if word.startsWith "r/" then (.inTurn, (word.drop 2).toString)
    else (.bytes, word)
  match body.splitOn "/" with
  | [only, count] =>
    let count ← splitNumber name "chunks" count
    match natural? only with
    | some n =>
      if n = 0 || n > count then
        complain name ("invalid chunk number: " ++ quotedWord only)
        quit 1
      return .pieces rule count (some n)
    | none =>
      complain name ("invalid number of chunks: " ++ quotedWord body)
      quit 1
  | _ => return .pieces rule (← splitNumber name "chunks" body) none

/-- A request that is being put together. -/
structure SplitChoice where
  rule : Option CutRule := none
  /-- A number of lines that stands alone. -/
  digits : String := ""
  width : Option Nat := none
  separator : UInt8 := lineFeed
  names : PieceNames := { front := "x" }

/-- Takes one option into account. -/
def SplitChoice.add (name : String) (choice : SplitChoice) (letter : Char)
    (value : Option String) : Routine SplitChoice := do
  let word := value.getD ""
  let setRule (rule : CutRule) : Routine SplitChoice := do
    if choice.rule.isSome || choice.digits ≠ "" then
      complainOfUse name "cannot split in more than one way"
      quit 1
    return { choice with rule := some rule }
  let setDigits (digits : SuffixDigits) : Routine SplitChoice := do
    let names := { choice.names with digits }
    match value with
    | none => return { choice with names }
    | some word =>
      let n? := if digits = .decimal then natural? word
        else word.toList.foldlM (fun (n : Nat) c =>
          (SuffixDigits.hexadecimal.all.findIdx? (· = c.toLower)).map (16 * n + ·)) 0
      match n? with
      | some first => return { choice with names := { names with first, mayGrow := false } }
      | none =>
        complain name (quotedAlways word ++ ": invalid start value for "
          ++ (if digits = .decimal then "numerical" else "hexadecimal") ++ " suffix")
        quit 1
  match letter with
  | 'l' => setRule (.lines (← splitNumber name "lines" word))
  | 'b' => setRule (.bytes (← splitNumber name "bytes" word))
  | 'C' => setRule (.lineBytes (← splitNumber name "bytes" word))
  | 'n' => setRule (← pieceRule name word)
  | 'd' => setDigits .decimal
  | 'x' => setDigits .hexadecimal
  | 'a' =>
    match natural? word with
    | some width => return { choice with width := some width }
    | none =>
      complain name ("invalid suffix length: " ++ quotedWord word)
      quit 1
  | 'S' =>
    if word.contains '/' then
      complainOfUse name ("invalid suffix " ++ quotedWord word ++ ", contains directory separator")
      quit 1
    return { choice with names := { choice.names with ending := word } }
  | 't' =>
    match word, (Text.toBytes word).toList with
    | "\\0", _ => return { choice with separator := 0 }
    | _, [byte] => return { choice with separator := byte }
    | _, [] =>
      complain name "empty record separator"
      quit 1
    | _, _ =>
      complain name ("multi-character separator " ++ quotedWord word)
      quit 1
  | letter =>
    if letter.isDigit then
      if choice.rule.isSome then
        complainOfUse name "cannot split in more than one way"
        quit 1
      return { choice with digits := choice.digits.push letter }
    return choice

/-- The least number of digits for so many numbers. -/
def widthFor (base count : Nat) : (fuel width : Nat) → Nat
  | 0, width => width
  | fuel + 1, width =>
    if Nat.pow base width ≥ count then width else widthFor base count fuel (width + 1)

/-- Cuts a file into pieces. -/
def split : Program := fun image => do
  let name := image.name
  let parsed ← options splitOptions name image.words
  let choice ← parsed.options.foldlM (fun (choice : SplitChoice) option =>
    choice.add name option.1 option.2) {}
  let rule ← match choice.rule with
    | some rule => pure rule
    | none =>
      if choice.digits = "" then pure (CutRule.lines 1000)
      else do pure (.lines (← splitNumber name "lines" choice.digits))
  let (file, front) ← match parsed.operands with
    | [] => pure ("-", "x")
    | [file] => pure (file, "x")
    | [file, front] => pure (file, front)
    | _ :: _ :: extra :: _ => extraOperand name extra
  let names := { choice.names with front }
  let names ← match rule with
    | .pieces _ count none => do
      let base := names.digits.all.length
      let needed := widthFor base (names.first + count) 20 1
      match choice.width with
      | some width =>
        if width ≠ 0 && width < needed then
          complain name ("the suffix length needs to be at least " ++ toString needed)
          quit 1
        pure { names with width := if width = 0 then max 2 needed else width, mayGrow := false }
      | none => pure { names with width := max 2 needed, mayGrow := false }
    | _ =>
      pure <| match choice.width with
        | some 0 | none => names
        | some width => { names with width, mayGrow := false }
  let request : SplitRequest :=
    { rule, names, leavesOutEmpty := parsed.has 'e', verbose := parsed.has 'v'
      ending := choice.separator }
  let opened ← if file = "-" then pure (.ok standardInput) else perform (.openFile file .input)
  match opened with
  | .error errno =>
    complain name ("cannot open " ++ quotedAlways file ++ " for reading: " ++ errno.description)
    return 1
  | .ok descriptor =>
    match ← readAll descriptor .empty budget with
    | .error errno =>
      complainOfFile name file errno
      return 1
    | .ok bytes =>
      let pieces := request.pieces bytes
      match rule with
      | .pieces _ _ (some n) =>
        put name (pieces.getD (n - 1) .empty)
        return 0
      | _ =>
        request.writePieces name 0 pieces
        return 0

end CommandShell.Machine.Program
