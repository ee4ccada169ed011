import CommandShell.Machine.Program.Characters
set_option autoImplicit false

/-!
# Regular expressions

Basic and extended regular expressions over bytes.  Among the matches that begin first the longest
one counts; of several ways to the same end, the one that repeats most.
-/

namespace CommandShell.Machine.Regex

open Program (Line)

/-- A regular expression. -/
inductive Expr where
  | empty
  /-- One byte that the table has. -/
  | set (table : Array Bool)
  | lineStart
  | lineEnd
  /-- A place with a letter or digit on one side only; `isEdge` false: on both or neither. -/
  | wordEdge (isEdge : Bool)
  | wordStart
  | wordEnd
  | group (number : Nat) (body : Expr)
  | reference (number : Nat)
  | sequence (first second : Expr)
  | choice (first second : Expr)
  | repeat (body : Expr) (least : Nat) (most : Option Nat)

/-- Why an expression is refused. -/
inductive Fault where
  | openGroup
  | closeGroup
  | openBracket
  | openBrace
  | badBrace
  | badRange
  | trailingBackslash
  | badReference
  | nothingToRepeat
  | badClass
  deriving DecidableEq

/-- The wording of a refusal. -/
def Fault.message : Fault → String
  | openGroup => "Unmatched ( or \\("
  | closeGroup => "Unmatched ) or \\)"
  | openBracket => "Unmatched [, [^, [:, [., or [="
  | openBrace => "Unmatched \\\x7b"
  | badBrace => "Invalid content of \\\x7b\\\x7d"
  | badRange => "Invalid range end"
  | trailingBackslash => "Trailing backslash"
  | badReference => "Invalid back reference"
  | nothingToRepeat => "Invalid preceding regular expression"
  | badClass => "Invalid character class name"

/-! ## Reading -/

/-- What the reader still has to read, and how many groups it has met. -/
structure Rest where
  bytes : List UInt8
  groups : Nat

/-- A byte of a word. -/
def isWordByte (byte : UInt8) : Bool := Program.isAlphanumericByte byte || byte = 0x5F

/-- The table of the bytes for which a test holds. -/
def tableWhere (test : UInt8 → Bool) : Array Bool :=
  ((List.range 256).map fun n => test (UInt8.ofNat n)).toArray

/-- The members of a bracket expression after its first one. -/
def readMembers : (fuel : Nat) → (isFirst : Bool) → List UInt8 →
    Except Fault (List UInt8 × List UInt8)
  | 0, _, _ => .error .openBracket
  | _, _, [] => .error .openBracket
  | fuel + 1, isFirst, byte :: rest =>
    if byte = 0x5D && !isFirst then .ok ([], rest)
    else
      let body (mark : UInt8) (rest : List UInt8) : Option (List UInt8 × List UInt8) :=
        Program.classBody mark (rest.map (·, false)) |>.map fun (name, rest) =>
          (name, rest.map Prod.fst)
      match byte, rest with
      | 0x5B, 0x3A :: inner =>
        match body 0x3A inner with
        | none => .error .openBracket
        | some (name, rest) =>
          match Program.classBytes? (Text.ofBytes (Program.pack name)) with
          | none => .error .badClass
          | some bytes =>
            (readMembers fuel false rest).map fun (more, rest) => (bytes ++ more, rest)
      | 0x5B, 0x3D :: inner | 0x5B, 0x2E :: inner =>
        match body (rest.head?.getD 0) inner with
        | none => .error .openBracket
        | some (bytes, rest) =>
          (readMembers fuel false rest).map fun (more, rest) => (bytes ++ more, rest)
      | low, 0x2D :: high :: after =>
        if high = 0x5D then
          (readMembers fuel false rest).map fun (more, rest) => (low :: more, rest)
        else if high < low then .error .badRange
        else
          let bytes := (List.range' low.toNat (high.toNat + 1 - low.toNat)).map UInt8.ofNat
          (readMembers fuel false after).map fun (more, rest) => (bytes ++ more, rest)
      | byte, rest => (readMembers fuel false rest).map fun (more, rest) => (byte :: more, rest)

/-- Reads a bracket expression after its opening bracket. -/
def readBracket (bytes : List UInt8) : Except Fault (Expr × List UInt8) := do
  let (negated, bytes) : Bool × List UInt8 := match bytes with
    | 0x5E :: rest => (true, rest)
    | bytes => (false, bytes)
  let (members, rest) ← readMembers (bytes.length + 1) true bytes
  let table := Program.tableOf members
  return (.set (if negated then table.map (!·) else table), rest)

/-- Reads the numbers between braces, up to the closing brace. -/
def readBraces (extended : Bool) (bytes : List UInt8) :
    Except Fault (Nat × Option Nat × List UInt8) := do
  let number (bytes : List UInt8) : Option Nat × List UInt8 :=
    let digits := bytes.takeWhile Program.isDigit
    (if digits.isEmpty then none
      else some (digits.foldl (fun n b => 10 * n + (b.toNat - 0x30)) 0),
      bytes.drop digits.length)
  let close (bytes : List UInt8) : Except Fault (List UInt8) :=
    match extended, bytes with
    | true, 0x7D :: rest => .ok rest
    | false, 0x5C :: 0x7D :: rest => .ok rest
    | _, [] => .error .openBrace
    | _, _ => .error .badBrace
  let (least, rest) := number bytes
  match rest with
  | 0x2C :: rest =>
    let (most, rest) := number rest
    let rest ← close rest
    if most.any (· < least.getD 0) then throw .badBrace
    return (least.getD 0, most, rest)
  | rest =>
    let rest ← close rest
    match least with
    | some n => return (n, some n, rest)
    | none => throw .badBrace

/-- The bytes after an opening brace are numbers up to a closing one; otherwise the brace of an
extended expression stands for itself. -/
def areNumbers (bytes : List UInt8) : Bool :=
  let inside := bytes.takeWhile fun b => Program.isDigit b || b = 0x2C
  !inside.isEmpty && inside.count 0x2C ≤ 1 && bytes[inside.length]? = some 0x7D

/-- An operator that repeats what is before it, at the front of some bytes. -/
def readRepeat (extended : Bool) (bytes : List UInt8) :
    Except Fault (Option (Nat × Option Nat × List UInt8)) :=
  match extended, bytes with
  | _, 0x2A :: rest => .ok (some (0, none, rest))
  | true, 0x2B :: rest | false, 0x5C :: 0x2B :: rest => .ok (some (1, none, rest))
  | true, 0x3F :: rest | false, 0x5C :: 0x3F :: rest => .ok (some (0, some 1, rest))
  | true, 0x7B :: rest =>
    if areNumbers rest then (readBraces true rest).map some else .ok none
  | false, 0x5C :: 0x7B :: rest => (readBraces false rest).map some
  | _, _ => .ok none

/-- Applies the operators that repeat an expression. -/
def readRepeats (extended : Bool) : (fuel : Nat) → Expr → List UInt8 →
    Except Fault (Expr × List UInt8)
  | 0, expr, bytes => .ok (expr, bytes)
  | fuel + 1, expr, bytes => do
    match ← readRepeat extended bytes with
    | none => return (expr, bytes)
    | some (least, most, rest) => readRepeats extended fuel (.repeat expr least most) rest

/-- The expression of an escape, with the bytes after it. -/
def readEscape (groups : Nat) (byte : UInt8) : Except Fault Expr :=
  match Program.asciiChar byte with
  | 'w' => .ok (.set (tableWhere isWordByte))
  | 'W' => .ok (.set (tableWhere fun b => !isWordByte b))
  | 's' => .ok (.set (tableWhere Program.isSpace))
  | 'S' => .ok (.set (tableWhere fun b => !Program.isSpace b))
  | 'b' => .ok (.wordEdge true)
  | 'B' => .ok (.wordEdge false)
  | '<' => .ok .wordStart
  | '>' => .ok .wordEnd
  | '\u0060' => .ok .lineStart
  | '\'' => .ok .lineEnd
  | 'n' => .ok (.set (tableWhere (· = 0x0A)))
  | 't' => .ok (.set (tableWhere (· = 0x09)))
  | _ =>
    if Program.isDigit byte && byte ≠ 0x30 then
      let n := byte.toNat - 0x30
      if n ≤ groups then .ok (.reference n) else .error .badReference
    else .ok (.set (tableWhere (· = byte)))

/-- The bytes begin with an operator that ends a branch: a choice, or the end of a group. -/
def endsBranch (extended : Bool) (depth : Nat) (bytes : List UInt8) : Bool :=
  match extended, bytes with
  | _, [] => true
  | true, 0x7C :: _ | false, 0x5C :: 0x7C :: _ => true
  | true, 0x29 :: _ => depth > 0
  | false, 0x5C :: 0x29 :: _ => depth > 0
  | _, _ => false

/-- Reads one atom with the operators that repeat it.  `choices` reads what is in a group. -/
def readAtom (choices : (depth : Nat) → Rest → Except Fault (Expr × Rest)) (extended : Bool)
    (depth : Nat) (atStart : Bool) (rest : Rest) : Except Fault (Expr × Rest) := do
  let repeated (expr : Expr) (bytes : List UInt8) (groups : Nat) :
      Except Fault (Expr × Rest) := do
    let (expr, bytes) ← readRepeats extended (bytes.length + 1) expr bytes
    return (expr, ⟨bytes, groups⟩)
  let group (bytes : List UInt8) : Except Fault (Expr × Rest) := do
    let number := rest.groups + 1
    let (body, inner) ← choices (depth + 1) ⟨bytes, number⟩
    match extended, inner.bytes with
    | true, 0x29 :: bytes | false, 0x5C :: 0x29 :: bytes =>
      repeated (.group number body) bytes inner.groups
    | _, _ => throw .openGroup
  match extended, rest.bytes with
  | _, [] => return (.empty, rest)
  | true, 0x28 :: bytes => group bytes
  | false, 0x5C :: 0x28 :: bytes => group bytes
  | false, 0x5C :: 0x29 :: _ => throw .closeGroup
  | _, [0x5C] => throw .trailingBackslash
  | _, 0x5C :: byte :: bytes => repeated (← readEscape rest.groups byte) bytes rest.groups
  | _, 0x5B :: bytes => do
    let (expr, bytes) ← readBracket bytes
    repeated expr bytes rest.groups
  | _, 0x2E :: bytes => repeated (.set (tableWhere fun _ => true)) bytes rest.groups
  | true, 0x5E :: bytes => repeated .lineStart bytes rest.groups
  | true, 0x24 :: bytes => repeated .lineEnd bytes rest.groups
  | false, 0x5E :: bytes =>
    if atStart then
      match bytes with
      | 0x2A :: more =>
        let (expr, more) ← readRepeats false (more.length + 1) (.set (tableWhere (· = 0x2A))) more
        return (.sequence .lineStart expr, ⟨more, rest.groups⟩)
      | _ => return (.lineStart, ⟨bytes, rest.groups⟩)
    else repeated (.set (tableWhere (· = 0x5E))) bytes rest.groups
  | false, 0x24 :: bytes =>
    if endsBranch false depth bytes then return (.lineEnd, ⟨bytes, rest.groups⟩)
    else repeated (.set (tableWhere (· = 0x24))) bytes rest.groups
  | true, byte :: bytes =>
    if atStart && (byte = 0x2A || byte = 0x2B || byte = 0x3F) then
      return (.empty, ⟨bytes, rest.groups⟩)
    else repeated (.set (tableWhere (· = byte))) bytes rest.groups
  | false, byte :: bytes => repeated (.set (tableWhere (· = byte))) bytes rest.groups

/-- Reads atoms in a row. -/
def readSequence (choices : (depth : Nat) → Rest → Except Fault (Expr × Rest)) (extended : Bool)
    (depth : Nat) : (fuel : Nat) → (atStart : Bool) → Rest → Except Fault (Expr × Rest)
  | 0, _, rest => .ok (.empty, rest)
  | fuel + 1, atStart, rest => do
    if endsBranch extended depth rest.bytes then return (.empty, rest)
    let (first, after) ← readAtom choices extended depth atStart rest
    if after.bytes.length ≥ rest.bytes.length then return (first, after)
    let (second, after) ← readSequence choices extended depth fuel false after
    return (.sequence first second, after)

/-- Reads sequences with choices between them. -/
def readChoices (extended : Bool) : (fuel : Nat) → (depth : Nat) → Rest →
    Except Fault (Expr × Rest)
  | 0, _, _ => .error .openGroup
  | fuel + 1, depth, rest => do
    let (first, after) ← readSequence (readChoices extended fuel) extended depth
      (rest.bytes.length + 1) true rest
    match extended, after.bytes with
    | true, 0x7C :: bytes | false, 0x5C :: 0x7C :: bytes =>
      let (second, after) ← readChoices extended fuel depth ⟨bytes, after.groups⟩
      return (.choice first second, after)
    | _, _ => return (first, after)

/-- Reads a regular expression. -/
def read (extended : Bool) (bytes : List UInt8) : Except Fault Expr := do
  let (expr, rest) ← readChoices extended (2 * bytes.length + 2) 0 ⟨bytes, 0⟩
  if rest.bytes.isEmpty then return expr
  else throw .closeGroup

/-- An expression that matches just some bytes. -/
def literal (bytes : List UInt8) : Expr :=
  bytes.foldr (fun byte expr => .sequence (.set (tableWhere (· = byte))) expr) .empty

/-- The expression with both cases of each letter. -/
def Expr.ignoreCase : Expr → Expr
  | .set table =>
    .set (tableWhere fun b =>
      table.getD b.toNat false || table.getD (Program.toLower b).toNat false
        || table.getD (Program.toUpper b).toNat false)
  | .group number body => .group number body.ignoreCase
  | .sequence first second => .sequence first.ignoreCase second.ignoreCase
  | .choice first second => .choice first.ignoreCase second.ignoreCase
  | .repeat body least most => .repeat body.ignoreCase least most
  | expr => expr

/-- How many groups an expression has. -/
def Expr.groupCount : Expr → Nat
  | .group _ body => body.groupCount + 1
  | .sequence first second | .choice first second => first.groupCount + second.groupCount
  | .repeat body _ _ => body.groupCount
  | _ => 0

/-! ## Matching -/

/-- A way to match so far: where it ends, and where its groups begin and end. -/
structure Path where
  position : Nat
  groups : List (Nat × Nat × Nat)
  deriving DecidableEq

/-- A text that is matched against. -/
structure Subject where
  bytes : Array UInt8
  ignoreCase : Bool := false

namespace Subject

/-- A byte of a word stands at a position. -/
def isWordAt (subject : Subject) (position : Nat) : Bool :=
  (subject.bytes[position]?).any isWordByte

/-- A byte of a word stands before a position. -/
def isWordBefore (subject : Subject) (position : Nat) : Bool :=
  position > 0 && subject.isWordAt (position - 1)

/-- The bytes from a position on are the same as those of a part of the text. -/
def repeats (subject : Subject) (start finish position : Nat) : Bool :=
  (List.range (finish - start)).all fun i =>
    match subject.bytes[start + i]?, subject.bytes[position + i]? with
    | some a, some b =>
      a = b || (subject.ignoreCase && Program.toLower a = Program.toLower b)
    | _, _ => false

end Subject

/-- Leaves out ways that end like an earlier one. -/
def distinct (paths : List Path) : List Path :=
  paths.foldl (fun kept path => if kept.contains path then kept else kept ++ [path]) []

/-- The ways to go on by repeating at most so many times, those that repeat most first. -/
def repeatPaths (once : Path → List Path) (least : Nat) (most : Option Nat) :
    (fuel : Nat) → (done : Nat) → Path → List Path
  | 0, _, path => [path]
  | fuel + 1, done, path =>
    let stop := if done ≥ least then [path] else []
    if most.any (done ≥ ·) then stop
    else
      let next := (once path).filter fun other =>
        other.position ≠ path.position || done < least
      distinct (next.flatMap (repeatPaths once least most fuel (done + 1)) ++ stop)

/-- The ways to match an expression from the end of another way on. -/
def Expr.paths (subject : Subject) : Expr → Path → List Path
  | .empty, path => [path]
  | .set table, path =>
    match subject.bytes[path.position]? with
    | some byte =>
      if table.getD byte.toNat false then [{ path with position := path.position + 1 }] else []
    | none => []
  | .lineStart, path => if path.position = 0 then [path] else []
  | .lineEnd, path => if path.position = subject.bytes.size then [path] else []
  | .wordEdge isEdge, path =>
    if (subject.isWordBefore path.position != subject.isWordAt path.position) = isEdge then [path]
    else []
  | .wordStart, path =>
    if !subject.isWordBefore path.position && subject.isWordAt path.position then [path] else []
  | .wordEnd, path =>
    if subject.isWordBefore path.position && !subject.isWordAt path.position then [path] else []
  | .group number body, path =>
    (body.paths subject path).map fun other =>
      { other with groups :=
          (number, path.position, other.position) :: other.groups.filter (·.1 ≠ number) }
  | .reference number, path =>
    match path.groups.lookup number with
    | some (start, finish) =>
      if subject.repeats start finish path.position then
        [{ path with position := path.position + (finish - start) }]
      else []
    | none => []
  | .sequence first second, path =>
    distinct ((first.paths subject path).flatMap (second.paths subject))
  | .choice first second, path =>
    distinct (first.paths subject path ++ second.paths subject path)
  | .repeat body least most, path =>
    repeatPaths (body.paths subject) least most (subject.bytes.size + least + 2) 0 path

/-- A match: where it begins and ends, and where its groups do. -/
structure Match where
  start : Nat
  finish : Nat
  groups : List (Nat × Nat × Nat)

/-- The longest match that begins at a position. -/
def Expr.matchAt? (expr : Expr) (subject : Subject) (start : Nat) : Option Match :=
  let best := (expr.paths subject ⟨start, []⟩).foldl (fun (best : Option Path) path =>
    match best with
    | some other => if path.position > other.position then some path else best
    | none => some path) none
  best.map fun path => ⟨start, path.position, path.groups⟩

/-- The first match that begins at a position or later, looking at so many positions. -/
def Expr.searchFrom (expr : Expr) (subject : Subject) : (count start : Nat) → Option Match
  | 0, _ => none
  | count + 1, start =>
    match expr.matchAt? subject start with
    | some found => some found
    | none => expr.searchFrom subject count (start + 1)

/-- The first match from a position on. -/
def Expr.search (expr : Expr) (subject : Subject) (start : Nat := 0) : Option Match :=
  expr.searchFrom subject (subject.bytes.size + 1 - start) start

end CommandShell.Machine.Regex
