import CommandShell.Machine.Digest
import CommandShell.Machine.Program.Basic
set_option autoImplicit false

/-!
# Programs that check files

They write digests and sums of files, or look whether files still have the digests that a list says
they have.
-/

namespace CommandShell.Machine.Program

/-! ## Digests -/

/-- A kind of digest. -/
structure DigestKind where
  /-- How it is called in a list. -/
  label : String
  digest : ByteArray → List UInt8
  /-- How many bytes it has. -/
  size : Nat

def DigestKind.md5 : DigestKind := ⟨"MD5", Digest.md5, 16⟩
def DigestKind.sha1 : DigestKind := ⟨"SHA1", Digest.sha1, 20⟩
def DigestKind.sha224 : DigestKind := ⟨"SHA224", Digest.sha224, 28⟩
def DigestKind.sha256 : DigestKind := ⟨"SHA256", Digest.sha256, 32⟩
def DigestKind.sha384 : DigestKind := ⟨"SHA384", Digest.sha384, 48⟩
def DigestKind.sha512 : DigestKind := ⟨"SHA512", Digest.sha512, 64⟩

/-- The kinds of digests by the names that ask for them. -/
def DigestKind.named : List (String × DigestKind) :=
  [("md5", md5), ("sha1", sha1), ("sha224", sha224), ("sha256", sha256), ("sha384", sha384),
    ("sha512", sha512)]

/-- Bytes in hexadecimal digits. -/
def hexadecimalText (bytes : List UInt8) : String :=
  String.ofList (bytes.flatMap fun byte =>
    [Nat.digitChar (byte.toNat / 16), Nat.digitChar (byte.toNat % 16)])

/-- How digests are listed. -/
structure DigestStyle where
  kind : DigestKind
  isBinary : Bool := false
  isTagged : Bool := false
  isZeroEnded : Bool := false

/-- A name that may have been changed so that it fits on one line, and whether it has been. -/
def nameOnLine (name : String) : String × Bool :=
  let isChanged := name.toList.any fun c => c = '\\' || c = '\n' || c = '\r'
  (if isChanged then
    ((name.replace "\\" "\\\\").replace "\n" "\\n").replace "\r" "\\r" else name, isChanged)

/-- A name as it was before it was changed to fit on one line. -/
def nameOffLine : List Char → Option (List Char)
  | [] => some []
  | '\\' :: 'n' :: rest => (nameOffLine rest).map ('\n' :: ·)
  | '\\' :: 'r' :: rest => (nameOffLine rest).map ('\r' :: ·)
  | '\\' :: '\\' :: rest => (nameOffLine rest).map ('\\' :: ·)
  | '\\' :: _ => none
  | c :: rest => (nameOffLine rest).map (c :: ·)

/-- A file in a list of digests. -/
def DigestStyle.line (style : DigestStyle) (name digest : String) : String :=
  let (shown, isChanged) := if style.isZeroEnded then (name, false) else nameOnLine name
  (if isChanged then "\\" else "")
    ++ (if style.isTagged then style.kind.label ++ " (" ++ shown ++ ") = " ++ digest
      else digest ++ (if style.isBinary then " *" else "  ") ++ shown)
    ++ (if style.isZeroEnded then "\u0000" else "\n")

/-- Lists the digests of files. -/
def listDigests (name : String) (style : DigestStyle) (files : List String) : Routine Bool := do
  let mut succeeded := true
  for file in files do
    match ← readFile file with
    | .ok bytes =>
      putText name (style.line file (hexadecimalText (style.kind.digest bytes)))
    | .error errno =>
      complainOfFile name file errno
      succeeded := false
  return succeeded

/-! ## Looking at lists -/

/-- A hexadecimal digit. -/
def isHexDigit (c : Char) : Bool :=
  c.isDigit || ('a' ≤ c && c ≤ 'f') || ('A' ≤ c && c ≤ 'F')

/-- The digest and the name on a line of a list. -/
def DigestKind.readLine? (kind : DigestKind) (line : String) : Option (String × String) := do
  let cs := line.toList.dropWhile fun c => c = ' ' || c = '\t'
  let (isChanged, cs) : Bool × List Char := match cs with
    | '\\' :: rest => (true, rest)
    | cs => (false, cs)
  let isDigest (digest : List Char) : Bool :=
    digest.length = 2 * kind.size && digest.all isHexDigit
  let (digest, shown) ← (do
    let head := (kind.label ++ " (").toList
    if head.isPrefixOf cs then
      let body := cs.drop head.length
      let digest := body.drop (body.length - 2 * kind.size)
      let front := body.take (body.length - 2 * kind.size)
      let tail := ") = ".toList
      if isDigest digest && tail.isSuffixOf front then
        some (digest, front.take (front.length - tail.length))
      else none
    else
      let digest := cs.take (2 * kind.size)
      match cs.drop (2 * kind.size) with
      | ' ' :: mark :: shown =>
        if isDigest digest && (mark = ' ' || mark = '*') then some (digest, shown) else none
      | _ => none)
  let file ← if isChanged then nameOffLine shown else some shown
  if file.isEmpty then none
  else some (String.ofList (digest.map Char.toLower), String.ofList file)

/-- What is told about a list of digests. -/
structure CheckStyle where
  kind : DigestKind
  ignoresMissing : Bool
  isQuiet : Bool
  isSilent : Bool
  isStrict : Bool
  warns : Bool

/-- What has been found out about a list of digests. -/
structure CheckCounts where
  read : Nat := 0
  matching : Nat := 0
  unreadable : Nat := 0
  different : Nat := 0
  malformed : Nat := 0

/-- Looks at one line of a list. -/
def checkLine (name list : String) (style : CheckStyle) (counts : CheckCounts) (number : Nat)
    (line : String) : Routine CheckCounts := do
  if line.startsWith "#" then return counts
  match style.kind.readLine? line with
  | none =>
    if style.warns then
      complain name (quotedBeforeColon list ++ ": " ++ toString number ++ ": improperly formatted "
        ++ style.kind.label ++ " checksum line")
    return { counts with malformed := counts.malformed + 1 }
  | some (digest, file) =>
    let counts := { counts with read := counts.read + 1 }
    let (shown, isChanged) := nameOnLine file
    let shown := if isChanged then "\\" ++ shown else shown
    match ← readFile file with
    | .error errno =>
      if style.ignoresMissing && errno = .noEntry then return counts
      complainOfFile name file errno
      if !style.isSilent then putText name (shown ++ ": FAILED open or read\n")
      return { counts with unreadable := counts.unreadable + 1 }
    | .ok bytes =>
      if hexadecimalText (style.kind.digest bytes) = digest then
        if !(style.isSilent || style.isQuiet) then putText name (shown ++ ": OK\n")
        return { counts with matching := counts.matching + 1 }
      else
        if !style.isSilent then putText name (shown ++ ": FAILED\n")
        return { counts with different := counts.different + 1 }

/-- A warning about a number of things. -/
def warnOfCount (name : String) (count : Nat) (one many : String) : Routine Unit := do
  if count > 0 then
    complain name ("WARNING: " ++ toString count ++ " " ++ (if count = 1 then one else many))

/-- Looks whether the files of a list have their digests. -/
def checkList (name : String) (style : CheckStyle) (list : String) : Routine Bool := do
  match ← readFile list with
  | .error errno =>
    complainOfFile name list errno
    return false
  | .ok bytes =>
    let shown := if list = "-" then "standard input" else list
    let mut counts : CheckCounts := {}
    for (line, i) in (linesOf bytes).zipIdx do
      let line := Text.ofBytes (pack (if line.getLast? = some 0x0D then line.dropLast else line))
      counts ← checkLine name shown style counts (i + 1) line
    if counts.read = 0 then
      complain name (quotedBeforeColon shown ++ ": no properly formatted checksum lines found")
      return false
    if !style.isSilent then
      warnOfCount name counts.malformed "line is improperly formatted"
        "lines are improperly formatted"
      warnOfCount name counts.unreadable "listed file could not be read"
        "listed files could not be read"
      warnOfCount name counts.different "computed checksum did NOT match"
        "computed checksums did NOT match"
      if style.ignoresMissing && counts.matching = 0 then
        complain name (quotedBeforeColon shown ++ ": no file was verified")
    return counts.matching > 0 && counts.different = 0 && counts.unreadable = 0
      && !(style.isStrict && counts.malformed > 0)

/-- The options of the programs that list digests. -/
def digestOptions : OptionTable :=
  { letters := OptionTable.flags "bctwz"
    words := [("binary", .none, 'b'), ("check", .none, 'c'), ("tag", .none, 'T'),
      ("text", .none, 't'), ("warn", .none, 'w'), ("zero", .none, 'z'), ("quiet", .none, 'Q'),
      ("status", .none, 'S'), ("strict", .none, 'R'), ("ignore-missing", .none, 'I')] }

/-- Lists digests or looks at lists of them, as options say. -/
def digestFiles (name : String) (style : DigestStyle) (parsed : Parsed) : Routine Nat := do
  let files := orStandardInput parsed.operands
  if parsed.has 'c' then
    let style : CheckStyle :=
      { kind := style.kind, ignoresMissing := parsed.has 'I', isQuiet := parsed.has 'Q'
        isSilent := parsed.has 'S', isStrict := parsed.has 'R', warns := parsed.has 'w' }
    let results ← files.mapM (checkList name style)
    return codeOf (results.all id)
  else
    if let some (letter, word) := [('I', "ignore-missing"), ('S', "status"), ('w', "warn"),
        ('Q', "quiet"), ('R', "strict")].find? fun (letter, _) => parsed.has letter then
      let _ := letter
      complainOfUse name
        ("the --" ++ word ++ " option is meaningful only when verifying checksums")
      return 1
    return codeOf (← listDigests name style files)

/-- A program that lists digests of one kind. -/
def digestProgram (kind : DigestKind) : Program := fun image => do
  let parsed ← options digestOptions image.name image.words
  digestFiles image.name
    { kind, isTagged := parsed.has 'T', isZeroEnded := parsed.has 'z'
      isBinary := parsed.last? "bt" = some 'b' } parsed

/-! ## Sums -/

/-- Writes a line about each file; `name?` is the file's name where it is to be shown. -/
def sumFiles (name : String) (operands : List String)
    (line : ByteArray → (name? : String) → String) : Routine Nat := do
  let mut succeeded := true
  for file in orStandardInput operands do
    match ← readFile file with
    | .ok bytes =>
      putText name (line bytes (if operands.isEmpty then "" else " " ++ file) ++ "\n")
    | .error errno =>
      complainOfFile name file errno
      succeeded := false
  return codeOf succeeded

/-- A quotient rounded up. -/
def roundedUp (n unit : Nat) : Nat := (n + unit - 1) / unit

/-- A number with zeros before it. -/
def zeroPadded (width n : Nat) : String :=
  let digits := toString n
  String.ofList (List.replicate (width - digits.length) '0') ++ digits

/-- A line with the sum that is turned. -/
def turnedSumLine (bytes : ByteArray) (file : String) : String :=
  zeroPadded 5 (Digest.turnedSum bytes) ++ " " ++ padLeft 5 (roundedUp bytes.size 1024) ++ file

/-- A line with the sum of all bytes. -/
def plainSumLine (bytes : ByteArray) (file : String) : String :=
  toString (Digest.plainSum bytes) ++ " " ++ toString (roundedUp bytes.size 512) ++ file

/-- A line with the check by division. -/
def crcLine (bytes : ByteArray) (file : String) : String :=
  toString (Digest.crc bytes) ++ " " ++ toString bytes.size ++ file

/-- Writes sums of files. -/
def sum : Program := fun image => do
  let parsed ← options
    { letters := OptionTable.flags "rs", words := [("sysv", .none, 's')] } image.name image.words
  sumFiles image.name parsed.operands
    (if parsed.last? "rs" = some 's' then plainSumLine else turnedSumLine)

/-- The options of `cksum`. -/
def cksumOptions : OptionTable :=
  { digestOptions with
    letters := OptionTable.flags "cwz" ++ OptionTable.valued "al"
    words := digestOptions.words
      ++ [("algorithm", .required, 'a'), ("untagged", .none, 'U'), ("length", .required, 'l')] }

/-- Writes checks of files, or digests of another kind. -/
def cksum : Program := fun image => do
  let name := image.name
  let parsed ← options cksumOptions name image.words
  match (parsed.value? 'a').getD "crc" with
  | "crc" => sumFiles name parsed.operands crcLine
  | "bsd" => sumFiles name parsed.operands turnedSumLine
  | "sysv" => sumFiles name parsed.operands plainSumLine
  | word =>
    match DigestKind.named.lookup word with
    | some kind =>
      digestFiles name
        { kind, isTagged := !parsed.has 'U', isZeroEnded := parsed.has 'z' } parsed
    | none =>
      complainOfUse name ("invalid argument " ++ quotedWord word ++ " for '--algorithm'")
      return 1

end CommandShell.Machine.Program
