import CommandShell.Machine.Program.Options
import CommandShell.Machine.Program.Wording
import CommandShell.Machine.Routine
import CommandShell.Text.Lines
set_option autoImplicit false

/-!
# Programs of the system

What the small programs of the system have in common: they read standard input or the files that
they are given, write to standard output, and complain on standard error in the name by which they
were called.  A program that would go on for ever stops after a number of calls that no finite
input needs.
-/

namespace CommandShell.Machine

/-- What a program does with the words that it is started with: its exit code. -/
abbrev Program := Image → Routine Nat

namespace Program

variable {α : Type}

/-- How many bytes are read at once. -/
def blockSize : Nat := 8192

/-- How many blocks a program moves at most. -/
def budget : Nat := 1000000

/-- Ends the process. -/
def quit (code : Nat) : Routine α := .exit code

/-- The exit code of a program that did or did not do all it should. -/
def codeOf (succeeded : Bool) : Nat := if succeeded then 0 else 1

/-- Bytes in a row. -/
def pack (bytes : List UInt8) : ByteArray := ⟨bytes.toArray⟩

/-- Writes a complaint to standard error. -/
def complain (name text : String) : Routine Unit := do
  let _ ← perform (.write standardError (Text.toBytes (name ++ ": " ++ text ++ "\n")))

/-- Complains, and points to the program's help. -/
def complainOfUse (name text : String) : Routine Unit := do
  complain name text
  let _ ← perform (.write standardError
    (Text.toBytes ("Try '" ++ name ++ " --help' for more information.\n")))

/-- Writes bytes to standard output.  A failure ends the program. -/
def put (name : String) (bytes : ByteArray) (failure : Nat := 1) : Routine Unit := do
  if bytes.isEmpty then return
  match ← perform (.write standardOutput bytes) with
  | .ok () => return
  | .error errno =>
    complain name ("write error: " ++ errno.description)
    quit failure

/-- Writes text to standard output. -/
def putText (name text : String) : Routine Unit := put name (Text.toBytes text)

/-- Understands the arguments of a program; a refusal ends it. -/
def options (table : OptionTable) (name : String) (arguments : List String)
    (failure : Nat := 1) : Routine Parsed := do
  match table.parse arguments with
  | .ok parsed => return parsed
  | .error fault =>
    complainOfUse name fault.message
    quit failure

/-- Complains about missing operands: that ends the program. -/
def missingOperand (name : String) (failure : Nat := 1) : Routine α := do
  complainOfUse name "missing operand"
  quit failure

/-- Complains about an operand too many: that ends the program. -/
def extraOperand (name operand : String) (failure : Nat := 1) : Routine α := do
  complainOfUse name ("extra operand " ++ quotedWord operand)
  quit failure

/-! ## Reading -/

/-- Gives each block of an open file to `use`, until there is no more or `use` says so. -/
def eachBlock (descriptor : Descriptor) (use : ByteArray → Routine Bool)
    (size : Nat := blockSize) : (fuel : Nat) → Routine (Except Errno Unit)
  | 0 => return .ok ()
  | fuel + 1 => do
    match ← perform (.read descriptor size) with
    | .error errno => return .error errno
    | .ok bytes =>
      if bytes.isEmpty then return .ok ()
      if ← use bytes then eachBlock descriptor use size fuel else return .ok ()

/-- All that an open file still holds, after the bytes read so far. -/
def readAll (descriptor : Descriptor) (sofar : ByteArray) :
    (fuel : Nat) → Routine (Except Errno ByteArray)
  | 0 => return .ok sofar
  | fuel + 1 => do
    match ← perform (.read descriptor blockSize) with
    | .error errno => return .error errno
    | .ok bytes =>
      if bytes.isEmpty then return .ok sofar else readAll descriptor (sofar ++ bytes) fuel

/-- All bytes of a file, where `-` is standard input. -/
def readFile (name : String) : Routine (Except Errno ByteArray) := do
  if name = "-" then readAll standardInput .empty budget
  else
    match ← perform (.openFile name .input) with
    | .error errno => return .error errno
    | .ok descriptor =>
      let result ← readAll descriptor .empty budget
      let _ ← perform (.close descriptor)
      return result

/-- The files that a program is given; none at all means standard input. -/
def orStandardInput (names : List String) : List String :=
  if names.isEmpty then ["-"] else names

/-- Opens each of the files that a program is given, where `-` is standard input, for `use`.  What
fails is told to `complaint`, and then the result is false. -/
def eachFile (use : String → Descriptor → Routine (Except Errno Unit))
    (complaint : String → (opened : Bool) → Errno → Routine Unit) :
    List String → Routine Bool
  | [] => return true
  | name :: rest => do
    let succeeded ←
      if name = "-" then do
        match ← use name standardInput with
        | .ok () => pure true
        | .error errno =>
          complaint name true errno
          pure false
      else do
        match ← perform (.openFile name .input) with
        | .error errno =>
          complaint name false errno
          pure false
        | .ok descriptor =>
          let result ← use name descriptor
          let _ ← perform (.close descriptor)
          match result with
          | .ok () => pure true
          | .error errno =>
            complaint name true errno
            pure false
    let others ← eachFile use complaint rest
    return succeeded && others

/-- The complaint that names a file and the reason. -/
def complainOfFile (name file : String) (errno : Errno) : Routine Unit :=
  complain name (quotedBeforeColon file ++ ": " ++ errno.description)

/-! ## Lines -/

/-- A line feed. -/
def lineFeed : UInt8 := Text.lineFeed

/-- The lines of a text, without the byte that ends each. -/
def linesOf (bytes : ByteArray) (ending : UInt8 := lineFeed) : List (List UInt8) :=
  let cut (state : List (List UInt8) × List UInt8) (byte : UInt8) :
      List (List UInt8) × List UInt8 :=
    if byte = ending then (state.2.reverse :: state.1, []) else (state.1, byte :: state.2)
  let (done, last) := bytes.toList.foldl cut ([], [])
  (if last.isEmpty then done else last.reverse :: done).reverse

/-- Lines as bytes, each with the byte that ends it. -/
def unlines (lines : List (List UInt8)) (ending : UInt8 := lineFeed) : ByteArray :=
  pack (lines.flatMap fun line => line ++ [ending])

/-- Byte strings in order. -/
def bytesLe : List UInt8 → List UInt8 → Bool
  | [], _ => true
  | _ :: _, [] => false
  | a :: as, b :: bs => a < b || (a = b && bytesLe as bs)

/-- A blank. -/
def isBlank (byte : UInt8) : Bool := byte = 0x20 || byte = 0x09

/-- A byte of white space. -/
def isSpace (byte : UInt8) : Bool := byte = 0x20 || (0x09 ≤ byte && byte ≤ 0x0D)

/-- A decimal digit. -/
def isDigit (byte : UInt8) : Bool := 0x30 ≤ byte && byte ≤ 0x39

/-- The lower-case letter for an upper-case one of ASCII. -/
def toLower (byte : UInt8) : UInt8 := if 0x41 ≤ byte && byte ≤ 0x5A then byte + 32 else byte

/-- A number with blanks before it, to a width. -/
def padLeft (width n : Nat) : String :=
  let digits := toString n
  String.ofList (List.replicate (width - digits.length) ' ') ++ digits

/-- A decimal number without sign. -/
def natural? (word : String) : Option Nat :=
  if word ≠ "" && word.toList.all Char.isDigit then word.toNat? else none

/-- A decimal number. -/
def integer? (word : String) : Option Int :=
  match word.toList with
  | '-' :: digits => (natural? (String.ofList digits)).map fun n => -(n : Int)
  | '+' :: digits => (natural? (String.ofList digits)).map Int.ofNat
  | digits => (natural? (String.ofList digits)).map Int.ofNat

end Program

end CommandShell.Machine
