import CommandShell.Machine.Program.Basic
set_option autoImplicit false

/-!
# Tests of files

What can be asked about the file at a path.  A file that is not there passes no test.
-/

namespace CommandShell.Machine.Program

/-- The letters that ask about a file. -/
def fileTestLetters : List Char := "bcdefghkLOGpSrsuwxN".toList

/-- The answer to what a letter asks about the file at a path. -/
def fileTest (letter : Char) (path : String) : Routine Bool := do
  match ← perform (.stat path (letter ≠ 'h' && letter ≠ 'L')) with
  | .error _ => return false
  | .ok info =>
    match letter with
    | 'e' => return true
    | 'f' => return info.kind = .regular
    | 'd' => return info.kind = .directory
    | 'h' | 'L' => return info.kind = .link
    | 'p' => return info.kind = .pipe
    | 'c' => return info.kind = .device
    | 's' => return info.size > 0
    | 'r' => return info.permits .read
    | 'w' => return info.permits .write
    | 'x' => return info.permits .execute
    | 'O' | 'G' => return info.owned
    | 'u' => return info.mode &&& 0o4000 != 0
    | 'g' => return info.mode &&& 0o2000 != 0
    | 'k' => return info.mode &&& 0o1000 != 0
    | _ => return false

/-- The operators between the paths of two files. -/
def fileComparisons : List String := ["-nt", "-ot", "-ef"]

/-- The answer to a comparison of two files.  A file that is there is newer than one that is
not; the times of files are not told apart. -/
def compareFiles (operator first second : String) : Routine Bool := do
  let a := (← perform (.stat first true)).toOption
  let b := (← perform (.stat second true)).toOption
  match operator with
  | "-nt" => return a.isSome && b.isNone
  | "-ot" => return a.isNone && b.isSome
  | "-ef" => return a.isSome && a.map NodeInfo.id == b.map NodeInfo.id
  | _ => return false

/-- The operators between two numbers. -/
def compareIntegers? (operator : String) (a b : Int) : Option Bool :=
  match operator with
  | "-eq" => some (a = b)
  | "-ne" => some (a ≠ b)
  | "-lt" => some (a < b)
  | "-le" => some (a ≤ b)
  | "-gt" => some (a > b)
  | "-ge" => some (a ≥ b)
  | _ => none

/-- The operators between two texts. -/
def compareTexts? (operator : String) (a b : String) : Option Bool :=
  let before (x y : String) : Bool :=
    x ≠ y && bytesLe (Text.toBytes x).toList (Text.toBytes y).toList
  match operator with
  | "=" => some (a = b)
  | "!=" => some (a ≠ b)
  | "<" => some (before a b)
  | ">" => some (before b a)
  | _ => none

end CommandShell.Machine.Program
