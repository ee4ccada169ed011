set_option autoImplicit false

/-!
# Paths

A path is a text; slashes separate the names on it.  Nothing here asks what a path leads to.
-/

namespace CommandShell.Path

/-- A path from the root. -/
def isAbsolute (path : String) : Bool := path.startsWith "/"

/-- The names on a path, in order. -/
def names (path : String) : List String := (path.splitOn "/").filter (· ≠ "")

/-- A slash follows the last name. -/
def asksForDirectory (path : String) : Bool := path.endsWith "/"

/-- A path below a directory; a path from the root stands for itself. -/
def join (directory path : String) : String :=
  if isAbsolute path then path
  else if directory = "" || directory.endsWith "/" then directory ++ path
  else directory ++ "/" ++ path

/-- The path without its last name, the empty path if nothing is left; none if there is no name on
it.  A name `.` counts only where a relative path begins with it. -/
def parent? (path : String) : Option String :=
  let counted := (names path).tail.filter (· ≠ ".")
  let first := (names path).head?.filter fun name => name ≠ "." || !isAbsolute path
  match first.toList ++ counted with
  | [] => none
  | names => some ((if isAbsolute path then "/" else "") ++ "/".intercalate names.dropLast)

/-- The last name on a path, where a path of slashes alone has the name `/`. -/
def lastName (path : String) : String :=
  (names path).getLast?.getD (if isAbsolute path then "/" else "")

/-- The path without the slashes at its end; the root keeps one. -/
def withoutEndSlashes (path : String) : String :=
  let stripped := path.toList.reverse.dropWhile (· = '/')
  if stripped.isEmpty then (if path = "" then "" else "/") else String.ofList stripped.reverse

end CommandShell.Path
