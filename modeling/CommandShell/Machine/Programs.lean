import CommandShell.Machine.Awk.Launch
import CommandShell.Machine.Program.Blocks
import CommandShell.Machine.Program.Characters
import CommandShell.Machine.Program.Checking
import CommandShell.Machine.Program.Comparing
import CommandShell.Machine.Program.Copying
import CommandShell.Machine.Program.Deciding
import CommandShell.Machine.Program.Editing
import CommandShell.Machine.Program.Factors
import CommandShell.Machine.Program.Finding
import CommandShell.Machine.Program.Joining
import CommandShell.Machine.Program.Listing
import CommandShell.Machine.Program.Matching
import CommandShell.Machine.Program.Moving
import CommandShell.Machine.Program.Output
import CommandShell.Machine.Program.Sections
import CommandShell.Machine.Program.Sorting
import CommandShell.Machine.Program.Splitting
import CommandShell.Machine.Program.Starting
import CommandShell.Machine.Program.Tabs
import CommandShell.Machine.SystemShell.Launch
set_option autoImplicit false

/-!
# The programs of the system

The names under which a machine finds the programs of its system, and what each of them does.
-/

namespace CommandShell.Machine

open Program in
/-- The programs of the system by name. -/
def programTable : List (String × Program) :=
  [("[", test), ("awk", Awk.awk), ("base64", base64), ("basename", basename),
    ("bash", SystemShell.extendedShell), ("cat", cat), ("chmod", chmod), ("cksum", cksum),
    ("cmp", cmp), ("comm", comm), ("cp", cp), ("csplit", csplit), ("cut", cut),
    ("dash", SystemShell.plainShell), ("dd", dd), ("diff", diff), ("dirname", dirname),
    ("echo", echo), ("egrep", egrep), ("env", env), ("expand", expand), ("expr", expr),
    ("factor", factor), ("false", fun _ => return 1), ("fgrep", fgrep), ("find", find),
    ("fold", fold), ("grep", grep), ("head", head), ("join", join), ("ln", ln), ("ls", ls),
    ("mawk", Awk.awk), ("md5sum", digestProgram .md5), ("mkdir", mkdir), ("mkfifo", mkfifo),
    ("more", cat), ("mv", mv), ("nawk", Awk.awk), ("nice", nice), ("nl", nl), ("nohup", nohup),
    ("od", od), ("paste", paste), ("printenv", printenv), ("printf", printf), ("pwd", pwd),
    ("readlink", readlink), ("realpath", realpath), ("rev", rev), ("rm", rm), ("rmdir", rmdir),
    ("sed", sed), ("seq", seq), ("sh", SystemShell.plainShell), ("sha1sum", digestProgram .sha1),
    ("sha224sum", digestProgram .sha224), ("sha256sum", digestProgram .sha256),
    ("sha384sum", digestProgram .sha384), ("sha512sum", digestProgram .sha512), ("sleep", sleep),
    ("sort", sort), ("split", split), ("stat", stat), ("sum", sum), ("tac", tac), ("tail", tail),
    ("tee", tee), ("test", test), ("timeout", timeout), ("touch", touch), ("tr", tr),
    ("true", fun _ => return 0), ("truncate", truncate), ("tty", tty), ("uname", uname),
    ("unexpand", unexpand), ("uniq", uniq), ("wc", wc), ("xargs", xargs), ("yes", yes)]

/-- The names of the programs. -/
def programNames : List String := programTable.map Prod.fst

/-- Runs a program of the system; a name that none of them has runs nothing. -/
def runProgram (name : String) : Program :=
  (programTable.lookup name).getD fun _ => return 127

end CommandShell.Machine
