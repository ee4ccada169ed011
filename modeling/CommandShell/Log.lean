import CommandShell.Executor
import CommandShell.Text.ControlSequence
set_option autoImplicit false

/-!
# The log

Records with a level, and what each notice of the interpreter writes to its standard error and to
the log.
-/

namespace CommandShell

/-- How much a record matters; as a limit, `off` lets nothing through. -/
inductive LogLevel where
  | off
  | error
  | warn
  | info
  | debug
  | trace
  deriving DecidableEq

namespace LogLevel

/-- The name of a level. -/
def name : LogLevel → String
  | off => "OFF"
  | error => "ERROR"
  | warn => "WARN"
  | info => "INFO"
  | debug => "DEBUG"
  | trace => "TRACE"

/-- The place of a level, from the least talkative limit on. -/
def rank : LogLevel → Nat
  | off => 0
  | error => 1
  | warn => 2
  | info => 3
  | debug => 4
  | trace => 5

/-- Every level. -/
def all : List LogLevel := [off, error, warn, info, debug, trace]

/-- The level that a text names, whatever the case of its letters; any other text means `warn`. -/
def ofText (text : String) : LogLevel :=
  (all.find? fun level => level.name = text.map Char.toUpper).getD warn

/-- A limit lets a record of a level through. -/
def allows (limit level : LogLevel) : Bool := level.rank ≤ limit.rank

end LogLevel

/-- A record of the log. -/
structure LogRecord where
  level : LogLevel
  text : String
  deriving DecidableEq

/-- A record as a line of the log, which holds no control sequences: one that is still open at the
end of the record takes the line's end with it. -/
def LogRecord.line (record : LogRecord) : String :=
  Text.plain ("[" ++ record.level.name ++ "] " ++ record.text ++ "\n")

/-- One thing that is told. -/
inductive Emission where
  /-- A line on standard error. -/
  | line (text : String)
  | record (record : LogRecord)
  deriving DecidableEq

/-- What a notice tells, in order. -/
def Notice.emissions : Notice → List Emission
  | exitNotNumeric argument =>
    [.line ("rshell: warning: exit: " ++ argument ++ ": numeric argument required"),
      .record ⟨.warn, "exit argument " ++ Text.quoted argument ++ " is not a number"⟩]
  | missingBracket => [.line "rshell: [: missing ']'"]
  | unknownTestFlag => [.line "rshell: test: flag must be one of -e|-f|-d"]
  | subshellFailed error =>
    [.line ("rshell: error: " ++ error.message),
      .record ⟨.error, "subshell failed: " ++ error.message⟩]
  | commandNotFound program => [.line ("rshell: " ++ program ++ ": command not found")]
  | searchPathUnset => [.record ⟨.error, "rshell: error with env PATH: NotPresent"⟩]
  | execFailed program errno =>
    [.line ("rshell: exec failed: " ++ program ++ ": " ++ errno.named)]

/-- What a notice writes to standard error. -/
def Notice.errorText (notice : Notice) : String :=
  String.join <| notice.emissions.map fun
    | .line text => text ++ "\n"
    | .record _ => ""

end CommandShell
