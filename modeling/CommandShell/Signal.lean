set_option autoImplicit false

/-!
# Signals

A signal is known by its number.  The first 31 have names; the real-time signals above them have
none.  What a signal does to a process that has made no other arrangement depends on its number
alone.
-/

namespace CommandShell

/-- A signal, by its number. -/
structure Signal where
  number : Nat
  deriving DecidableEq

/-- What a signal does to a process. -/
inductive SignalEffect where
  | terminate
  | ignore
  /-- The process does not go on before it is resumed. -/
  | stop
  | resume
  deriving DecidableEq

namespace Signal

/-- The named signals, without the `SIG` with which their names begin. -/
def shortNames : List (Nat × String) :=
  [(1, "HUP"), (2, "INT"), (3, "QUIT"), (4, "ILL"), (5, "TRAP"), (6, "ABRT"), (7, "BUS"),
    (8, "FPE"), (9, "KILL"), (10, "USR1"), (11, "SEGV"), (12, "USR2"), (13, "PIPE"), (14, "ALRM"),
    (15, "TERM"), (16, "STKFLT"), (17, "CHLD"), (18, "CONT"), (19, "STOP"), (20, "TSTP"),
    (21, "TTIN"), (22, "TTOU"), (23, "URG"), (24, "XCPU"), (25, "XFSZ"), (26, "VTALRM"),
    (27, "PROF"), (28, "WINCH"), (29, "IO"), (30, "PWR"), (31, "SYS")]

/-- The highest number of a signal. -/
def maxNumber : Nat := 64

def interrupt : Signal := ⟨2⟩
def quit : Signal := ⟨3⟩
def kill : Signal := ⟨9⟩
def pipe : Signal := ⟨13⟩
def floatingPoint : Signal := ⟨8⟩
def terminate : Signal := ⟨15⟩
def resume : Signal := ⟨18⟩
def fileSize : Signal := ⟨25⟩

/-- The name of a signal; none for a real-time signal. -/
def name? (signal : Signal) : Option String :=
  (shortNames.lookup signal.number).map ("SIG" ++ ·)

/-- The name of a signal, or its number if it has none. -/
def name (signal : Signal) : String := signal.name?.getD (toString signal.number)

/-- What the signal does to a process that has made no other arrangement. -/
def defaultEffect (signal : Signal) : SignalEffect :=
  match signal.number with
  | 17 | 23 | 28 => .ignore
  | 18 => .resume
  | 19 | 20 | 21 | 22 => .stop
  | _ => .terminate

/-- No process can ignore the signal or attend to it itself. -/
def isCommanding (signal : Signal) : Bool := signal.number = 9 || signal.number = 19

/-- The effect in words, as a shell tells it about a child that the signal ended. -/
def description (signal : Signal) : String :=
  match signal.number with
  | 1 => "Hangup"
  | 2 => "Interrupt"
  | 3 => "Quit"
  | 4 => "Illegal instruction"
  | 5 => "Trace/breakpoint trap"
  | 6 => "Aborted"
  | 7 => "Bus error"
  | 8 => "Floating point exception"
  | 9 => "Killed"
  | 10 => "User defined signal 1"
  | 11 => "Segmentation fault"
  | 12 => "User defined signal 2"
  | 13 => "Broken pipe"
  | 14 => "Alarm clock"
  | 15 => "Terminated"
  | 16 => "Stack fault"
  | 24 => "CPU time limit exceeded"
  | 25 => "File size limit exceeded"
  | 26 => "Virtual timer expired"
  | 27 => "Profiling timer expired"
  | 29 => "I/O possible"
  | 30 => "Power failure"
  | 31 => "Bad system call"
  | n => if n < 34 then "Unknown signal " ++ toString n
    else "Real-time signal " ++ toString (n - 34)

end Signal

end CommandShell
