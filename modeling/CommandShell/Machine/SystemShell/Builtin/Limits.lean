import CommandShell.Machine.SystemShell.Builtin.Basic
set_option autoImplicit false

/-!
# Limits of resources

How much of something the shell and what it starts may use.  A limit is counted in a unit of its
own; the soft limit is what counts, and the hard limit is as far as it may be raised.
-/

namespace CommandShell.Machine.SystemShell

/-- A limit that can be asked for by a letter. -/
structure LimitEntry where
  letter : Char
  name : String
  resource : Resource
  /-- How many of the system's units are one of the shell's. -/
  unit : Nat

/-- The limits in the order in which they are listed. -/
def limitEntries : List LimitEntry :=
  [⟨'t', "time(seconds)", .cpuTime, 1⟩, ⟨'f', "file(blocks)", .fileSize, 512⟩,
    ⟨'d', "data(kbytes)", .data, 1024⟩, ⟨'s', "stack(kbytes)", .stack, 1024⟩,
    ⟨'c', "coredump(blocks)", .core, 512⟩, ⟨'m', "memory(kbytes)", .residentSet, 1024⟩,
    ⟨'l', "locked memory(kbytes)", .lockedMemory, 1024⟩, ⟨'p', "process", .processes, 1⟩,
    ⟨'n', "nofiles", .openFiles, 1⟩, ⟨'v', "vmemory(kbytes)", .memory, 1024⟩,
    ⟨'w', "locks", .fileLocks, 1⟩, ⟨'r', "rtprio", .priority, 1⟩]

namespace LimitEntry

/-- A limit as it is shown. -/
def shown (entry : LimitEntry) (limit : Limit) (isHard : Bool) : String :=
  match (if isHard then limit.hard else limit.soft) with
  | none => "unlimited\n"
  | some value => toString (value / entry.unit) ++ "\n"

/-- The limit that a word gives; the outer none is no number. -/
def value? (entry : LimitEntry) (word : String) : Option (Option Nat) :=
  if word = "unlimited" then some none
  else if word = "" then some (some 0)
  else (Program.natural? word).map fun n => some (n * entry.unit)

end LimitEntry

/-- Shows or changes limits. -/
def limitResources : Builtin := fun _ arguments => do
  let (letters, words) ← takeOptions "HSatfdscmlpnvwr" arguments
  let asksHard := letters.contains 'H'
  let asksSoft := letters.contains 'S' || !asksHard
  let changesHard := asksHard || !letters.contains 'S'
  let showsHard := !asksSoft
  if letters.contains 'a' then
    if !words.isEmpty then fail "too many arguments"
    let lines ← limitEntries.mapM fun entry => do
      let limit ← doCall (.limit entry.resource)
      let gap := String.ofList (List.replicate (20 - entry.name.length) ' ')
      return entry.name ++ gap ++ " " ++ entry.shown limit showsHard
    putText (String.join lines)
  else
    let letter := ((letters.reverse.find? fun c => c ≠ 'H' && c ≠ 'S')).getD 'f'
    match limitEntries.find? (·.letter = letter) with
    | none => return 0
    | some entry =>
      let limit ← doCall (.limit entry.resource)
      match words with
      | [] => putText (entry.shown limit showsHard)
      | [word] =>
        match entry.value? word with
        | none => fail "bad number"
        | some value =>
          let new : Limit :=
            { soft := if asksSoft then value else limit.soft
              hard := if changesHard then value else limit.hard }
          match ← doCall (.setLimit entry.resource new) with
          | .ok () => return 0
          | .error errno => fail ("error setting limit (" ++ errno.description ++ ")")
      | _ => fail "too many arguments"

/-! ## The extended dialect -/

/-- A limit that the extended dialect knows. -/
structure ExtendedLimit where
  letter : Char
  name : String
  /-- What it is counted in. -/
  unitName : String := ""
  /-- The resource and how many of the system's units are one of the shell's; none if the limit is
  fixed. -/
  resource : Option (Resource × Nat)
  fixed : Nat := 0

/-- The limits in the order in which the extended dialect lists them. -/
def extendedLimits : List ExtendedLimit :=
  [⟨'R', "real-time non-blocking time", "microseconds", none, 0⟩,
    ⟨'c', "core file size", "blocks", some (.core, 512), 0⟩,
    ⟨'d', "data seg size", "kbytes", some (.data, 1024), 0⟩,
    ⟨'e', "scheduling priority", "", some (.niceness, 1), 0⟩,
    ⟨'f', "file size", "blocks", some (.fileSize, 512), 0⟩,
    ⟨'i', "pending signals", "", some (.pendingSignals, 1), 0⟩,
    ⟨'l', "max locked memory", "kbytes", some (.lockedMemory, 1024), 0⟩,
    ⟨'m', "max memory size", "kbytes", some (.residentSet, 1024), 0⟩,
    ⟨'n', "open files", "", some (.openFiles, 1), 0⟩,
    ⟨'p', "pipe size", "512 bytes", none, 8⟩,
    ⟨'q', "POSIX message queues", "bytes", some (.messageQueues, 1), 0⟩,
    ⟨'r', "real-time priority", "", some (.priority, 1), 0⟩,
    ⟨'s', "stack size", "kbytes", some (.stack, 1024), 0⟩,
    ⟨'t', "cpu time", "seconds", some (.cpuTime, 1), 0⟩,
    ⟨'u', "max user processes", "", some (.processes, 1), 0⟩,
    ⟨'v', "virtual memory", "kbytes", some (.memory, 1024), 0⟩,
    ⟨'x', "file locks", "", some (.fileLocks, 1), 0⟩]

namespace ExtendedLimit

/-- A limit in the units of the shell. -/
def shown (entry : ExtendedLimit) (isHard : Bool) : Eval String := do
  match entry.resource with
  | none => return if entry.letter = 'R' then "unlimited" else toString entry.fixed
  | some (resource, unit) =>
    let limit ← doCall (.limit resource)
    return match if isHard then limit.hard else limit.soft with
      | none => "unlimited"
      | some value => toString (value / unit)

/-- A limit on a line with its name. -/
def line (entry : ExtendedLimit) (isHard : Bool) : Eval String := do
  let unit := (if entry.unitName = "" then "(" else "(" ++ entry.unitName ++ ", ")
    ++ "-" ++ entry.letter.toString ++ ") "
  let width := max 20 entry.name.length + 21
  let gap := String.ofList (List.replicate (width - entry.name.length - unit.length) ' ')
  return entry.name ++ gap ++ unit ++ (← entry.shown isHard) ++ "\n"

/-- Changes a limit to what a word says. -/
def change (entry : ExtendedLimit) (letters : List Char) (word : String) : Eval Unit := do
  match entry.resource with
  | none => refuseCommand (entry.name ++ ": cannot modify limit: Invalid argument")
  | some (resource, unit) =>
    let limit ← doCall (.limit resource)
    let value ←
      if word = "unlimited" then pure none
      else if word = "hard" then pure limit.hard
      else if word = "soft" then pure limit.soft
      else
        match Program.natural? word with
        | some n => pure (some (n * unit))
        | none => refuseCommand (word ++ ": invalid number")
    let changesBoth := !letters.contains 'S' && !letters.contains 'H'
    let new : Limit :=
      { soft := if changesBoth || letters.contains 'S' then value else limit.soft
        hard := if changesBoth || letters.contains 'H' then value else limit.hard }
    match ← doCall (.setLimit resource new) with
    | .ok () => return
    | .error errno => refuseCommand (entry.name ++ ": cannot modify limit: " ++ errno.description)

end ExtendedLimit

/-- Shows or changes limits, as the extended dialect does. -/
def extendedUlimit : Builtin := fun _ arguments => do
  let usage := "ulimit [-SHabcdefiklmnpqrstuvxPRT] [limit]"
  let (options, words) ← extendedOptions usage "SHacdefilmnpqrstuvxR" arguments
  let letters := options.map GivenOption.letter
  let isHard := letters.contains 'H' && !letters.contains 'S'
  if letters.contains 'a' then
    let lines ← extendedLimits.mapM fun entry => entry.line isHard
    putText (String.join lines)
  else
    let chosen := letters.filter fun letter => letter ≠ 'S' && letter ≠ 'H'
    let chosen := if chosen.isEmpty then ['f'] else chosen
    let entries := chosen.filterMap fun letter => extendedLimits.find? (·.letter = letter)
    match words, entries with
    | [], [entry] => putText ((← entry.shown isHard) ++ "\n")
    | [], entries =>
      let lines ← entries.mapM fun entry => entry.line isHard
      putText (String.join lines)
    | word :: _, entries =>
      for entry in entries do
        entry.change letters word
      return 0

end CommandShell.Machine.SystemShell
