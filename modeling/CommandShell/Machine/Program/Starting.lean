import CommandShell.Machine.Program.Environment
set_option autoImplicit false

/-!
# Programs that start others

They look at how the programs that they have started end, give them arguments, or put an end to
them.
-/

namespace CommandShell.Machine.Program

/-- How the start of a program came out. -/
inductive Started where
  | ended (status : Status)
  /-- There is no room for another process. -/
  | refused (errno : Errno)

/-- The exit code for a program that could not be started. -/
def startFailure (errno : Errno) : Nat := if errno = .noEntry then 127 else 126

/-- Becomes a program, or ends after a complaint. -/
def becomeOr (complaint : String → Errno → Routine Unit) (environment : Environment)
    (words : List String) : Routine Nat := do
  let errno ← become environment { arguments := words, environment }
  complaint (words.head?.getD "") errno
  quit (startFailure errno)

/-- Runs a program as a child up to its end.  Its input is the null device if `detached`. -/
def runChild (complaint : String → Errno → Routine Unit) (environment : Environment)
    (detached : Bool) (words : List String) : Routine Started := do
  match ← perform .fork with
  | .error errno => return .refused errno
  | .ok .child =>
    if detached then
      if let .ok descriptor ← perform (.openFile "/dev/null" .input) then
        let _ ← perform (.install descriptor standardInput)
    return .ended (.exited (← becomeOr complaint environment words))
  | .ok (.parent child) =>
    match ← perform (.wait child false) with
    | .ok status => return .ended status
    | .error errno => return .refused errno

/-! ## Arguments from the input -/

/-- What quotes the next bytes of the input. -/
inductive ItemQuote where
  | none
  | single
  | double
  | escaped
  deriving DecidableEq

/-- How far the cutting of the input into items has come. -/
structure ItemState where
  quote : ItemQuote := .none
  /-- The item under way, the last byte first. -/
  item : Option (List UInt8) := none
  /-- The items of the line under way, and the lines before, the last one first. -/
  line : List String := []
  lines : List (List String) := []

namespace ItemState

/-- One more byte of the item. -/
def add (state : ItemState) (byte : UInt8) : ItemState :=
  { state with quote := if state.quote = .escaped then .none else state.quote
               item := some (byte :: state.item.getD []) }

/-- The item is over. -/
def endItem (state : ItemState) : ItemState :=
  match state.item with
  | none => state
  | some bytes =>
    { state with item := none, line := Text.ofBytes (pack bytes.reverse) :: state.line }

/-- The line is over; one that ends in a blank goes on with the next line if `joins`. -/
def endLine (state : ItemState) : ItemState :=
  let state := state.endItem
  if state.line.isEmpty then state
  else { state with line := [], lines := state.line.reverse :: state.lines }

/-- What one more byte does. -/
def step (state : ItemState) (byte : UInt8) : Except ItemQuote ItemState :=
  match state.quote with
  | .escaped => .ok (state.add byte)
  | .single =>
    if byte = 0x27 then .ok { state with quote := .none, item := some (state.item.getD []) }
    else if byte = lineFeed then .error .single
    else .ok (state.add byte)
  | .double =>
    if byte = 0x22 then .ok { state with quote := .none, item := some (state.item.getD []) }
    else if byte = lineFeed then .error .double
    else .ok (state.add byte)
  | .none =>
    if byte = 0x27 then .ok { state with quote := .single }
    else if byte = 0x22 then .ok { state with quote := .double }
    else if byte = 0x5C then .ok { state with quote := .escaped }
    else if byte = lineFeed then .ok state.endLine
    else if isBlank byte then .ok state.endItem
    else .ok (state.add byte)

end ItemState

/-- The items of each line; or the quote that was not closed. -/
def itemLines (bytes : List UInt8) : Except ItemQuote (List (List String)) := do
  let state ← bytes.foldlM ItemState.step {}
  if state.quote = .single || state.quote = .double then throw state.quote
  return state.endLine.lines.reverse

/-- The lines that are one item each: without the blanks before it, and with quotes and escapes
understood.  A line of blanks alone is none. -/
def wholeLines (bytes : List UInt8) : Except ItemQuote (List (List String)) := do
  let line (bytes : List UInt8) : Except ItemQuote (List String) := do
    let bytes := bytes.dropWhile isBlank
    let state ← bytes.foldlM (fun (state : ItemState) byte =>
      if state.quote = .none && isBlank byte then .ok (state.add byte) else state.step byte) {}
    if state.quote = .single || state.quote = .double then throw state.quote
    return state.endItem.line
  return (← (linesOf (pack bytes)).mapM line).filter fun items => !items.isEmpty

/-- What `xargs` is asked for. -/
structure ItemRequest where
  name : String
  /-- What the items are added to. -/
  words : List String
  /-- The text in the words that stands for an item. -/
  mark : Option String
  /-- At most so many lines, and so many items, for each program. -/
  maxLines : Option Nat
  maxItems : Option Nat
  /-- At most so many bytes in a call. -/
  maxBytes : Nat
  /-- The calls are shown. -/
  shows : Bool
  /-- The programs read the null device. -/
  detached : Bool

namespace ItemRequest

/-- How many bytes words take. -/
def bytesOf (words : List String) : Nat :=
  words.foldl (fun (sum : Nat) word => sum + (Text.toBytes word).size + 1) 0

/-- Puts items together for calls, each of at most so many items and bytes. -/
def groups (request : ItemRequest) (room : Nat) :
    (group : List String) → List String → List (List String)
  | group, [] => if group.isEmpty then [] else [group.reverse]
  | group, item :: rest =>
    let full := !group.isEmpty && (request.maxItems.any (group.length ≥ ·)
      || bytesOf (item :: group) > room)
    if full then group.reverse :: request.groups room [item] rest
    else request.groups room (item :: group) rest

/-- Puts lines together, so many at a time. -/
def lineGroups (size : Nat) : (fuel : Nat) → List (List String) → List (List String)
  | 0, _ => []
  | fuel + 1, lines =>
    if lines.isEmpty then []
    else (lines.take size).flatten :: lineGroups size fuel (lines.drop size)

/-- The words of each call. -/
def calls (request : ItemRequest) (lines : List (List String)) : List (List String) :=
  match request.mark with
  | some mark => lines.flatten.map fun item => request.words.map fun word =>
      if mark = "" then word else word.replace mark item
  | none =>
    let groups := match request.maxLines with
      | some size => lineGroups (max size 1) lines.length lines
      | none => request.groups (request.maxBytes - bytesOf request.words) [] lines.flatten
    groups.map (request.words ++ ·)

/-- Runs the calls one after another.  Gives the exit code. -/
def runCalls (request : ItemRequest) (environment : Environment) :
    List (List String) → (code : Nat) → Routine Nat
  | [], code => return code
  | words :: rest, code => do
    let program := words.head?.getD ""
    if request.shows then
      let _ ← perform (.write standardError
        (Text.toBytes (" ".intercalate (words.map quoted) ++ "\n")))
    let complaint (program : String) (errno : Errno) : Routine Unit :=
      complain request.name (program ++ ": " ++ errno.description)
    match ← runChild complaint environment request.detached words with
    | .refused errno =>
      complain request.name ("cannot fork: " ++ errno.description)
      return 1
    | .ended (.signaled signal) =>
      complain request.name (program ++ ": terminated by signal " ++ toString signal.number)
      return 125
    | .ended (.exited 255) =>
      complain request.name (program ++ ": exited with status 255; aborting")
      return 124
    | .ended (.exited 0) => request.runCalls environment rest code
    | .ended (.exited 126) => return 126
    | .ended (.exited 127) => return 127
    | .ended (.exited _) => request.runCalls environment rest 123

end ItemRequest

/-- The options of `xargs`. -/
def xargsOptions : OptionTable :=
  { letters := OptionTable.flags "0rtx" ++ OptionTable.valued "adEILnPs"
      ++ [('e', .optional), ('i', .optional), ('l', .optional)]
    words := [("null", .none, '0'), ("no-run-if-empty", .none, 'r'), ("verbose", .none, 't'),
      ("exit", .none, 'x'), ("arg-file", .required, 'a'), ("delimiter", .required, 'd'),
      ("eof", .optional, 'e'), ("replace", .optional, 'i'), ("max-lines", .optional, 'l'),
      ("max-args", .required, 'n'), ("max-procs", .required, 'P'), ("max-chars", .required, 's')]
    mixed := false }

/-- How many bytes a call of `xargs` has at most. -/
def xargsRoom : Nat := 131072

/-- The value of an option of `xargs` that is a number. -/
def xargsNumber (name : String) (parsed : Parsed) (letter : Char) : Routine (Option Nat) := do
  match parsed.value? letter with
  | none => return none
  | some word =>
    match natural? word with
    | none =>
      complainOfUse name ("invalid number \"" ++ word ++ "\" for -" ++ letter.toString
        ++ " option")
      quit 1
    | some n =>
      if n = 0 && letter ≠ 'P' then
        complainOfUse name ("value " ++ word ++ " for -" ++ letter.toString
          ++ " option should be >= 1")
        quit 1
      return some n

/-- The byte between items that an option names. -/
def delimiterOf (word : String) : UInt8 :=
  match word.toList with
  | ['\\', 'n'] => lineFeed
  | ['\\', 't'] => 0x09
  | ['\\', '0'] => 0
  | ['\\', '\\'] => 0x5C
  | _ => ((Text.toBytes word).toList.head?).getD lineFeed

/-- Cuts the input into items, line by line. -/
def xargsLines (name : String) (parsed : Parsed) (bytes : List UInt8) :
    Routine (List (List String)) := do
  let replaces := parsed.has 'I' || parsed.has 'i'
  let delimiter := if parsed.has '0' then some 0 else (parsed.value? 'd').map delimiterOf
  let cut : Except ItemQuote (List (List String)) := match delimiter with
    | some byte => .ok ((linesOf (pack bytes) byte).map fun item => [Text.ofBytes (pack item)])
    | none => if replaces then wholeLines bytes else itemLines bytes
  match cut with
  | .ok lines => return lines
  | .error quote =>
    let kind := if quote = .single then "single" else "double"
    complain name ("unmatched " ++ kind ++ " quote; by default quotes are special to "
      ++ name ++ " unless you use the -0 option")
    quit 1

/-- The lines up to an item that ends the input. -/
def upToItem (mark : String) : List (List String) → List (List String)
  | [] => []
  | line :: rest =>
    if line.contains mark then
      let kept := line.takeWhile (· ≠ mark)
      if kept.isEmpty then [] else [kept]
    else line :: upToItem mark rest

/-- Runs programs with arguments that are read from the input. -/
def xargs : Program := fun image => do
  let name := image.name
  let parsed ← options xargsOptions name image.words
  let maxItems ← xargsNumber name parsed 'n'
  let maxLines ← xargsNumber name parsed 'L'
  let maxBytes ← xargsNumber name parsed 's'
  let _ ← xargsNumber name parsed 'P'
  let bytes ←
    match parsed.value? 'a' with
    | none =>
      match ← readFile "-" with
      | .ok bytes => pure bytes
      | .error _ => pure .empty
    | some file =>
      match ← readFile file with
      | .ok bytes => pure bytes
      | .error errno =>
        complain name ("Cannot open input file " ++ quotedAlways file ++ ": "
          ++ errno.description)
        return 1
  let lines ← xargsLines name parsed bytes.toList
  let lines := match (parsed.value? 'E') <|> (parsed.value? 'e') with
    | some mark => if mark = "" then lines else upToItem mark lines
    | none => lines
  let mark := if parsed.has 'I' then parsed.value? 'I'
    else if parsed.has 'i' then some ((parsed.value? 'i').getD "\x7b\x7d") else none
  let maxLines := if parsed.has 'l' then some (((parsed.value? 'l').bind natural?).getD 1)
    else maxLines
  let request : ItemRequest :=
    { name, words := if parsed.operands.isEmpty then ["echo"] else parsed.operands, mark
      maxLines, maxItems, maxBytes := maxBytes.getD xargsRoom, shows := parsed.has 't'
      detached := !parsed.has 'a' }
  let room := request.maxBytes - ItemRequest.bytesOf request.words
  if mark.isNone && (lines.flatten.any fun item => ItemRequest.bytesOf [item] > room) then
    complain name "argument line too long"
    return 1
  let calls := request.calls lines
  let isEmpty := calls.isEmpty && mark.isNone && !parsed.has 'r'
  request.runCalls image.environment (if isEmpty then [request.words] else calls) 0

/-! ## Programs with a limit -/

/-- The signal that a word names. -/
def signalOf? (word : String) : Option Signal :=
  let upper := word.map Char.toUpper
  let short := if upper.startsWith "SIG" then (upper.drop 3).toString else upper
  match natural? word with
  | some n => if n ≤ Signal.maxNumber then some ⟨n⟩ else none
  | none => (Signal.shortNames.find? (·.2 = short)).map fun entry => ⟨entry.1⟩

/-- Waits for a child, at most so many milliseconds; none if it still runs. -/
def awaitUpTo (child : Pid) : (milliseconds : Nat) → Routine (Option Status)
  | 0 => do
    match ← perform (.poll child) with
    | .ok status => return status
    | .error _ => return some (.exited 0)
  | milliseconds + 1 => do
    match ← perform (.poll child) with
    | .ok none =>
      perform (.sleep 1)
      awaitUpTo child milliseconds
    | .ok status => return status
    | .error _ => return some (.exited 0)

/-- The end of a child. -/
def awaitEnd (child : Pid) : Routine Status := do
  match ← perform (.wait child false) with
  | .ok status => return status
  | .error _ => return .exited 0

/-- Ends as a child has ended. -/
def endLike (status : Status) : Routine Nat := do
  match status with
  | .exited code => return code
  | .signaled signal =>
    let _ ← perform (.arrange signal .standard)
    let _ ← perform (.kill (← perform .self) signal)
    return 128 + signal.number

/-- The options of `timeout`. -/
def timeoutOptions : OptionTable :=
  { letters := OptionTable.flags "v" ++ OptionTable.valued "ks"
    words := [("preserve-status", .none, 'p'), ("foreground", .none, 'f'),
      ("kill-after", .required, 'k'), ("signal", .required, 's'), ("verbose", .none, 'v')]
    mixed := false }

/-- Points to the program's help. -/
def pointToHelp (name : String) : Routine Unit := do
  let _ ← perform (.write standardError
    (Text.toBytes ("Try '" ++ name ++ " --help' for more information.\n")))

/-- The longest limit that is waited for. -/
def longestLimit : Nat := 3600000

/-- Runs a program, and ends it when its time is over. -/
def timeout : Program := fun image => do
  let name := image.name
  let parsed ← options timeoutOptions name image.words 125
  let signal ←
    match parsed.value? 's' with
    | none => pure Signal.terminate
    | some word =>
      match signalOf? word with
      | some signal => pure signal
      | none =>
        complainOfUse name (quotedWord word ++ ": invalid signal")
        return 125
  match parsed.operands with
  | [] | [_] =>
    pointToHelp name
    return 125
  | limit :: words =>
    let duration (word : String) : Routine Nat := do
      match milliseconds? word with
      | some time => return time
      | none =>
        complainOfUse name ("invalid time interval " ++ quotedWord word)
        quit 125
    let limit ← duration limit
    let grace ← ((parsed.value? 'k').map duration).getD (return 0)
    let complaint (program : String) (errno : Errno) : Routine Unit :=
      complain name ("failed to run command " ++ quotedWord program ++ ": "
        ++ errno.description)
    match ← perform .fork with
    | .error errno =>
      complain name ("fork system call failed: " ++ errno.description)
      return 125
    | .ok .child => becomeOr complaint image.environment words
    | .ok (.parent child) =>
      if limit = 0 then return ← endLike (← awaitEnd child)
      match ← awaitUpTo child (min limit longestLimit) with
      | some status => endLike status
      | none =>
        let tell (signal : Signal) : Routine Unit := do
          if parsed.has 'v' then
            let shown := (Signal.shortNames.lookup signal.number).getD (toString signal.number)
            complain name ("sending signal " ++ shown ++ " to command "
              ++ quotedWord (words.head?.getD ""))
          let _ ← perform (.kill child signal)
          let _ ← perform (.kill child Signal.resume)
        tell signal
        let status ←
          if grace = 0 then awaitEnd child
          else do
            match ← awaitUpTo child (min grace longestLimit) with
            | some status => pure status
            | none =>
              tell Signal.kill
              awaitEnd child
        if status = .signaled Signal.kill then return ← endLike status
        if parsed.has 'p' then
          match status with
          | .exited code => return code
          | .signaled signal => return 128 + signal.number
        return 124

/-! ## Programs with another priority -/

/-- The options of `nice`, in which `-5` is another way to write `-n 5`. -/
def niceWords (words : List String) : List String :=
  match words with
  | word :: rest =>
    if word.startsWith "-" && (integer? (word.drop 1).toString).isSome then
      "-n" :: (word.drop 1).toString :: rest
    else words
  | [] => []

/-- Runs a program that others go before. -/
def nice : Program := fun image => do
  let name := image.name
  let parsed ← options
    { letters := OptionTable.valued "n", words := [("adjustment", .required, 'n')]
      mixed := false } name (niceWords image.words) 125
  if let some word := parsed.value? 'n' then
    if (integer? word).isNone then
      complain name ("invalid adjustment " ++ quotedWord word)
      return 125
  if parsed.operands.isEmpty then
    if parsed.has 'n' then
      complainOfUse name "a command must be given with an adjustment"
      return 125
    putText name "0\n"
    return 0
  let complaint (program : String) (errno : Errno) : Routine Unit :=
    complain name (quotedWord program ++ ": " ++ errno.description)
  becomeOr complaint image.environment parsed.operands

end CommandShell.Machine.Program
