import CommandShell.Machine.SystemShell.Evaluation.Settling
set_option autoImplicit false

/-!
# Scripts command by command

A script is read as far as the line on which a command ends, and the command is run before more of
the script is read.
-/

namespace CommandShell.Machine.SystemShell

/-! ## Sources -/

/-- Where more of a script comes from. -/
inductive Supply where
  | nothing
  | descriptor (descriptor : Descriptor)

/-- Reads more of a script into a reader; `bytes` is all that has been read so far and is not used
up. -/
structure Source where
  supply : Supply
  /-- What has been read, as far as no command has used it up. -/
  bytes : ByteArray
  line : Nat := 1
  atEnd : Bool
  /-- The script is in a file, so that its lines are shown if the options say so. -/
  isFile : Bool := false
  /-- What the script is called where it is wrongly written. -/
  label : Option String := none
  /-- The output of the script takes its place. -/
  isOutput : Bool := false

/-- How many bytes of a script are read at once. -/
def scriptBlock : Nat := 8192

/-- The next bytes up to the end of a line, and whether the end has been reached. -/
def readLineBytes (descriptor : Descriptor) : (fuel : Nat) → ByteArray → Eval (ByteArray × Bool)
  | 0, sofar => return (sofar, true)
  | fuel + 1, sofar => do
    match ← doCall (.read descriptor 1) with
    | .ok bytes =>
      if bytes.isEmpty then return (sofar, true)
      if bytes.toList.head? = some Program.lineFeed then return (sofar ++ bytes, false)
      readLineBytes descriptor fuel (sofar ++ bytes)
    | .error _ => return (sofar, true)

/-- The source with more of the script.  In the extended dialect no more is taken from standard
input than a line, since commands may read what follows. -/
def Source.more (source : Source) : Eval Source := do
  match source.supply with
  | .nothing => return { source with atEnd := true }
  | .descriptor descriptor =>
    if descriptor = standardInput && (← speaksExtended) then
      let (bytes, atEnd) ← readLineBytes descriptor Program.budget .empty
      return { source with atEnd, bytes := source.bytes ++ bytes }
    match ← doCall (.read descriptor scriptBlock) with
    | .ok bytes =>
      return if bytes.isEmpty then { source with atEnd := true }
        else { source with bytes := source.bytes ++ bytes }
    | .error _ => return { source with atEnd := true }

/-- Shows lines of a script that have been read, if the options say so. -/
def Source.echo (source : Source) (cs : List Char) : Eval Unit := do
  if (source.isFile || (← speaksExtended)) && (← hasFlag 'v') then putError (String.ofList cs)

/-- The first lines of a text. -/
def firstLines : (count : Nat) → List Char → List Char
  | 0, _ => []
  | count + 1, cs =>
    let line := cs.takeWhile (· ≠ '\n')
    match cs.drop line.length with
    | [] => line
    | feed :: rest => line ++ feed :: firstLines count rest

/-- What is left of a source.  In the extended dialect the last line has an end. -/
def Source.text (source : Source) : Eval (List Char) := do
  let text := (Text.ofBytes source.bytes).toList.filter (· ≠ '\x00')
  let lacksEnd := source.atEnd && text.getLast?.any (· ≠ '\n')
  return if lacksEnd && (← speaksExtended) then text ++ ['\n'] else text

/-- A reader of what is left of a source. -/
def Source.reader (source : Source) (text : List Char) : Eval Reader := do
  let state ← get
  let hasAliases := state.dialect = .plain || state.features.contains "expand_aliases"
  return {
    dialect := state.dialect, rest := text, atEnd := source.atEnd, line := source.line
    hasGroups := state.features.contains "extglob"
    aliases := if hasAliases then state.aliases else []
    nextDocument := state.nextDocument }

/-! ## Faults of scripts -/

/-- What a complaint about a wrongly written script of the extended dialect begins with. -/
def Source.front (source : Source) (line : Nat) : Eval String := do
  let label := (source.label.map (· ++ ": ")).getD ""
  return (← get).source ++ ": " ++ label ++ "line " ++ toString line ++ ": "

/-- Complains about a wrongly written script; gives the exit status. -/
def Source.refuse (source : Source) (line : Nat) (complaints : List String) : Eval Nat := do
  if ← speaksExtended then
    let front ← source.front line
    for complaint in complaints do
      putError (front ++ complaint ++ "\n")
    modify fun state => { state with status := 2 }
    return 2
  modify fun state => { state with line }
  fail (complaints.head?.getD "")

/-- Warns of texts in a script of the extended dialect that the end of the script has ended. -/
def warnOfUnfinished (unfinished : List UnfinishedDocument) : Eval Unit := do
  if !(← speaksExtended) then return
  for document in unfinished do
    let state ← get
    putError (state.source ++ ": line " ++ toString document.lastLine
      ++ ": warning: here-document at line " ++ toString document.firstLine
      ++ " delimited by end-of-file (wanted \u0060" ++ document.delimiter ++ "')\n")

/-- Runs a command of a source.  An error in the extended dialect ends no more than the lines that
the command is on. -/
def Source.run (source : Source) (runner : Runner) (final : Bool) (command : Command) :
    Eval Nat := do
  if !(← speaksExtended) then return ← runner.command final command
  let leavesLines := match source.supply with
    | .descriptor _ => true
    | .nothing => false
  tryCatch (runner.command final command) fun jump => do
    let goOn (status : Nat) : Eval Nat := do
      modify fun state => { state with status }
      return status
    match jump with
    | .fail status => if (← get).depth = 0 then goOn status else throw (.leave status)
    | .leaveLine status => if leavesLines then goOn status else throw jump
    | jump => throw jump

/-! ## Whole sources -/

/-- Runs the commands of a source one after another; the last one is final if `final`. -/
def runSource (runner : Runner) (final : Bool) : (fuel : Nat) → Source → (status : Nat) → Eval Nat
  | 0, _, status => return status
  | fuel + 1, source, status => do
    let text ← source.text
    match (← source.reader text).next with
    | .hungry =>
      if source.atEnd then return status
      runSource runner final fuel (← source.more) status
    | .finished =>
      source.echo text
      return status
    | .refused line complaints =>
      source.echo (firstLines (line + 1 - source.line) text)
      source.refuse line complaints
    | .command command isLast reader =>
      source.echo (text.take (text.length - reader.rest.length))
      modify fun state => { state with
        documents := reader.documents ++ state.documents, nextDocument := reader.nextDocument }
      warnOfUnfinished reader.unfinished
      let isLast := isLast || (reader.dialect = .extended && source.atEnd && reader.rest.isEmpty)
      let status ←
        match command with
        | .sequence [] => pure status
        | command =>
          if source.isOutput && reader.rest.isEmpty then
            source.run { runner with command := fun _ => runner.output } true command
          else source.run runner (final && isLast) command
      runSource runner final fuel
        { source with bytes := Text.toBytes (String.ofList reader.rest), line := reader.line }
        status

/-- Runs a script that is given as a whole. -/
def runWhole (runner : Runner) (script : Script) : Eval Nat := do
  let before ← get
  let extended := before.dialect = .extended
  let restore : Eval Unit := modify fun state => { state with
    line := before.line, traceDepth := before.traceDepth
    underWay := if extended then before.underWay else state.underWay }
  if extended && script.isInner then
    modify fun state => { state with traceDepth := state.traceDepth + 1 }
  let bytes := Text.toBytes script.text
  let source : Source :=
    { supply := .nothing, bytes, atEnd := true, isFile := script.isFile, label := script.label
      isOutput := script.isOutput
      line := if extended && !script.countsAnew then before.line else 1 }
  let status ← tryCatch (runSource runner false (bytes.size + 2) source 0) fun jump => do
    if extended then restore
    throw jump
  restore
  return status

end CommandShell.Machine.SystemShell
