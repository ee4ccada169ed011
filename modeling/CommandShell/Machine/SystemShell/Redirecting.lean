import CommandShell.Machine.SystemShell.Expansion
set_option autoImplicit false

/-!
# Redirecting

A redirection makes a descriptor stand for something else.  What it stood for before is kept under
a high number, so that it can be put back.
-/

namespace CommandShell.Machine.SystemShell

/-- A redirection whose words have been expanded. -/
inductive PreparedRedirection where
  | file (descriptor : Descriptor) (use : FileUse) (path : String)
  | copy (descriptor source : Descriptor)
  | close (descriptor : Descriptor)
  | document (descriptor : Descriptor) (bytes : ByteArray)
  /-- A redirection of a descriptor that is looked for and put into a variable. -/
  | allotted (name : String) (redirection : PreparedRedirection)

/-- The descriptor that a redirection changes. -/
def PreparedRedirection.descriptor : PreparedRedirection → Descriptor
  | file d .. | copy d _ | close d | document d _ => d
  | allotted _ redirection => redirection.descriptor

/-- What a descriptor stood for before: a descriptor that keeps it, or none if it was closed. -/
structure Kept where
  descriptor : Descriptor
  keeper : Option Descriptor

/-- The least number of a descriptor that keeps something. -/
def leastKeeper : Descriptor := 10

/-- The path that a word stands for; none if it stands for more or less than one, which is
complained about. -/
def expandTarget (expander : Expander) (word : List Part) : Eval (Option String) := do
  if !(← speaksExtended) then return some (← expandText expander word)
  match ← expandWord expander word with
  | [path] => return some path
  | _ =>
    warnOutside (Part.spelled word ++ ": ambiguous redirect")
    return none

/-- What a redirection to the descriptor that a text names comes to; none if it names none, which is
complained about. -/
def prepareCopy (descriptor : Descriptor) (word : List Part) (text : String) :
    Eval (Option (List PreparedRedirection)) := do
  let extended ← speaksExtended
  let (digits, isMoved) := match text.toList.reverse with
    | '-' :: reversed => (String.ofList reversed.reverse, true)
    | _ => (text, false)
  match Program.natural? digits with
  | some source =>
    if extended then
      return some (.copy descriptor source :: if isMoved then [.close source] else [])
    if !isMoved && text.length = 1 then return some [.copy descriptor source]
    fail "Syntax error: Bad fd number"
  | none =>
    if text = "-" then return some [.close descriptor]
    if !extended then fail "Syntax error: Bad fd number"
    if descriptor = standardOutput && text ≠ "" then
      return some [.file standardOutput .output text, .copy standardError standardOutput]
    warnOutside (Part.spelled word ++ ": ambiguous redirect")
    return none

/-- Expands the words of a redirection; none if that fails, which is complained about. -/
def prepareRedirection (expander : Expander) :
    Redirection → Eval (Option (List PreparedRedirection))
  | .file descriptor use path => do
    return (← expandTarget expander path).map fun path => [.file descriptor use path]
  | .copy descriptor word => do prepareCopy descriptor word (← expandText expander word)
  | .document descriptor number => do
    let parts := ((← get).documents.lookup number).getD []
    let pieces ← expandParts expander false parts
    return some [.document descriptor (Program.pack (pieceBytes pieces))]
  | .word descriptor word => do
    return some [.document descriptor (Text.toBytes ((← expandText expander word) ++ "\n"))]
  | .merged appends path => do
    return (← expandTarget expander path).map fun path =>
      [.file standardOutput (if appends then .append else .output) path,
        .copy standardError standardOutput]
  | .allotted name redirection => do
    return (← prepareRedirection expander redirection).map fun prepared =>
      prepared.map (.allotted name)

/-- Expands the words of redirections; none if that fails. -/
def prepareRedirections (expander : Expander) :
    List Redirection → Eval (Option (List PreparedRedirection))
  | [] => return some []
  | redirection :: rest => do
    match ← prepareRedirection expander redirection with
    | none => return none
    | some prepared => return (← prepareRedirections expander rest).map (prepared ++ ·)

/-- Makes a descriptor stand for what another one stands for, and closes the other one. -/
def moveDescriptor (source target : Descriptor) : Eval Unit := do
  if source = target then
    -- Only a copy outlives the program.
    if let .ok keeper ← doCall (.keep source leastKeeper) then
      let _ ← doCall (.close source)
      let _ ← doCall (.install keeper target)
      let _ ← doCall (.close keeper)
  else
    let _ ← doCall (.install source target)
    let _ ← doCall (.close source)

/-- How the file of a redirection is opened. -/
def FileUse.mode : FileUse → OpenMode
  | .input => .input
  | .output | .overwrite => .output
  | .append => .append
  | .both => { reads := true, writes := true, creates := some Files.newFileMode }

/-- The largest text in a script that is written before anyone reads it. -/
def maxWrittenAhead : Nat := 4096

/-- Opens a pipe from which a text can be read. -/
def openDocument (bytes : ByteArray) : Eval (Option Descriptor) := do
  match ← doCall (.openPipe false) with
  | .error _ => return none
  | .ok (input, output) =>
    if bytes.size ≤ maxWrittenAhead then
      let _ ← doCall (.write output bytes)
    else
      if let .ok .child ← doCall .fork then
        let _ ← doCall (.close input)
        let _ ← doCall (.write output bytes)
        doRoutine (.exit 0)
    let _ ← doCall (.close output)
    return some input

/-- Complains about a file that could not be opened. -/
def warnOfOpening (use : FileUse) (path : String) (errno : Errno) : Eval Unit := do
  let isMissing := errno = .noEntry || errno = .notDirectory
  if ← speaksExtended then warnOutside (path ++ ": " ++ errno.description)
  else if use = .input then
    warn ("cannot open " ++ path ++ ": "
      ++ (if isMissing then "No such file" else errno.description))
  else
    warn ("cannot create " ++ path ++ ": "
      ++ (if isMissing then "Directory nonexistent" else errno.description))

/-- Opens what a redirection needs; none if that fails, which is complained about. -/
def openRedirection (redirection : PreparedRedirection) : Eval (Option (Option Descriptor)) := do
  match redirection with
  | .file _ use path | .allotted _ (.file _ use path) =>
    if use = .output && (← hasFlag 'C') then
      if let .ok info ← doCall (.stat path true) then
        if info.kind = .regular then
          if ← speaksExtended then warnOutside (path ++ ": cannot overwrite existing file")
          else warn ("cannot create " ++ path ++ ": File exists")
          return none
    match ← doCall (.openFile path use.mode) with
    | .ok opened => return some (some opened)
    | .error errno =>
      warnOfOpening use path errno
      return none
  | .document _ bytes | .allotted _ (.document _ bytes) => return (← openDocument bytes).map some
  | .copy .. | .close _ | .allotted .. => return some none

/-- Keeps what a descriptor stands for; none if that fails, which is complained about. -/
def keepDescriptor (descriptor : Descriptor) : Eval (Option Kept) := do
  match ← doCall (.keep descriptor leastKeeper) with
  | .ok keeper => return some ⟨descriptor, some keeper⟩
  | .error .badDescriptor => return some ⟨descriptor, none⟩
  | .error errno =>
    warnOfFile (toString descriptor ++ ": " ++ errno.description)
    return none

/-- Looks for a descriptor that stands for what another one stands for, and puts it into a
variable. -/
def allot (name : String) (source : Descriptor) : Eval Bool := do
  match ← doCall (.keep source leastKeeper) with
  | .error errno =>
    warnOutside (toString source ++ ": " ++ errno.description)
    return false
  | .ok found =>
    -- Only a copy outlives the program.
    match ← doCall (.keep found (found + 1)) with
    | .error _ => setVariable name (toString found)
    | .ok copy =>
      let _ ← doCall (.install copy found)
      let _ ← doCall (.close copy)
      setVariable name (toString found)
    return true

/-- Redirects a descriptor that is looked for, and that stays as it is after the command. -/
def redirectAllotted (name : String) (redirection : PreparedRedirection)
    (opened : Option Descriptor) : Eval Bool := do
  match redirection, opened with
  | .close _, _ =>
    if let some number := ((← get).value? name).bind Program.natural? then
      let _ ← doCall (.close number)
    return true
  | .copy _ source, _ => allot name source
  | _, some opened =>
    let succeeded ← allot name opened
    let _ ← doCall (.close opened)
    return succeeded
  | _, none => return true

/-- Redirects a descriptor, after what it stood for has been kept if `keeps`.  The result says
whether that succeeded. -/
def redirectOne (keeps : Bool) (redirection : PreparedRedirection) : Eval (List Kept × Bool) := do
  match ← openRedirection redirection with
  | none => return ([], false)
  | some opened =>
    if let .allotted name inner := redirection then
      return ([], ← redirectAllotted name inner opened)
    let target := redirection.descriptor
    let kept? ←
      if keeps && opened ≠ some target then keepDescriptor target
      else pure (some ⟨target, none⟩)
    let some entry := kept? | return ([], false)
    let kept := if keeps then [entry] else []
    match redirection, opened with
    | .copy _ source, _ =>
      match ← doCall (.install source target) with
      | .ok () => return (kept, true)
      | .error errno =>
        warnOfFile (toString source ++ ": " ++ errno.description)
        return (kept, false)
    | _, some opened =>
      moveDescriptor opened target
      return (kept, true)
    | _, none =>
      let _ ← doCall (.close target)
      return (kept, true)

/-- Redirects descriptors one after another, up to the first failure. -/
def redirectAll (keeps : Bool) : List PreparedRedirection → Eval (List Kept × Bool)
  | [] => return ([], true)
  | redirection :: rest => do
    let (kept, succeeded) ← redirectOne keeps redirection
    if !succeeded then return (kept, false)
    let (others, succeeded) ← redirectAll keeps rest
    return (others ++ kept, succeeded)

/-- Puts back what descriptors stood for. -/
def putBack (kept : List Kept) : Eval Unit := do
  for ⟨descriptor, keeper⟩ in kept do
    match keeper with
    | some keeper =>
      let _ ← doCall (.install keeper descriptor)
      let _ ← doCall (.close keeper)
    | none =>
      let _ ← doCall (.close descriptor)

/-- Forgets what descriptors stood for. -/
def forgetKept (kept : List Kept) : Eval Unit := do
  for ⟨_, keeper⟩ in kept do
    if let some keeper := keeper then
      let _ ← doCall (.close keeper)

/-- Does something with descriptors redirected; gives `failed` if that does not succeed. -/
def withRedirections {α : Type} (prepared : List PreparedRedirection) (failed body : Eval α) :
    Eval α := do
  if prepared.isEmpty then return ← body
  let (kept, succeeded) ← redirectAll true prepared
  if succeeded then
    let result ←
      tryCatch body fun jump => do
        putBack kept
        throw jump
    putBack kept
    return result
  else
    putBack kept
    failed

/-- Does something with descriptors redirected as words say; gives `failed` if that does not
succeed. -/
def redirected {α : Type} (expander : Expander) (redirections : List Redirection) (failed : Eval α)
    (body : Eval α) : Eval α := do
  let some prepared ← prepareRedirections expander redirections | failed
  withRedirections prepared failed body

end CommandShell.Machine.SystemShell
