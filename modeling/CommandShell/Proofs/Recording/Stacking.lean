import CommandShell.Proofs.Parsing.Grammar
import CommandShell.Proofs.Recording.Evaluation
import Mathlib.Data.List.Induction
set_option autoImplicit false

/-!
# Stacked redirections

The redirections behind a simple command nest, the leftmost innermost.  So their files are opened
from right to left and closed from left to right; of several in one direction the leftmost counts,
but all of them are opened.  Where a path is missing, those to the right of it have been opened and
are closed again, and nothing is started.

Running through a stack of redirections that can be opened is told by one lemma, whatever the
command inside is: a program, or a redirection whose path is missing.
-/

namespace CommandShell

/-- A redirection as it is written behind a command. -/
structure Redirection where
  redirect : Redirect
  path : String

/-- The tokens of a redirection. -/
def Redirection.tokens (redirection : Redirection) : List Token :=
  [.operator redirection.redirect.operator, .word redirection.path]

/-- A command with redirections behind it, the leftmost innermost. -/
def Command.redirected (command : Command) (redirections : List Redirection) : Command :=
  redirections.foldl (fun command redirection =>
    .redirection redirection.redirect command redirection.path) command

namespace Command

theorem redirected_append (command : Command) (redirections : List Redirection)
    (last : Redirection) :
    command.redirected (redirections ++ [last])
      = .redirection last.redirect (command.redirected redirections) last.path := by
  simp [redirected]

theorem redirected_append_cons (command : Command) (before after : List Redirection)
    (middle : Redirection) :
    command.redirected (before ++ middle :: after)
      = (Command.redirection middle.redirect (command.redirected before) middle.path).redirected
          after := by
  simp [redirected]

theorem height_redirected (command : Command) (redirections : List Redirection) :
    (command.redirected redirections).height = command.height + redirections.length := by
  induction redirections generalizing command with
  | nil => rfl
  | cons first rest ih =>
    have hrest := ih (.redirection first.redirect command first.path)
    have hfirst : (Command.redirection first.redirect command first.path).height
        = command.height + 1 := rfl
    rw [List.length_cons]
    change ((Command.redirection first.redirect command first.path).redirected rest).height = _
    omega

end Command

/-! ## From tokens -/

namespace Grammar

/-- Redirections may stand behind any operand. -/
theorem Operand.redirected_all {tokens : List Token} {command : Command}
    (h : Operand tokens command) (redirections : List Redirection) :
    Operand (tokens ++ redirections.flatMap Redirection.tokens)
      (command.redirected redirections) := by
  induction redirections generalizing tokens command with
  | nil => simpa [Command.redirected] using h
  | cons first rest ih =>
    have hrest := ih (h.redirected first.redirect first.path)
    rwa [List.append_assoc] at hrest

end Grammar

/-- The words of a program and redirections behind them are parsed if there are no more of those
than a tree may be high. -/
theorem parse_redirected {program : String}
    (hprogram : program ≠ "exit" ∧ program ≠ "test" ∧ program ≠ "[") (arguments : List String)
    {redirections : List Redirection} (hcount : redirections.length ≤ 1000) :
    parse ((program :: arguments).map Token.word ++ redirections.flatMap Redirection.tokens)
      = .ok (some ((Command.executable program arguments).redirected redirections)) := by
  obtain ⟨hexit, htest, hbracket⟩ := hprogram
  have hwords : Command.ofWords program arguments = .executable program arguments := by
    simp [Command.ofWords, hexit, htest, hbracket]
  have hoperand := (Grammar.Operand.base (.words program arguments)).redirected_all redirections
  rw [hwords] at hoperand
  obtain ⟨depth, hparse, -, hdepth⟩ := Parser.parse_line (.item (.chain (.operand hoperand)))
  rw [hparse, hdepth _ rfl, Command.height_redirected, Command.height]
  exact if_neg (by rw [Parser.maxDepth]; omega)

/-! ## The files of a stack -/

/-- The files of redirections, with the streams they get when the first number is free: the last one
is opened first. -/
def filesFrom (first : Nat) : List Redirection → List (Redirection × StreamId)
  | [] => []
  | redirection :: rest => (redirection, ⟨first + rest.length⟩) :: filesFrom first rest

theorem filesFrom_append (first : Nat) (redirections : List Redirection) (last : Redirection) :
    filesFrom first (redirections ++ [last])
      = filesFrom (first + 1) redirections ++ [(last, ⟨first⟩)] := by
  induction redirections with
  | nil => rfl
  | cons redirection rest ih =>
    rw [List.cons_append, filesFrom, ih, filesFrom, List.cons_append, List.length_append,
      List.length_singleton, Nat.add_comm rest.length, ← Nat.add_assoc]

/-- The stream of the leftmost file of some kind; the inherited one if there is none. -/
def leftmost (kind : Redirect → Bool) (inherited : Option StreamId) :
    List (Redirection × StreamId) → Option StreamId
  | [] => inherited
  | (redirection, stream) :: rest =>
    if kind redirection.redirect then some stream else leftmost kind inherited rest

/-- The files are opened from right to left. -/
def fileOpenings (files : List (Redirection × StreamId)) : List Event :=
  files.reverse.map fun (redirection, stream) =>
    .opened redirection.redirect redirection.path stream

/-- And closed from left to right. -/
def fileClosings (files : List (Redirection × StreamId)) : List Event :=
  files.map fun (_, stream) => .close stream

namespace Recorder

/-- The file of a redirection has been opened. -/
def opening (r : Recorder) (redirection : Redirection) : Recorder :=
  { r.record (.opened redirection.redirect redirection.path ⟨r.nextId⟩) with
    openStreams := ⟨r.nextId⟩ :: r.openStreams
    nextId := r.nextId + 1 }

/-- The file of a redirection is open and active. -/
def withFile (r : Recorder) (redirection : Redirection) : Recorder :=
  (r.opening redirection).activate redirection.redirect (some ⟨r.nextId⟩)

/-- The files of redirections are open and active, those on the left on top of those on the
right. -/
def withFiles (r : Recorder) (redirections : List Redirection) : Recorder :=
  redirections.foldr (fun redirection r => r.withFile redirection) r

variable (r : Recorder) (redirection : Redirection) (redirections : List Redirection)

theorem withFiles_append :
    r.withFiles (redirections ++ [redirection])
      = (r.withFile redirection).withFiles redirections := by
  simp [withFiles]

theorem withFile_faults : (r.withFile redirection).faults = r.faults := by
  unfold withFile activate
  split <;> rfl

theorem withFile_script : (r.withFile redirection).script = r.script := by
  unfold withFile activate
  split <;> rfl

theorem withFile_nextId : (r.withFile redirection).nextId = r.nextId + 1 := by
  unfold withFile activate
  split <;> rfl

theorem withFiles_faults : (r.withFiles redirections).faults = r.faults := by
  induction redirections with
  | nil => rfl
  | cons first rest ih => exact (withFile_faults ..).trans ih

theorem withFiles_script : (r.withFiles redirections).script = r.script := by
  induction redirections with
  | nil => rfl
  | cons first rest ih => exact (withFile_script ..).trans ih

theorem withFiles_nextId : (r.withFiles redirections).nextId = r.nextId + redirections.length := by
  induction redirections with
  | nil => rfl
  | cons first rest ih => exact (withFile_nextId ..).trans (congrArg (· + 1) ih)

/-- Where each file of some kind takes the place of the one before, the leftmost of them is left. -/
theorem withFiles_leftmost {kind : Redirect → Bool} {stream : Recorder → Option StreamId}
    (hstream : ∀ r redirection, stream (withFile r redirection)
      = if kind redirection.redirect then some ⟨r.nextId⟩ else stream r) :
    stream (r.withFiles redirections)
      = leftmost kind (stream r) (filesFrom r.nextId redirections) := by
  induction redirections with
  | nil => rfl
  | cons first rest ih =>
    change stream ((r.withFiles rest).withFile first) = _
    rw [hstream, withFiles_nextId, ih, filesFrom, leftmost]

/-- The active input is the file of the leftmost redirection of input. -/
theorem withFiles_input :
    (r.withFiles redirections).input
      = leftmost (· = .input) r.input (filesFrom r.nextId redirections) := by
  apply withFiles_leftmost
  intro r redirection
  cases hredirect : redirection.redirect <;> simp [withFile, opening, activate, record, hredirect]

/-- And the active output that of the leftmost other one. -/
theorem withFiles_output :
    (r.withFiles redirections).output
      = leftmost (· ≠ .input) r.output (filesFrom r.nextId redirections) := by
  apply withFiles_leftmost
  intro r redirection
  cases hredirect : redirection.redirect <;> simp [withFile, opening, activate, record, hredirect]

/-! ## Through the stack -/

/-- What a run adds to the story, and how many streams it opens.  All else is as it was, but for
the count of calls. -/
structure Leaves (r : Recorder) (story : List Event) (opened : Nat) (r' : Recorder) : Prop where
  faultless : r'.Faultless
  eq : r' = { r with
    faults := r'.faults
    events := r.events ++ story.toArray
    nextId := r.nextId + opened }

variable {r redirection redirections}

/-- A file that is open can be closed, as long as no call is made to fail. -/
theorem Faultless.closeStream_eq (hf : r.Faultless) {id : StreamId} (hopen : id ∈ r.openStreams) :
    r.closeStream id = (.ok (), { r with
      faults := r.faults.map Faults.countClose
      events := r.events.push (.close id)
      openStreams := r.openStreams.erase id }) := by
  have hplan := hf.closePlan_eq 0 id
  unfold closePlan at hplan
  unfold closeStream
  simp only [Nat.add_zero] at hplan
  simp only [hplan, Bool.false_eq_true, if_false, if_pos hopen, record]
  rfl

theorem openFile_eq (hopen : r.script.isMissing redirection.path = false) :
    r.openFile redirection.redirect redirection.path = (.ok ⟨r.nextId⟩, r.opening redirection) := by
  simp [openFile, hopen, register, opening, record]

/-- A redirection that can be opened runs the command inside with its file, restores the stream that
was active before and closes the file. -/
theorem execute_redirection_of_open (hopen : r.script.isMissing redirection.path = false)
    (command : Command) (mode : WaitMode) :
    r.execute (.redirection redirection.redirect command redirection.path) mode =
      let ran := (r.withFile redirection).execute command mode
      let closed := (ran.2.activate redirection.redirect
        (r.active redirection.redirect)).closeStream ⟨r.nextId⟩
      (ran.1 >>= fun outcome => closed.1 >>= fun () => .ok outcome, closed.2) := by
  have hactive : (r.opening redirection).active redirection.redirect
      = r.active redirection.redirect := by
    cases redirection.redirect <;> rfl
  rw [execute_redirection, openFile_eq hopen, ← hactive]
  rfl

/-- When the command inside has run and the stream from before is active again, what is left of the
redirection is an open file. -/
theorem Leaves.restored {story : List Event} {opened : Nat} {r' : Recorder}
    (h : Leaves (r.withFile redirection) story opened r') :
    r'.activate redirection.redirect (r.active redirection.redirect) = { r with
      faults := r'.faults
      events := r.events.push (.opened redirection.redirect redirection.path ⟨r.nextId⟩)
        ++ story.toArray
      openStreams := ⟨r.nextId⟩ :: r.openStreams
      nextId := r.nextId + 1 + opened } := by
  obtain ⟨redirect, path⟩ := redirection
  rw [h.eq]
  cases redirect <;> rfl

/-- It comes to what the command inside comes to, and its file is opened before and closed after
everything else. -/
theorem Leaves.around {command : Command} {mode : WaitMode}
    {result : Except ExecError Outcome} {story : List Event} {opened : Nat} {r' : Recorder}
    (hopen : r.script.isMissing redirection.path = false)
    (hran : (r.withFile redirection).execute command mode = (result, r'))
    (h : Leaves (r.withFile redirection) story opened r') :
    ∃ r'', r.execute (.redirection redirection.redirect command redirection.path) mode
        = (result, r'') ∧
      Leaves r (.opened redirection.redirect redirection.path ⟨r.nextId⟩ ::
        story ++ [.close ⟨r.nextId⟩]) (1 + opened) r'' := by
  have hfaultless := (Stretch.activate r' redirection.redirect
    (r.active redirection.redirect)).faultless h.faultless
  rw [execute_redirection_of_open hopen, hran]
  dsimp only
  rw [h.restored] at hfaultless ⊢
  rw [hfaultless.closeStream_eq (List.mem_cons_self ..)]
  refine ⟨_, Prod.ext ?_ rfl, hfaultless.map rfl fun _ => ⟨rfl, rfl, rfl⟩, ?_⟩
  · cases result <;> rfl
  · simp [Nat.add_assoc]

/-! ## Running through a stack -/

/-- Redirections that can all be opened come to what the command inside comes to.  Their files are
opened before and closed after everything else, the rightmost one first and last. -/
theorem Leaves.redirected {command : Command} {mode : WaitMode}
    {result : Except ExecError Outcome} {story : List Event} {opened : Nat} {r' : Recorder}
    (hopen : ∀ redirection ∈ redirections, r.script.isMissing redirection.path = false)
    (hran : (r.withFiles redirections).execute command mode = (result, r'))
    (h : Leaves (r.withFiles redirections) story opened r') :
    ∃ r'', r.execute (command.redirected redirections) mode = (result, r'') ∧
      Leaves r (fileOpenings (filesFrom r.nextId redirections) ++ story
        ++ fileClosings (filesFrom r.nextId redirections)) (redirections.length + opened) r'' := by
  induction redirections using List.reverseRecOn generalizing r with
  | nil =>
    have hsame : Leaves r story opened r' := h
    exact ⟨r', hran, by simpa [filesFrom, fileOpenings, fileClosings] using hsame⟩
  | append_singleton rest last ih =>
    rw [withFiles_append] at hran h
    have hlast := hopen last (by simp)
    have hrest : ∀ redirection ∈ rest,
        (r.withFile last).script.isMissing redirection.path = false := by
      intro redirection hmem
      rw [withFile_script]
      exact hopen redirection (by simp [hmem])
    obtain ⟨r₁, hran₁, h₁⟩ := ih hrest hran h
    obtain ⟨r₂, hran₂, h₂⟩ := h₁.around hlast hran₁
    refine ⟨r₂, by rw [Command.redirected_append, hran₂], ?_⟩
    rw [withFile_nextId] at h₂
    rw [filesFrom_append, List.length_append, List.length_singleton]
    simpa [fileOpenings, fileClosings, Nat.add_comm, Nat.add_left_comm, Nat.add_assoc] using h₂

/-- A program is started with the active streams. -/
theorem Leaves.executable (hf : r.Faultless) (program : String) (arguments : List String) :
    let crash := ExecError.abnormalTermination program .kill
    ∃ r', r.execute (.executable program arguments) .wait
        = (if r.script.crashes program then .error crash
          else .ok (.completed (r.script.exitCode program)), r') ∧
      Leaves r (.spawn program arguments .wait r.input r.output ::
        if r.script.crashes program then [.failed crash] else []) 0 r' := by
  intro crash
  rw [execute_executable]
  unfold spawn
  dsimp only [record]
  cases hcrash : r.script.crashes program with
  | true =>
    have hevents : ∀ event event' : Event,
        (r.events.push event).push event' = r.events ++ #[event, event'] := fun _ _ =>
      Array.ext' (by simp)
    exact ⟨_, rfl, hf, by simp [fail, record, crash, hevents]⟩
  | false => exact ⟨_, rfl, hf, by simp⟩

/-- A redirection whose path is missing fails and does nothing else. -/
theorem Leaves.missing (hf : r.Faultless) (hmissing : r.script.isMissing redirection.path = true)
    (command : Command) (mode : WaitMode) :
    let error := ExecError.openFile redirection.redirect redirection.path .notFound
    ∃ r', r.execute (.redirection redirection.redirect command redirection.path) mode
        = (.error error, r') ∧ Leaves r [.failed error] 0 r' := by
  intro error
  have hfails : r.openFile redirection.redirect redirection.path = r.fail error := by
    unfold openFile
    rw [hmissing, if_pos rfl]
  rw [execute_redirection, hfails]
  exact ⟨_, rfl, hf, by simp [record]⟩

end Recorder

/-- Of the members of a list that have a property the rightmost one has none behind it. -/
theorem exists_rightmost {α : Type} {p : α → Bool} {l : List α} (h : ∃ a ∈ l, p a = true) :
    ∃ before a after, l = before ++ a :: after ∧ p a = true ∧ ∀ b ∈ after, p b = false := by
  induction l with
  | nil => simp at h
  | cons first rest ih =>
    by_cases hrest : ∃ a ∈ rest, p a = true
    · obtain ⟨before, a, after, rfl, ha, hafter⟩ := ih hrest
      exact ⟨first :: before, a, after, rfl, ha, hafter⟩
    · have hnone : ∀ b ∈ rest, p b = false := by simpa using hrest
      obtain ⟨a, hmem, ha⟩ := h
      obtain rfl | hmem := List.mem_cons.1 hmem
      · exact ⟨[], a, rest, rfl, ha, hnone⟩
      · exact absurd ⟨a, hmem, ha⟩ hrest

/-- The words of a program with redirections behind them, on a recorder of which no call is made to
fail.  If all files can be opened, they are opened from right to left; then the program is started,
once, with the file of the leftmost `<` for its input and that of the leftmost `>` or `>>` for its
output, or with the streams that were active where there is none; and the files are closed from left
to right, also when the program crashes.  Otherwise only the files to the right of the rightmost
missing one are opened, the program is not started, they are closed again from left to right, and the
error is that of the missing one.  Nothing else is left changed. -/
theorem parse_execute_redirected (program : String)
    (hprogram : program ≠ "exit" ∧ program ≠ "test" ∧ program ≠ "[") (arguments : List String)
    (redirections : List Redirection) (hcount : redirections.length ≤ 1000) (r : Recorder)
    (hf : r.Faultless) :
    ∃ command, parse ((program :: arguments).map Token.word
        ++ redirections.flatMap Redirection.tokens) = .ok (some command) ∧
      let ran := r.execute command .wait
      ((∀ redirection ∈ redirections, r.script.isMissing redirection.path = false) →
        let files := filesFrom r.nextId redirections
        let crash := ExecError.abnormalTermination program .kill
        let input := leftmost (· = .input) r.input files
        let output := leftmost (· ≠ .input) r.output files
        ran.1 = (if r.script.crashes program then .error crash
          else .ok (.completed (r.script.exitCode program))) ∧
        r.Leaves (fileOpenings files ++ (.spawn program arguments .wait input output ::
            if r.script.crashes program then [.failed crash] else []) ++ fileClosings files)
          redirections.length ran.2) ∧
      ((∃ redirection ∈ redirections, r.script.isMissing redirection.path = true) →
        ∃ before missing after, redirections = before ++ missing :: after ∧
          r.script.isMissing missing.path = true ∧
          (∀ redirection ∈ after, r.script.isMissing redirection.path = false) ∧
          let files := filesFrom r.nextId after
          let error := ExecError.openFile missing.redirect missing.path .notFound
          ran.1 = .error error ∧
          r.Leaves (fileOpenings files ++ [.failed error] ++ fileClosings files) after.length ran.2) := by
  refine ⟨_, parse_redirected hprogram arguments hcount, ?_, ?_⟩
  · intro hopen files crash input output
    have hf' : (r.withFiles redirections).Faultless := by
      rwa [Recorder.Faultless, Recorder.withFiles_faults]
    obtain ⟨r₁, hran, hleaves⟩ := Recorder.Leaves.executable hf' program arguments
    obtain ⟨r₂, hran', hleaves'⟩ := hleaves.redirected hopen hran
    rw [Recorder.withFiles_script] at hran' hleaves'
    rw [Recorder.withFiles_input, Recorder.withFiles_output, Nat.add_zero] at hleaves'
    rw [hran']
    exact ⟨rfl, hleaves'⟩
  · intro hmissing
    obtain ⟨before, missing, after, rfl, hpath, hafter⟩ := exists_rightmost hmissing
    refine ⟨before, missing, after, rfl, hpath, hafter, ?_⟩
    have hf' : (r.withFiles after).Faultless := by
      rwa [Recorder.Faultless, Recorder.withFiles_faults]
    have hpath' : (r.withFiles after).script.isMissing missing.path = true := by
      rwa [Recorder.withFiles_script]
    obtain ⟨r₁, hran, hleaves⟩ := Recorder.Leaves.missing hf' hpath'
      ((Command.executable program arguments).redirected before) .wait
    obtain ⟨r₂, hran', hleaves'⟩ := hleaves.redirected hafter hran
    rw [Command.redirected_append_cons, hran']
    exact ⟨rfl, hleaves'⟩

/-- Two redirections in each direction, and a program that crashes: the leftmost files count, all of
them are opened, and all of them are closed. -/
theorem parse_execute_redirected_crash :
    let redirections : List Redirection := [⟨.output, "a"⟩, ⟨.input, "b"⟩, ⟨.append, "c"⟩,
      ⟨.input, "d"⟩]
    let crash := ExecError.abnormalTermination "cat" .kill
    let r := Recorder.fresh { Script.plain with crashes := fun program => program = "cat" }
    ("cat" ≠ "exit" ∧ "cat" ≠ "test" ∧ "cat" ≠ "[") ∧ redirections.length ≤ 1000 ∧ r.Faultless ∧
    ∃ command, parse [.word "cat", .word "x", .operator .outputRedirect, .word "a",
        .operator .inputRedirect, .word "b", .operator .appendRedirect, .word "c",
        .operator .inputRedirect, .word "d"] = .ok (some command) ∧
      (r.execute command .wait).1 = .error crash ∧
      (r.execute command .wait).2.events.toList = [.opened .input "d" ⟨0⟩, .opened .append "c" ⟨1⟩,
        .opened .input "b" ⟨2⟩, .opened .output "a" ⟨3⟩,
        .spawn "cat" ["x"] .wait (some ⟨2⟩) (some ⟨3⟩), .failed crash,
        .close ⟨3⟩, .close ⟨2⟩, .close ⟨1⟩, .close ⟨0⟩] := by
  intro redirections crash r
  have hprogram : "cat" ≠ "exit" ∧ "cat" ≠ "test" ∧ "cat" ≠ "[" := by decide
  have hcount : redirections.length ≤ 1000 := by decide
  have hf : r.Faultless := nofun
  obtain ⟨command, hparse, hopen, -⟩ :=
    parse_execute_redirected "cat" hprogram ["x"] redirections hcount r hf
  obtain ⟨hresult, hleaves⟩ := hopen fun _ _ => rfl
  refine ⟨hprogram, hcount, hf, command, hparse, hresult, ?_⟩
  rw [hleaves.eq]
  rfl

end CommandShell
