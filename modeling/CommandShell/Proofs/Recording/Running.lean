import CommandShell.Execution
import CommandShell.Recorder
set_option autoImplicit false

/-!
# Commands on a recorder

What running a command does to a recorder, as a function from the recorder before to the result and
the recorder after.  Each way of putting actions together has an equation here, so that no later
proof looks into the monads; the stages of a pipeline, which can stop at six places, have a relation
with one rule for each of them.  The last section is the induction over commands that goes with
these equations: a pipeline is taken apart into its stages.
-/

namespace CommandShell

namespace Recorder

variable {α β : Type}

/-- Does something that may fail: the result, and the recorder afterwards. -/
def perform (r : Recorder) (action : ExceptT ExecError RecorderM α) :
    Except ExecError α × Recorder :=
  action.run.run r

/-- Runs a command. -/
def execute (r : Recorder) (command : Command) (mode : WaitMode) :
    Except ExecError Outcome × Recorder :=
  r.perform (command.execute mode)

/-! ## Actions in general -/

@[simp] theorem perform_pure (r : Recorder) (a : α) : r.perform (pure a) = (.ok a, r) := rfl

theorem perform_bind (r : Recorder) (action : ExceptT ExecError RecorderM α)
    (next : α → ExceptT ExecError RecorderM β) :
    r.perform (action >>= next) =
      match r.perform action with
      | (.ok a, r₁) => r₁.perform (next a)
      | (.error e, r₁) => (.error e, r₁) := by
  show (ExceptT.bindCont next (action.run.run r).1).run (action.run.run r).2 = _
  unfold perform
  rcases action.run.run r with ⟨_ | _, _⟩ <;> rfl

/-- The run of an action that may fail, seen as a step of an action that does not. -/
theorem run_eq_perform (r : Recorder) (action : ExceptT ExecError RecorderM α) :
    action.run.run r = r.perform action := rfl

theorem run_bind (r : Recorder) (action : RecorderM α) (next : α → RecorderM β) :
    (action >>= next).run r = (next (action.run r).1).run (action.run r).2 := rfl

theorem perform_attempt (r : Recorder) (action : ExceptT ExecError RecorderM α) :
    r.perform (attempt action) = (.ok (r.perform action).1, (r.perform action).2) := rfl

theorem perform_lift (r : Recorder) (action : RecorderM α) :
    r.perform (liftM action) = (.ok (action.run r).1, (action.run r).2) := rfl

theorem perform_ofExcept (r : Recorder) (result : Except ExecError α) :
    r.perform (MonadExcept.ofExcept result) = (result, r) := by
  cases result <;> rfl

/-! ## Operations -/

theorem perform_spawn (r : Recorder) (program : String) (arguments : List String)
    (mode : WaitMode) :
    r.perform (Executor.spawn program arguments mode) = r.spawn program arguments mode := rfl

theorem perform_createPipe (r : Recorder) : r.perform Executor.createPipe = r.createPipe := rfl

theorem perform_openFile (r : Recorder) (redirect : Redirect) (path : String) :
    r.perform (Executor.openFile redirect path) = r.openFile redirect path := rfl

theorem perform_closeStream (r : Recorder) (id : StreamId) :
    r.perform (Executor.closeStream id) = r.closeStream id := rfl

theorem perform_writeOutput (r : Recorder) (text : String) :
    r.perform (Executor.writeOutput text) = r.writeOutput text := rfl

/-! ## Active streams -/

/-- The active stream that a redirection replaces. -/
def active (r : Recorder) : Redirect → Option StreamId
  | .input => r.input
  | .output | .append => r.output

/-- Makes a stream the active one in the direction of a redirection. -/
def activate (r : Recorder) (redirect : Redirect) (stream : Option StreamId) : Recorder :=
  match redirect with
  | .input => { r with input := stream }
  | .output | .append => { r with output := stream }

/-- Replaces both active streams. -/
def setStreams (r : Recorder) (input output : Option StreamId) : Recorder :=
  { r with input := input, output := output }

theorem run_activate (r : Recorder) (redirect : Redirect) (stream : Option StreamId) :
    (redirect.activate stream : RecorderM _).run r
      = (r.active redirect, r.activate redirect stream) := by
  cases redirect <;> rfl

/-! ## Builtins -/

/-- Tells the user something, or nothing. -/
def tell (r : Recorder) : Option Notice → Recorder
  | none => r
  | some notice => { r with notices := r.notices.push notice }

end Recorder

/-- What a builtin comes to: what the user is told, what is written, and the outcome unless writing
fails. -/
structure Builtin.Answer where
  notice : Option Notice
  text : Option String
  outcome : Outcome

/-- What a builtin comes to when paths lead to the given kinds of things. -/
def Builtin.answer (fileKind : String → Option FileKind) : Builtin → Builtin.Answer
  | exit arguments => ⟨exitNotice arguments, none, .terminate (exitCode arguments)⟩
  | test bracket arguments =>
    match TestCall.ofArguments bracket arguments with
    | .refused notice => ⟨some notice, none, .completed 1⟩
    | .usage => ⟨none, some testUsage, .completed 1⟩
    | .question flag path =>
      if flag.holds (fileKind path) then ⟨none, some "(True)\n", .completed 0⟩
      else ⟨none, some "(False)\n", .completed 1⟩

namespace Recorder

/-- Writes a text, or nothing. -/
def writeAny (r : Recorder) : Option String → Except ExecError Unit × Recorder
  | none => (.ok (), r)
  | some text => r.writeOutput text

/-- Gives a builtin's answer. -/
def respond (r : Recorder) (answer : Builtin.Answer) : Except ExecError Outcome × Recorder :=
  match (r.tell answer.notice).writeAny answer.text with
  | (.ok (), r₁) => (.ok answer.outcome, r₁)
  | (.error e, r₁) => (.error e, r₁)

/-- A builtin tells its notice and writes its text, whatever comes of that. -/
theorem respond_snd (r : Recorder) (answer : Builtin.Answer) :
    (r.respond answer).2 = ((r.tell answer.notice).writeAny answer.text).2 := by
  unfold respond
  rcases (r.tell answer.notice).writeAny answer.text with ⟨_ | _, _⟩ <;> rfl

theorem perform_writeOutput_completed (r : Recorder) (text : String) (code : Int) :
    r.perform ((Executor.writeOutput text >>= fun _ => pure code) >>= fun code =>
        pure (.completed code))
      = r.respond ⟨none, some text, .completed code⟩ := by
  simp only [perform_bind, perform_writeOutput, respond, tell, writeAny]
  rcases r.writeOutput text with ⟨_ | _, _⟩ <;> rfl

theorem perform_builtin (r : Recorder) (builtin : Builtin) :
    r.perform builtin.run = r.respond (builtin.answer r.script.fileKind) := by
  cases builtin with
  | exit arguments =>
    simp only [Builtin.run, Builtin.answer]
    cases exitNotice arguments <;> rfl
  | test bracket arguments =>
    simp only [Builtin.run, runTest, Builtin.answer]
    cases TestCall.ofArguments bracket arguments with
    | refused notice => rfl
    | usage => exact r.perform_writeOutput_completed testUsage 1
    | question flag path =>
      have hkind : (Executor.fileKind path : RecorderM _).run r = (r.script.fileKind path, r) := rfl
      rw [bind_assoc, perform_bind, perform_lift, hkind]
      show r.perform ((if flag.holds (r.script.fileKind path) then _ else _) >>= _)
        = r.respond (if flag.holds (r.script.fileKind path) then _ else _)
      cases flag.holds (r.script.fileKind path) with
      | false => exact r.perform_writeOutput_completed "(False)\n" 1
      | true => exact r.perform_writeOutput_completed "(True)\n" 0

/-! ## Subshells -/

/-- The recorder that a subshell finds. -/
def inside (r : Recorder) : Recorder :=
  { r.record (.subshell r.input r.output) with input := none, output := none, faults := none }

/-- The outcome of a subshell whose body has come to a result. -/
def settled : Except ExecError Outcome → Outcome
  | .ok outcome => outcome
  | .error _ => .completed 1

/-- What the user is told about the result of a subshell. -/
def subshellNotice : Except ExecError Outcome → Option Notice
  | .ok _ => none
  | .error e => some (.subshellFailed e)

/-- The recorder after a subshell whose body has come to a result and left `after` behind. -/
def resume (r : Recorder) (result : Except ExecError Outcome) (after : Recorder) : Recorder :=
  let told := after.tell (subshellNotice result)
  { told.record (.subshellEnded (settled result)) with
    input := r.input, output := r.output, faults := r.faults,
    subshells := told.subshells ++ [settled result] }

theorem run_settle (r : Recorder) (body : ExceptT ExecError RecorderM Outcome) :
    (settle body).run r
      = (settled (r.perform body).1,
        (r.perform body).2.tell (subshellNotice (r.perform body).1)) := by
  show StateT.run (body.run >>= _) r = _
  unfold perform
  rw [StateT.run_bind]
  rcases body.run.run r with ⟨_ | _, _⟩ <;> rfl

theorem perform_composite_background (r : Recorder) (body : ExceptT ExecError RecorderM Outcome) :
    r.perform (composite body .background)
      = (.ok (.completed 0), r.resume (r.inside.perform body).1 (r.inside.perform body).2) := by
  have hspawn : r.perform (Executor.spawnSubshell (settle body))
      = (.ok (), r.resume (r.inside.perform body).1 (r.inside.perform body).2) := by
    show (Except.ok (), { ((settle body).run r.inside).2.record
        (.subshellEnded ((settle body).run r.inside).1) with
      input := r.input, output := r.output, faults := r.faults,
      subshells := ((settle body).run r.inside).2.subshells ++ [((settle body).run r.inside).1] })
      = _
    rw [run_settle]
    rfl
  simp only [composite, perform_bind, hspawn, perform_pure]

/-! ## Sequences and conditionals -/

theorem perform_runSequence_cons_cons (r : Recorder)
    (first second : ExceptT ExecError RecorderM Outcome)
    (rest : List (ExceptT ExecError RecorderM Outcome)) :
    r.perform (runSequence (first :: second :: rest)) =
      match r.perform first with
      | (.ok (.completed _), r₁) => r₁.perform (runSequence (second :: rest))
      | (.ok (.terminate code), r₁) => (.ok (.terminate code), r₁)
      | (.error e, r₁) => (.error e, r₁) := by
  show r.perform (first >>= _) = _
  rw [perform_bind]
  rcases r.perform first with ⟨_ | _ | _, _⟩ <;> rfl

theorem perform_runConditional (r : Recorder) (continues : Int → Bool)
    (primary secondary : Action RecorderM) :
    r.perform (runConditional continues primary secondary) =
      match r.perform (primary .wait) with
      | (.ok (.completed code), r₁) =>
        if continues code then r₁.perform (secondary .wait) else (.ok (.completed code), r₁)
      | (.ok (.terminate code), r₁) => (.ok (.terminate code), r₁)
      | (.error e, r₁) => (.error e, r₁) := by
  rw [runConditional, perform_bind]
  rcases r.perform (primary .wait) with ⟨_ | code | _, r₁⟩
  · rfl
  · show r₁.perform (if continues code then _ else _) = if continues code then _ else _
    cases continues code <;> rfl
  · rfl

/-! ## Redirections -/

theorem perform_runRedirection (r : Recorder) (redirect : Redirect) (path : String)
    (primary : Action RecorderM) (mode : WaitMode) :
    r.perform (runRedirection redirect path primary mode) =
      match r.openFile redirect path with
      | (.error e, r₁) => (.error e, r₁)
      | (.ok stream, r₁) =>
        let ran := (r₁.activate redirect (some stream)).perform (primary mode)
        let closed := (ran.2.activate redirect (r₁.active redirect)).closeStream stream
        (ran.1 >>= fun outcome => closed.1 >>= fun () => .ok outcome, closed.2) := by
  simp only [runRedirection, perform_bind, perform_attempt, perform_ofExcept, perform_lift,
    run_activate, perform_openFile, perform_closeStream]
  rcases r.openFile redirect path with ⟨_ | stream, r₁⟩
  · rfl
  · dsimp only
    rcases (r₁.activate redirect (some stream)).perform (primary mode) with ⟨_ | _, r₂⟩
    · rfl
    · dsimp only
      rcases (r₂.activate redirect (r₁.active redirect)).closeStream stream with ⟨_ | _, _⟩ <;> rfl

/-! ## Pipelines -/

theorem perform_releaseAll_cons (r : Recorder) (id : StreamId) (rest : List StreamId) :
    r.perform (releaseAll (id :: rest)) =
      let first := r.closeStream id
      let others := first.2.perform (releaseAll rest)
      (first.1 >>= fun () => others.1, others.2) := by
  simp only [releaseAll, perform_bind, perform_attempt, perform_ofExcept, perform_closeStream]
  rcases r.closeStream id with ⟨_ | _, _⟩ <;> rfl

theorem perform_createPipes_succ (r : Recorder) (opened : List (StreamId × StreamId))
    (count : Nat) :
    r.perform (createPipes opened (count + 1)) =
      match r.createPipe with
      | (.ok pipe, r₁) => r₁.perform (createPipes (opened ++ [pipe]) count)
      | (.error e, r₁) => (.error e, (r₁.perform (releaseAll (pipeEnds opened))).2) := by
  rw [createPipes, perform_bind, perform_attempt, perform_createPipe]
  rcases r.createPipe with ⟨_ | _, _⟩ <;> rfl

/-- The streams that a stage of a pipeline finds active. -/
def stageStart (r : Recorder) (inherited : Inherited) (incoming : Option StreamId)
    (pipes : List (StreamId × StreamId)) : Recorder :=
  r.setStreams (incoming <|> inherited.input) (pipes.head?.map Prod.snd <|> inherited.output)

/-- Only the last stage of a pipeline is waited for. -/
def stageMode (pipes : List (StreamId × StreamId)) : WaitMode :=
  if pipes.isEmpty then .wait else .background

/-- The stages of a pipeline run: from the read end before the first of them, the stages, the pipes
after each of them but the last and the recorder before, to the result, the ends that are still to
be closed and the recorder after. -/
inductive StagesRun (inherited : Inherited) :
    Option StreamId → List (Action RecorderM) → List (StreamId × StreamId) → Recorder →
      Except ExecError Outcome → List StreamId → Recorder → Prop where
  /-- There is no stage. -/
  | none {incoming pipes r} :
    StagesRun inherited incoming [] pipes r
      (.ok (.completed 0)) (incoming.toList ++ pipeEnds pipes) r
  /-- A stage fails. -/
  | failed {incoming stage stages pipes r e r₁} :
    (r.stageStart inherited incoming pipes).perform (stage (stageMode pipes)) = (.error e, r₁) →
    StagesRun inherited incoming (stage :: stages) pipes r
      (.error e) (incoming.toList ++ pipeEnds pipes) r₁
  /-- The read end before a stage cannot be closed. -/
  | incomingKept {incoming stage stages pipes r outcome r₁ e r₂} :
    (r.stageStart inherited incoming pipes).perform (stage (stageMode pipes))
      = (.ok outcome, r₁) →
    r₁.perform (releaseAll incoming.toList) = (.error e, r₂) →
    StagesRun inherited incoming (stage :: stages) pipes r (.error e) (pipeEnds pipes) r₂
  /-- The last stage ends. -/
  | last {incoming stage stages r outcome r₁ r₂} :
    (r.stageStart inherited incoming []).perform (stage .wait) = (.ok outcome, r₁) →
    r₁.perform (releaseAll incoming.toList) = (.ok (), r₂) →
    StagesRun inherited incoming (stage :: stages) [] r (.ok outcome) [] r₂
  /-- The write end after a stage cannot be closed. -/
  | outgoingKept {incoming stage stages read write pipes r outcome r₁ r₂ e r₃} :
    (r.stageStart inherited incoming ((read, write) :: pipes)).perform (stage .background)
      = (.ok outcome, r₁) →
    r₁.perform (releaseAll incoming.toList) = (.ok (), r₂) →
    r₂.closeStream write = (.error e, r₃) →
    StagesRun inherited incoming (stage :: stages) ((read, write) :: pipes) r
      (.error e) (read :: pipeEnds pipes) r₃
  /-- A stage other than the last is an `exit`. -/
  | exited {incoming stage stages read write pipes r code r₁ r₂ r₃} :
    (r.stageStart inherited incoming ((read, write) :: pipes)).perform (stage .background)
      = (.ok (.terminate code), r₁) →
    r₁.perform (releaseAll incoming.toList) = (.ok (), r₂) →
    r₂.closeStream write = (.ok (), r₃) →
    StagesRun inherited incoming (stage :: stages) ((read, write) :: pipes) r
      (.ok (.terminate code)) (read :: pipeEnds pipes) r₃
  /-- A stage other than the last completes. -/
  | next {incoming stage stages read write pipes r code r₁ r₂ r₃ result leftover r'} :
    (r.stageStart inherited incoming ((read, write) :: pipes)).perform (stage .background)
      = (.ok (.completed code), r₁) →
    r₁.perform (releaseAll incoming.toList) = (.ok (), r₂) →
    r₂.closeStream write = (.ok (), r₃) →
    StagesRun inherited (some read) stages pipes r₃ result leftover r' →
    StagesRun inherited incoming (stage :: stages) ((read, write) :: pipes) r result leftover r'

theorem run_runStages_cons (inherited : Inherited) (incoming : Option StreamId)
    (stage : Action RecorderM) (stages : List (Action RecorderM))
    (pipes : List (StreamId × StreamId)) (r : Recorder) :
    (runStages inherited incoming (stage :: stages) pipes).run r =
      match (r.stageStart inherited incoming pipes).perform (stage (stageMode pipes)) with
      | (.error e, r₁) => ((.error e, incoming.toList ++ pipeEnds pipes), r₁)
      | (.ok outcome, r₁) =>
        match r₁.perform (releaseAll incoming.toList) with
        | (.error e, r₂) => ((.error e, pipeEnds pipes), r₂)
        | (.ok (), r₂) =>
          match pipes with
          | [] => ((.ok outcome, []), r₂)
          | (read, write) :: pipes =>
            match r₂.closeStream write with
            | (.error e, r₃) => ((.error e, read :: pipeEnds pipes), r₃)
            | (.ok (), r₃) =>
              match outcome with
              | .completed _ => (runStages inherited (some read) stages pipes).run r₃
              | .terminate code => ((.ok (.terminate code), read :: pipeEnds pipes), r₃) := by
  have hstart : ∀ next : RecorderM (Except ExecError Outcome × List StreamId),
      (do
        let _ ← Executor.setInputStream (incoming <|> inherited.input)
        let _ ← Executor.setOutputStream (pipes.head?.map Prod.snd <|> inherited.output)
        next).run r = next.run (r.stageStart inherited incoming pipes) := fun _ => rfl
  rw [runStages, hstart, run_bind, run_eq_perform, ← stageMode]
  rcases (r.stageStart inherited incoming pipes).perform (stage (stageMode pipes)) with
    ⟨_ | outcome, r₁⟩
  · rfl
  dsimp only
  rw [run_bind, run_eq_perform]
  rcases r₁.perform (releaseAll incoming.toList) with ⟨_ | _, r₂⟩
  · rfl
  dsimp only
  rcases pipes with _ | ⟨⟨read, write⟩, pipes⟩
  · rfl
  dsimp only
  rw [run_bind, run_eq_perform, perform_closeStream]
  rcases r₂.closeStream write with ⟨_ | _, r₃⟩
  · rfl
  rcases outcome with _ | _ <;> rfl

theorem stagesRun_runStages (inherited : Inherited) :
    ∀ (stages : List (Action RecorderM)) (incoming : Option StreamId)
      (pipes : List (StreamId × StreamId)) (r : Recorder),
      StagesRun inherited incoming stages pipes r
        ((runStages inherited incoming stages pipes).run r).1.1
        ((runStages inherited incoming stages pipes).run r).1.2
        ((runStages inherited incoming stages pipes).run r).2
  | [], _, _, _ => .none
  | stage :: stages, incoming, pipes, r => by
    rw [run_runStages_cons]
    rcases hstage : (r.stageStart inherited incoming pipes).perform (stage (stageMode pipes)) with
      ⟨_ | outcome, r₁⟩
    · exact .failed hstage
    dsimp only
    rcases hincoming : r₁.perform (releaseAll incoming.toList) with ⟨_ | _, r₂⟩
    · exact .incomingKept hstage hincoming
    dsimp only
    rcases pipes with _ | ⟨⟨read, write⟩, pipes⟩
    · exact .last hstage hincoming
    dsimp only
    rcases houtgoing : r₂.closeStream write with ⟨_ | _, r₃⟩
    · exact .outgoingKept hstage hincoming houtgoing
    rcases outcome with code | code
    · exact .next hstage hincoming houtgoing
        (stagesRun_runStages inherited stages (some read) pipes r₃)
    · exact .exited hstage hincoming houtgoing

/-- An outcome in the light of the code of an `exit` in a subshell, which counts if there is no
other. -/
def withExit : Outcome → Option Int → Outcome
  | .completed _, some code => .terminate code
  | outcome, _ => outcome

/-- What becomes of a pipeline whose stages have ended: the result of the stages, that of closing
the ends left over, and the code of the first `exit` in its subshells. -/
def concluded (result : Except ExecError Outcome) (released : Except ExecError Unit)
    (exit : Option Int) : Except ExecError Outcome :=
  result >>= fun outcome => released >>= fun () => .ok (withExit outcome exit)

theorem perform_runPipeline (r : Recorder) (stages : List (Action RecorderM)) :
    r.perform (runPipeline stages) =
      match r.perform (createPipes [] (stages.length - 1)) with
      | (.error e, r₁) => (.error e, r₁)
      | (.ok pipes, r₁) =>
        let staged := (runStages ⟨r₁.input, r₁.output⟩ none stages pipes).run r₁
        let released := (staged.2.setStreams r₁.input r₁.output).perform (releaseAll staged.1.2)
        let collected := released.2.collectSubshells r₁.subshells.length
        (concluded staged.1.1 released.1 collected.1, collected.2) := by
  have hinput : ∀ s : Recorder, (Executor.inputStream : RecorderM _).run s = (s.input, s) :=
    fun _ => rfl
  have houtput : ∀ s : Recorder, (Executor.outputStream : RecorderM _).run s = (s.output, s) :=
    fun _ => rfl
  have hpending : ∀ s : Recorder,
      (Executor.pendingSubshells : RecorderM _).run s = (s.subshells.length, s) := fun _ => rfl
  have hset : ∀ (s : Recorder) (input output : Option StreamId),
      ((Executor.setOutputStream output : RecorderM _).run
        ((Executor.setInputStream input : RecorderM _).run s).2).2 = s.setStreams input output :=
    fun _ _ _ => rfl
  have hcollect : ∀ (s : Recorder) (keep : Nat), s.perform (Executor.collectSubshells keep)
      = (.ok (s.collectSubshells keep).1, (s.collectSubshells keep).2) := fun _ _ => rfl
  rw [runPipeline, perform_bind]
  rcases r.perform (createPipes [] (stages.length - 1)) with ⟨_ | pipes, r₁⟩
  · rfl
  simp only [perform_bind, perform_lift, perform_attempt, perform_ofExcept, hinput, houtput,
    hpending, hset, hcollect]
  rcases ((runStages ⟨r₁.input, r₁.output⟩ none stages pipes).run r₁) with
    ⟨⟨_ | outcome, leftover⟩, r₂⟩
  · rfl
  dsimp only
  rcases (r₂.setStreams r₁.input r₁.output).perform (releaseAll leftover) with ⟨_ | _, r₃⟩
  · rfl
  dsimp only
  rcases r₃.collectSubshells r₁.subshells.length with ⟨_ | _, _⟩ <;> cases outcome <;> rfl

/-! ## Commands -/

theorem execute_executable (r : Recorder) (program : String) (arguments : List String)
    (mode : WaitMode) :
    r.execute (.executable program arguments) mode
      = ((r.spawn program arguments mode).1.map .completed,
        (r.spawn program arguments mode).2) := by
  show r.perform (Executor.spawn program arguments mode >>= _) = _
  rw [perform_bind, perform_spawn]
  rcases r.spawn program arguments mode with ⟨_ | _, _⟩ <;> rfl

theorem execute_builtin (r : Recorder) (builtin : Builtin) (mode : WaitMode) :
    r.execute (.builtin builtin) mode = r.respond (builtin.answer r.script.fileKind) :=
  r.perform_builtin builtin

/-- A composite command in the background runs in a subshell, where it is waited for. -/
theorem execute_background (r : Recorder) {command : Command} (h : command.isComposite = true) :
    r.execute command .background
      = (.ok (.completed 0),
        r.resume (r.inside.execute command .wait).1 (r.inside.execute command .wait).2) := by
  cases command with
  | executable => simp [Command.isComposite] at h
  | builtin => simp [Command.isComposite] at h
  | sequential commands => exact r.perform_composite_background _
  | binary connective primary secondary =>
    cases connective <;> exact r.perform_composite_background _
  | redirection => simp [Command.isComposite] at h

theorem execute_sequential_nil (r : Recorder) :
    r.execute (.sequential []) .wait = (.error .emptySequence, r) := rfl

theorem execute_sequential_singleton (r : Recorder) (command : Command) :
    r.execute (.sequential [command]) .wait = r.execute command .wait := rfl

theorem execute_sequential_cons_cons (r : Recorder) (first second : Command)
    (rest : List Command) :
    r.execute (.sequential (first :: second :: rest)) .wait =
      match r.execute first .wait with
      | (.ok (.completed _), r₁) => r₁.execute (.sequential (second :: rest)) .wait
      | (.ok (.terminate code), r₁) => (.ok (.terminate code), r₁)
      | (.error e, r₁) => (.error e, r₁) :=
  r.perform_runSequence_cons_cons _ _ _

/-- Whether a connective that is no pipe goes on after the code of its first operand. -/
def continues : Connective → Int → Bool
  | .disjunction, code => code != 0
  | .conjunction, code | .pipe, code => code == 0

theorem execute_conditional (r : Recorder) {connective : Connective} (h : connective ≠ .pipe)
    (primary secondary : Command) :
    r.execute (.binary connective primary secondary) .wait =
      match r.execute primary .wait with
      | (.ok (.completed code), r₁) =>
        if continues connective code then r₁.execute secondary .wait
        else (.ok (.completed code), r₁)
      | (.ok (.terminate code), r₁) => (.ok (.terminate code), r₁)
      | (.error e, r₁) => (.error e, r₁) := by
  cases connective with
  | conjunction => exact r.perform_runConditional _ _ _
  | disjunction => exact r.perform_runConditional _ _ _
  | pipe => exact absurd rfl h

theorem execute_redirection (r : Recorder) (redirect : Redirect) (primary : Command)
    (path : String) (mode : WaitMode) :
    r.execute (.redirection redirect primary path) mode =
      match r.openFile redirect path with
      | (.error e, r₁) => (.error e, r₁)
      | (.ok stream, r₁) =>
        let ran := (r₁.activate redirect (some stream)).execute primary mode
        let closed := (ran.2.activate redirect (r₁.active redirect)).closeStream stream
        (ran.1 >>= fun outcome => closed.1 >>= fun () => .ok outcome, closed.2) :=
  r.perform_runRedirection redirect path _ mode

theorem execute_pipe (r : Recorder) (primary secondary : Command) :
    r.execute (.binary .pipe primary secondary) .wait
      = r.perform (runPipeline
        ((Command.binary .pipe primary secondary).pipelineStages.map Command.execute)) := by
  rw [execute, Command.execute_pipe, composite]

/-! ### Runs that follow one another -/

section Trans

variable (R : Recorder → Recorder → Prop)
  (trans : ∀ {r r₁ r' : Recorder}, R r r₁ → R r₁ r' → R r r')

include trans

/-- A sequence leads from one recorder to another by runs of its commands. -/
theorem execute_sequential_of_trans (refl : ∀ r, R r r) {commands : List Command}
    (h : ∀ command ∈ commands, ∀ r : Recorder, R r (r.execute command .wait).2) (r : Recorder) :
    R r (r.execute (.sequential commands) .wait).2 := by
  induction commands generalizing r with
  | nil => exact refl r
  | cons first rest ih =>
    have hfirst := h first (List.mem_cons_self ..) r
    cases rest with
    | nil => exact hfirst
    | cons second rest =>
      rw [execute_sequential_cons_cons]
      generalize r.execute first .wait = ran at hfirst ⊢
      rcases ran with ⟨e | code | code, r₁⟩
      · exact hfirst
      · exact trans hfirst (ih (fun command hmem => h command (List.mem_cons_of_mem _ hmem)) r₁)
      · exact hfirst

/-- So does a pair of commands that is no pipeline. -/
theorem execute_conditional_of_trans {connective : Connective} (hconnective : connective ≠ .pipe)
    {primary secondary : Command} (hprimary : ∀ r : Recorder, R r (r.execute primary .wait).2)
    (hsecondary : ∀ r : Recorder, R r (r.execute secondary .wait).2) (r : Recorder) :
    R r (r.execute (.binary connective primary secondary) .wait).2 := by
  have hfirst := hprimary r
  rw [execute_conditional r hconnective]
  generalize r.execute primary .wait = ran at hfirst ⊢
  rcases ran with ⟨e | code | code, r₁⟩
  · exact hfirst
  · dsimp only
    split
    · exact trans hfirst (hsecondary r₁)
    · exact hfirst
  · exact hfirst

/-- So does a redirection: by opening its file, running its command and closing the file. -/
theorem execute_redirection_of_trans
    (opens : ∀ r redirect path, R r (openFile redirect path r).2)
    (activates : ∀ r redirect stream, R r (activate r redirect stream))
    (closes : ∀ r id, R r (closeStream id r).2) {primary : Command} {mode : WaitMode}
    (hprimary : ∀ r : Recorder, R r (r.execute primary mode).2) (redirect : Redirect)
    (path : String) (r : Recorder) :
    R r (r.execute (.redirection redirect primary path) mode).2 := by
  have hopened := opens r redirect path
  rw [execute_redirection]
  generalize r.openFile redirect path = opened at hopened ⊢
  rcases opened with ⟨e | stream, r₁⟩ <;> dsimp only at hopened ⊢
  · exact hopened
  · exact trans hopened (trans (activates _ _ _)
      (trans (hprimary _) (trans (activates _ _ _) (closes _ _))))

section Pipelines

variable (refl : ∀ r, R r r) (closes : ∀ r id, R r (closeStream id r).2)

include refl closes

/-- Streams are closed one by one. -/
theorem perform_releaseAll_of_trans (ids : List StreamId) (r : Recorder) :
    R r (r.perform (releaseAll ids)).2 := by
  induction ids generalizing r with
  | nil => exact refl r
  | cons id ids ih =>
    rw [perform_releaseAll_cons]
    exact trans (closes r id) (ih _)

/-- Pipes are opened one by one, and perhaps closed again. -/
theorem perform_createPipes_of_trans (creates : ∀ r, R r (createPipe r).2)
    (opened : List (StreamId × StreamId)) (count : Nat) (r : Recorder) :
    R r (r.perform (createPipes opened count)).2 := by
  induction count generalizing opened r with
  | zero => exact refl r
  | succ count ih =>
    have hcreated := creates r
    rw [perform_createPipes_succ]
    generalize r.createPipe = created at hcreated ⊢
    rcases created with ⟨e | pipe, r₁⟩ <;> dsimp only at hcreated ⊢
    · exact trans hcreated (perform_releaseAll_of_trans R trans refl closes _ _)
    · exact trans hcreated (ih _ _)

/-- The stages of a pipeline run one after another, wherever they stop, and streams are closed in
between. -/
theorem StagesRun.of_trans (sets : ∀ r input output, R r (setStreams r input output))
    {inherited : Inherited} {incoming : Option StreamId} {stages : List (Action RecorderM)}
    {pipes : List (StreamId × StreamId)} {r r' : Recorder} {result : Except ExecError Outcome}
    {leftover : List StreamId}
    (h : StagesRun inherited incoming stages pipes r result leftover r')
    (hstages : ∀ stage ∈ stages, ∀ mode (r : Recorder), R r (r.perform (stage mode)).2) :
    R r r' := by
  have hstage : ∀ {incoming : Option StreamId} {stage : Action RecorderM}
      {stages : List (Action RecorderM)} {pipes : List (StreamId × StreamId)} {mode : WaitMode}
      {r r₁ : Recorder} {result : Except ExecError Outcome},
      (r.stageStart inherited incoming pipes).perform (stage mode) = (result, r₁) →
      (∀ other ∈ stage :: stages, ∀ mode (r : Recorder), R r (r.perform (other mode)).2) →
      R r r₁ := by
    intro incoming stage stages pipes mode r r₁ result hran hstages
    have hperformed := hstages stage (List.mem_cons_self ..) mode
      (r.stageStart inherited incoming pipes)
    rw [hran] at hperformed
    exact trans (sets r _ _) hperformed
  have hreleased : ∀ {ids : List StreamId} {r r₁ : Recorder} {result : Except ExecError Unit},
      r.perform (releaseAll ids) = (result, r₁) → R r r₁ := by
    intro ids r r₁ result hran
    have hall := perform_releaseAll_of_trans R trans refl closes ids r
    rwa [hran] at hall
  have hclosed : ∀ {id : StreamId} {r r₁ : Recorder} {result : Except ExecError Unit},
      r.closeStream id = (result, r₁) → R r r₁ := by
    intro id r r₁ result hran
    have hone := closes r id
    rwa [hran] at hone
  induction h with
  | none => exact refl _
  | failed hran => exact hstage hran hstages
  | incomingKept hran hincoming => exact trans (hstage hran hstages) (hreleased hincoming)
  | last hran hincoming => exact trans (hstage hran hstages) (hreleased hincoming)
  | outgoingKept hran hincoming houtgoing =>
    exact trans (hstage hran hstages) (trans (hreleased hincoming) (hclosed houtgoing))
  | exited hran hincoming houtgoing =>
    exact trans (hstage hran hstages) (trans (hreleased hincoming) (hclosed houtgoing))
  | next hran hincoming houtgoing _ ih =>
    have hpassed := trans (hstage hran hstages) (trans (hreleased hincoming) (hclosed houtgoing))
    exact trans hpassed (ih fun stage hmem => hstages stage (List.mem_cons_of_mem _ hmem))

end Pipelines

end Trans

end Recorder

/-! ## Induction over commands -/

section Induction

set_option linter.unusedSectionVars false

variable {P : Command → Prop}
  (executable : ∀ program arguments, P (.executable program arguments))
  (builtin : ∀ action, P (.builtin action))
  (sequential : ∀ commands, (∀ command ∈ commands, P command) → P (.sequential commands))
  (conditional : ∀ connective primary secondary, connective ≠ .pipe → P primary → P secondary →
    P (.binary connective primary secondary))
  (pipeline : ∀ primary secondary,
    (∀ stage ∈ (Command.binary .pipe primary secondary).pipelineStages, P stage) →
    P (.binary .pipe primary secondary))
  (redirection : ∀ redirect primary path, P primary → P (.redirection redirect primary path))

include executable builtin sequential conditional pipeline redirection

mutual

/-- What holds of a command, and of the stages of a pipeline that ends in it. -/
private theorem Command.and_stages : ∀ command : Command,
    P command ∧ ∀ stage ∈ command.pipelineStages, P stage
  | .executable program arguments =>
    ⟨executable program arguments, List.forall_mem_singleton.2 (executable program arguments)⟩
  | .builtin action => ⟨builtin action, List.forall_mem_singleton.2 (builtin action)⟩
  | .sequential commands =>
    have h := sequential commands (Command.forall_mem commands)
    ⟨h, List.forall_mem_singleton.2 h⟩
  | .binary .conjunction primary secondary =>
    have h := conditional .conjunction primary secondary (by simp)
      (Command.and_stages primary).1 (Command.and_stages secondary).1
    ⟨h, List.forall_mem_singleton.2 h⟩
  | .binary .disjunction primary secondary =>
    have h := conditional .disjunction primary secondary (by simp)
      (Command.and_stages primary).1 (Command.and_stages secondary).1
    ⟨h, List.forall_mem_singleton.2 h⟩
  | .binary .pipe primary secondary =>
    have h := List.forall_mem_cons.2
      ⟨(Command.and_stages primary).1, (Command.and_stages secondary).2⟩
    ⟨pipeline primary secondary h, h⟩
  | .redirection redirect primary path =>
    have h := redirection redirect primary path (Command.and_stages primary).1
    ⟨h, List.forall_mem_singleton.2 h⟩

private theorem Command.forall_mem : ∀ commands : List Command, ∀ command ∈ commands, P command
  | [] => List.forall_mem_nil _
  | command :: rest =>
    List.forall_mem_cons.2 ⟨(Command.and_stages command).1, Command.forall_mem rest⟩

end

/-- Induction over commands, where a pipeline has its stages for parts. -/
@[elab_as_elim]
theorem Command.stages_induction (command : Command) : P command :=
  (Command.and_stages executable builtin sequential conditional pipeline redirection command).1

end Induction

end CommandShell
