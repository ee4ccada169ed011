import CommandShell.Proofs.Recording.Evaluation
import Mathlib.Data.List.Basic
set_option autoImplicit false

/-!
# Command lines are isolated

A recorder that has run some command lines, and whose calls are not made to fail, goes on as a fresh
one would: what the next line comes to is the same, and what it does is the same but for the numbers
of its streams, which start where those given out before have ended.

To see this, what a recorder does is put after the past of another one.  Each operation does after a
past what it does without, under later numbers; so do actions that are put together from such
operations, and so do commands.  A line leaves nothing behind but its past.
-/

namespace CommandShell

/-! ## Later numbers -/

/-- A stream under a number that is later by `k`. -/
def StreamId.later (k : Nat) (id : StreamId) : StreamId := ⟨id.index + k⟩

theorem StreamId.later_injective (k : Nat) : Function.Injective (StreamId.later k) := by
  rintro ⟨index⟩ ⟨index'⟩ h
  simpa [later] using h

/-- An error about a stream under a later number. -/
def ExecError.later (k : Nat) : ExecError → ExecError
  | unknownStream id => unknownStream (id.later k)
  | error => error

/-- A notice of an error under later numbers. -/
def Notice.later (k : Nat) : Notice → Notice
  | subshellFailed error => subshellFailed (error.later k)
  | notice => notice

/-- An event whose streams have later numbers. -/
def Event.later (k : Nat) : Event → Event
  | spawn program arguments mode input output =>
    spawn program arguments mode (input.map (.later k)) (output.map (.later k))
  | subshell input output => subshell (input.map (.later k)) (output.map (.later k))
  | subshellEnded outcome => subshellEnded outcome
  | pipe read write => pipe (read.later k) (write.later k)
  | opened redirect path stream => opened redirect path (stream.later k)
  | close stream => close (stream.later k)
  | wrote output text => wrote (output.map (.later k)) text
  | collect keep => collect keep
  | failed error => failed (error.later k)

/-- A result whose value is changed in a way, or whose error is about later numbers. -/
def laterResult {α α' : Type} (k : Nat) (f : α → α') : Except ExecError α → Except ExecError α'
  | .ok a => .ok (f a)
  | .error error => .error (error.later k)

/-- The pipes under later numbers. -/
def laterPipes (k : Nat) (pipes : List (StreamId × StreamId)) : List (StreamId × StreamId) :=
  pipes.map (Prod.map (StreamId.later k) (StreamId.later k))

theorem pipeEnds_laterPipes (k : Nat) (pipes : List (StreamId × StreamId)) :
    pipeEnds (laterPipes k pipes) = (pipeEnds pipes).map (StreamId.later k) := by
  simp [pipeEnds, laterPipes, List.flatMap_map, List.map_flatMap]

/-- What a recorder has done, after what another has done before. -/
def Recorder.after (r past : Recorder) : Recorder :=
  { r with
    events := past.events ++ r.events.map (.later past.nextId)
    notices := past.notices ++ r.notices.map (.later past.nextId)
    openStreams := r.openStreams.map (.later past.nextId)
    nextId := r.nextId + past.nextId
    input := r.input.map (.later past.nextId)
    output := r.output.map (.later past.nextId) }

attribute [simp] ExecError.later Notice.later Event.later laterResult Recorder.after

/-! ## Actions after a past -/

/-- As long as no call is made to fail, the second action does after the past what the first one
does without, and gives what that gives, changed by `f`. -/
def Renumbers {α α' : Type} (past : Recorder) (f : α → α') (x : RecorderM α) (x' : RecorderM α') :
    Prop :=
  ∀ r : Recorder, r.faults = none →
    x'.run (r.after past) = (f (x.run r).1, (x.run r).2.after past) ∧ (x.run r).2.faults = none

/-- The same of actions that may fail: their errors are about later numbers. -/
def RenumbersE {α α' : Type} (past : Recorder) (f : α → α') (x : ExceptT ExecError RecorderM α)
    (x' : ExceptT ExecError RecorderM α') : Prop :=
  ∀ r : Recorder, r.faults = none →
    (r.after past).perform x'
        = (laterResult past.nextId f (r.perform x).1, (r.perform x).2.after past) ∧
      (r.perform x).2.faults = none

section Actions

variable {α α' β β' : Type} {past : Recorder} {f : α → α'} {g : β → β'}

namespace Renumbers

theorem pure (f : α → α') (a : α) : Renumbers past f (pure a) (pure (f a)) :=
  fun _ hfaults => ⟨rfl, hfaults⟩

theorem bind {x : RecorderM α} {x' : RecorderM α'} {next : α → RecorderM β}
    {next' : α' → RecorderM β'} (h : Renumbers past f x x')
    (hnext : ∀ a, Renumbers past g (next a) (next' (f a))) :
    Renumbers past g (x >>= next) (x' >>= next') := by
  intro r hfaults
  obtain ⟨hfirst, hfaults'⟩ := h r hfaults
  rw [Recorder.run_bind, Recorder.run_bind, hfirst]
  exact hnext _ _ hfaults'

end Renumbers

namespace RenumbersE

theorem pure (f : α → α') (a : α) : RenumbersE past f (pure a) (pure (f a)) :=
  fun _ hfaults => ⟨rfl, hfaults⟩

theorem throw (f : α → α') (e : ExecError) :
    RenumbersE past f (throw e) (throw (e.later past.nextId)) :=
  fun _ hfaults => ⟨rfl, hfaults⟩

theorem bind {x : ExceptT ExecError RecorderM α} {x' : ExceptT ExecError RecorderM α'}
    {next : α → ExceptT ExecError RecorderM β} {next' : α' → ExceptT ExecError RecorderM β'}
    (h : RenumbersE past f x x') (hnext : ∀ a, RenumbersE past g (next a) (next' (f a))) :
    RenumbersE past g (x >>= next) (x' >>= next') := by
  intro r hfaults
  obtain ⟨hfirst, hfaults'⟩ := h r hfaults
  rw [Recorder.perform_bind, Recorder.perform_bind, hfirst]
  generalize r.perform x = ran at hfaults' ⊢
  rcases ran with ⟨_ | a, r₁⟩
  · exact ⟨rfl, hfaults'⟩
  · exact hnext a r₁ hfaults'

theorem lift {x : RecorderM α} {x' : RecorderM α'} (h : Renumbers past f x x') :
    RenumbersE past f (liftM x) (liftM x') := by
  intro r hfaults
  obtain ⟨hran, hfaults'⟩ := h r hfaults
  rw [Recorder.perform_lift, Recorder.perform_lift, hran]
  exact ⟨rfl, hfaults'⟩

theorem attempt {x : ExceptT ExecError RecorderM α} {x' : ExceptT ExecError RecorderM α'}
    (h : RenumbersE past f x x') :
    RenumbersE past (laterResult past.nextId f) (attempt x) (attempt x') :=
  lift h

theorem ofExcept (f : α → α') (result : Except ExecError α) :
    RenumbersE past f (MonadExcept.ofExcept result)
      (MonadExcept.ofExcept (laterResult past.nextId f result)) := by
  cases result with
  | error e => exact throw f e
  | ok a => exact pure f a

/-! ### Operations -/

theorem spawn (program : String) (arguments : List String) (mode : WaitMode) :
    RenumbersE past id (Executor.spawn program arguments mode)
      (Executor.spawn program arguments mode) := by
  intro r hfaults
  rw [Recorder.perform_spawn, Recorder.perform_spawn]
  cases hcrashes : r.script.crashes program <;> cases mode <;>
    simp [Recorder.spawn, Recorder.fail, Recorder.record, hcrashes, hfaults, Array.push_append]

theorem createPipe :
    RenumbersE past (Prod.map (StreamId.later past.nextId) (StreamId.later past.nextId))
      Executor.createPipe Executor.createPipe := by
  intro r hfaults
  rw [Recorder.perform_createPipe, Recorder.perform_createPipe]
  simp [Recorder.createPipe, Recorder.register, Recorder.record, hfaults, StreamId.later,
    Nat.add_right_comm, Array.push_append]

theorem openFile (redirect : Redirect) (path : String) :
    RenumbersE past (StreamId.later past.nextId) (Executor.openFile redirect path)
      (Executor.openFile redirect path) := by
  intro r hfaults
  rw [Recorder.perform_openFile, Recorder.perform_openFile]
  cases hmissing : r.script.isMissing path <;>
    simp [Recorder.openFile, Recorder.register, Recorder.fail, Recorder.record, hmissing, hfaults,
      StreamId.later, Nat.add_right_comm, Array.push_append]

/-- A stream is open after a past if the one that it stands for is open without. -/
theorem closeStream (stream : StreamId) :
    RenumbersE past id (Executor.closeStream stream)
      (Executor.closeStream (stream.later past.nextId)) := by
  intro r hfaults
  have hopen : stream.later past.nextId ∈ r.openStreams.map (StreamId.later past.nextId)
      ↔ stream ∈ r.openStreams :=
    List.mem_map_of_injective (StreamId.later_injective _)
  have herase : (r.openStreams.map (StreamId.later past.nextId)).erase (stream.later past.nextId)
      = (r.openStreams.erase stream).map (StreamId.later past.nextId) :=
    (List.map_erase (StreamId.later_injective _) _).symm
  rw [Recorder.perform_closeStream, Recorder.perform_closeStream]
  by_cases hmem : stream ∈ r.openStreams <;>
    simp [Recorder.closeStream, Recorder.fail, Recorder.record, hopen, herase, hmem, hfaults,
      Array.push_append]

theorem writeOutput (text : String) :
    RenumbersE past id (Executor.writeOutput text) (Executor.writeOutput text) := by
  intro r hfaults
  rw [Recorder.perform_writeOutput, Recorder.perform_writeOutput]
  simp [Recorder.writeOutput, Recorder.record, hfaults, Array.push_append]

theorem collectSubshells (keep : Nat) :
    RenumbersE past id (Executor.collectSubshells keep) (Executor.collectSubshells keep) := by
  intro r hfaults
  have hperform : ∀ r : Recorder, r.perform (Executor.collectSubshells keep)
      = (.ok (r.collectSubshells keep).1, (r.collectSubshells keep).2) := fun _ => rfl
  rw [hperform, hperform]
  simp [Recorder.collectSubshells, Recorder.record, hfaults, Array.push_append]

/-- A subshell starts without active streams and without faults, so its body does after the past
what it does without. -/
theorem spawnSubshell {body : RecorderM Outcome} (h : Renumbers past id body body) :
    RenumbersE past id (Executor.spawnSubshell body) (Executor.spawnSubshell body) := by
  intro r hfaults
  have hinside : (r.after past).inside = r.inside.after past := by
    simp [Recorder.inside, Recorder.record, Array.push_append]
  have hperform : ∀ r : Recorder, r.perform (Executor.spawnSubshell body)
      = (.ok (), { (body.run r.inside).2.record (.subshellEnded (body.run r.inside).1) with
        input := r.input, output := r.output, faults := r.faults,
        subshells := (body.run r.inside).2.subshells ++ [(body.run r.inside).1] }) := fun _ => rfl
  rw [hperform, hperform, hinside, (h r.inside rfl).1]
  simp [Recorder.record, hfaults, Array.push_append]

end RenumbersE

namespace Renumbers

theorem inputStream :
    Renumbers past (Option.map (StreamId.later past.nextId)) Executor.inputStream
      Executor.inputStream :=
  fun _ hfaults => ⟨rfl, hfaults⟩

theorem outputStream :
    Renumbers past (Option.map (StreamId.later past.nextId)) Executor.outputStream
      Executor.outputStream :=
  fun _ hfaults => ⟨rfl, hfaults⟩

theorem setInputStream (stream : Option StreamId) :
    Renumbers past (Option.map (StreamId.later past.nextId)) (Executor.setInputStream stream)
      (Executor.setInputStream (stream.map (StreamId.later past.nextId))) :=
  fun _ hfaults => ⟨rfl, hfaults⟩

theorem setOutputStream (stream : Option StreamId) :
    Renumbers past (Option.map (StreamId.later past.nextId)) (Executor.setOutputStream stream)
      (Executor.setOutputStream (stream.map (StreamId.later past.nextId))) :=
  fun _ hfaults => ⟨rfl, hfaults⟩

theorem pendingSubshells :
    Renumbers past id Executor.pendingSubshells Executor.pendingSubshells :=
  fun _ hfaults => ⟨rfl, hfaults⟩

theorem fileKind (path : String) :
    Renumbers past id (Executor.fileKind path) (Executor.fileKind path) :=
  fun _ hfaults => ⟨rfl, hfaults⟩

theorem report (notice : Notice) :
    Renumbers past id (Executor.report notice) (Executor.report (notice.later past.nextId)) := by
  intro r hfaults
  refine ⟨?_, hfaults⟩
  show ((), _) = ((), Recorder.after { r with notices := r.notices.push notice } past)
  simp [Array.push_append]

end Renumbers

/-! ### Builtins and subshells -/

theorem Renumbers.settle {body : ExceptT ExecError RecorderM Outcome}
    (h : RenumbersE past id body body) : Renumbers past id (settle body) (settle body) := by
  refine .bind h fun result => ?_
  cases result with
  | ok outcome => exact .pure id outcome
  | error e => exact .bind (.report (.subshellFailed e)) fun _ => .pure id (Outcome.completed 1)

namespace RenumbersE

/-- A notice of a builtin is about no stream. -/
theorem reportSame {notice : Notice} (h : notice.later past.nextId = notice) :
    RenumbersE past id (liftM (Executor.report notice : RecorderM Unit))
      (liftM (Executor.report notice : RecorderM Unit)) := by
  have hreport : Renumbers past id _ _ := .report notice
  rw [h] at hreport
  exact .lift hreport

theorem runTest (bracket : Bool) (arguments : List String) :
    RenumbersE past id (runTest bracket arguments) (runTest bracket arguments) := by
  unfold CommandShell.runTest
  cases hcall : TestCall.ofArguments bracket arguments with
  | refused notice =>
    have hnotice : notice.later past.nextId = notice := by
      unfold TestCall.ofArguments at hcall
      repeat' split at hcall
      all_goals cases hcall <;> rfl
    exact .bind (.reportSame hnotice) fun _ => .pure id 1
  | usage => exact .bind (.writeOutput _) fun _ => .pure id 1
  | question flag path =>
    refine .bind (.lift (.fileKind path)) fun kind => ?_
    rw [id_eq]
    split
    · exact .bind (.writeOutput _) fun _ => .pure id 0
    · exact .bind (.writeOutput _) fun _ => .pure id 1

theorem builtin (action : Builtin) : RenumbersE past id action.run action.run := by
  cases action with
  | exit arguments =>
    dsimp only [Builtin.run]
    cases hnotice : exitNotice arguments with
    | none => exact .pure id _
    | some notice =>
      have hsame : notice.later past.nextId = notice := by
        unfold exitNotice at hnotice
        repeat' split at hnotice
        all_goals cases hnotice <;> rfl
      exact .bind (.reportSame hsame) fun _ => .pure id _
  | test bracket arguments =>
    exact .bind (.runTest bracket arguments) fun code => .pure id (Outcome.completed code)

theorem composite {body : ExceptT ExecError RecorderM Outcome} (h : RenumbersE past id body body)
    (mode : WaitMode) : RenumbersE past id (composite body mode) (composite body mode) := by
  cases mode with
  | wait => exact h
  | background => exact .bind (.spawnSubshell (.settle h)) fun _ => .pure id _

theorem runSequence {actions : List (ExceptT ExecError RecorderM Outcome)}
    (h : ∀ action ∈ actions, RenumbersE past id action action) :
    RenumbersE past id (runSequence actions) (runSequence actions) := by
  induction actions with
  | nil => exact .throw id .emptySequence
  | cons first rest ih =>
    have hfirst := h first (List.mem_cons_self ..)
    cases rest with
    | nil => exact hfirst
    | cons second rest =>
      refine .bind hfirst fun outcome => ?_
      cases outcome with
      | completed code => exact ih fun action hmem => h action (List.mem_cons_of_mem _ hmem)
      | terminate code => exact .pure id _

theorem runConditional {primary secondary : Action RecorderM} (continues : Int → Bool)
    (hprimary : RenumbersE past id (primary .wait) (primary .wait))
    (hsecondary : RenumbersE past id (secondary .wait) (secondary .wait)) :
    RenumbersE past id (runConditional continues primary secondary)
      (runConditional continues primary secondary) := by
  refine .bind hprimary fun outcome => ?_
  cases outcome with
  | completed code =>
    simp only [id_eq]
    split
    · exact hsecondary
    · exact .pure id _
  | terminate code => exact .pure id _

/-! ### Redirections -/

theorem activate (redirect : Redirect) (stream : Option StreamId) :
    Renumbers past (Option.map (StreamId.later past.nextId)) (redirect.activate stream)
      (redirect.activate (stream.map (StreamId.later past.nextId))) := by
  cases redirect with
  | input => exact .setInputStream stream
  | output | append => exact .setOutputStream stream

theorem runRedirection {primary : Action RecorderM} (redirect : Redirect) (path : String)
    {mode : WaitMode} (h : RenumbersE past id (primary mode) (primary mode)) :
    RenumbersE past id (runRedirection redirect path primary mode)
      (runRedirection redirect path primary mode) := by
  refine .bind (.openFile redirect path) fun stream => ?_
  refine .bind (.lift (activate redirect (some stream))) fun previous => ?_
  refine .bind (.attempt h) fun result => ?_
  refine .bind (.lift (activate redirect previous)) fun _ => ?_
  refine .bind (.attempt (.closeStream stream)) fun closed => ?_
  refine .bind (.ofExcept id result) fun outcome => ?_
  exact .bind (.ofExcept id closed) fun _ => .pure id outcome

/-! ### Pipelines -/

theorem releaseAll (ids : List StreamId) :
    RenumbersE past id (releaseAll ids) (releaseAll (ids.map (StreamId.later past.nextId))) := by
  induction ids with
  | nil => exact .pure id ()
  | cons stream rest ih =>
    refine .bind (.attempt (.closeStream stream)) fun first => ?_
    refine .bind (.attempt ih) fun others => ?_
    exact .bind (.ofExcept id first) fun _ => .ofExcept id others

theorem createPipes (opened : List (StreamId × StreamId)) (count : Nat) :
    RenumbersE past (laterPipes past.nextId) (createPipes opened count)
      (createPipes (laterPipes past.nextId opened) count) := by
  induction count generalizing opened with
  | zero => exact .pure (laterPipes past.nextId) opened
  | succ count ih =>
    refine .bind (.attempt .createPipe) fun created => ?_
    cases created with
    | ok pipe =>
      have hmore := ih (opened ++ [pipe])
      rwa [laterPipes, List.map_append] at hmore
    | error e =>
      have hreleased : RenumbersE past id _ _ := releaseAll (pipeEnds opened)
      rw [← pipeEnds_laterPipes] at hreleased
      exact .bind (.attempt hreleased) fun _ => .throw (laterPipes past.nextId) e

/-- The stages of a pipeline do after the past what they do without, and leave the same ends to be
closed, under later numbers. -/
theorem runStages {stages : List (Action RecorderM)}
    (h : ∀ stage ∈ stages, ∀ mode, RenumbersE past id (stage mode) (stage mode))
    (inherited : Inherited) (incoming : Option StreamId) (pipes : List (StreamId × StreamId)) :
    Renumbers past (Prod.map (laterResult past.nextId id) (List.map (StreamId.later past.nextId)))
      (runStages inherited incoming stages pipes)
      (runStages ⟨inherited.input.map (.later past.nextId),
        inherited.output.map (.later past.nextId)⟩ (incoming.map (.later past.nextId)) stages
          (laterPipes past.nextId pipes)) := by
  have hincoming : ∀ incoming : Option StreamId,
      RenumbersE past id (CommandShell.releaseAll incoming.toList)
        (CommandShell.releaseAll (incoming.map (.later past.nextId)).toList) := by
    intro incoming
    cases incoming <;> exact releaseAll _
  have hends : ∀ (incoming : Option StreamId) (pipes : List (StreamId × StreamId)),
      (incoming.map (.later past.nextId)).toList ++ pipeEnds (laterPipes past.nextId pipes)
        = (incoming.toList ++ pipeEnds pipes).map (.later past.nextId) := by
    intro incoming pipes
    rw [pipeEnds_laterPipes, List.map_append]
    cases incoming <;> rfl
  induction stages generalizing incoming pipes with
  | nil =>
    unfold CommandShell.runStages
    rw [hends]
    exact .pure _ (Except.ok (Outcome.completed 0), incoming.toList ++ pipeEnds pipes)
  | cons stage stages ih =>
    have hinput : (incoming.map (.later past.nextId)
          <|> inherited.input.map (StreamId.later past.nextId))
        = (incoming <|> inherited.input).map (.later past.nextId) := by cases incoming <;> rfl
    have houtput : ((laterPipes past.nextId pipes).head?.map Prod.snd
          <|> inherited.output.map (StreamId.later past.nextId))
        = (pipes.head?.map Prod.snd <|> inherited.output).map (.later past.nextId) := by
      cases pipes <;> rfl
    have hmode : (laterPipes past.nextId pipes).isEmpty = pipes.isEmpty := List.isEmpty_map
    unfold CommandShell.runStages
    rw [hinput, houtput, hmode]
    refine .bind (.setInputStream _) fun _ => .bind (.setOutputStream _) fun _ => ?_
    refine .bind (h stage (List.mem_cons_self ..) _) fun result => ?_
    cases result with
    | error e =>
      dsimp only [laterResult]
      rw [hends]
      exact .pure _ (Except.error e, incoming.toList ++ pipeEnds pipes)
    | ok outcome =>
      refine .bind (hincoming incoming) fun released => ?_
      cases released with
      | error e =>
        dsimp only [laterResult]
        rw [pipeEnds_laterPipes]
        exact .pure _ (Except.error e, pipeEnds pipes)
      | ok _ =>
        cases pipes with
        | nil => exact .pure _ (Except.ok outcome, [])
        | cons pipe pipes =>
          have hleft : pipe.1.later past.nextId
                :: pipeEnds (pipes.map (Prod.map (.later past.nextId) (.later past.nextId)))
              = (pipe.1 :: pipeEnds pipes).map (StreamId.later past.nextId) :=
            congrArg (pipe.1.later past.nextId :: ·) (pipeEnds_laterPipes _ pipes)
          refine .bind (closeStream pipe.2) fun closed => ?_
          cases closed with
          | error e =>
            dsimp only [laterResult, Prod.map]
            rw [hleft]
            exact .pure _ (Except.error e, pipe.1 :: pipeEnds pipes)
          | ok _ =>
            cases outcome with
            | completed code =>
              exact ih (fun stage hmem => h stage (List.mem_cons_of_mem _ hmem)) (some pipe.1) pipes
            | terminate code =>
              dsimp only [laterResult, Prod.map, id_eq]
              rw [hleft]
              exact .pure _ (Except.ok (Outcome.terminate code), pipe.1 :: pipeEnds pipes)

theorem runPipeline {stages : List (Action RecorderM)}
    (h : ∀ stage ∈ stages, ∀ mode, RenumbersE past id (stage mode) (stage mode)) :
    RenumbersE past id (runPipeline stages) (runPipeline stages) := by
  refine .bind (createPipes [] _) fun pipes => ?_
  refine .bind (.lift .inputStream) fun input => .bind (.lift .outputStream) fun output => ?_
  refine .bind (.lift .pendingSubshells) fun earlier => ?_
  refine .bind (.lift (runStages h ⟨input, output⟩ none pipes)) fun staged => ?_
  refine .bind (.lift (.setInputStream input)) fun _ => ?_
  refine .bind (.lift (.setOutputStream output)) fun _ => ?_
  refine .bind (.attempt (releaseAll staged.2)) fun released => ?_
  refine .bind (.attempt (.collectSubshells earlier)) fun collected => ?_
  refine .bind (.ofExcept id staged.1) fun outcome => .bind (.ofExcept id released) fun _ => ?_
  refine .bind (.ofExcept id collected) fun exit => ?_
  cases outcome with
  | completed code =>
    cases exit with
    | none => exact .pure id (Outcome.completed code)
    | some exit => exact .pure id (Outcome.terminate exit)
  | terminate code => exact .pure id (Outcome.terminate code)

end RenumbersE

/-- A command does after the past what it does without, in each mode. -/
theorem Command.renumbers (command : Command) :
    ∀ mode, RenumbersE past id (command.execute mode) (command.execute mode) := by
  induction command using Command.stages_induction with
  | executable program arguments =>
    exact fun mode => .bind (.spawn program arguments mode) fun code =>
      .pure id (Outcome.completed code)
  | builtin action => exact fun _ => .builtin action
  | sequential commands ih =>
    rw [Command.execute_sequential]
    exact .composite (.runSequence (List.forall_mem_map.2 fun command hmem =>
      ih command hmem .wait))
  | conditional connective primary secondary hconnective hprimary hsecondary =>
    cases connective with
    | conjunction => exact .composite (.runConditional _ (hprimary .wait) (hsecondary .wait))
    | disjunction => exact .composite (.runConditional _ (hprimary .wait) (hsecondary .wait))
    | pipe => exact absurd rfl hconnective
  | pipeline primary secondary ih =>
    rw [Command.execute_pipe]
    exact .composite (.runPipeline (List.forall_mem_map.2 ih))
  | redirection redirect primary path ih =>
    exact fun mode => .runRedirection redirect path (ih mode)

end Actions

/-! ## Lines after one another -/

namespace Recorder

/-- A fresh recorder, or one between two lines: nothing is left of the lines before but what has
happened, and every number that has been given out was for a stream that was opened. -/
structure Idle (r : Recorder) : Prop where
  faults_eq : r.faults = none
  openStreams_eq : r.openStreams = []
  input_eq : r.input = none
  output_eq : r.output = none
  subshells_eq : r.subshells = []
  nextId_eq : r.nextId = (opens r.events.toList).length

theorem fresh_idle (script : Script) : (fresh script).Idle := ⟨rfl, rfl, rfl, rfl, rfl, rfl⟩

/-- An idle recorder is a fresh one after a past. -/
theorem Idle.after_eq {past : Recorder} (h : past.Idle) :
    (fresh past.script).after past = past := by
  obtain ⟨hfaults, hopen, hinput, houtput, hsubshells, -⟩ := h
  cases past
  simp_all [fresh]

theorem Idle.faultless {r : Recorder} (h : r.Idle) : r.Faultless := by
  simp [Faultless, h.faults_eq]

/-- A line leaves an idle recorder idle. -/
theorem Idle.execute {r : Recorder} (h : r.Idle) (line : Command) :
    (r.execute line .wait).2.Idle := by
  have hnumbered : r.WellNumbered := by simp [WellNumbered, h.openStreams_eq]
  have hsubshells := (line.follows .wait r h.faultless).subshells_eq
  obtain ⟨story, htidy⟩ := line.cleansUp .wait r
  change Tidy r story (r.execute line .wait).2 at htidy
  have hclean := htidy.cleanedUp hnumbered
  have hrefuses : refuses story = [] := by
    rw [hclean.refuses_eq]
    exact refused_eq_nil (fun _ _ => by simp [closePlan, h.faults_eq]) _
  exact {
    faults_eq := by
      have hline : RenumbersE r id (line.execute .wait) (line.execute .wait) := line.renumbers .wait
      exact (hline r h.faults_eq).2
    openStreams_eq := List.eq_nil_iff_forall_not_mem.2 fun stream hmem => by
      rw [hclean.mem_openStreams, h.openStreams_eq, hrefuses] at hmem
      exact hmem.elim List.not_mem_nil List.not_mem_nil
    input_eq := hclean.input_eq.trans h.input_eq
    output_eq := hclean.output_eq.trans h.output_eq
    subshells_eq := by
      rw [hsubshells, h.subshells_eq, List.nil_append]
      exact line.evaluate_foreground_remembered r.script
    nextId_eq := by
      have hle := htidy.nextId_le
      rw [hclean.events_eq, opens_append, List.length_append, ← h.nextId_eq, hclean.opens_eq,
        newIds, List.length_map, List.length_range']
      omega }

/-- After a past a line does what it does on a fresh recorder, under later numbers. -/
theorem Idle.execute_eq {past : Recorder} (h : past.Idle) (line : Command) :
    (past.execute line .wait).2 = ((fresh past.script).execute line .wait).2.after past := by
  have hline : RenumbersE past id (line.execute .wait) (line.execute .wait) := line.renumbers .wait
  have hran := (hline (fresh past.script) rfl).1
  rw [h.after_eq] at hran
  exact congrArg Prod.snd hran

/-- What builtins have written after a past is what they had written in it, and what they write
without it, to streams under later numbers. -/
theorem writes_after (r past : Recorder) :
    (r.after past).writes
      = past.writes ++ r.writes.map (Prod.map (Option.map (StreamId.later past.nextId)) id) := by
  simp only [writes, after, Array.toList_append, Array.toList_map, List.filterMap_append,
    List.filterMap_map, List.map_filterMap]
  congr 2
  funext event
  cases event <;> rfl

/-- Runs command lines one after another, and waits for each. -/
def runLines (r : Recorder) (lines : List Command) : Recorder :=
  lines.foldl (fun r line => (r.execute line .wait).2) r

theorem Idle.runLines {r : Recorder} (h : r.Idle) (lines : List Command) :
    (r.runLines lines).Idle ∧ (r.runLines lines).script = r.script := by
  induction lines generalizing r with
  | nil => exact ⟨h, rfl⟩
  | cons line lines ih =>
    obtain ⟨story, htidy⟩ := line.cleansUp .wait r
    obtain ⟨hidle, hscript⟩ := ih (h.execute line)
    exact ⟨hidle, hscript.trans htidy.script⟩

/-- Command lines are isolated.  Whatever lines have run before on a recorder whose calls are not
made to fail, and whatever came of them, a line comes to what it comes to on a fresh recorder.  What
it adds to what has happened, has been written and has been told is what is there when it runs
alone, but for the numbers of its streams: they are later by as many as have been given out. -/
theorem execute_isolated (script : Script) (before : List Command) (line : Command) :
    let past := (fresh script).runLines before
    let alone := (fresh script).execute line .wait
    let ran := past.execute line .wait
    let used := (opens past.events.toList).length
    ran.1 = alone.1 ∧
      ran.2.events.toList = past.events.toList ++ alone.2.events.toList.map (Event.later used) ∧
      ran.2.writes
        = past.writes ++ alone.2.writes.map (Prod.map (Option.map (StreamId.later used)) id) ∧
      ran.2.notices.toList
        = past.notices.toList ++ alone.2.notices.toList.map (Notice.later used) := by
  intro past alone ran used
  obtain ⟨hidle, hscript⟩ := (fresh_idle script).runLines before
  have hafter : ran.2 = alone.2.after past := by
    have hran := hidle.execute_eq line
    rwa [hscript] at hran
  have hused : used = past.nextId := hidle.nextId_eq.symm
  rw [hafter, hused]
  refine ⟨?_, by simp, alone.2.writes_after past, by simp⟩
  have hran := (line.follows .wait past hidle.faultless).result_eq
  have halone := (line.follows .wait (fresh script) (fresh_idle script).faultless).result_eq
  rw [hscript] at hran
  exact hran.trans halone.symm

end Recorder

end CommandShell
