import CommandShell.Proofs.Processes.Running
import CommandShell.Proofs.Recording.Running
set_option autoImplicit false

/-!
# Commands as routines

What running a command does to an interpreter, as a routine.  Each way of putting actions together
into a command has an equation here: it names the routines of its parts and says which of them are
gone through after a failure.
-/

namespace CommandShell

open Machine (Routine)

namespace Interpreter

/-! ## Active streams -/

/-- The active stream that a redirection replaces. -/
def activeFor (s : Interpreter) : Redirect → Option StreamId
  | .input => s.input
  | .output | .append => s.output

/-- Makes a stream the active one in the direction of a redirection. -/
def activate (s : Interpreter) (redirect : Redirect) (stream : Option StreamId) : Interpreter :=
  match redirect with
  | .input => { s with input := stream }
  | .output | .append => { s with output := stream }

/-- Replaces both active streams. -/
def setStreams (s : Interpreter) (input output : Option StreamId) : Interpreter :=
  { s with input, output }

theorem run_activate (s : Interpreter) (redirect : Redirect) (stream : Option StreamId) :
    (redirect.activate stream : InterpreterM _).run s
      = .done (s.activeFor redirect, s.activate redirect stream) := by
  cases redirect <;> rfl

/-! ## Subshells -/

theorem run_settle (s : Interpreter) (body : ExceptT ExecError InterpreterM Outcome) :
    (settle body).run s = (s.routine body).bind fun ran =>
      match ran with
      | (.ok outcome, s₁) => .done (outcome, s₁)
      | (.error error, s₁) =>
        ((emit (Notice.subshellFailed error).emissions).run s₁).bind fun told =>
          .done (.completed 1, told.2) := by
  show (s.routine body).bind _ = _
  congr 1
  funext ran
  obtain ⟨result, s₁⟩ := ran
  cases result <;> rfl

theorem routine_composite_background (s : Interpreter)
    (body : ExceptT ExecError InterpreterM Outcome) :
    s.routine (composite body .background) = (s.routine (spawnSubshell (settle body))).bind
      fun ran =>
        match ran with
        | (.ok (), s₁) => .done (.ok (.completed 0), s₁)
        | (.error e, s₁) => .done (.error e, s₁) := by
  rw [composite, routine_bind]
  show (s.routine (spawnSubshell (settle body))).bind _ = _
  congr 1
  funext started
  obtain ⟨started, s₁⟩ := started
  cases started <;> rfl

/-! ## Sequences and conditionals -/

/-- Goes on after a command has completed; nothing follows an `exit` or a failure. -/
def onCompleted (rest : Int → Interpreter → Routine (Except ExecError Outcome × Interpreter)) :
    Except ExecError Outcome × Interpreter → Routine (Except ExecError Outcome × Interpreter)
  | (.ok (.completed code), s) => rest code s
  | (.ok (.terminate code), s) => .done (.ok (.terminate code), s)
  | (.error e, s) => .done (.error e, s)

theorem routine_runSequence_cons_cons (s : Interpreter)
    (first second : ExceptT ExecError InterpreterM Outcome)
    (rest : List (ExceptT ExecError InterpreterM Outcome)) :
    s.routine (runSequence (first :: second :: rest))
      = (s.routine first).bind
        (onCompleted fun _ s₁ => s₁.routine (runSequence (second :: rest))) := by
  show s.routine (first >>= _) = _
  rw [routine_bind]
  congr 1
  funext ran
  obtain ⟨result, s₁⟩ := ran
  rcases result with _ | _ | _ <;> rfl

theorem routine_runConditional (s : Interpreter) (continues : Int → Bool)
    (primary secondary : Action InterpreterM) :
    s.routine (runConditional continues primary secondary)
      = (s.routine (primary .wait)).bind (onCompleted fun code s₁ =>
        if continues code then s₁.routine (secondary .wait)
        else .done (.ok (.completed code), s₁)) := by
  rw [runConditional, routine_bind]
  congr 1
  funext ran
  obtain ⟨result, s₁⟩ := ran
  rcases result with e | code | code
  · rfl
  · show s₁.routine (if continues code then _ else _) = if continues code then _ else _
    cases continues code <;> rfl
  · rfl

/-! ## Redirections -/

theorem routine_runRedirection (s : Interpreter) (redirect : Redirect) (path : String)
    (primary : Action InterpreterM) (mode : WaitMode) :
    s.routine (runRedirection redirect path primary mode)
      = (s.routine (openFile redirect path)).bind fun opened =>
        match opened with
        | (.error e, s₁) => .done (.error e, s₁)
        | (.ok stream, s₁) =>
          ((s₁.activate redirect (some stream)).routine (primary mode)).bind fun ran =>
            ((ran.2.activate redirect (s₁.activeFor redirect)).routine (closeStream stream)).bind
              fun closed =>
                .done (ran.1 >>= fun outcome => closed.1 >>= fun () => .ok outcome, closed.2) := by
  rw [runRedirection, routine_bind]
  show (s.routine (openFile redirect path)).bind _ = _
  congr 1
  funext opened
  obtain ⟨opened, s₁⟩ := opened
  cases opened with
  | error e => rfl
  | ok stream =>
    dsimp only
    rw [routine_lift_bind, run_activate]
    show Interpreter.routine _ _ = _
    rw [routine_attempt_bind]
    congr 1
    funext ran
    obtain ⟨result, s₂⟩ := ran
    rw [routine_lift_bind, run_activate]
    show Interpreter.routine _ _ = _
    rw [routine_attempt_bind]
    show (Interpreter.routine _ (closeStream stream)).bind _ = _
    congr 1
    funext closed
    obtain ⟨closed, s₃⟩ := closed
    cases result <;> cases closed <;> rfl

/-! ## Pipelines -/

/-- The streams that a stage of a pipeline finds active. -/
def stageStart (s : Interpreter) (inherited : Inherited) (incoming : Option StreamId)
    (pipes : List (StreamId × StreamId)) : Interpreter :=
  s.setStreams (incoming <|> inherited.input) (pipes.head?.map Prod.snd <|> inherited.output)

theorem run_runStages_cons (s : Interpreter) (inherited : Inherited) (incoming : Option StreamId)
    (stage : Action InterpreterM) (stages : List (Action InterpreterM))
    (pipes : List (StreamId × StreamId)) :
    (runStages inherited incoming (stage :: stages) pipes).run s
      = ((s.stageStart inherited incoming pipes).routine
          (stage (Recorder.stageMode pipes))).bind fun ran =>
        match ran with
        | (.error e, s₁) => .done ((.error e, incoming.toList ++ pipeEnds pipes), s₁)
        | (.ok outcome, s₁) => (s₁.routine (releaseAll incoming.toList)).bind fun released =>
          match released with
          | (.error e, s₂) => .done ((.error e, pipeEnds pipes), s₂)
          | (.ok (), s₂) =>
            match pipes with
            | [] => .done ((.ok outcome, []), s₂)
            | (read, write) :: pipes => (s₂.routine (closeStream write)).bind fun closed =>
              match closed with
              | (.error e, s₃) => .done ((.error e, read :: pipeEnds pipes), s₃)
              | (.ok (), s₃) =>
                match outcome with
                | .completed _ => (runStages inherited (some read) stages pipes).run s₃
                | .terminate code =>
                  .done ((.ok (.terminate code), read :: pipeEnds pipes), s₃) := by
  show ((s.stageStart inherited incoming pipes).routine
    (stage (Recorder.stageMode pipes))).bind _ = _
  congr 1
  funext ran
  obtain ⟨result, s₁⟩ := ran
  cases result with
  | error e => rfl
  | ok outcome =>
    show (s₁.routine (releaseAll incoming.toList)).bind _ = _
    congr 1
    funext released
    obtain ⟨released, s₂⟩ := released
    cases released with
    | error e => rfl
    | ok released =>
      cases pipes with
      | nil => rfl
      | cons pipe pipes =>
        show (s₂.routine (closeStream pipe.2)).bind _ = _
        congr 1
        funext closed
        obtain ⟨closed, s₃⟩ := closed
        cases closed with
        | error e => rfl
        | ok closed => cases outcome <;> rfl

theorem routine_runPipeline (s : Interpreter) (stages : List (Action InterpreterM)) :
    s.routine (runPipeline stages)
      = (s.routine (createPipes [] (stages.length - 1))).bind fun created =>
        match created with
        | (.error e, s₁) => .done (.error e, s₁)
        | (.ok pipes, s₁) =>
          ((runStages ⟨s₁.input, s₁.output⟩ none stages pipes).run s₁).bind fun staged =>
            ((staged.2.setStreams s₁.input s₁.output).routine (releaseAll staged.1.2)).bind
              fun released =>
                (released.2.routine (collectSubshells s₁.subshells.length)).bind fun collected =>
                  .done (staged.1.1 >>= fun outcome => released.1 >>= fun () =>
                    collected.1 >>= fun exit => .ok (Recorder.withExit outcome exit),
                    collected.2) := by
  rw [runPipeline, routine_bind]
  congr 1
  funext created
  obtain ⟨created, s₁⟩ := created
  cases created with
  | error e => rfl
  | ok pipes =>
    dsimp only
    -- The active streams and the number of subshells are asked for without a call.
    rw [routine_lift_bind]
    show s₁.routine _ = _
    rw [routine_lift_bind]
    show s₁.routine _ = _
    rw [routine_lift_bind]
    show s₁.routine _ = _
    rw [routine_lift_bind]
    congr 1
    funext staged
    obtain ⟨⟨result, leftover⟩, s₂⟩ := staged
    dsimp only
    rw [routine_lift_bind]
    show Interpreter.routine _ _ = _
    rw [routine_lift_bind]
    show (s₂.setStreams s₁.input s₁.output).routine _ = _
    rw [routine_attempt_bind]
    congr 1
    funext released
    obtain ⟨released, s₃⟩ := released
    dsimp only
    rw [routine_attempt_bind]
    show (s₃.routine (collectSubshells s₁.subshells.length)).bind _ = _
    congr 1
    funext collected
    obtain ⟨collected, s₄⟩ := collected
    rcases result with _ | _ | _ <;> cases released <;> rcases collected with _ | _ | _ <;> rfl

/-! ## Commands -/

theorem routine_sequential_cons_cons (s : Interpreter) (first second : Command)
    (rest : List Command) :
    s.routine ((Command.sequential (first :: second :: rest)).execute .wait)
      = (s.routine (first.execute .wait)).bind (onCompleted fun _ s₁ =>
        s₁.routine ((Command.sequential (second :: rest)).execute .wait)) :=
  s.routine_runSequence_cons_cons _ _ _

theorem routine_conditional (s : Interpreter) {connective : Connective} (h : connective ≠ .pipe)
    (primary secondary : Command) :
    s.routine ((Command.binary connective primary secondary).execute .wait)
      = (s.routine (primary.execute .wait)).bind (onCompleted fun code s₁ =>
        if Recorder.continues connective code then s₁.routine (secondary.execute .wait)
        else .done (.ok (.completed code), s₁)) := by
  cases connective with
  | conjunction => exact s.routine_runConditional _ _ _
  | disjunction => exact s.routine_runConditional _ _ _
  | pipe => exact absurd rfl h

/-- A composite command in the background does in a subshell what it does when it is waited for. -/
theorem routine_execute_background (s : Interpreter) {command : Command}
    (h : command.isComposite = true) :
    s.routine (command.execute .background)
      = s.routine (composite (command.execute .wait) .background) := by
  cases command with
  | executable => simp [Command.isComposite] at h
  | builtin => simp [Command.isComposite] at h
  | sequential commands => rfl
  | binary connective => cases connective <;> rfl
  | redirection => simp [Command.isComposite] at h

end Interpreter

end CommandShell
