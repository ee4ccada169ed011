import CommandShell.Builtin
set_option autoImplicit false

/-!
# Running commands

A command runs against an executor.  It gives the outcome of its last part, unless an `exit` or a
failure ends it before.  A composite command that is to run in the background runs in a subshell.

The stages of a pipeline are started from first to last, all but the last in the background; each
pipe end is closed as soon as the stage that uses it has been started.  However a pipeline or a
redirection ends, the active streams are restored and every stream it opened is closed; of several
failures the first one counts.
-/

namespace CommandShell

variable {m : Type → Type} [Monad m] [Executor m]

/-- A command as it runs: what it does in each mode. -/
abbrev Action (m : Type → Type) := WaitMode → ExceptT ExecError m Outcome

/-- Does something that may fail, and goes on with what came of it. -/
def attempt {α : Type} (action : ExceptT ExecError m α) :
    ExceptT ExecError m (Except ExecError α) :=
  ExceptT.lift action.run

/-- The outcome of a subshell: a failure is reported and counts as exit code 1. -/
def settle (body : ExceptT ExecError m Outcome) : m Outcome := do
  match ← body.run with
  | .ok outcome => return outcome
  | .error error =>
    Executor.report (.subshellFailed error)
    return .completed 1

/-- Runs a composite command: in a subshell when it is not to be waited for. -/
def composite (body : ExceptT ExecError m Outcome) : Action m
  | .wait => body
  | .background => do
    Executor.spawnSubshell (settle body)
    return .completed 0

/-- Runs the actions in order up to the first `exit` or failure. -/
def runSequence : List (ExceptT ExecError m Outcome) → ExceptT ExecError m Outcome
  | [] => throw .emptySequence
  | [last] => last
  | next :: rest => do
    match ← next with
    | .completed _ => runSequence rest
    | .terminate code => return .terminate code

/-- Closes every stream of the list.  All are attempted; the first failure counts. -/
def releaseAll : List StreamId → ExceptT ExecError m Unit
  | [] => return ()
  | id :: rest => do
    let first ← attempt (Executor.closeStream id)
    let others ← attempt (releaseAll rest)
    MonadExcept.ofExcept first
    MonadExcept.ofExcept others

/-- The ends of pipes, in the order in which they are closed together. -/
def pipeEnds (pipes : List (StreamId × StreamId)) : List StreamId :=
  pipes.flatMap fun pipe => [pipe.1, pipe.2]

/-- Opens so many more pipes.  If one cannot be opened, all of them are closed again. -/
def createPipes (opened : List (StreamId × StreamId)) :
    Nat → ExceptT ExecError m (List (StreamId × StreamId))
  | 0 => return opened
  | count + 1 => do
    match ← attempt Executor.createPipe with
    | .ok pipe => createPipes (opened ++ [pipe]) count
    | .error error =>
      let _ ← attempt (releaseAll (pipeEnds opened))
      throw error

/-- The streams that were active before a pipeline. -/
structure Inherited where
  input : Option StreamId
  output : Option StreamId

/-- Starts the stages in order.  `incoming` is the read end of the pipe before the first of them,
`pipes` are the pipes after each of them but the last.  Gives the result together with the ends
that are still to be closed. -/
def runStages (inherited : Inherited) (incoming : Option StreamId) :
    List (Action m) → List (StreamId × StreamId) →
      m (Except ExecError Outcome × List StreamId)
  | [], pipes => return (.ok (.completed 0), incoming.toList ++ pipeEnds pipes)
  | stage :: stages, pipes => do
    let _ ← Executor.setInputStream (incoming <|> inherited.input)
    let _ ← Executor.setOutputStream ((pipes.head?.map Prod.snd) <|> inherited.output)
    match ← (stage (if pipes.isEmpty then .wait else .background)).run with
    | .error error => return (.error error, incoming.toList ++ pipeEnds pipes)
    | .ok outcome =>
      match ← (releaseAll incoming.toList : ExceptT ExecError m Unit).run with
      | .error error => return (.error error, pipeEnds pipes)
      | .ok () =>
        match pipes with
        | [] => return (.ok outcome, [])
        | (read, write) :: pipes =>
          match ← (Executor.closeStream write : ExceptT ExecError m Unit).run with
          | .error error => return (.error error, read :: pipeEnds pipes)
          | .ok () =>
            match outcome with
            | .completed _ => runStages inherited (some read) stages pipes
            | .terminate code => return (.ok (.terminate code), read :: pipeEnds pipes)

/-- Runs a pipeline of the given stages.  An `exit` in one of its subshells counts when the last
stage has completed. -/
def runPipeline (stages : List (Action m)) : ExceptT ExecError m Outcome := do
  let pipes ← createPipes [] (stages.length - 1)
  let inherited : Inherited := ⟨← (Executor.inputStream : m _), ← (Executor.outputStream : m _)⟩
  let earlier ← (Executor.pendingSubshells : m Nat)
  let (result, leftover) ← (runStages inherited none stages pipes : m _)
  let _ ← (Executor.setInputStream inherited.input : m _)
  let _ ← (Executor.setOutputStream inherited.output : m _)
  let released ← attempt (releaseAll leftover)
  -- Subshells may have been reading from the ends closed just now.
  let collected ← attempt (Executor.collectSubshells earlier)
  let outcome ← MonadExcept.ofExcept result
  MonadExcept.ofExcept released
  match outcome, ← MonadExcept.ofExcept collected with
  | .completed _, some code => return .terminate code
  | outcome, _ => return outcome

/-- Makes a stream the active one of its direction, and gives the previous one. -/
def Redirect.activate (redirect : Redirect) (stream : Option StreamId) : m (Option StreamId) :=
  match redirect with
  | .input => Executor.setInputStream stream
  | .output | .append => Executor.setOutputStream stream

/-- Runs an action with its input or output going to a file. -/
def runRedirection (redirect : Redirect) (path : String) (primary : Action m) : Action m :=
  fun mode => do
    let stream ← Executor.openFile redirect path
    let previous ← (redirect.activate (some stream) : m _)
    let result ← attempt (primary mode)
    let _ ← (redirect.activate previous : m _)
    let closed ← attempt (Executor.closeStream stream)
    let outcome ← MonadExcept.ofExcept result
    MonadExcept.ofExcept closed
    return outcome

/-- Runs a joined pair that is no pipeline: the second action runs if the code of the first, which
is waited for, is of the right kind. -/
def runConditional (continues : Int → Bool) (primary secondary : Action m) :
    ExceptT ExecError m Outcome := do
  match ← primary .wait with
  | .completed code => if continues code then secondary .wait else return .completed code
  | .terminate code => return .terminate code

/-- What a command means: what it does, and what its stages do when it stands at the end of a
pipeline. -/
structure Meaning (m : Type → Type) where
  action : Action m
  stages : List (Action m)

/-- A command that is one stage. -/
def Meaning.single (action : Action m) : Meaning m := ⟨action, [action]⟩

mutual

/-- The meaning of a command. -/
def Command.meaning : Command → Meaning m
  | .executable program arguments =>
    .single fun mode => return .completed (← Executor.spawn program arguments mode)
  | .builtin action => .single fun _ => action.run
  | .sequential commands => .single (composite (runSequence (Command.actions commands)))
  | .binary .conjunction primary secondary =>
    .single (composite
      (runConditional (· == 0) primary.meaning.action secondary.meaning.action))
  | .binary .disjunction primary secondary =>
    .single (composite
      (runConditional (· != 0) primary.meaning.action secondary.meaning.action))
  | .binary .pipe primary secondary =>
    let stages := primary.meaning.action :: secondary.meaning.stages
    ⟨composite (runPipeline stages), stages⟩
  | .redirection redirect primary path =>
    .single (runRedirection redirect path primary.meaning.action)

/-- What each command of a list does when it is waited for. -/
def Command.actions : List Command → List (ExceptT ExecError m Outcome)
  | [] => []
  | command :: rest => command.meaning.action .wait :: Command.actions rest

end

/-- Runs a command. -/
def Command.execute (command : Command) (mode : WaitMode) : ExceptT ExecError m Outcome :=
  command.meaning.action mode

/-- Runs a whole command line and waits for it. -/
def Command.run (command : Command) : ExceptT ExecError m Outcome := command.execute .wait

/-! ## What each kind of command does -/

/-- The actions of a list are those of its commands. -/
theorem Command.actions_eq_map :
    ∀ commands : List Command,
      Command.actions (m := m) commands = commands.map fun command => command.execute .wait
  | [] => rfl
  | command :: rest => congrArg (command.execute .wait :: ·) (Command.actions_eq_map rest)

/-- The stages of a pipeline do what the commands at its stages do. -/
theorem Command.stages_meaning :
    ∀ command : Command,
      command.meaning.stages = command.pipelineStages.map (Command.execute (m := m))
  | .executable .. | .builtin _ | .sequential _ | .redirection .. => rfl
  | .binary .conjunction _ _ | .binary .disjunction _ _ => rfl
  | .binary .pipe primary secondary =>
    congrArg (primary.execute :: ·) (Command.stages_meaning secondary)

/-- A sequence runs its commands in order. -/
theorem Command.execute_sequential (commands : List Command) :
    (Command.sequential commands).execute (m := m)
      = composite (runSequence (commands.map fun command => command.execute .wait)) :=
  congrArg (fun actions => composite (runSequence actions)) (Command.actions_eq_map commands)

/-- A pair of pipes is run as a pipeline of all the stages in it. -/
theorem Command.execute_pipe (primary secondary : Command) :
    (Command.binary .pipe primary secondary).execute (m := m)
      = composite (runPipeline
          ((Command.binary .pipe primary secondary).pipelineStages.map Command.execute)) :=
  congrArg (fun stages => composite (runPipeline stages))
    (Command.stages_meaning (.binary .pipe primary secondary))

end CommandShell
