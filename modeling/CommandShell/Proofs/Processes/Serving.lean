import CommandShell.Proofs.Processes.Commands
import CommandShell.Proofs.Processes.Operations
import CommandShell.Proofs.Recording.Evaluation
set_option autoImplicit false

/-!
# Commands under fixed conditions

What an interpreter's run of a command comes to, when nothing around it changes, is what the
evaluator without streams says, whose script tells what is the case: the codes of the programs,
which files can be opened and what paths lead to.  An `exit` in a subshell reaches its parent as an
exit status and a byte in a pipe, so its code is known only as far as an exit status tells it;
nothing else is lost, however deep the subshells are.

This is proved along the command.  Each part starts from an interpreter that is ready and leaves one
that is, with the outcomes of its subshells added to those that are to be collected.
-/

namespace CommandShell

open Machine (Descriptor Routine standardOutput)

/-! ## Results that are alike -/

/-- Two failures are of the same kind: all that may differ is why a file cannot be opened. -/
inductive ExecError.SameKind : ExecError → ExecError → Prop where
  | same (error : ExecError) : SameKind error error
  | openFile (redirect : Redirect) (path : String) (fault fault' : StreamFault) :
    SameKind (.openFile redirect path fault) (.openFile redirect path fault')

/-- Two results are alike: both commands have completed, with the same code if it was waited for,
both have reached an `exit`, with codes that are the same modulo 256, or both have failed, with
failures of the same kind. -/
inductive Alike (mode : WaitMode) : Except ExecError Outcome → Except ExecError Outcome → Prop where
  | completed {code code' : Int} (h : mode = .wait → code = code') :
    Alike mode (.ok (.completed code)) (.ok (.completed code'))
  | terminate {code code' : Int} (h : code % 256 = code' % 256) :
    Alike mode (.ok (.terminate code)) (.ok (.terminate code'))
  | error {error error' : ExecError} (h : error.SameKind error') :
    Alike mode (.error error) (.error error')

theorem exitStatus_congr {code code' : Int} (h : code % 256 = code' % 256) :
    exitStatus code = exitStatus code' := congrArg Int.toNat h

/-- An exit status tells a code modulo 256. -/
theorem exitStatus_emod (code : Int) : (exitStatus code : Int) % 256 = code % 256 := by
  unfold exitStatus
  omega

namespace Alike

variable {mode : WaitMode} {result result' : Except ExecError Outcome}

theorem refl (result : Except ExecError Outcome) : Alike mode result result := by
  rcases result with error | code | code
  · exact .error (.same error)
  · exact .completed fun _ => rfl
  · exact .terminate rfl

/-- A failure or an `exit` is one in both of two results, whether they were waited for or not. -/
theorem of_stopped (h : Alike mode result result') (mode' : WaitMode)
    (hstops : ∀ code, result ≠ .ok (.completed code)) :
    Alike mode' result result' ∧ ∀ code, result' ≠ .ok (.completed code) := by
  cases h with
  | completed => exact absurd rfl (hstops _)
  | terminate h => exact ⟨.terminate h, nofun⟩
  | error h => exact ⟨.error h, nofun⟩

/-- Subshells with results that are alike end alike. -/
theorem settled (h : Alike .wait result result') :
    (Recorder.settled result).mark = (Recorder.settled result').mark ∧
      exitStatus (Recorder.settled result).code = exitStatus (Recorder.settled result').code := by
  cases h with
  | completed h => exact ⟨rfl, congrArg exitStatus (h rfl)⟩
  | terminate h => exact ⟨rfl, exitStatus_congr h⟩
  | error => exact ⟨rfl, rfl⟩

/-- An `exit` in a subshell counts alike, whether its code or its exit status is told. -/
theorem withExit (h : Alike .wait result result') (exit : Option Int) :
    Alike .wait (result.map fun outcome => Recorder.withExit outcome (Interpreter.reported exit))
      (result'.map fun outcome => Recorder.withExit outcome exit) := by
  cases h with
  | completed h =>
    cases exit with
    | none => exact .completed h
    | some code => exact .terminate (exitStatus_emod code)
  | terminate h => exact .terminate h
  | error h => exact .error h

end Alike

/-! ## What commands need -/

mutual

/-- What the script says of everything that the command may ask for is the case: no program crashes
and each has the exit code that it has, files can be opened or not, and paths lead to what they lead
to. -/
def Script.Describes (script : Script) (w : Conditions) (environment : Machine.Environment) :
    Command → Prop
  | .executable program arguments =>
    script.crashes program = false ∧ ∃ code : Nat,
      script.exitCode program = code ∧ w.exitCode environment program arguments = some code
  | .builtin _ => script.fileKind = w.fileKind
  | .sequential commands => script.DescribesAll w environment commands
  | .binary _ primary secondary =>
    script.Describes w environment primary ∧ script.Describes w environment secondary
  | .redirection redirect primary path =>
    script.isMissing path = !w.opens redirect path ∧ script.Describes w environment primary

/-- What the script says of everything that any of the commands may ask for is the case. -/
def Script.DescribesAll (script : Script) (w : Conditions) (environment : Machine.Environment) :
    List Command → Prop
  | [] => True
  | command :: rest =>
    script.Describes w environment command ∧ script.DescribesAll w environment rest

end

mutual

/-- What the builtins of the command write can be written; `own` tells this of the output that the
command is given.  A pipe takes everything. -/
def Command.canWrite (w : Conditions) : Command → (own : Bool) → Bool
  | .executable .., _ => true
  | .builtin action, own => !action.writes || own
  | .sequential commands, own => Command.allCanWrite w commands own
  | .binary connective primary secondary, own =>
    primary.canWrite w (connective = .pipe || own) && secondary.canWrite w own
  | .redirection .input primary _, own => primary.canWrite w own
  | .redirection redirect primary path, _ =>
    primary.canWrite w (!w.opens redirect path || (w.obstacle (Text.held path)).isNone)

/-- What the builtins of any of the commands write can be written. -/
def Command.allCanWrite (w : Conditions) : List Command → (own : Bool) → Bool
  | [], _ => true
  | command :: rest, own => command.canWrite w own && Command.allCanWrite w rest own

end

/-- What the builtins in the stages of a pipeline write can be written. -/
def stagesCanWrite (w : Conditions) : List Command → (own : Bool) → Bool
  | [], _ => true
  | [last], own => last.canWrite w own
  | stage :: next :: rest, own => stage.canWrite w true && stagesCanWrite w (next :: rest) own

theorem Script.Describes.stages {script : Script} {w : Conditions}
    {environment : Machine.Environment} :
    ∀ {command : Command}, script.Describes w environment command →
      ∀ stage ∈ command.pipelineStages, script.Describes w environment stage
  | .binary .pipe _ _, h => List.forall_mem_cons.2 ⟨h.1, Script.Describes.stages h.2⟩
  | .executable .., h | .builtin _, h | .sequential _, h | .redirection .., h
  | .binary .conjunction _ _, h | .binary .disjunction _ _, h => List.forall_mem_singleton.2 h

theorem stagesCanWrite_cons (w : Conditions) (stage : Command) {rest : List Command}
    (h : rest ≠ []) (own : Bool) :
    stagesCanWrite w (stage :: rest) own
      = (stage.canWrite w true && stagesCanWrite w rest own) := by
  cases rest with
  | nil => exact absurd rfl h
  | cons next rest => rfl

theorem Command.canWrite_eq_stages (w : Conditions) (own : Bool) :
    ∀ command : Command, command.canWrite w own = stagesCanWrite w command.pipelineStages own
  | .binary .pipe primary secondary => by
    rw [pipelineStages, stagesCanWrite_cons w primary secondary.pipelineStages_ne_nil,
      ← Command.canWrite_eq_stages w own secondary, canWrite]
    rfl
  | .executable .. | .builtin _ | .sequential _ | .redirection .. => rfl
  | .binary .conjunction _ _ | .binary .disjunction _ _ => rfl

/-! ## Interpreters that are ready -/

/-- An interpreter can run commands: it is sound, and the streams that are active are open. -/
structure Interpreter.Ready (s : Interpreter) (σ : System) (outcomes : List Outcome) : Prop
    extends Sound s σ outcomes where
  input : s.Has .input s.input
  output : s.Has .output s.output

section Ready

variable {w : Conditions} {s₀ s s' : Interpreter} {σ₀ σ σ' : System}
  {outcomes₀ outcomes outcomes' : List Outcome} {owed : List (StreamId × Purpose)}
  {mode : StreamMode} {stream : Option StreamId}

theorem Owes.of_streams_eq (h : Owes s₀ σ₀ owed outcomes s σ) (hstreams : s'.streams = s.streams)
    (hsubshells : s'.subshells = s.subshells) (henvironment : s'.environment = s.environment) :
    Owes s₀ σ₀ owed outcomes s' σ := by
  cases s
  cases s'
  dsimp only at hstreams hsubshells henvironment
  subst hstreams hsubshells henvironment
  exact ⟨{ h.since with }, { h.sound with }⟩

theorem Owes.setStreams (h : Owes s₀ σ₀ owed outcomes s σ) (input output : Option StreamId) :
    Owes s₀ σ₀ owed outcomes (s.setStreams input output) σ := h.of_streams_eq rfl rfl rfl

theorem Owes.activate (h : Owes s₀ σ₀ owed outcomes s σ) (redirect : Redirect)
    (stream : Option StreamId) :
    Owes s₀ σ₀ owed outcomes (s.activate redirect stream) σ := by
  cases redirect <;> exact h.of_streams_eq rfl rfl rfl

namespace Interpreter

theorem Has.since (h : s₀.Has mode stream) (hsince : Since s₀ σ₀ owed s σ) : s.Has mode stream := by
  intro id hid
  obtain ⟨handle, hmem⟩ := h id hid
  exact ⟨handle, hsince.mem_entries hmem⟩

theorem active_since (hs₀ : Sound s₀ σ₀ outcomes₀) (h : s₀.Has mode stream)
    (howes : Owes s₀ σ₀ owed outcomes s σ) : s.active stream = s₀.active stream := by
  cases stream with
  | none => rfl
  | some id =>
    obtain ⟨handle, hmem⟩ := h id rfl
    rw [active, active, Option.bind_some, Option.bind_some, get?_eq_some hs₀ hmem,
      get?_eq_some howes.sound (howes.since.mem_entries hmem)]

/-- As long as the same stream is active, what could be written can be written. -/
theorem Accepts.since (h : s₀.Accepts w σ₀) (hs₀ : s₀.Ready σ₀ outcomes₀)
    (howes : Owes s₀ σ₀ owed outcomes s σ) (houtput : s.output = s₀.output) : s.Accepts w σ := by
  have hmem : (s₀.active s₀.output).getD standardOutput ∈ s₀.descriptors :=
    getD_active_mem hs₀.toSound hs₀.output (by simp [descriptors])
  unfold Accepts
  rw [houtput, active_since hs₀.toSound hs₀.output howes, ← h]
  exact w.writing_congr (howes.since.slot_eq _ (hs₀.isOpen _ hmem))

/-- A stream that is owed stands for what suits its purpose. -/
theorem active_owed (howes : Owes s₀ σ₀ owed outcomes s σ) {id : StreamId} {purpose : Purpose}
    (hmem : (id, purpose) ∈ owed) :
    ∃ d, s.active (some id) = some d ∧ purpose.Suits (σ.slot? d) := by
  obtain ⟨handle, hentry, -, hsuits⟩ := howes.since.stream _ hmem
  refine ⟨handle, ?_, hsuits⟩
  rw [active, Option.bind_some, get?_eq_some howes.sound hentry]
  rfl

theorem Accepts.of_active {d : Descriptor} (hd : s.active s.output = some d)
    (hwriting : w.writing σ d = .ok ()) : s.Accepts w σ := by
  rwa [Accepts, hd]

theorem has_owed (howes : Owes s₀ σ₀ owed outcomes s σ) {id : StreamId} {purpose : Purpose}
    (hmem : (id, purpose) ∈ owed) : s.Has purpose.mode (some id) := by
  rintro _ ⟨rfl⟩
  obtain ⟨handle, hentry, -⟩ := howes.since.stream _ hmem
  exact ⟨handle, hentry⟩

theorem Ready.continues (h : s.Ready σ outcomes) (hcontinues : Continues s σ outcomes' s' σ') :
    s'.Ready σ' outcomes' where
  toSound := hcontinues.sound
  input := by
    rw [hcontinues.input_eq]
    exact h.input.since hcontinues.since
  output := by
    rw [hcontinues.output_eq]
    exact h.output.since hcontinues.since

end Interpreter

end Ready

/-! ## Runs -/

/-- What came of a run is like what the evaluation says, and the interpreter has gone on, with the
outcomes of the subshells that it has started added to those that are to be collected. -/
structure Ran (mode : WaitMode) (evaluation : Evaluation) (s : Interpreter) (σ : System)
    (outcomes : List Outcome) (ran : Except ExecError Outcome × Interpreter) (σ' : System) :
    Prop where
  alike : Alike mode ran.1 evaluation.result
  continues : Continues s σ (outcomes ++ evaluation.remembered) ran.2 σ'

/-- The interpreter can run the command: it is ready, the script says what is the case, and what
builtins write can be written, where `own` tells this of the active output. -/
structure Prepared (w : Conditions) (script : Script) (own : Bool) (command : Command)
    (s : Interpreter) (σ : System) (outcomes : List Outcome) : Prop where
  ready : s.Ready σ outcomes
  describes : script.Describes w s.environment command
  canWrite : command.canWrite w own = true
  accepts : own = true → s.Accepts w σ

/-- From every interpreter that can run it the command comes to what its evaluation says. -/
def Command.Serves (w : Conditions) (script : Script) (command : Command) (mode : WaitMode) :
    Prop :=
  ∀ (s : Interpreter) (σ : System) (outcomes : List Outcome) (own : Bool),
    Prepared w script own command s σ outcomes →
    w.Leads (Ran mode (command.evaluate script (.ofMode mode)) s σ outcomes)
      (s.routine (command.execute mode)) σ

section Runs

variable {w : Conditions} {script : Script} {own : Bool} {mode mode' : WaitMode}
  {s s₁ s' : Interpreter} {σ σ₁ σ' : System} {outcomes : List Outcome}
  {ran : Except ExecError Outcome × Interpreter}

/-- A command that can be run can be run later on, and so can its parts. -/
theorem Prepared.part {outcomes₁ : List Outcome} {command part : Command}
    (h : Prepared w script own command s σ outcomes) (hcontinues : Continues s σ outcomes₁ s₁ σ₁)
    (hdescribes : script.Describes w s.environment part) (hwrites : part.canWrite w own = true) :
    Prepared w script own part s₁ σ₁ outcomes₁ where
  ready := h.ready.continues hcontinues
  describes := by rwa [hcontinues.since.environment_eq]
  canWrite := hwrites
  accepts hown := (h.accepts hown).since h.ready hcontinues.toOwes hcontinues.output_eq

namespace Evaluation

variable {first : Evaluation} {next : Int → Evaluation}

theorem andThen_completed {code : Int} (h : first.result = .ok (.completed code)) :
    first.andThen next = ⟨(next code).result, first.spawned ++ (next code).spawned,
      first.remembered ++ (next code).remembered⟩ := by
  rw [andThen, h]

theorem andThen_stopped (h : ∀ code, first.result ≠ .ok (.completed code)) :
    first.andThen next = first := by
  unfold andThen
  split
  · rename_i code hcompleted
    exact absurd hcompleted (h code)
  · rfl

end Evaluation

namespace Ran

variable {evaluation : Evaluation} {next : Int → Evaluation}

theorem andThen {code : Int} (hresult : evaluation.result = .ok (.completed code))
    (hcontinues : Continues s σ (outcomes ++ evaluation.remembered) s₁ σ₁)
    (h : Ran mode (next code) s₁ σ₁ (outcomes ++ evaluation.remembered) ran σ') :
    Ran mode (evaluation.andThen next) s σ outcomes ran σ' := by
  rw [Evaluation.andThen_completed hresult]
  refine ⟨h.alike, ?_⟩
  dsimp only
  rw [← List.append_assoc]
  exact hcontinues.trans h.continues

/-- No subshell is left to be collected. -/
theorem of_nothing (halike : Alike mode ran.1 evaluation.result)
    (hremembered : evaluation.remembered = []) (hcontinues : Continues s σ outcomes ran.2 σ') :
    Ran mode evaluation s σ outcomes ran σ' := by
  refine ⟨halike, ?_⟩
  rwa [hremembered, List.append_nil]

/-- Nothing follows a command that has failed or reached an `exit`. -/
theorem stopped (h : Ran mode' evaluation s σ outcomes ran σ')
    (hstops : ∀ code, ran.1 ≠ .ok (.completed code)) :
    Ran mode (evaluation.andThen next) s σ outcomes ran σ' := by
  obtain ⟨halike, hstops'⟩ := h.alike.of_stopped mode hstops
  rw [Evaluation.andThen_stopped hstops']
  exact ⟨halike, h.continues⟩

end Ran

/-- One command after another that is waited for. -/
theorem leads_onCompleted {evaluation : Evaluation} {next : Int → Evaluation}
    {routine : Routine (Except ExecError Outcome × Interpreter)}
    {rest : Int → Interpreter → Routine (Except ExecError Outcome × Interpreter)}
    (hfirst : w.Leads (Ran .wait evaluation s σ outcomes) routine σ)
    (hrest : ∀ code s₁ σ₁, Continues s σ (outcomes ++ evaluation.remembered) s₁ σ₁ →
      w.Leads (Ran .wait (next code) s₁ σ₁ (outcomes ++ evaluation.remembered)) (rest code s₁)
        σ₁) :
    w.Leads (Ran .wait (evaluation.andThen next) s σ outcomes)
      (routine.bind (Interpreter.onCompleted rest)) σ := by
  refine .bind (hfirst.mono fun ran σ₁ hran => ?_)
  obtain ⟨result, s₁⟩ := ran
  have halike := hran.alike
  generalize heval : evaluation.result = result' at halike
  cases halike with
  | completed hcode =>
    rename_i code code'
    obtain rfl : code = code' := hcode rfl
    exact (hrest code s₁ σ₁ hran.continues).mono fun ran' σ' => .andThen heval hran.continues
  | terminate => exact .done (hran.stopped nofun)
  | error => exact .done (hran.stopped nofun)

end Runs

/-! ## Redirections -/

section Redirections

variable {w : Conditions} {script : Script} {own : Bool} {mode : WaitMode} {redirect : Redirect}
  {path : String} {s s₁ s₂ : Interpreter} {σ σ₁ : System} {outcomes : List Outcome} {id : StreamId}

/-- In a redirection the file is active in its direction and nothing else has changed. -/
theorem Interpreter.Ready.redirected (hs : s.Ready σ outcomes)
    (howes : Owes s σ [(id, .ofRedirect redirect path)] outcomes s₁ σ₁)
    (hinput : s₁.input = s.input) (houtput : s₁.output = s.output) :
    (s₁.activate redirect (some id)).Ready σ₁ outcomes := by
  have hactive := howes.activate redirect (some id)
  have hhas := Interpreter.has_owed hactive (List.mem_singleton_self _)
  cases redirect with
  | input => exact ⟨hactive.sound, hhas, houtput ▸ hs.output.since hactive.since⟩
  | output | append => exact ⟨hactive.sound, hinput ▸ hs.input.since hactive.since, hhas⟩

/-- What is written in a redirection of the output goes to the file. -/
theorem active_redirected (hredirect : redirect ≠ .input)
    (howes : Owes s σ [(id, .ofRedirect redirect path)] outcomes s₁ σ₁) :
    ∃ d, (s₁.activate redirect (some id)).active (s₁.activate redirect (some id)).output = some d ∧
      σ₁.slot? d = some (.file (Text.held path)) := by
  have hactive := howes.activate redirect (some id)
  obtain ⟨d, hd, hsuits⟩ := Interpreter.active_owed hactive (List.mem_singleton_self _)
  cases redirect with
  | input => exact absurd rfl hredirect
  | output | append => exact ⟨d, hd, hsuits⟩

/-- A command that can be run in a redirection finds what it needs there. -/
theorem Prepared.redirected {primary : Command}
    (hs : Prepared w script own (.redirection redirect primary path) s σ outcomes)
    (hopens : w.opens redirect path = true)
    (howes : Owes s σ [(id, .ofRedirect redirect path)] outcomes s₁ σ₁)
    (hinput : s₁.input = s.input) (houtput : s₁.output = s.output) :
    ∃ own', Prepared w script own' primary (s₁.activate redirect (some id)) σ₁ outcomes := by
  have hactive := howes.activate redirect (some id)
  have hready := hs.ready.redirected howes hinput houtput
  have hdescribes : script.Describes w (s₁.activate redirect (some id)).environment primary := by
    rw [hactive.since.environment_eq]
    exact hs.describes.2
  by_cases hredirect : redirect = .input
  · subst hredirect
    exact ⟨own, hready, hdescribes, hs.canWrite,
      fun hown => (hs.accepts hown).since hs.ready hactive houtput⟩
  · have hwrites : primary.canWrite w (w.obstacle (Text.held path)).isNone = true := by
      have hwrites := hs.canWrite
      cases redirect <;> simp_all [Command.canWrite]
    refine ⟨(w.obstacle (Text.held path)).isNone, hready, hdescribes, hwrites, fun hnone => ?_⟩
    obtain ⟨d, hd, hslot⟩ := active_redirected hredirect howes
    exact .of_active hd
      (by simp only [Conditions.writing, hslot, Option.isNone_iff_eq_none.1 hnone])

/-- After a redirection the streams are active that were active before. -/
theorem activate_activeFor (hinput : s₂.input = (s₁.activate redirect (some id)).input)
    (houtput : s₂.output = (s₁.activate redirect (some id)).output) :
    (s₂.activate redirect (s₁.activeFor redirect)).input = s₁.input ∧
      (s₂.activate redirect (s₁.activeFor redirect)).output = s₁.output := by
  cases redirect
  · exact ⟨rfl, houtput⟩
  · exact ⟨hinput, rfl⟩
  · exact ⟨hinput, rfl⟩

/-- A redirection comes to what its command comes to while the file is active. -/
theorem leads_runRedirection {primary : Action InterpreterM}
    {P : Except ExecError Outcome → Prop} {outcomes' : List Outcome} (hs : Sound s σ outcomes)
    (hopens : w.opens redirect path = true)
    (h : ∀ id s₁ σ₁, Owes s σ [(id, .ofRedirect redirect path)] outcomes s₁ σ₁ →
      s₁.input = s.input → s₁.output = s.output →
      w.Leads (fun ran σ' => P ran.1 ∧
          Continues (s₁.activate redirect (some id)) σ₁ outcomes' ran.2 σ')
        ((s₁.activate redirect (some id)).routine (primary mode)) σ₁) :
    w.Leads (fun ran σ' => P ran.1 ∧ Continues s σ outcomes' ran.2 σ')
      (s.routine (runRedirection redirect path primary mode)) σ := by
  rw [Interpreter.routine_runRedirection]
  refine .bind ((Interpreter.leads_openFile hs hopens).mono fun ran σ₁ hran => ?_)
  obtain ⟨_, s₁⟩ := ran
  obtain ⟨id, rfl, howes, hinput, houtput⟩ := hran
  refine .bind ((h id s₁ σ₁ howes hinput houtput).mono fun ran σ₂ hran => ?_)
  obtain ⟨result, s₂⟩ := ran
  obtain ⟨hresult, hcontinues⟩ := hran
  have howes₂ := (howes.activate redirect (some id)).trans hcontinues.toOwes
  obtain ⟨hinput₂, houtput₂⟩ := activate_activeFor hcontinues.input_eq hcontinues.output_eq
  refine .bind ((Interpreter.leads_closeStream (howes₂.activate redirect _) (.refl _)).mono
    fun closed σ' hclosed => ?_)
  obtain ⟨_, s'⟩ := closed
  obtain ⟨rfl, howes', hinput', houtput'⟩ := hclosed
  refine .done ⟨?_, howes', hinput'.trans (hinput₂.trans hinput),
    houtput'.trans (houtput₂.trans houtput)⟩
  cases result <;> exact hresult

end Redirections

/-! ## Stages of pipelines -/

section Stages

variable {w : Conditions} {script : Script} {own : Bool} {s₀ s s' : Interpreter}
  {σ₀ σ σ' : System} {outcomes₀ outcomes : List Outcome} {incoming : Option StreamId}
  {pipes : List (StreamId × StreamId)} {stage : Command} {stages : List Command}

/-- The ends of the pipes that are still open before a stage: the one that it reads from and those
of the pipes after it. -/
def endsBefore (incoming : Option StreamId) (pipes : List (StreamId × StreamId)) :
    List (StreamId × Purpose) :=
  incoming.toList.map (·, .reading) ++ Interpreter.directedEnds pipes

theorem map_reading (incoming : Option StreamId) :
    (incoming.toList.map ((·, Purpose.reading) : StreamId → StreamId × Purpose)).map Prod.fst
      = incoming.toList := by
  cases incoming <;> rfl

theorem map_endsBefore (incoming : Option StreamId) (pipes : List (StreamId × StreamId)) :
    (endsBefore incoming pipes).map Prod.fst = incoming.toList ++ pipeEnds pipes := by
  rw [endsBefore, List.map_append, Interpreter.map_directedEnds, map_reading]

theorem mem_endsBefore_write {read write : StreamId} :
    (write, Purpose.toPipe) ∈ endsBefore incoming ((read, write) :: pipes) :=
  List.mem_append_right _ (List.mem_cons_of_mem _ (List.mem_cons_self ..))

/-- A stage reads from the pipe before it, or else what the pipeline reads, and writes to the pipe
behind it, or else what the pipeline writes. -/
theorem Prepared.of_stage (h₀ : s₀.Ready σ₀ outcomes₀) (haccepts : own = true → s₀.Accepts w σ₀)
    (howes : Owes s₀ σ₀ (endsBefore incoming pipes) outcomes s σ)
    (hdescribes : script.Describes w s₀.environment stage)
    (hwrites : stage.canWrite w (!pipes.isEmpty || own) = true) :
    Prepared w script (!pipes.isEmpty || own) stage
      (s.stageStart ⟨s₀.input, s₀.output⟩ incoming pipes) σ outcomes := by
  have hstart : Owes s₀ σ₀ (endsBefore incoming pipes) outcomes
      (s.stageStart ⟨s₀.input, s₀.output⟩ incoming pipes) σ := howes.setStreams ..
  refine ⟨⟨hstart.sound, ?_, ?_⟩, by rwa [hstart.since.environment_eq], hwrites, fun hown => ?_⟩
  · cases incoming with
    | none => exact h₀.input.since hstart.since
    | some read => exact Interpreter.has_owed hstart (List.mem_cons_self ..)
  · cases pipes with
    | nil => exact h₀.output.since hstart.since
    | cons pipe pipes => exact Interpreter.has_owed hstart mem_endsBefore_write
  · cases pipes with
    | nil => exact (haccepts hown).since h₀ hstart rfl
    | cons pipe pipes =>
      obtain ⟨d, hd, pipe, hslot⟩ := Interpreter.active_owed hstart mem_endsBefore_write
      exact .of_active hd (by simp only [Conditions.writing, hslot])

/-- If the builtins of all stages can write, then those of the first can, whose output is the pipe
behind it, if there is one, and so can those of the others. -/
theorem canWrite_first (hlength : stages.length = pipes.length)
    (h : stagesCanWrite w (stage :: stages) own = true) :
    stage.canWrite w (!pipes.isEmpty || own) = true ∧
      (stages ≠ [] → stagesCanWrite w stages own = true) := by
  cases pipes with
  | nil =>
    rw [List.length_nil, List.length_eq_zero_iff] at hlength
    subst hlength
    exact ⟨h, fun hmore => absurd rfl hmore⟩
  | cons pipe pipes =>
    rw [stagesCanWrite_cons w stage (List.ne_nil_of_length_eq_add_one hlength),
      Bool.and_eq_true_iff] at h
    exact ⟨h.1, fun _ => h.2⟩

/-- What the stages come to, the ends that are left over, and an interpreter that has still to close
them. -/
structure RanStages (evaluation : Evaluation) (s₀ : Interpreter) (σ₀ : System)
    (outcomes : List Outcome) (ran : (Except ExecError Outcome × List StreamId) × Interpreter)
    (σ' : System) : Prop where
  alike : Alike .wait ran.1.1 evaluation.result
  owes : ∃ ends, ran.1.2 = ends.map Prod.fst ∧
    Owes s₀ σ₀ ends (outcomes ++ evaluation.remembered) ran.2 σ'

/-- A stage that has failed or reached an `exit` is the last one to be run. -/
theorem RanStages.stopped {result : Except ExecError Outcome} {ends : List (StreamId × Purpose)}
    (hlength : stages.length = pipes.length)
    (halike : Alike (Recorder.stageMode pipes) result
      (stage.evaluate script (.ofMode (Recorder.stageMode pipes))).result)
    (hstops : ∀ code, result ≠ .ok (.completed code))
    (howes : Owes s₀ σ₀ ends (outcomes ++
      (stage.evaluate script (.ofMode (Recorder.stageMode pipes))).remembered) s' σ') :
    RanStages (evaluateStages script (stage :: stages)) s₀ σ₀ outcomes
      ((result, ends.map Prod.fst), s') σ' := by
  obtain ⟨halike', hstops'⟩ := halike.of_stopped .wait hstops
  have heval : evaluateStages script (stage :: stages)
      = stage.evaluate script (.ofMode (Recorder.stageMode pipes)) := by
    cases pipes with
    | nil =>
      rw [List.length_nil, List.length_eq_zero_iff] at hlength
      rw [hlength]
      rfl
    | cons pipe pipes =>
      rw [evaluateStages_cons script stage (List.ne_nil_of_length_eq_add_one hlength)]
      exact Evaluation.andThen_stopped hstops'
  rw [heval]
  exact ⟨halike', ends, rfl, howes⟩

theorem leads_runStages (h₀ : s₀.Ready σ₀ outcomes₀) (haccepts : own = true → s₀.Accepts w σ₀)
    (hstages : ∀ stage ∈ stages, ∀ mode, stage.Serves w script mode)
    (hdescribes : ∀ stage ∈ stages, script.Describes w s₀.environment stage)
    (hwrites : stagesCanWrite w stages own = true) (hlength : stages.length = pipes.length + 1)
    (howes : Owes s₀ σ₀ (endsBefore incoming pipes) outcomes s σ) :
    w.Leads (RanStages (evaluateStages script stages) s₀ σ₀ outcomes)
      ((runStages ⟨s₀.input, s₀.output⟩ incoming
        (stages.map (Command.execute (m := InterpreterM))) pipes).run s) σ := by
  induction stages generalizing incoming pipes s σ outcomes with
  | nil => cases hlength
  | cons stage rest ih =>
    have hlength := Nat.succ.inj hlength
    obtain ⟨hwritesFirst, hwritesRest⟩ := canWrite_first hlength hwrites
    obtain ⟨hfirst, hrest⟩ := List.forall_mem_cons.1 hstages
    obtain ⟨hdescribesFirst, hdescribesRest⟩ := List.forall_mem_cons.1 hdescribes
    rw [List.map_cons, Interpreter.run_runStages_cons]
    refine .bind ((hfirst (Recorder.stageMode pipes) _ σ outcomes _
      (.of_stage h₀ haccepts howes hdescribesFirst hwritesFirst)).mono fun ran σ₁ hran => ?_)
    obtain ⟨result, s₁⟩ := ran
    obtain ⟨halike, hcontinues⟩ := hran
    have howes₁ := (howes.setStreams (incoming <|> s₀.input)
      (pipes.head?.map Prod.snd <|> s₀.output)).trans hcontinues.toOwes
    rw [List.append_nil] at howes₁
    cases result with
    | error error =>
      have hstopped := RanStages.stopped hlength halike nofun howes₁
      rw [map_endsBefore] at hstopped
      exact .done hstopped
    | ok outcome =>
      have hreleased := Interpreter.leads_releaseAll (w := w) _ howes₁
      rw [map_reading] at hreleased
      refine .bind (hreleased.mono fun ran σ₂ hran => ?_)
      obtain ⟨_, s₂⟩ := ran
      obtain ⟨rfl, howes₂, -, -⟩ := hran
      rcases pipes with _ | ⟨⟨read, write⟩, pipes⟩
      · obtain rfl : rest = [] := List.length_eq_zero_iff.1 hlength
        exact .done ⟨halike, [], rfl, howes₂⟩
      · have hends : (Interpreter.directedEnds ((read, write) :: pipes)).Perm
            ((write, .toPipe) :: (read, .reading) :: Interpreter.directedEnds pipes) :=
          .swap _ _ _
        refine .bind ((Interpreter.leads_closeStream howes₂ hends).mono fun ran σ₃ hran => ?_)
        obtain ⟨_, s₃⟩ := ran
        obtain ⟨rfl, howes₃, -, -⟩ := hran
        cases outcome with
        | terminate code =>
          have hstopped := RanStages.stopped hlength halike nofun howes₃
          rw [List.map_cons, Interpreter.map_directedEnds] at hstopped
          exact .done hstopped
        | completed code =>
          have hmore : rest ≠ [] := List.ne_nil_of_length_eq_add_one hlength
          generalize heval : (stage.evaluate script
            (.ofMode (Recorder.stageMode ((read, write) :: pipes)))).result = result at halike
          cases halike with
          | @completed _ code' =>
            have heval : (stage.evaluate script .background).result
                = .ok (.completed code') := heval
            have howes₃ : Owes s₀ σ₀ (endsBefore (some read) pipes) _ s₃ σ₃ := howes₃
            have hnext := ih hrest hdescribesRest (hwritesRest hmore) hlength howes₃
            rw [evaluateStages_cons script stage hmore, Evaluation.andThen_completed heval]
            refine hnext.mono fun ran σ' hran => ⟨hran.alike, ?_⟩
            dsimp only
            rw [← List.append_assoc]
            exact hran.owes

end Stages

/-! ## Commands -/

namespace Command.Serves

variable {w : Conditions} {script : Script}

theorem executable (program : String) (arguments : List String) (mode : WaitMode) :
    (Command.executable program arguments).Serves w script mode := by
  intro s σ outcomes own h
  obtain ⟨hcrashes, code, hscript, hcode⟩ := h.describes
  have hrun : s.routine ((Command.executable program arguments).execute mode)
      = s.routine (Interpreter.spawn program arguments mode >>= fun code =>
        pure (Outcome.completed code)) := rfl
  rw [hrun, Interpreter.routine_bind]
  refine .bind ((Interpreter.leads_spawn h.ready.toSound h.ready.input h.ready.output hcode
    mode).mono fun ran σ' hran => ?_)
  obtain ⟨_, s'⟩ := ran
  obtain ⟨⟨code', rfl, hcode'⟩, hcontinues⟩ := hran
  refine .done (.of_nothing ?_ rfl hcontinues)
  simp only [evaluate_executable, Script.start, hcrashes]
  cases mode with
  | wait => exact .completed fun _ => (hcode' rfl).trans hscript.symm
  | background => exact .completed WaitMode.noConfusion

theorem builtin (action : Builtin) (mode : WaitMode) :
    (Command.builtin action).Serves w script mode := by
  intro s σ outcomes own h
  have hwrites : action.writes = true → own = true := by
    have hcanWrite := h.canWrite
    rw [canWrite] at hcanWrite
    cases own <;> simp_all
  have hkinds : script.fileKind = w.fileKind := h.describes
  refine (Interpreter.leads_builtin h.ready.toSound h.ready.output fun hwritten =>
    h.accepts (hwrites hwritten)).mono fun ran σ' hran => ?_
  obtain ⟨hresult, hcontinues⟩ := hran
  refine .of_nothing ?_ rfl hcontinues
  rw [hresult, evaluate_builtin, hkinds]
  exact .refl _

theorem sequential {commands : List Command}
    (h : ∀ command ∈ commands, command.Serves w script .wait) :
    (Command.sequential commands).Serves w script .wait := by
  induction commands with
  | nil =>
    intro s σ outcomes own hs
    exact .done (.of_nothing (.refl _) rfl (.refl hs.ready.toSound))
  | cons first rest ih =>
    intro s σ outcomes own hs
    obtain ⟨hdescribes, hdescribesRest⟩ := hs.describes
    obtain ⟨hwrites, hwritesRest⟩ := Bool.and_eq_true_iff.1 hs.canWrite
    have hfirst := h first (List.mem_cons_self ..) s σ outcomes own
      (hs.part (.refl hs.ready.toSound) hdescribes hwrites)
    cases rest with
    | nil => exact hfirst
    | cons second rest =>
      have hrest := ih fun command hmem => h command (List.mem_cons_of_mem _ hmem)
      show w.Leads (Ran .wait ((first.evaluate script .foreground).andThen fun _ =>
        (Command.sequential (second :: rest)).evaluate script .foreground) s σ outcomes) _ σ
      rw [Interpreter.routine_sequential_cons_cons]
      refine leads_onCompleted hfirst fun _ s₁ σ₁ hcontinues => ?_
      exact hrest s₁ σ₁ _ own (hs.part hcontinues hdescribesRest hwritesRest)

theorem conditional {connective : Connective} {primary secondary : Command}
    (hconnective : connective ≠ .pipe) (hprimary : primary.Serves w script .wait)
    (hsecondary : secondary.Serves w script .wait) :
    (Command.binary connective primary secondary).Serves w script .wait := by
  intro s σ outcomes own hs
  obtain ⟨hdescribes, hdescribes'⟩ := hs.describes
  obtain ⟨hwrites, hwrites'⟩ := Bool.and_eq_true_iff.1 hs.canWrite
  rw [decide_eq_false hconnective, Bool.false_or] at hwrites
  rw [Interpreter.routine_conditional s hconnective, Standing.ofMode,
    evaluate_conditional script hconnective]
  refine leads_onCompleted (hprimary s σ outcomes own
    (hs.part (.refl hs.ready.toSound) hdescribes hwrites)) fun code s₁ σ₁ hcontinues => ?_
  split
  · exact hsecondary s₁ σ₁ _ own (hs.part hcontinues hdescribes' hwrites')
  · exact .done (.of_nothing (.refl _) rfl (.refl hcontinues.sound))

/-- A subshell for the command ends as the command's evaluation says. -/
theorem endsAs {command : Command} {environment : Machine.Environment} {own : Bool}
    (h : command.Serves w script .wait) (hdescribes : script.Describes w environment command)
    (hwrites : command.canWrite w own = true) :
    Interpreter.EndsAs w environment own (settle (command.execute .wait))
      (Recorder.settled (command.evaluate script .foreground).result) := by
  intro s σ hs henvironment hinput houtput haccepts
  have hready : s.Ready σ [] := ⟨hs, by rw [hinput]; nofun, by rw [houtput]; nofun⟩
  rw [Interpreter.run_settle]
  refine .bind ((h s σ [] own ⟨hready, henvironment ▸ hdescribes, hwrites, haccepts⟩).mono
    fun ran σ₁ hran => ?_)
  obtain ⟨result, s₁⟩ := ran
  obtain ⟨hmark, hstatus⟩ := hran.alike.settled
  cases result with
  | ok outcome => exact .done ⟨hmark, hstatus, hran.continues.since⟩
  | error error =>
    refine .bind ((Interpreter.leads_emit _).mono fun told σ' htold => ?_)
    obtain ⟨_, s'⟩ := told
    obtain ⟨rfl, hwrote⟩ := htold
    have hsince := hran.continues.since.trans (.wrote hwrote (by simp [Interpreter.writable]))
    exact .done ⟨hmark, hstatus, hsince⟩

theorem of_wait {command : Command} (hcomposite : command.isComposite = true)
    (hwait : command.Serves w script .wait) (mode : WaitMode) : command.Serves w script mode := by
  cases mode with
  | wait => exact hwait
  | background =>
    intro s σ outcomes own h
    rw [Standing.ofMode, evaluate_background script hcomposite,
      Interpreter.routine_execute_background s hcomposite,
      Interpreter.routine_composite_background]
    refine .bind ((Interpreter.leads_spawnSubshell h.ready.toSound h.ready.input h.ready.output
      h.accepts (hwait.endsAs h.describes h.canWrite)).mono fun ran σ' hran => ?_)
    obtain ⟨_, s'⟩ := ran
    obtain ⟨rfl, hcontinues⟩ := hran
    exact .done ⟨.refl _, hcontinues⟩

/-! ### Redirections -/

theorem redirection {redirect : Redirect} {primary : Command} {path : String} {mode : WaitMode}
    (h : primary.Serves w script mode) :
    (Command.redirection redirect primary path).Serves w script mode := by
  intro s σ outcomes own hs
  have hmissing := hs.describes.1
  have hrun : s.routine ((Command.redirection redirect primary path).execute mode)
      = s.routine (runRedirection redirect path primary.execute mode) := rfl
  rw [hrun, evaluate_redirection]
  cases hopens : w.opens redirect path with
  | false =>
    rw [hopens, Bool.not_false] at hmissing
    rw [if_pos hmissing, Interpreter.routine_runRedirection]
    refine .bind ((Interpreter.leads_openFile_refused hopens).mono fun ran σ' hran => ?_)
    obtain ⟨⟨fault, rfl⟩, rfl⟩ := hran
    exact .done (.of_nothing (.error (.openFile ..)) rfl (.refl hs.ready.toSound))
  | true =>
    rw [hopens, Bool.not_true] at hmissing
    have hstanding : (Standing.ofMode mode).redirected = .ofMode mode := by cases mode <;> rfl
    rw [if_neg (by rw [hmissing]; exact Bool.false_ne_true), hstanding]
    have hran := leads_runRedirection (P := fun result =>
        Alike mode result (primary.evaluate script (.ofMode mode)).result) hs.ready.toSound hopens
      fun id s₁ σ₁ howes hinput houtput => by
        obtain ⟨own', hprepared⟩ := hs.redirected hopens howes hinput houtput
        exact (h _ σ₁ outcomes own' hprepared).mono fun ran σ' hran => ⟨hran.alike, hran.continues⟩
    exact hran.mono fun ran σ' hran => ⟨hran.1, hran.2⟩

/-! ### Pipelines -/

theorem pipeline {primary secondary : Command}
    (h : ∀ stage ∈ (Command.binary .pipe primary secondary).pipelineStages, ∀ mode,
      stage.Serves w script mode) :
    (Command.binary .pipe primary secondary).Serves w script .wait := by
  intro s σ outcomes own hs
  have hnonempty := (Command.binary .pipe primary secondary).pipelineStages_ne_nil
  have hdescribes := hs.describes.stages
  have hwrites := hs.canWrite
  rw [Command.canWrite_eq_stages] at hwrites
  rw [Standing.ofMode, evaluate_pipe, Command.execute_pipe]
  show w.Leads _ (s.routine (runPipeline _)) σ
  generalize (Command.binary .pipe primary secondary).pipelineStages = stages at *
  have hcollected : s.subshells.length = outcomes.length := hs.ready.pending.length_eq
  rw [Interpreter.routine_runPipeline, List.length_map]
  have hbegun : Owes s σ (Interpreter.directedEnds []) outcomes s σ :=
    ⟨.refl s σ, hs.ready.toSound⟩
  refine .bind ((Interpreter.leads_createPipes hbegun (stages.length - 1)).mono
    fun ran σ₁ hran => ?_)
  obtain ⟨_, s₁⟩ := ran
  obtain ⟨pipes, rfl, hpipes, howes₁, hinput₁, houtput₁⟩ := hran
  have hlength : stages.length = pipes.length + 1 := by
    have hpos := List.length_pos_iff.2 hnonempty
    rw [hpipes, List.length_nil]
    omega
  have hkept : s₁.subshells.length = s.subshells.length :=
    howes₁.sound.pending.length_eq.trans hcollected.symm
  dsimp only at hinput₁ houtput₁ ⊢
  rw [hinput₁, houtput₁, hkept]
  have howes₁ : Owes s σ (endsBefore none pipes) outcomes s₁ σ₁ := howes₁
  refine .bind ((leads_runStages hs.ready hs.accepts h hdescribes hwrites hlength howes₁).mono
    fun ran σ₂ hran => ?_)
  obtain ⟨⟨result, leftover⟩, s₂⟩ := ran
  obtain ⟨halike, ends, hleftover, howes₂⟩ := hran
  obtain rfl : leftover = ends.map Prod.fst := hleftover
  rw [← List.append_nil ends] at howes₂
  refine .bind ((Interpreter.leads_releaseAll ends (howes₂.setStreams s.input s.output)).mono
    fun ran σ₃ hran => ?_)
  obtain ⟨_, s₃⟩ := ran
  obtain ⟨rfl, howes₃, hinput₃, houtput₃⟩ := hran
  refine .bind ((Interpreter.leads_collectSubshells howes₃ hcollected).mono fun ran σ' hran => ?_)
  obtain ⟨_, s'⟩ := ran
  obtain ⟨rfl, howes', hinput', houtput'⟩ := hran
  refine .done (.of_nothing ?_ rfl ⟨howes', hinput'.trans hinput₃, houtput'.trans houtput₃⟩)
  have hexit := halike.withExit (Recorder.firstExit (evaluateStages script stages).remembered)
  cases result <;> exact hexit

end Command.Serves

end CommandShell
