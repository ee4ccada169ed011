import CommandShell.Proofs.Recording.Cleanup
set_option autoImplicit false

/-!
# Control flow without streams

Which programs a command starts, and what it comes to, can be told without streams: here is an
evaluator that has none, and a proof that running a command agrees with it as long as no call is
made to fail.  The plumbing of a pipeline or a redirection never decides what runs or which result
counts.

A pipeline in the last place of a pipeline is part of that pipeline.  So the evaluator goes through
a command by where it stands, and never looks at a list of stages.
-/

namespace CommandShell

/-! ## The evaluator -/

/-- A program that was started. -/
structure Spawned where
  program : String
  arguments : List String
  mode : WaitMode
  deriving DecidableEq

/-- What a command comes to: its result, the programs that were started, in order, and the outcomes
of the subshells that are remembered, in order. -/
structure Evaluation where
  result : Except ExecError Outcome
  spawned : List Spawned := []
  remembered : List Outcome := []

namespace Evaluation

/-- Goes on after a command has completed. -/
def andThen (first : Evaluation) (next : Int → Evaluation) : Evaluation :=
  match first.result with
  | .ok (.completed code) =>
    ⟨(next code).result, first.spawned ++ (next code).spawned,
      first.remembered ++ (next code).remembered⟩
  | _ => first

/-- The result of a subshell is remembered only. -/
def enclosed (body : Evaluation) : Evaluation :=
  ⟨.ok (.completed 0), body.spawned, [Recorder.settled body.result]⟩

/-- At the end of a pipeline the first `exit` that is remembered counts if there is no other, and
everything is forgotten. -/
def concluded (stages : Evaluation) : Evaluation :=
  ⟨stages.result.map fun outcome =>
    Recorder.withExit outcome (Recorder.firstExit stages.remembered), stages.spawned, []⟩

end Evaluation

/-- Where a command stands: it is waited for, runs in the background, or is the last stage of a
pipeline, which is waited for too. -/
inductive Standing where
  | foreground
  | background
  | lastStage
  deriving DecidableEq

namespace Standing

/-- The mode in which a program runs. -/
def mode : Standing → WaitMode
  | background => .background
  | foreground | lastStage => .wait

/-- A command in a redirection is no part of a pipeline around it. -/
def redirected : Standing → Standing
  | background => background
  | foreground | lastStage => foreground

/-- A composite command runs in a subshell when it is not waited for. -/
def composite (body : Evaluation) : Standing → Evaluation
  | background => body.enclosed
  | foreground | lastStage => body

/-- Stages that have ended are a pipeline, unless they are the last ones of a longer one. -/
def pipeline (stages : Evaluation) : Standing → Evaluation
  | foreground => stages.concluded
  | background => stages.concluded.enclosed
  | lastStage => stages

/-- The standing of a command that runs in a mode. -/
def ofMode : WaitMode → Standing
  | .wait => foreground
  | .background => background

end Standing

/-- What a program comes to. -/
def Script.start (script : Script) (program : String) (arguments : List String) (mode : WaitMode) :
    Evaluation where
  result :=
    if script.crashes program then .error (.abnormalTermination program .kill)
    else
      match mode with
      | .wait => .ok (.completed (script.exitCode program))
      | .background => .ok (.completed 0)
  spawned := [⟨program, arguments, mode⟩]

mutual

/-- What a command comes to in a world like the script's. -/
def Command.evaluate (script : Script) : Command → Standing → Evaluation
  | .executable program arguments, standing => script.start program arguments standing.mode
  | .builtin action, _ => { result := .ok (action.answer script.fileKind).outcome }
  | .sequential commands, standing => standing.composite (Command.evaluateInOrder script commands)
  | .binary .conjunction primary secondary, standing =>
    standing.composite ((primary.evaluate script .foreground).andThen fun code =>
      if code = 0 then secondary.evaluate script .foreground
      else { result := .ok (.completed code) })
  | .binary .disjunction primary secondary, standing =>
    standing.composite ((primary.evaluate script .foreground).andThen fun code =>
      if code ≠ 0 then secondary.evaluate script .foreground
      else { result := .ok (.completed code) })
  | .binary .pipe primary secondary, standing =>
    standing.pipeline ((primary.evaluate script .background).andThen fun _ =>
      secondary.evaluate script .lastStage)
  | .redirection redirect primary path, standing =>
    if script.isMissing path then { result := .error (.openFile redirect path .notFound) }
    else primary.evaluate script standing.redirected

/-- What commands come to one after the other, up to the first `exit` or failure. -/
def Command.evaluateInOrder (script : Script) : List Command → Evaluation
  | [] => { result := .error .emptySequence }
  | [last] => last.evaluate script .foreground
  | first :: second :: rest =>
    (first.evaluate script .foreground).andThen fun _ =>
      Command.evaluateInOrder script (second :: rest)

end

namespace Command

variable (script : Script) (standing : Standing) (primary secondary : Command)

theorem evaluate_executable (program : String) (arguments : List String) :
    (executable program arguments).evaluate script standing
      = script.start program arguments standing.mode := rfl

theorem evaluate_builtin (action : Builtin) :
    (builtin action).evaluate script standing
      = { result := .ok (action.answer script.fileKind).outcome } := rfl

theorem evaluate_conjunction :
    (binary .conjunction primary secondary).evaluate script standing
      = standing.composite ((primary.evaluate script .foreground).andThen fun code =>
        if code = 0 then secondary.evaluate script .foreground
        else { result := .ok (.completed code) }) := rfl

theorem evaluate_disjunction :
    (binary .disjunction primary secondary).evaluate script standing
      = standing.composite ((primary.evaluate script .foreground).andThen fun code =>
        if code ≠ 0 then secondary.evaluate script .foreground
        else { result := .ok (.completed code) }) := rfl

theorem evaluate_pipeline :
    (binary .pipe primary secondary).evaluate script standing
      = standing.pipeline ((primary.evaluate script .background).andThen fun _ =>
        secondary.evaluate script .lastStage) := rfl

theorem evaluate_redirection (redirect : Redirect) (path : String) :
    (redirection redirect primary path).evaluate script standing
      = if script.isMissing path then { result := .error (.openFile redirect path .notFound) }
        else primary.evaluate script standing.redirected := rfl

end Command

/-! ## Agreement -/

/-- The program that an event starts. -/
def Event.spawns : Event → List Spawned
  | .spawn program arguments mode _ _ => [⟨program, arguments, mode⟩]
  | _ => []

/-- The programs that are started in a story, in order. -/
def spawns (story : List Event) : List Spawned := story.flatMap Event.spawns

@[simp] theorem spawns_nil : spawns [] = [] := rfl

@[simp] theorem spawns_append (story story' : List Event) :
    spawns (story ++ story') = spawns story ++ spawns story' := List.flatMap_append

/-- From one recorder to the other no program is started and no subshell is remembered. -/
structure Silent (r r' : Recorder) : Prop where
  spawns_eq : spawns r'.events.toList = spawns r.events.toList
  subshells_eq : r'.subshells = r.subshells

/-- What came of a run is what the evaluation says. -/
structure Agrees (r : Recorder) (ran : Except ExecError Outcome × Recorder)
    (evaluation : Evaluation) : Prop where
  result_eq : ran.1 = evaluation.result
  spawns_eq : spawns ran.2.events.toList = spawns r.events.toList ++ evaluation.spawned
  subshells_eq : ran.2.subshells = r.subshells ++ evaluation.remembered

namespace Silent

variable {r r₁ r' : Recorder}

theorem trans (h : Silent r r₁) (h' : Silent r₁ r') : Silent r r' :=
  ⟨h'.spawns_eq.trans h.spawns_eq, h'.subshells_eq.trans h.subshells_eq⟩

theorem of_stretch {story : List Event} (h : Stretch r story r') (hspawns : spawns story = [])
    (hsubshells : r'.subshells = r.subshells) : Silent r r' where
  spawns_eq := by rw [h.events, spawns_append, hspawns, List.append_nil]
  subshells_eq := hsubshells

theorem tell (r : Recorder) (notice : Option Notice) : Silent r (r.tell notice) := by
  cases notice <;> exact ⟨rfl, rfl⟩

theorem activate (r : Recorder) (redirect : Redirect) (stream : Option StreamId) :
    Silent r (r.activate redirect stream) := by
  cases redirect <;> exact ⟨rfl, rfl⟩

theorem setStreams (r : Recorder) (input output : Option StreamId) :
    Silent r (r.setStreams input output) := ⟨rfl, rfl⟩

theorem createPipe (r : Recorder) : Silent r r.createPipe.2 := by
  obtain ⟨events, openStreams, nextId, hafter⟩ := r.createPipe_snd
  refine of_stretch r.createPipe_stretch ?_ (by rw [hafter])
  cases r.createPipe.1 <;> rfl

theorem openFile (r : Recorder) (redirect : Redirect) (path : String) :
    Silent r (r.openFile redirect path).2 := by
  obtain ⟨events, openStreams, nextId, hafter⟩ := r.openFile_snd redirect path
  refine of_stretch (r.openFile_stretch redirect path) ?_ (by rw [hafter])
  cases (r.openFile redirect path).1 <;> rfl

theorem closeStream (r : Recorder) (id : StreamId) : Silent r (r.closeStream id).2 := by
  obtain ⟨events, openStreams, hafter⟩ := r.closeStream_snd id
  refine of_stretch (r.closeStream_stretch id) ?_ (by rw [hafter])
  cases (r.closeStream id).1 <;> rfl

theorem writeOutput (r : Recorder) (text : String) : Silent r (r.writeOutput text).2 := by
  obtain ⟨events, hafter⟩ := r.writeOutput_snd text
  refine of_stretch (r.writeOutput_stretch text) ?_ (by rw [hafter])
  cases (r.writeOutput text).1 <;> rfl

theorem releaseAll (r : Recorder) (ids : List StreamId) :
    Silent r (r.perform (releaseAll ids)).2 :=
  Recorder.perform_releaseAll_of_trans Silent trans (fun _ => ⟨rfl, rfl⟩) closeStream ids r

theorem of_closeStream {id : StreamId} {closed : Except ExecError Unit}
    (h : r.closeStream id = (closed, r')) : Silent r r' := by
  have hsilent := closeStream r id
  rwa [h] at hsilent

theorem of_releaseAll {ids : List StreamId} {released : Except ExecError Unit}
    (h : r.perform (CommandShell.releaseAll ids) = (released, r')) : Silent r r' := by
  have hsilent := releaseAll r ids
  rwa [h] at hsilent

end Silent

namespace Agrees

variable {r r₁ r' : Recorder} {ran : Except ExecError Outcome × Recorder}
  {result : Except ExecError Outcome} {evaluation : Evaluation}

theorem before (h : Agrees r₁ ran evaluation) (hsilent : Silent r r₁) :
    Agrees r ran evaluation where
  result_eq := h.result_eq
  spawns_eq := by rw [h.spawns_eq, hsilent.spawns_eq]
  subshells_eq := by rw [h.subshells_eq, hsilent.subshells_eq]

theorem after (h : Agrees r (result, r₁) evaluation) (hsilent : Silent r₁ r') :
    Agrees r (result, r') evaluation where
  result_eq := h.result_eq
  spawns_eq := hsilent.spawns_eq.trans h.spawns_eq
  subshells_eq := hsilent.subshells_eq.trans h.subshells_eq

theorem andThen {code : Int} {next : Int → Evaluation}
    (h : Agrees r (.ok (.completed code), r₁) evaluation) (hnext : Agrees r₁ ran (next code)) :
    Agrees r ran (evaluation.andThen next) := by
  have heval : evaluation.andThen next = ⟨(next code).result,
      evaluation.spawned ++ (next code).spawned,
      evaluation.remembered ++ (next code).remembered⟩ := by
    rw [Evaluation.andThen, ← h.result_eq]
  rw [heval]
  exact {
    result_eq := hnext.result_eq
    spawns_eq := by rw [hnext.spawns_eq, h.spawns_eq, List.append_assoc]
    subshells_eq := by rw [hnext.subshells_eq, h.subshells_eq, List.append_assoc] }

/-- Nothing follows a command that has not completed. -/
theorem stopped {next : Int → Evaluation} (h : Agrees r ran evaluation)
    (hstops : ∀ code, ran.1 ≠ .ok (.completed code)) : Agrees r ran (evaluation.andThen next) := by
  have heval : evaluation.andThen next = evaluation := by
    rw [h.result_eq] at hstops
    unfold Evaluation.andThen
    split
    · rename_i hcompleted
      exact absurd hcompleted (hstops _)
    · rfl
  rwa [heval]

/-- Ends that a silent recorder leaves with the given result. -/
theorem of_silent (h : Silent r r') (hremembered : evaluation.remembered = [])
    (hspawned : evaluation.spawned = []) (hresult : result = evaluation.result) :
    Agrees r (result, r') evaluation where
  result_eq := hresult
  spawns_eq := by rw [hspawned, List.append_nil, h.spawns_eq]
  subshells_eq := by rw [hremembered, List.append_nil, h.subshells_eq]

end Agrees

/-! ## Operations on a recorder without faults -/

namespace Recorder

variable {r : Recorder}

theorem spawn_agrees (r : Recorder) (program : String) (arguments : List String)
    (mode : WaitMode) :
    Agrees r ((r.spawn program arguments mode).1.map .completed,
      (r.spawn program arguments mode).2) (r.script.start program arguments mode) := by
  obtain ⟨events, hafter⟩ := r.spawn_snd program arguments mode
  have hevents := (r.spawn_stretch program arguments mode).events
  refine ⟨?_, ?_, by rw [hafter]; simp [Script.start]⟩
  · rw [spawn_fst]
    unfold spawnResult Script.start
    cases r.script.crashes program with
    | true => rfl
    | false => cases mode <;> rfl
  · show spawns (r.spawn program arguments mode).2.events.toList = _
    rw [hevents, spawns_append]
    unfold spawnResult Script.start
    split <;> rfl

theorem Faultless.closePlan_eq (hf : r.Faultless) (earlier : Nat) (id : StreamId) :
    r.closePlan earlier id = false := by
  cases hfaults : r.faults with
  | none => simp [closePlan, hfaults]
  | some faults =>
    obtain ⟨-, hclose, -⟩ := hf faults hfaults
    simp [closePlan, hfaults, hclose]

/-- A stream that is owed to be closed can be closed. -/
theorem closeStream_ok {owed owed' : List StreamId} {id : StreamId} (hr : r.Owes owed)
    (howed : owed.Perm (id :: owed')) (hf : r.Faultless) : (r.closeStream id).1 = .ok () := by
  rcases r.closeStream_cases id with ⟨-, -, hplan | hclosed⟩ | ⟨hresult, -⟩
  · exact absurd ((hf.closePlan_eq 0 id).symm.trans hplan) Bool.false_ne_true
  · exact absurd (hr.mem_openStreams (howed.mem_iff.2 (List.mem_cons_self ..))) hclosed
  · exact hresult

theorem releaseAll_ok {owed owed' ids : List StreamId} (hr : r.Owes owed)
    (howed : owed = ids ++ owed') (hf : r.Faultless) : (r.perform (releaseAll ids)).1 = .ok () := by
  subst howed
  induction ids generalizing r with
  | nil => rfl
  | cons id ids ih =>
    have hfirst : Duty r (id :: ids ++ owed') _ (r.closeStream id).2 (ids ++ owed') :=
      .closeStream hr (.refl _)
    rw [perform_releaseAll_cons]
    dsimp only
    rw [closeStream_ok hr (.refl _) hf]
    exact ih (hfirst.faultless hf) (hfirst.owes hr)

theorem createPipes_ok (opened : List (StreamId × StreamId)) (count : Nat) (hf : r.Faultless) :
    ∃ pipes r₁, r.perform (createPipes opened count) = (.ok pipes, r₁) ∧
      pipes.length = opened.length + count ∧ Silent r r₁ := by
  induction count generalizing r opened with
  | zero => exact ⟨opened, r, rfl, rfl, rfl, rfl⟩
  | succ count ih =>
    have hf' := r.createPipe_stretch.faultless hf
    have hsilent := Silent.createPipe r
    rw [perform_createPipes_succ]
    rcases r.createPipe_cases with ⟨-, -, -, hfaulty⟩ | ⟨hresult, -⟩
    · exact absurd hf hfaulty
    · generalize r.createPipe = created at hresult hf' hsilent ⊢
      rcases created with ⟨_ | pipe, r₁⟩
      · cases hresult
      · obtain ⟨pipes, r₂, hrest, hlength, hsilent'⟩ := ih (opened ++ [pipe]) hf'
        refine ⟨pipes, r₂, hrest, ?_, hsilent.trans hsilent'⟩
        rw [hlength, List.length_append, List.length_singleton]
        omega

theorem writeOutput_ok (hf : r.Faultless) (text : String) : (r.writeOutput text).1 = .ok () := by
  unfold writeOutput
  dsimp only
  split
  · rename_i hfails
    obtain ⟨faults, hfaults, hwrite⟩ := (Option.any_eq_true _ _).1 hfails
    exact absurd (((hf faults hfaults).2.2 _).symm.trans hwrite) Bool.false_ne_true
  · rfl

theorem writeAny_ok (hf : r.Faultless) (text : Option String) : (r.writeAny text).1 = .ok () := by
  cases text with
  | none => rfl
  | some text => exact writeOutput_ok hf text

theorem respond_agrees (hf : r.Faultless) (answer : Builtin.Answer) :
    Agrees r (r.respond answer) { result := .ok answer.outcome } := by
  have hwritten := writeAny_ok ((Stretch.tell r answer.notice).faultless hf) answer.text
  have hsilent : Silent (r.tell answer.notice)
      ((r.tell answer.notice).writeAny answer.text).2 := by
    cases answer.text with
    | none => exact ⟨rfl, rfl⟩
    | some text => exact .writeOutput _ text
  unfold respond
  generalize (r.tell answer.notice).writeAny answer.text = written at hwritten hsilent ⊢
  rcases written with ⟨_ | _, r₁⟩ <;> cases hwritten
  exact .of_silent ((Silent.tell r answer.notice).trans hsilent) rfl rfl rfl

/-- A subshell's programs are started, and only its outcome is remembered. -/
theorem resume_agrees {ran : Except ExecError Outcome × Recorder} {body : Evaluation}
    (h : Agrees r.inside ran body) (hforgets : body.remembered = []) :
    Agrees r (.ok (.completed 0), r.resume ran.1 ran.2) body.enclosed where
  result_eq := rfl
  spawns_eq := by
    have htold := Silent.tell ran.2 (subshellNotice ran.1)
    have hbegun : spawns r.inside.events.toList = spawns r.events.toList := by
      simp [inside, record, spawns, Event.spawns]
    show spawns (Array.push _ (Event.subshellEnded _)).toList = _
    rw [Array.toList_push, spawns_append, htold.spawns_eq, h.spawns_eq, hbegun]
    exact List.append_nil _
  subshells_eq := by
    have htold := Silent.tell ran.2 (subshellNotice ran.1)
    show (ran.2.tell (subshellNotice ran.1)).subshells ++ [settled ran.1] = _
    rw [htold.subshells_eq, h.subshells_eq, hforgets, List.append_nil, h.result_eq]
    rfl

/-- At the end of a pipeline the outcomes that it has added are looked at and forgotten. -/
theorem conclude_agrees {r' : Recorder} {result : Except ExecError Outcome}
    {stages : Evaluation} (h : Agrees r (result, r') stages) :
    Agrees r (concluded result (.ok ()) (r'.collectSubshells r.subshells.length).1,
      (r'.collectSubshells r.subshells.length).2) stages.concluded where
  result_eq := by
    have hresult := h.result_eq
    have hsubshells := h.subshells_eq
    dsimp only at hresult hsubshells
    show concluded result (.ok ()) (firstExit (r'.subshells.drop r.subshells.length)) = _
    rw [hresult, hsubshells, List.drop_left, Evaluation.concluded]
    cases stages.result <;> rfl
  spawns_eq := by
    rw [(r'.collectSubshells_stretch r.subshells.length).events, spawns_append]
    exact (List.append_nil _).trans h.spawns_eq
  subshells_eq := by
    have hsubshells := h.subshells_eq
    show r'.subshells.take r.subshells.length = r.subshells ++ []
    rw [hsubshells, List.take_left, List.append_nil]

end Recorder

/-! ## Stages -/

/-- What stages come to, one after the other; the last one is waited for. -/
def evaluateStages (script : Script) : List Command → Evaluation
  | [] => { result := .ok (.completed 0) }
  | [last] => last.evaluate script .foreground
  | stage :: next :: rest =>
    (stage.evaluate script .background).andThen fun _ => evaluateStages script (next :: rest)

theorem evaluateStages_cons (script : Script) (stage : Command) {rest : List Command}
    (h : rest ≠ []) :
    evaluateStages script (stage :: rest)
      = (stage.evaluate script .background).andThen fun _ => evaluateStages script rest := by
  cases rest with
  | nil => exact absurd rfl h
  | cons next rest => rfl

/-- In the last place of a pipeline a command stands for its stages. -/
theorem Command.evaluate_lastStage (script : Script) :
    ∀ command : Command,
      command.evaluate script .lastStage = evaluateStages script command.pipelineStages
  | .executable .. | .builtin _ | .sequential _ | .redirection .. => rfl
  | .binary .conjunction _ _ | .binary .disjunction _ _ => rfl
  | .binary .pipe primary secondary => by
    rw [evaluate_pipeline, pipelineStages,
      evaluateStages_cons script primary secondary.pipelineStages_ne_nil,
      ← Command.evaluate_lastStage script secondary]
    rfl

theorem Command.evaluate_pipe (script : Script) (primary secondary : Command) :
    (Command.binary .pipe primary secondary).evaluate script .foreground
      = (evaluateStages script
        (Command.binary .pipe primary secondary).pipelineStages).concluded := by
  rw [← evaluate_lastStage, evaluate_pipeline, evaluate_pipeline]
  rfl

theorem Command.evaluate_background (script : Script) {command : Command}
    (h : command.isComposite = true) :
    command.evaluate script .background = (command.evaluate script .foreground).enclosed := by
  cases command with
  | executable => simp [Command.isComposite] at h
  | builtin => simp [Command.isComposite] at h
  | sequential commands => rfl
  | binary connective => cases connective <;> rfl
  | redirection => simp [Command.isComposite] at h

theorem Command.evaluate_conditional (script : Script) {connective : Connective}
    (h : connective ≠ .pipe) (primary secondary : Command) (standing : Standing) :
    (Command.binary connective primary secondary).evaluate script standing
      = standing.composite ((primary.evaluate script .foreground).andThen fun code =>
        if Recorder.continues connective code then secondary.evaluate script .foreground
        else { result := .ok (.completed code) }) := by
  cases connective with
  | conjunction => simp [evaluate_conjunction, Recorder.continues]
  | disjunction => simp [evaluate_disjunction, Recorder.continues]
  | pipe => exact absurd rfl h

theorem Evaluation.andThen_remembered {first : Evaluation} {next : Int → Evaluation}
    (h : first.remembered = []) (hnext : ∀ code, (next code).remembered = []) :
    (first.andThen next).remembered = [] := by
  unfold andThen
  split
  · rw [h, hnext]
    rfl
  · exact h

/-- A command that is waited for leaves no subshell to be remembered. -/
theorem Command.evaluate_foreground_remembered (script : Script) (command : Command) :
    (command.evaluate script .foreground).remembered = [] := by
  induction command using Command.stages_induction with
  | executable program arguments => rfl
  | builtin action => rfl
  | sequential commands ih =>
    show (evaluateInOrder script commands).remembered = []
    induction commands with
    | nil => rfl
    | cons first rest ih' =>
      cases rest with
      | nil => exact ih first (List.mem_cons_self ..)
      | cons second rest =>
        exact Evaluation.andThen_remembered (ih first (List.mem_cons_self ..)) fun _ =>
          ih' fun command hmem => ih command (List.mem_cons_of_mem _ hmem)
  | conditional connective primary secondary hconnective hprimary hsecondary =>
    rw [evaluate_conditional script hconnective]
    refine Evaluation.andThen_remembered hprimary fun code => ?_
    split
    · exact hsecondary
    · rfl
  | pipeline primary secondary ih => rfl
  | redirection redirect primary path ih =>
    rw [evaluate_redirection]
    split
    · rfl
    · exact ih

/-! ## Commands -/

/-- Running the command in the mode agrees with its evaluation. -/
def Command.Follows (command : Command) (mode : WaitMode) : Prop :=
  ∀ r : Recorder, r.Faultless →
    Agrees r (r.execute command mode) (command.evaluate r.script (.ofMode mode))

section Stages

variable {inherited : Inherited} {incoming : Option StreamId} {pipes : List (StreamId × StreamId)}
  {stages : List Command} {r r' : Recorder}

theorem Recorder.stage_agrees {stage : Command} {mode : WaitMode}
    {result : Except ExecError Outcome} {r₁ : Recorder} (hstage : stage.Follows mode)
    (hf : r.Faultless)
    (h : (r.stageStart inherited incoming pipes).perform (stage.execute mode) = (result, r₁)) :
    Agrees r (result, r₁) (stage.evaluate r.script (.ofMode mode)) := by
  have hran := hstage (r.stageStart inherited incoming pipes) hf
  rw [execute, h] at hran
  exact hran.before (.setStreams r _ _)

/-- The stages stop at one that has not completed, be it the last one or not. -/
theorem Agrees.stages_stopped {stage : Command} {ran : Except ExecError Outcome × Recorder}
    {script : Script} (hlength : stages.length = pipes.length)
    (h : Agrees r ran (stage.evaluate script (.ofMode (Recorder.stageMode pipes))))
    (hstops : ∀ code, ran.1 ≠ .ok (.completed code)) :
    Agrees r ran (evaluateStages script (stage :: stages)) := by
  cases pipes with
  | nil =>
    rw [List.length_nil, List.length_eq_zero_iff] at hlength
    subst hlength
    exact h
  | cons pipe pipes =>
    have hmore : stages ≠ [] := List.ne_nil_of_length_eq_add_one hlength
    rw [evaluateStages_cons script stage hmore]
    exact h.stopped hstops

/-- Between the stages of a pipeline streams are closed, which goes well, and nothing else. -/
theorem Recorder.StagesRun.agrees {result : Except ExecError Outcome} {leftover : List StreamId}
    (h : StagesRun inherited incoming (stages.map (Command.execute (m := RecorderM))) pipes r result
      leftover r')
    (hstages : ∀ stage ∈ stages, ∀ mode, stage.Follows mode)
    (hlength : stages.length = pipes.length + 1) (hr : r.Owes (incoming.toList ++ pipeEnds pipes))
    (hf : r.Faultless) : Agrees r (result, r') (evaluateStages r.script stages) := by
  generalize hactions : stages.map (Command.execute (m := RecorderM)) = actions at h
  induction h generalizing stages with
  | none =>
    rw [List.map_eq_nil_iff] at hactions
    subst hactions
    cases hlength
  | failed hstage =>
    obtain ⟨stage, rest, rfl, rfl, rfl⟩ := List.map_eq_cons_iff.1 hactions
    have hran := stage_agrees (hstages stage (List.mem_cons_self ..) _) hf hstage
    exact hran.stages_stopped (Nat.succ.inj hlength) nofun
  | incomingKept hstage hincoming =>
    obtain ⟨stage, rest, rfl, rfl, rfl⟩ := List.map_eq_cons_iff.1 hactions
    obtain ⟨_, hduty⟩ := Duty.stage (stage.cleansUp _) hstage
    have hreleased := releaseAll_ok (hduty.owes hr) rfl (hduty.faultless hf)
    rw [hincoming] at hreleased
    cases hreleased
  | last hstage hincoming =>
    obtain ⟨stage, rest, rfl, rfl, rfl⟩ := List.map_eq_cons_iff.1 hactions
    have hran := stage_agrees (hstages stage (List.mem_cons_self ..) _) hf hstage
    obtain rfl : rest = [] := List.length_eq_zero_iff.1 (Nat.succ.inj hlength)
    exact hran.after (.of_releaseAll hincoming)
  | outgoingKept hstage hincoming houtgoing =>
    obtain ⟨stage, rest, rfl, rfl, rfl⟩ := List.map_eq_cons_iff.1 hactions
    obtain ⟨_, hduty⟩ := Duty.incomingClosed (stage.cleansUp _) hr hstage hincoming
    have hclosed := closeStream_ok (hduty.owes hr) (.swap _ _ _) (hduty.faultless hf)
    rw [houtgoing] at hclosed
    cases hclosed
  | exited hstage hincoming houtgoing =>
    obtain ⟨stage, rest, rfl, rfl, rfl⟩ := List.map_eq_cons_iff.1 hactions
    have hran := stage_agrees (hstages stage (List.mem_cons_self ..) _) hf hstage
    have hclosed := (Silent.of_releaseAll hincoming).trans (.of_closeStream houtgoing)
    exact (hran.after hclosed).stages_stopped (Nat.succ.inj hlength) nofun
  | next hstage hincoming houtgoing _ ih =>
    obtain ⟨stage, rest, rfl, rfl, rfl⟩ := List.map_eq_cons_iff.1 hactions
    have hran := stage_agrees (hstages stage (List.mem_cons_self ..) _) hf hstage
    have hclosed := (Silent.of_releaseAll hincoming).trans (.of_closeStream houtgoing)
    obtain ⟨_, hduty⟩ := Duty.outgoingClosed (stage.cleansUp _) hr hstage hincoming houtgoing
    have hrest := ih (fun stage hmem => hstages stage (List.mem_cons_of_mem _ hmem))
      (Nat.succ.inj hlength) (hduty.owes hr) (hduty.faultless hf) rfl
    rw [hduty.script] at hrest
    have hmore : rest ≠ [] := List.ne_nil_of_length_eq_add_one (Nat.succ.inj hlength)
    rw [evaluateStages_cons _ stage hmore]
    exact (hran.after hclosed).andThen hrest

end Stages

namespace Command.Follows

theorem pipeline {primary secondary : Command}
    (h : ∀ stage ∈ (Command.binary .pipe primary secondary).pipelineStages, ∀ mode,
      stage.Follows mode) : (Command.binary .pipe primary secondary).Follows .wait := by
  intro r hf
  have hnonempty := (Command.binary .pipe primary secondary).pipelineStages_ne_nil
  rw [Standing.ofMode, evaluate_pipe, Recorder.execute_pipe, Recorder.perform_runPipeline,
    List.length_map]
  generalize (Command.binary .pipe primary secondary).pipelineStages = stages at h hnonempty ⊢
  obtain ⟨_, hduty⟩ := Duty.createPipes [] (stages.length - 1) r.owes_nil
  obtain ⟨pipes, r₁, hpipes, hlength, hsilent⟩ :=
    Recorder.createPipes_ok [] (stages.length - 1) hf
  rw [hpipes] at hduty
  rw [hpipes]
  dsimp only at hduty ⊢
  have howes := hduty.owes r.owes_nil
  have hstages : stages.length = pipes.length + 1 := by
    have hpos := List.length_pos_iff.2 hnonempty
    rw [hlength, List.length_nil]
    omega
  have hrun := Recorder.stagesRun_runStages ⟨r₁.input, r₁.output⟩
    (stages.map (Command.execute (m := RecorderM))) none pipes r₁
  have hagrees := hrun.agrees h hstages howes (hduty.faultless hf)
  obtain ⟨_, hstaged⟩ :=
    hrun.duty (List.forall_mem_map.2 fun stage _ => stage.cleansUp) howes
  generalize (runStages (m := RecorderM) ⟨r₁.input, r₁.output⟩ none
    (stages.map Command.execute) pipes).run r₁ = staged at hagrees hstaged ⊢
  have hrestored := hstaged.trans (.setStreams staged.2 r₁.input r₁.output)
  have hreleased := Recorder.releaseAll_ok (hrestored.owes howes) (List.append_nil _).symm
    (hrestored.faultless (hduty.faultless hf))
  have hclosed := (Silent.setStreams staged.2 r₁.input r₁.output).trans
    (.releaseAll _ staged.1.2)
  rw [hreleased]
  rw [hduty.script] at hagrees
  exact (Recorder.conclude_agrees (hagrees.after hclosed)).before hsilent

theorem redirection {redirect : Redirect} {primary : Command} {path : String} {mode : WaitMode}
    (h : primary.Follows mode) : (Command.redirection redirect primary path).Follows mode := by
  intro r hf
  have hsilent := Silent.openFile r redirect path
  rw [Recorder.execute_redirection, evaluate_redirection]
  rcases r.openFile_cases redirect path with
    ⟨hresult, -, -, hmissing⟩ | ⟨hresult, -, -, hfound⟩
  · rw [if_pos hmissing]
    generalize r.openFile redirect path = opened at hresult hsilent ⊢
    rcases opened with ⟨e | _, r₁⟩ <;> cases hresult
    exact .of_silent hsilent rfl rfl rfl
  · rw [if_neg (by rw [hfound]; exact Bool.false_ne_true)]
    have hopened : Duty r [] _ _ [⟨r.nextId⟩] := Duty.openFile hresult
    generalize r.openFile redirect path = opened at hresult hsilent hopened ⊢
    rcases opened with ⟨_ | stream, r₁⟩ <;> cases hresult
    have hstarted := hopened.trans (.activate r₁ redirect (some ⟨r.nextId⟩))
    have howes := hstarted.owes r.owes_nil
    have hf' := hstarted.faultless hf
    have hagrees := h _ hf'
    obtain ⟨_, hran⟩ := primary.cleansUp mode (r₁.activate redirect (some ⟨r.nextId⟩))
    change Tidy _ _ (Recorder.execute _ primary mode).2 at hran
    rw [hstarted.script] at hagrees
    dsimp only at hagrees hran ⊢
    generalize (r₁.activate redirect (some ⟨r.nextId⟩)).execute primary mode = ran
      at hagrees hran ⊢
    have hrestored := (hran.toDuty.frame [⟨r.nextId⟩]).trans
      (.activate ran.2 redirect (r₁.active redirect))
    have hclosed := Recorder.closeStream_ok (hrestored.owes howes) (.refl _)
      (hrestored.faultless hf')
    rw [hclosed]
    have hended := (Silent.activate ran.2 redirect (r₁.active redirect)).trans
      (.closeStream _ ⟨r.nextId⟩)
    have hresult : (ran.1 >>= fun outcome => Except.ok () >>= fun () => Except.ok outcome)
        = ran.1 := by
      rcases ran with ⟨_ | _, _⟩ <;> rfl
    rw [hresult]
    have hstanding : (Standing.ofMode mode).redirected = .ofMode mode := by cases mode <;> rfl
    rw [hstanding]
    exact (hagrees.after hended).before (hsilent.trans (.activate r₁ redirect _))

theorem of_wait {command : Command} (hcomposite : command.isComposite = true)
    (hwait : command.Follows .wait) (mode : WaitMode) : command.Follows mode := by
  cases mode with
  | wait => exact hwait
  | background =>
    intro r _
    have hbody := hwait r.inside nofun
    rw [Recorder.execute_background r hcomposite]
    rw [Standing.ofMode, evaluate_background r.script hcomposite]
    exact Recorder.resume_agrees hbody (command.evaluate_foreground_remembered r.script)

theorem sequential {commands : List Command} (h : ∀ command ∈ commands, command.Follows .wait) :
    (Command.sequential commands).Follows .wait := by
  induction commands with
  | nil =>
    intro r _
    exact .of_silent ⟨rfl, rfl⟩ rfl rfl rfl
  | cons first rest ih =>
    intro r hf
    have hfirst := h first (List.mem_cons_self ..) r hf
    cases rest with
    | nil => exact hfirst
    | cons second rest =>
      obtain ⟨_, hran⟩ := first.cleansUp .wait r
      change Tidy _ _ (r.execute first .wait).2 at hran
      have hrest := ih fun command hmem => h command (List.mem_cons_of_mem _ hmem)
      show Agrees r _ ((first.evaluate r.script .foreground).andThen fun _ =>
        (Command.sequential (second :: rest)).evaluate r.script .foreground)
      rw [Recorder.execute_sequential_cons_cons]
      generalize r.execute first .wait = ran at hfirst hran ⊢
      rcases ran with ⟨e | code | code, r₁⟩
      · exact hfirst.stopped nofun
      · have hagrees := hrest r₁ (hran.faultless hf)
        rw [hran.script] at hagrees
        exact hfirst.andThen hagrees
      · exact hfirst.stopped nofun

theorem conditional {connective : Connective} {primary secondary : Command}
    (hconnective : connective ≠ .pipe) (hprimary : primary.Follows .wait)
    (hsecondary : secondary.Follows .wait) :
    (Command.binary connective primary secondary).Follows .wait := by
  intro r hf
  have hfirst := hprimary r hf
  obtain ⟨_, hran⟩ := primary.cleansUp .wait r
  change Tidy _ _ (r.execute primary .wait).2 at hran
  rw [Recorder.execute_conditional r hconnective, evaluate_conditional r.script hconnective]
  generalize r.execute primary .wait = ran at hfirst hran ⊢
  rcases ran with ⟨e | code | code, r₁⟩
  · exact hfirst.stopped nofun
  · refine hfirst.andThen ?_
    dsimp only
    split
    · have hagrees := hsecondary r₁ (hran.faultless hf)
      rwa [hran.script] at hagrees
    · exact .of_silent ⟨rfl, rfl⟩ rfl rfl rfl
  · exact hfirst.stopped nofun

end Command.Follows

/-- Running a command agrees with its evaluation, in each mode. -/
theorem Command.follows (command : Command) : ∀ mode, command.Follows mode := by
  induction command using Command.stages_induction with
  | executable program arguments =>
    intro mode r _
    rw [Recorder.execute_executable, evaluate_executable]
    have hmode : (Standing.ofMode mode).mode = mode := by cases mode <;> rfl
    rw [hmode]
    exact r.spawn_agrees program arguments mode
  | builtin action =>
    intro mode r hf
    rw [Recorder.execute_builtin, evaluate_builtin]
    exact Recorder.respond_agrees hf _
  | sequential commands ih =>
    exact .of_wait rfl (.sequential fun command hmem => ih command hmem .wait)
  | conditional connective primary secondary hconnective hprimary hsecondary =>
    exact .of_wait rfl (.conditional hconnective (hprimary .wait) (hsecondary .wait))
  | pipeline primary secondary ih => exact .of_wait rfl (.pipeline ih)
  | redirection redirect primary path ih => exact fun mode => .redirection (ih mode)

/-- As long as no call is made to fail, a command comes to the result, and starts the programs and
leaves the subshells to be collected, that the evaluator without streams says. -/
theorem Recorder.execute_eq_evaluate (r : Recorder) (command : Command) (mode : WaitMode)
    (hf : r.Faultless) :
    let ran := r.execute command mode
    let evaluation := command.evaluate r.script (.ofMode mode)
    ran.1 = evaluation.result ∧
      spawns ran.2.events.toList = spawns r.events.toList ++ evaluation.spawned ∧
      ran.2.subshells = r.subshells ++ evaluation.remembered := by
  obtain ⟨hresult, hspawns, hsubshells⟩ := command.follows mode r hf
  exact ⟨hresult, hspawns, hsubshells⟩

/-- An `exit` in a stage that is a subshell is remembered until the pipeline ends. -/
theorem execute_eq_evaluate_exit :
    let r := Recorder.fresh .plain
    let command := Command.binary .pipe (.sequential [.builtin (.exit [])]) (.executable "cat" [])
    let evaluation := command.evaluate r.script (.ofMode .wait)
    r.Faultless ∧ (r.execute command .wait).1 = evaluation.result ∧
      evaluation.result = .ok (.terminate 0) ∧ evaluation.spawned = [⟨"cat", [], .wait⟩] := by
  intro r command evaluation
  have hf : r.Faultless := nofun
  exact ⟨hf, (r.execute_eq_evaluate command .wait hf).1, rfl, rfl⟩

end CommandShell
