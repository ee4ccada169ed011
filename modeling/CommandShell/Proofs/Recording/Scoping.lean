import CommandShell.Proofs.Recording.Cleanup
import CommandShell.Proofs.Recording.Replay
set_option autoImplicit false

/-!
# Streams are lexically scoped

Which streams a program, a subshell or a builtin finds active can be told from the constructs around
it in the command: of those that have a stream for the direction, the innermost one gives it.
A recorder has no such constructs; it has two active streams that redirections and pipelines replace
and restore.  That the two come to the same is said by a relation between commands and stories that
knows the constructs around each part of a command and no active streams.

The active streams are also fit for their use: they are open whenever something gets them, and those
that were opened on the way were opened for their direction.
-/

namespace CommandShell

/-! ## Constructs around a part of a command -/

/-- A construct around a part of a command, with the streams that it has for it. -/
inductive Surrounding where
  | redirection (redirect : Redirect) (stream : StreamId)
  /-- A stage of a pipeline, with the read end of the pipe before it and the write end of the pipe
  behind it, where there are such. -/
  | stage (incoming outgoing : Option StreamId)
  | subshell

/-- What a construct makes the active stream, if it has a say in the direction. -/
def Surrounding.gives (mode : StreamMode) : Surrounding → Option (Option StreamId)
  | redirection redirect stream =>
    if Interpreter.modeOf redirect = mode then some (some stream) else none
  | stage incoming outgoing =>
    match mode with
    | .input => incoming.map some
    | .output => outgoing.map some
  | subshell => some none

/-- What the innermost construct with a say makes the active stream.  The constructs are listed from
the inside to the outside, and around them is the start of the run. -/
def innermost (start : StreamMode → Option StreamId) (around : List Surrounding)
    (mode : StreamMode) : Option StreamId :=
  (around.findSome? (Surrounding.gives mode)).getD (start mode)

/-- What is run: a command, or the stages of a pipeline from some stage on, with the read end before
that one and the pipes behind each of them but the last. -/
inductive Portion where
  | command (command : Command) (mode : WaitMode)
  | stages (incoming : Option StreamId) (stages : List Command)
      (pipes : List (StreamId × StreamId))

/-- The stories that there can be when every program, subshell and builtin gets the streams of the
innermost construct around it.  Whether a command goes on after a part of it is left open here. -/
inductive Scoped (start : StreamMode → Option StreamId) :
    List Surrounding → Portion → List Event → Prop where
  | program {around program arguments mode} {result : Except ExecError Int} :
    Scoped start around (.command (.executable program arguments) mode)
      (.spawn program arguments mode (innermost start around .input)
        (innermost start around .output) :: Recorder.failure result)
  | silent {around action mode} : Scoped start around (.command (.builtin action) mode) []
  | builtin {around action mode text} {result : Except ExecError Unit} :
    Scoped start around (.command (.builtin action) mode)
      [outcomeEvent (fun _ => .wrote (innermost start around .output) text) result]
  | subshell {around command story outcome} :
    command.isComposite = true →
    Scoped start (.subshell :: around) (.command command .wait) story →
    Scoped start around (.command command .background)
      (.subshell (innermost start around .input) (innermost start around .output) :: story
        ++ [.subshellEnded outcome])
  | sequenceEnded {around commands} :
    Scoped start around (.command (.sequential commands) .wait) []
  | sequence {around first rest story story'} :
    Scoped start around (.command first .wait) story →
    Scoped start around (.command (.sequential rest) .wait) story' →
    Scoped start around (.command (.sequential (first :: rest)) .wait) (story ++ story')
  | primary {around connective primary secondary story} :
    connective ≠ .pipe →
    Scoped start around (.command primary .wait) story →
    Scoped start around (.command (.binary connective primary secondary) .wait) story
  | secondary {around connective primary secondary story story'} :
    connective ≠ .pipe →
    Scoped start around (.command primary .wait) story →
    Scoped start around (.command secondary .wait) story' →
    Scoped start around (.command (.binary connective primary secondary) .wait) (story ++ story')
  | unopened {around redirect primary path mode e} :
    Scoped start around (.command (.redirection redirect primary path) mode) [.failed e]
  | redirection {around redirect primary path mode stream story} {result : Except ExecError Unit} :
    Scoped start (.redirection redirect stream :: around) (.command primary mode) story →
    Scoped start around (.command (.redirection redirect primary path) mode)
      (.opened redirect path stream :: story ++ [outcomeEvent (fun _ => .close stream) result])
  | unpiped {around primary secondary pipes e closing} :
    Cleanup closing →
    Scoped start around (.command (.binary .pipe primary secondary) .wait)
      (openings pipes ++ .failed e :: closing)
  | pipeline {around primary secondary pipes story closing} :
    pipes.length + 1 = (Command.binary .pipe primary secondary).pipelineStages.length →
    Scoped start around
      (.stages none (Command.binary .pipe primary secondary).pipelineStages pipes) story →
    Cleanup closing →
    Scoped start around (.command (.binary .pipe primary secondary) .wait)
      (openings pipes ++ story ++ closing)
  | noStage {around incoming pipes} : Scoped start around (.stages incoming [] pipes) []
  | stage {around incoming stage stages pipes story closing} :
    Scoped start (.stage incoming (pipes.head?.map Prod.snd) :: around)
      (.command stage (Recorder.stageMode pipes)) story →
    Cleanup closing →
    Scoped start around (.stages incoming (stage :: stages) pipes) (story ++ closing)
  | stages {around incoming stage stages read write pipes story closing story'} :
    Scoped start (.stage incoming (some write) :: around) (.command stage .background) story →
    Cleanup closing →
    Scoped start around (.stages (some read) stages pipes) story' →
    Scoped start around (.stages incoming (stage :: stages) ((read, write) :: pipes))
      (story ++ closing ++ story')

/-! ## Directions -/

theorem innermost_redirection {start : StreamMode → Option StreamId} {around : List Surrounding}
    {redirect : Redirect} {stream : StreamId} (mode : StreamMode) :
    innermost start (.redirection redirect stream :: around) mode
      = if Interpreter.modeOf redirect = mode then some stream
        else innermost start around mode := by
  unfold innermost
  rw [List.findSome?_cons]
  by_cases hmode : Interpreter.modeOf redirect = mode <;> simp [Surrounding.gives, hmode]

theorem innermost_subshell {start : StreamMode → Option StreamId} {around : List Surrounding}
    (mode : StreamMode) : innermost start (.subshell :: around) mode = none := rfl

theorem innermost_stage {start : StreamMode → Option StreamId} {around : List Surrounding}
    {incoming outgoing : Option StreamId} :
    innermost start (.stage incoming outgoing :: around) .input
        = (incoming <|> innermost start around .input) ∧
      innermost start (.stage incoming outgoing :: around) .output
        = (outgoing <|> innermost start around .output) := by
  constructor
  · cases incoming <;> rfl
  · cases outgoing <;> rfl

/-- The streams that the constructs around a portion and the portion itself bring with them. -/
def Portion.Brings (start : StreamMode → Option StreamId) (around : List Surrounding)
    (mode : StreamMode) (id : StreamId) : Portion → Prop
  | command .. => innermost start around mode = some id
  | stages incoming _ pipes =>
    innermost start around mode = some id ∨ (mode = .input ∧ incoming = some id) ∨
      id ∈ opensFor mode (openings pipes)

theorem Portion.brings_of_stage {start : StreamMode → Option StreamId}
    {around : List Surrounding} {incoming : Option StreamId} (stages : List Command)
    (pipes : List (StreamId × StreamId)) {mode : StreamMode} {id : StreamId}
    (h : innermost start (.stage incoming (pipes.head?.map Prod.snd) :: around) mode = some id) :
    (Portion.stages incoming stages pipes).Brings start around mode id := by
  cases mode with
  | input =>
    rw [innermost_stage.1] at h
    cases incoming with
    | none => exact Or.inl h
    | some read => exact Or.inr (Or.inl ⟨rfl, h⟩)
  | output =>
    rw [innermost_stage.2] at h
    cases pipes with
    | nil => exact Or.inl h
    | cons pipe pipes =>
      cases h
      exact Or.inr (Or.inr (List.mem_cons_self ..))

/-- Scoped streams have been opened for their direction. -/
theorem Scoped.fed {start : StreamMode → Option StreamId} {around : List Surrounding}
    {portion : Portion} {story : List Event} (h : Scoped start around portion story) :
    Fed (fun mode id => portion.Brings start around mode id) story := by
  induction h with
  | program =>
    refine .cons (fun mode id hstream => ?_)
      (.of_forall fun _ hmem mode => Recorder.failure_stream_eq_none hmem mode)
    cases mode <;> exact hstream
  | silent => exact .nil
  | builtin =>
    refine .cons (fun mode id hstream => ?_) .nil
    obtain ⟨rfl, houtput⟩ := eq_of_stream_wrote hstream
    exact houtput
  | subshell hcomposite _ ih =>
    refine Fed.append_of_forall (.cons (fun mode id hstream => ?_) ?_) ?_
    · cases mode <;> exact hstream
    · refine ih.mono fun mode id hbrings => ?_
      rw [Portion.Brings, innermost_subshell] at hbrings
      cases hbrings
    · exact List.forall_mem_singleton.2 fun mode => by cases mode <;> rfl
  | sequenceEnded => exact .nil
  | sequence _ _ ih ih' => exact ih.append (ih'.mono fun mode id => Or.inr)
  | primary _ _ ih => exact ih
  | secondary _ _ _ ih ih' => exact ih.append (ih'.mono fun mode id => Or.inr)
  | unopened => exact .of_forall (List.forall_mem_singleton.2 fun mode => by cases mode <;> rfl)
  | @redirection _ redirect _ _ _ stream _ result _ ih =>
    refine Fed.append_of_forall (.cons (fun mode id hstream => ?_) ?_) ?_
    · cases mode <;> cases hstream
    · refine ih.mono fun mode id hbrings => ?_
      rw [Portion.Brings, innermost_redirection] at hbrings
      by_cases hmode : Interpreter.modeOf redirect = mode
      · rw [if_pos hmode] at hbrings
        cases hbrings
        exact Or.inl (by simp [Event.opensFor, hmode])
      · rw [if_neg hmode] at hbrings
        exact Or.inr hbrings
    · refine List.forall_mem_singleton.2 fun mode => ?_
      cases result <;> cases mode <;> rfl
  | unpiped hclosing =>
    refine .of_forall fun event hmem mode => ?_
    rcases List.mem_append.1 hmem with hopening | hmem
    · exact openings_stream_eq_none hopening mode
    · rcases List.mem_cons.1 hmem with rfl | hmem
      · cases mode <;> rfl
      · exact hclosing.stream_eq_none hmem mode
  | pipeline _ _ hclosing ih =>
    refine Fed.append_of_forall ?_ fun _ hmem mode => hclosing.stream_eq_none hmem mode
    refine Fed.append (.of_forall fun _ hmem mode => openings_stream_eq_none hmem mode) ?_
    refine ih.mono fun mode id hbrings => ?_
    rcases hbrings with hstart | ⟨-, hnone⟩ | hopened
    · exact Or.inr hstart
    · cases hnone
    · exact Or.inl hopened
  | noStage => exact .nil
  | stage _ hclosing ih =>
    refine Fed.append_of_forall ?_ fun _ hmem mode => hclosing.stream_eq_none hmem mode
    exact ih.mono fun mode id hbrings => Portion.brings_of_stage _ _ hbrings
  | @stages _ _ _ stages read write pipes _ _ _ _ hclosing _ ih ih' =>
    refine Fed.append ?_ (ih'.mono fun mode id hbrings => Or.inr ?_)
    · refine Fed.append_of_forall ?_ fun _ hmem mode => hclosing.stream_eq_none hmem mode
      exact ih.mono fun mode id hbrings =>
        Portion.brings_of_stage _ ((read, write) :: pipes) hbrings
    · rcases hbrings with hstart | ⟨rfl, ⟨⟩⟩ | hopened
      · exact Or.inl hstart
      · exact Or.inr (Or.inr (List.mem_cons_self ..))
      · exact Or.inr (Or.inr (List.mem_append_right _ hopened))

/-! ## Commands -/

/-- The active streams are open and are those of the innermost constructs. -/
structure Recorder.Stands (r : Recorder) (start : StreamMode → Option StreamId)
    (around : List Surrounding) : Prop where
  stream_eq : ∀ mode, r.stream mode = innermost start around mode
  isLive : r.IsLive

section Stands

variable {start : StreamMode → Option StreamId} {around : List Surrounding} {r r₁ : Recorder}
  {story : List Event}

theorem Recorder.Stands.inside (r : Recorder) : r.inside.Stands start (.subshell :: around) where
  stream_eq mode := by cases mode <;> rfl
  isLive mode id h := by cases mode <;> cases h

/-- A command that cleans up leaves the active streams as they are. -/
theorem Recorder.Stands.next (hr : r.Stands start around) (h : Tidy r story r₁) :
    r₁.Stands start around := by
  have hstream : ∀ mode, r₁.stream mode = r.stream mode := by
    intro mode
    cases mode with
    | input => exact h.input_eq
    | output => exact h.output_eq
  refine ⟨fun mode => (hstream mode).trans (hr.stream_eq mode), fun mode id hactive => ?_⟩
  exact h.toDuty.mem_openStreams (hr.isLive mode id ((hstream mode).symm.trans hactive))

/-- A redirection makes its file the active stream. -/
theorem Recorder.Stands.redirection (hr : r.Stands start around) {redirect : Redirect}
    {path : String} {stream : StreamId} (h : r.openFile redirect path = (.ok stream, r₁)) :
    (r₁.activate redirect (some stream)).Stands start (.redirection redirect stream :: around) := by
  have hopened : Duty r [] [.opened redirect path stream] r₁ [stream] := by
    have hduty : Duty r [] _ (r.openFile redirect path).2 [stream] :=
      .openFile (congrArg Prod.fst h)
    rwa [h] at hduty
  obtain ⟨events, openStreams, nextId, hkept⟩ := r.openFile_snd redirect path
  rw [h] at hkept
  dsimp only at hkept
  have hstream : ∀ mode, (r₁.activate redirect (some stream)).stream mode
      = if Interpreter.modeOf redirect = mode then some stream else r.stream mode := by
    intro mode
    cases redirect <;> cases mode <;> first | rfl | (rw [hkept]; rfl)
  have hopen : (r₁.activate redirect (some stream)).openStreams = r₁.openStreams := by
    cases redirect <;> rfl
  constructor
  · intro mode
    rw [hstream, innermost_redirection, hr.stream_eq]
  · intro mode id hactive
    rw [hopen]
    rw [hstream] at hactive
    split at hactive
    · cases hactive
      exact (hopened.owes r.owes_nil).mem_openStreams (List.mem_cons_self ..)
    · exact hopened.mem_openStreams (hr.isLive mode id hactive)

end Stands

/-- Whatever comes of the command, its story is scoped and only open streams are used in it. -/
def Recorder.RunsScoped (r : Recorder) (start : StreamMode → Option StreamId)
    (around : List Surrounding) (command : Command) (mode : WaitMode) : Prop :=
  ∃ story, Replay r story (r.execute command mode).2 ∧
    Scoped start around (.command command mode) story

theorem Recorder.respond_scoped {start : StreamMode → Option StreamId} {around : List Surrounding}
    {r : Recorder} (hr : r.Stands start around) (action : Builtin) (mode : WaitMode)
    (answer : Builtin.Answer) :
    ∃ story, Replay r story (r.respond answer).2 ∧
      Scoped start around (.command (.builtin action) mode) story := by
  rw [Recorder.respond_snd]
  cases answer.text with
  | none => exact ⟨[], .tell r answer.notice, .silent⟩
  | some text =>
    have htold : (r.tell answer.notice).Stands start around := hr.next (.tell r answer.notice)
    refine ⟨_, (Replay.tell r answer.notice).trans (.writeOutput htold.isLive text), ?_⟩
    have houtput := htold.stream_eq .output
    change (r.tell answer.notice).output = _ at houtput
    rw [houtput]
    exact .builtin

section Stages

variable {start : StreamMode → Option StreamId} {around : List Surrounding} {inherited : Inherited}
  {incoming : Option StreamId} {pipes : List (StreamId × StreamId)} {stage : Command}
  {stages : List Command} {r r' : Recorder} {result : Except ExecError Outcome}
  {owed leftover : List StreamId}

/-- A pipeline has its own pipes and still has the streams that were active before it. -/
structure Recorder.Equipped (r : Recorder) (inherited : Inherited)
    (start : StreamMode → Option StreamId) (around : List Surrounding) (owed : List StreamId) :
    Prop where
  owes : r.Owes owed
  input_eq : inherited.input = innermost start around .input
  output_eq : inherited.output = innermost start around .output
  keeps : ∀ mode id, innermost start around mode = some id → r.Owes (owed ++ [id])

theorem Recorder.Equipped.next {r₁ : Recorder} {owed' : List StreamId} {story : List Event}
    (hr : r.Equipped inherited start around owed) (h : Duty r owed story r₁ owed') :
    r₁.Equipped inherited start around owed' where
  owes := h.owes hr.owes
  input_eq := hr.input_eq
  output_eq := hr.output_eq
  keeps mode id hactive := (h.frame [id]).owes (hr.keeps mode id hactive)

/-- A stage gets the ends of its pipes, and otherwise what was active before the pipeline. -/
theorem Recorder.Equipped.stands
    (hr : r.Equipped inherited start around (incoming.toList ++ pipeEnds pipes)) :
    (r.stageStart inherited incoming pipes).Stands start
      (.stage incoming (pipes.head?.map Prod.snd) :: around) := by
  have hstream : ∀ mode, (r.stageStart inherited incoming pipes).stream mode
      = innermost start (.stage incoming (pipes.head?.map Prod.snd) :: around) mode := by
    intro mode
    cases mode with
    | input => exact (congrArg (incoming <|> ·) hr.input_eq).trans innermost_stage.1.symm
    | output =>
      exact (congrArg (pipes.head?.map Prod.snd <|> ·) hr.output_eq).trans innermost_stage.2.symm
  refine ⟨hstream, fun mode id hactive => ?_⟩
  show id ∈ r.openStreams
  rw [hstream] at hactive
  rcases Portion.brings_of_stage [] pipes hactive with hinherited | ⟨-, rfl⟩ | hpipe
  · exact (hr.keeps mode id hinherited).mem_openStreams
      (List.mem_append_right _ (List.mem_cons_self ..))
  · exact hr.owes.mem_openStreams (List.mem_cons_self ..)
  · exact hr.owes.mem_openStreams (List.mem_append_right _ (mem_pipeEnds_of_mem_opensFor hpipe))

/-- A stage is scoped, and then the read end before it is closed. -/
theorem Replay.incomingClosed {mode : WaitMode} {outcome : Except ExecError Outcome}
    {released : Except ExecError Unit} {r₁ r₂ : Recorder}
    (hstage : (r.stageStart inherited incoming pipes).RunsScoped start around stage mode)
    (h : (r.stageStart inherited incoming pipes).perform (stage.execute mode) = (outcome, r₁))
    (hincoming : r₁.perform (CommandShell.releaseAll incoming.toList) = (released, r₂)) :
    ∃ story closing, Replay r (story ++ closing) r₂ ∧ Cleanup closing ∧
      Scoped start around (.command stage mode) story := by
  obtain ⟨story, hran, hscoped⟩ := hstage
  rw [Recorder.execute, h] at hran
  obtain ⟨closing, hreleased, hcleanup⟩ := Replay.releaseAll r₁ incoming.toList
  rw [hincoming] at hreleased
  have hstarted : Replay r ([] ++ story) r₁ := (Replay.setStreams r _ _).trans hran
  exact ⟨story, closing, hstarted.trans hreleased, hcleanup, hscoped⟩

/-- After that, the write end behind the stage is closed. -/
theorem Replay.outgoingClosed {mode : WaitMode} {outcome : Except ExecError Outcome}
    {released closed : Except ExecError Unit} {write : StreamId} {r₁ r₂ r₃ : Recorder}
    (hstage : (r.stageStart inherited incoming pipes).RunsScoped start around stage mode)
    (h : (r.stageStart inherited incoming pipes).perform (stage.execute mode) = (outcome, r₁))
    (hincoming : r₁.perform (CommandShell.releaseAll incoming.toList) = (released, r₂))
    (houtgoing : r₂.closeStream write = (closed, r₃)) :
    ∃ story closing, Replay r (story ++ closing) r₃ ∧ Cleanup closing ∧
      Scoped start around (.command stage mode) story := by
  obtain ⟨story, closing, hreleased, hcleanup, hscoped⟩ := incomingClosed hstage h hincoming
  have hclosed := Replay.closeStream r₂ write
  have hcleanup' := r₂.closeStream_cleanup write
  rw [houtgoing] at hclosed hcleanup'
  refine ⟨story, closing ++ _, ?_, hcleanup.append hcleanup', hscoped⟩
  rw [← List.append_assoc]
  exact hreleased.trans hclosed

/-- Each stage of a pipeline is scoped. -/
theorem Recorder.StagesRun.scoped
    (h : StagesRun inherited incoming (stages.map (Command.execute (m := RecorderM))) pipes r result
      leftover r')
    (hstages : ∀ stage ∈ stages, ∀ mode (r : Recorder) around, r.Stands start around →
      r.RunsScoped start around stage mode)
    (hr : r.Equipped inherited start around (incoming.toList ++ pipeEnds pipes)) :
    ∃ story, Replay r story r' ∧ Scoped start around (.stages incoming stages pipes) story := by
  generalize hactions : stages.map (Command.execute (m := RecorderM)) = actions at h
  induction h generalizing stages with
  | none =>
    rw [List.map_eq_nil_iff] at hactions
    subst hactions
    exact ⟨[], .refl _, .noStage⟩
  | failed hstage =>
    obtain ⟨stage, rest, rfl, rfl, rfl⟩ := List.map_eq_cons_iff.1 hactions
    obtain ⟨story, hran, hscoped⟩ :=
      hstages stage (List.mem_cons_self ..) _ _ _ hr.stands
    rw [execute, hstage] at hran
    refine ⟨_, (Replay.setStreams _ _ _).trans hran, ?_⟩
    have hended : Scoped start around (.stages _ (stage :: rest) _) (story ++ []) :=
      .stage hscoped .nil
    rwa [List.append_nil] at hended
  | incomingKept hstage hincoming =>
    obtain ⟨stage, rest, rfl, rfl, rfl⟩ := List.map_eq_cons_iff.1 hactions
    obtain ⟨story, closing, hran, hcleanup, hscoped⟩ := Replay.incomingClosed
      (hstages stage (List.mem_cons_self ..) _ _ _ hr.stands) hstage hincoming
    exact ⟨_, hran, .stage hscoped hcleanup⟩
  | last hstage hincoming =>
    obtain ⟨stage, rest, rfl, rfl, rfl⟩ := List.map_eq_cons_iff.1 hactions
    obtain ⟨story, closing, hran, hcleanup, hscoped⟩ := Replay.incomingClosed
      (hstages stage (List.mem_cons_self ..) _ _ _ hr.stands) hstage hincoming
    exact ⟨_, hran, .stage hscoped hcleanup⟩
  | outgoingKept hstage hincoming houtgoing =>
    obtain ⟨stage, rest, rfl, rfl, rfl⟩ := List.map_eq_cons_iff.1 hactions
    obtain ⟨story, closing, hran, hcleanup, hscoped⟩ := Replay.outgoingClosed
      (hstages stage (List.mem_cons_self ..) _ _ _ hr.stands) hstage hincoming houtgoing
    exact ⟨_, hran, .stage hscoped hcleanup⟩
  | exited hstage hincoming houtgoing =>
    obtain ⟨stage, rest, rfl, rfl, rfl⟩ := List.map_eq_cons_iff.1 hactions
    obtain ⟨story, closing, hran, hcleanup, hscoped⟩ := Replay.outgoingClosed
      (hstages stage (List.mem_cons_self ..) _ _ _ hr.stands) hstage hincoming houtgoing
    exact ⟨_, hran, .stage hscoped hcleanup⟩
  | next hstage hincoming houtgoing _ ih =>
    obtain ⟨stage, rest, rfl, rfl, rfl⟩ := List.map_eq_cons_iff.1 hactions
    obtain ⟨story, closing, hran, hcleanup, hscoped⟩ := Replay.outgoingClosed
      (hstages stage (List.mem_cons_self ..) _ _ _ hr.stands) hstage hincoming houtgoing
    obtain ⟨_, hduty⟩ := Duty.outgoingClosed (stage.cleansUp _) hr.owes hstage hincoming houtgoing
    obtain ⟨story', hrest, hscoped'⟩ :=
      ih (fun stage hmem => hstages stage (List.mem_cons_of_mem _ hmem)) (hr.next hduty) rfl
    exact ⟨_, hran.trans hrest, .stages hscoped hcleanup hscoped'⟩

end Stages

/-! ### Kinds of commands -/

section Kinds

variable {start : StreamMode → Option StreamId} {around : List Surrounding} {r : Recorder}

/-- Either the pipes cannot be opened, or the stages are scoped; in the end there is some cleaning
up. -/
theorem Recorder.runPipeline_scoped {stages : List Command} (hsome : stages ≠ [])
    (h : ∀ stage ∈ stages, ∀ mode (r : Recorder) around, r.Stands start around →
      r.RunsScoped start around stage mode)
    (hr : r.Stands start around) :
    ∃ pipes rest closing, Cleanup closing ∧
      Replay r (openings pipes ++ rest ++ closing)
        (r.perform (runPipeline (stages.map Command.execute))).2 ∧
      ((∃ e, rest = [.failed e]) ∨
        pipes.length + 1 = stages.length ∧
          Scoped start around (.stages none stages pipes) rest) := by
  obtain ⟨story, hcreated, hpiped⟩ := Replay.createPipes r [] (stages.length - 1)
  obtain ⟨_, hduty⟩ := Duty.createPipes [] (stages.length - 1) r.owes_nil
  obtain ⟨events, faults, openStreams, nextId, hkept⟩ := r.createPipes_snd [] (stages.length - 1)
  rw [perform_runPipeline, List.length_map]
  generalize r.perform (createPipes [] (stages.length - 1)) = created
    at hcreated hpiped hduty hkept ⊢
  rcases created with ⟨e | pipes, r₁⟩ <;> dsimp only at hcreated hpiped hduty hkept ⊢
  · obtain ⟨pipes, closing, rfl, hcleanup⟩ := hpiped
    refine ⟨pipes, [.failed e], closing, hcleanup, ?_, Or.inl ⟨e, rfl⟩⟩
    rwa [List.append_assoc]
  obtain ⟨_, rfl, hlength, rfl⟩ := hpiped
  have hequipped : r₁.Equipped ⟨r₁.input, r₁.output⟩ start around (pipeEnds pipes) := {
    owes := hduty.owes r.owes_nil
    input_eq := by rw [← hr.stream_eq, hkept]; rfl
    output_eq := by rw [← hr.stream_eq, hkept]; rfl
    keeps := fun mode id hactive => (hduty.frame [id]).owes
      (owes_singleton (hr.isLive mode id ((hr.stream_eq mode).trans hactive))) }
  obtain ⟨staged, hran, hscoped⟩ := (stagesRun_runStages ⟨r₁.input, r₁.output⟩
    (stages.map Command.execute) none pipes r₁).scoped h hequipped
  generalize (runStages (m := RecorderM) ⟨r₁.input, r₁.output⟩ none
    (stages.map Command.execute) pipes).run r₁ = ran at hran ⊢
  obtain ⟨closing, hreleased, hcleanup⟩ :=
    Replay.releaseAll (ran.2.setStreams r₁.input r₁.output) ran.1.2
  have hcollected := Replay.collectSubshells
    ((ran.2.setStreams r₁.input r₁.output).perform (releaseAll ran.1.2)).2 r₁.subshells.length
  refine ⟨pipes, staged, closing ++ [.collect r₁.subshells.length], ?_, ?_, Or.inr ⟨?_, hscoped⟩⟩
  · exact hcleanup.append fun event hmem => List.mem_singleton.1 hmem ▸ trivial
  · have hrestored := hran.trans (.setStreams ran.2 r₁.input r₁.output)
    rw [List.append_nil] at hrestored
    rw [List.append_assoc]
    exact hcreated.trans (hrestored.trans (hreleased.trans hcollected))
  · have hpos := List.length_pos_iff.2 hsome
    omega

theorem Recorder.RunsScoped.pipeline {primary secondary : Command}
    (h : ∀ stage ∈ (Command.binary .pipe primary secondary).pipelineStages,
      ∀ mode (r : Recorder) around, r.Stands start around → r.RunsScoped start around stage mode)
    (hr : r.Stands start around) :
    r.RunsScoped start around (.binary .pipe primary secondary) .wait := by
  obtain ⟨pipes, rest, closing, hcleanup, hran, hrest⟩ :=
    runPipeline_scoped (Command.pipelineStages_ne_nil _) h hr
  rw [RunsScoped, execute_pipe]
  refine ⟨_, hran, ?_⟩
  rcases hrest with ⟨e, rfl⟩ | ⟨hlength, hscoped⟩
  · rw [List.append_assoc]
    exact .unpiped hcleanup
  · exact .pipeline hlength hscoped hcleanup

theorem Recorder.RunsScoped.redirection {redirect : Redirect} {primary : Command} {path : String}
    {mode : WaitMode}
    (h : ∀ (r : Recorder) around, r.Stands start around → r.RunsScoped start around primary mode)
    (hr : r.Stands start around) :
    r.RunsScoped start around (.redirection redirect primary path) mode := by
  have hopened := Replay.openFile r redirect path
  rw [RunsScoped, execute_redirection]
  rcases hfile : r.openFile redirect path with ⟨e | stream, r₁⟩ <;>
    rw [hfile] at hopened <;> dsimp only at hopened ⊢
  · exact ⟨_, hopened, .unopened⟩
  · obtain ⟨story, hran, hscoped⟩ := h _ _ (hr.redirection hfile)
    generalize (r₁.activate redirect (some stream)).execute primary mode = ran at hran ⊢
    have hclosed := Replay.closeStream (ran.2.activate redirect (r₁.active redirect)) stream
    have hrestored := hran.trans (.activate ran.2 redirect (r₁.active redirect))
    rw [List.append_nil] at hrestored
    refine ⟨_, (hopened.trans ((Replay.activate r₁ redirect (some stream)).trans
      (hrestored.trans hclosed))), ?_⟩
    exact .redirection hscoped

theorem Recorder.RunsScoped.of_wait {command : Command} (hcomposite : command.isComposite = true)
    (hwait : ∀ (r : Recorder) around, r.Stands start around →
      r.RunsScoped start around command .wait) (mode : WaitMode) (hr : r.Stands start around) :
    r.RunsScoped start around command mode := by
  cases mode with
  | wait => exact hwait r around hr
  | background =>
    obtain ⟨story, hran, hscoped⟩ := hwait r.inside (.subshell :: around) (.inside r)
    rw [RunsScoped, execute_background r hcomposite]
    refine ⟨_, .resume hr.isLive hran _, ?_⟩
    rw [show r.input = _ from hr.stream_eq .input, show r.output = _ from hr.stream_eq .output]
    exact .subshell hcomposite hscoped

theorem Recorder.RunsScoped.sequential {commands : List Command}
    (h : ∀ command ∈ commands, ∀ r : Recorder, r.Stands start around →
      r.RunsScoped start around command .wait)
    (hr : r.Stands start around) : r.RunsScoped start around (.sequential commands) .wait := by
  induction commands generalizing r with
  | nil => exact ⟨[], .refl r, .sequenceEnded⟩
  | cons first rest ih =>
    obtain ⟨story, hran, hscoped⟩ := h first (List.mem_cons_self ..) r hr
    have hended : Scoped start around (.command (.sequential (first :: rest)) .wait) story :=
      List.append_nil story ▸ .sequence hscoped .sequenceEnded
    cases rest with
    | nil => exact ⟨story, hran, hended⟩
    | cons second rest =>
      obtain ⟨_, htidy⟩ := first.cleansUp .wait r
      change Tidy r _ (r.execute first .wait).2 at htidy
      rw [RunsScoped, execute_sequential_cons_cons]
      generalize r.execute first .wait = ran at hran htidy ⊢
      rcases ran with ⟨e | code | code, r₁⟩
      · exact ⟨story, hran, hended⟩
      · obtain ⟨story', hrest, hscoped'⟩ :=
          ih (fun command hmem => h command (List.mem_cons_of_mem _ hmem)) (hr.next htidy)
        exact ⟨_, hran.trans hrest, .sequence hscoped hscoped'⟩
      · exact ⟨story, hran, hended⟩

theorem Recorder.RunsScoped.conditional {connective : Connective} {primary secondary : Command}
    (hconnective : connective ≠ .pipe)
    (hprimary : ∀ r : Recorder, r.Stands start around → r.RunsScoped start around primary .wait)
    (hsecondary : ∀ r : Recorder, r.Stands start around →
      r.RunsScoped start around secondary .wait) (hr : r.Stands start around) :
    r.RunsScoped start around (.binary connective primary secondary) .wait := by
  obtain ⟨story, hran, hscoped⟩ := hprimary r hr
  obtain ⟨_, htidy⟩ := primary.cleansUp .wait r
  change Tidy r _ (r.execute primary .wait).2 at htidy
  have hended : Scoped start around (.command (.binary connective primary secondary) .wait) story :=
    .primary hconnective hscoped
  rw [RunsScoped, execute_conditional r hconnective]
  generalize r.execute primary .wait = ran at hran htidy ⊢
  rcases ran with ⟨e | code | code, r₁⟩
  · exact ⟨story, hran, hended⟩
  · dsimp only
    split
    · obtain ⟨story', hrest, hscoped'⟩ := hsecondary r₁ (hr.next htidy)
      exact ⟨_, hran.trans hrest, .secondary hconnective hscoped hscoped'⟩
    · exact ⟨story, hran, hended⟩
  · exact ⟨story, hran, hended⟩

/-- Every command is scoped. -/
theorem Command.runsScoped (command : Command) :
    ∀ (mode : WaitMode) (r : Recorder) (around : List Surrounding), r.Stands start around →
      r.RunsScoped start around command mode := by
  induction command using Command.stages_induction with
  | executable program arguments =>
    intro mode r around hr
    rw [Recorder.RunsScoped, Recorder.execute_executable]
    refine ⟨_, .spawn hr.isLive program arguments mode, ?_⟩
    rw [show r.input = _ from hr.stream_eq .input, show r.output = _ from hr.stream_eq .output]
    exact .program
  | builtin action =>
    intro mode r around hr
    rw [Recorder.RunsScoped, Recorder.execute_builtin]
    exact Recorder.respond_scoped hr action mode _
  | sequential commands ih =>
    intro mode r around hr
    exact .of_wait rfl (fun r around hr => .sequential
      (fun command hmem r hr => ih command hmem .wait r around hr) hr) mode hr
  | conditional connective primary secondary hconnective hprimary hsecondary =>
    intro mode r around hr
    refine .of_wait rfl (fun r around hr => .conditional hconnective ?_ ?_ hr) mode hr
    · exact fun r hr => hprimary .wait r around hr
    · exact fun r hr => hsecondary .wait r around hr
  | pipeline primary secondary ih =>
    intro mode r around hr
    exact .of_wait rfl (fun r around hr => .pipeline ih hr) mode hr
  | redirection redirect primary path ih =>
    exact fun mode r around hr => .redirection (ih mode) hr

end Kinds

/-- Every program, subshell and builtin gets the streams of the innermost constructs around it, and
otherwise those that were active when the run began, or none in a subshell.  Each of them is open
when something gets it, and if it has been opened in the run, then for that direction. -/
theorem Recorder.execute_scoped (r : Recorder) (command : Command) (mode : WaitMode)
    (hr : r.WellNumbered) (hactive : ∀ mode id, r.stream mode = some id → id ∈ r.openStreams) :
    ∃ story, (r.execute command mode).2.events.toList = r.events.toList ++ story ∧
      (r.execute command mode).2.openStreams = openAfter r.openStreams story ∧
      Scoped r.stream [] (.command command mode) story ∧
      EachStream (fun before mode id => id ∈ openAfter r.openStreams before ∧
        (id ∈ opens before → id ∈ opensFor mode before)) story := by
  have hstands : r.Stands r.stream [] := ⟨fun _ => rfl, hactive⟩
  obtain ⟨story, hran, hscoped⟩ := command.runsScoped mode r [] hstands
  obtain ⟨story', htidy⟩ := command.cleansUp mode r
  change Tidy r story' (r.execute command mode).2 at htidy
  obtain rfl : story = story' := List.append_cancel_left (hran.events.symm.trans htidy.events)
  refine ⟨story, hran.events, hran.openStreams_eq, hscoped, ?_⟩
  rintro before event after direction id rfl hstream
  refine ⟨hran.live before event after direction id rfl hstream, fun hopened => ?_⟩
  refine (hscoped.fed before event after direction id rfl hstream).resolve_right fun hstart => ?_
  -- What was active when the run began has a number that is not given out in it.
  have hnew : id ∈ newIds r.nextId (r.execute command mode).2.nextId := by
    rw [← htidy.opens_eq, opens_append]
    exact List.mem_append_left _ hopened
  exact Nat.not_lt_of_le (mem_newIds.1 hnew).1 (hr id (hactive direction id hstart))

/-- `(ls | sort < list; (test -f list; wc) | (sort | ls > list)) > all`, where `wc` crashes: a file
replaces the read end of a pipe, a pipe the file around it, and in a subshell nothing is active. -/
theorem execute_scoped_nested :
    let r : Recorder := {
      script := { Script.plain with crashes := fun program => program == "wc" }, faults := none
      openStreams := [⟨0⟩], nextId := 1, input := some ⟨0⟩ }
    let run (program : String) := Command.executable program []
    let command := Command.redirection .output (.sequential [
      .binary .pipe (run "ls") (.redirection .input (run "sort") "list"),
      .binary .pipe (.sequential [.builtin (.test false ["-f", "list"]), run "wc"])
        (.sequential [.binary .pipe (run "sort") (.redirection .output (run "ls") "list")])]) "all"
    (r.WellNumbered ∧ ∀ mode id, r.stream mode = some id → id ∈ r.openStreams) ∧
      (∃ story, (r.execute command .wait).2.events.toList = r.events.toList ++ story ∧
        (r.execute command .wait).2.openStreams = openAfter r.openStreams story ∧
        Scoped r.stream [] (.command command .wait) story ∧
        EachStream (fun before mode id => id ∈ openAfter r.openStreams before ∧
          (id ∈ opens before → id ∈ opensFor mode before)) story) ∧
      (r.execute command .wait).2.events.toList.filterMap (fun event =>
          match event with
          | .spawn program _ _ input output => some (program, input, output)
          | .subshell input output => some ("(", input, output)
          | .wrote output _ => some ("test", none, output)
          | _ => none)
        = [("ls", some ⟨0⟩, some ⟨3⟩), ("sort", some ⟨4⟩, some ⟨1⟩), ("(", some ⟨0⟩, some ⟨6⟩),
          ("test", none, none), ("wc", none, none), ("sort", some ⟨5⟩, some ⟨8⟩),
          ("ls", some ⟨7⟩, some ⟨9⟩)] := by
  intro r run command
  have hr : r.WellNumbered := by
    intro id hmem
    rw [List.mem_singleton.1 hmem]
    exact Nat.zero_lt_one
  have hactive : ∀ mode id, r.stream mode = some id → id ∈ r.openStreams := by
    intro mode id h
    cases mode <;> cases h
    exact List.mem_cons_self ..
  exact ⟨⟨hr, hactive⟩, r.execute_scoped command .wait hr hactive, by decide +kernel⟩

end CommandShell
