import CommandShell.Proofs.Recording.Story
import Mathlib.Logic.Relation
set_option autoImplicit false

/-!
# The first failure is reported

A command fails just when some call fails outside of subshells or when it comes to an empty sequence
there.  The first of these failures in the order of events is the one that is reported, and nothing
is done after it but cleaning up.

That a command comes to an empty sequence leaves no trace in the story.  It is told by the calls
that running a command consists of: which command begins to run, in which mode and on which
recorder.
-/

namespace CommandShell

/-! ## Calls -/

/-- A command that begins to run on a recorder. -/
structure Call where
  command : Command
  mode : WaitMode
  recorder : Recorder

/-- The calls that begin while the stages of a pipeline run; see `Recorder.StagesRun`. -/
inductive StageBegins (inherited : Inherited) :
    Option StreamId → List Command → List (StreamId × StreamId) → Recorder → Call → Prop where
  | here {incoming stage stages pipes r} :
    StageBegins inherited incoming (stage :: stages) pipes r
      ⟨stage, Recorder.stageMode pipes, r.stageStart inherited incoming pipes⟩
  | later {incoming stage stages read write pipes r code r₁ r₂ r₃ call} :
    (r.stageStart inherited incoming ((read, write) :: pipes)).execute stage .background
      = (.ok (.completed code), r₁) →
    r₁.perform (releaseAll incoming.toList) = (.ok (), r₂) →
    r₂.closeStream write = (.ok (), r₃) →
    StageBegins inherited (some read) stages pipes r₃ call →
    StageBegins inherited incoming (stage :: stages) ((read, write) :: pipes) r call

/-- A call begins another one, as a part of what it does outside of subshells.  The rest of a
sequence is a sequence; that of the last command is not one. -/
inductive Call.Begins : Call → Call → Prop where
  | first {first rest r} : Begins ⟨.sequential (first :: rest), .wait, r⟩ ⟨first, .wait, r⟩
  | rest {first second rest r code r₁} :
    r.execute first .wait = (.ok (.completed code), r₁) →
    Begins ⟨.sequential (first :: second :: rest), .wait, r⟩
      ⟨.sequential (second :: rest), .wait, r₁⟩
  | primary {connective primary secondary r} :
    connective ≠ .pipe →
    Begins ⟨.binary connective primary secondary, .wait, r⟩ ⟨primary, .wait, r⟩
  | secondary {connective primary secondary r code r₁} :
    connective ≠ .pipe →
    r.execute primary .wait = (.ok (.completed code), r₁) →
    Recorder.continues connective code = true →
    Begins ⟨.binary connective primary secondary, .wait, r⟩ ⟨secondary, .wait, r₁⟩
  | stage {primary secondary r pipes r₁ call} :
    r.perform (createPipes [] ((Command.binary .pipe primary secondary).pipelineStages.length - 1))
      = (.ok pipes, r₁) →
    StageBegins ⟨r₁.input, r₁.output⟩ none (Command.binary .pipe primary secondary).pipelineStages
      pipes r₁ call →
    Begins ⟨.binary .pipe primary secondary, .wait, r⟩ call
  | redirected {redirect primary path mode r stream r₁} :
    r.openFile redirect path = (.ok stream, r₁) →
    Begins ⟨.redirection redirect primary path, mode, r⟩
      ⟨primary, mode, r₁.activate redirect (some stream)⟩

/-- A call comes to an empty sequence, outside of subshells, when the recorder is the given one. -/
def Call.ReachesEmpty (call : Call) (r : Recorder) : Prop :=
  Relation.ReflTransGen Call.Begins call ⟨.sequential [], .wait, r⟩

section ReachesEmpty

variable {r r₁ : Recorder} {mode : WaitMode}

theorem Call.reachesEmpty_iff {call : Call}
    (h : call.command ≠ .sequential [] ∨ call.mode = .background) :
    call.ReachesEmpty r ↔ ∃ next, call.Begins next ∧ next.ReachesEmpty r := by
  rw [ReachesEmpty, Relation.ReflTransGen.cases_head_iff]
  refine or_iff_right ?_
  rintro rfl
  rcases h with h | h
  · exact h rfl
  · cases h

theorem reachesEmpty_empty :
    Call.ReachesEmpty ⟨.sequential [], .wait, r⟩ r₁ ↔ r₁ = r := by
  rw [Call.ReachesEmpty, Relation.ReflTransGen.cases_head_iff]
  constructor
  · rintro (heq | ⟨_, hbegins, -⟩)
    · exact (Call.mk.inj heq).2.2.symm
    · cases hbegins
  · rintro rfl
    exact Or.inl rfl

theorem not_reachesEmpty_executable {program : String} {arguments : List String} :
    ¬ Call.ReachesEmpty ⟨.executable program arguments, mode, r⟩ r₁ := by
  rw [Call.reachesEmpty_iff (Or.inl (by simp))]
  rintro ⟨_, hbegins, -⟩
  cases hbegins

theorem not_reachesEmpty_builtin {action : Builtin} :
    ¬ Call.ReachesEmpty ⟨.builtin action, mode, r⟩ r₁ := by
  rw [Call.reachesEmpty_iff (Or.inl (by simp))]
  rintro ⟨_, hbegins, -⟩
  cases hbegins

/-- What a subshell does is not done outside of it. -/
theorem not_reachesEmpty_background {command : Command} (h : command.isComposite = true) :
    ¬ Call.ReachesEmpty ⟨command, .background, r⟩ r₁ := by
  rw [Call.reachesEmpty_iff (Or.inr rfl)]
  rintro ⟨_, hbegins, -⟩
  cases hbegins
  simp [Command.isComposite] at h

theorem reachesEmpty_singleton {command : Command} :
    Call.ReachesEmpty ⟨.sequential [command], .wait, r⟩ r₁ ↔
      Call.ReachesEmpty ⟨command, .wait, r⟩ r₁ := by
  rw [Call.reachesEmpty_iff (Or.inl (by simp))]
  constructor
  · rintro ⟨_, hbegins, hreaches⟩
    cases hbegins
    exact hreaches
  · exact fun h => ⟨_, .first, h⟩

theorem reachesEmpty_cons_cons {first second : Command} {rest : List Command} :
    Call.ReachesEmpty ⟨.sequential (first :: second :: rest), .wait, r⟩ r₁ ↔
      Call.ReachesEmpty ⟨first, .wait, r⟩ r₁ ∨
        ∃ code r₂, r.execute first .wait = (.ok (.completed code), r₂) ∧
          Call.ReachesEmpty ⟨.sequential (second :: rest), .wait, r₂⟩ r₁ := by
  rw [Call.reachesEmpty_iff (Or.inl (by simp))]
  constructor
  · rintro ⟨_, hbegins, hreaches⟩
    cases hbegins with
    | first => exact Or.inl hreaches
    | rest hfirst => exact Or.inr ⟨_, _, hfirst, hreaches⟩
  · rintro (hreaches | ⟨_, _, hfirst, hreaches⟩)
    · exact ⟨_, .first, hreaches⟩
    · exact ⟨_, .rest hfirst, hreaches⟩

theorem reachesEmpty_conditional {connective : Connective} {primary secondary : Command}
    (h : connective ≠ .pipe) :
    Call.ReachesEmpty ⟨.binary connective primary secondary, .wait, r⟩ r₁ ↔
      Call.ReachesEmpty ⟨primary, .wait, r⟩ r₁ ∨
        ∃ code r₂, r.execute primary .wait = (.ok (.completed code), r₂) ∧
          Recorder.continues connective code = true ∧
          Call.ReachesEmpty ⟨secondary, .wait, r₂⟩ r₁ := by
  rw [Call.reachesEmpty_iff (Or.inl (by simp))]
  constructor
  · rintro ⟨_, hbegins, hreaches⟩
    cases hbegins with
    | primary => exact Or.inl hreaches
    | secondary _ hprimary hcontinues => exact Or.inr ⟨_, _, hprimary, hcontinues, hreaches⟩
    | stage => exact absurd rfl h
  · rintro (hreaches | ⟨_, _, hprimary, hcontinues, hreaches⟩)
    · exact ⟨_, .primary h, hreaches⟩
    · exact ⟨_, .secondary h hprimary hcontinues, hreaches⟩

theorem reachesEmpty_redirection {redirect : Redirect} {primary : Command} {path : String} :
    Call.ReachesEmpty ⟨.redirection redirect primary path, mode, r⟩ r₁ ↔
      ∃ stream r₂, r.openFile redirect path = (.ok stream, r₂) ∧
        Call.ReachesEmpty ⟨primary, mode, r₂.activate redirect (some stream)⟩ r₁ := by
  rw [Call.reachesEmpty_iff (Or.inl (by simp))]
  constructor
  · rintro ⟨_, hbegins, hreaches⟩
    cases hbegins with
    | redirected hopened => exact ⟨_, _, hopened, hreaches⟩
  · rintro ⟨_, _, hopened, hreaches⟩
    exact ⟨_, .redirected hopened, hreaches⟩

/-- One of the stages of a pipeline comes to an empty sequence. -/
def StagesReachEmpty (inherited : Inherited) (incoming : Option StreamId) (stages : List Command)
    (pipes : List (StreamId × StreamId)) (r r₁ : Recorder) : Prop :=
  ∃ call, StageBegins inherited incoming stages pipes r call ∧ call.ReachesEmpty r₁

theorem reachesEmpty_pipe {primary secondary : Command} :
    Call.ReachesEmpty ⟨.binary .pipe primary secondary, .wait, r⟩ r₁ ↔
      ∃ pipes r₂, r.perform (createPipes []
          ((Command.binary .pipe primary secondary).pipelineStages.length - 1)) = (.ok pipes, r₂) ∧
        StagesReachEmpty ⟨r₂.input, r₂.output⟩ none
          (Command.binary .pipe primary secondary).pipelineStages pipes r₂ r₁ := by
  rw [Call.reachesEmpty_iff (Or.inl (by simp))]
  constructor
  · rintro ⟨_, hbegins, hreaches⟩
    cases hbegins with
    | primary h => exact absurd rfl h
    | secondary h => exact absurd rfl h
    | stage hpipes hstage => exact ⟨_, _, hpipes, _, hstage, hreaches⟩
  · rintro ⟨_, _, hpipes, _, hstage, hreaches⟩
    exact ⟨_, .stage hpipes hstage, hreaches⟩

end ReachesEmpty

/-! ## Where a run fails -/

/-- No call fails outside of subshells. -/
def Quiet (story : List Event) : Prop := ∀ e, Event.failed e ∉ outside story

/-- What still happens after a failure: streams are closed, or could not be closed, and subshells
are collected. -/
def Event.IsCleanup : Event → Prop
  | .close _ | .failed (.unknownStream _) | .collect _ => True
  | _ => False

/-- Nothing happens but cleaning up. -/
def Cleanup (story : List Event) : Prop := ∀ event ∈ story, event.IsCleanup

/-- Where a run with the given error and story fails first.  The run begins on `r`, and `reached`
are the recorders on which it comes to an empty sequence. -/
inductive FirstFailure (reached : Recorder → Prop) (r : Recorder) :
    ExecError → List Event → Prop where
  /-- A call fails, outside of subshells. -/
  | call {e before after} :
    (∀ r₁, ¬ reached r₁) → Level before → Quiet before → Cleanup after →
    FirstFailure reached r e (before ++ .failed e :: after)
  /-- There is an empty sequence. -/
  | emptySequence {r₁ before after} :
    reached r₁ → Stretch r before r₁ → Quiet before → Cleanup after →
    FirstFailure reached r .emptySequence (before ++ after)

/-- A stretch whose result tells whether and where something in it fails first. -/
structure Honest {α : Type} (reached : Recorder → Prop) (r : Recorder) (result : Except ExecError α)
    (story : List Event) (r' : Recorder) : Prop extends Stretch r story r' where
  ok : ∀ a, result = .ok a → Quiet story ∧ ∀ r₁, ¬ reached r₁
  error : ∀ e, result = .error e → FirstFailure reached r e story

theorem Quiet.nil : Quiet [] := fun _ h => List.not_mem_nil h

theorem Quiet.append {story story' : List Event} (hlevel : Level story) (h : Quiet story)
    (h' : Quiet story') : Quiet (story ++ story') := by
  intro e hmem
  rw [outside_append hlevel, List.mem_append] at hmem
  exact hmem.elim (h e) (h' e)

theorem Cleanup.nil : Cleanup [] := fun _ h => absurd h List.not_mem_nil

theorem Cleanup.append {story story' : List Event} (h : Cleanup story) (h' : Cleanup story') :
    Cleanup (story ++ story') :=
  fun event hmem => (List.mem_append.1 hmem).elim (h event) (h' event)

namespace FirstFailure

variable {reached : Recorder → Prop} {r r₁ : Recorder} {e : ExecError} {story story' : List Event}

/-- Before, nothing has failed. -/
theorem before (h : FirstFailure reached r₁ e story') (hstretch : Stretch r story r₁)
    (hquiet : Quiet story) : FirstFailure reached r e (story ++ story') := by
  cases h with
  | call hnone hlevel hbefore hafter =>
    rw [← List.append_assoc]
    exact .call hnone (hstretch.level.append hlevel) (hquiet.append hstretch.level hbefore) hafter
  | emptySequence hreached hbegins hbefore hafter =>
    rw [← List.append_assoc]
    exact .emptySequence hreached (hstretch.trans hbegins) (hquiet.append hstretch.level hbefore)
      hafter

/-- Afterwards, there is still something to be cleaned up. -/
theorem after (h : FirstFailure reached r e story) (hcleanup : Cleanup story') :
    FirstFailure reached r e (story ++ story') := by
  cases h with
  | call hnone hlevel hbefore hafter =>
    rw [List.append_assoc, List.cons_append]
    exact .call hnone hlevel hbefore (hafter.append hcleanup)
  | emptySequence hreached hbegins hbefore hafter =>
    rw [List.append_assoc]
    exact .emptySequence hreached hbegins hbefore (hafter.append hcleanup)

/-- So something did fail. -/
theorem failed_or_reached (h : FirstFailure reached r e story) :
    (∃ e', .failed e' ∈ outside story) ∨ ∃ r₁, reached r₁ := by
  cases h with
  | call _ hlevel =>
    refine Or.inl ⟨e, ?_⟩
    rw [outside_append hlevel, List.mem_append]
    exact Or.inr (List.mem_cons_self ..)
  | emptySequence hreached => exact Or.inr ⟨_, hreached⟩

end FirstFailure

/-- Nothing is an empty sequence. -/
def noneReached (_ : Recorder) : Prop := False

namespace Honest

variable {α β : Type} {reached reached' : Recorder → Prop} {r r₁ r' : Recorder}
  {result : Except ExecError α} {story story' : List Event}

theorem congr (h : Honest reached r result story r') (hiff : ∀ r₁, reached' r₁ ↔ reached r₁) :
    Honest reached' r result story r' := by
  rwa [show reached' = reached from funext fun r₁ => propext (hiff r₁)]

theorem map (h : Honest reached r result story r') (f : α → β) :
    Honest reached r (result.map f) story r' where
  toStretch := h.toStretch
  ok := by
    cases result with
    | ok a => exact fun _ _ => h.ok a rfl
    | error e =>
      intro _ h
      cases h
  error := by
    cases result with
    | ok a =>
      intro _ h
      cases h
    | error e =>
      rintro _ ⟨⟩
      exact h.error e rfl

theorem quiet (h : Stretch r story r') (hquiet : Quiet story) (a : α) :
    Honest noneReached r (.ok a) story r' where
  toStretch := h
  ok _ _ := ⟨hquiet, fun _ => id⟩
  error _ h := by cases h

/-- What comes first did not fail. -/
theorem before (h : Honest reached r₁ result story' r') (hstretch : Stretch r story r₁)
    (hquiet : Quiet story) : Honest reached r result (story ++ story') r' where
  toStretch := hstretch.trans h.toStretch
  ok a ha := ⟨hquiet.append hstretch.level (h.ok a ha).1, (h.ok a ha).2⟩
  error e he := (h.error e he).before hstretch hquiet

/-- What comes last is cleaning up and does not fail. -/
theorem after (h : Honest reached r result story r₁) (hstretch : Stretch r₁ story' r')
    (hquiet : Quiet story') (hcleanup : Cleanup story') :
    Honest reached r result (story ++ story') r' where
  toStretch := h.toStretch.trans hstretch
  ok a ha := ⟨(h.ok a ha).1.append h.level hquiet, (h.ok a ha).2⟩
  error e he := (h.error e he).after hcleanup

/-- What comes last is cleaning up, and what fails in it counts if nothing has failed before. -/
theorem closing (h : Honest reached r result story r₁) {closed : Except ExecError Unit}
    (hclosed : Honest noneReached r₁ closed story' r') (hcleanup : Cleanup story') (f : α → β) :
    Honest reached r (result >>= fun a => closed >>= fun () => .ok (f a)) (story ++ story') r' := by
  cases result with
  | error e =>
    exact {
      toStretch := h.toStretch.trans hclosed.toStretch
      ok := nofun
      error := by
        rintro _ ⟨⟩
        exact (h.error e rfl).after hcleanup }
  | ok a =>
    obtain ⟨hquiet, hnone⟩ := h.ok a rfl
    have hlast := Honest.before (hclosed.map fun () => f a) h.toStretch hquiet
    exact hlast.congr fun r₁ => iff_of_false (hnone r₁) id

/-- An operation that adds one event. -/
theorem outcomeEvent {success : α → Event}
    (h : Stretch r [CommandShell.outcomeEvent success result] r')
    (hsuccess : ∀ a e, success a ≠ .failed e) :
    Honest noneReached r result [CommandShell.outcomeEvent success result] r' where
  toStretch := h
  ok := by
    rintro a rfl
    refine ⟨fun e hmem => hsuccess a e ?_, fun _ => id⟩
    simpa [outside, outsideFrom, CommandShell.outcomeEvent, eq_comm] using hmem
  error := by
    rintro e rfl
    show FirstFailure noneReached r e ([] ++ .failed e :: [])
    exact .call (fun _ => id) .nil .nil .nil

end Honest

/-! ## Operations -/

namespace Recorder

theorem spawn_honest (r : Recorder) (program : String) (arguments : List String)
    (mode : WaitMode) :
    Honest noneReached r (r.spawnResult program mode)
      (.spawn program arguments mode r.input r.output :: failure (r.spawnResult program mode))
      (r.spawn program arguments mode).2 where
  toStretch := r.spawn_stretch program arguments mode
  ok a ha := by
    refine ⟨fun e hmem => ?_, fun _ => id⟩
    rw [ha] at hmem
    simp [outside, outsideFrom, failure] at hmem
  error e he := by
    rw [he]
    show FirstFailure noneReached r e
      ([.spawn program arguments mode r.input r.output] ++ .failed e :: [])
    refine .call (fun _ => id) (.singleton fun _ => rfl) ?_ .nil
    intro e' hmem
    simp [outside, outsideFrom] at hmem

theorem createPipe_honest (r : Recorder) :
    Honest noneReached r r.createPipe.1
      [outcomeEvent (fun pipe => .pipe pipe.1 pipe.2) r.createPipe.1] r.createPipe.2 :=
  .outcomeEvent r.createPipe_stretch (by simp)

theorem openFile_honest (r : Recorder) (redirect : Redirect) (path : String) :
    Honest noneReached r (r.openFile redirect path).1
      [outcomeEvent (.opened redirect path) (r.openFile redirect path).1]
      (r.openFile redirect path).2 :=
  .outcomeEvent (r.openFile_stretch redirect path) (by simp)

theorem closeStream_honest (r : Recorder) (id : StreamId) :
    Honest noneReached r (r.closeStream id).1
      [outcomeEvent (fun _ => .close id) (r.closeStream id).1] (r.closeStream id).2 :=
  .outcomeEvent (r.closeStream_stretch id) (by simp)

theorem closeStream_cleanup (r : Recorder) (id : StreamId) :
    Cleanup [outcomeEvent (fun _ => .close id) (r.closeStream id).1] := by
  intro event hmem
  rw [List.mem_singleton] at hmem
  rcases r.closeStream_cases id with ⟨hresult, -⟩ | ⟨hresult, -⟩ <;>
    rw [hmem, hresult] <;> trivial

theorem writeAny_honest (r : Recorder) (text : Option String) :
    ∃ story, Honest noneReached r (r.writeAny text).1 story (r.writeAny text).2 := by
  cases text with
  | none => exact ⟨[], .quiet (.refl r) .nil ()⟩
  | some text => exact ⟨_, .outcomeEvent (r.writeOutput_stretch text) (by simp)⟩

theorem respond_honest (r : Recorder) (answer : Builtin.Answer) :
    ∃ story, Honest noneReached r (r.respond answer).1 story (r.respond answer).2 := by
  obtain ⟨story, hwritten⟩ := (r.tell answer.notice).writeAny_honest answer.text
  refine ⟨[] ++ story, .before ?_ (.tell r answer.notice) .nil⟩
  unfold respond
  generalize (r.tell answer.notice).writeAny answer.text = written at hwritten ⊢
  rcases written with ⟨_ | _, _⟩ <;> exact hwritten.map fun () => answer.outcome

/-- Closing streams is cleaning up; the first failure counts. -/
theorem releaseAll_honest (r : Recorder) (ids : List StreamId) :
    ∃ story, Honest noneReached r (r.perform (releaseAll ids)).1 story
      (r.perform (releaseAll ids)).2 ∧ Cleanup story := by
  induction ids generalizing r with
  | nil => exact ⟨[], .quiet (.refl r) .nil (), .nil⟩
  | cons id ids ih =>
    obtain ⟨story, hrest, hcleanup⟩ := ih (r.closeStream id).2
    rw [perform_releaseAll_cons]
    dsimp only
    generalize (r.closeStream id).2.perform (releaseAll ids) = rest at hrest ⊢
    have hboth := (r.closeStream_honest id).closing hrest hcleanup fun () => ()
    refine ⟨_, ?_, (r.closeStream_cleanup id).append hcleanup⟩
    rcases rest with ⟨_ | _, _⟩ <;> exact hboth

theorem createPipes_honest (r : Recorder) (opened : List (StreamId × StreamId)) (count : Nat) :
    ∃ story, Honest noneReached r (r.perform (createPipes opened count)).1 story
      (r.perform (createPipes opened count)).2 := by
  induction count generalizing r opened with
  | zero => exact ⟨[], .quiet (.refl r) .nil opened⟩
  | succ count ih =>
    have hcreated := r.createPipe_honest
    rw [perform_createPipes_succ]
    generalize r.createPipe = created at hcreated ⊢
    rcases created with ⟨e | pipe, r₁⟩
    · obtain ⟨story, hreleased, hcleanup⟩ := r₁.releaseAll_honest (pipeEnds opened)
      refine ⟨_, {
        toStretch := hcreated.toStretch.trans hreleased.toStretch
        ok := nofun
        error := ?_ }⟩
      rintro _ ⟨⟩
      exact (hcreated.error e rfl).after hcleanup
    · obtain ⟨story, hrest⟩ := ih r₁ (opened ++ [pipe])
      exact ⟨_, hrest.before hcreated.toStretch (hcreated.ok pipe rfl).1⟩

end Recorder

/-! ## Commands -/

/-- Whatever the command comes to on a recorder, it tells where it fails first. -/
def Recorder.RunsHonestly (r : Recorder) (command : Command) (mode : WaitMode) : Prop :=
  ∃ story, Honest (Call.ReachesEmpty ⟨command, mode, r⟩) r (r.execute command mode).1 story
    (r.execute command mode).2

section Stages

variable {inherited : Inherited} {incoming : Option StreamId} {pipes : List (StreamId × StreamId)}
  {stage : Command} {stages : List Command} {r r' : Recorder}

theorem StagesReachEmpty.nil {r₁ : Recorder} :
    ¬ StagesReachEmpty inherited incoming [] pipes r r₁ := by
  rintro ⟨_, hbegins, -⟩
  cases hbegins

/-- The empty sequence is in the first stage, or the run goes on and it is in a later one. -/
theorem StagesReachEmpty.cons {r₁ : Recorder} :
    StagesReachEmpty inherited incoming (stage :: stages) pipes r r₁ ↔
      Call.ReachesEmpty
          ⟨stage, Recorder.stageMode pipes, r.stageStart inherited incoming pipes⟩ r₁ ∨
        ∃ read write pipes' code r₂ r₃ r₄, pipes = (read, write) :: pipes' ∧
          (r.stageStart inherited incoming pipes).execute stage .background
            = (.ok (.completed code), r₂) ∧
          r₂.perform (releaseAll incoming.toList) = (.ok (), r₃) ∧
          r₃.closeStream write = (.ok (), r₄) ∧
          StagesReachEmpty inherited (some read) stages pipes' r₄ r₁ := by
  constructor
  · rintro ⟨_, hbegins, hreaches⟩
    cases hbegins with
    | here => exact Or.inl hreaches
    | later hstage hincoming houtgoing hlater =>
      exact Or.inr ⟨_, _, _, _, _, _, _, rfl, hstage, hincoming, houtgoing, _, hlater, hreaches⟩
  · rintro (hreaches |
      ⟨_, _, _, _, _, _, _, rfl, hstage, hincoming, houtgoing, _, hlater, hreaches⟩)
    · exact ⟨_, .here, hreaches⟩
    · exact ⟨_, .later hstage hincoming houtgoing hlater, hreaches⟩

/-- A stage tells where it fails first, also to the pipeline. -/
theorem Recorder.stage_honest {result : Except ExecError Outcome} {mode : WaitMode} {r₁ : Recorder}
    (hstage : (r.stageStart inherited incoming pipes).RunsHonestly stage mode)
    (h : (r.stageStart inherited incoming pipes).perform (stage.execute mode) = (result, r₁)) :
    ∃ story, Honest (Call.ReachesEmpty ⟨stage, mode, r.stageStart inherited incoming pipes⟩)
      r result story r₁ := by
  obtain ⟨story, hran⟩ := hstage
  rw [execute, h] at hran
  exact ⟨_, hran.before (.setStreams r _ _) .nil⟩

/-- After a stage that has not failed, the result is that of closing the read end before it. -/
theorem Recorder.incoming_honest {outcome : Outcome} {released : Except ExecError Unit}
    {mode : WaitMode} {r₁ r₂ : Recorder}
    (hstage : (r.stageStart inherited incoming pipes).RunsHonestly stage mode)
    (h : (r.stageStart inherited incoming pipes).perform (stage.execute mode) = (.ok outcome, r₁))
    (hincoming : r₁.perform (releaseAll incoming.toList) = (released, r₂)) :
    (∀ r₅, ¬ Call.ReachesEmpty ⟨stage, mode, r.stageStart inherited incoming pipes⟩ r₅) ∧
      ∃ story, Honest noneReached r released story r₂ := by
  obtain ⟨story, hran⟩ := stage_honest hstage h
  obtain ⟨hquiet, hnone⟩ := hran.ok _ rfl
  obtain ⟨story', hreleased, -⟩ := r₁.releaseAll_honest incoming.toList
  rw [hincoming] at hreleased
  exact ⟨hnone, _, hreleased.before hran.toStretch hquiet⟩

/-- After that, the result is that of closing the write end behind the stage. -/
theorem Recorder.outgoing_honest {outcome : Outcome} {closed : Except ExecError Unit}
    {mode : WaitMode} {write : StreamId} {r₁ r₂ r₃ : Recorder}
    (hstage : (r.stageStart inherited incoming pipes).RunsHonestly stage mode)
    (h : (r.stageStart inherited incoming pipes).perform (stage.execute mode) = (.ok outcome, r₁))
    (hincoming : r₁.perform (releaseAll incoming.toList) = (.ok (), r₂))
    (houtgoing : r₂.closeStream write = (closed, r₃)) :
    (∀ r₅, ¬ Call.ReachesEmpty ⟨stage, mode, r.stageStart inherited incoming pipes⟩ r₅) ∧
      ∃ story, Honest noneReached r closed story r₃ := by
  obtain ⟨hnone, story, hreleased⟩ := incoming_honest hstage h hincoming
  have hclosed := r₂.closeStream_honest write
  rw [houtgoing] at hclosed
  exact ⟨hnone, _, hclosed.before hreleased.toStretch (hreleased.ok () rfl).1⟩

/-- The stages of a pipeline tell where they fail first, and so does what is closed in between. -/
theorem Recorder.StagesRun.honest {result : Except ExecError Outcome} {leftover : List StreamId}
    (h : StagesRun inherited incoming (stages.map (Command.execute (m := RecorderM))) pipes r result
      leftover r')
    (hstages : ∀ stage ∈ stages, ∀ mode r, Recorder.RunsHonestly r stage mode) :
    ∃ story, Honest (StagesReachEmpty inherited incoming stages pipes r) r result story r' := by
  generalize hactions : stages.map (Command.execute (m := RecorderM)) = actions at h
  induction h generalizing stages with
  | none =>
    rw [List.map_eq_nil_iff] at hactions
    subst hactions
    exact ⟨[], (Honest.quiet (.refl _) .nil _).congr fun _ => iff_of_false StagesReachEmpty.nil id⟩
  | failed hstage =>
    obtain ⟨stage, rest, rfl, rfl, rfl⟩ := List.map_eq_cons_iff.1 hactions
    obtain ⟨story, hran⟩ := stage_honest (hstages stage (List.mem_cons_self ..) _ _) hstage
    refine ⟨story, hran.congr fun _ => StagesReachEmpty.cons.trans (or_iff_left ?_)⟩
    rintro ⟨_, _, _, _, _, _, _, rfl, hstage', -⟩
    cases hstage.symm.trans hstage'
  | incomingKept hstage hincoming =>
    obtain ⟨stage, rest, rfl, rfl, rfl⟩ := List.map_eq_cons_iff.1 hactions
    obtain ⟨hnone, story, hreleased⟩ :=
      incoming_honest (hstages stage (List.mem_cons_self ..) _ _) hstage hincoming
    refine ⟨story, (hreleased.map fun _ => .completed 0).congr fun r₅ => iff_of_false ?_ id⟩
    rw [StagesReachEmpty.cons]
    rintro (hreaches | ⟨_, _, _, _, _, _, _, rfl, hstage', hincoming', -⟩)
    · exact hnone r₅ hreaches
    · cases hstage.symm.trans hstage'
      cases hincoming.symm.trans hincoming'
  | @last _ _ _ _ outcome _ _ hstage hincoming =>
    obtain ⟨stage, rest, rfl, rfl, rfl⟩ := List.map_eq_cons_iff.1 hactions
    obtain ⟨hnone, story, hreleased⟩ :=
      incoming_honest (hstages stage (List.mem_cons_self ..) _ _) hstage hincoming
    refine ⟨story, (hreleased.map fun _ => outcome).congr fun r₅ => iff_of_false ?_ id⟩
    rw [StagesReachEmpty.cons]
    rintro (hreaches | ⟨_, _, _, _, _, _, _, hpipes, -⟩)
    · exact hnone r₅ hreaches
    · cases hpipes
  | outgoingKept hstage hincoming houtgoing =>
    obtain ⟨stage, rest, rfl, rfl, rfl⟩ := List.map_eq_cons_iff.1 hactions
    obtain ⟨hnone, story, hclosed⟩ :=
      outgoing_honest (hstages stage (List.mem_cons_self ..) _ _) hstage hincoming houtgoing
    refine ⟨story, (hclosed.map fun _ => Outcome.completed 0).congr fun r₅ => iff_of_false ?_ id⟩
    rw [StagesReachEmpty.cons]
    rintro (hreaches | ⟨_, _, _, _, _, _, _, ⟨⟩, hstage', hincoming', houtgoing', -⟩)
    · exact hnone r₅ hreaches
    · cases hstage.symm.trans hstage'
      cases hincoming.symm.trans hincoming'
      cases houtgoing.symm.trans houtgoing'
  | @exited _ _ _ _ _ _ _ code _ _ _ hstage hincoming houtgoing =>
    obtain ⟨stage, rest, rfl, rfl, rfl⟩ := List.map_eq_cons_iff.1 hactions
    obtain ⟨hnone, story, hclosed⟩ :=
      outgoing_honest (hstages stage (List.mem_cons_self ..) _ _) hstage hincoming houtgoing
    refine ⟨story, (hclosed.map fun _ => Outcome.terminate code).congr fun r₅ => iff_of_false ?_ id⟩
    rw [StagesReachEmpty.cons]
    rintro (hreaches | ⟨_, _, _, _, _, _, _, ⟨⟩, hstage', -⟩)
    · exact hnone r₅ hreaches
    · cases hstage.symm.trans hstage'
  | next hstage hincoming houtgoing _ ih =>
    obtain ⟨stage, rest, rfl, rfl, rfl⟩ := List.map_eq_cons_iff.1 hactions
    obtain ⟨hnone, story, hclosed⟩ :=
      outgoing_honest (hstages stage (List.mem_cons_self ..) _ _) hstage hincoming houtgoing
    obtain ⟨story', hrest⟩ :=
      ih (fun stage hmem => hstages stage (List.mem_cons_of_mem _ hmem)) rfl
    refine ⟨_, (hrest.before hclosed.toStretch (hclosed.ok () rfl).1).congr fun r₅ => ?_⟩
    refine StagesReachEmpty.cons.trans ((or_iff_right (hnone r₅)).trans ?_)
    constructor
    · rintro ⟨_, _, _, _, _, _, _, ⟨⟩, hstage', hincoming', houtgoing', hreaches⟩
      cases hstage.symm.trans hstage'
      cases hincoming.symm.trans hincoming'
      cases houtgoing.symm.trans houtgoing'
      exact hreaches
    · exact fun hreaches => ⟨_, _, _, _, _, _, _, rfl, hstage, hincoming, houtgoing, hreaches⟩

end Stages

namespace Recorder

namespace RunsHonestly

variable {r : Recorder}

theorem pipeline {primary secondary : Command}
    (h : ∀ stage ∈ (Command.binary .pipe primary secondary).pipelineStages, ∀ mode (r : Recorder),
      r.RunsHonestly stage mode) : r.RunsHonestly (.binary .pipe primary secondary) .wait := by
  have hcongr := fun r₁ => @reachesEmpty_pipe r r₁ primary secondary
  rw [RunsHonestly, execute_pipe, perform_runPipeline, List.length_map]
  generalize (Command.binary .pipe primary secondary).pipelineStages = stages at h hcongr ⊢
  obtain ⟨story, hcreated⟩ := r.createPipes_honest [] (stages.length - 1)
  rcases hpipes : r.perform (createPipes [] (stages.length - 1)) with ⟨e | pipes, r₁⟩ <;>
    rw [hpipes] at hcreated <;> dsimp only at hcreated ⊢
  · refine ⟨story, (hcreated.map fun _ => Outcome.completed 0).congr fun r₂ => ?_⟩
    refine (hcongr r₂).trans (iff_of_false ?_ id)
    rintro ⟨_, _, hpipes', -⟩
    cases hpipes.symm.trans hpipes'
  · obtain ⟨story₁, hstaged⟩ :=
      (stagesRun_runStages ⟨r₁.input, r₁.output⟩ (stages.map Command.execute) none pipes
        r₁).honest h
    generalize (runStages (m := RecorderM) ⟨r₁.input, r₁.output⟩ none
      (stages.map Command.execute) pipes).run r₁ = staged at hstaged ⊢
    obtain ⟨story₂, hreleased, hcleanup⟩ :=
      (staged.2.setStreams r₁.input r₁.output).releaseAll_honest staged.1.2
    generalize (staged.2.setStreams r₁.input r₁.output).perform (releaseAll staged.1.2)
      = released at hreleased ⊢
    have hcollected := released.2.collectSubshells_stretch r₁.subshells.length
    generalize released.2.collectSubshells r₁.subshells.length = collected at hcollected ⊢
    have hrestored := hstaged.after (.setStreams staged.2 r₁.input r₁.output) .nil .nil
    have hclosed := hrestored.closing hreleased hcleanup fun outcome => withExit outcome collected.1
    refine ⟨_, ((hclosed.after hcollected ?_ ?_).before hcreated.toStretch
      (hcreated.ok pipes rfl).1).congr fun r₂ => (hcongr r₂).trans ?_⟩
    · exact fun e hmem => by simp [outside, outsideFrom] at hmem
    · exact fun event hmem => List.mem_singleton.1 hmem ▸ trivial
    · constructor
      · rintro ⟨_, _, hpipes', hreaches⟩
        cases hpipes.symm.trans hpipes'
        exact hreaches
      · exact fun hreaches => ⟨_, _, hpipes, hreaches⟩

theorem redirection {redirect : Redirect} {primary : Command} {path : String} {mode : WaitMode}
    (h : ∀ r : Recorder, r.RunsHonestly primary mode) :
    r.RunsHonestly (.redirection redirect primary path) mode := by
  have hopened := r.openFile_honest redirect path
  rw [RunsHonestly, execute_redirection]
  rcases hfile : r.openFile redirect path with ⟨e | stream, r₁⟩ <;>
    rw [hfile] at hopened <;> dsimp only at hopened ⊢
  · refine ⟨_, (hopened.map fun _ => Outcome.completed 0).congr fun r₂ =>
      reachesEmpty_redirection.trans (iff_of_false ?_ id)⟩
    rintro ⟨_, _, hfile', -⟩
    cases hfile.symm.trans hfile'
  · obtain ⟨story, hran⟩ := h (r₁.activate redirect (some stream))
    generalize (r₁.activate redirect (some stream)).execute primary mode = ran at hran ⊢
    have hrestored := (hran.before (.activate r₁ redirect (some stream)) .nil).after
      (.activate ran.2 redirect (r₁.active redirect)) .nil .nil
    have hclosed := hrestored.closing (closeStream_honest _ stream) (closeStream_cleanup _ stream)
      fun outcome => outcome
    refine ⟨_, (hclosed.before hopened.toStretch (hopened.ok stream rfl).1).congr fun r₂ =>
      reachesEmpty_redirection.trans ?_⟩
    constructor
    · rintro ⟨_, _, hfile', hreaches⟩
      cases hfile.symm.trans hfile'
      exact hreaches
    · exact fun hreaches => ⟨_, _, hfile, hreaches⟩

theorem of_wait {command : Command} (hcomposite : command.isComposite = true)
    (hwait : ∀ r : Recorder, r.RunsHonestly command .wait) (mode : WaitMode) :
    r.RunsHonestly command mode := by
  cases mode with
  | wait => exact hwait r
  | background =>
    obtain ⟨story, hran⟩ := hwait r.inside
    rw [RunsHonestly, execute_background r hcomposite]
    refine ⟨_, (Honest.quiet (resume_stretch hran.toStretch _) ?_ _).congr fun _ =>
      iff_of_false (not_reachesEmpty_background hcomposite) id⟩
    intro e hmem
    rw [outside_subshell hran.level] at hmem
    simp at hmem

theorem sequential {commands : List Command}
    (h : ∀ command ∈ commands, ∀ r : Recorder, r.RunsHonestly command .wait) :
    r.RunsHonestly (.sequential commands) .wait := by
  induction commands generalizing r with
  | nil =>
    refine ⟨[] ++ [], .refl r, nofun, ?_⟩
    rintro _ ⟨⟩
    exact .emptySequence (reachesEmpty_empty.2 rfl) (.refl r) .nil .nil
  | cons first rest ih =>
    obtain ⟨story, hfirst⟩ := h first (List.mem_cons_self ..) r
    cases rest with
    | nil => exact ⟨story, hfirst.congr fun _ => reachesEmpty_singleton⟩
    | cons second rest =>
      rw [RunsHonestly, execute_sequential_cons_cons]
      rcases hran : r.execute first .wait with ⟨e | code | code, r₁⟩ <;> rw [hran] at hfirst
      · refine ⟨story, (hfirst.map fun _ => Outcome.completed 0).congr fun r₂ =>
          reachesEmpty_cons_cons.trans (or_iff_left ?_)⟩
        rintro ⟨_, _, hran', -⟩
        cases hran.symm.trans hran'
      · obtain ⟨hquiet, hnone⟩ := hfirst.ok _ rfl
        obtain ⟨story', hrest⟩ :=
          ih (r := r₁) fun command hmem => h command (List.mem_cons_of_mem _ hmem)
        refine ⟨_, (hrest.before hfirst.toStretch hquiet).congr fun r₂ =>
          reachesEmpty_cons_cons.trans ((or_iff_right (hnone r₂)).trans ?_)⟩
        constructor
        · rintro ⟨_, _, hran', hreaches⟩
          cases hran.symm.trans hran'
          exact hreaches
        · exact fun hreaches => ⟨_, _, hran, hreaches⟩
      · refine ⟨story, hfirst.congr fun r₂ => reachesEmpty_cons_cons.trans (or_iff_left ?_)⟩
        rintro ⟨_, _, hran', -⟩
        cases hran.symm.trans hran'

theorem conditional {connective : Connective} {primary secondary : Command}
    (hconnective : connective ≠ .pipe)
    (hprimary : ∀ r : Recorder, r.RunsHonestly primary .wait)
    (hsecondary : ∀ r : Recorder, r.RunsHonestly secondary .wait) :
    r.RunsHonestly (.binary connective primary secondary) .wait := by
  obtain ⟨story, hfirst⟩ := hprimary r
  rw [RunsHonestly, execute_conditional r hconnective]
  rcases hran : r.execute primary .wait with ⟨e | code | code, r₁⟩ <;> rw [hran] at hfirst
  · refine ⟨story, hfirst.congr fun r₂ =>
      (reachesEmpty_conditional hconnective).trans (or_iff_left ?_)⟩
    rintro ⟨_, _, hran', -⟩
    cases hran.symm.trans hran'
  · dsimp only
    split
    · rename_i hcontinues
      obtain ⟨hquiet, hnone⟩ := hfirst.ok _ rfl
      obtain ⟨story', hsecond⟩ := hsecondary r₁
      refine ⟨_, (hsecond.before hfirst.toStretch hquiet).congr fun r₂ =>
        (reachesEmpty_conditional hconnective).trans ((or_iff_right (hnone r₂)).trans ?_)⟩
      constructor
      · rintro ⟨_, _, hran', -, hreaches⟩
        cases hran.symm.trans hran'
        exact hreaches
      · exact fun hreaches => ⟨_, _, hran, hcontinues, hreaches⟩
    · rename_i hstops
      refine ⟨story, hfirst.congr fun r₂ =>
        (reachesEmpty_conditional hconnective).trans (or_iff_left ?_)⟩
      rintro ⟨_, _, hran', hcontinues, -⟩
      cases hran.symm.trans hran'
      exact hstops hcontinues
  · refine ⟨story, hfirst.congr fun r₂ =>
      (reachesEmpty_conditional hconnective).trans (or_iff_left ?_)⟩
    rintro ⟨_, _, hran', -⟩
    cases hran.symm.trans hran'

end RunsHonestly

/-- Every command tells where it fails first. -/
theorem runsHonestly (command : Command) :
    ∀ (mode : WaitMode) (r : Recorder), r.RunsHonestly command mode := by
  induction command using Command.stages_induction with
  | executable program arguments =>
    intro mode r
    rw [RunsHonestly, execute_executable, spawn_fst]
    exact ⟨_, ((r.spawn_honest program arguments mode).map Outcome.completed).congr fun _ =>
      iff_of_false not_reachesEmpty_executable id⟩
  | builtin action =>
    intro mode r
    obtain ⟨story, hanswered⟩ := r.respond_honest (action.answer r.script.fileKind)
    rw [RunsHonestly, execute_builtin]
    exact ⟨story, hanswered.congr fun _ => iff_of_false not_reachesEmpty_builtin id⟩
  | sequential commands ih =>
    exact fun mode r => .of_wait rfl
      (fun _ => .sequential fun command hmem => ih command hmem .wait) mode
  | conditional connective primary secondary hconnective hprimary hsecondary =>
    exact fun mode r => .of_wait rfl
      (fun _ => .conditional hconnective (hprimary .wait) (hsecondary .wait)) mode
  | pipeline primary secondary ih => exact fun mode r => .of_wait rfl (fun _ => .pipeline ih) mode
  | redirection redirect primary path ih => exact fun mode r => .redirection (ih mode)

/-- A command fails just when a call fails outside of subshells or it comes to an empty sequence
there, and then what it reports is the first such failure, after which it only cleans up. -/
theorem execute_fails_first (r : Recorder) (command : Command) (mode : WaitMode) :
    ∃ story, (r.execute command mode).2.events.toList = r.events.toList ++ story ∧
      ((∃ e, (r.execute command mode).1 = .error e) ↔
        (∃ e, .failed e ∈ outside story) ∨ ∃ r₁, Call.ReachesEmpty ⟨command, mode, r⟩ r₁) ∧
      ∀ e, (r.execute command mode).1 = .error e →
        FirstFailure (Call.ReachesEmpty ⟨command, mode, r⟩) r e story := by
  obtain ⟨story, hran⟩ := runsHonestly command mode r
  refine ⟨story, hran.events, ⟨?_, ?_⟩, hran.error⟩
  · rintro ⟨e, he⟩
    exact (hran.error e he).failed_or_reached
  · intro hfailed
    cases hresult : (r.execute command mode).1 with
    | error e => exact ⟨e, rfl⟩
    | ok outcome =>
      obtain ⟨hquiet, hnone⟩ := hran.ok outcome hresult
      rcases hfailed with ⟨e, hmem⟩ | ⟨r₁, hreaches⟩
      · exact absurd hmem (hquiet e)
      · exact absurd hreaches (hnone r₁)

end Recorder

end CommandShell
