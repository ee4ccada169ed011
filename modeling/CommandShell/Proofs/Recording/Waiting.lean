import CommandShell.Proofs.Recording.Cleanup
set_option autoImplicit false

/-!
# Nobody waits while holding a pipe

A program that reads from a pipe comes to the end of its input only when every write end of the pipe
has been closed.  So an interpreter that waited while it holds a write end could wait forever.

A monitor that takes one event after the other knows which write ends each of the interpreters
under way holds, and it refuses a story in which one of them waits while it holds any.  As long as
streams can be closed, the story of a command is never refused.
-/

namespace CommandShell

/-- The interpreter waits, for a program or for subshells. -/
def Event.waits : Event → Bool
  | .spawn _ _ .wait _ _ | .collect _ => true
  | _ => false

/-- Whenever an interpreter waits, it has closed the write end of each pipe that it has opened in
the story.  What happens between the two is the same interpreter's if all subshells that start in
between have ended and no other one has. -/
def HoldsNoWriteEnd (story : List Event) : Prop :=
  ∀ before read write between event after,
    story = before ++ .pipe read write :: (between ++ event :: after) →
    Level between → event.waits = true → .close write ∈ outside between

/-! ## The monitor -/

/-- What the interpreters under way hold. -/
structure Holding where
  /-- The write ends that the innermost interpreter holds. -/
  held : List StreamId := []
  /-- Those that the interpreters around it hold, from the inside to the outside. -/
  outer : List (List StreamId) := []

namespace Holding

/-- What is held after an event. -/
def step (h : Holding) : Event → Holding
  | .subshell .. => ⟨[], h.held :: h.outer⟩
  | .subshellEnded _ => ⟨h.outer.headD [], h.outer.tail⟩
  | .pipe _ write => { h with held := write :: h.held }
  | .close id => { h with held := h.held.filter (· ≠ id) }
  | _ => h

/-- Takes an event, unless somebody waits while holding a write end. -/
def step? (h : Holding) (event : Event) : Option Holding :=
  if event.waits && !h.held.isEmpty then none else some (h.step event)

/-- Takes the events of a story. -/
def run? (h : Holding) (story : List Event) : Option Holding := story.foldlM step? h

theorem run?_append (h : Holding) (story story' : List Event) :
    h.run? (story ++ story') = (h.run? story).bind (·.run? story') := List.foldlM_append

theorem run?_cons (h : Holding) (event : Event) (story : List Event) :
    h.run? (event :: story) = (h.step? event).bind (·.run? story) := List.foldlM_cons

theorem step?_eq_some {h h' : Holding} {event : Event} (hstep : h.step? event = some h') :
    h' = h.step event ∧ (event.waits = true → h.held = []) := by
  unfold step? at hstep
  split at hstep
  · cases hstep
  · cases hstep
    simp_all

/-- An interpreter holds a write end, and so many subshells are under way inside it. -/
def Holds (h : Holding) (depth : Nat) (write : StreamId) : Prop :=
  ∃ held, (h.held :: h.outer)[depth]? = some held ∧ write ∈ held

/-- Unless the interpreter closes it or ends, it still holds the write end after an event. -/
theorem Holds.step {h : Holding} {depth : Nat} {write : StreamId} (hholds : h.Holds depth write)
    {event : Event} (hwithin : event.depthAfter (depth + 1) ≠ 0) :
    (h.step event).Holds (event.depthAfter depth) write ∨ event = .close write ∧ depth = 0 := by
  obtain ⟨held, hat, hmem⟩ := hholds
  cases event with
  | subshell input output => exact Or.inl ⟨held, hat, hmem⟩
  | subshellEnded outcome =>
    obtain ⟨depth, rfl⟩ := Nat.exists_eq_succ_of_ne_zero hwithin
    obtain ⟨innermost, _ | ⟨next, outer⟩⟩ := h
    · cases hat
    · exact Or.inl ⟨held, hat, hmem⟩
  | pipe read write' =>
    refine Or.inl ?_
    cases depth with
    | zero =>
      cases hat
      exact ⟨_, rfl, List.mem_cons_of_mem _ hmem⟩
    | succ depth => exact ⟨held, hat, hmem⟩
  | close id =>
    cases depth with
    | zero =>
      cases hat
      by_cases hid : write = id
      · exact Or.inr ⟨by rw [hid], rfl⟩
      · exact Or.inl ⟨_, rfl, List.mem_filter.2 ⟨hmem, decide_eq_true hid⟩⟩
    | succ depth => exact Or.inl ⟨held, hat, hmem⟩
  | _ => exact Or.inl ⟨held, hat, hmem⟩

/-- While an interpreter lasts, it holds the write ends that it held before and has not closed. -/
theorem Holds.run {write : StreamId} {story : List Event} {depth : Nat} {h h' : Holding}
    (hholds : h.Holds depth write) (hrun : h.run? story = some h')
    (hwithin : outsideFrom (depth + 1) story = [])
    (hend : story.foldl Event.depthAfter (depth + 1) = 1) :
    h'.Holds 0 write ∨ .close write ∈ outsideFrom depth story := by
  induction story generalizing depth h with
  | nil =>
    cases hrun
    obtain rfl : depth = 0 := Nat.succ.inj hend
    exact Or.inl hholds
  | cons event story ih =>
    rw [run?_cons, Option.bind_eq_some_iff] at hrun
    obtain ⟨h₁, hstep, hrun⟩ := hrun
    obtain ⟨rfl, -⟩ := step?_eq_some hstep
    rw [List.foldl_cons] at hend
    rw [outsideFrom] at hwithin
    -- An event that ended the interpreter would leave nothing after it and not the right depth.
    have hlasts : event.depthAfter (depth + 1) ≠ 0 := by
      intro hended
      rw [hended] at hwithin hend
      cases story with
      | nil => cases hend
      | cons => cases hwithin
    have hdepth : event.depthAfter (depth + 1) = event.depthAfter depth + 1 := by
      cases event with
      | subshellEnded => exact (Nat.succ_pred hlasts).symm
      | _ => rfl
    rw [hdepth] at hwithin hend
    rcases hholds.step hlasts with hholds | ⟨rfl, rfl⟩
    · refine (ih hholds hrun hwithin hend).imp_right fun hclosed => ?_
      cases depth with
      | zero => exact List.mem_cons_of_mem _ hclosed
      | succ depth => exact hclosed
    · exact Or.inr (List.mem_cons_self ..)

end Holding

/-- A story that the monitor does not refuse is one in which nobody waits while holding a pipe. -/
theorem HoldsNoWriteEnd.of_run? {story : List Event} {h h' : Holding}
    (hrun : h.run? story = some h') : HoldsNoWriteEnd story := by
  rintro before read write between event after rfl hlevel hwaits
  rw [Holding.run?_append, Option.bind_eq_some_iff] at hrun
  obtain ⟨h₁, -, hrun⟩ := hrun
  rw [Holding.run?_cons, Option.bind_eq_some_iff] at hrun
  obtain ⟨h₂, hpipe, hrun⟩ := hrun
  obtain ⟨rfl, -⟩ := Holding.step?_eq_some hpipe
  rw [Holding.run?_append, Option.bind_eq_some_iff] at hrun
  obtain ⟨h₃, hbetween, hrun⟩ := hrun
  rw [Holding.run?_cons, Option.bind_eq_some_iff] at hrun
  obtain ⟨h₄, hevent, -⟩ := hrun
  obtain ⟨-, hfree⟩ := Holding.step?_eq_some hevent
  have hholds : (h₁.step (.pipe read write)).Holds 0 write := ⟨_, rfl, List.mem_cons_self ..⟩
  refine (hholds.run hbetween (hlevel 0).2 (hlevel 1).1).resolve_left ?_
  rintro ⟨held, hat, hmem⟩
  cases hat
  rw [hfree hwaits] at hmem
  exact List.not_mem_nil hmem

/-! ## Guarded stories -/

/-- An interpreter that holds at most the given write ends is not refused, and holds at most the
given ones after its story. -/
def Guarded (held : List StreamId) (story : List Event) (held' : List StreamId) : Prop :=
  ∀ now, now ⊆ held → ∀ outer, ∃ later, later ⊆ held' ∧
    Holding.run? ⟨now, outer⟩ story = some ⟨later, outer⟩

namespace Guarded

variable {held held₁ held' : List StreamId} {story story' : List Event}

theorem nil (hsub : held ⊆ held') : Guarded held [] held' :=
  fun now hnow _ => ⟨now, List.Subset.trans hnow hsub, rfl⟩

theorem append (h : Guarded held story held₁) (h' : Guarded held₁ story' held') :
    Guarded held (story ++ story') held' := by
  intro now hnow outer
  obtain ⟨between, hbetween, hrun⟩ := h now hnow outer
  obtain ⟨later, hlater, hrun'⟩ := h' between hbetween outer
  refine ⟨later, hlater, ?_⟩
  rw [Holding.run?_append, hrun]
  exact hrun'

theorem mono (h : Guarded held story held₁) (hsub : held₁ ⊆ held') : Guarded held story held' := by
  intro now hnow outer
  obtain ⟨later, hlater, hrun⟩ := h now hnow outer
  exact ⟨later, List.Subset.trans hlater hsub, hrun⟩

/-- An event without a wait, by what is held after it. -/
theorem event {event : Event} (hwaits : event.waits = false)
    (hstep : ∀ now, now ⊆ held → ∀ outer, ∃ later, later ⊆ held' ∧
      Holding.step ⟨now, outer⟩ event = ⟨later, outer⟩) : Guarded held [event] held' := by
  intro now hnow outer
  obtain ⟨later, hlater, heq⟩ := hstep now hnow outer
  refine ⟨later, hlater, ?_⟩
  rw [Holding.run?_cons, Holding.step?, hwaits, ← heq]
  rfl

/-- Neither a wait nor the opening or closing of a stream. -/
theorem idle {event : Event} (hwaits : event.waits = false)
    (hstep : ∀ h : Holding, h.step event = h) : Guarded held [event] held :=
  .event hwaits fun now hnow _ => ⟨now, hnow, hstep _⟩

theorem pipe (read write : StreamId) : Guarded held [.pipe read write] (write :: held) :=
  .event rfl fun now hnow _ => ⟨write :: now, List.cons_subset_cons write hnow, rfl⟩

theorem close {id : StreamId} (hsub : ∀ write ∈ held, write ≠ id → write ∈ held') :
    Guarded held [.close id] held' := by
  refine .event rfl fun now hnow _ => ⟨_, fun write hmem => ?_, rfl⟩
  obtain ⟨hmem, hne⟩ := List.mem_filter.1 hmem
  exact hsub write (hnow hmem) (of_decide_eq_true hne)

/-- An interpreter that holds nothing may wait. -/
theorem wait {event : Event} (hstep : ∀ h : Holding, h.step event = h) :
    Guarded [] [event] [] := by
  intro now hnow outer
  obtain rfl := List.eq_nil_of_subset_nil hnow
  refine ⟨[], List.nil_subset _, ?_⟩
  simp [Holding.step?, hstep, Holding.run?]

/-- A subshell holds nothing when it starts. -/
theorem subshell (h : Guarded [] story []) (input output : Option StreamId) (outcome : Outcome) :
    Guarded held (.subshell input output :: story ++ [.subshellEnded outcome]) held := by
  intro now hnow outer
  obtain ⟨later, -, hrun⟩ := h [] (List.nil_subset _) (now :: outer)
  refine ⟨now, hnow, ?_⟩
  rw [List.cons_append, Holding.run?_cons]
  show Holding.run? ⟨[], now :: outer⟩ (story ++ [.subshellEnded outcome]) = _
  rw [Holding.run?_append, hrun]
  rfl

end Guarded

/-! ## Commands -/

/-- A stretch that is guarded as long as streams can be closed. -/
structure Vigil (r : Recorder) (held : List StreamId) (story : List Event) (r' : Recorder)
    (held' : List StreamId) : Prop extends Stretch r story r' where
  guarded : refuses story = [] → Guarded held story held'

namespace Vigil

variable {r r₁ r' : Recorder} {held held₁ held' : List StreamId} {story story' : List Event}

theorem trans (h : Vigil r held story r₁ held₁) (h' : Vigil r₁ held₁ story' r' held') :
    Vigil r held (story ++ story') r' held' where
  toStretch := h.toStretch.trans h'.toStretch
  guarded hrefuses := by
    rw [refuses_append, List.append_eq_nil_iff] at hrefuses
    exact (h.guarded hrefuses.1).append (h'.guarded hrefuses.2)

theorem mono (h : Vigil r held story r' held₁) (hsub : held₁ ⊆ held') :
    Vigil r held story r' held' :=
  ⟨h.toStretch, fun hrefuses => (h.guarded hrefuses).mono hsub⟩

/-- A change of what no story tells of. -/
theorem of_stretch (h : Stretch r [] r') : Vigil r held [] r' held :=
  ⟨h, fun _ => .nil (List.Subset.refl held)⟩

theorem spawn (r : Recorder) (program : String) (arguments : List String) {mode : WaitMode}
    (hheld : mode = .wait → held = []) :
    Vigil r held (.spawn program arguments mode r.input r.output ::
        Recorder.failure (r.spawnResult program mode))
      (r.spawn program arguments mode).2 held where
  toStretch := r.spawn_stretch program arguments mode
  guarded _ := by
    have hspawn : Guarded held [.spawn program arguments mode r.input r.output] held := by
      cases mode with
      | wait =>
        rw [hheld rfl]
        exact .wait fun _ => rfl
      | background => exact .idle rfl fun _ => rfl
    refine hspawn.append ?_
    cases r.spawnResult program mode with
    | ok code => exact .nil (List.Subset.refl held)
    | error e => exact .idle rfl fun _ => rfl

/-- An operation that neither waits nor opens a pipe nor closes a stream. -/
theorem operation {α : Type} {success : α → Event} {result : Except ExecError α}
    (h : Stretch r [outcomeEvent success result] r')
    (hsuccess : ∀ a, (success a).waits = false ∧ ∀ h : Holding, h.step (success a) = h) :
    Vigil r held [outcomeEvent success result] r' held where
  toStretch := h
  guarded _ := by
    cases result with
    | ok a => exact .idle (hsuccess a).1 (hsuccess a).2
    | error e => exact .idle rfl fun _ => rfl

/-- A stream that has been closed is not held. -/
theorem closeStream (r : Recorder) {id : StreamId}
    (hsub : ∀ write ∈ held, write ≠ id → write ∈ held') :
    Vigil r held [outcomeEvent (fun _ => .close id) (r.closeStream id).1] (r.closeStream id).2
      held' where
  toStretch := r.closeStream_stretch id
  guarded hrefuses := by
    rcases r.closeStream_cases id with ⟨hresult, -⟩ | ⟨hresult, -⟩ <;> rw [hresult] at hrefuses ⊢
    · cases hrefuses
    · exact .close hsub

theorem releaseAll (r : Recorder) {ids : List StreamId}
    (hsub : ∀ write ∈ held, write ∉ ids → write ∈ held') :
    ∃ story, Vigil r held story (r.perform (releaseAll ids)).2 held' := by
  induction ids generalizing r held with
  | nil => exact ⟨[], .refl r, fun _ => .nil fun write hmem => hsub write hmem List.not_mem_nil⟩
  | cons id ids ih =>
    have hfirst : Vigil r held _ _ (held.filter (· ≠ id)) := closeStream r fun write hmem hne =>
      List.mem_filter.2 ⟨hmem, decide_eq_true hne⟩
    have hothers : ∀ write ∈ held.filter (· ≠ id), write ∉ ids → write ∈ held' := by
      intro write hmem hnot
      obtain ⟨hmem, hne⟩ := List.mem_filter.1 hmem
      exact hsub write hmem (not_or.2 ⟨of_decide_eq_true hne, hnot⟩ ∘ List.mem_cons.1)
    obtain ⟨story, hrest⟩ := ih (r.closeStream id).2 hothers
    rw [Recorder.perform_releaseAll_cons]
    exact ⟨_, hfirst.trans hrest⟩

theorem resume {after : Recorder} (h : Vigil r.inside [] story after [])
    (result : Except ExecError Outcome) :
    Vigil r held (.subshell r.input r.output :: story ++ [.subshellEnded (Recorder.settled result)])
      (r.resume result after) held where
  toStretch := Recorder.resume_stretch h.toStretch result
  guarded hrefuses := by
    rw [List.cons_append, refuses_subshell] at hrefuses
    exact (h.guarded hrefuses).subshell _ _ _

theorem collectSubshells (r : Recorder) (keep : Nat) :
    Vigil r [] [.collect keep] (r.collectSubshells keep).2 [] :=
  ⟨r.collectSubshells_stretch keep, fun _ => .wait fun _ => rfl⟩

theorem respond (r : Recorder) (answer : Builtin.Answer) :
    ∃ story, Vigil r held story (r.respond answer).2 held := by
  rw [Recorder.respond_snd]
  have htold : Vigil r held [] (r.tell answer.notice) held := .of_stretch (.tell r answer.notice)
  cases answer.text with
  | none => exact ⟨[], htold⟩
  | some text =>
    have hwritten := Recorder.writeOutput_stretch (r.tell answer.notice) text
    exact ⟨_, htold.trans (.operation hwritten fun _ => ⟨rfl, fun _ => rfl⟩)⟩

theorem mem_pipeEnds {pipes : List (StreamId × StreamId)} {write : StreamId}
    (hmem : write ∈ pipes.map Prod.snd) : write ∈ pipeEnds pipes := by
  obtain ⟨pipe, hpipe, rfl⟩ := List.mem_map.1 hmem
  exact List.mem_flatMap.2 ⟨pipe, hpipe, by simp⟩

/-- The pipes that are open are held, or none is. -/
theorem createPipes (r : Recorder) (opened : List (StreamId × StreamId)) (count : Nat) :
    ∃ story, Vigil r (opened.map Prod.snd) story (r.perform (createPipes opened count)).2
      (match (r.perform (CommandShell.createPipes opened count)).1 with
        | .ok pipes => pipes.map Prod.snd
        | .error _ => []) := by
  induction count generalizing r opened with
  | zero => exact ⟨[], .of_stretch (.refl r)⟩
  | succ count ih =>
    have hstretch := r.createPipe_stretch
    rw [Recorder.perform_createPipes_succ]
    generalize r.createPipe = created at hstretch ⊢
    rcases created with ⟨e | ⟨read, write⟩, r₁⟩
    · have hfailed : Vigil r (opened.map Prod.snd) [.failed e] r₁ (opened.map Prod.snd) :=
        ⟨hstretch, fun _ => .idle rfl fun _ => rfl⟩
      have hall : ∀ write ∈ opened.map Prod.snd, write ∉ pipeEnds opened → write ∈ [] :=
        fun write hmem hnot => absurd (mem_pipeEnds hmem) hnot
      obtain ⟨story, hreleased⟩ := releaseAll r₁ hall
      exact ⟨_, hfailed.trans hreleased⟩
    · have hcreated : Vigil r (opened.map Prod.snd) [.pipe read write] r₁
          ((opened ++ [(read, write)]).map Prod.snd) := by
        refine ⟨hstretch, fun _ => (Guarded.pipe read write).mono ?_⟩
        simp
      obtain ⟨story, hrest⟩ := ih r₁ (opened ++ [(read, write)])
      exact ⟨_, hcreated.trans hrest⟩

end Vigil

/-- Whatever comes of the action, it is guarded; the interpreter may hold write ends when it runs
the action in the background. -/
def Watchful (action : Action RecorderM) : Prop :=
  ∀ (r : Recorder) (held : List StreamId) (mode : WaitMode), (mode = .wait → held = []) →
    ∃ story, Vigil r held story (r.perform (action mode)).2 held

section Stages

variable {inherited : Inherited} {incoming : Option StreamId} {pipes : List (StreamId × StreamId)}
  {stages : List (Action RecorderM)} {r r' : Recorder} {result : Except ExecError Outcome}
  {leftover : List StreamId}

theorem Vigil.stage {stage : Action RecorderM} {mode : WaitMode} {held : List StreamId}
    {outcome : Except ExecError Outcome} {r₁ : Recorder} (hstage : Watchful stage)
    (hheld : mode = .wait → held = [])
    (h : (r.stageStart inherited incoming pipes).perform (stage mode) = (outcome, r₁)) :
    ∃ story, Vigil r held story r₁ held := by
  obtain ⟨story, hran⟩ := hstage (r.stageStart inherited incoming pipes) held mode hheld
  rw [h] at hran
  exact ⟨_, (Vigil.of_stretch (.setStreams r _ _)).trans hran⟩

theorem Vigil.incomingClosed {stage : Action RecorderM} {mode : WaitMode} {held : List StreamId}
    {outcome : Except ExecError Outcome} {released : Except ExecError Unit} {r₁ r₂ : Recorder}
    (hstage : Watchful stage) (hheld : mode = .wait → held = [])
    (h : (r.stageStart inherited incoming pipes).perform (stage mode) = (outcome, r₁))
    (hincoming : r₁.perform (CommandShell.releaseAll incoming.toList) = (released, r₂)) :
    ∃ story, Vigil r held story r₂ held := by
  obtain ⟨story, hran⟩ := Vigil.stage hstage hheld h
  have hkept : ∀ write ∈ held, write ∉ incoming.toList → write ∈ held := fun _ hmem _ => hmem
  obtain ⟨story', hreleased⟩ := Vigil.releaseAll r₁ hkept
  rw [hincoming] at hreleased
  exact ⟨_, hran.trans hreleased⟩

/-- After a stage the pipe behind it is no longer held. -/
theorem Vigil.outgoingClosed {stage : Action RecorderM} {held : List StreamId} {write : StreamId}
    {outcome : Except ExecError Outcome} {released closed : Except ExecError Unit}
    {r₁ r₂ r₃ : Recorder} (hstage : Watchful stage)
    (h : (r.stageStart inherited incoming pipes).perform (stage .background) = (outcome, r₁))
    (hincoming : r₁.perform (CommandShell.releaseAll incoming.toList) = (released, r₂))
    (houtgoing : r₂.closeStream write = (closed, r₃)) :
    ∃ story, Vigil r (write :: held) story r₃ held := by
  have hbackground : WaitMode.background = .wait → write :: held = [] := nofun
  obtain ⟨story, hreleased⟩ := Vigil.incomingClosed hstage hbackground h hincoming
  have hclosed : Vigil r₂ (write :: held) _ _ held := .closeStream r₂ fun _ hmem hne =>
    (List.mem_cons.1 hmem).resolve_left hne
  rw [houtgoing] at hclosed
  exact ⟨_, hreleased.trans hclosed⟩

/-- Behind a stage that is waited for there is no pipe. -/
theorem Recorder.eq_nil_of_stageMode_eq (h : stageMode pipes = .wait) :
    pipes.map Prod.snd = [] := by
  cases pipes with
  | nil => rfl
  | cons => cases h

/-- While the stages of a pipeline run, the pipes behind those that have not run are held. -/
theorem Recorder.StagesRun.vigil
    (h : Recorder.StagesRun inherited incoming stages pipes r result leftover r')
    (hstages : ∀ stage ∈ stages, Watchful stage) :
    ∃ story, Vigil r (pipes.map Prod.snd) story r' leftover := by
  induction h with
  | none =>
    exact ⟨[], (Vigil.of_stretch (.refl _)).mono fun write hmem =>
      List.mem_append_right _ (Vigil.mem_pipeEnds hmem)⟩
  | failed hstage =>
    obtain ⟨story, hran⟩ :=
      Vigil.stage (hstages _ (List.mem_cons_self ..)) eq_nil_of_stageMode_eq hstage
    exact ⟨story, hran.mono fun write hmem =>
      List.mem_append_right _ (Vigil.mem_pipeEnds hmem)⟩
  | incomingKept hstage hincoming =>
    obtain ⟨story, hreleased⟩ := Vigil.incomingClosed (hstages _ (List.mem_cons_self ..))
      eq_nil_of_stageMode_eq hstage hincoming
    exact ⟨story, hreleased.mono fun write hmem => Vigil.mem_pipeEnds hmem⟩
  | last hstage hincoming =>
    exact Vigil.incomingClosed (hstages _ (List.mem_cons_self ..)) (fun _ => rfl) hstage hincoming
  | outgoingKept hstage hincoming houtgoing =>
    obtain ⟨story, hclosed⟩ :=
      Vigil.outgoingClosed (hstages _ (List.mem_cons_self ..)) hstage hincoming houtgoing
    exact ⟨story, hclosed.mono fun write hmem =>
      List.mem_cons_of_mem _ (Vigil.mem_pipeEnds hmem)⟩
  | exited hstage hincoming houtgoing =>
    obtain ⟨story, hclosed⟩ :=
      Vigil.outgoingClosed (hstages _ (List.mem_cons_self ..)) hstage hincoming houtgoing
    exact ⟨story, hclosed.mono fun write hmem =>
      List.mem_cons_of_mem _ (Vigil.mem_pipeEnds hmem)⟩
  | next hstage hincoming houtgoing _ ih =>
    obtain ⟨story, hclosed⟩ :=
      Vigil.outgoingClosed (hstages _ (List.mem_cons_self ..)) hstage hincoming houtgoing
    obtain ⟨story', hrest⟩ := ih fun stage hmem => hstages stage (List.mem_cons_of_mem _ hmem)
    exact ⟨_, hclosed.trans hrest⟩

end Stages

/-! ### Kinds of commands -/

/-- What is waited for is guarded when nothing is held. -/
def WaitsWatchful (action : ExceptT ExecError RecorderM Outcome) : Prop :=
  ∀ r : Recorder, ∃ story, Vigil r [] story (r.perform action).2 []

theorem Watchful.wait {action : Action RecorderM} (h : Watchful action) :
    WaitsWatchful (action .wait) :=
  fun r => h r [] .wait fun _ => rfl

theorem WaitsWatchful.runPipeline {stages : List (Action RecorderM)}
    (hstages : ∀ stage ∈ stages, Watchful stage) : WaitsWatchful (runPipeline stages) := by
  intro r
  obtain ⟨story, hcreated⟩ := Vigil.createPipes r [] (stages.length - 1)
  rw [Recorder.perform_runPipeline]
  rcases hpipes : r.perform (createPipes [] (stages.length - 1)) with ⟨e | pipes, r₁⟩ <;>
    rw [hpipes] at hcreated <;> dsimp only at hcreated ⊢
  · exact ⟨story, hcreated⟩
  obtain ⟨story₁, hstaged⟩ :=
    (Recorder.stagesRun_runStages ⟨r₁.input, r₁.output⟩ stages none pipes r₁).vigil hstages
  rcases hran : (runStages ⟨r₁.input, r₁.output⟩ none stages pipes).run r₁ with
    ⟨⟨result, leftover⟩, r₂⟩
  rw [hran] at hstaged
  dsimp only at hstaged ⊢
  have hrestored := hstaged.trans (.of_stretch (.setStreams r₂ r₁.input r₁.output))
  have hall : ∀ write ∈ leftover, write ∉ leftover → write ∈ [] :=
    fun write hmem hnot => absurd hmem hnot
  obtain ⟨story₂, hreleased⟩ := Vigil.releaseAll (r₂.setStreams r₁.input r₁.output) hall
  exact ⟨_, hcreated.trans (hrestored.trans (hreleased.trans (.collectSubshells _ _)))⟩

theorem Watchful.redirection {redirect : Redirect} {primary : Command} {path : String}
    (h : Watchful primary.execute) :
    Watchful (Command.redirection redirect primary path).execute := by
  intro r held mode hheld
  show ∃ story, Vigil r held story (r.execute _ mode).2 held
  have hopened : Vigil r held _ (r.openFile redirect path).2 held :=
    .operation (r.openFile_stretch redirect path) fun _ => ⟨rfl, fun _ => rfl⟩
  rw [Recorder.execute_redirection]
  generalize r.openFile redirect path = opened at hopened ⊢
  rcases opened with ⟨e | stream, r₁⟩ <;> dsimp only at hopened ⊢
  · exact ⟨_, hopened⟩
  have hstarted := hopened.trans (.of_stretch (.activate r₁ redirect (some stream)))
  obtain ⟨story, hran⟩ := h (r₁.activate redirect (some stream)) held mode hheld
  change Vigil _ held story (Recorder.execute _ primary mode).2 held at hran
  generalize (r₁.activate redirect (some stream)).execute primary mode = ran at hran ⊢
  have hrestored := hran.trans (.of_stretch (.activate ran.2 redirect (r₁.active redirect)))
  have hclosed : Vigil _ held _ (Recorder.closeStream stream _).2 held :=
    .closeStream (ran.2.activate redirect (r₁.active redirect)) fun _ hmem _ => hmem
  exact ⟨_, hstarted.trans (hrestored.trans hclosed)⟩

theorem Watchful.of_wait {command : Command} (hcomposite : command.isComposite = true)
    (hwait : WaitsWatchful (command.execute .wait)) : Watchful command.execute := by
  intro r held mode hheld
  cases mode with
  | wait =>
    rw [hheld rfl]
    exact hwait r
  | background =>
    obtain ⟨story, hran⟩ := hwait r.inside
    show ∃ story, Vigil r held story (r.execute command .background).2 held
    rw [Recorder.execute_background r hcomposite]
    exact ⟨_, .resume hran _⟩

theorem WaitsWatchful.sequential {commands : List Command}
    (h : ∀ command ∈ commands, WaitsWatchful (command.execute .wait)) :
    WaitsWatchful ((Command.sequential commands).execute .wait) :=
  Recorder.execute_sequential_of_trans (fun r r' => ∃ story, Vigil r [] story r' [])
    (fun ⟨_, h⟩ ⟨_, h'⟩ => ⟨_, h.trans h'⟩) (fun r => ⟨[], .of_stretch (.refl r)⟩) h

theorem WaitsWatchful.conditional {connective : Connective} {primary secondary : Command}
    (hconnective : connective ≠ .pipe) (hprimary : WaitsWatchful (primary.execute .wait))
    (hsecondary : WaitsWatchful (secondary.execute .wait)) :
    WaitsWatchful ((Command.binary connective primary secondary).execute .wait) :=
  Recorder.execute_conditional_of_trans (fun r r' => ∃ story, Vigil r [] story r' [])
    (fun ⟨_, h⟩ ⟨_, h'⟩ => ⟨_, h.trans h'⟩) hconnective hprimary hsecondary

/-- Every command is watchful. -/
theorem Command.watchful (command : Command) : Watchful command.execute := by
  induction command using Command.stages_induction with
  | executable program arguments =>
    intro r held mode hheld
    show ∃ story, Vigil r held story (r.execute _ mode).2 held
    rw [Recorder.execute_executable]
    exact ⟨_, .spawn r program arguments hheld⟩
  | builtin action =>
    intro r held mode hheld
    show ∃ story, Vigil r held story (r.execute _ mode).2 held
    rw [Recorder.execute_builtin]
    exact Vigil.respond r _
  | sequential commands ih =>
    exact .of_wait rfl (.sequential fun command hmem => (ih command hmem).wait)
  | conditional connective primary secondary hconnective hprimary hsecondary =>
    exact .of_wait rfl (.conditional hconnective hprimary.wait hsecondary.wait)
  | pipeline primary secondary ih =>
    refine .of_wait rfl ?_
    rw [Command.execute_pipe]
    exact .runPipeline (List.forall_mem_map.2 ih)
  | redirection redirect primary path ih => exact .redirection ih

/-- In a run in which every stream can be closed, nobody waits while holding a pipe. -/
theorem Recorder.execute_wait_guarded (r : Recorder) (command : Command) :
    ∃ story, Stretch r story (r.execute command .wait).2 ∧
      (refuses story = [] → HoldsNoWriteEnd story) := by
  obtain ⟨story, hran⟩ := command.watchful.wait r
  refine ⟨story, hran.toStretch, fun hrefuses => ?_⟩
  obtain ⟨later, -, hrun⟩ := hran.guarded hrefuses [] (List.Subset.refl []) []
  exact .of_run? hrun

/-- When no attempt to close a stream is made to fail, nobody waits while holding a pipe. -/
theorem Recorder.execute_holdsNoWriteEnd (r : Recorder) (command : Command)
    (hcloses : ∀ earlier id, r.closePlan earlier id = false) :
    ∃ story, (r.execute command .wait).2.events.toList = r.events.toList ++ story ∧
      HoldsNoWriteEnd story := by
  obtain ⟨story, hran, hholds⟩ := r.execute_wait_guarded command
  obtain ⟨story', htidy⟩ := command.cleansUp .wait r
  obtain rfl : story = story' := List.append_cancel_left (hran.events.symm.trans htidy.events)
  refine ⟨story, hran.events, hholds ?_⟩
  -- Only attempts that are made to fail do fail.
  rw [htidy.refuses_eq, refused_eq_nil hcloses]

/-- A pipeline within a sequence that is the last stage of a pipeline: the subshell waits for a
program, and the shell around it for two programs and twice for subshells.  A third pipe cannot be
opened. -/
theorem execute_holdsNoWriteEnd_nested :
    let r : Recorder := {
      script := .plain, faults := some { Faults.none with pipe := fun earlier => earlier == 2 } }
    let inner := Command.binary .pipe (.executable "ls" []) (.executable "sort" [])
    let command := Command.binary .pipe
      (.binary .disjunction (.executable "ls" []) (.executable "false" []))
      (.sequential [inner, .redirection .output (.executable "wc" []) "list", inner])
    (∀ earlier id, r.closePlan earlier id = false) ∧
      (∃ story, (r.execute command .wait).2.events.toList = r.events.toList ++ story ∧
        HoldsNoWriteEnd story) ∧
      (r.execute command .wait).2.events.toList.countP Event.waits = 5 := by
  intro r inner command
  have hcloses : ∀ earlier id, r.closePlan earlier id = false := fun _ _ => rfl
  exact ⟨hcloses, r.execute_holdsNoWriteEnd command hcloses, by decide +kernel⟩

end CommandShell
