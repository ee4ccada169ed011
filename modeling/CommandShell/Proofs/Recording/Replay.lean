import CommandShell.Interpreter
import CommandShell.Proofs.Recording.Failure
set_option autoImplicit false

/-!
# Streams in use

A story tells which streams programs, subshells and builtins have got, and it can be replayed: what
is open after each of its events, and what each stream was opened for, can be told from it alone.
So it can be told from a story whether the streams that are used in it are open, and whether they
have been opened for their direction.
-/

namespace CommandShell

/-! ## Active streams in a story -/

/-- The active stream of a direction that something gets at an event: input and output for a program
or a subshell, output for a builtin that writes. -/
def Event.stream : StreamMode → Event → Option StreamId
  | .input, .spawn _ _ _ input _ | .input, .subshell input _ => input
  | .output, .spawn _ _ _ _ output | .output, .subshell _ output => output
  | .output, .wrote output _ => output
  | _, _ => none

/-- Something holds of each active stream that anything gets in a story, by what has happened in the
story before. -/
def EachStream (P : List Event → StreamMode → StreamId → Prop) (story : List Event) : Prop :=
  ∀ before event after mode id, story = before ++ event :: after →
    event.stream mode = some id → P before mode id

namespace EachStream

variable {P Q : List Event → StreamMode → StreamId → Prop} {story story' : List Event}

theorem mono (h : EachStream P story)
    (himp : ∀ before mode id, P before mode id → Q before mode id) : EachStream Q story :=
  fun before event after mode id heq hstream =>
    himp before mode id (h before event after mode id heq hstream)

theorem append (h : EachStream P story)
    (h' : EachStream (fun before => P (story ++ before)) story') :
    EachStream P (story ++ story') := by
  intro before event after mode id heq hstream
  rcases List.append_eq_append_iff.1 heq with ⟨between, rfl, hrest⟩ | ⟨between, hstory, hrest⟩
  · exact h' between event after mode id hrest hstream
  · cases between with
    | nil =>
      rw [List.nil_append] at hrest
      rw [List.append_nil] at hstory
      subst hstory
      simpa using h' [] event after mode id hrest.symm hstream
    | cons event' between =>
      obtain ⟨rfl, -⟩ := List.cons.inj hrest
      exact h before event between mode id hstory hstream

theorem cons {event : Event} (h : ∀ mode id, event.stream mode = some id → P [] mode id)
    (h' : EachStream (fun before => P (event :: before)) story) :
    EachStream P (event :: story) := by
  intro before event' after mode id heq hstream
  cases before with
  | nil =>
    cases heq
    exact h mode id hstream
  | cons first before =>
    cases heq
    exact h' before event' after mode id rfl hstream

/-- In a story without programs, subshells and writing builtins nobody gets a stream. -/
theorem of_forall (h : ∀ event ∈ story, ∀ mode, event.stream mode = none) :
    EachStream P story := by
  rintro before event after mode id rfl hstream
  rw [h event (by simp) mode] at hstream
  cases hstream

theorem nil : EachStream P [] := of_forall (List.forall_mem_nil _)

end EachStream

/-- Whoever cleans up gets no stream. -/
theorem Cleanup.stream_eq_none {story : List Event} (h : Cleanup story) {event : Event}
    (hmem : event ∈ story) (mode : StreamMode) : event.stream mode = none := by
  have hcleanup := h event hmem
  cases event <;> cases mode <;> first | rfl | cases hcleanup

/-- A failure shows no stream. -/
theorem Recorder.failure_stream_eq_none {α : Type} {result : Except ExecError α} {event : Event}
    (hmem : event ∈ failure result) (mode : StreamMode) : event.stream mode = none := by
  cases result with
  | ok a => cases hmem
  | error e =>
    rw [List.mem_singleton.1 hmem]
    cases mode <;> rfl

/-- Only output is got by writing, and only if it succeeds. -/
theorem eq_of_stream_wrote {output : Option StreamId} {text : String}
    {result : Except ExecError Unit} {mode : StreamMode} {id : StreamId}
    (h : (outcomeEvent (fun _ => .wrote output text) result).stream mode = some id) :
    mode = .output ∧ output = some id := by
  cases result with
  | error e => cases mode <;> cases h
  | ok =>
    cases mode with
    | input => cases h
    | output => exact ⟨rfl, h⟩

/-- The events of opening pipes. -/
def openings (pipes : List (StreamId × StreamId)) : List Event :=
  pipes.map fun pipe => .pipe pipe.1 pipe.2

theorem openings_stream_eq_none {pipes : List (StreamId × StreamId)} {event : Event}
    (hmem : event ∈ openings pipes) (mode : StreamMode) : event.stream mode = none := by
  obtain ⟨pipe, -, rfl⟩ := List.mem_map.1 hmem
  cases mode <;> rfl

/-! ## Directions -/

/-- The streams that an event opens for a direction: files by their redirection, pipes by their
ends. -/
def Event.opensFor (mode : StreamMode) : Event → List StreamId
  | .pipe read write =>
    match mode with
    | .input => [read]
    | .output => [write]
  | .opened redirect _ stream => if Interpreter.modeOf redirect = mode then [stream] else []
  | _ => []

/-- The streams that are opened for a direction in a story. -/
def opensFor (mode : StreamMode) (story : List Event) : List StreamId :=
  story.flatMap (Event.opensFor mode)

theorem opensFor_append (mode : StreamMode) (story story' : List Event) :
    opensFor mode (story ++ story') = opensFor mode story ++ opensFor mode story' :=
  List.flatMap_append

theorem mem_pipeEnds_of_mem_opensFor {mode : StreamMode} {pipes : List (StreamId × StreamId)}
    {id : StreamId} (h : id ∈ opensFor mode (openings pipes)) : id ∈ pipeEnds pipes := by
  obtain ⟨event, hevent, hid⟩ := List.mem_flatMap.1 h
  obtain ⟨pipe, hpipe, rfl⟩ := List.mem_map.1 hevent
  refine List.mem_flatMap.2 ⟨pipe, hpipe, ?_⟩
  cases mode <;> simp_all [Event.opensFor]

/-- What gets a stream in the story gets one that has been opened for the direction in the story, or
a given one. -/
def Fed (given : StreamMode → StreamId → Prop) (story : List Event) : Prop :=
  EachStream (fun before mode id => id ∈ opensFor mode before ∨ given mode id) story

namespace Fed

variable {given given' : StreamMode → StreamId → Prop} {story story' : List Event}

theorem mono (h : Fed given story) (himp : ∀ mode id, given mode id → given' mode id) :
    Fed given' story :=
  EachStream.mono h fun _ mode id => Or.imp_right (himp mode id)

theorem append (h : Fed given story)
    (h' : Fed (fun mode id => id ∈ opensFor mode story ∨ given mode id) story') :
    Fed given (story ++ story') := by
  refine EachStream.append h (EachStream.mono h' fun before mode id hid => ?_)
  rw [opensFor_append, List.mem_append]
  exact hid.elim (Or.inl ∘ Or.inr) (Or.imp_left Or.inl)

/-- An event that gets given streams only. -/
theorem cons {event : Event} (h : ∀ mode id, event.stream mode = some id → given mode id)
    (h' : Fed (fun mode id => id ∈ event.opensFor mode ∨ given mode id) story) :
    Fed given (event :: story) := by
  refine EachStream.cons (fun mode id hstream => Or.inr (h mode id hstream))
    (EachStream.mono h' fun before mode id hid => ?_)
  rw [opensFor, List.flatMap_cons, List.mem_append]
  exact hid.elim (Or.inl ∘ Or.inr) (Or.imp_left Or.inl)

/-- Afterwards nobody gets a stream. -/
theorem append_of_forall (h : Fed given story)
    (hnone : ∀ event ∈ story', ∀ mode, event.stream mode = none) : Fed given (story ++ story') :=
  h.append (EachStream.of_forall hnone)

end Fed

/-! ## What is open -/

/-- What is open after an event. -/
def Event.openAfter (openStreams : List StreamId) : Event → List StreamId
  | .pipe read write => write :: read :: openStreams
  | .opened _ _ stream => stream :: openStreams
  | .close id => openStreams.erase id
  | _ => openStreams

/-- What is open after a story. -/
def openAfter (openStreams : List StreamId) (story : List Event) : List StreamId :=
  story.foldl Event.openAfter openStreams

theorem openAfter_append (openStreams : List StreamId) (story story' : List Event) :
    openAfter openStreams (story ++ story') = openAfter (openAfter openStreams story) story' :=
  List.foldl_append

/-- What gets a stream in the story gets one that is open. -/
def Live (openStreams : List StreamId) (story : List Event) : Prop :=
  EachStream (fun before _ id => id ∈ openAfter openStreams before) story

/-- A stretch whose story tells what is open, and in which only open streams are used. -/
structure Replay (r : Recorder) (story : List Event) (r' : Recorder) : Prop
    extends Stretch r story r' where
  openStreams_eq : r'.openStreams = openAfter r.openStreams story
  live : Live r.openStreams story

/-- The active stream of a direction. -/
def Recorder.stream (r : Recorder) : StreamMode → Option StreamId
  | .input => r.input
  | .output => r.output

/-- The active streams are open. -/
def Recorder.IsLive (r : Recorder) : Prop :=
  ∀ mode id, r.stream mode = some id → id ∈ r.openStreams

namespace Replay

variable {r r₁ r' : Recorder} {story story' : List Event}

theorem refl (r : Recorder) : Replay r [] r := ⟨.refl r, rfl, .nil⟩

theorem trans (h : Replay r story r₁) (h' : Replay r₁ story' r') :
    Replay r (story ++ story') r' where
  toStretch := h.toStretch.trans h'.toStretch
  openStreams_eq := by rw [openAfter_append, ← h.openStreams_eq, h'.openStreams_eq]
  live := by
    refine EachStream.append h.live (EachStream.mono h'.live fun before mode id hopen => ?_)
    rwa [openAfter_append, ← h.openStreams_eq]

/-- A stretch in which nobody gets a stream. -/
theorem of_forall (h : Stretch r story r') (hopen : r'.openStreams = openAfter r.openStreams story)
    (hnone : ∀ event ∈ story, ∀ mode, event.stream mode = none) : Replay r story r' :=
  ⟨h, hopen, .of_forall hnone⟩

theorem tell (r : Recorder) (notice : Option Notice) : Replay r [] (r.tell notice) :=
  of_forall (.tell r notice) (by cases notice <;> rfl) (List.forall_mem_nil _)

theorem activate (r : Recorder) (redirect : Redirect) (stream : Option StreamId) :
    Replay r [] (r.activate redirect stream) :=
  of_forall (.activate r redirect stream) (by cases redirect <;> rfl) (List.forall_mem_nil _)

theorem setStreams (r : Recorder) (input output : Option StreamId) :
    Replay r [] (r.setStreams input output) :=
  of_forall (.setStreams r input output) rfl (List.forall_mem_nil _)

theorem collectSubshells (r : Recorder) (keep : Nat) :
    Replay r [.collect keep] (r.collectSubshells keep).2 :=
  of_forall (r.collectSubshells_stretch keep) rfl
    (List.forall_mem_singleton.2 fun mode => by cases mode <;> rfl)

/-- A program gets the active streams. -/
theorem spawn (hr : r.IsLive) (program : String) (arguments : List String) (mode : WaitMode) :
    Replay r (.spawn program arguments mode r.input r.output ::
        Recorder.failure (r.spawnResult program mode))
      (r.spawn program arguments mode).2 where
  toStretch := r.spawn_stretch program arguments mode
  openStreams_eq := by
    obtain ⟨events, hafter⟩ := r.spawn_snd program arguments mode
    rw [hafter]
    cases r.spawnResult program mode <;> rfl
  live := by
    refine .cons (fun mode id hstream => hr mode id ?_)
      (.of_forall fun _ hmem mode => Recorder.failure_stream_eq_none hmem mode)
    cases mode <;> exact hstream

/-- A builtin gets the active output stream. -/
theorem writeOutput (hr : r.IsLive) (text : String) :
    Replay r [outcomeEvent (fun _ => .wrote r.output text) (r.writeOutput text).1]
      (r.writeOutput text).2 where
  toStretch := r.writeOutput_stretch text
  openStreams_eq := by
    obtain ⟨events, hafter⟩ := r.writeOutput_snd text
    rw [hafter]
    cases (r.writeOutput text).1 <;> rfl
  live := by
    refine .cons (fun mode id hstream => ?_) .nil
    obtain ⟨rfl, houtput⟩ := eq_of_stream_wrote hstream
    exact hr .output id houtput

theorem openFile (r : Recorder) (redirect : Redirect) (path : String) :
    Replay r [outcomeEvent (.opened redirect path) (r.openFile redirect path).1]
      (r.openFile redirect path).2 := by
  refine of_forall (r.openFile_stretch redirect path) ?_
    (List.forall_mem_singleton.2 fun mode => ?_)
  · rcases r.openFile_cases redirect path with ⟨hresult, -, hopen, -⟩ | ⟨hresult, -, hopen, -⟩ <;>
      rw [hresult, hopen] <;> rfl
  · cases (r.openFile redirect path).1 <;> cases mode <;> rfl

theorem createPipe (r : Recorder) :
    Replay r [outcomeEvent (fun pipe => .pipe pipe.1 pipe.2) r.createPipe.1] r.createPipe.2 := by
  refine of_forall r.createPipe_stretch ?_ (List.forall_mem_singleton.2 fun mode => ?_)
  · rcases r.createPipe_cases with ⟨hresult, -, hopen, -⟩ | ⟨hresult, -, hopen⟩ <;>
      rw [hresult, hopen] <;> rfl
  · cases r.createPipe.1 <;> cases mode <;> rfl

theorem closeStream (r : Recorder) (id : StreamId) :
    Replay r [outcomeEvent (fun _ => .close id) (r.closeStream id).1] (r.closeStream id).2 := by
  refine of_forall (r.closeStream_stretch id) ?_ (List.forall_mem_singleton.2 fun mode => ?_)
  · rcases r.closeStream_cases id with ⟨hresult, hopen, -⟩ | ⟨hresult, hopen, -⟩ <;>
      rw [hresult, hopen] <;> rfl
  · cases (r.closeStream id).1 <;> cases mode <;> rfl

theorem releaseAll (r : Recorder) (ids : List StreamId) :
    ∃ story, Replay r story (r.perform (releaseAll ids)).2 ∧ Cleanup story := by
  induction ids generalizing r with
  | nil => exact ⟨[], .refl r, .nil⟩
  | cons id ids ih =>
    obtain ⟨story, hrest, hcleanup⟩ := ih (r.closeStream id).2
    rw [Recorder.perform_releaseAll_cons]
    exact ⟨_, (closeStream r id).trans hrest, (r.closeStream_cleanup id).append hcleanup⟩

/-- A subshell gets the active streams, and its body none. -/
theorem resume {after : Recorder} (hr : r.IsLive) (h : Replay r.inside story after)
    (result : Except ExecError Outcome) :
    Replay r (.subshell r.input r.output :: story ++ [.subshellEnded (Recorder.settled result)])
      (r.resume result after) where
  toStretch := Recorder.resume_stretch h.toStretch result
  openStreams_eq := by
    rw [openAfter_append]
    exact (h.trans (.tell after (Recorder.subshellNotice result))).openStreams_eq.trans
      (by rw [List.append_nil]; rfl)
  live := by
    refine EachStream.append (.cons (fun mode id hstream => hr mode id ?_) h.live)
      (.of_forall (List.forall_mem_singleton.2 fun mode => by cases mode <;> rfl))
    cases mode <;> exact hstream

/-- The pipes are open, or none of them is. -/
theorem createPipes (r : Recorder) (opened : List (StreamId × StreamId)) (count : Nat) :
    ∃ story, Replay r story (r.perform (createPipes opened count)).2 ∧
      match (r.perform (CommandShell.createPipes opened count)).1 with
      | .ok pipes => ∃ new, pipes = opened ++ new ∧ new.length = count ∧ story = openings new
      | .error e =>
        ∃ new closing, story = openings new ++ .failed e :: closing ∧ Cleanup closing := by
  induction count generalizing r opened with
  | zero => exact ⟨[], .refl r, [], (List.append_nil _).symm, rfl, rfl⟩
  | succ count ih =>
    have hcreated := createPipe r
    rw [Recorder.perform_createPipes_succ]
    generalize r.createPipe = created at hcreated ⊢
    rcases created with ⟨e | pipe, r₁⟩
    · obtain ⟨story, hreleased, hcleanup⟩ := releaseAll r₁ (pipeEnds opened)
      exact ⟨_, hcreated.trans hreleased, [], story, rfl, hcleanup⟩
    · obtain ⟨story, hrest, hmore⟩ := ih r₁ (opened ++ [pipe])
      refine ⟨_, hcreated.trans hrest, ?_⟩
      generalize (r₁.perform (CommandShell.createPipes (opened ++ [pipe]) count)).1 = result
        at hmore ⊢
      cases result with
      | ok pipes =>
        obtain ⟨new, rfl, rfl, rfl⟩ := hmore
        exact ⟨pipe :: new, by simp, rfl, rfl⟩
      | error e =>
        obtain ⟨new, closing, rfl, hcleanup⟩ := hmore
        exact ⟨pipe :: new, closing, rfl, hcleanup⟩

end Replay

end CommandShell
