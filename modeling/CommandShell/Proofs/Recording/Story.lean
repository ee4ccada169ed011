import CommandShell.Proofs.Recording.Running
set_option autoImplicit false

/-!
# Stories

What happened to a recorder during a part of a run is a list of events, its story.  A story tells
which streams were opened and which of them somebody tried to close, and the part of it outside of
subshells can be read off by counting the subshells under way.  A stretch of a run from one recorder
to another adds a story, and stretches that follow one another add their stories.
-/

namespace CommandShell

/-! ## Inside and outside of subshells -/

/-- How many subshells are under way after an event, when so many are before. -/
def Event.depthAfter (depth : Nat) : Event → Nat
  | .subshell .. => depth + 1
  | .subshellEnded _ => depth - 1
  | _ => depth

/-- The events of a story that are not part of a subshell, when so many are under way before. -/
def outsideFrom : Nat → List Event → List Event
  | _, [] => []
  | 0, event :: story => event :: outsideFrom (event.depthAfter 0) story
  | depth + 1, event :: story => outsideFrom (event.depthAfter (depth + 1)) story

/-- The events of a story outside of subshell bodies; that a subshell starts is one of them. -/
def outside (story : List Event) : List Event := outsideFrom 0 story

/-- Every subshell that starts in the story ends in it, and no other one does. -/
def Level (story : List Event) : Prop :=
  ∀ depth, story.foldl Event.depthAfter depth = depth ∧ outsideFrom (depth + 1) story = []

theorem outsideFrom_append (depth : Nat) (story story' : List Event) :
    outsideFrom depth (story ++ story')
      = outsideFrom depth story ++ outsideFrom (story.foldl Event.depthAfter depth) story' := by
  induction story generalizing depth with
  | nil => simp [outsideFrom]
  | cons event story ih => cases depth <;> simp [outsideFrom, ih]

theorem outside_append {story story' : List Event} (h : Level story) :
    outside (story ++ story') = outside story ++ outside story' := by
  rw [outside, outsideFrom_append, (h 0).1]
  rfl

namespace Level

theorem nil : Level [] := fun _ => ⟨rfl, rfl⟩

theorem append {story story' : List Event} (h : Level story) (h' : Level story') :
    Level (story ++ story') := by
  intro depth
  constructor
  · rw [List.foldl_append, (h depth).1, (h' depth).1]
  · rw [outsideFrom_append, (h depth).2, (h (depth + 1)).1, (h' depth).2]
    rfl

/-- An event that is no end or beginning of a subshell leaves the story level. -/
theorem singleton {event : Event} (h : ∀ depth, event.depthAfter depth = depth) :
    Level [event] := by
  intro depth
  simp [outsideFrom, h]

theorem subshell {story : List Event} (h : Level story) (input output : Option StreamId)
    (outcome : Outcome) :
    Level (.subshell input output :: story ++ [.subshellEnded outcome]) := by
  intro depth
  constructor
  · simp [Event.depthAfter, (h (depth + 1)).1]
  · rw [List.cons_append, outsideFrom, Event.depthAfter, outsideFrom_append, (h (depth + 1)).2,
      (h (depth + 1 + 1)).1]
    simp [outsideFrom]

end Level

theorem outside_subshell {story : List Event} (h : Level story) (input output : Option StreamId)
    (outcome : Outcome) :
    outside (.subshell input output :: story ++ [.subshellEnded outcome])
      = [.subshell input output] := by
  rw [outside, List.cons_append, outsideFrom, Event.depthAfter, outsideFrom_append, (h 0).2,
    (h 1).1]
  simp [outsideFrom]

/-! ## Streams in a story -/

/-- The streams that an event opens. -/
def Event.opens : Event → List StreamId
  | .pipe read write => [read, write]
  | .opened _ _ stream => [stream]
  | _ => []

/-- The stream that an event closes. -/
def Event.closes : Event → List StreamId
  | .close stream => [stream]
  | _ => []

/-- The stream that an event fails to close. -/
def Event.refuses : Event → List StreamId
  | .failed (.unknownStream stream) => [stream]
  | _ => []

/-- The stream that an event closes or fails to close. -/
def Event.attempts : Event → List StreamId
  | .close stream | .failed (.unknownStream stream) => [stream]
  | _ => []

/-- The streams that are opened in a story, in order. -/
def opens (story : List Event) : List StreamId := story.flatMap Event.opens

/-- The streams that are closed in a story, in order. -/
def closes (story : List Event) : List StreamId := story.flatMap Event.closes

/-- The streams that could not be closed in a story, in order. -/
def refuses (story : List Event) : List StreamId := story.flatMap Event.refuses

/-- The streams of the attempts to close one in a story, in order. -/
def attempts (story : List Event) : List StreamId := story.flatMap Event.attempts

@[simp] theorem opens_nil : opens [] = [] := rfl
@[simp] theorem closes_nil : closes [] = [] := rfl
@[simp] theorem refuses_nil : refuses [] = [] := rfl
@[simp] theorem attempts_nil : attempts [] = [] := rfl

@[simp] theorem opens_append (story story' : List Event) :
    opens (story ++ story') = opens story ++ opens story' := List.flatMap_append

@[simp] theorem closes_append (story story' : List Event) :
    closes (story ++ story') = closes story ++ closes story' := List.flatMap_append

@[simp] theorem refuses_append (story story' : List Event) :
    refuses (story ++ story') = refuses story ++ refuses story' := List.flatMap_append

@[simp] theorem attempts_append (story story' : List Event) :
    attempts (story ++ story') = attempts story ++ attempts story' := List.flatMap_append

section Subshell

variable (story : List Event) (input output : Option StreamId) (outcome : Outcome)

@[simp] theorem opens_subshell :
    opens (.subshell input output :: (story ++ [.subshellEnded outcome])) = opens story := by
  simp [opens, Event.opens]

@[simp] theorem closes_subshell :
    closes (.subshell input output :: (story ++ [.subshellEnded outcome])) = closes story := by
  simp [closes, Event.closes]

@[simp] theorem refuses_subshell :
    refuses (.subshell input output :: (story ++ [.subshellEnded outcome])) = refuses story := by
  simp [refuses, Event.refuses]

@[simp] theorem attempts_subshell :
    attempts (.subshell input output :: (story ++ [.subshellEnded outcome])) = attempts story := by
  simp [attempts, Event.attempts]

end Subshell

/-- An attempt either closes its stream or does not. -/
theorem count_attempts (story : List Event) (id : StreamId) :
    (attempts story).count id = (closes story).count id + (refuses story).count id := by
  induction story with
  | nil => rfl
  | cons event story ih =>
    have hevent : event.attempts.count id = event.closes.count id + event.refuses.count id := by
      unfold Event.attempts Event.closes Event.refuses
      split <;> simp
    simp only [attempts, closes, refuses, List.flatMap_cons, List.count_append] at ih ⊢
    omega

theorem mem_attempts_iff {story : List Event} {id : StreamId} :
    id ∈ attempts story ↔ id ∈ closes story ∨ id ∈ refuses story := by
  simp only [← List.count_pos_iff, count_attempts]
  omega

/-! ## Stretches of a run -/

namespace Recorder

/-- Whether the attempt to close a stream is made to fail, by how many attempts are made before. -/
def closePlan (r : Recorder) (earlier : Nat) (id : StreamId) : Bool :=
  r.faults.any fun faults => faults.close (faults.closeCalls + earlier) id

/-- No call is made to fail. -/
def Faultless (r : Recorder) : Prop :=
  ∀ faults ∈ r.faults, (∀ n, faults.pipe n = false) ∧ (∀ n id, faults.close n id = false) ∧
    ∀ n, faults.write n = false

end Recorder

/-- Counts a call to open a pipe. -/
def Faults.countPipe (faults : Faults) : Faults := { faults with pipeCalls := faults.pipeCalls + 1 }

/-- Counts a call to close a stream. -/
def Faults.countClose (faults : Faults) : Faults :=
  { faults with closeCalls := faults.closeCalls + 1 }

/-- Counts a call to write. -/
def Faults.countWrite (faults : Faults) : Faults :=
  { faults with writeCalls := faults.writeCalls + 1 }

/-- A stretch of a run leads from one recorder to another and adds a story.  What the world is like
and which calls are made to fail stays as it is. -/
structure Stretch (r : Recorder) (story : List Event) (r' : Recorder) : Prop where
  events : r'.events.toList = r.events.toList ++ story
  level : Level story
  script : r'.script = r.script
  faultless : r.Faultless → r'.Faultless

namespace Stretch

variable {r r₁ r' : Recorder} {story story' : List Event}

theorem refl (r : Recorder) : Stretch r [] r where
  events := by simp
  level := .nil
  script := rfl
  faultless := id

theorem trans (h : Stretch r story r₁) (h' : Stretch r₁ story' r') :
    Stretch r (story ++ story') r' where
  events := by rw [h'.events, h.events, List.append_assoc]
  level := h.level.append h'.level
  script := h'.script.trans h.script
  faultless := h'.faultless ∘ h.faultless

/-- A change of what no story tells of is a stretch without events. -/
theorem of_eq (hevents : r'.events = r.events) (hscript : r'.script = r.script)
    (hfaults : r'.faults = r.faults) : Stretch r [] r' where
  events := by rw [hevents, List.append_nil]
  level := .nil
  script := hscript
  faultless h := by rwa [Recorder.Faultless, hfaults]

theorem tell (r : Recorder) (notice : Option Notice) : Stretch r [] (r.tell notice) := by
  cases notice <;> exact of_eq rfl rfl rfl

theorem activate (r : Recorder) (redirect : Redirect) (stream : Option StreamId) :
    Stretch r [] (r.activate redirect stream) := by
  cases redirect <;> exact of_eq rfl rfl rfl

theorem setStreams (r : Recorder) (input output : Option StreamId) :
    Stretch r [] (r.setStreams input output) := of_eq rfl rfl rfl

/-- Writing down an event, with a change of what no story tells of and of the count of calls. -/
theorem record {event : Event} (hdepth : ∀ depth, event.depthAfter depth = depth)
    (hevents : r'.events = r.events.push event) (hscript : r'.script = r.script)
    (hfaults : r.Faultless → r'.Faultless) : Stretch r [event] r' where
  events := by rw [hevents, Array.toList_push]
  level := .singleton hdepth
  script := hscript
  faultless := hfaults

end Stretch

/-! ## What each operation adds -/

/-- The event of an operation that came to a result. -/
def outcomeEvent {α : Type} (success : α → Event) : Except ExecError α → Event
  | .ok a => success a
  | .error e => .failed e

namespace Recorder

theorem Faultless.map {r r' : Recorder} (h : r.Faultless) {count : Faults → Faults}
    (hfaults : r'.faults = r.faults.map count)
    (hcount : ∀ faults, (count faults).pipe = faults.pipe ∧ (count faults).close = faults.close ∧
      (count faults).write = faults.write) : r'.Faultless := by
  intro faults' hmem
  rw [hfaults, Option.mem_def, Option.map_eq_some_iff] at hmem
  obtain ⟨faults, hfaults, rfl⟩ := hmem
  obtain ⟨hpipe, hclose, hwrite⟩ := hcount faults
  rw [hpipe, hclose, hwrite]
  exact h faults hfaults

/-- The answer to a request to start a program. -/
def spawnResult (r : Recorder) (program : String) (mode : WaitMode) : Except ExecError Int :=
  if r.script.crashes program then .error (.abnormalTermination program .kill)
  else .ok (match mode with | .wait => r.script.exitCode program | .background => 0)

/-- The event of a failure, if there is one. -/
def failure {α : Type} : Except ExecError α → List Event
  | .ok _ => []
  | .error e => [.failed e]

theorem spawn_fst (r : Recorder) (program : String) (arguments : List String) (mode : WaitMode) :
    (r.spawn program arguments mode).1 = r.spawnResult program mode := by
  unfold spawn spawnResult
  dsimp only
  show (if r.script.crashes program then _ else _ : Except ExecError Int × Recorder).1 = _
  cases r.script.crashes program with
  | true => rfl
  | false => cases mode <;> rfl

theorem spawn_stretch (r : Recorder) (program : String) (arguments : List String)
    (mode : WaitMode) :
    Stretch r
      (.spawn program arguments mode r.input r.output :: failure (r.spawnResult program mode))
      (r.spawn program arguments mode).2 := by
  have hspawn : Stretch r [.spawn program arguments mode r.input r.output]
      (r.record (.spawn program arguments mode r.input r.output)) :=
    .record (fun _ => rfl) rfl rfl id
  unfold spawn spawnResult
  dsimp only
  show Stretch r _ (if r.script.crashes program then _ else _ : Except ExecError Int × Recorder).2
  cases r.script.crashes program with
  | true => exact hspawn.trans (.record (fun _ => rfl) rfl rfl id)
  | false => cases mode <;> exact hspawn

/-- Starting a program changes nothing but the story. -/
theorem spawn_snd (r : Recorder) (program : String) (arguments : List String) (mode : WaitMode) :
    ∃ events, (r.spawn program arguments mode).2 = { r with events := events } := by
  unfold spawn
  dsimp only
  show ∃ _, (if r.script.crashes program then _ else _ : Except ExecError Int × Recorder).2 = _
  cases r.script.crashes program with
  | true => exact ⟨_, rfl⟩
  | false => cases mode <;> exact ⟨_, rfl⟩

theorem createPipe_stretch (r : Recorder) :
    Stretch r [outcomeEvent (fun pipe => .pipe pipe.1 pipe.2) r.createPipe.1] r.createPipe.2 := by
  unfold createPipe
  dsimp only
  split
  · exact .record (fun _ => rfl) rfl rfl fun h => h.map rfl fun _ => ⟨rfl, rfl, rfl⟩
  · exact .record (fun _ => rfl) rfl rfl fun h => h.map rfl fun _ => ⟨rfl, rfl, rfl⟩

/-- Opening a pipe changes nothing but the story, the count of calls and what is open. -/
theorem createPipe_snd (r : Recorder) :
    ∃ events openStreams nextId, r.createPipe.2 = { r with
      events := events, faults := r.faults.map Faults.countPipe, openStreams := openStreams,
      nextId := nextId } := by
  unfold createPipe
  dsimp only
  split <;> exact ⟨_, _, _, rfl⟩

/-- A pipe gets the next two numbers, unless the call is made to fail. -/
theorem createPipe_cases (r : Recorder) :
    (r.createPipe.1 = .error (.pipe .tooManyOpenFiles) ∧ r.createPipe.2.nextId = r.nextId ∧
        r.createPipe.2.openStreams = r.openStreams ∧ ¬ r.Faultless) ∨
      (r.createPipe.1 = .ok (⟨r.nextId⟩, ⟨r.nextId + 1⟩) ∧
        r.createPipe.2.nextId = r.nextId + 2 ∧
        r.createPipe.2.openStreams = ⟨r.nextId + 1⟩ :: ⟨r.nextId⟩ :: r.openStreams) := by
  unfold createPipe
  dsimp only
  split
  · rename_i hfails
    refine Or.inl ⟨rfl, rfl, rfl, fun hfaultless => ?_⟩
    obtain ⟨faults, hfaults, hpipe⟩ := (Option.any_eq_true _ _).1 hfails
    exact Bool.false_ne_true (((hfaultless faults hfaults).1 _).symm.trans hpipe)
  · exact Or.inr ⟨rfl, rfl, rfl⟩

theorem openFile_stretch (r : Recorder) (redirect : Redirect) (path : String) :
    Stretch r [outcomeEvent (.opened redirect path) (r.openFile redirect path).1]
      (r.openFile redirect path).2 := by
  unfold openFile
  split <;> exact .record (fun _ => rfl) rfl rfl id

/-- Opening a file changes nothing but the story and what is open. -/
theorem openFile_snd (r : Recorder) (redirect : Redirect) (path : String) :
    ∃ events openStreams nextId, (r.openFile redirect path).2 = { r with
      events := events, openStreams := openStreams, nextId := nextId } := by
  unfold openFile
  split <;> exact ⟨_, _, _, rfl⟩

/-- A file gets the next number, unless its path is missing. -/
theorem openFile_cases (r : Recorder) (redirect : Redirect) (path : String) :
    ((r.openFile redirect path).1 = .error (.openFile redirect path .notFound) ∧
        (r.openFile redirect path).2.nextId = r.nextId ∧
        (r.openFile redirect path).2.openStreams = r.openStreams ∧
        r.script.isMissing path = true) ∨
      ((r.openFile redirect path).1 = .ok ⟨r.nextId⟩ ∧
        (r.openFile redirect path).2.nextId = r.nextId + 1 ∧
        (r.openFile redirect path).2.openStreams = ⟨r.nextId⟩ :: r.openStreams ∧
        r.script.isMissing path = false) := by
  unfold openFile
  cases r.script.isMissing path with
  | true => exact Or.inl ⟨rfl, rfl, rfl, rfl⟩
  | false => exact Or.inr ⟨rfl, rfl, rfl, rfl⟩

theorem closeStream_stretch (r : Recorder) (id : StreamId) :
    Stretch r [outcomeEvent (fun _ => .close id) (r.closeStream id).1] (r.closeStream id).2 := by
  unfold closeStream
  dsimp only
  split
  · exact .record (fun _ => rfl) rfl rfl fun h => h.map rfl fun _ => ⟨rfl, rfl, rfl⟩
  · split <;> exact .record (fun _ => rfl) rfl rfl fun h => h.map rfl fun _ => ⟨rfl, rfl, rfl⟩

/-- Closing a stream changes nothing but the story, the count of calls and what is open. -/
theorem closeStream_snd (r : Recorder) (id : StreamId) :
    ∃ events openStreams, (r.closeStream id).2 = { r with
      events := events, faults := r.faults.map Faults.countClose, openStreams := openStreams } := by
  unfold closeStream
  dsimp only
  split
  · exact ⟨_, _, rfl⟩
  · split <;> exact ⟨_, _, rfl⟩

/-- A stream that is open is closed, unless the attempt is made to fail. -/
theorem closeStream_cases (r : Recorder) (id : StreamId) :
    ((r.closeStream id).1 = .error (.unknownStream id) ∧
        (r.closeStream id).2.openStreams = r.openStreams ∧
        (r.closePlan 0 id = true ∨ id ∉ r.openStreams)) ∨
      ((r.closeStream id).1 = .ok () ∧
        (r.closeStream id).2.openStreams = r.openStreams.erase id ∧
        r.closePlan 0 id = false ∧ id ∈ r.openStreams) := by
  have hplan : r.faults.any (fun faults => faults.close faults.closeCalls id)
      = r.closePlan 0 id := rfl
  unfold closeStream
  dsimp only
  rw [hplan]
  split
  · rename_i hfails
    exact Or.inl ⟨rfl, rfl, Or.inl hfails⟩
  · rename_i hfails
    split
    · rename_i hopen
      exact Or.inr ⟨rfl, rfl, Bool.eq_false_iff.2 hfails, hopen⟩
    · rename_i hopen
      exact Or.inl ⟨rfl, rfl, Or.inr hopen⟩

theorem writeOutput_stretch (r : Recorder) (text : String) :
    Stretch r [outcomeEvent (fun _ => .wrote r.output text) (r.writeOutput text).1]
      (r.writeOutput text).2 := by
  unfold writeOutput
  dsimp only
  split <;> exact .record (fun _ => rfl) rfl rfl fun h => h.map rfl fun _ => ⟨rfl, rfl, rfl⟩

/-- Writing changes nothing but the story and the count of calls. -/
theorem writeOutput_snd (r : Recorder) (text : String) :
    ∃ events, (r.writeOutput text).2 = { r with
      events := events, faults := r.faults.map Faults.countWrite } := by
  unfold writeOutput
  dsimp only
  split <;> exact ⟨_, rfl⟩

theorem collectSubshells_stretch (r : Recorder) (keep : Nat) :
    Stretch r [.collect keep] (r.collectSubshells keep).2 :=
  .record (fun _ => rfl) rfl rfl id

/-- Closing streams changes nothing but the story, the count of calls and what is open. -/
theorem releaseAll_snd (r : Recorder) (ids : List StreamId) :
    ∃ events faults openStreams, (r.perform (releaseAll ids)).2 = { r with
      events := events, faults := faults, openStreams := openStreams } := by
  induction ids generalizing r with
  | nil => exact ⟨_, _, _, rfl⟩
  | cons id ids ih =>
    obtain ⟨events, openStreams, hfirst⟩ := r.closeStream_snd id
    obtain ⟨events', faults', openStreams', hrest⟩ := ih (r.closeStream id).2
    rw [perform_releaseAll_cons]
    refine ⟨events', faults', openStreams', hrest.trans ?_⟩
    rw [hfirst]

/-- Opening pipes changes nothing but the story, the count of calls and what is open. -/
theorem createPipes_snd (r : Recorder) (opened : List (StreamId × StreamId)) (count : Nat) :
    ∃ events faults openStreams nextId, (r.perform (createPipes opened count)).2 = { r with
      events := events, faults := faults, openStreams := openStreams, nextId := nextId } := by
  induction count generalizing r opened with
  | zero => exact ⟨_, _, _, _, rfl⟩
  | succ count ih =>
    obtain ⟨events, openStreams, nextId, hcreated⟩ := r.createPipe_snd
    rw [perform_createPipes_succ]
    rcases hpipe : r.createPipe with ⟨_ | pipe, r₁⟩ <;> rw [hpipe] at hcreated <;>
      dsimp only at hcreated ⊢
    · obtain ⟨events', faults', openStreams', hreleased⟩ := r₁.releaseAll_snd (pipeEnds opened)
      exact ⟨events', faults', openStreams', nextId, hreleased.trans (by rw [hcreated])⟩
    · obtain ⟨events', faults', openStreams', nextId', hrest⟩ := ih r₁ (opened ++ [pipe])
      exact ⟨events', faults', openStreams', nextId', hrest.trans (by rw [hcreated])⟩

/-- A subshell adds what happened in it, between a mark for its start and one for its end. -/
theorem resume_stretch {r after : Recorder} {story : List Event} (h : Stretch r.inside story after)
    (result : Except ExecError Outcome) :
    Stretch r (.subshell r.input r.output :: story ++ [.subshellEnded (settled result)])
      (r.resume result after) where
  events := by
    have htold := (h.trans (.tell after (subshellNotice result))).events
    show ((after.tell (subshellNotice result)).events.push _).toList = _
    rw [Array.toList_push, htold]
    simp [inside, record]
  level := h.level.subshell r.input r.output (settled result)
  script := (h.trans (.tell after (subshellNotice result))).script
  faultless := id

end Recorder

end CommandShell
