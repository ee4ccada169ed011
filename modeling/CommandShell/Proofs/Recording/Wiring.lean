import CommandShell.Proofs.Recording.Cleanup
import CommandShell.Proofs.Recording.Replay
set_option autoImplicit false

/-!
# How pipelines are wired

A pipeline of several stages opens one pipe less than it has stages, all of them before the first
stage starts.  The stages start in order, and each end is closed as soon as its stage has been
started: when a stage starts, the pipes behind it are open at both ends, and of those before it only
the read end that belongs to the stage itself.

The run of a pipeline is told by the calls that its stages are.  What the recorder looks like when a
stage starts is said with the calls before it, and it is carried from each stage to the next one;
what a stage does with streams of its own does not show.
-/

namespace CommandShell

/-- A pipeline is put together again from its stages. -/
theorem Command.foldr_pipelineStages : ∀ command : Command,
    command.pipelineStages.dropLast.foldr (binary .pipe)
      (command.pipelineStages.getLast command.pipelineStages_ne_nil) = command
  | .binary .pipe primary secondary => by
    have hrest := Command.foldr_pipelineStages secondary
    have hsome := secondary.pipelineStages_ne_nil
    simp only [pipelineStages, List.dropLast_cons_of_ne_nil hsome, List.getLast_cons hsome,
      List.foldr_cons, hrest]
  | .executable .. | .builtin _ | .sequential _ | .redirection .. => rfl
  | .binary .conjunction .. | .binary .disjunction .. => rfl

/-! ## Calls -/

/-- What comes of a call. -/
def Call.run (call : Call) : Except ExecError Outcome × Recorder :=
  call.recorder.execute call.command call.mode

/-- What a call adds to the story. -/
def Call.story (call : Call) : List Event :=
  call.run.2.events.toList.drop call.recorder.events.toList.length

theorem Call.events_run (call : Call) :
    call.run.2.events.toList = call.recorder.events.toList ++ call.story := by
  obtain ⟨story, htidy⟩ := call.command.cleansUp call.mode call.recorder
  have hevents : call.run.2.events.toList = call.recorder.events.toList ++ story := htidy.events
  rw [Call.story, hevents, List.drop_left]

/-- A call leaves the streams alone whose numbers have been given out before. -/
theorem Call.count_run (call : Call) :
    call.recorder.nextId ≤ call.run.2.nextId ∧
      ∀ id : StreamId, id.index < call.recorder.nextId →
        call.run.2.openStreams.count id = call.recorder.openStreams.count id := by
  obtain ⟨story, htidy⟩ := call.command.cleansUp call.mode call.recorder
  change Tidy call.recorder story call.run.2 at htidy
  refine ⟨htidy.nextId_le, fun id hid => ?_⟩
  have hopens : (opens story).count id = 0 := by
    rw [htidy.opens_eq, List.count_eq_zero, mem_newIds]
    omega
  have hbalance := htidy.balance.count_eq id
  have hsettles := htidy.settles.count_eq id
  have hattempts := count_attempts story id
  simp only [List.count_append, List.count_nil] at hbalance hsettles
  omega

/-! ## Closing ends -/

theorem mem_of_mem_outsideFrom {event : Event} {depth : Nat} {story : List Event}
    (h : event ∈ outsideFrom depth story) : event ∈ story := by
  induction story generalizing depth with
  | nil => cases depth <;> cases h
  | cons first story ih =>
    cases depth with
    | zero => exact List.mem_cons.2 ((List.mem_cons.1 h).imp_right ih)
    | succ depth => exact List.mem_cons_of_mem _ (ih h)

/-- Cleaning up succeeds if every stream can be closed. -/
theorem Honest.exists_ok {α : Type} {r r' : Recorder} {result : Except ExecError α}
    {story : List Event} (h : Honest noneReached r result story r') (hcleanup : Cleanup story)
    (hnone : refuses story = []) : ∃ a, result = .ok a := by
  cases result with
  | ok a => exact ⟨a, rfl⟩
  | error e =>
    rcases (h.error e rfl).failed_or_reached with ⟨e', houtside⟩ | ⟨_, hreached⟩
    · have hmem := mem_of_mem_outsideFrom houtside
      have hfailed := hcleanup _ hmem
      -- Nothing but the closing of a stream fails when somebody cleans up.
      cases e' with
      | unknownStream id =>
        have hrefused : id ∈ refuses story :=
          List.mem_flatMap.2 ⟨_, hmem, List.mem_singleton_self id⟩
        rw [hnone] at hrefused
        cases hrefused
      | _ => cases hfailed
    · exact hreached.elim

namespace Recorder

variable {r r' : Recorder}

/-- A stream that can be closed is open once less. -/
theorem closeStream_closed {id : StreamId} (h : r.closeStream id = (.ok (), r')) :
    r'.events.toList = r.events.toList ++ [.close id] ∧ r'.nextId = r.nextId ∧
      ∀ other, r'.openStreams.count other + [id].count other = r.openStreams.count other := by
  have hstretch := r.closeStream_stretch id
  obtain ⟨events, openStreams, hkept⟩ := r.closeStream_snd id
  have hcases := r.closeStream_cases id
  rw [h] at hstretch hkept hcases
  dsimp only at hkept
  refine ⟨hstretch.events, by rw [hkept], fun other => ?_⟩
  rcases hcases with ⟨hresult, -⟩ | ⟨-, hopen, -, hmem⟩
  · cases hresult
  · rw [hopen, (List.perm_cons_erase hmem).count_eq other, ← List.count_append]
    exact List.perm_append_comm.count_eq other

theorem releaseAll_closed {ids : List StreamId}
    (h : r.perform (releaseAll ids) = (.ok (), r')) :
    r'.events.toList = r.events.toList ++ ids.map .close ∧ r'.nextId = r.nextId ∧
      ∀ other, r'.openStreams.count other + ids.count other = r.openStreams.count other := by
  induction ids generalizing r with
  | nil =>
    cases h
    exact ⟨(List.append_nil _).symm, rfl, fun _ => rfl⟩
  | cons id ids ih =>
    rw [perform_releaseAll_cons] at h
    rcases hclosed : r.closeStream id with ⟨e | _, r₁⟩ <;> rw [hclosed] at h
    · cases h
    · obtain ⟨hevents, hnextId, hcount⟩ := closeStream_closed hclosed
      obtain ⟨hevents', hnextId', hcount'⟩ := ih (r := r₁) h
      refine ⟨?_, hnextId'.trans hnextId, fun other => ?_⟩
      · rw [hevents', hevents, List.append_assoc]
        rfl
      · have hone := hcount other
        have hothers := hcount' other
        simp only [List.count_cons, List.count_nil] at hone hothers ⊢
        omega

/-- Closing an end is cleaning up, and it shows if it fails. -/
theorem closeStream_closing (r : Recorder) (id : StreamId) :
    ∃ closing, (r.closeStream id).2.events.toList = r.events.toList ++ closing ∧
      Cleanup closing ∧ (refuses closing = [] → (r.closeStream id).1 = .ok ()) := by
  have hclosed := r.closeStream_honest id
  have hcleanup := r.closeStream_cleanup id
  exact ⟨_, hclosed.events, hcleanup, fun hnone => (hclosed.exists_ok hcleanup hnone).choose_spec⟩

theorem releaseAll_closing (r : Recorder) (ids : List StreamId) :
    ∃ closing, (r.perform (releaseAll ids)).2.events.toList = r.events.toList ++ closing ∧
      Cleanup closing ∧ (refuses closing = [] → (r.perform (releaseAll ids)).1 = .ok ()) := by
  obtain ⟨closing, hreleased, hcleanup⟩ := r.releaseAll_honest ids
  exact ⟨closing, hreleased.events, hcleanup,
    fun hnone => (hreleased.exists_ok hcleanup hnone).choose_spec⟩

end Recorder

/-! ## Pipes -/

namespace Recorder

variable {r s : Recorder} {count : Nat} {past : List Call}

/-- The ends of the pipe that is opened after so many others: they get the next two numbers. -/
def pipe (r : Recorder) (j : Nat) : StreamId × StreamId :=
  (⟨r.nextId + 2 * j⟩, ⟨r.nextId + 2 * j + 1⟩)

/-- So many pipes, from a given one on. -/
def pipes (r : Recorder) (first count : Nat) : List (StreamId × StreamId) :=
  (List.range' first count).map r.pipe

/-- The read end that belongs to a stage: that of the pipe before it. -/
def readBefore (r : Recorder) : Nat → Option StreamId
  | 0 => none
  | j + 1 => some (r.pipe j).1

/-- What happens from the start of the first stage until so many have been started: each stage does
what it does, and then its two ends are closed. -/
def handedOver (r : Recorder) (past : List Call) : List Event :=
  past.zipIdx.flatMap fun (call, j) =>
    call.story ++ (r.readBefore j).toList.map .close ++ [.close (r.pipe j).2]

theorem handedOver_append (r : Recorder) (past : List Call) (call : Call) :
    r.handedOver (past ++ [call]) = r.handedOver past ++ (call.story ++
      (r.readBefore past.length).toList.map .close ++ [.close (r.pipe past.length).2]) := by
  simp [handedOver, List.zipIdx_append]

theorem pipes_succ (r : Recorder) (first count : Nat) :
    r.pipes first (count + 1) = r.pipe first :: r.pipes (first + 1) count := by
  rw [pipes, List.range'_succ, List.map_cons]
  rfl

/-- There is one reason why a pipe cannot be opened. -/
theorem createPipes_error {opened : List (StreamId × StreamId)} {e : ExecError} {s' : Recorder}
    (h : s.perform (createPipes opened count) = (.error e, s')) : e = .pipe .tooManyOpenFiles := by
  induction count generalizing s opened with
  | zero => cases h
  | succ count ih =>
    have hcases := s.createPipe_cases
    rw [perform_createPipes_succ] at h
    generalize s.createPipe = created at h hcases
    rcases created with ⟨e | pipe, s₁⟩
    · cases h
      rcases hcases with ⟨hresult, -⟩ | ⟨hresult, -⟩ <;> cases hresult
      rfl
    · exact ih h

theorem pipeEnds_pipes (r : Recorder) (first count : Nat) :
    pipeEnds (r.pipes first count)
      = newIds (r.nextId + 2 * first) (r.nextId + 2 * (first + count)) := by
  induction count generalizing first with
  | zero =>
    rw [Nat.add_zero, newIds, Nat.sub_self]
    rfl
  | succ count ih =>
    have hfirst : [(r.pipe first).1, (r.pipe first).2]
        = newIds (r.nextId + 2 * first) (r.nextId + 2 * (first + 1)) := by
      rw [newIds, show r.nextId + 2 * (first + 1) - (r.nextId + 2 * first) = 2 by omega]
      rfl
    have hrest := ih (first + 1)
    rw [Nat.add_assoc, Nat.add_comm 1] at hrest
    rw [pipes_succ, pipeEnds, List.flatMap_cons, ← pipeEnds, hrest, hfirst,
      newIds_append (by omega) (by omega)]

/-- The pipes are opened in order. -/
theorem createPipes_pipes {opened opened' : List (StreamId × StreamId)} {s' : Recorder}
    (first : Nat) (hs : s.nextId = r.nextId + 2 * first)
    (h : s.perform (createPipes opened count) = (.ok opened', s')) :
    opened' = opened ++ r.pipes first count ∧ s'.nextId = r.nextId + 2 * (first + count) ∧
      s'.events.toList = s.events.toList ++ openings (r.pipes first count) ∧
      s'.openStreams = (pipeEnds (r.pipes first count)).reverse ++ s.openStreams := by
  induction count generalizing s opened first with
  | zero =>
    cases h
    exact ⟨(List.append_nil _).symm, hs, (List.append_nil _).symm, rfl⟩
  | succ count ih =>
    have hstretch := s.createPipe_stretch
    have hcases := s.createPipe_cases
    rw [perform_createPipes_succ] at h
    generalize s.createPipe = created at h hstretch hcases
    rcases created with ⟨e | pipe, s₁⟩
    · cases h
    rcases hcases with ⟨hresult, -⟩ | ⟨hresult, hnextId, hopen⟩
    · cases hresult
    obtain rfl : pipe = r.pipe first := by
      rw [Recorder.pipe, ← hs]
      exact Except.ok.inj hresult
    dsimp only at hnextId hopen hstretch
    obtain ⟨rfl, hnextId', hevents, hopen'⟩ :=
      ih (first + 1) (by rw [hnextId, hs, Nat.mul_succ, Nat.add_assoc]) h
    rw [pipes_succ]
    refine ⟨by simp, by omega, ?_, ?_⟩
    · rw [hevents, hstretch.events, List.append_assoc]
      rfl
    · rw [hopen', hopen, hs]
      simp [pipeEnds, Recorder.pipe]

/-! ## Before a stage -/

/-- What the recorder is like when the next stage of a pipeline with so many pipes starts, by the
calls that its earlier stages are. -/
structure Poised (r : Recorder) (count : Nat) (past : List Call) (s : Recorder) : Prop where
  nextId_le : r.nextId + 2 * count ≤ s.nextId
  events_eq : s.events.toList
    = r.events.toList ++ openings (r.pipes 0 count) ++ r.handedOver past
  read_count : ∀ j < count,
    s.openStreams.count (r.pipe j).1 = if past.length ≤ j + 1 then 1 else 0
  write_count : ∀ j < count,
    s.openStreams.count (r.pipe j).2 = if past.length ≤ j then 1 else 0

/-- When the pipes have been opened, all their ends are open. -/
theorem Poised.start (hr : r.WellNumbered) {opened : List (StreamId × StreamId)}
    (h : r.perform (createPipes [] count) = (.ok opened, s)) : Poised r count [] s := by
  obtain ⟨rfl, hnextId, hevents, hopen⟩ := createPipes_pipes 0 rfl h
  have hcount : ∀ id : StreamId, r.nextId ≤ id.index → id.index < r.nextId + 2 * count →
      s.openStreams.count id = 1 := by
    intro id hfirst hlast
    have hold : r.openStreams.count id = 0 :=
      List.count_eq_zero.2 fun hmem => Nat.not_lt_of_le hfirst (hr id hmem)
    rw [hopen, List.count_append, List.count_reverse, hold, pipeEnds_pipes]
    have hmem : id ∈ newIds (r.nextId + 2 * 0) (r.nextId + 2 * (0 + count)) :=
      mem_newIds.2 ⟨hfirst, by omega⟩
    exact Nat.le_antisymm (List.nodup_iff_count.1 (nodup_newIds _ _) id) (List.count_pos_iff.2 hmem)
  refine ⟨by omega, ?_, fun j hj => ?_, fun j hj => ?_⟩
  · rw [hevents]
    exact (List.append_nil _).symm
  · refine hcount _ ?_ ?_ <;> dsimp only [pipe] <;> omega
  · refine hcount _ ?_ ?_ <;> dsimp only [pipe] <;> omega

theorem count_readBefore (r : Recorder) (i j : Nat) :
    (r.readBefore i).toList.count (r.pipe j).1 = (if i = j + 1 then 1 else 0) ∧
      (r.readBefore i).toList.count (r.pipe j).2 = 0 := by
  cases i with
  | zero => simp [readBefore]
  | succ i =>
    simp only [readBefore, pipe, Option.toList_some, List.count_singleton, beq_iff_eq,
      StreamId.mk.injEq]
    constructor
    · congr 1
      exact propext (by omega)
    · exact if_neg (by omega)

theorem count_writeBehind (r : Recorder) (i j : Nat) :
    [(r.pipe i).2].count (r.pipe j).1 = 0 ∧
      [(r.pipe i).2].count (r.pipe j).2 = if i = j then 1 else 0 := by
  simp only [pipe, List.count_singleton, beq_iff_eq, StreamId.mk.injEq]
  constructor
  · exact if_neg (by omega)
  · congr 1
    exact propext (by omega)

/-- When a stage has been started and its two ends have been closed, the next stage starts. -/
theorem Poised.next (h : Poised r count past s) {call : Call} {input output : Option StreamId}
    (hcall : call.recorder = s.setStreams input output) {r₁ r₂ : Recorder}
    (hincoming : call.run.2.perform (releaseAll (r.readBefore past.length).toList) = (.ok (), r₁))
    (houtgoing : r₁.closeStream (r.pipe past.length).2 = (.ok (), r₂)) :
    Poised r count (past ++ [call]) r₂ := by
  obtain ⟨hnextId, hrun⟩ := call.count_run
  obtain ⟨hevents₁, hnextId₁, hcount₁⟩ := releaseAll_closed hincoming
  obtain ⟨hevents₂, hnextId₂, hcount₂⟩ := closeStream_closed houtgoing
  have hfirst := h.nextId_le
  have hstart : call.recorder.nextId = s.nextId := by rw [hcall]; rfl
  have hcount : ∀ id : StreamId, id.index < s.nextId →
      r₂.openStreams.count id + [(r.pipe past.length).2].count id
          + (r.readBefore past.length).toList.count id
        = s.openStreams.count id := by
    intro id hid
    rw [hcount₂, hcount₁, hrun id (hstart ▸ hid), hcall]
    rfl
  refine ⟨by omega, ?_, fun j hj => ?_, fun j hj => ?_⟩
  · rw [hevents₂, hevents₁, call.events_run, hcall, handedOver_append]
    show s.events.toList ++ _ ++ _ ++ _ = _
    rw [h.events_eq]
    simp only [List.append_assoc]
  · have hread := hcount (r.pipe j).1 (by dsimp only [pipe]; omega)
    rw [(r.count_readBefore _ j).1, (r.count_writeBehind _ j).1, h.read_count j hj] at hread
    rw [List.length_append, List.length_singleton]
    split at hread <;> split at hread <;> split <;> omega
  · have hwrite := hcount (r.pipe j).2 (by dsimp only [pipe]; omega)
    rw [(r.count_readBefore _ j).2, (r.count_writeBehind _ j).2, h.write_count j hj] at hwrite
    rw [List.length_append, List.length_singleton]
    split at hwrite <;> split at hwrite <;> split <;> omega

end Recorder

/-- How the stage of a pipeline begins that comes after the given calls. -/
structure Wired (command : Command) (r : Recorder) (past : List Call) (call : Call) : Prop where
  command_eq : command.pipelineStages[past.length]? = some call.command
  mode_eq : call.mode
    = if past.length + 1 = command.pipelineStages.length then .wait else .background
  input_eq : call.recorder.input = (r.readBefore past.length <|> r.input)
  output_eq : call.recorder.output
    = if past.length + 1 = command.pipelineStages.length then r.output
      else some (r.pipe past.length).2
  /-- First all the pipes have been opened, and then the stages before have been started. -/
  events_eq : call.recorder.events.toList
    = r.events.toList ++ openings (r.pipes 0 (command.pipelineStages.length - 1))
      ++ r.handedOver past
  /-- Both ends of the pipes behind the stage are open, and the read end of the one before it. -/
  read_open : ∀ j, j + 1 < command.pipelineStages.length →
    ((r.pipe j).1 ∈ call.recorder.openStreams ↔ past.length ≤ j + 1)
  write_open : ∀ j, j + 1 < command.pipelineStages.length →
    ((r.pipe j).2 ∈ call.recorder.openStreams ↔ past.length ≤ j)

/-- The call that a stage of a pipeline is. -/
def Recorder.stageCall (s : Recorder) (inherited : Inherited) (incoming : Option StreamId)
    (pipes : List (StreamId × StreamId)) (stage : Command) : Call :=
  ⟨stage, stageMode pipes, s.stageStart inherited incoming pipes⟩

theorem Recorder.Poised.wired {command stage : Command} {r s : Recorder} {past : List Call}
    {later : Nat} (hlength : command.pipelineStages.length = past.length + later + 1)
    (h : Poised r (past.length + later) past s)
    (hstage : command.pipelineStages[past.length]? = some stage) :
    Wired command r past (s.stageCall ⟨r.input, r.output⟩ (r.readBefore past.length)
      (r.pipes past.length later) stage) where
  command_eq := hstage
  mode_eq := by
    rw [hlength]
    cases later with
    | zero => exact (if_pos rfl).symm
    | succ later =>
      rw [pipes_succ]
      exact (if_neg (by omega)).symm
  input_eq := rfl
  output_eq := by
    rw [hlength]
    cases later with
    | zero => exact (if_pos rfl).symm
    | succ later =>
      rw [pipes_succ]
      exact (if_neg (by omega)).symm
  events_eq := by
    rw [hlength]
    exact h.events_eq
  read_open j hj := by
    show _ ∈ s.openStreams ↔ _
    rw [← List.count_pos_iff, h.read_count j (by omega)]
    split <;> omega
  write_open j hj := by
    show _ ∈ s.openStreams ↔ _
    rw [← List.count_pos_iff, h.write_count j (by omega)]
    split <;> omega

/-! ## Runs -/

/-- The stages of a pipeline that are started after the given calls, up to a last one; what happens
after that is cleaning up.  If the last one to be started completes and every end can be closed,
then it is the last stage. -/
structure Staged (command : Command) (r : Recorder) (past calls : List Call) (last : Call)
    (closing : List Event) (r' : Recorder) : Prop where
  wired : ∀ i call, calls[i]? = some call → Wired command r (past ++ calls.take i) call
  getLast_eq : calls.getLast? = some last
  cleanup : Cleanup closing
  events_eq : r'.events.toList = last.run.2.events.toList ++ closing
  complete : (∃ code, last.run.1 = .ok (.completed code)) → refuses closing = [] →
    past.length + calls.length = command.pipelineStages.length

namespace Staged

variable {command : Command} {r s r' : Recorder} {past calls : List Call} {call last : Call}
  {closing closing' : List Event}

/-- No further stage is started. -/
theorem single {result : Except ExecError Outcome} (hwired : Wired command r past call)
    (hrun : call.run = (result, s)) (hcleanup : Cleanup closing)
    (hevents : r'.events.toList = s.events.toList ++ closing)
    (hcomplete : (∃ code, result = .ok (.completed code)) → refuses closing = [] →
      past.length + 1 = command.pipelineStages.length) :
    Staged command r past [call] call closing r' where
  wired := by
    intro i other hother
    cases i with
    | zero =>
      cases hother
      rwa [List.take_zero, List.append_nil]
    | succ i => cases hother
  getLast_eq := rfl
  cleanup := hcleanup
  events_eq := by rw [hrun, hevents]
  complete := by
    rw [hrun]
    exact hcomplete

theorem cons (hwired : Wired command r past call)
    (h : Staged command r (past ++ [call]) calls last closing r') :
    Staged command r past (call :: calls) last closing r' where
  wired := by
    intro i other hother
    cases i with
    | zero =>
      cases hother
      rwa [List.take_zero, List.append_nil]
    | succ i =>
      rw [List.take_succ_cons, List.append_cons]
      exact h.wired i other hother
  getLast_eq := by rw [List.getLast?_cons, h.getLast_eq]; rfl
  cleanup := h.cleanup
  events_eq := h.events_eq
  complete hcompleted hnone := by
    have hlength := h.complete hcompleted hnone
    rw [List.length_append, List.length_singleton] at hlength
    rw [List.length_cons]
    omega

/-- There may be more to be cleaned up. -/
theorem after (h : Staged command r past calls last closing s) (hcleanup : Cleanup closing')
    (hevents : r'.events.toList = s.events.toList ++ closing') :
    Staged command r past calls last (closing ++ closing') r' where
  wired := h.wired
  getLast_eq := h.getLast_eq
  cleanup := h.cleanup.append hcleanup
  events_eq := by rw [hevents, h.events_eq, List.append_assoc]
  complete hcompleted hnone := by
    rw [refuses_append, List.append_eq_nil_iff] at hnone
    exact h.complete hcompleted hnone.1

end Staged

/-- As long as no further stage is started, closing the read end before a stage and the write end
behind it is cleaning up as well. -/
theorem Recorder.closing_of_ends {r r₁ r₂ : Recorder} {ids : List StreamId} {write : StreamId}
    {released closed : Except ExecError Unit}
    (hreleased : r.perform (releaseAll ids) = (released, r₁))
    (hclosed : r₁.closeStream write = (closed, r₂)) :
    ∃ closing, r₂.events.toList = r.events.toList ++ closing ∧ Cleanup closing ∧
      (refuses closing = [] → closed = .ok ()) := by
  obtain ⟨closing, hevents, hcleanup, -⟩ := r.releaseAll_closing ids
  obtain ⟨closing', hevents', hcleanup', hok⟩ := r₁.closeStream_closing write
  rw [hreleased] at hevents
  rw [hclosed] at hevents' hok
  refine ⟨closing ++ closing', ?_, hcleanup.append hcleanup', fun hnone => ?_⟩
  · rw [hevents', hevents, List.append_assoc]
  · rw [refuses_append, List.append_eq_nil_iff] at hnone
    exact hok hnone.2

/-- The stages of a pipeline are started in order, each of them wired to its neighbours. -/
theorem Recorder.runStages_staged {command : Command} {r s : Recorder} (stages : List Command)
    (past : List Call) {later : Nat}
    (hstages : command.pipelineStages.drop past.length = stages)
    (hlength : command.pipelineStages.length = past.length + later + 1)
    (hs : Poised r (past.length + later) past s) :
    ∃ calls last closing, Staged command r past calls last closing
      ((runStages ⟨r.input, r.output⟩ (r.readBefore past.length)
        (stages.map (Command.execute (m := RecorderM))) (r.pipes past.length later)).run s).2 := by
  induction stages generalizing s past later with
  | nil =>
    rw [List.drop_eq_nil_iff] at hstages
    omega
  | cons stage rest ih =>
    have hstage := congrArg List.head? hstages
    rw [List.head?_drop] at hstage
    have hwired := hs.wired hlength hstage
    rw [List.map_cons, run_runStages_cons]
    generalize hcall : s.stageCall ⟨r.input, r.output⟩ (r.readBefore past.length)
      (r.pipes past.length later) stage = call at hwired
    rw [show (s.stageStart ⟨r.input, r.output⟩ (r.readBefore past.length)
      (r.pipes past.length later)).perform (stage.execute (stageMode (r.pipes past.length later)))
        = call.run from hcall ▸ rfl]
    rcases hrun : call.run with ⟨e | outcome, s₁⟩ <;> dsimp only
    · exact ⟨_, call, [], .single hwired hrun .nil (List.append_nil _).symm (by rintro ⟨_, ⟨⟩⟩)⟩
    obtain ⟨closing, hevents, hcleanup, hok⟩ :=
      s₁.releaseAll_closing (r.readBefore past.length).toList
    rcases hreleased : s₁.perform (releaseAll (r.readBefore past.length).toList) with
      ⟨e | _, s₂⟩ <;> rw [hreleased] at hevents hok <;> dsimp only
    · exact ⟨_, call, closing, .single hwired hrun hcleanup hevents
        fun _ hnone => by cases hok hnone⟩
    cases later with
    | zero =>
      exact ⟨_, call, closing, .single hwired hrun hcleanup hevents fun _ _ => hlength.symm⟩
    | succ later =>
      rw [pipes_succ]
      dsimp only
      rcases hclosed : s₂.closeStream (r.pipe past.length).2 with ⟨e | _, s₃⟩ <;>
        obtain ⟨closing, hevents, hcleanup, hok⟩ := closing_of_ends hreleased hclosed <;>
        dsimp only
      · exact ⟨_, call, closing, .single hwired hrun hcleanup hevents
          fun _ hnone => by cases hok hnone⟩
      cases outcome with
      | completed code =>
        have hnext : Poised r (past.length + (later + 1)) (past ++ [call]) s₃ :=
          hs.next (by rw [← hcall]; rfl) (by rw [hrun]; exact hreleased) hclosed
        have hpast : (past ++ [call]).length = past.length + 1 := List.length_append
        rw [← Nat.add_assoc, Nat.add_right_comm, ← hpast] at hnext
        obtain ⟨calls, last, closing, hrest⟩ := ih (past ++ [call])
          (by rw [hpast, ← List.tail_drop, hstages]; rfl) (by omega) hnext
        rw [hpast] at hrest
        exact ⟨_, last, closing, .cons hwired hrest⟩
      | terminate code =>
        exact ⟨_, call, closing, .single hwired hrun hcleanup hevents (by rintro ⟨_, ⟨⟩⟩)⟩

/-- A command of several stages is a pipeline. -/
theorem Recorder.execute_stages (r : Recorder) {command : Command}
    (hlength : 2 ≤ command.pipelineStages.length) :
    r.execute command .wait
      = r.perform (runPipeline (command.pipelineStages.map Command.execute)) := by
  have hsingle : [command].length < 2 := Nat.one_lt_two
  cases command with
  | binary connective primary secondary =>
    cases connective with
    | pipe => exact r.execute_pipe primary secondary
    | _ => exact absurd hlength (Nat.not_le_of_lt hsingle)
  | _ => exact absurd hlength (Nat.not_le_of_lt hsingle)

/-- Either a pipe cannot be opened, or the stages are started. -/
theorem Recorder.runPipeline_staged {r : Recorder} {command : Command} (hr : r.WellNumbered)
    (hlength : 2 ≤ command.pipelineStages.length) :
    (∃ pipes closing, Cleanup closing ∧ (r.execute command .wait).2.events.toList
        = r.events.toList ++ openings pipes ++ .failed (.pipe .tooManyOpenFiles) :: closing) ∨
      ∃ calls last closing,
        Staged command r [] calls last closing (r.execute command .wait).2 := by
  rw [r.execute_stages hlength, perform_runPipeline, List.length_map]
  generalize hcount : command.pipelineStages.length - 1 = count
  obtain ⟨story, hcreated, hpiped⟩ := Replay.createPipes r [] count
  obtain ⟨events, faults, openStreams, nextId, hkept⟩ := r.createPipes_snd [] count
  rcases hpipes : r.perform (createPipes [] count) with ⟨e | pipes, s⟩ <;>
    rw [hpipes] at hcreated hpiped hkept <;> dsimp only at hcreated hpiped hkept ⊢
  · obtain ⟨pipes, closing, rfl, hcleanup⟩ := hpiped
    obtain rfl := createPipes_error hpipes
    exact Or.inl ⟨pipes, closing, hcleanup, by rw [hcreated.events, List.append_assoc]⟩
  have hpoised : Poised r (0 + count) [] s := (Nat.zero_add count).symm ▸ .start hr hpipes
  have hinherited : (⟨s.input, s.output⟩ : Inherited) = ⟨r.input, r.output⟩ := by rw [hkept]
  obtain ⟨rfl, -⟩ := createPipes_pipes 0 rfl hpipes
  obtain ⟨calls, last, closing, hstaged⟩ := runStages_staged command.pipelineStages []
    rfl (by rw [List.length_nil]; omega) hpoised
  rw [hinherited]
  change Staged command r [] calls last closing ((runStages (m := RecorderM) ⟨r.input, r.output⟩
    none (command.pipelineStages.map Command.execute) ([] ++ r.pipes 0 count)).run s).2 at hstaged
  generalize (runStages (m := RecorderM) ⟨r.input, r.output⟩ none
    (command.pipelineStages.map Command.execute) ([] ++ r.pipes 0 count)).run s = ran at hstaged ⊢
  obtain ⟨closing', hreleased, hcleanup, -⟩ :=
    (ran.2.setStreams s.input s.output).releaseAll_closing ran.1.2
  have hcollected := (Recorder.perform (ran.2.setStreams s.input s.output)
    (releaseAll ran.1.2)).2.collectSubshells_stretch s.subshells.length
  have hcollects : Cleanup [.collect s.subshells.length] :=
    fun event hmem => List.mem_singleton.1 hmem ▸ trivial
  refine Or.inr ⟨calls, last, _, hstaged.after (hcleanup.append hcollects) ?_⟩
  rw [hcollected.events, hreleased, List.append_assoc]
  rfl

/-- A pipeline is made of its stages.  When it runs, the pipes between them are opened first, unless
one of them cannot be opened; then the stages are started in order, each of them wired to its
neighbours, and after the last one to be started there is nothing but cleaning up.  If that one
completes and every end can be closed, then it is the last stage of all. -/
theorem Recorder.execute_wired (r : Recorder) (command : Command) (hr : r.WellNumbered)
    (hlength : 2 ≤ command.pipelineStages.length) :
    command.pipelineStages.dropLast.foldr (.binary .pipe)
        (command.pipelineStages.getLast command.pipelineStages_ne_nil) = command ∧
      ((∃ pipes closing, Cleanup closing ∧ (r.execute command .wait).2.events.toList
          = r.events.toList ++ openings pipes ++ .failed (.pipe .tooManyOpenFiles) :: closing) ∨
        ∃ (calls : List Call) (last : Call) (closing : List Event),
          (∀ i call, calls[i]? = some call → Wired command r (calls.take i) call) ∧
          calls.getLast? = some last ∧ Cleanup closing ∧
          (r.execute command .wait).2.events.toList = last.run.2.events.toList ++ closing ∧
          ((∃ code, last.run.1 = .ok (.completed code)) → refuses closing = [] →
            calls.length = command.pipelineStages.length)) := by
  refine ⟨command.foldr_pipelineStages, (runPipeline_staged hr hlength).imp_right ?_⟩
  rintro ⟨calls, last, closing, hstaged⟩
  refine ⟨calls, last, closing, hstaged.wired, hstaged.getLast_eq, hstaged.cleanup,
    hstaged.events_eq, fun hcompleted hnone => ?_⟩
  have hall := hstaged.complete hcompleted hnone
  rwa [List.length_nil, Nat.zero_add] at hall

/-- `ls < list | (sort | wc; false) | sort | (ls | wc) > all`, with streams open from before: the
stages open streams of their own, and the ends of the three pipes around them are closed in
between. -/
theorem execute_wired_nested :
    let r : Recorder := {
      script := .plain, faults := none, openStreams := [⟨4⟩, ⟨1⟩], nextId := 5, input := some ⟨4⟩ }
    let run (program : String) := Command.executable program []
    let command := Command.binary .pipe (.redirection .input (run "ls") "list")
      (.binary .pipe (.sequential [.binary .pipe (run "sort") (run "wc"), run "false"])
        (.binary .pipe (run "sort")
          (.redirection .output (.binary .pipe (run "ls") (run "wc")) "all")))
    (r.WellNumbered ∧ 2 ≤ command.pipelineStages.length) ∧
      (∃ (calls : List Call) (last : Call), calls.getLast? = some last ∧
        ∀ i call, calls[i]? = some call → Wired command r (calls.take i) call) ∧
      (r.execute command .wait).2.events.toList.filterMap (fun event =>
          match event with
          | .pipe read write => some ("|", [read.index, write.index])
          | .opened _ path stream => some (path, [stream.index])
          | .close stream => some ("", [stream.index])
          | .spawn program .. => some (program, [])
          | _ => none)
        = [("|", [5, 6]), ("|", [7, 8]), ("|", [9, 10]),
          ("list", [11]), ("ls", []), ("", [11]), ("", [6]),
          ("|", [12, 13]), ("sort", []), ("", [13]), ("wc", []), ("", [12]), ("false", []),
          ("", [5]), ("", [8]), ("sort", []), ("", [7]), ("", [10]),
          ("all", [14]), ("|", [15, 16]), ("ls", []), ("", [16]), ("wc", []), ("", [15]),
          ("", [14]), ("", [9])] := by
  intro r run command
  have hr : r.WellNumbered := show ∀ id ∈ r.openStreams, id.index < r.nextId by decide
  have hlength : 2 ≤ command.pipelineStages.length := by decide
  have hopened : .failed (.pipe .tooManyOpenFiles) ∉ (r.execute command .wait).2.events.toList := by
    decide +kernel
  refine ⟨⟨hr, hlength⟩, ?_, by decide +kernel⟩
  rcases (r.execute_wired command hr hlength).2 with
    ⟨pipes, closing, -, hevents⟩ | ⟨calls, last, -, hwired, hlast, -⟩
  · rw [hevents] at hopened
    exact absurd (List.mem_append_right _ (List.mem_cons_self ..)) hopened
  · exact ⟨calls, last, hlast, hwired⟩

end CommandShell
