import CommandShell.Proofs.Recording.Waiting
set_option autoImplicit false

/-!
# Every subshell is collected once

The outcomes of subshells wait in one list until somebody collects them.  Pipelines share it,
however they are nested: each remembers how long the list was when it started, and in the end it
collects what has come after that.

The account of a story says which subshells are left in the list at its end, and that every other
one has been collected by the innermost pipeline around it.  A command that is waited for leaves
nothing, however it ends, and a composite command in the background leaves the subshell that it
runs in.
-/

namespace CommandShell

/-! ## Accounts -/

/-- The event neither begins nor ends a subshell and does not collect any. -/
def Event.isIdle : Event → Bool
  | .subshell .. | .subshellEnded _ | .collect _ => false
  | _ => true

/-- A story in which every subshell is accounted for, beginning when so many are pending: those with
the given outcomes are left when it ends, and the others have been collected. -/
inductive Accounted : Nat → List Outcome → List Event → Prop where
  | nil {pending} : Accounted pending [] []
  | idle {pending left event story} :
    event.isIdle = true →
    Accounted pending left story →
    Accounted pending left (event :: story)
  /-- A subshell leaves nothing that was started in it, but it is left itself. -/
  | subshell {pending left body input output outcome story} :
    Accounted pending [] body →
    Accounted (pending + 1) left story →
    Accounted pending (outcome :: left)
      (.subshell input output :: body ++ .subshellEnded outcome :: story)
  /-- A pipeline collects what is left since its first pipe was opened. -/
  | pipeline {pending left read write started stages story} :
    Accounted pending started stages →
    Accounted pending left story →
    Accounted pending left (.pipe read write :: stages ++ .collect pending :: story)

namespace Accounted

variable {pending : Nat} {left left' : List Outcome} {story story' : List Event}

theorem append (h : Accounted pending left story)
    (h' : Accounted (pending + left.length) left' story') :
    Accounted pending (left ++ left') (story ++ story') := by
  induction h with
  | nil => exact h'
  | idle hidle _ ih => exact .idle hidle (ih h')
  | @subshell _ left _ _ _ _ _ hbody _ _ ih =>
    rw [List.append_assoc]
    refine .subshell hbody (ih ?_)
    rwa [Nat.add_assoc, Nat.add_comm 1, ← List.length_cons]
  | pipeline hstages _ _ ih =>
    rw [List.append_assoc]
    exact .pipeline hstages (ih h')

/-- A story without subshells and without collections. -/
theorem of_idle (h : ∀ event ∈ story, event.isIdle = true) : Accounted pending [] story := by
  induction story with
  | nil => exact .nil
  | cons event story ih =>
    obtain ⟨hevent, hstory⟩ := List.forall_mem_cons.1 h
    exact .idle hevent (ih hstory)

end Accounted

/-! ## Counting

Subshells get numbers in the order in which they end. -/

/-- What has become of the subshells so far, by their numbers. -/
structure Tally where
  /-- How many have ended. -/
  ended : Nat
  pending : List Nat
  collected : List Nat

namespace Tally

/-- So many are pending, and none has been collected. -/
def start (pending : Nat) : Tally := ⟨pending, List.range pending, []⟩

/-- What has become of them after an event. -/
def step (t : Tally) : Event → Tally
  | .subshellEnded _ => { t with ended := t.ended + 1, pending := t.pending ++ [t.ended] }
  | .collect keep =>
    { t with
      pending := t.pending.take keep
      collected := t.collected ++ t.pending.drop keep }
  | _ => t

/-- What has become of them after a story. -/
def run (t : Tally) (story : List Event) : Tally := story.foldl step t

theorem run_append (t : Tally) (story story' : List Event) :
    t.run (story ++ story') = (t.run story).run story' := List.foldl_append

theorem run_cons (t : Tally) (event : Event) (story : List Event) :
    t.run (event :: story) = (t.step event).run story := rfl

theorem step_idle (t : Tally) {event : Event} (h : event.isIdle = true) : t.step event = t := by
  cases event <;> first | rfl | cases h

/-- From one tally to a later one, the kept subshells are added to those that are pending and the
collected ones to those that are collected, and every new subshell is one of these, once. -/
structure Grows (t t' : Tally) (kept collected : List Nat) : Prop where
  pending_eq : t'.pending = t.pending ++ kept
  collected_eq : t'.collected = t.collected ++ collected
  ended_le : t.ended ≤ t'.ended
  perm : (collected ++ kept).Perm (List.range' t.ended (t'.ended - t.ended))

namespace Grows

variable {t t₁ t' : Tally} {kept kept' collected collected' : List Nat}

theorem refl (t : Tally) : Grows t t [] [] where
  pending_eq := (List.append_nil _).symm
  collected_eq := (List.append_nil _).symm
  ended_le := Nat.le_refl _
  perm := by
    rw [Nat.sub_self]
    exact .refl _

theorem trans (h : Grows t t₁ kept collected) (h' : Grows t₁ t' kept' collected') :
    Grows t t' (kept ++ kept') (collected ++ collected') where
  pending_eq := by rw [h'.pending_eq, h.pending_eq, List.append_assoc]
  collected_eq := by rw [h'.collected_eq, h.collected_eq, List.append_assoc]
  ended_le := Nat.le_trans h.ended_le h'.ended_le
  perm := by
    have hrange : List.range' t.ended (t₁.ended - t.ended)
          ++ List.range' t₁.ended (t'.ended - t₁.ended)
        = List.range' t.ended (t'.ended - t.ended) := by
      obtain ⟨m, hm⟩ := Nat.exists_eq_add_of_le h.ended_le
      obtain ⟨n, hn⟩ := Nat.exists_eq_add_of_le h'.ended_le
      rw [hn, hm, Nat.add_sub_cancel_left, Nat.add_sub_cancel_left, Nat.add_assoc,
        Nat.add_sub_cancel_left, List.range'_append_1]
    have hparts := h.perm.append h'.perm
    rw [hrange] at hparts
    refine List.Perm.trans (List.perm_iff_count.2 fun n => ?_) hparts
    simp only [List.count_append]
    omega

/-- A subshell ends and is pending. -/
theorem ended (t : Tally) (outcome : Outcome) :
    Grows t (t.step (.subshellEnded outcome)) [t.ended] [] where
  pending_eq := rfl
  collected_eq := (List.append_nil _).symm
  ended_le := Nat.le_succ _
  perm := by
    show [t.ended].Perm (List.range' t.ended (t.ended + 1 - t.ended))
    rw [Nat.add_sub_cancel_left]
    exact .refl _

/-- Whoever knows how many were pending collects just those that have been added. -/
theorem collect (h : Grows t t' kept collected) :
    Grows t (t'.step (.collect t.pending.length)) [] (collected ++ kept) where
  pending_eq := by
    show t'.pending.take t.pending.length = _
    rw [h.pending_eq, List.take_left, List.append_nil]
  collected_eq := by
    show t'.collected ++ t'.pending.drop t.pending.length = _
    rw [h.pending_eq, List.drop_left, h.collected_eq, List.append_assoc]
  ended_le := h.ended_le
  perm := by
    rw [List.append_nil]
    exact h.perm

end Grows

end Tally

/-- In a story in which every subshell is accounted for, each is collected once or left. -/
theorem Accounted.grows {pending : Nat} {left : List Outcome} {story : List Event}
    (h : Accounted pending left story) (t : Tally) (ht : t.pending.length = pending) :
    ∃ kept collected, t.Grows (t.run story) kept collected ∧ kept.length = left.length := by
  induction h generalizing t with
  | nil => exact ⟨[], [], .refl t, rfl⟩
  | idle hidle _ ih =>
    rw [Tally.run_cons, t.step_idle hidle]
    exact ih t ht
  | @subshell pending left body input output outcome story _ _ ihbody ihstory =>
    obtain ⟨_, collectedBody, hbody, hnone⟩ := ihbody t ht
    obtain rfl := List.eq_nil_of_length_eq_zero hnone
    have hended := hbody.trans (.ended (t.run body) outcome)
    have hpending : ((t.run body).step (.subshellEnded outcome)).pending.length = pending + 1 := by
      rw [hended.pending_eq, List.length_append, ht]
      rfl
    obtain ⟨kept, collected, hstory, hlength⟩ := ihstory _ hpending
    have hrun : t.run (.subshell input output :: body ++ .subshellEnded outcome :: story)
        = ((t.run body).step (.subshellEnded outcome)).run story := Tally.run_append t body _
    rw [hrun]
    exact ⟨_, _, hended.trans hstory, congrArg (· + 1) hlength⟩
  | @pipeline pending left read write started stages story _ _ ihstages ihstory =>
    obtain ⟨_, _, hstages, -⟩ := ihstages t ht
    have hcollected := hstages.collect
    rw [ht] at hcollected
    have hpending : ((t.run stages).step (.collect pending)).pending.length = pending := by
      rw [hcollected.pending_eq, List.append_nil, ht]
    obtain ⟨kept, collected, hstory, hlength⟩ := ihstory _ hpending
    have hrun : t.run (.pipe read write :: stages ++ .collect pending :: story)
        = ((t.run stages).step (.collect pending)).run story := Tally.run_append t stages _
    rw [hrun]
    exact ⟨_, _, hcollected.trans hstory, hlength⟩

/-- If none is left, then all of them have been collected, each once, and what was pending before is
still pending. -/
theorem Accounted.collected_perm {pending : Nat} {story : List Event}
    (h : Accounted pending [] story) :
    let tally := (Tally.start pending).run story
    tally.pending = List.range pending ∧
      tally.collected.Perm (List.range' pending (tally.ended - pending)) := by
  obtain ⟨kept, collected, hgrows, hnone⟩ := h.grows (.start pending) List.length_range
  obtain rfl := List.eq_nil_of_length_eq_zero hnone
  have hperm := hgrows.perm
  rw [List.append_nil] at hperm
  refine ⟨hgrows.pending_eq.trans (List.append_nil _), ?_⟩
  rw [hgrows.collected_eq]
  exact hperm

/-! ## Ledgers -/

/-- A stretch in which every subshell is accounted for, and which adds the outcomes of those that
are left to the list. -/
structure Ledger (r : Recorder) (left : List Outcome) (story : List Event) (r' : Recorder) : Prop
    extends Stretch r story r' where
  subshells_eq : r'.subshells = r.subshells ++ left
  accounted : Accounted r.subshells.length left story

namespace Ledger

variable {r r₁ r' : Recorder} {left left' : List Outcome} {story story' : List Event}

theorem trans (h : Ledger r left story r₁) (h' : Ledger r₁ left' story' r') :
    Ledger r (left ++ left') (story ++ story') r' where
  toStretch := h.toStretch.trans h'.toStretch
  subshells_eq := by rw [h'.subshells_eq, h.subshells_eq, List.append_assoc]
  accounted := by
    refine h.accounted.append ?_
    rw [← List.length_append, ← h.subshells_eq]
    exact h'.accounted

/-- What neither starts nor collects subshells leaves the list alone. -/
theorem of_idle (h : Stretch r story r') (hsubshells : r'.subshells = r.subshells)
    (hidle : ∀ event ∈ story, event.isIdle = true) : Ledger r [] story r' where
  toStretch := h
  subshells_eq := by rw [hsubshells, List.append_nil]
  accounted := .of_idle hidle

/-- An operation with one event for its success. -/
theorem operation {α : Type} {success : α → Event} {result : Except ExecError α}
    (h : Stretch r [outcomeEvent success result] r') (hsubshells : r'.subshells = r.subshells)
    (hsuccess : ∀ a, (success a).isIdle = true) :
    Ledger r [] [outcomeEvent success result] r' := by
  refine of_idle h hsubshells (List.forall_mem_singleton.2 ?_)
  cases result with
  | ok a => exact hsuccess a
  | error e => rfl

theorem refl (r : Recorder) : Ledger r [] [] r := of_idle (.refl r) rfl (List.forall_mem_nil _)

theorem tell (r : Recorder) (notice : Option Notice) : Ledger r [] [] (r.tell notice) :=
  of_idle (.tell r notice) (by cases notice <;> rfl) (List.forall_mem_nil _)

theorem activate (r : Recorder) (redirect : Redirect) (stream : Option StreamId) :
    Ledger r [] [] (r.activate redirect stream) :=
  of_idle (.activate r redirect stream) (by cases redirect <;> rfl) (List.forall_mem_nil _)

theorem setStreams (r : Recorder) (input output : Option StreamId) :
    Ledger r [] [] (r.setStreams input output) :=
  of_idle (.setStreams r input output) rfl (List.forall_mem_nil _)

theorem spawn (r : Recorder) (program : String) (arguments : List String) (mode : WaitMode) :
    Ledger r [] (.spawn program arguments mode r.input r.output ::
        Recorder.failure (r.spawnResult program mode))
      (r.spawn program arguments mode).2 := by
  obtain ⟨events, hafter⟩ := r.spawn_snd program arguments mode
  refine of_idle (r.spawn_stretch program arguments mode) (by rw [hafter]) ?_
  refine List.forall_mem_cons.2 ⟨rfl, ?_⟩
  cases r.spawnResult program mode with
  | ok code => exact List.forall_mem_nil _
  | error e => exact List.forall_mem_singleton.2 rfl

theorem createPipe (r : Recorder) :
    Ledger r [] [outcomeEvent (fun pipe => .pipe pipe.1 pipe.2) r.createPipe.1]
      r.createPipe.2 := by
  obtain ⟨events, openStreams, nextId, hafter⟩ := r.createPipe_snd
  exact .operation r.createPipe_stretch (by rw [hafter]) fun _ => rfl

theorem openFile (r : Recorder) (redirect : Redirect) (path : String) :
    Ledger r [] [outcomeEvent (.opened redirect path) (r.openFile redirect path).1]
      (r.openFile redirect path).2 := by
  obtain ⟨events, openStreams, nextId, hafter⟩ := r.openFile_snd redirect path
  exact .operation (r.openFile_stretch redirect path) (by rw [hafter]) fun _ => rfl

theorem closeStream (r : Recorder) (id : StreamId) :
    Ledger r [] [outcomeEvent (fun _ => .close id) (r.closeStream id).1]
      (r.closeStream id).2 := by
  obtain ⟨events, openStreams, hafter⟩ := r.closeStream_snd id
  exact .operation (r.closeStream_stretch id) (by rw [hafter]) fun _ => rfl

theorem writeOutput (r : Recorder) (text : String) :
    Ledger r [] [outcomeEvent (fun _ => .wrote r.output text) (r.writeOutput text).1]
      (r.writeOutput text).2 := by
  obtain ⟨events, hafter⟩ := r.writeOutput_snd text
  exact .operation (r.writeOutput_stretch text) (by rw [hafter]) fun _ => rfl

/-- A subshell whose body leaves nothing is left. -/
theorem resume {after : Recorder} (h : Ledger r.inside [] story after)
    (result : Except ExecError Outcome) :
    Ledger r [Recorder.settled result]
      (.subshell r.input r.output :: story ++ [.subshellEnded (Recorder.settled result)])
      (r.resume result after) where
  toStretch := Recorder.resume_stretch h.toStretch result
  subshells_eq := by
    have htold := (h.trans (.tell after (Recorder.subshellNotice result))).subshells_eq
    rw [List.append_nil, List.append_nil] at htold
    show (after.tell (Recorder.subshellNotice result)).subshells ++ [_] = _
    rw [htold]
    rfl
  accounted := .subshell h.accounted .nil

/-- A pipeline collects what its stages leave. -/
theorem pipeline {read write : StreamId} (hpipe : Ledger r [] [.pipe read write] r₁)
    (hstages : Ledger r₁ left story r') :
    Ledger r [] (.pipe read write :: story ++ [.collect r.subshells.length])
      (r'.collectSubshells r.subshells.length).2 := by
  have hsame : r₁.subshells = r.subshells := hpipe.subshells_eq.trans (List.append_nil _)
  have hcollect := r'.collectSubshells_stretch r.subshells.length
  refine ⟨(hpipe.toStretch.trans hstages.toStretch).trans hcollect, ?_, ?_⟩
  · show r'.subshells.take r.subshells.length = _
    rw [hstages.subshells_eq, hsame, List.take_left, List.append_nil]
  · exact .pipeline (hsame ▸ hstages.accounted) .nil

end Ledger

/-- Whatever is left, every subshell is accounted for. -/
def Accounts (r r' : Recorder) : Prop := ∃ left story, Ledger r left story r'

/-- Every subshell is accounted for and none is left. -/
def Settles (r r' : Recorder) : Prop := ∃ story, Ledger r [] story r'

theorem Settles.trans {r r₁ r' : Recorder} (h : Settles r r₁) (h' : Settles r₁ r') :
    Settles r r' := by
  obtain ⟨_, h⟩ := h
  obtain ⟨_, h'⟩ := h'
  exact ⟨_, h.trans h'⟩

theorem Settles.refl (r : Recorder) : Settles r r := ⟨_, .refl r⟩

theorem Settles.accounts {r r' : Recorder} (h : Settles r r') : Accounts r r' := ⟨_, h⟩

theorem Accounts.trans {r r₁ r' : Recorder} (h : Accounts r r₁) (h' : Accounts r₁ r') :
    Accounts r r' := by
  obtain ⟨_, _, h⟩ := h
  obtain ⟨_, _, h'⟩ := h'
  exact ⟨_, _, h.trans h'⟩

/-! ## Commands -/

namespace Command

/-- The command within the outermost redirections. -/
def core : Command → Command
  | redirection _ primary _ => primary.core
  | command => command

/-- The paths of the outermost redirections, from the outside to the inside. -/
def outerPaths : Command → List String
  | redirection _ primary path => path :: primary.outerPaths
  | _ => []

/-- How many subshells a command leaves when it runs in the background: one if it is composite
within its outermost redirections and these can be opened. -/
def leftInBackground (script : Script) (command : Command) : Nat :=
  if command.core.isComposite = true ∧ ∀ path ∈ command.outerPaths, script.isMissing path = false
  then 1 else 0

theorem leftInBackground_of_composite {command : Command} (script : Script)
    (h : command.isComposite = true) : command.leftInBackground script = 1 := by
  have hcore : command.core = command ∧ command.outerPaths = [] := by
    cases command with
    | redirection => cases h
    | _ => exact ⟨rfl, rfl⟩
  rw [leftInBackground, hcore.1, hcore.2]
  exact if_pos ⟨h, nofun⟩

theorem leftInBackground_redirection (script : Script) (redirect : Redirect) (primary : Command)
    (path : String) :
    (redirection redirect primary path).leftInBackground script
      = if script.isMissing path then 0 else primary.leftInBackground script := by
  cases hpath : script.isMissing path <;> simp [leftInBackground, core, outerPaths, hpath]

end Command

/-- Nobody waits outside of subshells. -/
def NeverWaits (story : List Event) : Prop := ∀ event ∈ outside story, event.waits = false

theorem NeverWaits.append {story story' : List Event} (hlevel : Level story)
    (h : NeverWaits story) (h' : NeverWaits story') : NeverWaits (story ++ story') := by
  intro event hmem
  rw [outside_append hlevel] at hmem
  exact (List.mem_append.1 hmem).elim (h event) (h' event)

/-- What an operation that neither waits nor starts a subshell adds. -/
theorem NeverWaits.operation {α : Type} (success : α → Event)
    (hsuccess : ∀ a, (success a).waits = false) (result : Except ExecError α) :
    NeverWaits [outcomeEvent success result] := by
  refine List.forall_mem_singleton.2 ?_
  cases result with
  | ok a => exact hsuccess a
  | error e => rfl

/-- What a command in the background comes to: nobody waits, and a subshell may be left. -/
structure Detached (command : Command) (r : Recorder) (left : List Outcome) (story : List Event)
    (r' : Recorder) : Prop extends Ledger r left story r' where
  neverWaits : NeverWaits story
  length_eq : left.length = command.leftInBackground r.script

/-- What a command leaves in each mode. -/
structure Command.Settled (command : Command) : Prop where
  wait : ∀ r : Recorder, Settles r (r.execute command .wait).2
  background : ∀ r : Recorder,
    ∃ left story, Detached command r left story (r.execute command .background).2

namespace Command.Settled

theorem accounts {command : Command} (h : command.Settled) (mode : WaitMode) (r : Recorder) :
    Accounts r (r.execute command mode).2 := by
  cases mode with
  | wait => exact (h.wait r).accounts
  | background =>
    obtain ⟨left, story, hdetached⟩ := h.background r
    exact ⟨left, story, hdetached.toLedger⟩

theorem executable (program : String) (arguments : List String) :
    (Command.executable program arguments).Settled where
  wait r := by
    rw [Recorder.execute_executable]
    exact ⟨_, .spawn r program arguments .wait⟩
  background r := by
    rw [Recorder.execute_executable]
    refine ⟨_, _, .spawn r program arguments .background, List.forall_mem_cons.2 ⟨rfl, ?_⟩, rfl⟩
    cases r.spawnResult program .background with
    | ok code => exact List.forall_mem_nil _
    | error e => exact List.forall_mem_singleton.2 rfl

theorem builtin (action : Builtin) : (Command.builtin action).Settled := by
  have hresponds : ∀ (r : Recorder) (answer : Builtin.Answer),
      ∃ story, Ledger r [] story (r.respond answer).2 ∧ NeverWaits story := by
    intro r answer
    have htold := Ledger.tell r answer.notice
    rw [Recorder.respond_snd]
    cases answer.text with
    | none => exact ⟨[], htold, List.forall_mem_nil _⟩
    | some text =>
      exact ⟨_, htold.trans (.writeOutput _ text), .operation _ (fun _ => rfl) _⟩
  constructor
  · intro r
    rw [Recorder.execute_builtin]
    obtain ⟨story, hran, -⟩ := hresponds r (action.answer r.script.fileKind)
    exact ⟨story, hran⟩
  · intro r
    rw [Recorder.execute_builtin]
    obtain ⟨story, hran, hwaits⟩ := hresponds r (action.answer r.script.fileKind)
    exact ⟨[], story, hran, hwaits, rfl⟩

/-- In the background a composite command leaves its subshell. -/
theorem of_wait {command : Command} (hcomposite : command.isComposite = true)
    (hwait : ∀ r : Recorder, Settles r (r.execute command .wait).2) : command.Settled where
  wait := hwait
  background r := by
    obtain ⟨story, hran⟩ := hwait r.inside
    rw [Recorder.execute_background r hcomposite]
    refine ⟨_, _, .resume hran _, ?_, ?_⟩
    · rw [NeverWaits, outside_subshell hran.level]
      exact List.forall_mem_singleton.2 rfl
    · exact (command.leftInBackground_of_composite r.script hcomposite).symm

theorem sequential {commands : List Command} (h : ∀ command ∈ commands, command.Settled) :
    (Command.sequential commands).Settled :=
  .of_wait rfl (Recorder.execute_sequential_of_trans Settles Settles.trans Settles.refl
    fun command hmem => (h command hmem).wait)

theorem conditional {connective : Connective} {primary secondary : Command}
    (hconnective : connective ≠ .pipe) (hprimary : primary.Settled)
    (hsecondary : secondary.Settled) : (Command.binary connective primary secondary).Settled :=
  .of_wait rfl (Recorder.execute_conditional_of_trans Settles Settles.trans hconnective
    hprimary.wait hsecondary.wait)

end Command.Settled

/-- A pipeline opens a pipe before anything else, unless it opens none. -/
theorem Recorder.createPipes_settles (r : Recorder) (count : Nat) :
    match r.perform (createPipes [] (count + 1)) with
    | (.error _, r') => Settles r r'
    | (.ok _, r') =>
      ∃ read write r₁, Ledger r [] [.pipe read write] r₁ ∧ Settles r₁ r' := by
  have hcreates : ∀ r : Recorder, Settles r r.createPipe.2 := fun r => ⟨_, .createPipe r⟩
  have hcloses : ∀ (r : Recorder) (id : StreamId), Settles r (r.closeStream id).2 :=
    fun r id => ⟨_, .closeStream r id⟩
  have hcreated := Ledger.createPipe r
  rw [perform_createPipes_succ]
  generalize r.createPipe = created at hcreated ⊢
  rcases created with ⟨e | pipe, r₁⟩ <;> dsimp only at hcreated ⊢
  · exact ⟨_, hcreated⟩
  · have hrest := perform_createPipes_of_trans Settles Settles.trans Settles.refl hcloses hcreates
      ([] ++ [pipe]) count r₁
    generalize r₁.perform (createPipes ([] ++ [pipe]) count) = ran at hrest ⊢
    rcases ran with ⟨e | pipes, r'⟩
    · exact Settles.trans ⟨_, hcreated⟩ hrest
    · exact ⟨pipe.1, pipe.2, r₁, hcreated, hrest⟩

/-- However a pipeline ends, it leaves nothing. -/
theorem Recorder.runPipeline_settles {stages : List Command} (hlength : 2 ≤ stages.length)
    (h : ∀ stage ∈ stages, stage.Settled) (r : Recorder) :
    Settles r (r.perform (runPipeline (stages.map Command.execute))).2 := by
  have hcloses : ∀ (r : Recorder) (id : StreamId), Accounts r (r.closeStream id).2 :=
    fun r id => ⟨_, _, .closeStream r id⟩
  have hsets : ∀ (r : Recorder) (input output : Option StreamId),
      Accounts r (r.setStreams input output) := fun r _ _ => ⟨_, _, .setStreams r _ _⟩
  have hpipes := r.createPipes_settles (stages.length - 2)
  rw [perform_runPipeline, List.length_map]
  rw [show stages.length - 2 + 1 = stages.length - 1 by omega] at hpipes
  generalize r.perform (createPipes [] (stages.length - 1)) = created at hpipes ⊢
  rcases created with ⟨e | pipes, r'⟩ <;> dsimp only at hpipes ⊢
  · exact hpipes
  obtain ⟨read, write, r₁, hpipe, hopened⟩ := hpipes
  have hsame : r'.subshells = r.subshells := by
    obtain ⟨_, hopened⟩ := hopened
    rw [hopened.subshells_eq, hpipe.subshells_eq, List.append_nil, List.append_nil]
  have hstaged := StagesRun.of_trans Accounts Accounts.trans (fun r => (Settles.refl r).accounts)
    hcloses hsets
    (stagesRun_runStages ⟨r'.input, r'.output⟩ (stages.map Command.execute) none pipes r')
    (List.forall_mem_map.2 fun stage hmem => (h stage hmem).accounts)
  generalize (runStages (m := RecorderM) ⟨r'.input, r'.output⟩ none
    (stages.map Command.execute) pipes).run r' = ran at hstaged ⊢
  have hreleased := perform_releaseAll_of_trans Accounts Accounts.trans
    (fun r => (Settles.refl r).accounts) hcloses ran.1.2 (ran.2.setStreams r'.input r'.output)
  obtain ⟨left, story, hall⟩ :=
    hopened.accounts.trans (hstaged.trans ((hsets _ _ _).trans hreleased))
  rw [hsame]
  exact ⟨_, .pipeline hpipe hall⟩

namespace Command.Settled

theorem pipeline {primary secondary : Command}
    (h : ∀ stage ∈ (Command.binary .pipe primary secondary).pipelineStages, stage.Settled) :
    (Command.binary .pipe primary secondary).Settled := by
  refine .of_wait rfl fun r => ?_
  rw [Recorder.execute_pipe]
  refine Recorder.runPipeline_settles ?_ h r
  have hpos := List.length_pos_iff.2 (Command.pipelineStages_ne_nil secondary)
  rw [Command.pipelineStages, List.length_cons]
  omega

theorem redirection {redirect : Redirect} {primary : Command} {path : String}
    (h : primary.Settled) : (Command.redirection redirect primary path).Settled where
  wait := Recorder.execute_redirection_of_trans Settles Settles.trans
    (fun r redirect path => ⟨_, .openFile r redirect path⟩)
    (fun r redirect stream => ⟨_, .activate r redirect stream⟩)
    (fun r id => ⟨_, .closeStream r id⟩) h.wait redirect path
  background r := by
    have hopened := Ledger.openFile r redirect path
    have hwaits : NeverWaits _ :=
      .operation (.opened redirect path) (fun _ => rfl)
        (r.openFile redirect path).1
    have hcases := r.openFile_cases redirect path
    rw [Recorder.execute_redirection]
    generalize r.openFile redirect path = opened at hopened hwaits hcases ⊢
    rcases opened with ⟨e | stream, r₁⟩ <;> dsimp only at hopened hwaits hcases ⊢
    · refine ⟨_, _, hopened, hwaits, ?_⟩
      rw [Command.leftInBackground_redirection]
      rcases hcases with ⟨-, -, -, hmissing⟩ | ⟨hresult, -⟩
      · rw [if_pos hmissing, List.length_nil]
      · cases hresult
    · have hpresent : r.script.isMissing path = false := by
        rcases hcases with ⟨hresult, -⟩ | ⟨-, -, -, hpresent⟩
        · cases hresult
        · exact hpresent
      obtain ⟨left, story, hran⟩ := h.background (r₁.activate redirect (some stream))
      generalize (r₁.activate redirect (some stream)).execute primary .background = ran at hran ⊢
      have hstarted : Ledger r [] _ _ := hopened.trans (.activate r₁ redirect (some stream))
      have hclosed : Ledger ran.2 [] _ _ := (Ledger.activate ran.2 redirect
        (r₁.active redirect)).trans (.closeStream _ stream)
      have hcloses : NeverWaits _ := .operation (fun _ => .close stream)
        (fun _ => rfl) ((ran.2.activate redirect (r₁.active redirect)).closeStream stream).1
      have hall := hstarted.trans (hran.toLedger.trans hclosed)
      rw [List.append_nil left] at hall
      refine ⟨left, _, hall, ?_, ?_⟩
      · exact hwaits.append hstarted.level (hran.neverWaits.append hran.level hcloses)
      · rw [Command.leftInBackground_redirection, hpresent, hran.length_eq, hstarted.script]
        rfl

end Command.Settled

/-- Every command leaves what it should. -/
theorem Command.settled (command : Command) : command.Settled := by
  induction command using Command.stages_induction with
  | executable program arguments => exact .executable program arguments
  | builtin action => exact .builtin action
  | sequential commands ih => exact .sequential ih
  | conditional connective primary secondary hconnective hprimary hsecondary =>
    exact .conditional hconnective hprimary hsecondary
  | pipeline primary secondary ih => exact .pipeline ih
  | redirection redirect primary path ih => exact .redirection ih

/-- However a command that is waited for ends, the subshells that were pending before are pending
afterwards, and every other one has been collected once, by the pipeline that started it.  In the
background nobody waits outside of subshells, and just a composite command whose redirections can
be opened leaves a subshell. -/
theorem Recorder.execute_accounted (r : Recorder) (command : Command) :
    (∃ story, (r.execute command .wait).2.events.toList = r.events.toList ++ story ∧
        (r.execute command .wait).2.subshells = r.subshells ∧
        Accounted r.subshells.length [] story ∧
        let tally := (Tally.start r.subshells.length).run story
        tally.pending = List.range r.subshells.length ∧
          tally.collected.Perm
            (List.range' r.subshells.length (tally.ended - r.subshells.length))) ∧
      ∃ left story,
        (r.execute command .background).2.events.toList = r.events.toList ++ story ∧
        (r.execute command .background).2.subshells = r.subshells ++ left ∧
        Accounted r.subshells.length left story ∧
        (∀ event ∈ outside story, event.waits = false) ∧
        left.length = if command.core.isComposite = true ∧
            ∀ path ∈ command.outerPaths, r.script.isMissing path = false then 1 else 0 := by
  obtain ⟨story, hran⟩ := command.settled.wait r
  obtain ⟨left, story', hdetached⟩ := command.settled.background r
  refine ⟨⟨story, hran.events, ?_, hran.accounted, hran.accounted.collected_perm⟩, left, story',
    hdetached.events, hdetached.subshells_eq, hdetached.accounted, hdetached.neverWaits,
    hdetached.length_eq⟩
  rw [hran.subshells_eq, List.append_nil]

/-- `((ls; exit 4) | sort) > all | ((wc) | ls; true) | ((ls) | (ls) | sort; ls)`, with a subshell
pending from before, where `wc` crashes and one end cannot be closed: pipelines within stages collect
their own subshells, and afterwards the pipeline around them collects its two. -/
theorem execute_accounted_nested :
    let r : Recorder := {
      script := { Script.plain with crashes := (· == "wc") }
      faults := some { Faults.none with close := fun earlier _ => earlier == 6 }
      subshells := [.terminate 2] }
    let run (program : String) := Command.executable program []
    let command := Command.binary .pipe
      (.redirection .output
        (.binary .pipe (.sequential [run "ls", .builtin (.exit ["4"])]) (run "sort")) "all")
      (.binary .pipe
        (.sequential [.binary .pipe (.sequential [run "wc"]) (run "ls"), run "true"])
        (.sequential [.binary .pipe (.sequential [run "ls"])
          (.binary .pipe (.sequential [run "ls"]) (run "sort")), run "ls"]))
    let story := (r.execute command .wait).2.events.toList
    ((r.execute command .wait).2.subshells = [.terminate 2] ∧ Accounted 1 [] story ∧
        story.filterMap (fun | .collect keep => some keep | _ => none) = [1, 2, 3, 1] ∧
        ((Tally.start 1).run story).collected = [1, 3, 5, 6, 2, 4]) ∧
      ∃ left,
        (r.execute (.redirection .append command "log") .background).2.subshells
          = .terminate 2 :: left ∧
        left.length = 1 := by
  intro r run command story
  obtain ⟨⟨story', hevents, hsubshells, haccounted, -⟩, -⟩ := r.execute_accounted command
  obtain rfl : story = story' := hevents
  obtain ⟨-, left, -, -, hleft, -, -, hlength⟩ :=
    r.execute_accounted (.redirection .append command "log")
  exact ⟨⟨hsubshells, haccounted, by decide +kernel, by decide +kernel⟩, left, hleft, hlength⟩

end CommandShell
