import CommandShell.Proofs.Recording.Story
set_option autoImplicit false

/-!
# Streams are cleaned up

However a command ends, the active streams are the ones from before, and every stream that it
opened has been the object of exactly one attempt to close it.  So what stays open is what was open
before, together with the new streams whose attempt was made to fail.

The books of a stretch say which numbers were given out and what became of the open streams.  They
add up over stretches that follow one another; a command's books are balanced: what it opens and
what it tries to close are the same streams.
-/

namespace CommandShell

/-- The numbers from one to below another, as streams. -/
def newIds (first next : Nat) : List StreamId :=
  (List.range' first (next - first)).map StreamId.mk

theorem mem_newIds {first next : Nat} {id : StreamId} :
    id ∈ newIds first next ↔ first ≤ id.index ∧ id.index < next := by
  cases id with
  | mk index =>
    simp only [newIds, List.mem_map, List.mem_range'_1, StreamId.mk.injEq]
    constructor
    · rintro ⟨n, h, rfl⟩
      omega
    · intro h
      exact ⟨index, by omega, rfl⟩

theorem nodup_newIds (first next : Nat) : (newIds first next).Nodup :=
  List.Pairwise.map _ (fun _ _ h heq => h (StreamId.mk.inj heq)) List.nodup_range'

theorem newIds_append {first middle next : Nat} (h : first ≤ middle) (h' : middle ≤ next) :
    newIds first middle ++ newIds middle next = newIds first next := by
  have hrange : List.range' first (middle - first)
        ++ List.range' (first + (middle - first)) (next - middle)
      = List.range' first (middle - first + (next - middle)) := List.range'_append_1
  rw [show first + (middle - first) = middle by omega,
    show middle - first + (next - middle) = next - first by omega] at hrange
  rw [newIds, newIds, ← List.map_append, hrange, newIds]

/-- The streams of attempts to close one that are made to fail, where the plan says so by the number
of earlier attempts. -/
def refused (plan : Nat → StreamId → Bool) : List StreamId → List StreamId
  | [] => []
  | id :: rest =>
    (if plan 0 id then [id] else []) ++ refused (fun earlier => plan (earlier + 1)) rest

theorem refused_append (plan : Nat → StreamId → Bool) (ids ids' : List StreamId) :
    refused plan (ids ++ ids')
      = refused plan ids ++ refused (fun earlier => plan (ids.length + earlier)) ids' := by
  induction ids generalizing plan with
  | nil => simp [refused]
  | cons id ids ih =>
    have hshift : (fun earlier => plan (ids.length + earlier + 1))
        = fun earlier => plan ((id :: ids).length + earlier) := by
      funext earlier
      rw [List.length_cons]
      congr 1
      omega
    rw [List.cons_append, refused, ih, refused, List.append_assoc, hshift]

theorem refused_eq_nil {plan : Nat → StreamId → Bool} (h : ∀ earlier id, plan earlier id = false)
    (ids : List StreamId) : refused plan ids = [] := by
  induction ids generalizing plan with
  | nil => rfl
  | cons id ids ih => simp [refused, h, ih fun earlier => h (earlier + 1)]

/-- The numbers of all open streams have been given out. -/
def Recorder.WellNumbered (r : Recorder) : Prop :=
  ∀ id ∈ r.openStreams, id.index < r.nextId

/-- The books of a stretch: the streams that are opened get the next numbers in order, a stream is
open afterwards if it was open or has been opened and has not been closed, and an attempt to close
one fails just where the plan says so. -/
structure Books (r : Recorder) (story : List Event) (r' : Recorder) : Prop
    extends Stretch r story r' where
  nextId_le : r.nextId ≤ r'.nextId
  opens_eq : opens story = newIds r.nextId r'.nextId
  balance : (r'.openStreams ++ closes story).Perm (r.openStreams ++ opens story)
  plan : r'.closePlan = fun earlier => r.closePlan ((attempts (outside story)).length + earlier)
  refuses_eq : refuses story = refused r.closePlan (attempts (outside story))

namespace Books

variable {r r₁ r' : Recorder} {story story' : List Event}

theorem refl (r : Recorder) : Books r [] r where
  toStretch := .refl r
  nextId_le := Nat.le_refl _
  opens_eq := by simp [newIds]
  balance := .refl _
  plan := by simp [outside, outsideFrom]
  refuses_eq := rfl

theorem trans (h : Books r story r₁) (h' : Books r₁ story' r') : Books r (story ++ story') r' where
  toStretch := h.toStretch.trans h'.toStretch
  nextId_le := Nat.le_trans h.nextId_le h'.nextId_le
  opens_eq := by
    rw [opens_append, h.opens_eq, h'.opens_eq, newIds_append h.nextId_le h'.nextId_le]
  balance := by
    refine List.perm_iff_count.2 fun id => ?_
    have hid := h.balance.count_eq id
    have hid' := h'.balance.count_eq id
    simp only [opens_append, closes_append, List.count_append] at hid hid' ⊢
    omega
  plan := by
    rw [h'.plan, h.plan, outside_append h.level, attempts_append, List.length_append]
    simp only [Nat.add_assoc]
  refuses_eq := by
    rw [refuses_append, h.refuses_eq, h'.refuses_eq, outside_append h.level, attempts_append,
      refused_append, h.plan]

/-- A stretch in which nobody tries to close a stream. -/
theorem of_opens (h : Stretch r story r') (hnextId : r.nextId ≤ r'.nextId)
    (hopens : opens story = newIds r.nextId r'.nextId)
    (hstreams : r'.openStreams.Perm (r.openStreams ++ opens story))
    (hplan : r'.closePlan = r.closePlan) (hattempts : attempts story = [])
    (houtside : attempts (outside story) = []) : Books r story r' where
  toStretch := h
  nextId_le := hnextId
  opens_eq := hopens
  balance := by
    have hcloses : closes story = [] := List.eq_nil_iff_forall_not_mem.2 fun id hmem =>
      List.not_mem_nil (hattempts ▸ mem_attempts_iff.2 (Or.inl hmem))
    rwa [hcloses, List.append_nil]
  plan := by simp [houtside, hplan]
  refuses_eq := by
    rw [houtside, refused]
    exact List.eq_nil_iff_forall_not_mem.2 fun id hmem =>
      List.not_mem_nil (hattempts ▸ mem_attempts_iff.2 (Or.inr hmem))

/-- A stretch that opens and closes nothing leaves the books alone. -/
theorem of_stretch (h : Stretch r story r') (hnextId : r'.nextId = r.nextId)
    (hstreams : r'.openStreams = r.openStreams) (hplan : r'.closePlan = r.closePlan)
    (hopens : opens story = []) (hattempts : attempts story = [])
    (houtside : attempts (outside story) = []) : Books r story r' := by
  refine of_opens h (Nat.le_of_eq hnextId.symm) ?_ ?_ hplan hattempts houtside
  · rw [hopens, hnextId, newIds, Nat.sub_self]
    rfl
  · rw [hopens, hstreams, List.append_nil]

theorem wellNumbered (h : Books r story r') (hr : r.WellNumbered) : r'.WellNumbered := by
  intro id hmem
  rcases List.mem_append.1 (h.balance.mem_iff.1 (List.mem_append_left _ hmem)) with hold | hnew
  · exact Nat.lt_of_lt_of_le (hr id hold) h.nextId_le
  · rw [h.opens_eq] at hnew
    exact (mem_newIds.1 hnew).2

/-! ### Operations -/

theorem tell (r : Recorder) (notice : Option Notice) : Books r [] (r.tell notice) := by
  cases notice <;> exact of_stretch (.tell r _) rfl rfl rfl rfl rfl rfl

theorem activate (r : Recorder) (redirect : Redirect) (stream : Option StreamId) :
    Books r [] (r.activate redirect stream) := by
  cases redirect <;> exact of_stretch (.activate r _ _) rfl rfl rfl rfl rfl rfl

theorem setStreams (r : Recorder) (input output : Option StreamId) :
    Books r [] (r.setStreams input output) :=
  of_stretch (.setStreams r input output) rfl rfl rfl rfl rfl rfl

theorem collectSubshells (r : Recorder) (keep : Nat) :
    Books r [.collect keep] (r.collectSubshells keep).2 :=
  of_stretch (r.collectSubshells_stretch keep) rfl rfl rfl rfl rfl rfl

theorem spawn (r : Recorder) (program : String) (arguments : List String) (mode : WaitMode) :
    Books r (.spawn program arguments mode r.input r.output ::
        Recorder.failure (r.spawnResult program mode))
      (r.spawn program arguments mode).2 := by
  obtain ⟨events, hafter⟩ := r.spawn_snd program arguments mode
  have hstretch := r.spawn_stretch program arguments mode
  rw [hafter] at hstretch ⊢
  refine of_stretch hstretch rfl rfl rfl ?_ ?_ ?_ <;>
    · unfold Recorder.spawnResult
      split <;> rfl

theorem closePlan_map (count : Faults → Faults) (made : Nat)
    (hfaults : r'.faults = r.faults.map count)
    (hcount : ∀ faults, (count faults).close = faults.close ∧
      (count faults).closeCalls = faults.closeCalls + made) :
    r'.closePlan = fun earlier => r.closePlan (made + earlier) := by
  funext earlier id
  rw [Recorder.closePlan, hfaults]
  cases hr : r.faults with
  | none => simp [Recorder.closePlan, hr]
  | some faults => simp [Recorder.closePlan, hr, hcount, Nat.add_assoc]

theorem writeOutput (r : Recorder) (text : String) :
    Books r [outcomeEvent (fun _ => .wrote r.output text) (r.writeOutput text).1]
      (r.writeOutput text).2 := by
  obtain ⟨events, hafter⟩ := r.writeOutput_snd text
  have hplan : (r.writeOutput text).2.closePlan = fun earlier => r.closePlan (0 + earlier) :=
    closePlan_map Faults.countWrite 0 (by rw [hafter]) fun _ => ⟨rfl, rfl⟩
  refine of_stretch (r.writeOutput_stretch text) (by rw [hafter]) (by rw [hafter])
    (by simpa using hplan) ?_ ?_ ?_ <;>
    · unfold Recorder.writeOutput
      dsimp only
      split <;> rfl

theorem openFile (r : Recorder) (redirect : Redirect) (path : String) :
    Books r [outcomeEvent (.opened redirect path) (r.openFile redirect path).1]
      (r.openFile redirect path).2 := by
  have hstretch := r.openFile_stretch redirect path
  obtain ⟨events, openStreams, nextId, hafter⟩ := r.openFile_snd redirect path
  have hplan : (r.openFile redirect path).2.closePlan = r.closePlan := by rw [hafter]; rfl
  rcases r.openFile_cases redirect path with
    ⟨hresult, hnextId, hstreams, -⟩ | ⟨hresult, hnextId, hstreams, -⟩ <;>
    rw [hresult] at hstretch ⊢
  · exact of_stretch hstretch hnextId hstreams hplan rfl rfl rfl
  · refine of_opens hstretch (by omega) ?_ ?_ hplan rfl rfl
    · simp [hnextId, newIds, opens, Event.opens, outcomeEvent]
    · rw [hstreams]
      exact (List.perm_append_singleton _ _).symm

theorem createPipe (r : Recorder) :
    Books r [outcomeEvent (fun pipe => .pipe pipe.1 pipe.2) r.createPipe.1] r.createPipe.2 := by
  have hstretch := r.createPipe_stretch
  obtain ⟨events, openStreams, nextId, hafter⟩ := r.createPipe_snd
  have hplan : r.createPipe.2.closePlan = fun earlier => r.closePlan (0 + earlier) :=
    closePlan_map Faults.countPipe 0 (by rw [hafter]) fun _ => ⟨rfl, rfl⟩
  simp only [Nat.zero_add] at hplan
  rcases r.createPipe_cases with
    ⟨hresult, hnextId, hstreams, -⟩ | ⟨hresult, hnextId, hstreams⟩ <;>
    rw [hresult] at hstretch ⊢
  · exact of_stretch hstretch hnextId hstreams hplan rfl rfl rfl
  · refine of_opens hstretch (by omega) ?_ ?_ hplan rfl rfl
    · simp [hnextId, newIds, opens, Event.opens, outcomeEvent, List.range'_succ]
    · let ends : List StreamId := [⟨r.nextId⟩, ⟨r.nextId + 1⟩]
      have hends : (ends ++ r.openStreams).Perm (r.openStreams ++ ends) := List.perm_append_comm
      rw [hstreams]
      exact (List.Perm.swap _ _ _).trans hends

/-- An open stream is closed unless the attempt is made to fail. -/
theorem closeStream {r : Recorder} {id : StreamId} (hopen : id ∈ r.openStreams) :
    Books r [outcomeEvent (fun _ => .close id) (r.closeStream id).1] (r.closeStream id).2 := by
  have hstretch := r.closeStream_stretch id
  obtain ⟨events, openStreams, hafter⟩ := r.closeStream_snd id
  have hplan : (r.closeStream id).2.closePlan = fun earlier => r.closePlan (1 + earlier) :=
    closePlan_map Faults.countClose 1 (by rw [hafter]) fun _ => ⟨rfl, rfl⟩
  have hnextId : (r.closeStream id).2.nextId = r.nextId := by rw [hafter]
  rcases r.closeStream_cases id with ⟨hresult, hstreams, hfails⟩ | ⟨hresult, hstreams, hkept, -⟩ <;>
    rw [hresult] at hstretch ⊢
  · exact {
      toStretch := hstretch
      nextId_le := Nat.le_of_eq hnextId.symm
      opens_eq := by rw [hnextId, newIds, Nat.sub_self]; rfl
      balance := by rw [hstreams]; rfl
      plan := hplan
      refuses_eq := by
        have hrefused : r.closePlan 0 id = true := hfails.resolve_right (not_not_intro hopen)
        simp [refused, outside, outsideFrom, attempts, refuses, outcomeEvent, Event.attempts,
          Event.refuses, hrefused] }
  · exact {
      toStretch := hstretch
      nextId_le := Nat.le_of_eq hnextId.symm
      opens_eq := by rw [hnextId, newIds, Nat.sub_self]; rfl
      balance := by
        rw [hstreams]
        exact ((List.perm_append_singleton _ _).trans (List.perm_cons_erase hopen).symm).trans
          (by rw [show opens [outcomeEvent _ _] = [] from rfl, List.append_nil])
      plan := hplan
      refuses_eq := by
        simp [refused, outside, outsideFrom, attempts, refuses, outcomeEvent, Event.attempts,
          Event.refuses, hkept] }

/-- No attempt to close a stream is made to fail in a subshell. -/
theorem resume {r after : Recorder} {story : List Event} (h : Books r.inside story after)
    (result : Except ExecError Outcome) :
    Books r (.subshell r.input r.output :: story ++ [.subshellEnded (Recorder.settled result)])
      (r.resume result after) := by
  have htold := h.trans (.tell after (Recorder.subshellNotice result))
  rw [List.append_nil] at htold
  have houtside := outside_subshell h.level r.input r.output (Recorder.settled result)
  exact {
    toStretch := Recorder.resume_stretch h.toStretch result
    nextId_le := htold.nextId_le
    opens_eq := by
      rw [List.cons_append, opens_subshell]
      exact htold.opens_eq
    balance := by
      rw [List.cons_append, opens_subshell, closes_subshell]
      exact htold.balance
    plan := by
      rw [houtside]
      funext earlier
      show r.closePlan earlier = r.closePlan (0 + earlier)
      rw [Nat.zero_add]
    refuses_eq := by
      rw [houtside, List.cons_append, refuses_subshell, h.refuses_eq]
      exact refused_eq_nil (fun _ _ => rfl) _ }

end Books

/-! ## Duties

While a pipeline or a redirection runs there are streams that it has opened and not yet tried to
close.  It owes an attempt for each of them. -/

/-- The streams to close are open, as many times as an attempt is owed for them. -/
def Recorder.Owes (r : Recorder) (owed : List StreamId) : Prop :=
  ∀ id, owed.count id ≤ r.openStreams.count id

theorem Recorder.owes_nil (r : Recorder) : r.Owes [] := fun _ => Nat.zero_le _

theorem Recorder.owes_singleton {r : Recorder} {id : StreamId} (hopen : id ∈ r.openStreams) :
    r.Owes [id] := by
  intro id'
  rw [List.count_singleton]
  split
  · rename_i heq
    rw [← eq_of_beq heq]
    exact List.count_pos_iff.2 hopen
  · exact Nat.zero_le _

theorem Recorder.Owes.mem_openStreams {r : Recorder} {owed : List StreamId} (hr : r.Owes owed)
    {id : StreamId} (hmem : id ∈ owed) : id ∈ r.openStreams :=
  List.count_pos_iff.1 (Nat.lt_of_lt_of_le (List.count_pos_iff.2 hmem) (hr id))

/-- The books of a stretch in which the attempts that are made, together with those that are owed
afterwards, are those for the streams that are opened, together with those that were owed before. -/
structure Duty (r : Recorder) (owed : List StreamId) (story : List Event) (r' : Recorder)
    (owed' : List StreamId) : Prop extends Books r story r' where
  settles : (attempts story ++ owed').Perm (opens story ++ owed)

namespace Duty

variable {r r₁ r' : Recorder} {story story' : List Event} {owed owed₁ owed' : List StreamId}

theorem trans (h : Duty r owed story r₁ owed₁) (h' : Duty r₁ owed₁ story' r' owed') :
    Duty r owed (story ++ story') r' owed' where
  toBooks := h.toBooks.trans h'.toBooks
  settles := by
    refine List.perm_iff_count.2 fun id => ?_
    have hid := h.settles.count_eq id
    have hid' := h'.settles.count_eq id
    simp only [opens_append, attempts_append, List.count_append] at hid hid' ⊢
    omega

/-- What else is owed stays owed. -/
theorem frame (h : Duty r owed story r' owed') (more : List StreamId) :
    Duty r (owed ++ more) story r' (owed' ++ more) where
  toBooks := h.toBooks
  settles := by
    rw [← List.append_assoc, ← List.append_assoc]
    exact h.settles.append_right more

/-- Nothing is opened and nothing is tried to be closed. -/
theorem of_books (h : Books r story r') (hopens : opens story = [])
    (hattempts : attempts story = []) : Duty r owed story r' owed where
  toBooks := h
  settles := by rw [hopens, hattempts]

theorem activate (r : Recorder) (redirect : Redirect) (stream : Option StreamId) :
    Duty r owed [] (r.activate redirect stream) owed :=
  of_books (.activate r redirect stream) rfl rfl

theorem setStreams (r : Recorder) (input output : Option StreamId) :
    Duty r owed [] (r.setStreams input output) owed :=
  of_books (.setStreams r input output) rfl rfl

theorem collectSubshells (r : Recorder) (keep : Nat) :
    Duty r owed [.collect keep] (r.collectSubshells keep).2 owed :=
  of_books (.collectSubshells r keep) rfl rfl

/-- No stream that is owed an attempt is closed before. -/
theorem owes (h : Duty r owed story r' owed') (hr : r.Owes owed) : r'.Owes owed' := by
  intro id
  have howed := hr id
  have hbalance := h.balance.count_eq id
  have hsettles := h.settles.count_eq id
  have hattempts := count_attempts story id
  simp only [List.count_append] at hbalance hsettles
  omega

/-- What was open before is still open when no attempt was owed for it. -/
theorem mem_openStreams (h : Duty r [] story r' owed') {id : StreamId}
    (hopen : id ∈ r.openStreams) : id ∈ r'.openStreams :=
  ((h.frame [id]).owes (Recorder.owes_singleton hopen)).mem_openStreams
    (List.mem_append_right _ (List.mem_cons_self ..))

theorem closeStream {id : StreamId} (hr : r.Owes owed) (howed : owed.Perm (id :: owed')) :
    Duty r owed [outcomeEvent (fun _ => .close id) (r.closeStream id).1] (r.closeStream id).2
      owed' where
  toBooks := .closeStream (hr.mem_openStreams (howed.mem_iff.2 (List.mem_cons_self ..)))
  settles := by
    rcases r.closeStream_cases id with ⟨hresult, -⟩ | ⟨hresult, -⟩ <;>
      rw [hresult] <;> exact howed.symm

theorem createPipe {read write : StreamId} (h : r.createPipe.1 = .ok (read, write)) :
    Duty r owed [.pipe read write] r.createPipe.2 (owed ++ [read, write]) where
  toBooks := by
    have hbooks := Books.createPipe r
    rwa [h] at hbooks
  settles := by
    show (owed ++ [read, write]).Perm ([read, write] ++ owed)
    exact List.perm_append_comm

theorem openFile {redirect : Redirect} {path : String} {stream : StreamId}
    (h : (r.openFile redirect path).1 = .ok stream) :
    Duty r owed [.opened redirect path stream] (r.openFile redirect path).2 (stream :: owed) where
  toBooks := by
    have hbooks := Books.openFile r redirect path
    rwa [h] at hbooks
  settles := .refl _

/-- Closing a list of streams settles what is owed for them. -/
theorem releaseAll {ids : List StreamId} (hr : r.Owes owed) (howed : owed = ids ++ owed') :
    ∃ story, Duty r owed story (r.perform (releaseAll ids)).2 owed' := by
  subst howed
  induction ids generalizing r with
  | nil => exact ⟨[], of_books (.refl r) rfl rfl⟩
  | cons id ids ih =>
    have hfirst : Duty r (id :: ids ++ owed') _ (r.closeStream id).2 (ids ++ owed') :=
      closeStream hr (.refl _)
    obtain ⟨story, hrest⟩ := ih (hfirst.owes hr)
    rw [Recorder.perform_releaseAll_cons]
    exact ⟨_, hfirst.trans hrest⟩

end Duty

/-! ## Every command cleans up -/

/-- A stretch that restores the active streams and owes nothing in the end. -/
structure Tidy (r : Recorder) (story : List Event) (r' : Recorder) : Prop
    extends Duty r [] story r' [] where
  input_eq : r'.input = r.input
  output_eq : r'.output = r.output

/-- Whatever comes of the action, it cleans up. -/
def CleansUp (action : ExceptT ExecError RecorderM Outcome) : Prop :=
  ∀ r : Recorder, ∃ story, Tidy r story (r.perform action).2

namespace Tidy

variable {r r₁ r' : Recorder} {story story' : List Event}

theorem refl (r : Recorder) : Tidy r [] r where
  toDuty := .of_books (.refl r) rfl rfl
  input_eq := rfl
  output_eq := rfl

theorem trans (h : Tidy r story r₁) (h' : Tidy r₁ story' r') : Tidy r (story ++ story') r' where
  toDuty := h.toDuty.trans h'.toDuty
  input_eq := h'.input_eq.trans h.input_eq
  output_eq := h'.output_eq.trans h.output_eq

theorem tell (r : Recorder) (notice : Option Notice) : Tidy r [] (r.tell notice) where
  toDuty := .of_books (.tell r notice) rfl rfl
  input_eq := by cases notice <;> rfl
  output_eq := by cases notice <;> rfl

theorem spawn (r : Recorder) (program : String) (arguments : List String) (mode : WaitMode) :
    Tidy r (.spawn program arguments mode r.input r.output ::
        Recorder.failure (r.spawnResult program mode))
      (r.spawn program arguments mode).2 := by
  obtain ⟨events, hafter⟩ := r.spawn_snd program arguments mode
  refine ⟨.of_books (.spawn r program arguments mode) ?_ ?_, by rw [hafter], by rw [hafter]⟩ <;>
    · unfold Recorder.spawnResult
      split <;> rfl

theorem writeOutput (r : Recorder) (text : String) :
    Tidy r [outcomeEvent (fun _ => .wrote r.output text) (r.writeOutput text).1]
      (r.writeOutput text).2 := by
  obtain ⟨events, hafter⟩ := r.writeOutput_snd text
  refine ⟨.of_books (.writeOutput r text) ?_ ?_, by rw [hafter], by rw [hafter]⟩ <;>
    · unfold Recorder.writeOutput
      dsimp only
      split <;> rfl

/-- Whatever a subshell does, the streams of the shell around it are left alone. -/
theorem resume {after : Recorder} (h : Tidy r.inside story after)
    (result : Except ExecError Outcome) :
    Tidy r (.subshell r.input r.output :: story ++ [.subshellEnded (Recorder.settled result)])
      (r.resume result after) where
  toBooks := .resume h.toBooks result
  settles := by simpa using h.settles
  input_eq := rfl
  output_eq := rfl

end Tidy

theorem Recorder.respond_tidy (r : Recorder) (answer : Builtin.Answer) :
    ∃ story, Tidy r story (r.respond answer).2 := by
  rw [Recorder.respond_snd]
  cases answer.text with
  | none => exact ⟨_, .tell r answer.notice⟩
  | some text => exact ⟨_, (Tidy.tell r answer.notice).trans (.writeOutput _ text)⟩

/-- Either the pipes are open and their ends are to be closed, or everything is closed. -/
theorem Duty.createPipes {r : Recorder} (opened : List (StreamId × StreamId)) (count : Nat)
    (hr : r.Owes (pipeEnds opened)) :
    ∃ story, Duty r (pipeEnds opened) story (r.perform (createPipes opened count)).2
      (match (r.perform (createPipes opened count)).1 with
        | .ok pipes => pipeEnds pipes
        | .error _ => []) := by
  induction count generalizing r opened with
  | zero => exact ⟨[], .of_books (.refl r) rfl rfl⟩
  | succ count ih =>
    have hbooks := Books.createPipe r
    rw [Recorder.perform_createPipes_succ]
    rcases hpipe : r.createPipe with ⟨e | ⟨read, write⟩, r₁⟩ <;> rw [hpipe] at hbooks <;>
      dsimp only
    · have hfailed : Duty r (pipeEnds opened) [.failed e] r₁ (pipeEnds opened) := by
        refine .of_books hbooks rfl ?_
        rcases r.createPipe_cases with ⟨hresult, -⟩ | ⟨hresult, -⟩ <;>
          rw [hpipe] at hresult <;> cases hresult
        rfl
      obtain ⟨story, hreleased⟩ := Duty.releaseAll (hfailed.owes hr) (List.append_nil _).symm
      exact ⟨_, hfailed.trans hreleased⟩
    · have hcreated : Duty r (pipeEnds opened) [.pipe read write] r₁
          (pipeEnds (opened ++ [(read, write)])) := by
        have hpipe' : Duty r (pipeEnds opened) [.pipe read write] r.createPipe.2
            (pipeEnds opened ++ [read, write]) := .createPipe (congrArg Prod.fst hpipe)
        rw [hpipe] at hpipe'
        rwa [show pipeEnds (opened ++ [(read, write)]) = pipeEnds opened ++ [read, write] from
          List.flatMap_append]
      obtain ⟨story, hrest⟩ := ih _ (hcreated.owes hr)
      exact ⟨_, hcreated.trans hrest⟩

section Stages

variable {inherited : Inherited} {incoming : Option StreamId} {pipes : List (StreamId × StreamId)}
  {stages : List (Action RecorderM)} {r r' : Recorder} {result : Except ExecError Outcome}
  {owed leftover : List StreamId}

/-- A stage leaves to the pipeline what the pipeline owes. -/
theorem Duty.stage {stage : Action RecorderM} {mode : WaitMode} {outcome : Except ExecError Outcome}
    {r₁ : Recorder} (hstage : CleansUp (stage mode))
    (h : (r.stageStart inherited incoming pipes).perform (stage mode) = (outcome, r₁)) :
    ∃ story, Duty r owed story r₁ owed := by
  obtain ⟨story, hran⟩ := hstage (r.stageStart inherited incoming pipes)
  rw [h] at hran
  exact ⟨_, (Duty.setStreams r _ _).trans (hran.toDuty.frame owed)⟩

/-- After a stage the read end before it is closed. -/
theorem Duty.incomingClosed {stage : Action RecorderM} {mode : WaitMode}
    {outcome : Except ExecError Outcome} {released : Except ExecError Unit} {r₁ r₂ : Recorder}
    (hstage : CleansUp (stage mode)) (hr : r.Owes (incoming.toList ++ owed))
    (h : (r.stageStart inherited incoming pipes).perform (stage mode) = (outcome, r₁))
    (hincoming : r₁.perform (CommandShell.releaseAll incoming.toList) = (released, r₂)) :
    ∃ story, Duty r (incoming.toList ++ owed) story r₂ owed := by
  obtain ⟨story, hran⟩ := Duty.stage hstage h
  obtain ⟨story', hreleased⟩ := Duty.releaseAll (hran.owes hr) rfl
  rw [hincoming] at hreleased
  exact ⟨_, hran.trans hreleased⟩

/-- After that, the write end behind the stage is closed. -/
theorem Duty.outgoingClosed {stage : Action RecorderM} {mode : WaitMode}
    {outcome : Except ExecError Outcome} {released closed : Except ExecError Unit}
    {read write : StreamId} {r₁ r₂ r₃ : Recorder} (hstage : CleansUp (stage mode))
    (hr : r.Owes (incoming.toList ++ read :: write :: owed))
    (h : (r.stageStart inherited incoming pipes).perform (stage mode) = (outcome, r₁))
    (hincoming : r₁.perform (CommandShell.releaseAll incoming.toList) = (released, r₂))
    (houtgoing : r₂.closeStream write = (closed, r₃)) :
    ∃ story, Duty r (incoming.toList ++ read :: write :: owed) story r₃ (read :: owed) := by
  obtain ⟨story, hreleased⟩ := Duty.incomingClosed hstage hr h hincoming
  have hclosed := Duty.closeStream (hreleased.owes hr) (.swap write read owed)
  rw [houtgoing] at hclosed
  exact ⟨_, hreleased.trans hclosed⟩

/-- Wherever the stages stop, the ends left over are those that nobody has tried to close. -/
theorem Recorder.StagesRun.duty
    (h : Recorder.StagesRun inherited incoming stages pipes r result leftover r')
    (hstages : ∀ stage ∈ stages, ∀ mode, CleansUp (stage mode))
    (hr : r.Owes (incoming.toList ++ pipeEnds pipes)) :
    ∃ story, Duty r (incoming.toList ++ pipeEnds pipes) story r' leftover := by
  induction h with
  | none => exact ⟨[], .of_books (.refl _) rfl rfl⟩
  | failed hstage => exact Duty.stage (hstages _ (List.mem_cons_self ..) _) hstage
  | incomingKept hstage hincoming =>
    exact Duty.incomingClosed (hstages _ (List.mem_cons_self ..) _) hr hstage hincoming
  | last hstage hincoming =>
    exact Duty.incomingClosed (hstages _ (List.mem_cons_self ..) _) hr hstage hincoming
  | outgoingKept hstage hincoming houtgoing =>
    exact Duty.outgoingClosed (hstages _ (List.mem_cons_self ..) _) hr hstage hincoming houtgoing
  | exited hstage hincoming houtgoing =>
    exact Duty.outgoingClosed (hstages _ (List.mem_cons_self ..) _) hr hstage hincoming houtgoing
  | next hstage hincoming houtgoing _ ih =>
    obtain ⟨story, hpassed⟩ :=
      Duty.outgoingClosed (hstages _ (List.mem_cons_self ..) _) hr hstage hincoming houtgoing
    obtain ⟨story', hrest⟩ :=
      ih (fun stage hmem => hstages stage (List.mem_cons_of_mem _ hmem)) (hpassed.owes hr)
    exact ⟨_, hpassed.trans hrest⟩

end Stages

/-! ### Kinds of commands -/

theorem CleansUp.runPipeline {stages : List (Action RecorderM)}
    (hstages : ∀ stage ∈ stages, ∀ mode, CleansUp (stage mode)) :
    CleansUp (runPipeline stages) := by
  intro r
  obtain ⟨story, hcreated⟩ := Duty.createPipes [] (stages.length - 1) r.owes_nil
  obtain ⟨events, faults, openStreams, nextId, hkept⟩ :=
    r.createPipes_snd [] (stages.length - 1)
  rw [Recorder.perform_runPipeline]
  rcases hpipes : r.perform (createPipes [] (stages.length - 1)) with ⟨e | pipes, r₁⟩ <;>
    rw [hpipes] at hcreated hkept <;> dsimp only at hcreated hkept ⊢
  · exact ⟨story, ⟨hcreated, by rw [hkept], by rw [hkept]⟩⟩
  have howes := hcreated.owes r.owes_nil
  obtain ⟨story₁, hstaged⟩ :=
    (Recorder.stagesRun_runStages ⟨r₁.input, r₁.output⟩ stages none pipes r₁).duty hstages howes
  rcases hran : (runStages ⟨r₁.input, r₁.output⟩ none stages pipes).run r₁ with
    ⟨⟨result, leftover⟩, r₂⟩
  rw [hran] at hstaged
  dsimp only at hstaged ⊢
  have hrestored := hstaged.trans (.setStreams r₂ r₁.input r₁.output)
  obtain ⟨story₂, hreleased⟩ :=
    Duty.releaseAll (hrestored.owes howes) (List.append_nil leftover).symm
  obtain ⟨events', faults', openStreams', hafter⟩ :=
    (r₂.setStreams r₁.input r₁.output).releaseAll_snd leftover
  refine ⟨_, ⟨hcreated.trans (hrestored.trans (hreleased.trans (.collectSubshells _ _))), ?_, ?_⟩⟩
  · show (Recorder.perform _ (releaseAll leftover)).2.input = r.input
    rw [hafter, hkept]
    rfl
  · show (Recorder.perform _ (releaseAll leftover)).2.output = r.output
    rw [hafter, hkept]
    rfl

theorem Recorder.activate_active (r r' : Recorder) (redirect : Redirect)
    (stream : Option StreamId) (hinput : r'.input = (r.activate redirect stream).input)
    (houtput : r'.output = (r.activate redirect stream).output) :
    (r'.activate redirect (r.active redirect)).input = r.input ∧
      (r'.activate redirect (r.active redirect)).output = r.output := by
  cases redirect with
  | input => exact ⟨rfl, houtput⟩
  | output => exact ⟨hinput, rfl⟩
  | append => exact ⟨hinput, rfl⟩

theorem CleansUp.redirection {redirect : Redirect} {primary : Command} {path : String}
    {mode : WaitMode} (h : CleansUp (primary.execute mode)) :
    CleansUp ((Command.redirection redirect primary path).execute mode) := by
  intro r
  show ∃ story, Tidy r story (r.execute _ mode).2
  have hbooks := Books.openFile r redirect path
  obtain ⟨events, openStreams, nextId, hkept⟩ := r.openFile_snd redirect path
  rw [Recorder.execute_redirection]
  rcases hfile : r.openFile redirect path with ⟨e | stream, r₁⟩ <;>
    rw [hfile] at hbooks hkept <;> dsimp only at hbooks hkept ⊢
  · have hunowned : attempts [.failed e] = [] := by
      rcases r.openFile_cases redirect path with ⟨hresult, -⟩ | ⟨hresult, -⟩ <;>
        rw [hfile] at hresult <;> cases hresult
      rfl
    exact ⟨_, ⟨.of_books hbooks rfl hunowned, by rw [hkept], by rw [hkept]⟩⟩
  have hopened : Duty r [] [.opened redirect path stream] _ [stream] :=
    .openFile (congrArg Prod.fst hfile)
  rw [hfile] at hopened
  have hstarted := hopened.trans (.activate r₁ redirect (some stream))
  have howes := hstarted.owes r.owes_nil
  obtain ⟨story, hran⟩ := h (r₁.activate redirect (some stream))
  change Tidy _ story (Recorder.execute _ primary mode).2 at hran
  generalize (r₁.activate redirect (some stream)).execute primary mode = ran at hran ⊢
  have hrestored := (hran.toDuty.frame [stream]).trans
    (.activate ran.2 redirect (r₁.active redirect))
  have hclosed := Duty.closeStream (hrestored.owes howes) (.refl [stream])
  obtain ⟨events', openStreams', hend⟩ :=
    (ran.2.activate redirect (r₁.active redirect)).closeStream_snd stream
  obtain ⟨hinput, houtput⟩ :=
    Recorder.activate_active r₁ ran.2 redirect (some stream) hran.input_eq hran.output_eq
  refine ⟨_, ⟨hstarted.trans (hrestored.trans hclosed), ?_, ?_⟩⟩
  · rw [hend]
    exact hinput.trans (by rw [hkept])
  · rw [hend]
    exact houtput.trans (by rw [hkept])

theorem CleansUp.of_wait {command : Command} (hcomposite : command.isComposite = true)
    (hwait : CleansUp (command.execute .wait)) (mode : WaitMode) :
    CleansUp (command.execute mode) := by
  cases mode with
  | wait => exact hwait
  | background =>
    intro r
    obtain ⟨story, hran⟩ := hwait r.inside
    show ∃ story, Tidy r story (r.execute command .background).2
    rw [Recorder.execute_background r hcomposite]
    exact ⟨_, .resume hran _⟩

theorem CleansUp.sequential {commands : List Command}
    (h : ∀ command ∈ commands, CleansUp (command.execute .wait)) :
    CleansUp ((Command.sequential commands).execute .wait) :=
  Recorder.execute_sequential_of_trans (fun r r' => ∃ story, Tidy r story r')
    (fun ⟨_, h⟩ ⟨_, h'⟩ => ⟨_, h.trans h'⟩) (fun r => ⟨[], .refl r⟩) h

theorem CleansUp.conditional {connective : Connective} {primary secondary : Command}
    (hconnective : connective ≠ .pipe) (hprimary : CleansUp (primary.execute .wait))
    (hsecondary : CleansUp (secondary.execute .wait)) :
    CleansUp ((Command.binary connective primary secondary).execute .wait) :=
  Recorder.execute_conditional_of_trans (fun r r' => ∃ story, Tidy r story r')
    (fun ⟨_, h⟩ ⟨_, h'⟩ => ⟨_, h.trans h'⟩) hconnective hprimary hsecondary

/-- Every command cleans up, in each mode. -/
theorem Command.cleansUp (command : Command) : ∀ mode, CleansUp (command.execute mode) := by
  induction command using Command.stages_induction with
  | executable program arguments =>
    intro mode r
    show ∃ story, Tidy r story (r.execute _ mode).2
    rw [Recorder.execute_executable]
    exact ⟨_, .spawn r program arguments mode⟩
  | builtin action =>
    intro mode r
    show ∃ story, Tidy r story (r.execute _ mode).2
    rw [Recorder.execute_builtin]
    exact r.respond_tidy _
  | sequential commands ih =>
    exact .of_wait rfl (.sequential fun command hmem => ih command hmem .wait)
  | conditional connective primary secondary hconnective hprimary hsecondary =>
    exact .of_wait rfl (.conditional hconnective (hprimary .wait) (hsecondary .wait))
  | pipeline primary secondary ih =>
    refine .of_wait rfl ?_
    rw [Command.execute_pipe]
    exact .runPipeline (List.forall_mem_map.2 ih)
  | redirection redirect primary path ih => exact fun mode => .redirection (ih mode)

/-- What is true of a run from one recorder to another that adds a story and cleans up. -/
structure CleanedUp (r : Recorder) (story : List Event) (r' : Recorder) : Prop where
  events_eq : r'.events.toList = r.events.toList ++ story
  input_eq : r'.input = r.input
  output_eq : r'.output = r.output
  /-- The streams that are opened get the next numbers. -/
  opens_eq : opens story = newIds r.nextId r'.nextId
  /-- There is one attempt to close each stream that is opened. -/
  once : ∀ id ∈ opens story, (attempts story).count id = 1
  /-- There is no attempt to close any other stream, such as one that was open before. -/
  untouched : ∀ id ∉ opens story, id ∉ attempts story
  old : ∀ id ∈ r.openStreams, id ∉ attempts story
  /-- The attempts that fail are those that are made to fail, all outside of subshells. -/
  refuses_eq : refuses story = refused r.closePlan (attempts (outside story))
  /-- What is open is what was open before and what could not be closed. -/
  mem_openStreams : ∀ id, id ∈ r'.openStreams ↔ id ∈ r.openStreams ∨ id ∈ refuses story

theorem Tidy.cleanedUp {r r' : Recorder} {story : List Event} (h : Tidy r story r')
    (hr : r.WellNumbered) : CleanedUp r story r' := by
  have hsettles : (attempts story).Perm (opens story) := by simpa using h.settles
  have hnodup : (opens story).Nodup := h.opens_eq ▸ nodup_newIds _ _
  have hold : ∀ id ∈ r.openStreams, id ∉ opens story := by
    intro id hopen hnew
    rw [h.opens_eq] at hnew
    exact Nat.not_lt_of_le (mem_newIds.1 hnew).1 (hr id hopen)
  refine {
    events_eq := h.events
    input_eq := h.input_eq
    output_eq := h.output_eq
    opens_eq := h.opens_eq
    once := fun id hmem => ?_
    untouched := fun id hmem hattempt => hmem (hsettles.mem_iff.1 hattempt)
    old := fun id hopen hattempt => hold id hopen (hsettles.mem_iff.1 hattempt)
    refuses_eq := h.refuses_eq
    mem_openStreams := fun id => ?_ }
  · rw [hsettles.count_eq]
    exact Nat.le_antisymm (List.nodup_iff_count.1 hnodup id) (List.count_pos_iff.2 hmem)
  · have hbalance := h.balance.count_eq id
    have hattempts := count_attempts story id
    have hcount := hsettles.count_eq id
    simp only [List.count_append] at hbalance
    simp only [← List.count_pos_iff]
    omega

/-- A command opens no stream under a number that has not been given out. -/
theorem Recorder.execute_wellNumbered {r : Recorder} (hr : r.WellNumbered) (command : Command)
    (mode : WaitMode) : (r.execute command mode).2.WellNumbered := by
  obtain ⟨story, htidy⟩ := command.cleansUp mode r
  exact htidy.wellNumbered hr

/-- Every command cleans up, whatever comes of it and whichever calls are made to fail. -/
theorem Recorder.execute_cleanedUp (r : Recorder) (command : Command) (mode : WaitMode)
    (hr : r.WellNumbered) :
    ∃ story, CleanedUp r story (r.execute command mode).2 := by
  obtain ⟨story, htidy⟩ := command.cleansUp mode r
  exact ⟨story, htidy.cleanedUp hr⟩

/-- The second attempt to close a stream fails: it is for the file, which stays open. -/
theorem execute_cleanedUp_redirection :
    let r : Recorder := {
      script := .plain, faults := some { Faults.none with close := fun earlier _ => earlier == 1 }
      openStreams := [⟨0⟩], nextId := 1 }
    let command := Command.binary .pipe (.executable "ls" [])
      (.redirection .output (.executable "sort" []) "list")
    r.WellNumbered ∧ (∃ story, CleanedUp r story (r.execute command .wait).2) ∧
      (r.execute command .wait).2.openStreams = [⟨3⟩, ⟨0⟩] := by
  intro r command
  have hr : r.WellNumbered := by
    intro id hmem
    rw [List.mem_singleton.1 hmem]
    exact Nat.zero_lt_one
  exact ⟨hr, r.execute_cleanedUp command .wait hr, by decide +kernel⟩

end CommandShell
