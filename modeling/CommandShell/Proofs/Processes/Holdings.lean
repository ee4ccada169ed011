import CommandShell.Proofs.Processes.System
import Mathlib.Data.List.Forall2
import Mathlib.Data.List.Nodup
set_option autoImplicit false

/-!
# What an interpreter holds

An interpreter relies on the descriptors of its open streams, and for each of its subshells on the
read end of a pipe and on a child that has ended.  It is sound if all of these are as it believes
them to be.  From one moment to another an interpreter may have opened streams that it has not
closed and started subshells that it has not collected; everything that it held before is as it was.
-/

namespace CommandShell

open Machine (Descriptor Pid standardInput standardOutput standardError)

namespace Interpreter

/-- The descriptors that an interpreter relies on. -/
def descriptors (s : Interpreter) : List Descriptor :=
  [standardInput, standardOutput, standardError] ++ s.streams.handles
    ++ s.subshells.map Subshell.status

/-- The descriptors that an interpreter may write to. -/
def writable (s : Interpreter) : List Descriptor :=
  [standardOutput, standardError] ++ s.streams.handles

theorem writable_subset (s : Interpreter) : s.writable ⊆ s.descriptors := by
  intro d hmem
  simp only [writable, descriptors, List.mem_append, List.mem_cons] at hmem ⊢
  tauto

/-- The stream is no longer open. -/
def closed (s : Interpreter) (id : StreamId) : Interpreter :=
  { s with streams := { s.streams with entries := s.streams.entries.filter (·.1 ≠ id) } }

end Interpreter

/-- What a subshell that ended in this way has written to tell it. -/
def Outcome.mark : Outcome → ByteArray
  | completed _ => .empty
  | terminate _ => Interpreter.terminated

/-- The exit status that a code comes to. -/
def exitStatus (code : Int) : Nat := (code % 256).toNat

/-- The pipe is there, and nothing that is written to the descriptors goes into it. -/
def System.Spares (σ : System) (descriptors : List Descriptor) (pipe : Nat) : Prop :=
  pipe < σ.pipes.length ∧ ∀ d ∈ descriptors, σ.slot? d ≠ some (.writeEnd pipe)

/-- The subshell has ended with the outcome, and this will be found when it is collected, whatever
is written to the given descriptors meanwhile. -/
structure Pending (writable : List Descriptor) (σ : System) (subshell : Subshell)
    (outcome : Outcome) : Prop where
  status_eq : σ.ended.lookup subshell.pid = some (exitStatus outcome.code)
  marked : ∃ pipe, σ.slot? subshell.status = some (.readEnd pipe) ∧ σ.Spares writable pipe ∧
    σ.content pipe = outcome.mark

/-- The system is as the interpreter believes it to be, and the subshells that it has not collected
have the given outcomes. -/
structure Sound (s : Interpreter) (σ : System) (outcomes : List Outcome) :
    Prop where
  index_lt : ∀ entry ∈ s.streams.entries, entry.1.index < s.streams.nextId
  ids_nodup : (s.streams.entries.map Prod.fst).Nodup
  nodup : s.descriptors.Nodup
  isOpen : ∀ d ∈ s.descriptors, (σ.slot? d).isSome
  bounded : ∀ d pipe, σ.slot? d = some (.readEnd pipe) ∨ σ.slot? d = some (.writeEnd pipe) →
    pipe < σ.pipes.length
  apart : (s.subshells.map fun subshell => σ.slot? subshell.status).Nodup
  pids_nodup : (s.subshells.map Subshell.pid).Nodup
  pending : List.Forall₂ (Pending s.writable σ) s.subshells outcomes

/-- What a stream was opened for. -/
inductive Purpose where
  | reading
  | toPipe
  | toFile (path : String)

namespace Purpose

/-- The direction of the stream. -/
def mode : Purpose → StreamMode
  | reading => .input
  | toPipe | toFile _ => .output

/-- What a descriptor stands for suits the purpose. -/
def Suits : Purpose → Option Endpoint → Prop
  | reading, _ => True
  | toPipe, slot => ∃ pipe, slot = some (.writeEnd pipe)
  | toFile path, slot => slot = some (.file path)

theorem Suits.of_eq {purpose : Purpose} {slot slot' : Option Endpoint} (h : purpose.Suits slot)
    (heq : slot.isSome → slot' = slot) : purpose.Suits slot' := by
  cases purpose with
  | reading => trivial
  | toPipe =>
    obtain ⟨pipe, rfl⟩ := h
    exact ⟨pipe, heq rfl⟩
  | toFile path =>
    obtain rfl := h
    exact heq rfl

end Purpose

/-- What an interpreter has started and not collected since another moment. -/
structure Started (σ₀ σ : System) (subshell : Subshell) : Prop where
  status_new : σ₀.slot? subshell.status = none
  pid_new : σ₀.ended.lookup subshell.pid = none
  pipe_new : ∃ pipe, σ.slot? subshell.status = some (.readEnd pipe) ∧ σ₀.pipes.length ≤ pipe

/-- What has become of an interpreter and its system: the streams `owed` were opened for their
purposes and are not yet closed, subshells may have been started that are not yet collected, and
all else that the interpreter holds is as it was. -/
structure Since (s₀ : Interpreter) (σ₀ : System) (owed : List (StreamId × Purpose))
    (s : Interpreter) (σ : System) : Prop where
  entries_eq : s.streams.entries.filter (·.1 ∉ owed.map Prod.fst) = s₀.streams.entries
  nextId_le : s₀.streams.nextId ≤ s.streams.nextId
  environment_eq : s.environment = s₀.environment
  subshells_eq : ∃ started, s.subshells = s₀.subshells ++ started ∧
    ∀ subshell ∈ started, Started σ₀ σ subshell
  length_le : σ₀.pipes.length ≤ σ.pipes.length
  slot_eq : ∀ d, (σ₀.slot? d).isSome → σ.slot? d = σ₀.slot? d
  spared : ∀ pipe, σ₀.Spares s₀.writable pipe →
    σ.Spares s.writable pipe ∧ σ.content pipe = σ₀.content pipe
  ended_eq : ∀ pid, (σ₀.ended.lookup pid).isSome → σ.ended.lookup pid = σ₀.ended.lookup pid
  owed_nodup : (owed.map Prod.fst).Nodup
  stream : ∀ end_ ∈ owed, ∃ handle, (end_.1, ⟨handle, end_.2.mode⟩) ∈ s.streams.entries ∧
    σ₀.slot? handle = none ∧ end_.2.Suits (σ.slot? handle)

/-! ## From one moment to another -/

theorem Pending.since {s₀ s : Interpreter} {σ₀ σ : System} {owed : List (StreamId × Purpose)}
    {subshell : Subshell} {outcome : Outcome} (h : Pending s₀.writable σ₀ subshell outcome)
    (hsince : Since s₀ σ₀ owed s σ) : Pending s.writable σ subshell outcome := by
  obtain ⟨pipe, hslot, hspares, hcontent⟩ := h.marked
  obtain ⟨hspares', hcontent'⟩ := hsince.spared pipe hspares
  refine ⟨?_, pipe, ?_, hspares', hcontent'.trans hcontent⟩
  · rw [hsince.ended_eq _ (by rw [h.status_eq]; rfl), h.status_eq]
  · rw [hsince.slot_eq _ (by rw [hslot]; rfl), hslot]

theorem Started.since {s₁ s : Interpreter} {σ₀ σ₁ σ : System} {owed : List (StreamId × Purpose)}
    {subshell : Subshell} (h : Started σ₀ σ₁ subshell) (hsince : Since s₁ σ₁ owed s σ) :
    Started σ₀ σ subshell := by
  obtain ⟨pipe, hslot, hpipe⟩ := h.pipe_new
  exact ⟨h.status_new, h.pid_new, pipe, by rw [hsince.slot_eq _ (by rw [hslot]; rfl), hslot],
    hpipe⟩

namespace Since

variable {s₀ s₁ s : Interpreter} {σ₀ σ₁ σ : System}
  {owed owed' : List (StreamId × Purpose)}

theorem refl (s : Interpreter) (σ : System) : Since s σ [] s σ where
  entries_eq := by simp
  nextId_le := Nat.le_refl _
  environment_eq := rfl
  subshells_eq := ⟨[], (List.append_nil _).symm, nofun⟩
  length_le := Nat.le_refl _
  slot_eq _ _ := rfl
  spared _ hspares := ⟨hspares, rfl⟩
  ended_eq _ _ := rfl
  owed_nodup := .nil
  stream := nofun

/-- A descriptor that was free later was free before. -/
theorem slot?_eq_none (h : Since s₀ σ₀ owed s σ) {d : Descriptor} (hd : σ.slot? d = none) :
    σ₀.slot? d = none := by
  by_contra hsome
  rw [h.slot_eq d (Option.isSome_iff_ne_none.2 hsome)] at hd
  exact hsome hd

theorem lookup_eq_none (h : Since s₀ σ₀ owed s σ) {pid : Pid} (hpid : σ.ended.lookup pid = none) :
    σ₀.ended.lookup pid = none := by
  by_contra hsome
  rw [h.ended_eq pid (Option.isSome_iff_ne_none.2 hsome)] at hpid
  exact hsome hpid

theorem trans (h : Since s₀ σ₀ owed s₁ σ₁) (h' : Since s₁ σ₁ owed' s σ) :
    Since s₀ σ₀ (owed ++ owed') s σ where
  entries_eq := by
    rw [← h.entries_eq, ← h'.entries_eq, List.filter_filter, List.map_append]
    refine List.filter_congr fun entry _ => ?_
    simp only [List.mem_append, not_or, Bool.decide_and]
  nextId_le := Nat.le_trans h.nextId_le h'.nextId_le
  environment_eq := h'.environment_eq.trans h.environment_eq
  subshells_eq := by
    obtain ⟨started, hs₁, hstarted⟩ := h.subshells_eq
    obtain ⟨started', hs, hstarted'⟩ := h'.subshells_eq
    refine ⟨started ++ started', by rw [hs, hs₁, List.append_assoc], ?_⟩
    intro subshell hmem
    rcases List.mem_append.1 hmem with hmem | hmem
    · exact (hstarted subshell hmem).since h'
    · obtain ⟨hstatus, hpid, pipe, hslot, hpipe⟩ := hstarted' subshell hmem
      exact ⟨h.slot?_eq_none hstatus, h.lookup_eq_none hpid, pipe, hslot,
        Nat.le_trans h.length_le hpipe⟩
  length_le := Nat.le_trans h.length_le h'.length_le
  slot_eq d hd := by
    have hslot := h.slot_eq d hd
    rw [h'.slot_eq d (by rwa [hslot]), hslot]
  spared pipe hspares := by
    obtain ⟨hspares₁, hcontent₁⟩ := h.spared pipe hspares
    obtain ⟨hspares', hcontent'⟩ := h'.spared pipe hspares₁
    exact ⟨hspares', hcontent'.trans hcontent₁⟩
  ended_eq pid hpid := by
    have hlookup := h.ended_eq pid hpid
    rw [h'.ended_eq pid (by rwa [hlookup]), hlookup]
  owed_nodup := by
    rw [List.map_append]
    refine h.owed_nodup.append h'.owed_nodup fun id hid hid' => ?_
    obtain ⟨end_, hend, rfl⟩ := List.mem_map.1 hid
    obtain ⟨handle, hmem, -⟩ := h.stream end_ hend
    rw [← h'.entries_eq, List.mem_filter] at hmem
    exact absurd hid' (of_decide_eq_true hmem.2)
  stream end_ hend := by
    rcases List.mem_append.1 hend with hend | hend
    · obtain ⟨handle, hmem, hnew, hsuits⟩ := h.stream end_ hend
      rw [← h'.entries_eq] at hmem
      exact ⟨handle, List.mem_of_mem_filter hmem, hnew, hsuits.of_eq (h'.slot_eq handle)⟩
    · obtain ⟨handle, hmem, hnew, hsuits⟩ := h'.stream end_ hend
      exact ⟨handle, hmem, h.slot?_eq_none hnew, hsuits⟩

/-- A stream that was open before is still open if it is not owed. -/
theorem mem_entries (h : Since s₀ σ₀ owed s σ) {entry : StreamId × Stream Descriptor}
    (hmem : entry ∈ s₀.streams.entries) : entry ∈ s.streams.entries := by
  rw [← h.entries_eq] at hmem
  exact List.mem_of_mem_filter hmem

end Since

/-! ## Changes -/

namespace Sound

variable {s s' : Interpreter} {σ σ' : System} {outcomes : List Outcome}

theorem pending_since {owed : List (StreamId × Purpose)} {s' : Interpreter} (h : Sound s σ outcomes)
    (hsince : Since s σ owed s' σ') : List.Forall₂ (Pending s'.writable σ') s.subshells outcomes :=
  h.pending.imp fun _ _ hpending => hpending.since hsince

/-- Every subshell that is to be collected has ended. -/
theorem lookup_isSome (h : Sound s σ outcomes) {subshell : Subshell}
    (hmem : subshell ∈ s.subshells) : (σ.ended.lookup subshell.pid).isSome := by
  have hended : List.Forall₂ (fun subshell outcome =>
      (σ.ended.lookup subshell.pid).isSome = true ∧ Pending s.writable σ subshell outcome)
      s.subshells outcomes :=
    h.pending.imp fun _ _ hpending => ⟨by rw [hpending.status_eq]; rfl, hpending⟩
  exact ((List.forall₂_and_left _ _).1 hended).1 subshell hmem

/-- Only the bytes in the pipes, the children that have ended and the table of children have
changed. -/
theorem of_slots_eq (h : Sound s σ outcomes) (hsince : Since s σ [] s' σ')
    (hstreams : s'.streams = s.streams) (hsubshells : s'.subshells = s.subshells)
    (hslots : σ'.slots = σ.slots) : Sound s' σ' outcomes := by
  have hslot : ∀ d, σ'.slot? d = σ.slot? d := fun d => by rw [System.slot?, hslots, System.slot?]
  have hdescriptors : s'.descriptors = s.descriptors := by
    simp only [Interpreter.descriptors, hstreams, hsubshells]
  refine ⟨hstreams ▸ h.index_lt, hstreams ▸ h.ids_nodup, hdescriptors ▸ h.nodup, ?_, ?_, ?_,
    hsubshells ▸ h.pids_nodup, hsubshells ▸ h.pending_since hsince⟩
  · intro d hd
    rw [hslot]
    exact h.isOpen d (hdescriptors ▸ hd)
  · intro d pipe hd
    rw [hslot] at hd
    exact Nat.lt_of_lt_of_le (h.bounded d pipe hd) hsince.length_le
  · simp only [hslot, hsubshells]
    exact h.apart

end Sound

/-- Nothing was opened, closed, started or collected. -/
theorem Since.of_slots_eq {s s' : Interpreter} {σ σ' : System} (hstreams : s'.streams = s.streams)
    (hsubshells : s'.subshells = s.subshells) (henvironment : s'.environment = s.environment)
    (hslots : σ'.slots = σ.slots) (hlength : σ'.pipes.length = σ.pipes.length)
    (hcontent : ∀ pipe, σ.Spares s.writable pipe → σ'.content pipe = σ.content pipe)
    (hended : ∀ pid, (σ.ended.lookup pid).isSome → σ'.ended.lookup pid = σ.ended.lookup pid) :
    Since s σ [] s' σ' := by
  have hslot : ∀ d, σ'.slot? d = σ.slot? d :=
    fun d => by rw [System.slot?, hslots, System.slot?]
  refine ⟨?_, ?_, henvironment, ⟨[], ?_, List.forall_mem_nil _⟩, Nat.le_of_eq hlength.symm,
    fun d _ => hslot d, fun pipe hspares => ⟨⟨?_, ?_⟩, hcontent pipe hspares⟩, hended, .nil,
    List.forall_mem_nil _⟩
  · rw [hstreams]
    simp
  · rw [hstreams]
  · rw [hsubshells, List.append_nil]
  · rw [hlength]
    exact hspares.1
  · intro d hd
    rw [hslot]
    refine hspares.2 d ?_
    rwa [Interpreter.writable, hstreams] at hd

/-- Bytes were written to a descriptor that the interpreter may write to. -/
theorem Since.wrote {s : Interpreter} {σ σ' : System} {d : Descriptor} (hwrote : σ.Wrote d σ')
    (hd : d ∈ s.writable) : Since s σ [] s σ' :=
  .of_slots_eq rfl rfl rfl hwrote.slots_eq hwrote.length_eq
    (fun pipe hspares => hwrote.content_eq pipe (hspares.2 d hd))
    (fun pid _ => by rw [hwrote.ended_eq])

theorem Sound.wrote {s : Interpreter} {σ σ' : System} {outcomes : List Outcome}
    {d : Descriptor} (h : Sound s σ outcomes) (hwrote : σ.Wrote d σ') (hd : d ∈ s.writable) :
    Sound s σ' outcomes :=
  h.of_slots_eq (.wrote hwrote hd) rfl rfl hwrote.slots_eq

/-- A sound interpreter that owes the closing of streams that it has opened. -/
structure Owes (s₀ : Interpreter) (σ₀ : System)
    (owed : List (StreamId × Purpose)) (outcomes : List Outcome) (s : Interpreter) (σ : System) :
    Prop where
  since : Since s₀ σ₀ owed s σ
  sound : Sound s σ outcomes

theorem Owes.trans {s₀ s₁ s : Interpreter} {σ₀ σ₁ σ : System}
    {owed owed' : List (StreamId × Purpose)} {outcomes₁ outcomes : List Outcome}
    (h : Owes s₀ σ₀ owed outcomes₁ s₁ σ₁) (h' : Owes s₁ σ₁ owed' outcomes s σ) :
    Owes s₀ σ₀ (owed ++ owed') outcomes s σ := ⟨h.since.trans h'.since, h'.sound⟩

/-- An interpreter has gone on: it has the streams that it had, the same of them are active, and it
is sound. -/
structure Continues (s : Interpreter) (σ : System) (outcomes : List Outcome)
    (s' : Interpreter) (σ' : System) : Prop extends Owes s σ [] outcomes s' σ' where
  input_eq : s'.input = s.input
  output_eq : s'.output = s.output

namespace Continues

variable {s s₁ s' : Interpreter} {σ σ₁ σ' : System}
  {outcomes outcomes' : List Outcome}

theorem refl (h : Sound s σ outcomes) : Continues s σ outcomes s σ :=
  ⟨⟨.refl s σ, h⟩, rfl, rfl⟩

theorem trans {outcomes₁ : List Outcome} (h : Continues s σ outcomes₁ s₁ σ₁)
    (h' : Continues s₁ σ₁ outcomes' s' σ') : Continues s σ outcomes' s' σ' :=
  ⟨h.toOwes.trans h'.toOwes, h'.input_eq.trans h.input_eq, h'.output_eq.trans h.output_eq⟩

theorem wrote {d : Descriptor} (h : Sound s σ outcomes) (hwrote : σ.Wrote d σ')
    (hd : d ∈ s.writable) : Continues s σ outcomes s σ' :=
  ⟨⟨.wrote hwrote hd, h.wrote hwrote hd⟩, rfl, rfl⟩

end Continues

/-! ### Opening streams -/

/-- A stream that has been opened: its number, its descriptor and its purpose. -/
structure Opened where
  id : StreamId
  handle : Descriptor
  purpose : Purpose

namespace Opened

/-- What the stream is to the interpreter. -/
def entry (opened : Opened) : StreamId × Stream Descriptor :=
  (opened.id, ⟨opened.handle, opened.purpose.mode⟩)

theorem handle_entry : (fun entry : StreamId × Stream Descriptor => entry.2.handle) ∘ entry
    = handle := rfl

end Opened

/-- The interpreter has opened the given streams under numbers of their own, and its system has
free descriptors for them. -/
structure Opens (s : Interpreter) (σ : System) (new : List Opened) (s' : Interpreter)
    (σ' : System) : Prop where
  entries_eq : s'.streams.entries = s.streams.entries ++ new.map Opened.entry
  index : ∀ opened ∈ new, s.streams.nextId ≤ opened.id.index ∧
    opened.id.index < s'.streams.nextId
  nextId_le : s.streams.nextId ≤ s'.streams.nextId
  ids_nodup : (new.map Opened.id).Nodup
  handles_nodup : (new.map Opened.handle).Nodup
  environment_eq : s'.environment = s.environment
  subshells_eq : s'.subshells = s.subshells
  ended_eq : σ'.ended = σ.ended
  length_le : σ.pipes.length ≤ σ'.pipes.length
  content_eq : ∀ pipe, σ'.content pipe = σ.content pipe
  slot_eq : ∀ d, (σ.slot? d).isSome → σ'.slot? d = σ.slot? d
  bounded : ∀ d pipe, σ'.slot? d = some (.readEnd pipe) ∨ σ'.slot? d = some (.writeEnd pipe) →
    σ.slot? d = σ'.slot? d ∨ pipe < σ'.pipes.length
  isFree : ∀ opened ∈ new, σ.slot? opened.handle = none
  isOpen : ∀ opened ∈ new, (σ'.slot? opened.handle).isSome
  suits : ∀ opened ∈ new, opened.purpose.Suits (σ'.slot? opened.handle)
  pipe_new : ∀ opened ∈ new, ∀ pipe, σ'.slot? opened.handle = some (.writeEnd pipe) →
    σ.pipes.length ≤ pipe

namespace Opens

variable {s s' : Interpreter} {σ σ' : System} {outcomes : List Outcome} {new : List Opened}

theorem handles_eq (h : Opens s σ new s' σ') :
    s'.streams.handles = s.streams.handles ++ new.map Opened.handle := by
  rw [Registry.handles, h.entries_eq, List.map_append, List.map_map, Opened.handle_entry,
    Registry.handles]

theorem descriptors_perm (h : Opens s σ new s' σ') :
    s'.descriptors.Perm (new.map Opened.handle ++ s.descriptors) := by
  rw [Interpreter.descriptors, h.handles_eq, h.subshells_eq, Interpreter.descriptors,
    ← List.append_assoc, ← List.append_assoc]
  exact List.Perm.append_right _ List.perm_append_comm

theorem since (h : Opens s σ new s' σ') (hs : Sound s σ outcomes) :
    Since s σ (new.map fun opened => (opened.id, opened.purpose)) s' σ' where
  entries_eq := by
    rw [List.map_map, h.entries_eq, List.filter_append, List.filter_eq_self.2,
      List.filter_eq_nil_iff.2, List.append_nil]
    · intro entry hmem
      obtain ⟨opened, hopened, rfl⟩ := List.mem_map.1 hmem
      simpa using ⟨opened, hopened, rfl⟩
    · intro entry hmem
      have hold := hs.index_lt entry hmem
      simp only [decide_eq_true_eq, List.mem_map, not_exists, not_and]
      intro opened hopened (heq : opened.id = entry.1)
      have hnew := (h.index opened hopened).1
      rw [heq] at hnew
      omega
  nextId_le := h.nextId_le
  environment_eq := h.environment_eq
  subshells_eq := ⟨[], by rw [h.subshells_eq, List.append_nil], nofun⟩
  length_le := h.length_le
  slot_eq := h.slot_eq
  spared pipe hspares := by
    refine ⟨⟨Nat.lt_of_lt_of_le hspares.1 h.length_le, fun d hd hslot => ?_⟩, h.content_eq pipe⟩
    rw [Interpreter.writable, h.handles_eq, ← List.append_assoc] at hd
    rcases List.mem_append.1 hd with hold | hnew
    · have hisOpen := hs.isOpen d (s.writable_subset hold)
      rw [h.slot_eq d hisOpen] at hslot
      exact hspares.2 d hold hslot
    · obtain ⟨opened, hmem, rfl⟩ := List.mem_map.1 hnew
      exact absurd (h.pipe_new opened hmem pipe hslot) (Nat.not_le_of_lt hspares.1)
  ended_eq pid _ := by rw [h.ended_eq]
  owed_nodup := by
    rw [List.map_map]
    exact h.ids_nodup
  stream end_ hend := by
    obtain ⟨opened, hmem, rfl⟩ := List.mem_map.1 hend
    refine ⟨opened.handle, ?_, h.isFree opened hmem, h.suits opened hmem⟩
    rw [h.entries_eq]
    exact List.mem_append_right _ (List.mem_map_of_mem (f := Opened.entry) hmem)

theorem sound (h : Opens s σ new s' σ') (hs : Sound s σ outcomes) : Sound s' σ' outcomes := by
  refine ⟨?_, ?_, ?_, ?_, ?_, ?_, ?_, ?_⟩
  · intro entry hmem
    rw [h.entries_eq] at hmem
    rcases List.mem_append.1 hmem with hmem | hmem
    · exact Nat.lt_of_lt_of_le (hs.index_lt entry hmem) h.nextId_le
    · obtain ⟨opened, hopened, rfl⟩ := List.mem_map.1 hmem
      exact (h.index opened hopened).2
  · rw [h.entries_eq, List.map_append, List.map_map]
    refine hs.ids_nodup.append h.ids_nodup fun id hid hid' => ?_
    obtain ⟨entry, hmem, rfl⟩ := List.mem_map.1 hid
    obtain ⟨opened, hopened, heq⟩ := List.mem_map.1 hid'
    have hlt := hs.index_lt entry hmem
    have hle := (h.index opened hopened).1
    change opened.id = entry.1 at heq
    rw [heq] at hle
    omega
  · rw [h.descriptors_perm.nodup_iff]
    refine h.handles_nodup.append hs.nodup fun d hd hd' => ?_
    obtain ⟨opened, hmem, rfl⟩ := List.mem_map.1 hd
    exact System.ne_of_free (hs.isOpen _ hd') (h.isFree opened hmem) rfl
  · intro d hd
    rcases List.mem_append.1 (h.descriptors_perm.mem_iff.1 hd) with hnew | hd
    · obtain ⟨opened, hmem, rfl⟩ := List.mem_map.1 hnew
      exact h.isOpen opened hmem
    · rw [h.slot_eq d (hs.isOpen d hd)]
      exact hs.isOpen d hd
  · intro d pipe hd
    rcases h.bounded d pipe hd with heq | hlt
    · rw [← heq] at hd
      exact Nat.lt_of_lt_of_le (hs.bounded d pipe hd) h.length_le
    · exact hlt
  · rw [h.subshells_eq]
    have hslots : ∀ subshell ∈ s.subshells,
        σ'.slot? subshell.status = σ.slot? subshell.status := fun subshell hmem =>
      h.slot_eq _ (hs.isOpen _ (List.mem_append_right _ (List.mem_map_of_mem hmem)))
    rw [List.map_congr_left hslots]
    exact hs.apart
  · rw [h.subshells_eq]
    exact hs.pids_nodup
  · rw [h.subshells_eq]
    exact hs.pending_since (h.since hs)

theorem owes (h : Opens s σ new s' σ') (hs : Sound s σ outcomes) :
    Owes s σ (new.map fun opened => (opened.id, opened.purpose)) outcomes s' σ' :=
  ⟨h.since hs, h.sound hs⟩

end Opens

/-! ### Letting descriptors go -/

section Dropping

variable {s s' : Interpreter} {σ σ' : System} {outcomes outcomes' : List Outcome}
  {d d' : Descriptor}

/-- A descriptor that is let go is not relied on any more. -/
theorem Sound.not_mem (h : Sound s σ outcomes)
    (hperm : s.descriptors.Perm (d :: s'.descriptors)) : d ∉ s'.descriptors :=
  (List.nodup_cons.1 (hperm.nodup_iff.1 h.nodup)).1

theorem Sound.slot?_close (h : Sound s σ outcomes)
    (hperm : s.descriptors.Perm (d :: s'.descriptors)) (hd : d' ∈ s'.descriptors) :
    (σ.close d).slot? d' = σ.slot? d' := by
  rw [System.slot?_close, if_neg]
  exact fun heq => h.not_mem hperm (heq ▸ hd)

theorem System.Spares.close {ds ds' : List Descriptor} {pipe : Nat} (h : σ.Spares ds pipe)
    (hsubset : ds' ⊆ ds) : (σ.close d).Spares ds' pipe := by
  refine ⟨h.1, fun d' hd' hslot => ?_⟩
  rw [System.slot?_close] at hslot
  split at hslot
  · cases hslot
  · exact h.2 d' (hsubset hd') hslot

/-- An interpreter that relies on less is as sound as before. -/
theorem Sound.dropped (h : Sound s σ outcomes)
    (hperm : s.descriptors.Perm (d :: s'.descriptors))
    (hentries : s'.streams.entries.Sublist s.streams.entries)
    (hnextId : s'.streams.nextId = s.streams.nextId)
    (hsubshells : s'.subshells.Sublist s.subshells) (hslots : σ'.slots = (σ.close d).slots)
    (hlength : σ'.pipes.length = σ.pipes.length)
    (hpending : List.Forall₂ (Pending s'.writable σ') s'.subshells outcomes') :
    Sound s' σ' outcomes' := by
  have hslot : ∀ d' ∈ s'.descriptors, σ'.slot? d' = σ.slot? d' := fun d' hd' => by
    rw [System.slot?, hslots]
    exact h.slot?_close hperm hd'
  refine ⟨?_, ?_, ?_, ?_, ?_, ?_, ?_, hpending⟩
  · intro entry hmem
    rw [hnextId]
    exact h.index_lt entry (hentries.subset hmem)
  · exact h.ids_nodup.sublist (hentries.map _)
  · exact (List.nodup_cons.1 (hperm.nodup_iff.1 h.nodup)).2
  · intro d' hd'
    rw [hslot d' hd']
    exact h.isOpen d' (hperm.mem_iff.2 (List.mem_cons_of_mem _ hd'))
  · intro d' pipe hd'
    rw [hlength]
    refine h.bounded d' pipe ?_
    rw [System.slot?, hslots] at hd'
    change (σ.close d).slot? d' = _ ∨ (σ.close d).slot? d' = _ at hd'
    rw [System.slot?_close] at hd'
    split at hd'
    · simp at hd'
    · exact hd'
  · have hstatus : ∀ subshell ∈ s'.subshells,
        σ'.slot? subshell.status = σ.slot? subshell.status := fun subshell hmem =>
      hslot _ (List.mem_append_right _ (List.mem_map_of_mem hmem))
    rw [List.map_congr_left hstatus]
    exact h.apart.sublist (hsubshells.map _)
  · exact h.pids_nodup.sublist (hsubshells.map _)

end Dropping

theorem forall₂_imp_of_mem {α β : Type} {R S : α → β → Prop} {as : List α} {bs : List β}
    (himp : ∀ a ∈ as, ∀ b, R a b → S a b) (h : List.Forall₂ R as bs) : List.Forall₂ S as bs := by
  induction h with
  | nil => exact .nil
  | cons hab _ ih =>
    exact .cons (himp _ (List.mem_cons_self ..) _ hab)
      (ih fun a hmem => himp a (List.mem_cons_of_mem _ hmem))

/-! ### Closing streams -/

section Closing

variable {s₀ s : Interpreter} {σ₀ σ : System} {outcomes : List Outcome}
  {id : StreamId} {stream : Stream Descriptor}

/-- Of entries with different keys, those with other keys are all but one. -/
theorem perm_cons_filter {entries : List (StreamId × Stream Descriptor)}
    (hnodup : (entries.map Prod.fst).Nodup) (hmem : (id, stream) ∈ entries) :
    entries.Perm ((id, stream) :: entries.filter (·.1 ≠ id)) := by
  induction entries with
  | nil => cases hmem
  | cons entry rest ih =>
    obtain ⟨hkey, hrest⟩ := List.nodup_cons.1 hnodup
    rcases List.mem_cons.1 hmem with rfl | hmem
    · have hothers : rest.filter (·.1 ≠ id) = rest :=
        List.filter_eq_self.2 fun entry hentry => decide_eq_true fun (heq : entry.1 = id) =>
          hkey (List.mem_map.2 ⟨entry, hentry, heq⟩)
      rw [List.filter_cons_of_neg (by simp), hothers]
    · have hne : entry.1 ≠ id := fun heq => hkey (heq ▸ List.mem_map_of_mem hmem)
      rw [List.filter_cons_of_pos (by simpa using hne)]
      exact ((ih hrest hmem).cons entry).trans (.swap _ _ _)

theorem Sound.closed_perm (h : Sound s σ outcomes) (hmem : (id, stream) ∈ s.streams.entries) :
    s.descriptors.Perm (stream.handle :: (s.closed id).descriptors) := by
  have hperm := (perm_cons_filter h.ids_nodup hmem).map fun entry => entry.2.handle
  exact ((hperm.append_left _).trans List.perm_middle).append_right _

theorem Interpreter.closed_writable_subset (s : Interpreter) (id : StreamId) :
    (s.closed id).writable ⊆ s.writable :=
  List.append_subset.2 ⟨List.subset_append_left .., fun _ hd =>
    List.mem_append_right _ ((List.filter_sublist.map _).subset hd)⟩

theorem Pending.closed (h : Sound s σ outcomes) (hmem : (id, stream) ∈ s.streams.entries)
    {subshell : Subshell} {outcome : Outcome} (hsubshell : subshell ∈ s.subshells)
    (hpending : Pending s.writable σ subshell outcome) :
    Pending (s.closed id).writable (σ.close stream.handle) subshell outcome := by
  obtain ⟨pipe, hslot, hspares, hcontent⟩ := hpending.marked
  refine ⟨hpending.status_eq, pipe, ?_, hspares.close (s.closed_writable_subset id), hcontent⟩
  rw [h.slot?_close (h.closed_perm hmem), hslot]
  exact List.mem_append_right _ (List.mem_map_of_mem hsubshell)

theorem Sound.closed (h : Sound s σ outcomes) (hmem : (id, stream) ∈ s.streams.entries) :
    Sound (s.closed id) (σ.close stream.handle) outcomes :=
  h.dropped (h.closed_perm hmem) List.filter_sublist rfl (.refl _) rfl rfl
    (forall₂_imp_of_mem (fun _ hsubshell _ => .closed h hmem hsubshell) h.pending)

/-- A stream that is owed is closed. -/
theorem Owes.closed {owed owed' : List (StreamId × Purpose)} {purpose : Purpose}
    (howes : Owes s₀ σ₀ owed outcomes s σ) (howed : owed.Perm ((id, purpose) :: owed'))
    (hmem : (id, stream) ∈ s.streams.entries) (hfree : σ₀.slot? stream.handle = none) :
    Owes s₀ σ₀ owed' outcomes (s.closed id) (σ.close stream.handle) := by
  obtain ⟨hsince, h⟩ := howes
  have hids : (owed.map Prod.fst).Perm (id :: owed'.map Prod.fst) := howed.map Prod.fst
  obtain ⟨hid, hnodup⟩ := List.nodup_cons.1 (hids.nodup_iff.1 hsince.owed_nodup)
  refine ⟨⟨?_, hsince.nextId_le, hsince.environment_eq, ?_, hsince.length_le, ?_, ?_,
    hsince.ended_eq, hnodup, ?_⟩, h.closed hmem⟩
  · rw [← hsince.entries_eq]
    refine (List.filter_filter ..).trans (List.filter_congr fun entry _ => ?_)
    simp only [hids.mem_iff, List.mem_cons, not_or, Bool.decide_and, Bool.and_comm]
  · obtain ⟨started, heq, hstarted⟩ := hsince.subshells_eq
    refine ⟨started, heq, fun subshell hsubshell => ?_⟩
    obtain ⟨hstatus, hpid, pipe, hslot, hpipe⟩ := hstarted subshell hsubshell
    refine ⟨hstatus, hpid, pipe, ?_, hpipe⟩
    rw [h.slot?_close (h.closed_perm hmem), hslot]
    exact List.mem_append_right _ (List.mem_map_of_mem (heq ▸ List.mem_append_right _ hsubshell))
  · intro d hd
    rw [System.slot?_close, if_neg (System.ne_of_free hd hfree)]
    exact hsince.slot_eq d hd
  · intro pipe hspares
    obtain ⟨hspares', hcontent⟩ := hsince.spared pipe hspares
    exact ⟨hspares'.close (s.closed_writable_subset id), hcontent⟩
  · intro end_ hend
    obtain ⟨handle, hmem', hfree', hsuits⟩ :=
      hsince.stream end_ (howed.mem_iff.2 (List.mem_cons_of_mem _ hend))
    have hne : end_.1 ≠ id := fun heq => hid (heq ▸ List.mem_map_of_mem hend)
    have hkept : (end_.1, ⟨handle, end_.2.mode⟩) ∈ (s.closed id).streams.entries :=
      List.mem_filter.2 ⟨hmem', decide_eq_true hne⟩
    refine ⟨handle, hkept, hfree', hsuits.of_eq fun _ => h.slot?_close (h.closed_perm hmem) ?_⟩
    exact (s.closed id).writable_subset (List.mem_append_right _ (List.mem_map_of_mem hkept))

end Closing

/-! ### Collecting subshells -/

namespace Interpreter

/-- Other subshells are to be collected. -/
def withSubshells (s : Interpreter) (subshells : List Subshell) : Interpreter :=
  { s with subshells }

end Interpreter

/-- A child has been waited for, its message was read and the descriptor for it is closed. -/
def System.collected (σ : System) (subshell : Subshell) (pipe : Nat) (bytes : ByteArray) : System :=
  ((σ.forget subshell.pid).setContent pipe bytes).close subshell.status

section Collecting

variable {s₀ s : Interpreter} {σ₀ σ : System} {outcomes rest : List Outcome}
  {outcome : Outcome} {kept others : List Subshell} {subshell other : Subshell} {pipe : Nat}
  {bytes : ByteArray}

theorem System.lookup_collected {pid : Pid} (h : pid ≠ subshell.pid) :
    (σ.collected subshell pipe bytes).ended.lookup pid = σ.ended.lookup pid :=
  AList.lookup_erase_ne h

theorem System.length_collected :
    (σ.collected subshell pipe bytes).pipes.length = σ.pipes.length := List.length_set ..

theorem System.content_collected {pipe' : Nat} (h : pipe' ≠ pipe) :
    (σ.collected subshell pipe bytes).content pipe' = σ.content pipe' := by
  show ((σ.pipes.set pipe bytes)[pipe']?).getD _ = _
  rw [List.getElem?_set_ne (Ne.symm h)]
  rfl

theorem Sound.collected_perm :
    (s.withSubshells (kept ++ subshell :: others)).descriptors.Perm
      (subshell.status :: (s.withSubshells (kept ++ others)).descriptors) := by
  simp only [Interpreter.descriptors, Interpreter.withSubshells, List.map_append, List.map_cons]
  rw [← List.append_assoc, ← List.append_assoc]
  exact List.perm_middle

/-- The subshell that is collected and another one have different pipes and numbers. -/
theorem Sound.apart_of_mem (h : Sound (s.withSubshells (kept ++ subshell :: others)) σ outcomes)
    (hmem : other ∈ kept ++ others) :
    other.pid ≠ subshell.pid ∧ σ.slot? other.status ≠ σ.slot? subshell.status := by
  have hperm : (kept ++ subshell :: others).Perm (subshell :: (kept ++ others)) :=
    List.perm_middle
  have hpids := (hperm.map Subshell.pid).nodup_iff.1 h.pids_nodup
  have hslots := (hperm.map fun subshell => σ.slot? subshell.status).nodup_iff.1 h.apart
  rw [List.map_cons, List.nodup_cons] at hpids hslots
  exact ⟨fun heq => hpids.1 (heq ▸ List.mem_map_of_mem hmem),
    fun heq => hslots.1
      (heq ▸ List.mem_map_of_mem (f := fun subshell => σ.slot? subshell.status) hmem)⟩

theorem Pending.collected (h : Sound (s.withSubshells (kept ++ subshell :: others)) σ outcomes)
    (hslot : σ.slot? subshell.status = some (.readEnd pipe)) (hmem : other ∈ kept ++ others)
    (hpending : Pending s.writable σ other outcome) :
    Pending s.writable (σ.collected subshell pipe bytes) other outcome := by
  obtain ⟨hpid, hslots⟩ := h.apart_of_mem hmem
  obtain ⟨pipe', hslot', hspares, hcontent⟩ := hpending.marked
  have hpipe : pipe' ≠ pipe := fun heq => hslots (by rw [hslot, hslot', heq])
  refine ⟨?_, pipe', ?_, ?_, ?_⟩
  · rw [System.lookup_collected hpid, hpending.status_eq]
  · refine (h.slot?_close Sound.collected_perm ?_).trans hslot'
    exact List.mem_append_right _ (List.mem_map_of_mem hmem)
  · refine ⟨?_, (hspares.close (List.Subset.refl _)).2⟩
    rw [System.length_collected]
    exact hspares.1
  · rw [System.content_collected hpipe, hcontent]

theorem Sound.collected
    (h : Sound (s.withSubshells (kept ++ subshell :: others)) σ (outcomes ++ outcome :: rest))
    (hlength : kept.length = outcomes.length)
    (hslot : σ.slot? subshell.status = some (.readEnd pipe)) :
    Sound (s.withSubshells (kept ++ others)) (σ.collected subshell pipe bytes)
      (outcomes ++ rest) := by
  have hkept := List.forall₂_take_append _ _ _ h.pending
  have hothers := List.forall₂_drop_append _ _ _ h.pending
  rw [← hlength, Interpreter.withSubshells, List.take_left] at hkept
  rw [← hlength, Interpreter.withSubshells, List.drop_left] at hothers
  cases hothers with
  | cons _ hothers =>
    refine h.dropped Sound.collected_perm (.refl _) rfl
      ((List.sublist_cons_self subshell others).append_left kept) rfl
      System.length_collected ?_
    exact forall₂_imp_of_mem (fun _ hmem _ => .collected h hslot hmem)
      (List.rel_append hkept hothers)

/-- What was started since and is collected leaves no trace. -/
theorem Owes.collected {owed : List (StreamId × Purpose)}
    (howes : Owes s₀ σ₀ owed (outcomes ++ outcome :: rest)
      (s.withSubshells (s₀.subshells ++ subshell :: others)) σ)
    (hlength : s₀.subshells.length = outcomes.length)
    (hslot : σ.slot? subshell.status = some (.readEnd pipe)) :
    Owes s₀ σ₀ owed (outcomes ++ rest) (s.withSubshells (s₀.subshells ++ others))
      (σ.collected subshell pipe bytes) := by
  obtain ⟨hsince, h⟩ := howes
  obtain ⟨started, heq, hstarted⟩ := hsince.subshells_eq
  obtain rfl := List.append_cancel_left heq
  obtain ⟨hstatus, hpid, pipe', hslot', hpipe⟩ := hstarted subshell (List.mem_cons_self ..)
  obtain rfl : pipe' = pipe := by
    rw [hslot] at hslot'
    cases hslot'
    rfl
  refine ⟨⟨hsince.entries_eq, hsince.nextId_le, hsince.environment_eq, ⟨others, rfl, ?_⟩, ?_, ?_,
    ?_, ?_, hsince.owed_nodup, ?_⟩, h.collected hlength hslot⟩
  · intro other hmem
    obtain ⟨hstatus', hpid', pipe', hslot', hpipe'⟩ :=
      hstarted other (List.mem_cons_of_mem _ hmem)
    refine ⟨hstatus', hpid', pipe', ?_, hpipe'⟩
    refine (h.slot?_close Sound.collected_perm ?_).trans hslot'
    exact List.mem_append_right _ (List.mem_map_of_mem (List.mem_append_right _ hmem))
  · rw [System.length_collected]
    exact hsince.length_le
  · intro d hd
    refine System.slot?_close.trans ((if_neg ?_).trans (hsince.slot_eq d hd))
    exact System.ne_of_free hd hstatus
  · intro pipe hspares
    obtain ⟨hspares', hcontent⟩ := hsince.spared pipe hspares
    have hne : pipe ≠ pipe' := Nat.ne_of_lt (Nat.lt_of_lt_of_le hspares.1 hpipe)
    refine ⟨⟨?_, (hspares'.close (List.Subset.refl _)).2⟩, ?_⟩
    · rw [System.length_collected]
      exact hspares'.1
    · rw [System.content_collected hne, hcontent]
  · intro pid hlookup
    rw [System.lookup_collected (System.ne_of_lookup hlookup hpid)]
    exact hsince.ended_eq pid hlookup
  · intro end_ hend
    obtain ⟨handle, hmem, hfree, hsuits⟩ := hsince.stream end_ hend
    refine ⟨handle, hmem, hfree, hsuits.of_eq fun _ => h.slot?_close Sound.collected_perm ?_⟩
    exact Interpreter.writable_subset _ (List.mem_append_right _ (List.mem_map_of_mem hmem))

end Collecting

/-! ### Starting subshells -/

/-- A subshell has been started and has ended with an outcome.  Its pipe is the one that was made
for it. -/
structure Starts (s : Interpreter) (σ : System) (subshell : Subshell) (outcome : Outcome)
    (s' : Interpreter) (σ' : System) : Prop where
  interpreter_eq : s' = s.withSubshells (s.subshells ++ [subshell])
  status_free : σ.slot? subshell.status = none
  pid_free : σ.ended.lookup subshell.pid = none
  slot_eq : ∀ d, σ'.slot? d =
    if d = subshell.status then some (.readEnd σ.pipes.length) else σ.slot? d
  ended_eq : σ'.ended = σ.ended.insert subshell.pid (exitStatus outcome.code)
  length_lt : σ.pipes.length < σ'.pipes.length
  marked : σ'.content σ.pipes.length = outcome.mark
  content_eq : ∀ pipe, σ.Spares s.writable pipe → σ'.content pipe = σ.content pipe

namespace Starts

variable {s s' : Interpreter} {σ σ' : System} {outcomes : List Outcome}
  {subshell : Subshell} {outcome : Outcome}

theorem slot?_eq (h : Starts s σ subshell outcome s' σ') {d : Descriptor}
    (hd : (σ.slot? d).isSome) : σ'.slot? d = σ.slot? d := by
  rw [h.slot_eq, if_neg (System.ne_of_free hd h.status_free)]

theorem since (h : Starts s σ subshell outcome s' σ') (hs : Sound s σ outcomes) :
    Since s σ [] s' σ' := by
  obtain rfl := h.interpreter_eq
  refine { Since.refl s σ with
    subshells_eq := ⟨[subshell], rfl, fun other hmem => ?_⟩
    length_le := Nat.le_of_lt h.length_lt
    slot_eq := fun d hd => h.slot?_eq hd
    spared := fun pipe hspares => ⟨⟨Nat.lt_trans hspares.1 h.length_lt, fun d hd => ?_⟩,
      h.content_eq pipe hspares⟩
    ended_eq := fun pid hpid => ?_
    stream := nofun }
  · obtain rfl := List.mem_singleton.1 hmem
    exact ⟨h.status_free, h.pid_free, σ.pipes.length, by rw [h.slot_eq, if_pos rfl],
      Nat.le_refl _⟩
  · rw [h.slot?_eq (hs.isOpen d (s.writable_subset hd))]
    exact hspares.2 d hd
  · rw [h.ended_eq]
    exact AList.lookup_insert_ne (System.ne_of_lookup hpid h.pid_free)

theorem pending (h : Starts s σ subshell outcome s' σ') (hs : Sound s σ outcomes) :
    Pending s'.writable σ' subshell outcome := by
  obtain rfl := h.interpreter_eq
  refine ⟨?_, σ.pipes.length, ?_, ⟨h.length_lt, fun d hd hslot => ?_⟩, h.marked⟩
  · rw [h.ended_eq]
    exact AList.lookup_insert _
  · rw [h.slot_eq, if_pos rfl]
  · rw [h.slot?_eq (hs.isOpen d (s.writable_subset hd))] at hslot
    exact Nat.lt_irrefl _ (hs.bounded d _ (.inr hslot))

theorem continues (h : Starts s σ subshell outcome s' σ') (hs : Sound s σ outcomes) :
    Continues s σ (outcomes ++ [outcome]) s' σ' := by
  have hsince := h.since hs
  have hpending := h.pending hs
  obtain rfl := h.interpreter_eq
  refine ⟨⟨hsince, ?_⟩, rfl, rfl⟩
  have hopen : ∀ d ∈ s.descriptors, σ'.slot? d = σ.slot? d :=
    fun d hd => h.slot?_eq (hs.isOpen d hd)
  have hdescriptors : (s.withSubshells (s.subshells ++ [subshell])).descriptors
      = s.descriptors ++ [subshell.status] := by
    simp [Interpreter.descriptors, Interpreter.withSubshells]
  refine ⟨hs.index_lt, hs.ids_nodup, ?_, ?_, ?_, ?_, ?_, ?_⟩
  · rw [hdescriptors]
    refine hs.nodup.append (List.nodup_singleton _) fun d hd hd' => ?_
    exact System.ne_of_free (hs.isOpen d hd) h.status_free (List.mem_singleton.1 hd')
  · intro d hd
    rw [hdescriptors] at hd
    rcases List.mem_append.1 hd with hd | hd
    · rw [hopen d hd]
      exact hs.isOpen d hd
    · rw [List.mem_singleton.1 hd, h.slot_eq, if_pos rfl]
      rfl
  · intro d pipe hd
    rw [h.slot_eq] at hd
    split at hd
    · rcases hd with hd | hd <;> cases hd
      exact h.length_lt
    · exact Nat.lt_trans (hs.bounded d pipe hd) h.length_lt
  · have hslots : ∀ other ∈ s.subshells, σ'.slot? other.status = σ.slot? other.status :=
      fun other hmem => hopen _ (List.mem_append_right _ (List.mem_map_of_mem hmem))
    rw [Interpreter.withSubshells, List.map_append, List.map_congr_left hslots]
    refine hs.apart.append (List.nodup_singleton _) fun slot hslot hslot' => ?_
    obtain ⟨other, hmem, rfl⟩ := List.mem_map.1 hslot
    simp only [List.map_singleton, List.mem_singleton, h.slot_eq, if_pos] at hslot'
    exact Nat.lt_irrefl _ (hs.bounded _ _ (.inl hslot'))
  · rw [Interpreter.withSubshells, List.map_append]
    refine hs.pids_nodup.append (List.nodup_singleton _) fun pid hpid hpid' => ?_
    obtain ⟨other, hmem, rfl⟩ := List.mem_map.1 hpid
    rw [List.map_singleton, List.mem_singleton] at hpid'
    exact System.ne_of_lookup (hs.lookup_isSome hmem) h.pid_free hpid'
  · exact List.rel_append (hs.pending_since hsince) (.cons hpending .nil)

end Starts

end CommandShell
