import CommandShell.Proofs.Processes.Running
import Mathlib.Data.List.AList
set_option autoImplicit false

/-!
# Processes under fixed conditions

What a process is to the system while nothing around it changes: its descriptors, the bytes in the
pipes and the children that have ended.  Which paths can be opened, what they lead to, what can be
written and with which code each program ends is given once for all, so processes have nothing to
say to each other but the bytes in their pipes.  A child may therefore run to its end as soon as it
is made.  Making a child or a pipe always succeeds, and no signal is sent.

A routine leads to a promise if it comes to a result that keeps it; a routine of a child ends its
process with an exit code.
-/

namespace CommandShell

open Machine (Descriptor Image NodeInfo OpenMode Pid Routine)

/-- What a descriptor stands for. -/
inductive Endpoint where
  | readEnd (pipe : Nat)
  | writeEnd (pipe : Nat)
  /-- A file or a device, by its path. -/
  | file (path : String)
  deriving DecidableEq

/-- What processes find around them and do not change. -/
structure Conditions where
  /-- What a path leads to; a link at its end is followed if asked for. -/
  stat : (path : String) → (follow : Bool) → Except Errno NodeInfo
  /-- Why a file cannot be opened; none if it can. -/
  refusal : (path : String) → OpenMode → Option Errno
  /-- Why nothing can be written to an open file; none if something can. -/
  obstacle : (path : String) → Option Errno
  /-- The exit code of the program that a path leads to, or why it cannot be run. -/
  program : (path : String) → Image → Except Errno (Fin 256)
  /-- The descriptor that is given out next. -/
  freeDescriptor : (used : List Descriptor) → Descriptor
  freeDescriptor_not_mem : ∀ used, freeDescriptor used ∉ used
  /-- The number that the next child gets. -/
  freePid : (used : List Pid) → Pid
  freePid_not_mem : ∀ used, freePid used ∉ used

/-- What the system keeps for a process: what its descriptors stand for, the bytes that wait in each
pipe, and the exit codes of the children that have ended and have not been waited for. -/
structure System where
  slots : AList fun _ : Descriptor => Endpoint
  pipes : List ByteArray := []
  ended : AList (fun _ : Pid => Nat) := ∅

namespace System

/-- What a descriptor stands for, if it is open. -/
def slot? (σ : System) (descriptor : Descriptor) : Option Endpoint := σ.slots.lookup descriptor

/-- The bytes that wait in a pipe. -/
def content (σ : System) (pipe : Nat) : ByteArray := σ.pipes[pipe]?.getD .empty

/-- A descriptor stands for something from now on. -/
def addSlot (σ : System) (descriptor : Descriptor) (endpoint : Endpoint) : System :=
  { σ with slots := σ.slots.insert descriptor endpoint }

/-- A descriptor is closed. -/
def close (σ : System) (descriptor : Descriptor) : System :=
  { σ with slots := σ.slots.erase descriptor }

/-- A pipe is added, with the two given descriptors for its ends. -/
def openPipe (σ : System) (read write : Descriptor) : System :=
  { (σ.addSlot read (.readEnd σ.pipes.length)).addSlot write (.writeEnd σ.pipes.length) with
    pipes := σ.pipes ++ [.empty] }

/-- A descriptor stands for the same as another one. -/
def install (σ : System) (descriptor target : Descriptor) : System :=
  match σ.slot? descriptor with
  | some endpoint => σ.addSlot target endpoint
  | none => σ

/-- Changes the bytes that wait in a pipe. -/
def setContent (σ : System) (pipe : Nat) (bytes : ByteArray) : System :=
  { σ with pipes := σ.pipes.set pipe bytes }

/-- What is written to a pipe waits there. -/
def write (σ : System) (descriptor : Descriptor) (bytes : ByteArray) : System :=
  match σ.slot? descriptor with
  | some (.writeEnd pipe) => σ.setContent pipe (σ.content pipe ++ bytes)
  | _ => σ

/-- A child has ended, which has left the pipes as given. -/
def childEnded (σ : System) (pid : Pid) (code : Nat) (pipes : List ByteArray) : System :=
  { σ with pipes, ended := σ.ended.insert pid code }

/-- A child has been waited for. -/
def forget (σ : System) (pid : Pid) : System := { σ with ended := σ.ended.erase pid }

variable {σ : System} {d d' reader writer : Descriptor} {endpoint : Endpoint} {pipe pipe' : Nat}
  {bytes : ByteArray}

/-! ### Descriptors -/

theorem slot?_addSlot :
    (σ.addSlot d endpoint).slot? d' = if d' = d then some endpoint else σ.slot? d' := by
  unfold slot? addSlot
  split
  · rename_i heq
    rw [heq]
    exact AList.lookup_insert _
  · rename_i hne
    exact AList.lookup_insert_ne hne

theorem slot?_close : (σ.close d).slot? d' = if d' = d then none else σ.slot? d' := by
  unfold slot? close
  split
  · rename_i heq
    rw [heq]
    exact AList.lookup_erase ..
  · rename_i hne
    exact AList.lookup_erase_ne hne

theorem slot?_openPipe :
    (σ.openPipe reader writer).slot? d' =
      if d' = writer then some (.writeEnd σ.pipes.length)
      else if d' = reader then some (.readEnd σ.pipes.length) else σ.slot? d' := by
  show ((σ.addSlot reader _).addSlot writer _).slot? d' = _
  rw [slot?_addSlot, slot?_addSlot]

/-- A descriptor that is open is not one that is free. -/
theorem ne_of_free (hd : (σ.slot? d).isSome) (hfree : σ.slot? d' = none) : d ≠ d' := by
  rintro rfl
  rw [hfree] at hd
  cases hd

theorem slot?_openPipe_of_isSome (hreader : σ.slot? reader = none) (hwriter : σ.slot? writer = none)
    (hd : (σ.slot? d).isSome) : (σ.openPipe reader writer).slot? d = σ.slot? d := by
  rw [slot?_openPipe, if_neg (ne_of_free hd hwriter), if_neg (ne_of_free hd hreader)]

theorem slot?_install {target : Descriptor} (h : (σ.slot? d).isSome) :
    (σ.install d target).slot? d' = if d' = target then σ.slot? d else σ.slot? d' := by
  obtain ⟨endpoint, hendpoint⟩ := Option.isSome_iff_exists.1 h
  rw [install, hendpoint]
  exact slot?_addSlot

theorem pipes_install {target : Descriptor} : (σ.install d target).pipes = σ.pipes := by
  unfold install
  split <;> rfl

theorem slot?_closeAll (σ : System) (ds : List Descriptor) :
    (ds.foldl close σ).slot? d = if d ∈ ds then none else σ.slot? d := by
  induction ds generalizing σ with
  | nil => simp
  | cons d' rest ih =>
    rw [List.foldl_cons, ih, slot?_close]
    by_cases hmem : d ∈ rest <;> by_cases heq : d = d' <;> simp [hmem, heq]

theorem pipes_closeAll (σ : System) (ds : List Descriptor) :
    (ds.foldl close σ).pipes = σ.pipes := by
  induction ds generalizing σ with
  | nil => rfl
  | cons d' rest ih => rw [List.foldl_cons, ih, close]

theorem slot?_eq_none (h : d ∉ σ.slots.keys) : σ.slot? d = none :=
  AList.lookup_eq_none.2 fun hmem => h (AList.mem_keys.1 hmem)

/-! ### Children -/

/-- A child that has ended is not one that has not. -/
theorem ne_of_lookup {pid pid' : Pid} (hpid : (σ.ended.lookup pid).isSome)
    (hfree : σ.ended.lookup pid' = none) : pid ≠ pid' := by
  rintro rfl
  rw [hfree] at hpid
  cases hpid

/-! ### Pipes -/

theorem content_setContent (h : pipe < σ.pipes.length) :
    (σ.setContent pipe bytes).content pipe' = if pipe' = pipe then bytes else σ.content pipe' := by
  unfold content setContent
  dsimp only
  split
  · rename_i heq
    rw [heq, List.getElem?_set_self h]
    rfl
  · rename_i hne
    rw [List.getElem?_set_ne (Ne.symm hne)]

theorem content_openPipe : (σ.openPipe reader writer).content pipe = σ.content pipe := by
  unfold content openPipe
  dsimp only
  rw [List.getElem?_append]
  split
  · rfl
  · rename_i hpipe
    rw [List.getElem?_eq_none (Nat.le_of_not_lt hpipe)]
    cases pipe - σ.pipes.length <;> rfl

/-- A pipe that has not been made holds nothing. -/
theorem content_eq_empty (h : σ.pipes.length ≤ pipe) : σ.content pipe = .empty := by
  unfold content
  rw [List.getElem?_eq_none h]
  rfl

theorem write_eq (h : σ.slot? d = some (.writeEnd pipe)) :
    σ.write d bytes = σ.setContent pipe (σ.content pipe ++ bytes) := by
  rw [write, h]

/-- Nothing has happened but that bytes were written to a descriptor. -/
structure Wrote (σ : System) (descriptor : Descriptor) (σ' : System) : Prop where
  slots_eq : σ'.slots = σ.slots
  ended_eq : σ'.ended = σ.ended
  length_eq : σ'.pipes.length = σ.pipes.length
  content_eq : ∀ pipe, σ.slot? descriptor ≠ some (.writeEnd pipe) → σ'.content pipe = σ.content pipe

namespace Wrote

variable {σ₁ σ' : System}

theorem refl (σ : System) (d : Descriptor) : Wrote σ d σ := ⟨rfl, rfl, rfl, fun _ _ => rfl⟩

theorem trans (h : Wrote σ d σ₁) (h' : Wrote σ₁ d σ') : Wrote σ d σ' where
  slots_eq := h'.slots_eq.trans h.slots_eq
  ended_eq := h'.ended_eq.trans h.ended_eq
  length_eq := h'.length_eq.trans h.length_eq
  content_eq pipe hpipe := by
    have hslot : σ₁.slot? d = σ.slot? d := by rw [slot?, slot?, h.slots_eq]
    rw [h'.content_eq pipe (hslot ▸ hpipe), h.content_eq pipe hpipe]

theorem write (σ : System) (d : Descriptor) (bytes : ByteArray) : Wrote σ d (σ.write d bytes) := by
  unfold System.write
  split
  · rename_i pipe hslot
    refine ⟨rfl, rfl, List.length_set, fun pipe' hpipe => ?_⟩
    have hne : pipe' ≠ pipe := fun heq => hpipe (heq ▸ hslot)
    unfold content setContent
    rw [List.getElem?_set_ne (Ne.symm hne)]
  · exact .refl σ d

end Wrote

end System

/-- How a routine ends. -/
inductive Ending (α : Type) where
  | done (result : α)
  /-- The process ends with an exit code. -/
  | exited (code : Nat)
  /-- A call is made that is not answered here, or a child does not end its process. -/
  | unserved

namespace Conditions

/-- What comes of writing to a descriptor. -/
def writing (w : Conditions) (σ : System) (descriptor : Descriptor) : Except Errno Unit :=
  match σ.slot? descriptor with
  | some (.writeEnd _) => .ok ()
  | some (.file path) =>
    match w.obstacle path with
    | none => .ok ()
    | some errno => .error errno
  | some (.readEnd _) | none => .error .badDescriptor

theorem slot?_freeDescriptor (w : Conditions) (σ : System) :
    σ.slot? (w.freeDescriptor σ.slots.keys) = none :=
  System.slot?_eq_none (w.freeDescriptor_not_mem _)

/-- A second descriptor is free and another one. -/
theorem slot?_nextDescriptor (w : Conditions) (σ : System) (d : Descriptor) :
    w.freeDescriptor (d :: σ.slots.keys) ≠ d ∧
      σ.slot? (w.freeDescriptor (d :: σ.slots.keys)) = none := by
  obtain ⟨hne, hfree⟩ := not_or.1 (List.mem_cons.not.1 (w.freeDescriptor_not_mem _))
  exact ⟨hne, System.slot?_eq_none hfree⟩

theorem lookup_freePid (w : Conditions) (σ : System) :
    σ.ended.lookup (w.freePid σ.ended.keys) = none :=
  AList.lookup_eq_none.2 fun hmem => w.freePid_not_mem _ (AList.mem_keys.1 hmem)

theorem writing_congr (w : Conditions) {σ σ' : System} {d d' : Descriptor}
    (h : σ'.slot? d' = σ.slot? d) : w.writing σ' d' = w.writing σ d := by
  unfold writing
  rw [h]

/-- The answer to a call, and the system afterwards; none for the calls that make or replace a
process and for those that no command makes. -/
def answer (w : Conditions) (σ : System) : (call : Machine.Call) → Option (call.Reply × System)
  | .openPipe _ =>
    let read := w.freeDescriptor σ.slots.keys
    let write := w.freeDescriptor (read :: σ.slots.keys)
    some (.ok (read, write), σ.openPipe read write)
  | .openFile path mode =>
    match w.refusal path mode with
    | some errno => some (.error errno, σ)
    | none =>
      let descriptor := w.freeDescriptor σ.slots.keys
      some (.ok descriptor, σ.addSlot descriptor (.file path))
  | .close descriptor =>
    some (if (σ.slot? descriptor).isSome then .ok () else .error .badDescriptor,
      σ.close descriptor)
  | .install descriptor target =>
    some (if (σ.slot? descriptor).isSome then .ok () else .error .badDescriptor,
      σ.install descriptor target)
  | .read descriptor limit =>
    match σ.slot? descriptor with
    | some (.readEnd pipe) =>
      some (.ok ((σ.content pipe).extract 0 limit),
        σ.setContent pipe ((σ.content pipe).extract limit (σ.content pipe).size))
    | some (.writeEnd _) | none => some (.error .badDescriptor, σ)
    | some (.file _) => none
  | .write descriptor bytes => some (w.writing σ descriptor, σ.write descriptor bytes)
  | .stat path follow => some (w.stat path follow, σ)
  | .wait child _ =>
    match σ.ended.lookup child with
    | some code => some (.ok (.exited code), σ.forget child)
    | none => some (.error .noChild, σ)
  | .arrange _ _ => some (.standard, σ)
  | .log _ => some ((), σ)
  | _ => none

theorem answer_openFile (w : Conditions) (σ : System) (path : String) (mode : OpenMode) :
    w.answer σ (.openFile path mode) =
      match w.refusal path mode with
      | some errno => some (.error errno, σ)
      | none => some (.ok (w.freeDescriptor σ.slots.keys),
          σ.addSlot (w.freeDescriptor σ.slots.keys) (.file path)) := rfl

theorem answer_read (w : Conditions) (σ : System) (descriptor : Descriptor) (limit : Nat) :
    w.answer σ (.read descriptor limit) =
      match σ.slot? descriptor with
      | some (.readEnd pipe) =>
        some (.ok ((σ.content pipe).extract 0 limit),
          σ.setContent pipe ((σ.content pipe).extract limit (σ.content pipe).size))
      | some (.writeEnd _) | none => some (.error .badDescriptor, σ)
      | some (.file _) => none := rfl

theorem answer_write (w : Conditions) (σ : System) (descriptor : Descriptor) (bytes : ByteArray) :
    w.answer σ (.write descriptor bytes)
      = some (w.writing σ descriptor, σ.write descriptor bytes) := rfl

theorem answer_wait (w : Conditions) (σ : System) (child : Pid) (interruptible : Bool) :
    w.answer σ (.wait child interruptible) =
      match σ.ended.lookup child with
      | some code => some (.ok (.exited code), σ.forget child)
      | none => some (.error .noChild, σ) := rfl

/-- How a routine ends, and what the system is like then.  A child has the descriptors of its parent
but none of its children. -/
def serve {α : Type} (w : Conditions) : Routine α → System → Ending α × System
  | .done result, σ => (.done result, σ)
  | .exit code, σ => (.exited (code % 256).toNat, σ)
  | .call .fork next, σ =>
    match w.serve (next (.ok .child)) { σ with ended := ∅ } with
    | (.exited code, child) =>
      let pid := w.freePid σ.ended.keys
      w.serve (next (.ok (.parent pid))) (σ.childEnded pid code child.pipes)
    | (_, child) => (.unserved, child)
  | .call (.exec path image) next, σ =>
    match w.program path image with
    | .ok code => (.exited code, σ)
    | .error errno => w.serve (next errno) σ
  | .call call next, σ =>
    match w.answer σ call with
    | some (reply, σ) => w.serve (next reply) σ
    | none => (.unserved, σ)

section Serving

variable {α β : Type} {w : Conditions} {σ σ' : System} {routine : Routine α}
  {next : α → Routine β}

theorem serve_call {call : Machine.Call} {next : call.Reply → Routine α} {reply : call.Reply}
    (h : w.answer σ call = some (reply, σ')) :
    w.serve (.call call next) σ = w.serve (next reply) σ' := by
  cases call with
  | fork => cases h
  | exec => cases h
  | _ => simp only [serve, h]

theorem serve_fork_eq (next : Except Errno Machine.ForkSide → Routine α) :
    w.serve (.call .fork next) σ =
      match w.serve (next (.ok .child)) { σ with ended := ∅ } with
      | (.exited code, child) =>
        let pid := w.freePid σ.ended.keys
        w.serve (next (.ok (.parent pid))) (σ.childEnded pid code child.pipes)
      | (_, child) => (.unserved, child) := by
  delta serve
  rfl

theorem serve_fork {next : Except Errno Machine.ForkSide → Routine α} {code : Nat}
    (h : w.serve (next (.ok .child)) { σ with ended := ∅ } = (.exited code, σ')) :
    w.serve (.call .fork next) σ
      = w.serve (next (.ok (.parent (w.freePid σ.ended.keys))))
        (σ.childEnded (w.freePid σ.ended.keys) code σ'.pipes) := by
  rw [serve_fork_eq, h]

theorem serve_exec_eq (path : String) (image : Image) (next : Errno → Routine α) :
    w.serve (.call (.exec path image) next) σ =
      match w.program path image with
      | .ok code => (.exited code, σ)
      | .error errno => w.serve (next errno) σ := by
  delta serve
  rfl

theorem serve_exec_ok {path : String} {image : Image} {next : Errno → Routine α}
    {code : Fin 256} (h : w.program path image = .ok code) :
    w.serve (.call (.exec path image) next) σ = (.exited code, σ) := by
  rw [serve_exec_eq, h]

theorem serve_exec_error {path : String} {image : Image} {next : Errno → Routine α}
    {errno : Errno} (h : w.program path image = .error errno) :
    w.serve (.call (.exec path image) next) σ = w.serve (next errno) σ := by
  rw [serve_exec_eq, h]

/-- What follows a routine starts where that has come to its result, and never starts if that has
ended the process. -/
theorem serve_bind (h : (w.serve routine σ).1 ≠ .unserved) :
    w.serve (routine.bind next) σ =
      match w.serve routine σ with
      | (.done result, σ') => w.serve (next result) σ'
      | (.exited code, σ') => (.exited code, σ')
      | (.unserved, σ') => (.unserved, σ') := by
  induction routine generalizing σ with
  | done result => rfl
  | exit code => rfl
  | call call following ih =>
    rw [Routine.bind]
    rcases hanswer : w.answer σ call with _ | ⟨reply, σ₁⟩
    · cases call with
      | fork =>
        have hchild := ih (.ok .child) (σ := { σ with ended := ∅ })
        rcases hserved : w.serve (following (.ok .child)) { σ with ended := ∅ } with
          ⟨_ | code | _, child⟩
        · rw [serve_fork_eq, hserved] at h
          exact absurd rfl h
        · rw [hserved] at hchild
          rw [serve_fork hserved] at h ⊢
          rw [serve_fork (hchild nofun)]
          exact ih _ h
        · rw [serve_fork_eq, hserved] at h
          exact absurd rfl h
      | exec path image =>
        cases hprogram : w.program path image with
        | ok code => rw [serve_exec_ok hprogram, serve_exec_ok hprogram]
        | error errno =>
          rw [serve_exec_error hprogram] at h ⊢
          rw [serve_exec_error hprogram]
          exact ih _ h
      | _ => simp [serve, hanswer] at h
    · rw [serve_call hanswer] at h ⊢
      rw [serve_call hanswer]
      exact ih reply h

end Serving

/-! ## Promises -/

section Promises

variable {α β : Type} {w : Conditions} {σ σ' : System} {routine : Routine α}

/-- The routine comes to a result, and what it comes to is as promised. -/
def Leads (w : Conditions) (post : α → System → Prop) (routine : Routine α) (σ : System) : Prop :=
  ∃ result σ', w.serve routine σ = (.done result, σ') ∧ post result σ'

/-- The routine ends its process, and leaves behind what is promised. -/
def Exits (w : Conditions) (post : Nat → System → Prop) (routine : Routine α) (σ : System) : Prop :=
  ∃ code σ', w.serve routine σ = (.exited code, σ') ∧ post code σ'

namespace Leads

variable {post post' : α → System → Prop}

theorem done {result : α} (h : post result σ) : w.Leads post (.done result) σ :=
  ⟨result, σ, rfl, h⟩

theorem mono (h : w.Leads post routine σ)
    (himplies : ∀ result σ', post result σ' → post' result σ') :
    w.Leads post' routine σ := by
  obtain ⟨result, σ', hserved, hresult⟩ := h
  exact ⟨result, σ', hserved, himplies result σ' hresult⟩

theorem bind {post : β → System → Prop} {next : α → Routine β}
    (h : w.Leads (fun result σ' => w.Leads post (next result) σ') routine σ) :
    w.Leads post (routine.bind next) σ := by
  obtain ⟨result, σ₁, hserved, result', σ', hnext, hpost⟩ := h
  refine ⟨result', σ', ?_, hpost⟩
  rw [serve_bind (by rw [hserved]; nofun), hserved]
  exact hnext

theorem call {call : Machine.Call} {next : call.Reply → Routine α} {reply : call.Reply}
    (hanswer : w.answer σ call = some (reply, σ')) (h : w.Leads post (next reply) σ') :
    w.Leads post (.call call next) σ := by
  obtain ⟨result, σ'', hserved, hresult⟩ := h
  exact ⟨result, σ'', (serve_call hanswer).trans hserved, hresult⟩

/-- A child runs to its end, then its parent goes on. -/
theorem fork {next : Except Errno Machine.ForkSide → Routine α}
    (h : w.Exits (fun code child => w.Leads post (next (.ok (.parent (w.freePid σ.ended.keys))))
      (σ.childEnded (w.freePid σ.ended.keys) code child.pipes))
      (next (.ok .child)) { σ with ended := ∅ }) : w.Leads post (.call .fork next) σ := by
  obtain ⟨code, child, hchild, result, σ', hserved, hresult⟩ := h
  exact ⟨result, σ', (serve_fork hchild).trans hserved, hresult⟩

end Leads

namespace Exits

variable {post post' : Nat → System → Prop}

theorem exit {code : Int} (h : post (code % 256).toNat σ) :
    w.Exits post (.exit code : Routine α) σ := ⟨_, σ, rfl, h⟩

theorem mono (h : w.Exits post routine σ) (himplies : ∀ code σ', post code σ' → post' code σ') :
    w.Exits post' routine σ := by
  obtain ⟨code, σ', hserved, hcode⟩ := h
  exact ⟨code, σ', hserved, himplies code σ' hcode⟩

/-- Nothing follows a routine that has ended its process. -/
theorem of_bind {next : α → Routine β} (h : w.Exits post routine σ) :
    w.Exits post (routine.bind next) σ := by
  obtain ⟨code, σ', hserved, hcode⟩ := h
  refine ⟨code, σ', ?_, hcode⟩
  rw [serve_bind (by rw [hserved]; nofun), hserved]

theorem bind {next : α → Routine β}
    (h : w.Leads (fun result σ' => w.Exits post (next result) σ') routine σ) :
    w.Exits post (routine.bind next) σ := by
  obtain ⟨result, σ₁, hserved, code, σ', hnext, hcode⟩ := h
  refine ⟨code, σ', ?_, hcode⟩
  rw [serve_bind (by rw [hserved]; nofun), hserved]
  exact hnext

theorem call {call : Machine.Call} {next : call.Reply → Routine α} {reply : call.Reply}
    (hanswer : w.answer σ call = some (reply, σ')) (h : w.Exits post (next reply) σ') :
    w.Exits post (.call call next) σ := by
  obtain ⟨code, σ'', hserved, hcode⟩ := h
  exact ⟨code, σ'', (serve_call hanswer).trans hserved, hcode⟩

theorem exec_ok {path : String} {image : Image} {next : Errno → Routine α} {code : Fin 256}
    (hprogram : w.program path image = .ok code) (h : post code σ) :
    w.Exits post (.call (.exec path image) next) σ := ⟨code, σ, serve_exec_ok hprogram, h⟩

theorem exec_error {path : String} {image : Image} {next : Errno → Routine α} {errno : Errno}
    (hprogram : w.program path image = .error errno) (h : w.Exits post (next errno) σ) :
    w.Exits post (.call (.exec path image) next) σ := by
  obtain ⟨code, σ', hserved, hcode⟩ := h
  exact ⟨code, σ', (serve_exec_error hprogram).trans hserved, hcode⟩

end Exits

end Promises

end Conditions

end CommandShell
