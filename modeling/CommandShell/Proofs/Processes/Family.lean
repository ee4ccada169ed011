import CommandShell.Children
import Mathlib.Data.List.Basic
set_option autoImplicit false

/-!
# A process and its children

What the system keeps about the children of one process: those that run, those that have ended and
wait to be collected, and what has been collected.  Children end at any time and in any order.  A
wait or a question for a child that has ended collects it, once; for a process that is no child, or
is none any more, both fail.  Nothing else is promised about what the system answers.

A routine can be shown to keep to a rule by going through its calls: what it ensures on a family
holds in every run from there on, whatever the children do in between.
-/

namespace CommandShell

open Machine (Pid Routine Status)

/-- The children of a process. -/
structure Family where
  /-- The children that have not been collected; what became of a child is none while it runs. -/
  children : List (Pid × Option Status) := []
  /-- What has been collected, in order. -/
  collected : List (Pid × Status) := []
  /-- The processes that were waited or asked for and were no children, in order. -/
  missed : List Pid := []

/-- Calls that start children, or wait or ask for them. -/
def Machine.Call.concernsChildren : Machine.Call → Bool
  | fork | wait .. | poll _ => true
  | _ => false

namespace Family

/-- The children that have not been collected. -/
def pids (f : Family) : List Pid := f.children.map Prod.fst

/-- A child is started. -/
def start (f : Family) (pid : Pid) : Family := { f with children := f.children ++ [(pid, none)] }

theorem pids_start (f : Family) (pid : Pid) : (f.start pid).pids = f.pids ++ [pid] := by
  simp [pids, start]

/-- A child ends. -/
def finish (f : Family) (pid : Pid) (status : Status) : Family :=
  { f with
    children := f.children.map fun child => if child.1 = pid then (pid, some status) else child }

/-- A child that has ended is collected. -/
def collect (f : Family) (pid : Pid) (status : Status) : Family :=
  { f with
    children := f.children.eraseP fun child => child.1 = pid
    collected := f.collected ++ [(pid, status)] }

/-- A process is waited or asked for and is no child. -/
def miss (f : Family) (pid : Pid) : Family := { f with missed := f.missed ++ [pid] }

/-- What the system may answer to a call, and what becomes of the family. -/
inductive Answers : Family → (call : Machine.Call) → call.Reply → Family → Prop where
  | forked {f pid} : pid ∉ f.pids → Answers f .fork (.ok (.parent pid)) (f.start pid)
  | forkRefused {f errno} : Answers f .fork (.error errno) f
  | waited {f pid status interruptible} : (pid, some status) ∈ f.children →
    Answers f (.wait pid interruptible) (.ok status) (f.collect pid status)
  | waitInterrupted {f pid} : Answers f (.wait pid true) (.error .interrupted) f
  | waitMissed {f pid interruptible} : pid ∉ f.pids →
    Answers f (.wait pid interruptible) (.error .noChild) (f.miss pid)
  | polled {f pid status} : (pid, some status) ∈ f.children →
    Answers f (.poll pid) (.ok (some status)) (f.collect pid status)
  | pollAlive {f pid} : (pid, none) ∈ f.children → Answers f (.poll pid) (.ok none) f
  | pollMissed {f pid} : pid ∉ f.pids →
    Answers f (.poll pid) (.error .noChild) (f.miss pid)
  | other {f call reply} : call.concernsChildren = false → Answers f call reply f

/-- One thing happens: a child ends, or the process makes its next call and is answered.  A process
that waits for a child makes no step before the child has ended. -/
inductive Step {α : Type} : Family → Routine α → Family → Routine α → Prop where
  | ended {f routine pid status} : (pid, none) ∈ f.children →
    Step f routine (f.finish pid status) routine
  | answered {f call reply f' next} : f.Answers call reply f' →
    Step f (.call call next) f' (next reply)

/-- Things happen one after another. -/
inductive Steps {α : Type} : Family → Routine α → Family → Routine α → Prop where
  | refl {f routine} : Steps f routine f routine
  | cons {f routine f₁ routine₁ f' routine'} : Step f routine f₁ routine₁ →
    Steps f₁ routine₁ f' routine' → Steps f routine f' routine'

/-! ## What is collected -/

/-- From one family to the other the given children have been collected, and no other was started,
collected or missed. -/
structure Gathers (f : Family) (entries : List (Pid × Status)) (f' : Family) : Prop where
  perm : f.pids.Perm (entries.map Prod.fst ++ f'.pids)
  collected_eq : f'.collected = f.collected ++ entries
  missed_eq : f'.missed = f.missed

namespace Gathers

variable {f f₁ f' : Family} {entries entries' : List (Pid × Status)} {pid : Pid}

theorem refl (f : Family) : Gathers f [] f := ⟨.refl _, (List.append_nil _).symm, rfl⟩

theorem trans (h : Gathers f entries f₁) (h' : Gathers f₁ entries' f') :
    Gathers f (entries ++ entries') f' where
  perm := by
    rw [List.map_append, List.append_assoc]
    exact h.perm.trans (h'.perm.append_left _)
  collected_eq := by rw [h'.collected_eq, h.collected_eq, List.append_assoc]
  missed_eq := h'.missed_eq.trans h.missed_eq

/-- That a child ends changes nothing about who is a child. -/
theorem finish (f : Family) (pid : Pid) (status : Status) : Gathers f [] (f.finish pid status) where
  perm := by
    have hpids : (f.finish pid status).pids = f.pids := by
      simp only [pids, Family.finish, List.map_map]
      refine List.map_congr_left fun child _ => ?_
      dsimp only [Function.comp_apply]
      split
      · rename_i heq
        exact heq.symm
      · rfl
    rw [hpids]
    exact .refl _
  collected_eq := (List.append_nil _).symm
  missed_eq := rfl

theorem collect (hchild : pid ∈ f.pids) (status : Status) :
    Gathers f [(pid, status)] (f.collect pid status) where
  perm := by
    have hpids : (f.collect pid status).pids = f.pids.erase pid := by
      simp only [pids, Family.collect]
      induction f.children with
      | nil => rfl
      | cons child children ih =>
        by_cases heq : child.1 = pid
        · simp [heq]
        · simp [heq, ih]
    rw [hpids]
    exact List.perm_cons_erase hchild
  collected_eq := rfl
  missed_eq := rfl

end Gathers

/-! ## Answers about children -/

section Answers

variable {f f' : Family} {pid : Pid}

/-- A wait for a child collects it. -/
theorem Answers.wait {reply : Except Errno Status} (h : f.Answers (.wait pid false) reply f')
    (hchild : pid ∈ f.pids) : ∃ status, reply = .ok status ∧ f.Gathers [(pid, status)] f' := by
  cases h with
  | waited => exact ⟨_, rfl, .collect hchild _⟩
  | waitMissed hmissed => exact absurd hchild hmissed
  | other hcall => cases hcall

/-- A child that is asked for has ended and is collected, or it still runs. -/
theorem Answers.poll {reply : Except Errno (Option Status)} (h : f.Answers (.poll pid) reply f')
    (hchild : pid ∈ f.pids) :
    (∃ status, reply = .ok (some status) ∧ f.Gathers [(pid, status)] f') ∨
      reply = .ok none ∧ f' = f := by
  cases h with
  | polled => exact .inl ⟨_, rfl, .collect hchild _⟩
  | pollAlive => exact .inr ⟨rfl, rfl⟩
  | pollMissed hmissed => exact absurd hchild hmissed
  | other hcall => cases hcall

/-- A fork is refused, or it starts a child. -/
theorem Answers.fork {reply : Except Errno Machine.ForkSide} (h : f.Answers .fork reply f') :
    (∃ errno, reply = .error errno ∧ f' = f) ∨
      ∃ pid, pid ∉ f.pids ∧ reply = .ok (.parent pid) ∧ f' = f.start pid := by
  cases h with
  | forked hfresh => exact .inr ⟨_, hfresh, rfl, rfl⟩
  | forkRefused => exact .inl ⟨_, rfl, rfl⟩
  | other hcall => cases hcall

theorem Answers.eq_of_other {call : Machine.Call} {reply : call.Reply} (h : f.Answers call reply f')
    (hcall : call.concernsChildren = false) : f' = f := by
  cases h <;> first | rfl | cases hcall

end Answers

/-! ## What a routine ensures -/

/-- Whatever the children do and the system answers, the routine waits and asks for children only
and does not end its process, and what it comes to is as promised. -/
def Ensures {α : Type} (post : α → Family → Prop) : Routine α → Family → Prop
  | .done result, f => f.missed = [] ∧ ∀ f', f.Gathers [] f' → post result f'
  | .exit _, _ => False
  | .call call next, f => f.missed = [] ∧ ∀ f₁, f.Gathers [] f₁ → ∀ reply f',
      f₁.Answers call reply f' → Ensures post (next reply) f'

namespace Ensures

variable {α β : Type} {post : α → Family → Prop} {routine routine' : Routine α} {f f' : Family}

theorem missed_eq (h : Ensures post routine f) : f.missed = [] := by
  cases routine with
  | done => exact h.1
  | exit => exact h.elim
  | call => exact h.1

/-- The end of a child breaks no promise. -/
theorem gathers (h : Ensures post routine f) (hf : f.Gathers [] f') : Ensures post routine f' := by
  have hmissed : f'.missed = [] := hf.missed_eq.trans h.missed_eq
  cases routine with
  | done => exact ⟨hmissed, fun f'' hf' => h.2 f'' (hf.trans hf')⟩
  | exit => exact h
  | call => exact ⟨hmissed, fun f'' hf' => h.2 f'' (hf.trans hf')⟩

theorem step (h : Ensures post routine f) (hstep : Step f routine f' routine') :
    Ensures post routine' f' := by
  cases hstep with
  | ended => exact h.gathers (.finish f _ _)
  | answered hanswer => exact h.2 f (.refl f) _ _ hanswer

/-- What is promised at the beginning is promised at every moment of a run. -/
theorem steps (h : Ensures post routine f) (hsteps : Steps f routine f' routine') :
    Ensures post routine' f' := by
  induction hsteps with
  | refl => exact h
  | cons hstep _ ih => exact ih (h.step hstep)

theorem result {a : α} (h : Ensures post (.done a) f) : post a f := h.2 f (.refl f)

theorem mono {post' : α → Family → Prop} (h : Ensures post routine f)
    (himplies : ∀ a f', f'.missed = [] → post a f' → post' a f') : Ensures post' routine f := by
  induction routine generalizing f with
  | done result =>
    exact ⟨h.1, fun f' hf => himplies result f' (hf.missed_eq.trans h.1) (h.2 f' hf)⟩
  | exit => exact h
  | call call next ih => exact ⟨h.1, fun f₁ hf reply f' hanswer => ih _ (h.2 f₁ hf _ _ hanswer)⟩

theorem bind {post : β → Family → Prop} {next : α → Routine β}
    (h : Ensures (fun a f' => Ensures post (next a) f') routine f) :
    Ensures post (routine.bind next) f := by
  induction routine generalizing f with
  | done result => exact h.result
  | exit => exact h
  | call call next' ih => exact ⟨h.1, fun f₁ hf reply f' hanswer => ih _ (h.2 f₁ hf _ _ hanswer)⟩

/-- A result whose promise no end of a child can break. -/
theorem done {a : α} (hmissed : f.missed = []) (h : ∀ f', f.Gathers [] f' → post a f') :
    Ensures post (.done a) f := ⟨hmissed, h⟩

/-- A call keeps its promise if every answer does. -/
theorem call {call : Machine.Call} {next : call.Reply → Routine α} (hmissed : f.missed = [])
    (h : ∀ f₁ reply f', f.Gathers [] f₁ → f₁.Answers call reply f' →
      Ensures post (next reply) f') : Ensures post (.call call next) f :=
  ⟨hmissed, fun f₁ hf reply f' hanswer => h f₁ reply f' hf hanswer⟩

end Ensures

end Family

end CommandShell
