import CommandShell.Proofs.Processes.Family
import CommandShell.Proofs.Processes.Running
set_option autoImplicit false

/-!
# Children are accounted for

An interpreter has its children in two places, the table of those in the background and the list of
the subshells; one that it waits for is in neither.  Whatever it is asked to do, and in whatever
order children end meanwhile, between two calls the children in these places are those that the
system has for it, each of them once.  So it never waits for a process that is no child any more,
and what it drops from either place has been collected.
-/

namespace CommandShell

open Machine (Pid Routine Status)

namespace Family

variable {α β : Type} {s : Interpreter} {f f' : Family}

/-! ## Actions of an interpreter -/

theorem Ensures.bindM {x : InterpreterM α} {next : α → InterpreterM β}
    {post : β × Interpreter → Family → Prop}
    (h : Ensures (fun ran f' => Ensures post ((next ran.1).run ran.2) f') (x.run s) f) :
    Ensures post ((x >>= next).run s) f := h.bind

theorem Ensures.bindE {x : ExceptT ExecError InterpreterM α}
    {next : α → ExceptT ExecError InterpreterM β}
    {post : Except ExecError β × Interpreter → Family → Prop}
    (h : Ensures (fun ran f' => match ran with
        | (.ok a, s₁) => Ensures post (s₁.routine (next a)) f'
        | (.error e, s₁) => Ensures post (.done (.error e, s₁)) f') (s.routine x) f) :
    Ensures post (s.routine (x >>= next)) f := by
  rw [Interpreter.routine_bind]
  refine Ensures.bind (h.mono fun ran f' _ hran => ?_)
  rcases ran with ⟨_ | _, _⟩ <;> exact hran

/-- An action that has nothing to do with children and leaves the interpreter as it is. -/
def Quiet (x : InterpreterM α) : Prop :=
  ∀ (s : Interpreter) (f : Family), f.missed = [] →
    Ensures (fun ran f' => ran.2 = s ∧ f.Gathers [] f') (x.run s) f

namespace Quiet

theorem pure (a : α) : Quiet (pure a) := fun _ _ hmissed => ⟨hmissed, fun _ hf => ⟨rfl, hf⟩⟩

theorem get : Quiet get := fun _ _ hmissed => ⟨hmissed, fun _ hf => ⟨rfl, hf⟩⟩

theorem bind {x : InterpreterM α} {next : α → InterpreterM β} (h : Quiet x)
    (hnext : ∀ a, Quiet (next a)) : Quiet (x >>= next) := by
  intro s f hmissed
  refine .bindM ((h s f hmissed).mono fun ran f₁ hmissed₁ hran => ?_)
  obtain ⟨hs, hf⟩ := hran
  rw [hs]
  exact (hnext ran.1 s f₁ hmissed₁).mono fun ran' f' _ hran' => ⟨hran'.1, hf.trans hran'.2⟩

theorem ite {c : Prop} [Decidable c] {x y : InterpreterM α} (hx : Quiet x) (hy : Quiet y) :
    Quiet (if c then x else y) := by
  split
  · exact hx
  · exact hy

theorem call {call : Machine.Call} (h : call.concernsChildren = false) :
    Quiet (Interpreter.call call) := by
  refine fun s f hmissed => .call hmissed fun f₁ reply f' hf hanswer => ?_
  obtain rfl := hanswer.eq_of_other h
  exact .done (hf.missed_eq.trans hmissed) fun f'' hf' => ⟨rfl, hf.trans hf'⟩

theorem emit (emissions : List Emission) : Quiet (Interpreter.emit emissions) := by
  induction emissions with
  | nil => exact .pure ()
  | cons emission rest ih =>
    cases emission with
    | line text => exact .bind (.call rfl) fun _ => ih
    | record record => exact .bind (.call rfl) fun _ => ih

theorem firstProgram (paths : List String) : Quiet (Interpreter.firstProgram paths) := by
  induction paths with
  | nil => exact .pure none
  | cons path rest ih =>
    unfold Interpreter.firstProgram
    split
    · exact ih
    · refine .bind (.call rfl) fun info => ?_
      cases info with
      | error errno => exact ih
      | ok info => exact .ite (.pure (some path)) ih

theorem resolve (program : String) : Quiet (Interpreter.resolve program) := by
  unfold Interpreter.resolve
  split
  · exact .pure (some program)
  · refine .bind .get fun s => ?_
    split
    · exact .bind (.emit _) fun _ => .pure none
    · exact .firstProgram _

/-- What follows a quiet action starts where that has started. -/
theorem bind_ensures {x : InterpreterM α} {next : α → ExceptT ExecError InterpreterM β}
    {post : Except ExecError β × Interpreter → Family → Prop} (h : Quiet x)
    (hmissed : f.missed = [])
    (hnext : ∀ a f', f.Gathers [] f' → f'.missed = [] → Ensures post (s.routine (next a)) f') :
    Ensures post (s.routine (liftM x >>= next)) f := by
  rw [Interpreter.routine_lift_bind]
  refine Ensures.bind ((h s f hmissed).mono fun ran f₁ hmissed₁ hran => ?_)
  rw [hran.1]
  exact hnext ran.1 f₁ hran.2 hmissed₁

end Quiet

/-- An action that may fail, but not in waiting for a child; it has nothing to do with children and
leaves the interpreter as it is. -/
def QuietE (x : ExceptT ExecError InterpreterM α) : Prop :=
  ∀ (s : Interpreter) (f : Family), f.missed = [] →
    Ensures (fun ran f' => ran.2 = s ∧ f.Gathers [] f' ∧
      ∀ program errno, ran.1 ≠ .error (.wait program errno)) (s.routine x) f

namespace QuietE

theorem pure (a : α) : QuietE (pure a) :=
  fun _ _ hmissed => ⟨hmissed, fun _ hf => ⟨rfl, hf, nofun⟩⟩

theorem throw {e : ExecError} (h : ∀ program errno, e ≠ .wait program errno) :
    QuietE (throw e : ExceptT ExecError InterpreterM α) :=
  fun _ _ hmissed => ⟨hmissed, fun _ hf => ⟨rfl, hf, fun program errno heq =>
    h program errno (Except.error.inj heq)⟩⟩

theorem checkWords (words : List String) : QuietE (Interpreter.checkWords words) := by
  induction words with
  | nil => exact .pure ()
  | cons word rest ih =>
    unfold Interpreter.checkWords
    split
    · exact .throw (by simp)
    · exact ih

theorem activeDescriptor (stream : Option StreamId) :
    QuietE (Interpreter.activeDescriptor stream) := by
  intro s f hmissed
  cases stream with
  | none => exact pure none s f hmissed
  | some id =>
    cases hget : s.streams.get? id with
    | some stream =>
      rw [Interpreter.routine_activeDescriptor_some hget]
      exact pure (some stream.handle) s f hmissed
    | none =>
      rw [Interpreter.routine_activeDescriptor_none hget]
      exact throw (by simp) s f hmissed

/-- What follows a quiet action starts where that has started. -/
theorem bind_ensures {x : ExceptT ExecError InterpreterM α}
    {next : α → ExceptT ExecError InterpreterM β}
    {post : Except ExecError β × Interpreter → Family → Prop} (h : QuietE x)
    (hmissed : f.missed = [])
    (herror : ∀ e f', f.Gathers [] f' → (∀ program errno, e ≠ .wait program errno) →
      post (.error e, s) f')
    (hnext : ∀ a f', f.Gathers [] f' → f'.missed = [] → Ensures post (s.routine (next a)) f') :
    Ensures post (s.routine (x >>= next)) f := by
  refine .bindE ((h s f hmissed).mono fun ran f₁ hmissed₁ hran => ?_)
  obtain ⟨result, s₁⟩ := ran
  obtain ⟨rfl, hf, hwait⟩ := hran
  cases result with
  | ok a => exact hnext a f₁ hf hmissed₁
  | error e =>
    exact .done hmissed₁ fun f' hf' => herror e f' (hf.trans hf') fun program errno heq =>
      hwait program errno (congrArg _ heq)

end QuietE

/-! ## Waiting for a child -/

/-- What becomes of waiting for a program that ends in a way. -/
def verdict (program : String) : Status → Except ExecError Int
  | .exited code => .ok code
  | .signaled signal =>
    if signal.name?.isSome then .error (.abnormalTermination program signal)
    else .error (.wait program .invalidArgument)

/-- Only a signal without a name lets a wait that has collected its child fail as a wait. -/
theorem verdict_eq_wait {program program' : String} {status : Status} {errno : Errno}
    (h : verdict program status = .error (.wait program' errno)) :
    program' = program ∧ errno = .invalidArgument ∧
      ∃ signal, status = .signaled signal ∧ signal.name? = none := by
  cases status with
  | exited code => cases h
  | signaled signal =>
    rw [verdict] at h
    split at h
    · cases h
    · rename_i hname
      cases h
      exact ⟨rfl, rfl, signal, rfl, Option.not_isSome_iff_eq_none.1 hname⟩

theorem ensures_await (child : Child) (hmissed : f.missed = []) (hchild : child.pid ∈ f.pids) :
    Ensures (fun result f' => ∃ status, result = verdict child.program status ∧
      f.Gathers [(child.pid, status)] f') child.await.run f := by
  refine .call hmissed fun f₁ reply f₂ hf hanswer => ?_
  obtain ⟨status, rfl, hcollected⟩ := hanswer.wait ((hf.perm.mem_iff).1 hchild)
  have hgathers := hf.trans hcollected
  have hresult : ∀ f', f₂.Gathers [] f' → f.Gathers [(child.pid, status)] f' :=
    fun f' hf' => hgathers.trans hf'
  have hmissed₂ : f₂.missed = [] := hgathers.missed_eq.trans hmissed
  cases status with
  | exited code => exact .done hmissed₂ fun f' hf' => ⟨_, rfl, hresult f' hf'⟩
  | signaled signal =>
    show Ensures _ (ExceptT.run (if signal.name?.isSome then _ else _)) f₂
    split
    · rename_i hname
      exact .done hmissed₂ fun f' hf' => ⟨_, by rw [verdict, if_pos hname], hresult f' hf'⟩
    · rename_i hname
      exact .done hmissed₂ fun f' hf' => ⟨_, by rw [verdict, if_neg hname], hresult f' hf'⟩

/-- Asking children collects those that have ended, and says which have not. -/
theorem ensures_stillRunning {children : List Child} {others : List Pid} (hmissed : f.missed = [])
    (hchildren : f.pids.Perm (children.map Child.pid ++ others)) :
    Ensures (fun running f' => ∃ entries, f.Gathers entries f' ∧ running.Sublist children ∧
      (children.map Child.pid).Perm (entries.map Prod.fst ++ running.map Child.pid))
      (ChildTable.stillRunning children) f := by
  induction children generalizing f others with
  | nil => exact .done hmissed fun f' hf => ⟨[], hf, .slnil, .refl _⟩
  | cons child rest ih =>
    have hchild : child.pid ∈ f.pids := hchildren.mem_iff.2 (List.mem_cons_self ..)
    rw [ChildTable.stillRunning_cons]
    refine .call hmissed fun f₁ reply f₂ hf hanswer => ?_
    refine Ensures.bind ?_
    rcases hanswer.poll ((hf.perm.mem_iff).1 hchild) with ⟨status, rfl, hcollected⟩ | ⟨rfl, rfl⟩
    · have hgathers : f.Gathers [(child.pid, status)] f₂ := hf.trans hcollected
      have hmissed₂ : f₂.missed = [] := hgathers.missed_eq.trans hmissed
      have hrest : f₂.pids.Perm (rest.map Child.pid ++ others) :=
        List.Perm.cons_inv (hgathers.perm.symm.trans hchildren)
      refine (ih hmissed₂ hrest).mono fun running f₃ hmissed₃ hran => ?_
      refine Ensures.done hmissed₃ fun f' hf' => ?_
      obtain ⟨entries, hentries, hsublist, hperm⟩ := hran
      have hall := (hgathers.trans hentries).trans hf'
      rw [List.append_nil] at hall
      exact ⟨_, hall, hsublist.cons child, hperm.cons child.pid⟩
    · have hmissed₂ : f₂.missed = [] := hf.missed_eq.trans hmissed
      have hrest : f₂.pids.Perm (rest.map Child.pid ++ (child.pid :: others)) :=
        (hf.perm.symm.trans hchildren).trans List.perm_middle.symm
      refine (ih hmissed₂ hrest).mono fun running f₃ hmissed₃ hran => ?_
      refine Ensures.done hmissed₃ fun f' hf' => ?_
      obtain ⟨entries, hentries, hsublist, hperm⟩ := hran
      have hall := (hf.trans hentries).trans hf'
      rw [List.nil_append, List.append_nil] at hall
      exact ⟨entries, hall, hsublist.cons_cons child,
        (hperm.cons child.pid).trans List.perm_middle.symm⟩

/-- A subshell that is waited for is collected; that it ended well or not is what may fail. -/
theorem ensures_collectSubshell {subshell : Subshell} (hmissed : f.missed = [])
    (hchild : subshell.pid ∈ f.pids) :
    Ensures (fun ran f' => ran.2 = s ∧ ∃ status, f.Gathers [(subshell.pid, status)] f' ∧
      ∀ e, ran.1 = .error e → verdict "subshell" status = .error e)
      (s.routine (Interpreter.collectSubshell subshell)) f := by
  have hawait : s.routine (ExceptT.mk (liftM (Child.await ⟨subshell.pid, "subshell"⟩).run))
      = (Child.await ⟨subshell.pid, "subshell"⟩).run.bind fun result => .done (result, s) := rfl
  unfold Interpreter.collectSubshell
  rw [Interpreter.routine_attempt_bind, hawait, Routine.bind_assoc]
  refine Ensures.bind ((ensures_await ⟨subshell.pid, "subshell"⟩ hmissed hchild).mono
    fun result f₁ hmissed₁ hran => ?_)
  obtain ⟨status, hresult, hgathers⟩ := hran
  have hcollected : ∀ f', f₁.Gathers [] f' → f.Gathers [(subshell.pid, status)] f' :=
    fun f' hf => hgathers.trans hf
  cases result with
  | error e =>
    refine Quiet.bind_ensures (.call rfl) hmissed₁ fun _ f₂ hf hmissed₂ => ?_
    exact .done hmissed₂ fun f' hf' => ⟨rfl, status, hcollected f' (hf.trans hf'), fun e' he => by
      cases he
      exact hresult.symm⟩
  | ok code =>
    refine Quiet.bind_ensures (.call rfl) hmissed₁ fun byte f₂ hf hmissed₂ => ?_
    refine Quiet.bind_ensures (.call rfl) hmissed₂ fun _ f₃ hf' hmissed₃ => ?_
    exact .done hmissed₃ fun f' hf'' =>
      ⟨rfl, status, hcollected f' ((hf.trans hf').trans hf''), fun _ he => by cases he⟩

/-- All subshells are collected in order, also after one whose wait has failed. -/
theorem ensures_collectAll {subshells : List Subshell} {others : List Pid} (hmissed : f.missed = [])
    (hchildren : f.pids.Perm (subshells.map Subshell.pid ++ others)) :
    Ensures (fun ran f' => ran.2 = s ∧ ∃ entries, f.Gathers entries f' ∧
      entries.map Prod.fst = subshells.map Subshell.pid ∧
      ∀ e, ran.1 = .error e → ∃ entry ∈ entries, verdict "subshell" entry.2 = .error e)
      (s.routine (Interpreter.collectAll subshells)) f := by
  induction subshells generalizing f others with
  | nil => exact .done hmissed fun f' hf => ⟨rfl, [], hf, rfl, fun _ he => by cases he⟩
  | cons subshell rest ih =>
    have hchild : subshell.pid ∈ f.pids := hchildren.mem_iff.2 (List.mem_cons_self ..)
    unfold Interpreter.collectAll
    rw [Interpreter.routine_attempt_bind]
    refine Ensures.bind ((ensures_collectSubshell hmissed hchild).mono
      fun first f₁ hmissed₁ hran => ?_)
    obtain ⟨result, s₁⟩ := first
    obtain ⟨rfl, status, hfirst, hfails⟩ := hran
    have hrest : f₁.pids.Perm (rest.map Subshell.pid ++ others) :=
      List.Perm.cons_inv (hfirst.perm.symm.trans hchildren)
    rw [Interpreter.routine_attempt_bind]
    refine Ensures.bind ((ih hmissed₁ hrest).mono fun second f₂ hmissed₂ hran => ?_)
    obtain ⟨result', s₂⟩ := second
    obtain ⟨rfl, entries, hentries, hpids, hfails'⟩ := hran
    obtain ⟨ended, hended, hfirstFails⟩ := s₂.routine_firstExit result result'
    refine hended ▸ .done hmissed₂ fun f' hf => ⟨rfl, (subshell.pid, status) :: entries, ?_, ?_, ?_⟩
    · have hall := (hfirst.trans hentries).trans hf
      rwa [List.append_nil] at hall
    · rw [List.map_cons, hpids, List.map_cons]
    · intro e he
      rcases hfirstFails e he with hfailed | hfailed
      · exact ⟨_, List.mem_cons_self .., hfails e hfailed⟩
      · obtain ⟨entry, hmem, hverdict⟩ := hfails' e hfailed
        exact ⟨entry, List.mem_cons_of_mem _ hmem, hverdict⟩

/-! ## The accounts -/

/-- The children that the system has are those in the table and the subshells, each of them once,
and no process that is no child has been waited or asked for. -/
structure Accounts (f : Family) (s : Interpreter) : Prop where
  perm : f.pids.Perm (s.children.running.map Child.pid ++ s.subshells.map Subshell.pid)
  nodup : f.pids.Nodup
  missed_eq : f.missed = []

namespace Accounts

theorem gathers (h : f.Accounts s) (hf : f.Gathers [] f') : f'.Accounts s where
  perm := hf.perm.symm.trans h.perm
  nodup := hf.perm.nodup_iff.1 h.nodup
  missed_eq := hf.missed_eq.trans h.missed_eq

/-- What else the interpreter keeps is not accounted for. -/
theorem of_eq {s' : Interpreter} (h : f.Accounts s) (hchildren : s'.children = s.children)
    (hsubshells : s'.subshells = s.subshells) : f.Accounts s' where
  perm := by rw [hchildren, hsubshells]; exact h.perm
  nodup := h.nodup
  missed_eq := h.missed_eq

/-- A new child goes to one of the two places. -/
theorem start {s' : Interpreter} (h : f.Accounts s) {pid : Pid} (hfresh : pid ∉ f.pids)
    (hplaced : (s'.children.running.map Child.pid ++ s'.subshells.map Subshell.pid).Perm
      (pid :: (s.children.running.map Child.pid ++ s.subshells.map Subshell.pid))) :
    (f.start pid).Accounts s' where
  perm := by
    rw [pids_start]
    exact (List.perm_append_singleton pid f.pids).trans ((h.perm.cons pid).trans hplaced.symm)
  nodup := by
    rw [pids_start]
    exact (List.perm_append_singleton pid f.pids).nodup_iff.2 (List.nodup_cons.2 ⟨hfresh, h.nodup⟩)
  missed_eq := h.missed_eq

/-- A new child goes to the table. -/
theorem track (h : f.Accounts s) (child : Child) (hfresh : child.pid ∉ f.pids) :
    (f.start child.pid).Accounts { s with children := s.children.track child } := by
  refine h.start hfresh ?_
  simp only [ChildTable.track, List.map_append, List.map_singleton, List.append_assoc]
  exact List.perm_middle

/-- What is collected leaves the places. -/
theorem gathered {s' : Interpreter} {entries : List (Pid × Status)} (h : f.Accounts s)
    (hgathers : f.Gathers entries f')
    (hplaced : f.pids.Perm (entries.map Prod.fst ++
      (s'.children.running.map Child.pid ++ s'.subshells.map Subshell.pid))) : f'.Accounts s' where
  perm := (List.perm_append_left_iff _).1 (hgathers.perm.symm.trans hplaced)
  nodup := (List.nodup_append.1 (hgathers.perm.nodup_iff.1 h.nodup)).2.1
  missed_eq := hgathers.missed_eq.trans h.missed_eq

end Accounts

/-- A failure to wait for a child is told only of one that has been collected, and was ended by a
signal without a name. -/
def WaitsWell (result : Except ExecError α) (entries : List (Pid × Status)) : Prop :=
  ∀ program errno, result = .error (.wait program errno) → errno = .invalidArgument ∧
    ∃ pid signal, (pid, .signaled signal) ∈ entries ∧ signal.name? = none

theorem WaitsWell.of_error {e : ExecError} {entries : List (Pid × Status)}
    (h : ∀ program errno, e ≠ .wait program errno) :
    WaitsWell (.error e : Except ExecError α) entries :=
  fun program errno heq => absurd (Except.error.inj heq) (h program errno)

theorem WaitsWell.of_verdict {result : Except ExecError α} {entries : List (Pid × Status)}
    {program : String}
    (h : ∀ e, result = .error e → ∃ entry ∈ entries, verdict program entry.2 = .error e) :
    WaitsWell result entries := by
  rintro program' errno rfl
  obtain ⟨⟨pid, status⟩, hmem, hverdict⟩ := h _ rfl
  obtain ⟨-, rfl, signal, rfl, hname⟩ := verdict_eq_wait hverdict
  exact ⟨rfl, pid, signal, hmem, hname⟩

end Family

/-! ## What an interpreter is asked to do about children -/

/-- A call of an interpreter that is about children. -/
inductive Operation where
  | spawn (program : String) (arguments : List String) (mode : WaitMode)
  | subshell (body : InterpreterM Outcome)
  | collect (keep : Nat)
  | reap

namespace Operation

/-- What an operation gives. -/
@[reducible] def Answer : Operation → Type
  | spawn .. => Except ExecError Int
  | subshell _ => Except ExecError Unit
  | collect _ => Except ExecError (Option Int)
  | reap => Nat

/-- What an operation does. -/
def run : (op : Operation) → InterpreterM op.Answer
  | spawn program arguments mode => (Interpreter.spawn program arguments mode).run
  | subshell body => (Interpreter.spawnSubshell body).run
  | collect keep => (Interpreter.collectSubshells keep).run
  | reap => Interpreter.reap

/-- What an operation promises about the children that it has collected.  A program in the
background and a subshell are not waited for.  All subshells after the first ones are collected and
given up, also where waiting for one of them fails.  The children that are given up as ended are
those that have been collected, and as many as is said. -/
def Promises (s : Interpreter) :
    (op : Operation) → op.Answer × Interpreter → List (Pid × Status) → Prop
  | spawn _ _ mode, (result, s'), entries =>
    (mode = .background → entries = []) ∧ Family.WaitsWell result entries ∧
      s'.subshells = s.subshells
  | subshell _, (result, s'), entries =>
    entries = [] ∧ Family.WaitsWell result entries ∧ s'.children = s.children
  | collect keep, (result, s'), entries =>
    entries.map Prod.fst = (s.subshells.drop keep).map Subshell.pid ∧
      Family.WaitsWell result entries ∧ s'.subshells = s.subshells.take keep ∧
      s'.children = s.children
  | reap, (count, s'), entries =>
    count = entries.length ∧ s'.children.running.Sublist s.children.running ∧
      count + s'.children.running.length = s.children.running.length ∧
      (s.children.running.map Child.pid).Perm
        (entries.map Prod.fst ++ s'.children.running.map Child.pid) ∧
      s'.subshells = s.subshells

/-- After an operation the accounts are right, and it has kept its promises. -/
def Keeps (s : Interpreter) (f : Family) (op : Operation) (ran : op.Answer × Interpreter)
    (f' : Family) : Prop :=
  f'.Accounts ran.2 ∧ ∃ entries, f'.collected = f.collected ++ entries ∧ op.Promises s ran entries

variable {s : Interpreter} {f f' : Family}

/-- An operation that has started and collected nothing. -/
theorem Keeps.unchanged {op : Operation} {answer : op.Answer} (h : f.Accounts s)
    (hf : f.Gathers [] f') (hpromises : op.Promises s (answer, s) []) :
    op.Keeps s f (answer, s) f' :=
  ⟨h.gathers hf, [], hf.collected_eq, hpromises⟩

/-- A program in the background is a new child in the table, one that is waited for has been
collected when the answer comes. -/
theorem ensures_spawn (h : f.Accounts s) (program : String) (arguments : List String)
    (mode : WaitMode) :
    f.Ensures ((Operation.spawn program arguments mode).Keeps s f)
      (s.routine (Interpreter.spawn program arguments mode)) := by
  unfold Interpreter.spawn
  refine Family.Quiet.bind_ensures (.resolve program) h.missed_eq fun path f₁ hf₁ hmissed₁ => ?_
  cases path with
  | none =>
    refine Family.Quiet.bind_ensures (.emit _) hmissed₁ fun _ f₂ hf₂ hmissed₂ => ?_
    exact .done hmissed₂ fun f' hf' => .unchanged h ((hf₁.trans hf₂).trans hf')
      ⟨fun _ => rfl, nofun, rfl⟩
  | some path =>
    -- Until the fork nothing has happened, whatever fails.
    have hfails : ∀ {f₂ : Family} (e : ExecError) (f' : Family), f.Gathers [] f₂ →
        f₂.Gathers [] f' → (∀ program errno, e ≠ .wait program errno) →
        (Operation.spawn program arguments mode).Keeps s f (.error e, s) f' := by
      intro f₂ e f' hf hf' hwait
      exact .unchanged h (hf.trans hf') ⟨fun _ => rfl, .of_error hwait, rfl⟩
    refine Family.QuietE.bind_ensures (.checkWords _) hmissed₁
      (fun e f' hf' => hfails e f' hf₁ hf') fun _ f₂ hf₂ hmissed₂ => ?_
    have hf₂ := hf₁.trans hf₂
    rw [Interpreter.routine_get_bind]
    refine Family.QuietE.bind_ensures (.activeDescriptor _) hmissed₂
      (fun e f' hf' => hfails e f' hf₂ hf') fun input f₃ hf₃ hmissed₃ => ?_
    have hf₃ := hf₂.trans hf₃
    rw [Interpreter.routine_get_bind]
    refine Family.QuietE.bind_ensures (.activeDescriptor _) hmissed₃
      (fun e f' hf' => hfails e f' hf₃ hf') fun output f₄ hf₄ hmissed₄ => ?_
    have hf₄ := hf₃.trans hf₄
    rw [Interpreter.routine_call_bind]
    refine .call hmissed₄ fun f₅ reply f₆ hf₅ hanswer => ?_
    have hf₅ := hf₄.trans hf₅
    obtain ⟨errno, rfl, rfl⟩ | ⟨pid, hfresh, rfl, rfl⟩ := hanswer.fork
    · exact .done (hf₅.missed_eq.trans h.missed_eq) fun f' hf' =>
        hfails (.fork errno) f' hf₅ hf' nofun
    · have hmissed₆ : (f₅.start pid).missed = [] := hf₅.missed_eq.trans h.missed_eq
      have hcollected : (f₅.start pid).collected = f.collected :=
        hf₅.collected_eq.trans (List.append_nil _)
      cases mode with
      | background =>
        refine .done hmissed₆ fun f' hf' => ⟨?_, [], ?_, fun _ => rfl, nofun, rfl⟩
        · exact ((h.gathers hf₅).track ⟨pid, program⟩ hfresh).gathers hf'
        · rw [hf'.collected_eq, hcollected]
      | wait =>
        have hawait : ∀ child : Child, s.routine (ExceptT.mk (liftM child.await.run))
            = child.await.run.bind fun result => .done (result, s) := fun _ => rfl
        have hchild : pid ∈ (f₅.start pid).pids := by
          rw [Family.pids_start]
          exact List.mem_append_right _ (List.mem_singleton_self pid)
        refine (hawait ⟨pid, program⟩).symm ▸ Family.Ensures.bind
          ((Family.ensures_await ⟨pid, program⟩ hmissed₆ hchild).mono
            fun result f₆ hmissed₇ hran => ?_)
        obtain ⟨status, rfl, hgathers⟩ := hran
        -- What was started has been collected again, so that it was in no place meanwhile.
        have hpids : (f₅.start pid).pids.Perm ([pid] ++
            (s.children.running.map Child.pid ++ s.subshells.map Subshell.pid)) := by
          rw [Family.pids_start]
          exact List.perm_append_comm.trans ((h.gathers hf₅).perm.append_left [pid])
        have haccounts : f₆.Accounts s := .gathered
          ((h.gathers hf₅).track ⟨pid, program⟩ hfresh) hgathers hpids
        refine .done hmissed₇ fun f' hf' =>
          ⟨haccounts.gathers hf', [(pid, status)], ?_, nofun, ?_, rfl⟩
        · rw [hf'.collected_eq, List.append_nil, hgathers.collected_eq, hcollected]
        · exact .of_verdict fun e he => ⟨_, List.mem_singleton_self _, he⟩

/-- A subshell is a new child at the end of the list. -/
theorem ensures_subshell (h : f.Accounts s) (body : InterpreterM Outcome) :
    f.Ensures ((Operation.subshell body).Keeps s f)
      (s.routine (Interpreter.spawnSubshell body)) := by
  have hfails : ∀ {f₁ : Family} (e : ExecError) (f' : Family), f.Gathers [] f₁ →
      f₁.Gathers [] f' → (∀ program errno, e ≠ .wait program errno) →
      (Operation.subshell body).Keeps s f (.error e, s) f' := by
    intro f₁ e f' hf hf' hwait
    exact .unchanged h (hf.trans hf') ⟨rfl, .of_error hwait, rfl⟩
  unfold Interpreter.spawnSubshell
  rw [Interpreter.routine_get_bind]
  refine Family.QuietE.bind_ensures (.activeDescriptor _) h.missed_eq
    (fun e f' hf' => hfails e f' (.refl f) hf') fun input f₁ hf₁ hmissed₁ => ?_
  rw [Interpreter.routine_get_bind]
  refine Family.QuietE.bind_ensures (.activeDescriptor _) hmissed₁
    (fun e f' hf' => hfails e f' hf₁ hf') fun output f₂ hf₂ hmissed₂ => ?_
  have hf₂ := hf₁.trans hf₂
  refine Family.Quiet.bind_ensures (.call rfl) hmissed₂ fun pipe f₃ hf₃ hmissed₃ => ?_
  have hf₃ := hf₂.trans hf₃
  cases pipe with
  | error errno => exact .done hmissed₃ fun f' hf' => hfails (.pipe errno) f' hf₃ hf' nofun
  | ok ends =>
    dsimp only
    rw [Interpreter.routine_call_bind]
    refine .call hmissed₃ fun f₄ reply f₅ hf₄ hanswer => ?_
    have hf₄ := hf₃.trans hf₄
    obtain ⟨errno, rfl, rfl⟩ | ⟨pid, hfresh, rfl, rfl⟩ := hanswer.fork
    · exact .done (hf₄.missed_eq.trans h.missed_eq) fun f' hf' =>
        hfails (.fork errno) f' hf₄ hf' nofun
    · have hmissed₅ : (f₄.start pid).missed = [] := hf₄.missed_eq.trans h.missed_eq
      refine Family.Quiet.bind_ensures (.call rfl) hmissed₅ fun _ f₅ hf₅ hmissed₅ => ?_
      refine .done hmissed₅ fun f' hf' => ⟨?_, [], ?_, rfl, nofun, rfl⟩
      · refine Family.Accounts.gathers ((h.gathers hf₄).start hfresh ?_) (hf₅.trans hf')
        simp only [List.map_append, List.map_singleton, ← List.append_assoc]
        exact List.perm_append_singleton pid _
      · rw [hf'.collected_eq, hf₅.collected_eq, List.append_nil, List.append_nil]
        exact hf₄.collected_eq

/-- Collecting leaves nothing of the subshells that it is about. -/
theorem ensures_collect (h : f.Accounts s) (keep : Nat) :
    f.Ensures ((Operation.collect keep).Keeps s f)
      (s.routine (Interpreter.collectSubshells keep)) := by
  have hcollect : s.routine (Interpreter.collectSubshells keep)
      = { s with subshells := s.subshells.take keep }.routine
        (Interpreter.collectAll (s.subshells.drop keep)) := rfl
  have hchildren : f.pids.Perm ((s.subshells.drop keep).map Subshell.pid
      ++ (s.children.running.map Child.pid ++ (s.subshells.take keep).map Subshell.pid)) := by
    have hsplit : s.subshells.map Subshell.pid = (s.subshells.take keep).map Subshell.pid
        ++ (s.subshells.drop keep).map Subshell.pid := by
      rw [← List.map_append, List.take_append_drop]
    refine h.perm.trans ?_
    rw [hsplit, ← List.append_assoc]
    exact List.perm_append_comm
  rw [hcollect]
  refine (Family.ensures_collectAll h.missed_eq hchildren).mono fun ran f' _ hran => ?_
  obtain ⟨result, s'⟩ := ran
  obtain ⟨rfl, entries, hgathers, hpids, hfails⟩ := hran
  exact ⟨h.gathered hgathers (hpids ▸ hchildren), entries, hgathers.collected_eq, hpids,
    .of_verdict hfails, rfl, rfl⟩

/-- Looking at the children in the table collects those that have ended. -/
theorem ensures_reap (h : f.Accounts s) :
    f.Ensures (Operation.reap.Keeps s f) (Interpreter.reap.run s) := by
  have hreap : Interpreter.reap.run s = (ChildTable.stillRunning s.children.running).bind
      fun running => .done (s.children.running.length - running.length,
        { s with children := ⟨running⟩ }) := by
    show (((ChildTable.stillRunning s.children.running).bind _).bind _).bind _ = _
    rw [Routine.bind_assoc, Routine.bind_assoc]
    rfl
  rw [hreap]
  refine Family.Ensures.bind ((Family.ensures_stillRunning h.missed_eq h.perm).mono
    fun running f₁ hmissed₁ hran => ?_)
  obtain ⟨entries, hgathers, hsublist, hperm⟩ := hran
  have hlength : s.children.running.length = entries.length + running.length := by
    have hlength := hperm.length_eq
    rwa [List.length_map, List.length_append, List.length_map, List.length_map] at hlength
  have haccounts : f₁.Accounts { s with children := ⟨running⟩ } := by
    refine h.gathered hgathers ?_
    rw [← List.append_assoc]
    exact h.perm.trans (hperm.append_right _)
  refine .done hmissed₁ fun f' hf' => ⟨haccounts.gathers hf', entries, ?_, ?_, hsublist, ?_, hperm,
    rfl⟩
  · rw [hf'.collected_eq, List.append_nil, hgathers.collected_eq]
  · show s.children.running.length - running.length = entries.length
    omega
  · show s.children.running.length - running.length + running.length = s.children.running.length
    omega

/-- Every operation keeps the accounts and its promises. -/
theorem ensures_run (h : f.Accounts s) (op : Operation) :
    f.Ensures (op.Keeps s f) (op.run.run s) := by
  cases op with
  | spawn program arguments mode => exact ensures_spawn h program arguments mode
  | subshell body => exact ensures_subshell h body
  | collect keep => exact ensures_collect h keep
  | reap => exact ensures_reap h

end Operation

/-! ## Whole histories -/

/-- The states of an interpreter and of its children between two calls.  Both start without
children; what else the interpreter keeps, such as its streams, may change between calls. -/
inductive Reaches : Interpreter → Family → Prop where
  | start {s} : s.children = .empty → s.subshells = [] → Reaches s {}
  | ended {s f pid status} : Reaches s f → (pid, none) ∈ f.children →
    Reaches s (f.finish pid status)
  | changed {s s' f} : Reaches s f → s'.children = s.children → s'.subshells = s.subshells →
    Reaches s' f
  | performed {s f s' f'} {op : Operation} {answer : op.Answer} : Reaches s f →
    Family.Steps f (op.run.run s) f' (.done (answer, s')) → Reaches s' f'

theorem Reaches.accounts {s : Interpreter} {f : Family} (h : Reaches s f) : f.Accounts s := by
  induction h with
  | start hchildren hsubshells =>
    refine ⟨?_, List.nodup_nil, rfl⟩
    rw [hchildren, hsubshells]
    exact .refl _
  | ended _ _ ih => exact ih.gathers (.finish _ _ _)
  | changed _ hchildren hsubshells ih => exact ih.of_eq hchildren hsubshells
  | performed _ hsteps ih => exact ((Operation.ensures_run ih _).steps hsteps).result.1

/-- Children are accounted for.  In every history the children that have been started and not been
collected are those in the table and the pending subshells, each of them once.  Whatever is asked
for next, and whenever children end meanwhile, no process is waited or asked for that is no child,
and the interpreter's process does not end; if the operation comes to its end, the accounts are
right again and what it promises about the children it has collected holds. -/
theorem Reaches.children_accounted {s : Interpreter} {f : Family} (h : Reaches s f) :
    (f.pids.Perm (s.children.running.map Child.pid ++ s.subshells.map Subshell.pid) ∧
      f.pids.Nodup) ∧
    ∀ (op : Operation) (f' : Family) (rest : Routine (op.Answer × Interpreter)),
      Family.Steps f (op.run.run s) f' rest →
        f'.missed = [] ∧ (∀ code, rest ≠ .exit code) ∧
          ∀ answer s', rest = .done (answer, s') → op.Keeps s f (answer, s') f' := by
  have haccounts := h.accounts
  refine ⟨⟨haccounts.perm, haccounts.nodup⟩, fun op f' rest hsteps => ?_⟩
  have hensures := (Operation.ensures_run haccounts op).steps hsteps
  refine ⟨hensures.missed_eq, ?_, ?_⟩
  · rintro code rfl
    exact hensures.elim
  · rintro answer s' rfl
    exact hensures.result

/-! ### Two histories -/

namespace Interpreter

/-- What an interpreter without other children does about a program that it has just started. -/
def afterFork (environment : Machine.Environment) (child : Child) :
    WaitMode → Routine (Except ExecError Int × Interpreter)
  | .background => .done (.ok 0, { environment, children := ⟨[child]⟩ })
  | .wait => child.await.run.bind fun result => .done (result, { environment })

/-- A program that is called by a path is forked at once, where no stream is active and its words
hold nothing that an argument cannot hold. -/
theorem exists_fork_of_path {program : String} (arguments : List String)
    (hpath : isProgramPath program = true)
    (hwords : ∀ word ∈ program :: program :: arguments, word.contains '\x00' = false)
    (environment : Machine.Environment) (mode : WaitMode) :
    ∃ next, (Operation.spawn program arguments mode).run.run { environment } = .call .fork next ∧
      ∀ pid, next (.ok (.parent pid)) = afterFork environment ⟨pid, program⟩ mode := by
  show ∃ next, Interpreter.routine { environment } (spawn program arguments mode)
    = .call .fork next ∧ _
  unfold spawn
  rw [routine_lift_bind, run_resolve_path _ hpath]
  show ∃ next, Interpreter.routine _ (checkWords (program :: program :: arguments) >>= _) = _ ∧ _
  rw [routine_bind, routine_checkWords _ hwords]
  refine ⟨_, rfl, fun pid => ?_⟩
  cases mode <;> rfl

end Interpreter

/-- A program that is waited for is ended by a signal without a name: it is collected, and the
answer is that waiting for it has failed. -/
theorem spawn_unnamed_signal :
    let program := Operation.spawn "/bin/sh" ["-c", "kill -40 $$"] .wait
    ∃ f', Family.Steps {} (program.run.run { environment := [] }) f'
        (.done (.error (.wait "/bin/sh" .invalidArgument), { environment := [] })) ∧
      f'.collected = [(7, .signaled ⟨40⟩)] := by
  intro program
  obtain ⟨next, hrun, hnext⟩ := Interpreter.exists_fork_of_path ["-c", "kill -40 $$"]
    (by cbv : isProgramPath "/bin/sh" = true) (by simp) [] .wait
  rw [hrun]
  have hfork : Family.Answers {} .fork (.ok (.parent 7)) (Family.start {} 7) :=
    .forked List.not_mem_nil
  have hends : (7, none) ∈ (Family.start {} 7).children := List.mem_singleton_self _
  have hwait : Family.Answers ((Family.start {} 7).finish 7 (.signaled ⟨40⟩)) (.wait 7 false)
      (.ok (.signaled ⟨40⟩)) (((Family.start {} 7).finish 7 (.signaled ⟨40⟩)).collect 7
        (.signaled ⟨40⟩)) :=
    .waited (List.mem_singleton_self _)
  refine ⟨((Family.start {} 7).finish 7 (.signaled ⟨40⟩)).collect 7 (.signaled ⟨40⟩),
    .cons (.answered hfork) ?_, rfl⟩
  rw [hnext]
  exact .cons (.ended hends) (.cons (.answered hwait) .refl)

/-- A program in the background ends and is collected when the interpreter looks at its children. -/
theorem children_accounted_reap :
    let s : Interpreter := { environment := [], children := ⟨[⟨7, "/bin/true"⟩]⟩ }
    let f : Family := { children := [(7, some (.exited 0))] }
    Reaches s f ∧ f.pids.Perm [7] ∧
      ∃ f' s', Family.Steps f (Operation.reap.run.run s) f' (.done (1, s')) ∧
        Operation.reap.Keeps s f (1, s') f' ∧ s'.children.running = [] := by
  intro s f
  obtain ⟨next, hrun, hnext⟩ := Interpreter.exists_fork_of_path []
    (by cbv : isProgramPath "/bin/true" = true) (by simp) [] .background
  have hstart : Reaches { environment := [] } {} := .start rfl rfl
  have hfork : Family.Answers {} .fork (.ok (.parent 7)) (Family.start {} 7) :=
    .forked List.not_mem_nil
  have hspawned : Reaches s (Family.start {} 7) := by
    have hsteps : Family.Steps {} ((Operation.spawn "/bin/true" [] .background).run.run
        { environment := [] }) (Family.start {} 7) (.done (.ok 0, s)) := by
      rw [hrun]
      refine .cons (.answered hfork) ?_
      rw [hnext]
      exact .refl
    exact .performed hstart hsteps
  have hreached : Reaches s ((Family.start {} 7).finish 7 (.exited 0)) :=
    hspawned.ended (List.mem_singleton_self _)
  have hpoll : f.Answers (.poll 7) (.ok (some (.exited 0))) (f.collect 7 (.exited 0)) :=
    .polled (List.mem_singleton_self _)
  have hreap : Family.Steps f (Operation.reap.run.run s) (f.collect 7 (.exited 0))
      (.done (1, { s with children := ⟨[]⟩ })) := .cons (.answered hpoll) .refl
  obtain ⟨⟨hperm, -⟩, hkeeps⟩ := hreached.children_accounted
  exact ⟨hreached, hperm, _, _, hreap, (hkeeps .reap _ _ hreap).2.2 _ _ rfl, rfl⟩

end CommandShell
