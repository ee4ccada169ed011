import CommandShell.Interpreter
set_option autoImplicit false

/-!
# Actions of an interpreter as routines

An action of an interpreter, from a state on, is a routine that comes to a result and the state
afterwards.  Each way of putting actions together has an equation here, so that no later proof looks
into the monads.
-/

namespace CommandShell

open Machine (Routine)

namespace Interpreter

variable {α β : Type}

/-- The routine of an action that may fail. -/
def routine (s : Interpreter) (action : ExceptT ExecError InterpreterM α) :
    Routine (Except ExecError α × Interpreter) :=
  action.run.run s

/-! ## Actions in general -/

theorem routine_bind (s : Interpreter) (action : ExceptT ExecError InterpreterM α)
    (next : α → ExceptT ExecError InterpreterM β) :
    s.routine (action >>= next) = (s.routine action).bind fun ran =>
      match ran with
      | (.ok a, s₁) => s₁.routine (next a)
      | (.error e, s₁) => .done (.error e, s₁) := by
  show (s.routine action).bind _ = _
  congr 1
  funext ⟨result, s₁⟩
  cases result <;> rfl

theorem routine_lift (s : Interpreter) (action : InterpreterM α) :
    s.routine (liftM action) = (action.run s).bind fun ran => .done (.ok ran.1, ran.2) := rfl

theorem routine_lift_bind (s : Interpreter) (action : InterpreterM α)
    (next : α → ExceptT ExecError InterpreterM β) :
    s.routine (liftM action >>= next)
      = (action.run s).bind fun ran => ran.2.routine (next ran.1) := by
  rw [routine_bind, routine_lift, Routine.bind_assoc]
  rfl

theorem routine_attempt_bind (s : Interpreter) (action : ExceptT ExecError InterpreterM α)
    (next : Except ExecError α → ExceptT ExecError InterpreterM β) :
    s.routine (attempt action >>= next)
      = (s.routine action).bind fun ran => ran.2.routine (next ran.1) :=
  s.routine_lift_bind action.run next

theorem run_bind (s : Interpreter) (action : InterpreterM α) (next : α → InterpreterM β) :
    (action >>= next).run s = (action.run s).bind fun ran => (next ran.1).run ran.2 := rfl

/-! ## Calls and the state -/

theorem routine_call_bind (s : Interpreter) (call : Machine.Call)
    (next : call.Reply → ExceptT ExecError InterpreterM α) :
    s.routine (liftM (Interpreter.call call) >>= next)
      = .call call fun reply => s.routine (next reply) := rfl

theorem routine_get_bind (s : Interpreter)
    (next : Interpreter → ExceptT ExecError InterpreterM α) :
    s.routine (get >>= next) = s.routine (next s) := rfl

/-! ## Active streams -/

theorem routine_activeDescriptor_some {s : Interpreter} {id : StreamId}
    {stream : Stream Machine.Descriptor} (h : s.streams.get? id = some stream) :
    s.routine (activeDescriptor (some id)) = .done (.ok (some stream.handle), s) := by
  unfold activeDescriptor
  rw [routine_get_bind, h]
  rfl

theorem routine_activeDescriptor_none {s : Interpreter} {id : StreamId}
    (h : s.streams.get? id = none) :
    s.routine (activeDescriptor (some id)) = .done (.error (.unknownStream id), s) := by
  unfold activeDescriptor
  rw [routine_get_bind, h]
  rfl

/-- Closing a stream that is not open makes no call and changes nothing. -/
theorem routine_closeStream_none {s : Interpreter} {id : StreamId}
    (h : s.streams.close? id = none) :
    s.routine (closeStream id) = .done (.error (.unknownStream id), s) := by
  unfold closeStream
  rw [routine_get_bind, h]
  rfl

theorem routine_closeStream_some {s : Interpreter} {id : StreamId} {handle : Machine.Descriptor}
    {streams : Registry Machine.Descriptor} (h : s.streams.close? id = some (handle, streams)) :
    s.routine (closeStream id)
      = .call (.close handle) fun _ => .done (.ok (), { s with streams }) := by
  unfold closeStream
  rw [routine_get_bind, h]
  rfl

/-! ## Words and paths -/

theorem routine_checkWords (s : Interpreter) {words : List String}
    (h : ∀ word ∈ words, word.contains '\x00' = false) :
    s.routine (checkWords words) = .done (.ok (), s) := by
  induction words with
  | nil => rfl
  | cons word rest ih =>
    obtain ⟨hword, hrest⟩ := List.forall_mem_cons.1 h
    unfold checkWords
    rw [if_neg (by rw [hword]; exact Bool.false_ne_true)]
    exact ih hrest

theorem run_resolve_path (s : Interpreter) {program : String} (h : isProgramPath program = true) :
    (resolve program).run s = .done (some program, s) := by
  unfold resolve
  rw [if_pos h]
  rfl

/-! ## Children -/

/-- Of two results of waiting the first failure counts. -/
theorem routine_firstExit (s : Interpreter) (first others : Except ExecError (Option Int)) :
    ∃ ended, s.routine (do
        match ← MonadExcept.ofExcept first with
        | some code =>
          let _ ← MonadExcept.ofExcept others
          return some code
        | none => MonadExcept.ofExcept others) = .done (ended, s) ∧
      ∀ e, ended = .error e → first = .error e ∨ others = .error e := by
  rcases first with _ | _ | _ <;> rcases others with _ | _ <;>
    exact ⟨_, rfl, fun e h => by cases h <;> simp⟩

end Interpreter

theorem ChildTable.stillRunning_cons (child : Child) (rest : List Child) :
    ChildTable.stillRunning (child :: rest) = .call (.poll child.pid) fun status =>
      (ChildTable.stillRunning rest).bind fun others =>
        match status with
        | .ok none => .done (child :: others)
        | _ => .done others := rfl

end CommandShell
