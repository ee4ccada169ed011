import CommandShell.Proofs.Recording.Running
set_option autoImplicit false

/-!
# Grouping

It makes no difference how the parts of a chain of `&&` are grouped, nor those of a chain of `||`,
nor whether some of the commands of a sequence stand in a sequence of their own.  This is so for
every executor, whatever its operations do and however they fail: the commands come to the same
calculation, so they have the same result and leave the same state behind from every state.

All of it is one law.  What goes on only after an action that completes can be put together in
either way, as an `exit` or a failure passes over all that follows in both.
-/

namespace CommandShell

variable {m : Type → Type} [Monad m]

/-- Goes on with the code of an action if it completes. -/
def onCompletion (first : ExceptT ExecError m Outcome)
    (next : Int → ExceptT ExecError m Outcome) : ExceptT ExecError m Outcome := do
  match ← first with
  | .completed code => next code
  | .terminate code => return .terminate code

theorem runConditional_eq_onCompletion (continues : Int → Bool) (primary secondary : Action m) :
    runConditional continues primary secondary
      = onCompletion (primary .wait) fun code =>
          if continues code then secondary .wait else return .completed code :=
  rfl

theorem runSequence_cons (first : ExceptT ExecError m Outcome)
    {rest : List (ExceptT ExecError m Outcome)} (hrest : rest ≠ []) :
    runSequence (first :: rest) = onCompletion first fun _ => runSequence rest := by
  cases rest with
  | nil => exact absurd rfl hrest
  | cons second rest => rfl

section Laws

variable [LawfulMonad m]

theorem onCompletion_completed (code : Int) (next : Int → ExceptT ExecError m Outcome) :
    onCompletion (return .completed code) next = next code := pure_bind _ _

/-- Whatever ends the first action ends everything that was to follow it. -/
theorem onCompletion_assoc (first : ExceptT ExecError m Outcome)
    (next after : Int → ExceptT ExecError m Outcome) :
    onCompletion (onCompletion first next) after
      = onCompletion first fun code => onCompletion (next code) after := by
  unfold onCompletion
  rw [bind_assoc]
  refine bind_congr fun outcome => ?_
  cases outcome with
  | completed code => rfl
  | terminate code => exact pure_bind _ _

/-! ## Chains -/

/-- When the first action of three has the last word, it has it in either grouping. -/
theorem runConditional_assoc [Executor m] (continues : Int → Bool) (first second third : Action m) :
    runConditional continues (composite (runConditional continues first second)) third
      = runConditional continues first (composite (runConditional continues second third)) := by
  simp only [runConditional_eq_onCompletion, composite]
  rw [onCompletion_assoc]
  congr 1
  funext code
  cases hcode : continues code with
  | true => simp only [if_true]
  | false =>
    simp only [Bool.false_eq_true, if_false]
    rw [onCompletion_completed, hcode]
    rfl

/-! ## Sequences -/

/-- A sequence can be cut anywhere between two of its actions. -/
theorem runSequence_append {actions actions' : List (ExceptT ExecError m Outcome)}
    (hactions : actions ≠ []) (hactions' : actions' ≠ []) :
    runSequence (actions ++ actions')
      = onCompletion (runSequence actions) fun _ => runSequence actions' := by
  induction actions with
  | nil => exact absurd rfl hactions
  | cons first rest ih =>
    have happend : rest ++ actions' ≠ [] := List.append_ne_nil_of_right_ne_nil rest hactions'
    rw [List.cons_append, runSequence_cons first happend]
    by_cases hrest : rest = []
    · subst hrest
      rfl
    · rw [ih hrest, runSequence_cons first hrest, onCompletion_assoc]

/-- A sequence within a sequence may as well be written out in it. -/
theorem runSequence_flatten {before inner after : List (ExceptT ExecError m Outcome)}
    (hinner : inner ≠ []) :
    runSequence (before ++ [runSequence inner] ++ after)
      = runSequence (before ++ inner ++ after) := by
  induction before with
  | nil =>
    by_cases hafter : after = []
    · subst hafter
      rw [List.nil_append, List.nil_append, List.append_nil, List.append_nil]
      rfl
    · rw [List.nil_append, List.nil_append, runSequence_append hinner hafter]
      exact runSequence_cons _ hafter
  | cons first before ih =>
    have hleft : before ++ [runSequence inner] ++ after ≠ [] := by simp
    have hright : before ++ inner ++ after ≠ [] := by simp [hinner]
    simp only [List.cons_append]
    rw [runSequence_cons first hleft, runSequence_cons first hright, ih]

end Laws

/-! ## Commands -/

/-- The grouping of a chain of one connective, `&&` or `||`, makes no difference, and neither does a
sequence of commands within a sequence: on every executor they do the same and come to the same. -/
theorem Command.execute_regrouped [LawfulMonad m] [Executor m]
    (a b c : Command) (xs ys zs : List Command) (hys : ys ≠ []) (mode : WaitMode) :
    (binary .conjunction (binary .conjunction a b) c).execute (m := m) mode
        = (binary .conjunction a (binary .conjunction b c)).execute mode ∧
      (binary .disjunction (binary .disjunction a b) c).execute (m := m) mode
        = (binary .disjunction a (binary .disjunction b c)).execute mode ∧
      (sequential (xs ++ [sequential ys] ++ zs)).execute (m := m) mode
        = (sequential (xs ++ ys ++ zs)).execute mode := by
  refine ⟨?_, ?_, ?_⟩
  · exact congrArg (fun body => composite body mode)
      (runConditional_assoc (· == 0) a.meaning.action b.meaning.action c.meaning.action)
  · exact congrArg (fun body => composite body mode)
      (runConditional_assoc (· != 0) a.meaning.action b.meaning.action c.meaning.action)
  · have hinner : ys.map (fun command => command.execute (m := m) .wait) ≠ [] :=
      fun hnil => hys (List.map_eq_nil_iff.1 hnil)
    have hsequence : (sequential ys).execute (m := m) .wait
        = runSequence (ys.map fun command => command.execute .wait) := by
      rw [execute_sequential]
      rfl
    rw [execute_sequential, execute_sequential]
    simp only [List.map_append, List.map_cons, List.map_nil, hsequence]
    rw [runSequence_flatten hinner]

/-- The `exit` in the middle ends the chain and the sequence, however they are grouped. -/
theorem execute_regrouped_exit :
    let r := Recorder.fresh .plain
    let fails := Command.executable "false" []
    let exits := Command.builtin (.exit ["3"])
    let lists := Command.executable "ls" []
    [exits, fails] ≠ [] ∧
      r.execute (.binary .conjunction (.binary .conjunction lists exits) fails) .wait
        = r.execute (.binary .conjunction lists (.binary .conjunction exits fails)) .wait ∧
      r.execute (.binary .disjunction (.binary .disjunction fails exits) lists) .wait
        = r.execute (.binary .disjunction fails (.binary .disjunction exits lists)) .wait ∧
      r.execute (.sequential ([fails] ++ [.sequential [exits, fails]] ++ [lists])) .wait
        = r.execute (.sequential ([fails] ++ [exits, fails] ++ [lists])) .wait ∧
      (r.execute (.sequential [fails, exits, fails, lists]) .wait).1 = .ok (.terminate 3) := by
  intro r fails exits lists
  have hinner : [exits, fails] ≠ [] := List.cons_ne_nil _ _
  have hchain := Command.execute_regrouped (m := RecorderM) lists exits fails [fails] _ [lists]
    hinner .wait
  have hchain' := Command.execute_regrouped (m := RecorderM) fails exits lists [fails] _ [lists]
    hinner .wait
  exact ⟨hinner, congrArg r.perform hchain.1, congrArg r.perform hchain'.2.1,
    congrArg r.perform hchain.2.2, rfl⟩

end CommandShell
