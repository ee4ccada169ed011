import CommandShell.Token.Lexer
import CommandShell.Proofs.Parsing.Grammar
import CommandShell.Proofs.Recording.Story
set_option autoImplicit false

/-!
# No text stands for an empty sequence

A sequence without commands cannot be run: it ends in an error of its own.  The parser makes no such
sequence, though separators may stand anywhere in a line: what is empty between them is left out,
and parentheses around nothing are refused.  So a command that a text stands for never ends in this
error, on any executor whose own operations do not end in it.  Nor does any subshell that it starts:
nobody is ever told that one did.
-/

namespace CommandShell

/-! ## Parts of a command -/

/-- The first command is the second one, or stands somewhere in it. -/
inductive Command.IsPart : Command → Command → Prop where
  | refl {command} : IsPart command command
  | item {part command commands} :
    command ∈ commands → IsPart part command → IsPart part (.sequential commands)
  | primary {part connective primary secondary} :
    IsPart part primary → IsPart part (.binary connective primary secondary)
  | secondary {part connective primary secondary} :
    IsPart part secondary → IsPart part (.binary connective primary secondary)
  | redirected {part redirect primary path} :
    IsPart part primary → IsPart part (.redirection redirect primary path)

/-- No sequence in the command is empty. -/
def Command.IsFull (command : Command) : Prop := ¬ Command.IsPart (.sequential []) command

namespace Command

variable {part command primary secondary : Command} {commands : List Command}

theorem IsPart.trans {whole : Command} (h : IsPart part command) (h' : IsPart command whole) :
    IsPart part whole := by
  induction h' with
  | refl => exact h
  | item hmem _ ih => exact .item hmem ih
  | primary _ ih => exact .primary ih
  | secondary _ ih => exact .secondary ih
  | redirected _ ih => exact .redirected ih

/-- The stages of a pipeline are parts of it. -/
theorem IsPart.of_mem_pipelineStages :
    ∀ {command : Command}, part ∈ command.pipelineStages → IsPart part command
  | .executable .., hmem | .builtin _, hmem | .sequential _, hmem | .redirection .., hmem
  | .binary .conjunction _ _, hmem | .binary .disjunction _ _, hmem => by
    rw [List.mem_singleton.1 hmem]
    exact .refl
  | .binary .pipe _ _, hmem => by
    rcases List.mem_cons.1 hmem with rfl | hmem
    · exact .primary .refl
    · exact .secondary (.of_mem_pipelineStages hmem)

theorem IsFull.of_isPart (h : command.IsFull) (hpart : IsPart part command) : part.IsFull :=
  fun hempty => h (hempty.trans hpart)

theorem isFull_ofWords (program : String) (arguments : List String) :
    (ofWords program arguments).IsFull := by
  unfold ofWords
  intro hempty
  repeat' split at hempty
  all_goals cases hempty

theorem isFull_sequential (hne : commands ≠ []) (h : ∀ command ∈ commands, command.IsFull) :
    (sequential commands).IsFull := by
  intro hempty
  cases hempty with
  | refl => exact hne rfl
  | item hmem hpart => exact h _ hmem hpart

theorem isFull_binary (connective : Connective) (hprimary : primary.IsFull)
    (hsecondary : secondary.IsFull) : (binary connective primary secondary).IsFull := by
  intro hempty
  cases hempty with
  | primary hpart => exact hprimary hpart
  | secondary hpart => exact hsecondary hpart

theorem isFull_redirection (redirect : Redirect) (path : String) (hprimary : primary.IsFull) :
    (redirection redirect primary path).IsFull := by
  intro hempty
  cases hempty with
  | redirected hpart => exact hprimary hpart

end Command

/-! ## What the grammar gives -/

namespace Grammar

mutual

theorem Base.isFull {tokens : List Token} {command : Command} :
    Base tokens command → command.IsFull
  | .words program arguments => Command.isFull_ofWords program arguments
  | .scope hitems hne => Command.isFull_sequential hne fun command hmem =>
    hitems.isFull command (by simpa using hmem)

theorem Operand.isFull {tokens : List Token} {command : Command} :
    Operand tokens command → command.IsFull
  | .base hbase => hbase.isFull
  | .redirected redirect path hoperand =>
    Command.isFull_redirection redirect path hoperand.isFull

theorem Chain.isFull {tokens : List Token} {command : Command} :
    Chain tokens command → command.IsFull
  | .operand hoperand => hoperand.isFull
  | .joined connective hoperand hchain =>
    Command.isFull_binary connective hoperand.isFull hchain.isFull

/-- What is empty stands for no command, so it is no part of the sequence. -/
theorem Items.isFull {tokens : List Token} {commands : List (Option Command)} :
    Items tokens commands → ∀ command, some command ∈ commands → command.IsFull
  | .last hitem, command, hmem => hitem.isFull command (List.mem_singleton.1 hmem).symm
  | .cons hitem hitems, command, hmem => by
    rcases List.mem_cons.1 hmem with heq | hmem
    · exact hitem.isFull command heq.symm
    · exact hitems.isFull command hmem

theorem Item.isFull {tokens : List Token} {item : Option Command} :
    Item tokens item → ∀ command, item = some command → command.IsFull
  | .nothing, _, heq => by cases heq
  | .chain hchain, _, heq => Option.some.inj heq ▸ hchain.isFull

end

theorem Line.isFull {tokens : List Token} {command : Command} (h : Line tokens (some command)) :
    command.IsFull := by
  generalize hline : some command = line at h
  cases h with
  | item hitem => exact hitem.isFull command hline.symm
  | sequence hitems _ =>
    unfold sequenceOf at hline
    split at hline
    · cases hline
    · rename_i hne
      obtain rfl := Option.some.inj hline
      exact Command.isFull_sequential hne fun command hmem =>
        hitems.isFull command (by simpa using hmem)

end Grammar

/-- No sequence in a command that the parser makes is empty. -/
theorem Parser.isFull_of_parse {tokens : List Token} {command : Command}
    (h : parse tokens = .ok (some command)) : command.IsFull :=
  (line_of_parse h).1.isFull

/-! ## Results of actions -/

section Actions

variable {m : Type → Type} [Monad m] {α β : Type}

/-- Whatever the action results in has the property: it is an action whose results come with a
proof of it. -/
def Yields (P : α → Prop) (action : m α) : Prop :=
  ∃ sure : m { a // P a }, action = Subtype.val <$> sure

/-- The action never ends in the error of an empty sequence. -/
def NeverEmpty (action : ExceptT ExecError m α) : Prop :=
  Yields (· ≠ .error .emptySequence) action.run

/-- No operation of the executor ever ends in the error of an empty sequence, whatever else comes of
it. -/
structure Executor.Proper (m : Type → Type) [Monad m] [Executor m] : Prop where
  spawn : ∀ program arguments mode,
    NeverEmpty (Executor.spawn (m := m) program arguments mode)
  spawnSubshell : ∀ body : m Outcome, NeverEmpty (Executor.spawnSubshell body)
  collectSubshells : ∀ keep, NeverEmpty (Executor.collectSubshells (m := m) keep)
  createPipe : NeverEmpty (Executor.createPipe (m := m))
  openFile : ∀ redirect path, NeverEmpty (Executor.openFile (m := m) redirect path)
  closeStream : ∀ id, NeverEmpty (Executor.closeStream (m := m) id)
  writeOutput : ∀ text, NeverEmpty (Executor.writeOutput (m := m) text)

variable [LawfulMonad m]

namespace Yields

variable {P : α → Prop} {Q : β → Prop} {action : m α} {next next' : α → m β}

theorem pure {a : α} (h : P a) : Yields P (Pure.pure a : m α) :=
  ⟨Pure.pure ⟨a, h⟩, (map_pure Subtype.val (⟨a, h⟩ : { a // P a })).symm⟩

theorem trivial (action : m α) : Yields (fun _ => True) action :=
  ⟨(fun a => ⟨a, True.intro⟩) <$> action, by
    rw [← comp_map]
    exact (id_map action).symm⟩

theorem bind (h : Yields P action) (hnext : ∀ a, P a → Yields Q (next a)) :
    Yields Q (action >>= next) := by
  obtain ⟨sure, rfl⟩ := h
  obtain ⟨sureNext, hsure⟩ := Classical.skolem.1 fun a : { a // P a } => hnext a.1 a.2
  refine ⟨sure >>= sureNext, ?_⟩
  rw [bind_map_left, map_bind]
  exact bind_congr hsure

/-- What follows matters only for the results that there can be. -/
theorem bind_eq (h : Yields P action) (hnext : ∀ a, P a → next a = next' a) :
    action >>= next = action >>= next' := by
  obtain ⟨sure, rfl⟩ := h
  rw [bind_map_left, bind_map_left]
  exact bind_congr fun a => hnext a.1 a.2

end Yields

/-- For actions on a state: from every state the result has the property. -/
theorem yields_iff_forall {σ : Type} {P : α → Prop} {action : StateM σ α} :
    Yields P action ↔ ∀ s, P (action.run s).1 := by
  constructor
  · rintro ⟨sure, rfl⟩ s
    exact (sure.run s).1.2
  · intro h
    exact ⟨fun s => (⟨(action.run s).1, h s⟩, (action.run s).2), rfl⟩

theorem ok_ne_emptySequence (a : α) : (.ok a : Except ExecError α) ≠ .error .emptySequence :=
  fun heq => by cases heq

/-- An error is another one for results of every kind. -/
theorem error_ne_emptySequence {e : ExecError}
    (h : (.error e : Except ExecError α) ≠ .error .emptySequence) :
    (.error e : Except ExecError β) ≠ .error .emptySequence :=
  fun heq => h (congrArg Except.error (Except.error.inj heq))

namespace NeverEmpty

variable {action : ExceptT ExecError m α} {next : α → ExceptT ExecError m β}

theorem pure (a : α) : NeverEmpty (Pure.pure a : ExceptT ExecError m α) :=
  Yields.pure (ok_ne_emptySequence a)

theorem throw {e : ExecError} (h : e ≠ .emptySequence) :
    NeverEmpty (throw e : ExceptT ExecError m α) :=
  Yields.pure fun heq => h (Except.error.inj heq)

theorem ofExcept {result : Except ExecError α} (h : result ≠ .error .emptySequence) :
    NeverEmpty (MonadExcept.ofExcept result : ExceptT ExecError m α) := by
  cases result with
  | ok a => exact pure a
  | error e => exact throw fun heq => h (congrArg Except.error heq)

theorem bind (h : NeverEmpty action) (hnext : ∀ a, NeverEmpty (next a)) :
    NeverEmpty (action >>= next) := by
  refine Yields.bind h fun result hresult => ?_
  cases result with
  | ok a => exact hnext a
  | error e => exact Yields.pure (error_ne_emptySequence hresult)

/-- An action that cannot fail may say something about its results to what follows. -/
theorem lift {action : m α} {P : α → Prop} (h : Yields P action)
    (hnext : ∀ a, P a → NeverEmpty (next a)) : NeverEmpty (liftM action >>= next) := by
  show Yields _ ((Except.ok <$> action) >>= ExceptT.bindCont next)
  rw [bind_map_left]
  exact Yields.bind h hnext

theorem tell (action : m α) (hnext : ∀ a, NeverEmpty (next a)) :
    NeverEmpty (liftM action >>= next) :=
  lift (.trivial action) fun a _ => hnext a

theorem attempt {next : Except ExecError α → ExceptT ExecError m β} (h : NeverEmpty action)
    (hnext : ∀ result, result ≠ .error .emptySequence → NeverEmpty (next result)) :
    NeverEmpty (attempt action >>= next) :=
  lift h hnext

end NeverEmpty

/-! ## Ways of putting actions together -/

theorem NeverEmpty.runSequence {actions : List (ExceptT ExecError m Outcome)} (hne : actions ≠ [])
    (h : ∀ action ∈ actions, NeverEmpty action) : NeverEmpty (runSequence actions) := by
  induction actions with
  | nil => exact absurd rfl hne
  | cons first rest ih =>
    have hfirst := h first (List.mem_cons_self ..)
    cases rest with
    | nil => exact hfirst
    | cons second rest =>
      refine .bind hfirst fun outcome => ?_
      cases outcome with
      | completed code =>
        exact ih (List.cons_ne_nil _ _) fun action hmem => h action (List.mem_cons_of_mem _ hmem)
      | terminate code => exact .pure _

theorem NeverEmpty.runConditional {primary secondary : Action m} (continues : Int → Bool)
    (hprimary : NeverEmpty (primary .wait)) (hsecondary : NeverEmpty (secondary .wait)) :
    NeverEmpty (runConditional continues primary secondary) := by
  refine .bind hprimary fun outcome => ?_
  cases outcome with
  | completed code =>
    dsimp only
    split
    · exact hsecondary
    · exact .pure _
  | terminate code => exact .pure _

namespace Executor.Proper

variable [Executor m] (h : Executor.Proper m)

include h

theorem runTest (bracket : Bool) (arguments : List String) :
    NeverEmpty (runTest (m := m) bracket arguments) := by
  unfold CommandShell.runTest
  cases TestCall.ofArguments bracket arguments with
  | refused notice => exact .tell _ fun _ => .pure 1
  | usage => exact .bind (h.writeOutput _) fun _ => .pure 1
  | question flag path =>
    refine .tell _ fun kind => ?_
    split
    · exact .bind (h.writeOutput _) fun _ => .pure 0
    · exact .bind (h.writeOutput _) fun _ => .pure 1

theorem builtin (action : Builtin) : NeverEmpty (action.run (m := m)) := by
  cases action with
  | exit arguments =>
    dsimp only [Builtin.run]
    cases exitNotice arguments with
    | none => exact .pure _
    | some notice => exact .tell _ fun _ => .pure _
  | test bracket arguments => exact .bind (h.runTest bracket arguments) fun _ => .pure _

theorem composite {body : ExceptT ExecError m Outcome} (hbody : NeverEmpty body)
    (mode : WaitMode) : NeverEmpty (composite body mode) := by
  cases mode with
  | wait => exact hbody
  | background => exact .bind (h.spawnSubshell _) fun _ => .pure _

theorem runRedirection {primary : Action m} {mode : WaitMode} (redirect : Redirect) (path : String)
    (hprimary : NeverEmpty (primary mode)) :
    NeverEmpty (runRedirection redirect path primary mode) := by
  refine .bind (h.openFile redirect path) fun stream => .tell _ fun previous => ?_
  refine .attempt hprimary fun result hresult => .tell _ fun _ => ?_
  refine .attempt (h.closeStream stream) fun closed hclosed => ?_
  exact .bind (.ofExcept hresult) fun outcome => .bind (.ofExcept hclosed) fun _ => .pure _

theorem releaseAll (ids : List StreamId) : NeverEmpty (releaseAll (m := m) ids) := by
  induction ids with
  | nil => exact .pure _
  | cons id rest ih =>
    refine .attempt (h.closeStream id) fun first hfirst => .attempt ih fun others hothers => ?_
    exact .bind (.ofExcept hfirst) fun _ => .ofExcept hothers

theorem createPipes (opened : List (StreamId × StreamId)) (count : Nat) :
    NeverEmpty (createPipes (m := m) opened count) := by
  induction count generalizing opened with
  | zero => exact .pure _
  | succ count ih =>
    refine .attempt h.createPipe fun created hcreated => ?_
    cases created with
    | ok pipe => exact ih _
    | error e =>
      refine .attempt (h.releaseAll _) fun _ _ => .throw fun heq => ?_
      exact hcreated (congrArg Except.error heq)

theorem runStages {stages : List (Action m)}
    (hstages : ∀ stage ∈ stages, ∀ mode, NeverEmpty (stage mode)) (inherited : Inherited)
    (incoming : Option StreamId) (pipes : List (StreamId × StreamId)) :
    Yields (fun ran => ran.1 ≠ .error .emptySequence)
      (runStages inherited incoming stages pipes) := by
  induction stages generalizing incoming pipes with
  | nil => exact .pure (ok_ne_emptySequence _)
  | cons stage stages ih =>
    unfold CommandShell.runStages
    refine .bind (.trivial _) fun _ _ => .bind (.trivial _) fun _ _ => ?_
    refine .bind (hstages stage (List.mem_cons_self ..) _) fun result hresult => ?_
    cases result with
    | error e => exact .pure hresult
    | ok outcome =>
      refine .bind (h.releaseAll _) fun released hreleased => ?_
      cases released with
      | error e => exact .pure (error_ne_emptySequence hreleased)
      | ok _ =>
        cases pipes with
        | nil => exact .pure (ok_ne_emptySequence _)
        | cons pipe pipes =>
          refine .bind (h.closeStream _) fun closed hclosed => ?_
          cases closed with
          | error e => exact .pure (error_ne_emptySequence hclosed)
          | ok _ =>
            cases outcome with
            | completed code =>
              exact ih (fun stage hmem => hstages stage (List.mem_cons_of_mem _ hmem)) _ _
            | terminate code => exact .pure (ok_ne_emptySequence _)

theorem runPipeline {stages : List (Action m)}
    (hstages : ∀ stage ∈ stages, ∀ mode, NeverEmpty (stage mode)) :
    NeverEmpty (runPipeline stages) := by
  refine .bind (h.createPipes [] _) fun pipes => .tell _ fun input => .tell _ fun output => ?_
  refine .tell _ fun earlier => .lift (h.runStages hstages _ none pipes) fun ran hran => ?_
  refine .tell _ fun _ => .tell _ fun _ => ?_
  refine .attempt (h.releaseAll _) fun released hreleased => ?_
  refine .attempt (h.collectSubshells earlier) fun collected hcollected => ?_
  refine .bind (.ofExcept hran) fun outcome => .bind (.ofExcept hreleased) fun _ => ?_
  refine .bind (.ofExcept hcollected) fun exit => ?_
  cases outcome <;> cases exit <;> exact .pure _

/-- A command without an empty sequence never ends in its error. -/
theorem command {command : Command} (hfull : command.IsFull) :
    ∀ mode, NeverEmpty (command.execute (m := m) mode) := by
  induction command using Command.stages_induction with
  | executable program arguments =>
    exact fun mode => .bind (h.spawn program arguments mode) fun _ => .pure _
  | builtin action => exact fun _ => h.builtin action
  | sequential commands ih =>
    have hne : commands ≠ [] := by
      rintro rfl
      exact hfull .refl
    rw [Command.execute_sequential]
    refine h.composite (.runSequence (fun hnil => hne (List.map_eq_nil_iff.1 hnil)) ?_)
    exact List.forall_mem_map.2 fun command hmem =>
      ih command hmem (hfull.of_isPart (.item hmem .refl)) .wait
  | conditional connective primary secondary hconnective hprimary hsecondary =>
    have hfirst := hprimary (hfull.of_isPart (.primary .refl)) .wait
    have hsecond := hsecondary (hfull.of_isPart (.secondary .refl)) .wait
    cases connective with
    | conjunction => exact h.composite (.runConditional _ hfirst hsecond)
    | disjunction => exact h.composite (.runConditional _ hfirst hsecond)
    | pipe => exact absurd rfl hconnective
  | pipeline primary secondary ih =>
    rw [Command.execute_pipe]
    exact h.composite (h.runPipeline (List.forall_mem_map.2 fun stage hmem =>
      ih stage hmem (hfull.of_isPart (.of_mem_pipelineStages hmem))))
  | redirection redirect primary path ih =>
    exact fun mode => h.runRedirection redirect path
      (ih (hfull.of_isPart (.redirected .refl)) mode)

end Executor.Proper

end Actions

/-! ## What the user is told -/

section Muted

variable {m : Type → Type} [Monad m] [Executor m]

/-- The executor that does something else when it is to tell the user that a subshell has ended in
the error of an empty sequence. -/
@[reducible] def Executor.muted (other : m Unit) : Executor m :=
  { ‹Executor m› with
    report := fun notice =>
      if notice = .subshellFailed .emptySequence then other else Executor.report notice }

variable (other : m Unit)

omit [Monad m] in
theorem report_muted {notice : Notice} (h : notice ≠ .subshellFailed .emptySequence) :
    @Executor.report m (Executor.muted other) notice = Executor.report notice := if_neg h

/-- What is said about the arguments of `test` is not said of a subshell. -/
theorem runTest_muted (bracket : Bool) (arguments : List String) :
    @runTest m _ (Executor.muted other) bracket arguments = runTest bracket arguments := by
  unfold runTest
  cases hcall : TestCall.ofArguments bracket arguments with
  | refused notice =>
    have hnotice : notice ≠ .subshellFailed .emptySequence := by
      rintro rfl
      unfold TestCall.ofArguments at hcall
      repeat' split at hcall
      all_goals cases hcall
    dsimp only
    rw [report_muted other hnotice]
  | usage => rfl
  | question flag path => rfl

theorem builtin_muted (action : Builtin) :
    @Builtin.run m _ (Executor.muted other) action = action.run := by
  cases action with
  | exit arguments =>
    dsimp only [Builtin.run]
    cases hnotice : exitNotice arguments with
    | none => rfl
    | some notice =>
      have hother : notice ≠ .subshellFailed .emptySequence := by
        rintro rfl
        unfold exitNotice at hnotice
        repeat' split at hnotice
        all_goals cases hnotice
      dsimp only
      rw [report_muted other hother]
  | test bracket arguments =>
    dsimp only [Builtin.run]
    rw [runTest_muted]

theorem releaseAll_muted (ids : List StreamId) :
    @releaseAll m _ (Executor.muted other) ids = releaseAll ids := by
  induction ids with
  | nil => rfl
  | cons id rest ih =>
    unfold releaseAll
    rw [ih]
    rfl

theorem createPipes_muted (opened : List (StreamId × StreamId)) (count : Nat) :
    @createPipes m _ (Executor.muted other) opened count = createPipes opened count := by
  induction count generalizing opened with
  | zero => rfl
  | succ count ih =>
    unfold createPipes
    simp only [releaseAll_muted, ih]
    rfl

theorem runStages_muted (inherited : Inherited) (incoming : Option StreamId)
    (stages : List (Action m)) (pipes : List (StreamId × StreamId)) :
    @runStages m _ (Executor.muted other) inherited incoming stages pipes
      = runStages inherited incoming stages pipes := by
  induction stages generalizing incoming pipes with
  | nil => rfl
  | cons stage stages ih =>
    unfold runStages
    simp only [releaseAll_muted, ih]
    rfl

/-- A pipeline itself tells the user nothing. -/
theorem runPipeline_muted (stages : List (Action m)) :
    @runPipeline m _ (Executor.muted other) stages = runPipeline stages := by
  unfold runPipeline
  simp only [releaseAll_muted, createPipes_muted, runStages_muted]
  rfl

variable [LawfulMonad m]

theorem settle_muted {body : ExceptT ExecError m Outcome} (hbody : NeverEmpty body) :
    @settle m _ (Executor.muted other) body = settle body := by
  refine Yields.bind_eq hbody fun result hresult => ?_
  cases result with
  | ok outcome => rfl
  | error e =>
    have hother : Notice.subshellFailed e ≠ .subshellFailed .emptySequence :=
      fun heq => hresult (congrArg Except.error (Notice.subshellFailed.inj heq))
    dsimp only
    rw [report_muted other hother]

theorem composite_muted {body : ExceptT ExecError m Outcome} (hbody : NeverEmpty body) :
    @composite m _ (Executor.muted other) body = composite body := by
  funext mode
  cases mode with
  | wait => rfl
  | background =>
    show (Executor.spawnSubshell (@settle m _ (Executor.muted other) body) >>= _) = _
    rw [settle_muted other hbody]
    rfl

/-- A command without an empty sequence does the same, whatever would be done if the user were told
that a subshell has ended in its error. -/
theorem Command.execute_muted (h : Executor.Proper m) {command : Command}
    (hfull : command.IsFull) :
    @Command.execute m _ (Executor.muted other) command = command.execute := by
  have hbody : NeverEmpty (command.execute (m := m) .wait) := h.command hfull .wait
  induction command using Command.stages_induction with
  | executable program arguments => rfl
  | builtin action => exact funext fun _ => builtin_muted other action
  | sequential commands ih =>
    have hactions : commands.map (fun command =>
          @Command.execute m _ (Executor.muted other) command .wait)
        = commands.map fun command => command.execute .wait := by
      refine List.map_congr_left fun command hmem => ?_
      have hpart := hfull.of_isPart (.item hmem .refl)
      rw [ih command hmem hpart (h.command hpart .wait)]
    rw [Command.execute_sequential] at hbody
    change NeverEmpty (runSequence _) at hbody
    rw [@Command.execute_sequential m _ (Executor.muted other), Command.execute_sequential,
      hactions]
    exact composite_muted other hbody
  | conditional connective primary secondary hconnective hprimary hsecondary =>
    have hfirst := hfull.of_isPart (.primary .refl)
    have hsecond := hfull.of_isPart (.secondary .refl)
    have hprimary' := hprimary hfirst (h.command hfirst .wait)
    have hsecondary' := hsecondary hsecond (h.command hsecond .wait)
    have hconditional : ∀ continues : Int → Bool,
        runConditional continues (@Command.execute m _ (Executor.muted other) primary)
            (@Command.execute m _ (Executor.muted other) secondary)
          = runConditional continues primary.execute secondary.execute := by
      intro continues
      rw [hprimary', hsecondary']
    cases connective with
    | conjunction =>
      change NeverEmpty (runConditional (· == 0) primary.execute secondary.execute) at hbody
      exact (congrArg (@composite m _ (Executor.muted other)) (hconditional _)).trans
        (composite_muted other hbody)
    | disjunction =>
      change NeverEmpty (runConditional (· != 0) primary.execute secondary.execute) at hbody
      exact (congrArg (@composite m _ (Executor.muted other)) (hconditional _)).trans
        (composite_muted other hbody)
    | pipe => exact absurd rfl hconnective
  | pipeline primary secondary ih =>
    have hstages : (Command.binary .pipe primary secondary).pipelineStages.map
          (@Command.execute m _ (Executor.muted other))
        = (Command.binary .pipe primary secondary).pipelineStages.map Command.execute := by
      refine List.map_congr_left fun stage hmem => ?_
      have hpart := hfull.of_isPart (.of_mem_pipelineStages hmem)
      exact ih stage hmem hpart (h.command hpart .wait)
    rw [Command.execute_pipe] at hbody
    change NeverEmpty (runPipeline _) at hbody
    rw [@Command.execute_pipe m _ (Executor.muted other), Command.execute_pipe, hstages]
    exact (congrArg _ (runPipeline_muted other _)).trans (composite_muted other hbody)
  | redirection redirect primary path ih =>
    have hpart := hfull.of_isPart (.redirected .refl)
    have hprimary := ih hpart (h.command hpart .wait)
    show @runRedirection m _ (Executor.muted other) redirect path
      (@Command.execute m _ (Executor.muted other) primary) = _
    rw [hprimary]
    rfl

end Muted

/-! ## Commands that a text stands for -/

/-- A command that the parser makes of some tokens, be they those of a text or not, never ends in
the error of an empty sequence, and neither does any part of it, in whatever mode it runs, be it
within a subshell or not.  And nobody is ever told that a subshell has ended in it: no difference is
made by what would be done then. -/
theorem Command.execute_neverEmpty {m : Type → Type} [Monad m] [LawfulMonad m] [Executor m]
    (h : Executor.Proper m) {tokens : List Token} {command : Command}
    (hparse : parse tokens = .ok (some command)) (mode : WaitMode) :
    NeverEmpty (command.execute (m := m) mode) ∧
      (∀ part, IsPart part command → ∀ mode, NeverEmpty (part.execute (m := m) mode)) ∧
      ∀ other : m Unit,
        @Command.execute m _ (Executor.muted other) command mode = command.execute mode := by
  have hfull := Parser.isFull_of_parse hparse
  exact ⟨h.command hfull mode, fun part hpart => h.command (hfull.of_isPart hpart),
    fun other => congrFun (Command.execute_muted other h hfull) mode⟩

theorem Recorder.proper : Executor.Proper RecorderM where
  spawn program arguments mode := yields_iff_forall.2 fun r => by
    show (r.spawn program arguments mode).1 ≠ _
    rw [spawn_fst]
    unfold spawnResult
    split <;> nofun
  spawnSubshell body := yields_iff_forall.2 fun r => by
    show (r.spawnSubshell body).1 ≠ _
    nofun
  collectSubshells keep := yields_iff_forall.2 fun r => nofun
  createPipe := yields_iff_forall.2 fun r => by
    show r.createPipe.1 ≠ _
    rcases r.createPipe_cases with ⟨hresult, -⟩ | ⟨hresult, -⟩ <;> rw [hresult] <;> nofun
  openFile redirect path := yields_iff_forall.2 fun r => by
    show (r.openFile redirect path).1 ≠ _
    rcases r.openFile_cases redirect path with ⟨hresult, -⟩ | ⟨hresult, -⟩ <;> rw [hresult] <;>
      nofun
  closeStream id := yields_iff_forall.2 fun r => by
    show (r.closeStream id).1 ≠ _
    rcases r.closeStream_cases id with ⟨hresult, -⟩ | ⟨hresult, -⟩ <;> rw [hresult] <;> nofun
  writeOutput text := yields_iff_forall.2 fun r => by
    show (r.writeOutput text).1 ≠ _
    unfold Recorder.writeOutput
    dsimp only
    split <;> nofun

/-- Separators stand in front of this line and behind it, and doubled in a scope. -/
theorem execute_neverEmpty_separators :
    let tokens : List Token := [.operator .sequence, .operator .openScope, .word "a",
      .operator .sequence, .operator .sequence, .operator .openScope, .word "b",
      .operator .closeScope, .operator .pipe, .word "c", .operator .sequence,
      .operator .closeScope, .operator .pipe, .word "d", .operator .sequence]
    let inner := Command.binary .pipe (.sequential [.executable "b" []]) (.executable "c" [])
    let command := Command.sequential
      [.binary .pipe (.sequential [.executable "a" [], inner]) (.executable "d" [])]
    tokenize "; (a ;; (b) | c ;) | d ;" = .ok ⟨tokens, false, false, 0⟩ ∧
      parse tokens = .ok (some command) ∧ Executor.Proper RecorderM ∧
      NeverEmpty (command.execute (m := RecorderM) .wait) ∧
      NeverEmpty (inner.execute (m := RecorderM) .wait) ∧
      @Command.execute RecorderM _ (Executor.muted (set (Recorder.fresh .plain)))
        command .wait = command.execute .wait := by
  intro tokens inner command
  have hparse : parse tokens = .ok (some command) := rfl
  obtain ⟨hcommand, hparts, hmuted⟩ := Command.execute_neverEmpty Recorder.proper hparse .wait
  refine ⟨by cbv, hparse, Recorder.proper, hcommand, hparts inner ?_ .wait, hmuted _⟩
  exact .item (List.mem_singleton.2 rfl) (.primary (.item
    (List.mem_cons_of_mem _ (List.mem_singleton.2 rfl)) .refl))

end CommandShell
