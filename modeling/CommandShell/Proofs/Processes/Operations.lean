import CommandShell.Proofs.Processes.Holdings
import CommandShell.Proofs.Recording.Running
set_option autoImplicit false

/-!
# The operations of an interpreter under fixed conditions

What each operation of an interpreter comes to when nothing around it changes, and that the
interpreter stays sound.  Here the children are run as well: a program installs its streams and ends
with its code, a subshell gives up what its parent holds, runs its body and says in its pipe whether
that ended in an `exit`.
-/

namespace CommandShell

open Machine (Descriptor Image Pid Routine standardInput standardOutput standardError)
open Conditions (Leads Exits)

/-! ## What is found -/

namespace Conditions

/-- What a path leads to. -/
def fileKind (w : Conditions) (path : String) : Option FileKind :=
  if path.contains '\x00' then none
  else (w.stat (Text.held path) true).toOption.map fun info => info.kind.fileKind

/-- A path leads to a program. -/
def isProgram (w : Conditions) (path : String) : Bool :=
  !path.contains '\x00' && (w.stat (Text.held path) true).toOption.any Machine.NodeInfo.isProgram

/-- The file that a program's name stands for. -/
def find (w : Conditions) (environment : Machine.Environment) (program : String) : Option String :=
  if isProgramPath program then some program
  else (environment.lookup "PATH").bind fun searchPath =>
    (programCandidates program searchPath).find? w.isProgram

/-- The exit code of a program: 1 if it is not found or cannot be run, and none if a word of the
call is one that no argument can hold. -/
def exitCode (w : Conditions) (environment : Machine.Environment) (program : String)
    (arguments : List String) : Option Nat :=
  match w.find environment program with
  | none => some 1
  | some path =>
    if (path :: program :: arguments).any (·.contains '\x00') then none
    else
      match w.program (Text.held path) (Image.held ⟨program :: arguments, environment⟩) with
      | .ok code => some code
      | .error _ => some 1

/-- A program that is found and has an exit code can be called: the code is the one that it ends
with, or 1 if it cannot be run. -/
theorem exitCode_found {w : Conditions} {environment : Machine.Environment}
    {program path : String} {arguments : List String} {code : Nat}
    (hcode : w.exitCode environment program arguments = some code)
    (hfind : w.find environment program = some path) :
    (∀ word ∈ path :: program :: arguments, word.contains '\x00' = false) ∧
      code = match w.program (Text.held path)
          (Image.held ⟨program :: arguments, environment⟩) with
        | .ok code => (code : Nat)
        | .error _ => 1 := by
  simp only [exitCode, hfind] at hcode
  split at hcode
  · cases hcode
  · rename_i hwords
    refine ⟨fun word hmem => Bool.eq_false_iff.2 fun hnul => ?_, ?_⟩
    · exact hwords (List.any_eq_true.2 ⟨word, hmem, hnul⟩)
    · split at hcode <;> cases hcode <;> rfl

/-- The file of a redirection can be opened. -/
def opens (w : Conditions) (redirect : Redirect) (path : String) : Bool :=
  !path.contains '\x00' && (w.refusal (Text.held path) (.ofRedirect redirect)).isNone

end Conditions

/-- The builtin writes something, whatever paths lead to. -/
def Builtin.writes : Builtin → Bool
  | exit _ => false
  | test bracket arguments =>
    match TestCall.ofArguments bracket arguments with
    | .refused _ => false
    | .usage | .question .. => true

/-- What a builtin writes is not empty. -/
theorem Builtin.text_answer {action : Builtin} {fileKind : String → Option FileKind}
    {text : String} (h : (action.answer fileKind).text = some text) :
    action.writes = true ∧ text ≠ "" := by
  cases action with
  | exit arguments => cases h
  | test bracket arguments =>
    rw [answer] at h
    rw [writes]
    cases htest : TestCall.ofArguments bracket arguments with
    | refused notice =>
      rw [htest] at h
      cases h
    | usage =>
      rw [htest] at h
      cases h
      exact ⟨rfl, by decide⟩
    | question flag path =>
      simp only [htest] at h
      split at h <;> cases h <;> exact ⟨rfl, by decide⟩

/-- What the file of a redirection is opened for. -/
def Purpose.ofRedirect (redirect : Redirect) (path : String) : Purpose :=
  match redirect with
  | .input => .reading
  | .output | .append => .toFile (Text.held path)

namespace Interpreter

variable {w : Conditions} {s : Interpreter} {σ : System} {outcomes : List Outcome}

theorem leads_emit (emissions : List Emission) :
    w.Leads (fun ran σ' => ran.2 = s ∧ σ.Wrote standardError σ') ((emit emissions).run s) σ := by
  induction emissions generalizing σ with
  | nil => exact .done ⟨rfl, .refl σ _⟩
  | cons emission rest ih =>
    cases emission with
    | line text =>
      refine .call rfl (ih.mono fun ran σ' hran => ?_)
      exact ⟨hran.1, (System.Wrote.write ..).trans hran.2⟩
    | record record => exact .call rfl ih

theorem leads_fileKind (path : String) :
    w.Leads (fun ran σ' => ran = (w.fileKind path, s) ∧ σ' = σ) ((fileKind path).run s) σ := by
  unfold fileKind Conditions.fileKind
  cases path.contains '\x00' with
  | true => exact .done ⟨rfl, rfl⟩
  | false => exact .call rfl (.done ⟨rfl, rfl⟩)

theorem leads_firstProgram (paths : List String) :
    w.Leads (fun ran σ' => ran = (paths.find? w.isProgram, s) ∧ σ' = σ)
      ((firstProgram paths).run s) σ := by
  induction paths with
  | nil => exact .done ⟨rfl, rfl⟩
  | cons path rest ih =>
    unfold firstProgram
    cases hnul : path.contains '\x00' with
    | true =>
      have hprogram : ¬ w.isProgram path := by simp [Conditions.isProgram, hnul]
      rw [List.find?_cons_of_neg hprogram]
      exact ih
    | false =>
      refine .call rfl ?_
      cases hstat : w.stat (Text.held path) true with
      | error errno =>
        have hprogram : ¬ w.isProgram path := by simp [Conditions.isProgram, hstat, Except.toOption]
        rw [List.find?_cons_of_neg hprogram]
        exact ih
      | ok info =>
        show w.Leads _ ((if info.isProgram then pure (some path) else firstProgram rest :
          InterpreterM (Option String)).run s) σ
        cases hinfo : info.isProgram with
        | true =>
          have hprogram : w.isProgram path := by
            simp [Conditions.isProgram, hnul, hstat, Except.toOption, hinfo]
          rw [List.find?_cons_of_pos hprogram]
          exact .done ⟨rfl, rfl⟩
        | false =>
          have hprogram : ¬ w.isProgram path := by
            simp [Conditions.isProgram, hstat, Except.toOption, hinfo]
          rw [List.find?_cons_of_neg hprogram]
          exact ih

theorem leads_resolve (program : String) :
    w.Leads (fun ran σ' => ran = (w.find s.environment program, s) ∧ σ.Wrote standardError σ')
      ((resolve program).run s) σ := by
  cases hpath : isProgramPath program with
  | true =>
    rw [run_resolve_path s hpath, Conditions.find, if_pos hpath]
    exact .done ⟨rfl, .refl σ _⟩
  | false =>
    have hfind : w.find s.environment program = (s.environment.lookup "PATH").bind
        fun searchPath => (programCandidates program searchPath).find? w.isProgram := by
      rw [Conditions.find, hpath, if_neg Bool.false_ne_true]
    have hresolve : (resolve program).run s = (match s.environment.lookup "PATH" with
        | none => do
          emit Notice.searchPathUnset.emissions
          return none
        | some searchPath => firstProgram (programCandidates program searchPath)
        : InterpreterM (Option String)).run s := by
      unfold resolve
      rw [hpath, if_neg Bool.false_ne_true]
      rfl
    rw [hfind, hresolve]
    cases s.environment.lookup "PATH" with
    | none =>
      refine .bind ((leads_emit Notice.searchPathUnset.emissions).mono fun ran σ' hran => ?_)
      exact .done ⟨by rw [hran.1]; rfl, hran.2⟩
    | some searchPath =>
      exact (leads_firstProgram _).mono fun ran σ' hran => ⟨hran.1, hran.2 ▸ .refl σ _⟩

/-! ## Active streams -/

/-- A stream that is to be active in a direction is open and was opened for it. -/
def Has (s : Interpreter) (mode : StreamMode) (stream : Option StreamId) : Prop :=
  ∀ id, stream = some id → ∃ handle, (id, ⟨handle, mode⟩) ∈ s.streams.entries

/-- The descriptor of a stream that is to be active. -/
def active (s : Interpreter) (stream : Option StreamId) : Option Descriptor :=
  stream.bind fun id => (s.streams.get? id).map Stream.handle

theorem get?_eq_some (hs : Sound s σ outcomes) {id : StreamId} {stream : Stream Descriptor}
    (hmem : (id, stream) ∈ s.streams.entries) : s.streams.get? id = some stream :=
  (Registry.get?_eq_some_iff_mem hs.ids_nodup).2 hmem

theorem routine_activeDescriptor (hs : Sound s σ outcomes) {mode : StreamMode}
    {stream : Option StreamId} (h : s.Has mode stream) :
    s.routine (activeDescriptor stream) = .done (.ok (s.active stream), s) := by
  cases stream with
  | none => rfl
  | some id =>
    obtain ⟨handle, hmem⟩ := h id rfl
    have hget := get?_eq_some hs hmem
    rw [routine_activeDescriptor_some hget, active, Option.bind_some, hget]
    rfl

/-- What a stream that is to be active stands for is open. -/
theorem Has.active (hs : Sound s σ outcomes) {mode : StreamMode} {stream : Option StreamId}
    (h : s.Has mode stream) {d : Descriptor} (hd : s.active stream = some d) :
    d ∈ s.streams.handles := by
  obtain ⟨id, hstream, hget⟩ := Option.bind_eq_some_iff.1 hd
  obtain ⟨handle, hmem⟩ := h id hstream
  rw [get?_eq_some hs hmem] at hget
  cases hget
  exact List.mem_map_of_mem hmem

theorem getD_active_mem (hs : Sound s σ outcomes) {mode : StreamMode} {stream : Option StreamId}
    (h : s.Has mode stream) {standard : Descriptor} (hstandard : standard ∈ s.descriptors) :
    (s.active stream).getD standard ∈ s.descriptors := by
  cases hactive : s.active stream with
  | none => exact hstandard
  | some d => exact s.writable_subset (List.mem_append_right _ (h.active hs hactive))

theorem getD_active_writable (hs : Sound s σ outcomes) (houtput : s.Has .output s.output) :
    (s.active s.output).getD standardOutput ∈ s.writable := by
  cases hactive : s.active s.output with
  | none => simp [writable]
  | some d => exact List.mem_append_right _ (houtput.active hs hactive)

/-- What builtins write can be written. -/
def Accepts (s : Interpreter) (w : Conditions) (σ : System) : Prop :=
  w.writing σ ((s.active s.output).getD standardOutput) = .ok ()

/-- No stream has one of the standard descriptors. -/
theorem not_mem_handles (hs : Sound s σ outcomes) {d : Descriptor}
    (hd : d ∈ [standardInput, standardOutput, standardError]) : d ∉ s.streams.handles := by
  have hnodup := (List.nodup_append.1 hs.nodup).1
  exact fun hmem => (List.nodup_append.1 hnodup).2.2 d hd d hmem rfl

/-! ## Children -/

theorem leads_closeAll (descriptors : List Descriptor) :
    w.Leads (fun ran σ' => ran.2 = s ∧ σ' = descriptors.foldl System.close σ)
      ((closeAll descriptors).run s) σ := by
  induction descriptors generalizing σ with
  | nil => exact .done ⟨rfl, rfl⟩
  | cons d rest ih =>
    exact .call rfl ih

/-- The system of a child that has installed the streams it is to have. -/
def installed (σ : System) (input output : Option Descriptor) : System :=
  let σ := match input with
    | some d => σ.install d standardInput
    | none => σ
  match output with
  | some d => σ.install d standardOutput
  | none => σ

theorem leads_installStreams (input output : Option Descriptor) :
    w.Leads (fun ran σ' => ran.2 = s ∧ σ' = installed σ input output)
      ((installStreams input output).run s) σ := by
  cases input <;> cases output
  · exact .done ⟨rfl, rfl⟩
  · exact .call rfl (.done ⟨rfl, rfl⟩)
  · exact .call rfl (.done ⟨rfl, rfl⟩)
  · exact .call rfl (.call rfl (.done ⟨rfl, rfl⟩))

theorem slot?_installed {input output : Option Descriptor}
    (hinput : ∀ d, input = some d → (σ.slot? d).isSome)
    (houtput : ∀ d, output = some d → (σ.slot? d).isSome ∧ d ≠ standardInput) (d : Descriptor) :
    (installed σ input output).slot? d =
      if d = standardOutput then σ.slot? (output.getD standardOutput)
      else if d = standardInput then σ.slot? (input.getD standardInput) else σ.slot? d := by
  have hfirst : ∀ d, (match input with
      | some d => σ.install d standardInput
      | none => σ).slot? d
        = if d = standardInput then σ.slot? (input.getD standardInput) else σ.slot? d := by
    intro d
    cases input with
    | none => by_cases heq : d = standardInput <;> simp [heq]
    | some from_ => exact System.slot?_install (hinput from_ rfl)
  unfold installed
  cases output with
  | none =>
    rw [hfirst]
    by_cases heq : d = standardOutput
    · rw [if_pos heq, heq, if_neg (by decide)]
      rfl
    · rw [if_neg heq]
  | some to_ =>
    obtain ⟨hopen, hne⟩ := houtput to_ rfl
    have hto : (match input with
        | some d => σ.install d standardInput
        | none => σ).slot? to_ = σ.slot? to_ := by rw [hfirst, if_neg hne]
    rw [System.slot?_install (by rwa [hto]), hto, hfirst]
    rfl

/-- The descriptors of a child that has installed the active streams of its parent. -/
theorem slot?_installed_active (σ₁ : System) (hs : Sound s σ outcomes)
    (hinput : s.Has .input s.input) (houtput : s.Has .output s.output)
    (hslot : ∀ d, (σ.slot? d).isSome → σ₁.slot? d = σ.slot? d) (d : Descriptor) :
    (installed σ₁ (s.active s.input) (s.active s.output)).slot? d =
      if d = standardOutput then σ.slot? ((s.active s.output).getD standardOutput)
      else if d = standardInput then σ.slot? ((s.active s.input).getD standardInput)
      else σ₁.slot? d := by
  have hopen : ∀ d ∈ s.descriptors, σ₁.slot? d = σ.slot? d := fun d hd => hslot d (hs.isOpen d hd)
  have hhandle : ∀ d ∈ s.streams.handles, d ∈ s.descriptors := fun d hd =>
    s.writable_subset (List.mem_append_right _ hd)
  have hget : ∀ (mode : StreamMode) (stream : Option StreamId) (standard : Descriptor),
      s.Has mode stream → standard ∈ s.descriptors →
      σ₁.slot? ((s.active stream).getD standard) = σ.slot? ((s.active stream).getD standard) := by
    intro mode stream standard hhas hstandard
    exact hopen _ (getD_active_mem hs hhas hstandard)
  rw [slot?_installed (fun d hd => ?_) (fun d hd => ⟨?_, fun heq => ?_⟩),
    hget .output s.output _ houtput (by simp [descriptors]),
    hget .input s.input _ hinput (by simp [descriptors])]
  · have hmem := hhandle d (hinput.active hs hd)
    rw [hopen d hmem]
    exact hs.isOpen d hmem
  · have hmem := hhandle d (houtput.active hs hd)
    rw [hopen d hmem]
    exact hs.isOpen d hmem
  · exact not_mem_handles hs (by simp [heq]) (houtput.active hs hd)

theorem pipes_installed (input output : Option Descriptor) :
    (installed σ input output).pipes = σ.pipes := by
  cases input <;> cases output <;> simp [installed, System.pipes_install]

theorem run_becomeProgram (s : Interpreter) (program path : String) (arguments : List String)
    (input output : Option Descriptor) :
    (becomeProgram program path arguments input output).run s
      = ((installStreams input output).run s).bind fun installed =>
        ((closeAll installed.2.streams.handles).run installed.2).bind fun closed =>
        .call (.arrange .interrupt .standard) fun _ => .call (.arrange .quit .standard) fun _ =>
        .call (.arrange .pipe .standard) fun _ =>
        .call (.exec (Text.held path) (Image.held ⟨program :: arguments, closed.2.environment⟩))
          fun errno => ((emit (Notice.execFailed program errno).emissions).run closed.2).bind
            fun _ => .exit 1 := rfl

/-- A child that becomes a program ends with that program's code; what it says if it cannot become
one goes to standard error. -/
theorem exits_becomeProgram (program path : String) (arguments : List String)
    (input output : Option Descriptor) :
    w.Exits (fun code child =>
        code = (match w.program (Text.held path)
          (Image.held ⟨program :: arguments, s.environment⟩) with
          | .ok code => (code : Nat)
          | .error _ => 1) ∧
        child.pipes.length = σ.pipes.length ∧
        ∀ pipe, (installed σ input output).slot? standardError ≠ some (.writeEnd pipe) →
          child.content pipe = σ.content pipe)
      ((becomeProgram program path arguments input output).run s) σ := by
  rw [run_becomeProgram]
  refine .bind ((leads_installStreams input output).mono fun ran σ₁ hran => ?_)
  obtain ⟨_, s₁⟩ := ran
  obtain ⟨rfl, rfl⟩ := hran
  refine .bind ((leads_closeAll s₁.streams.handles).mono fun ran σ₁ hran => ?_)
  obtain ⟨_, s₂⟩ := ran
  obtain ⟨rfl, rfl⟩ := hran
  have hpipes : (s₂.streams.handles.foldl System.close (installed σ input output)).pipes
      = σ.pipes := by rw [System.pipes_closeAll, pipes_installed]
  have hcontent : ∀ pipe, (s₂.streams.handles.foldl System.close
      (installed σ input output)).content pipe = σ.content pipe := fun pipe => by
    rw [System.content, hpipes, System.content]
  refine .call rfl (.call rfl (.call rfl ?_))
  cases hprogram : w.program (Text.held path)
      (Image.held ⟨program :: arguments, s₂.environment⟩) with
  | ok code => exact .exec_ok hprogram ⟨rfl, by rw [hpipes], fun pipe _ => hcontent pipe⟩
  | error errno =>
    refine .exec_error hprogram (.bind ((leads_emit _).mono fun ran σ₁ hran => .exit ?_))
    refine ⟨rfl, by rw [hran.2.length_eq, hpipes], fun pipe hpipe => ?_⟩
    have hslot : (s₂.streams.handles.foldl System.close (installed σ input output)).slot?
        standardError ≠ some (.writeEnd pipe) := by
      rw [System.slot?_closeAll]
      split
      · nofun
      · exact hpipe
    rw [hran.2.content_eq pipe hslot, hcontent]

/-! ## Programs -/

/-- A child that changed nothing but what waits in pipes has ended and may have been waited for. -/
theorem continues_child {s' : Interpreter} {σ' : System} (hs : Sound s σ outcomes)
    (hs' : s' = { s with children := s'.children }) (hslots : σ'.slots = σ.slots)
    (hlength : σ'.pipes.length = σ.pipes.length)
    (hcontent : ∀ pipe, σ.slot? standardError ≠ some (.writeEnd pipe) →
      σ'.content pipe = σ.content pipe)
    (hended : ∀ pid, (σ.ended.lookup pid).isSome → σ'.ended.lookup pid = σ.ended.lookup pid) :
    Continues s σ outcomes s' σ' := by
  rw [hs']
  have hsince : Since s σ [] { s with children := s'.children } σ' :=
    .of_slots_eq rfl rfl rfl hslots hlength
      (fun pipe hspares => hcontent pipe (hspares.2 _ (by simp [writable]))) hended
  exact ⟨⟨hsince, hs.of_slots_eq hsince rfl rfl hslots⟩, rfl, rfl⟩

theorem leads_spawn (hs : Sound s σ outcomes) (hinput : s.Has .input s.input)
    (houtput : s.Has .output s.output) {program : String} {arguments : List String}
    {code : Nat} (hcode : w.exitCode s.environment program arguments = some code)
    (mode : WaitMode) :
    w.Leads (fun ran σ' => (∃ code' : Int, ran.1 = .ok code' ∧ (mode = .wait → code' = code)) ∧
        Continues s σ outcomes ran.2 σ')
      (s.routine (spawn program arguments mode)) σ := by
  unfold spawn
  rw [routine_lift_bind]
  refine .bind ((leads_resolve program).mono fun ran σ₁ hran => ?_)
  obtain ⟨path, s₁⟩ := ran
  obtain ⟨hresolved, hwrote⟩ := hran
  cases hresolved
  cases hfind : w.find s.environment program with
  | none =>
    rw [Conditions.exitCode, hfind] at hcode
    cases hcode
    dsimp only
    rw [routine_lift_bind]
    refine .bind ((leads_emit _).mono fun ran σ' hran => ?_)
    obtain ⟨_, s₁⟩ := ran
    obtain ⟨rfl, hwrote'⟩ := hran
    have hwrote := hwrote.trans hwrote'
    exact .done ⟨⟨1, rfl, fun _ => rfl⟩, .wrote hs hwrote (by simp [writable])⟩
  | some path =>
    have hcontinues := Continues.wrote hs hwrote (by simp [writable])
    have hs₁ := hcontinues.sound
    obtain ⟨hwords, hcode⟩ := Conditions.exitCode_found hcode hfind
    dsimp only
    rw [routine_bind, routine_checkWords s hwords]
    show w.Leads _ (s.routine _) σ₁
    rw [routine_get_bind, routine_bind, routine_activeDescriptor hs₁ hinput]
    show w.Leads _ (s.routine _) σ₁
    rw [routine_get_bind, routine_bind, routine_activeDescriptor hs₁ houtput]
    show w.Leads _ (s.routine _) σ₁
    rw [routine_call_bind]
    refine .fork ?_
    dsimp only
    rw [routine_lift]
    refine .of_bind ((exits_becomeProgram ..).mono fun ended child hchild => ?_)
    obtain ⟨hchild, hlength, hcontent⟩ := hchild
    obtain rfl := hchild.trans hcode.symm
    have hcontent : ∀ pipe, σ₁.slot? standardError ≠ some (.writeEnd pipe) →
        child.content pipe = σ₁.content pipe := fun pipe hpipe => hcontent pipe (by
      rw [slot?_installed_active { σ₁ with ended := ∅ } hs₁ hinput houtput fun _ _ => rfl,
        if_neg (by decide), if_neg (by decide)]
      exact hpipe)
    have hfree := w.lookup_freePid σ₁
    generalize w.freePid σ₁.ended.keys = pid at hfree ⊢
    have hne : ∀ pid', (σ₁.ended.lookup pid').isSome → pid' ≠ pid := fun pid' hsome =>
      System.ne_of_lookup hsome hfree
    cases mode with
    | background =>
      refine .done ⟨⟨0, rfl, WaitMode.noConfusion⟩, hcontinues.trans ?_⟩
      exact continues_child hs₁ rfl rfl hlength hcontent fun pid' hsome =>
        AList.lookup_insert_ne (hne pid' hsome)
    | wait =>
      have hended : (σ₁.childEnded pid ended child.pipes).ended.lookup pid = some ended :=
        AList.lookup_insert _
      have hanswer : w.answer (σ₁.childEnded pid ended child.pipes) (.wait pid false)
          = some (.ok (.exited ended), (σ₁.childEnded pid ended child.pipes).forget pid) := by
        rw [Conditions.answer_wait, hended]
      refine .call hanswer (.done ⟨⟨ended, rfl, fun _ => rfl⟩, hcontinues.trans ?_⟩)
      refine continues_child hs₁ rfl rfl hlength hcontent fun pid' hsome => ?_
      exact (AList.lookup_erase_ne (hne pid' hsome)).trans
        (AList.lookup_insert_ne (hne pid' hsome))

/-! ## Builtins -/

theorem leads_writeOutput (hs : Sound s σ outcomes) (houtput : s.Has .output s.output)
    (haccepts : s.Accepts w σ) (text : String) :
    w.Leads (fun ran σ' => ran.1 = .ok () ∧ Continues s σ outcomes ran.2 σ')
      (s.routine (writeOutput text)) σ := by
  unfold writeOutput
  rw [routine_get_bind, routine_bind, routine_activeDescriptor hs houtput]
  show w.Leads _ (s.routine (if text ≠ "" then _ else _)) σ
  by_cases htext : text ≠ ""
  · rw [if_pos htext, routine_call_bind]
    refine .call rfl ?_
    rw [haccepts]
    exact .done ⟨rfl, .wrote hs (.write ..) (getD_active_writable hs houtput)⟩
  · rw [if_neg htext]
    exact .done ⟨rfl, .refl hs⟩

theorem leads_report (hs : Sound s σ outcomes) {α : Type} (notice : Notice) (a : α) :
    w.Leads (fun ran σ' => ran.1 = .ok a ∧ Continues s σ outcomes ran.2 σ')
      (s.routine (do
        (Executor.report notice : InterpreterM Unit)
        return a)) σ := by
  rw [routine_lift_bind]
  refine .bind ((leads_emit notice.emissions).mono fun ran σ' hran => ?_)
  obtain ⟨_, s₁⟩ := ran
  obtain ⟨rfl, hwrote⟩ := hran
  exact .done ⟨rfl, .wrote hs hwrote (by simp [writable])⟩

/-- A builtin tells its notice, writes its text and comes to its outcome. -/
theorem leads_builtin_of_answer (hs : Sound s σ outcomes) {action : Builtin}
    {post : Except ExecError Outcome × Interpreter → System → Prop}
    (hquiet : (action.answer w.fileKind).text = none → ∀ s' σ', Continues s σ outcomes s' σ' →
      post (.ok (action.answer w.fileKind).outcome, s') σ')
    (hwrites : ∀ text, (action.answer w.fileKind).text = some text →
      w.Leads post (s.routine (do
        Executor.writeOutput text
        return (action.answer w.fileKind).outcome)) σ) :
    w.Leads post (s.routine action.run) σ := by
  cases action with
  | exit arguments =>
    simp only [Builtin.run]
    simp only [Builtin.answer] at hquiet
    cases hnotice : exitNotice arguments with
    | none => exact .done (hquiet trivial _ _ (.refl hs))
    | some notice =>
      refine (leads_report hs notice _).mono fun ran σ' hran => ?_
      obtain ⟨_, s'⟩ := ran
      obtain ⟨rfl, hcontinues⟩ := hran
      exact hquiet trivial _ _ hcontinues
  | test bracket arguments =>
    simp only [Builtin.run, runTest]
    rw [Builtin.answer] at hquiet hwrites
    cases htest : TestCall.ofArguments bracket arguments with
    | refused notice =>
      rw [htest] at hquiet
      rw [bind_assoc]
      refine (leads_report hs notice _).mono fun ran σ' hran => ?_
      obtain ⟨_, s'⟩ := ran
      obtain ⟨rfl, hcontinues⟩ := hran
      exact hquiet rfl _ _ hcontinues
    | usage =>
      rw [htest] at hwrites
      rw [bind_assoc]
      exact hwrites testUsage rfl
    | question flag path =>
      rw [htest] at hwrites
      rw [bind_assoc, routine_lift_bind]
      refine .bind ((leads_fileKind path).mono fun ran σ' hran => ?_)
      obtain ⟨rfl, rfl⟩ := hran
      dsimp only at hwrites ⊢
      cases hholds : flag.holds (w.fileKind path) with
      | true =>
        simp only [hholds, if_pos] at hwrites ⊢
        rw [bind_assoc]
        exact hwrites _ rfl
      | false =>
        simp only [hholds, Bool.false_eq_true, if_false] at hwrites ⊢
        rw [bind_assoc]
        exact hwrites _ rfl

theorem leads_builtin (hs : Sound s σ outcomes) (houtput : s.Has .output s.output)
    {action : Builtin} (haccepts : action.writes = true → s.Accepts w σ) :
    w.Leads (fun ran σ' => ran.1 = .ok (action.answer w.fileKind).outcome ∧
        Continues s σ outcomes ran.2 σ')
      (s.routine action.run) σ := by
  refine leads_builtin_of_answer hs (fun _ _ _ hcontinues => ⟨rfl, hcontinues⟩) fun text htext => ?_
  rw [routine_bind]
  refine .bind ((leads_writeOutput hs houtput (haccepts (Builtin.text_answer htext).1) text).mono
    fun ran σ' hran => ?_)
  obtain ⟨_, s₁⟩ := ran
  obtain ⟨rfl, hcontinues⟩ := hran
  exact .done ⟨rfl, hcontinues⟩

/-- The stream that is opened next, and the interpreter with it. -/
def registered (s : Interpreter) (d : Descriptor) (mode : StreamMode) : Interpreter :=
  { s with streams := ⟨s.streams.entries ++ [(⟨s.streams.nextId⟩, ⟨d, mode⟩)],
    s.streams.nextId + 1⟩ }

theorem opens_file {d : Descriptor} (hd : σ.slot? d = none) (redirect : Redirect)
    (path : String) :
    Opens s σ [⟨⟨s.streams.nextId⟩, d, .ofRedirect redirect path⟩]
      (s.registered d (modeOf redirect)) (σ.addSlot d (.file (Text.held path))) where
  entries_eq := by cases redirect <;> rfl
  index opened hmem := by
    rw [List.mem_singleton.1 hmem]
    exact ⟨Nat.le_refl _, Nat.lt_succ_self _⟩
  nextId_le := Nat.le_succ _
  ids_nodup := List.nodup_singleton _
  handles_nodup := List.nodup_singleton _
  environment_eq := rfl
  subshells_eq := rfl
  ended_eq := rfl
  length_le := Nat.le_refl _
  content_eq _ := rfl
  slot_eq d' hd' := by rw [System.slot?_addSlot, if_neg (System.ne_of_free hd' hd)]
  bounded d' pipe hd' := by
    rw [System.slot?_addSlot] at hd' ⊢
    split at hd'
    · rcases hd' with hd' | hd' <;> cases hd'
    · rename_i hne
      exact .inl (by rw [if_neg hne])
  isFree opened hmem := by rw [List.mem_singleton.1 hmem]; exact hd
  isOpen opened hmem := by
    rw [List.mem_singleton.1 hmem, System.slot?_addSlot, if_pos rfl]
    rfl
  suits opened hmem := by
    rw [List.mem_singleton.1 hmem, System.slot?_addSlot, if_pos rfl]
    cases redirect
    · trivial
    · rfl
    · rfl
  pipe_new opened hmem pipe hslot := by
    rw [List.mem_singleton.1 hmem, System.slot?_addSlot, if_pos rfl] at hslot
    cases hslot

theorem opens_pipe {reader writer : Descriptor}
    (hreader : σ.slot? reader = none) (hwriter : σ.slot? writer = none) (hne : writer ≠ reader) :
    Opens s σ
      [⟨⟨s.streams.nextId⟩, reader, .reading⟩, ⟨⟨s.streams.nextId + 1⟩, writer, .toPipe⟩]
      ((s.registered reader .input).registered writer .output) (σ.openPipe reader writer) where
  entries_eq := List.append_assoc ..
  index opened hmem := by
    show _ ∧ _ < s.streams.nextId + 1 + 1
    simp only [List.mem_cons, List.not_mem_nil, or_false] at hmem
    rcases hmem with rfl | rfl <;> dsimp only <;> omega
  nextId_le := by
    show _ ≤ s.streams.nextId + 1 + 1
    omega
  ids_nodup := by simp
  handles_nodup := by simpa using hne.symm
  environment_eq := rfl
  subshells_eq := rfl
  ended_eq := rfl
  length_le := by
    show _ ≤ (σ.pipes ++ [ByteArray.empty]).length
    rw [List.length_append]
    omega
  content_eq _ := System.content_openPipe
  slot_eq d hd := System.slot?_openPipe_of_isSome hreader hwriter hd
  bounded d pipe hd := by
    have hlength : (σ.openPipe reader writer).pipes.length = σ.pipes.length + 1 :=
      List.length_append ..
    rw [System.slot?_openPipe] at hd ⊢
    rw [hlength]
    split at hd
    · rcases hd with hd | hd <;> cases hd
      exact .inr (Nat.lt_succ_self _)
    · split at hd
      · rcases hd with hd | hd <;> cases hd
        exact .inr (Nat.lt_succ_self _)
      · exact .inl (by simp [*])
  isFree opened hmem := by
    simp only [List.mem_cons, List.not_mem_nil, or_false] at hmem
    rcases hmem with rfl | rfl <;> assumption
  isOpen opened hmem := by
    simp only [List.mem_cons, List.not_mem_nil, or_false] at hmem
    rcases hmem with rfl | rfl <;> simp [System.slot?_openPipe, hne.symm]
  suits opened hmem := by
    simp only [List.mem_cons, List.not_mem_nil, or_false] at hmem
    rcases hmem with rfl | rfl
    · trivial
    · exact ⟨_, System.slot?_openPipe.trans (if_pos rfl)⟩
  pipe_new opened hmem pipe hslot := by
    simp only [List.mem_cons, List.not_mem_nil, or_false] at hmem
    rcases hmem with rfl | rfl <;> simp [System.slot?_openPipe, hne.symm] at hslot
    exact Nat.le_of_eq hslot

theorem leads_openFile (hs : Sound s σ outcomes) {redirect : Redirect} {path : String}
    (hopens : w.opens redirect path = true) :
    w.Leads (fun ran σ' => ∃ id, ran.1 = .ok id ∧
        Owes s σ [(id, .ofRedirect redirect path)] outcomes ran.2 σ' ∧
        ran.2.input = s.input ∧ ran.2.output = s.output)
      (s.routine (openFile redirect path)) σ := by
  simp only [Conditions.opens, Bool.and_eq_true, Bool.not_eq_true', Option.isNone_iff_eq_none]
    at hopens
  unfold openFile
  rw [hopens.1, if_neg Bool.false_ne_true]
  have hanswer : w.answer σ (.openFile (Text.held path) (.ofRedirect redirect))
      = some (.ok (w.freeDescriptor σ.slots.keys),
        σ.addSlot (w.freeDescriptor σ.slots.keys) (.file (Text.held path))) := by
    rw [Conditions.answer_openFile, hopens.2]
  refine .call hanswer (.done ⟨⟨s.streams.nextId⟩, rfl, ?_, rfl, rfl⟩)
  exact (opens_file (w.slot?_freeDescriptor σ) redirect path).owes hs

theorem leads_openFile_refused {redirect : Redirect} {path : String}
    (hopens : w.opens redirect path = false) :
    w.Leads (fun ran σ' => (∃ fault, ran = (.error (.openFile redirect path fault), s)) ∧ σ' = σ)
      (s.routine (openFile redirect path)) σ := by
  unfold openFile
  cases hnul : path.contains '\x00' with
  | true => exact .done ⟨⟨.nulInPath, rfl⟩, rfl⟩
  | false =>
    rw [if_neg Bool.false_ne_true]
    simp only [Conditions.opens, hnul, Bool.not_false, Bool.true_and, Option.isNone_eq_false_iff]
      at hopens
    obtain ⟨errno, hrefusal⟩ := Option.isSome_iff_exists.1 hopens
    have hanswer : w.answer σ (.openFile (Text.held path) (.ofRedirect redirect))
        = some (.error errno, σ) := by rw [Conditions.answer_openFile, hrefusal]
    exact .call hanswer (.done ⟨⟨.system errno, rfl⟩, rfl⟩)

theorem leads_createPipe (hs : Sound s σ outcomes) :
    w.Leads (fun ran σ' => ∃ read write, ran.1 = .ok (read, write) ∧
        Owes s σ [(read, .reading), (write, .toPipe)] outcomes ran.2 σ' ∧
        ran.2.input = s.input ∧ ran.2.output = s.output)
      (s.routine createPipe) σ := by
  obtain ⟨hne, hwriter⟩ := w.slot?_nextDescriptor σ (w.freeDescriptor σ.slots.keys)
  refine .call rfl (.done ⟨_, _, rfl, ?_, rfl, rfl⟩)
  exact (opens_pipe (w.slot?_freeDescriptor σ) hwriter hne).owes hs

section Closing

variable {s₀ : Interpreter} {σ₀ : System} {owed owed' : List (StreamId × Purpose)}

theorem leads_closeStream {id : StreamId} {purpose : Purpose}
    (howes : Owes s₀ σ₀ owed outcomes s σ) (howed : owed.Perm ((id, purpose) :: owed')) :
    w.Leads (fun ran σ' => ran.1 = .ok () ∧ Owes s₀ σ₀ owed' outcomes ran.2 σ' ∧
        ran.2.input = s.input ∧ ran.2.output = s.output)
      (s.routine (closeStream id)) σ := by
  obtain ⟨handle, hmem, hfree, -⟩ :=
    howes.since.stream (id, purpose) (howed.mem_iff.2 (List.mem_cons_self ..))
  have hclose : s.streams.close? id
      = some (handle, { s.streams with entries := s.streams.entries.filter (·.1 ≠ id) }) := by
    rw [Registry.close?, get?_eq_some howes.sound hmem]
    rfl
  rw [routine_closeStream_some hclose]
  exact .call rfl (.done ⟨rfl, howes.closed howed hmem hfree, rfl, rfl⟩)

/-- All of the given streams are closed. -/
theorem leads_releaseAll (ends : List (StreamId × Purpose))
    (howes : Owes s₀ σ₀ (ends ++ owed) outcomes s σ) :
    w.Leads (fun ran σ' => ran.1 = .ok () ∧ Owes s₀ σ₀ owed outcomes ran.2 σ' ∧
        ran.2.input = s.input ∧ ran.2.output = s.output)
      (s.routine (releaseAll (ends.map Prod.fst))) σ := by
  induction ends generalizing s σ with
  | nil => exact .done ⟨rfl, howes, rfl, rfl⟩
  | cons end_ rest ih =>
    rw [List.map_cons, releaseAll, routine_attempt_bind]
    refine .bind ((leads_closeStream howes (.refl _)).mono fun ran σ₁ hran => ?_)
    obtain ⟨_, s₁⟩ := ran
    obtain ⟨rfl, howes₁, hinput₁, houtput₁⟩ := hran
    rw [routine_attempt_bind]
    refine .bind ((ih howes₁).mono fun ran σ' hran => ?_)
    obtain ⟨_, s'⟩ := ran
    obtain ⟨rfl, howes', hinput', houtput'⟩ := hran
    exact .done ⟨rfl, howes', hinput'.trans hinput₁, houtput'.trans houtput₁⟩

end Closing

/-- The ends of pipes, each with its purpose. -/
def directedEnds (pipes : List (StreamId × StreamId)) : List (StreamId × Purpose) :=
  pipes.flatMap fun pipe => [(pipe.1, .reading), (pipe.2, .toPipe)]

theorem map_directedEnds (pipes : List (StreamId × StreamId)) :
    (directedEnds pipes).map Prod.fst = pipeEnds pipes := by
  induction pipes with
  | nil => rfl
  | cons pipe rest ih => exact congrArg (pipe.1 :: pipe.2 :: ·) ih

theorem leads_createPipes {s₀ : Interpreter} {σ₀ : System} {opened : List (StreamId × StreamId)}
    (howes : Owes s₀ σ₀ (directedEnds opened) outcomes s σ) (count : Nat) :
    w.Leads (fun ran σ' => ∃ pipes, ran.1 = .ok pipes ∧ pipes.length = opened.length + count ∧
        Owes s₀ σ₀ (directedEnds pipes) outcomes ran.2 σ' ∧
        ran.2.input = s.input ∧ ran.2.output = s.output)
      (s.routine (createPipes opened count)) σ := by
  induction count generalizing opened s σ with
  | zero => exact .done ⟨opened, rfl, rfl, howes, rfl, rfl⟩
  | succ count ih =>
    rw [createPipes, routine_attempt_bind]
    refine .bind ((leads_createPipe howes.sound).mono fun ran σ₁ hran => ?_)
    obtain ⟨_, s₁⟩ := ran
    obtain ⟨read, write, rfl, howes₁, hinput₁, houtput₁⟩ := hran
    have howes₂ : Owes s₀ σ₀ (directedEnds (opened ++ [(read, write)])) outcomes s₁ σ₁ := by
      rw [directedEnds, List.flatMap_append]
      exact howes.trans howes₁
    refine (ih howes₂).mono fun ran σ' hran => ?_
    obtain ⟨pipes, hpipes, hlength, howes', hinput', houtput'⟩ := hran
    refine ⟨pipes, hpipes, ?_, howes', hinput'.trans hinput₁, houtput'.trans houtput₁⟩
    rw [hlength, List.length_append, List.length_singleton]
    omega

/-! ## Subshells -/

/-- A copy of the interpreter that has given up what is its parent's. -/
def cleared (s : Interpreter) : Interpreter :=
  { s with
    streams := s.streams.clear, input := none, output := none, children := .empty,
    subshells := [] }

/-- The system of a copy that has installed its streams and closed what is its parent's. -/
def clearedSystem (s : Interpreter) (σ : System) (reader writer : Descriptor) : System :=
  (reader :: s.streams.handles ++ s.subshells.map Subshell.status).foldl System.close
    (installed { σ.openPipe reader writer with ended := ∅ } (s.active s.input) (s.active s.output))

section Clearing

variable {reader writer : Descriptor}

theorem pipes_clearedSystem :
    (s.clearedSystem σ reader writer).pipes = σ.pipes ++ [.empty] := by
  rw [clearedSystem, System.pipes_closeAll, pipes_installed]
  rfl

theorem content_clearedSystem (pipe : Nat) :
    (s.clearedSystem σ reader writer).content pipe = σ.content pipe := by
  rw [System.content, pipes_clearedSystem]
  show (σ.openPipe reader writer).content pipe = _
  exact System.content_openPipe

variable (hs : Sound s σ outcomes) (hinput : s.Has .input s.input)
  (houtput : s.Has .output s.output) (hreader : σ.slot? reader = none)
  (hwriter : σ.slot? writer = none)

include hs hinput houtput hreader hwriter

theorem slot?_clearedSystem (d : Descriptor) :
    (s.clearedSystem σ reader writer).slot? d =
      if d ∈ reader :: s.streams.handles ++ s.subshells.map Subshell.status then none
      else if d = standardOutput then σ.slot? ((s.active s.output).getD standardOutput)
      else if d = standardInput then σ.slot? ((s.active s.input).getD standardInput)
      else (σ.openPipe reader writer).slot? d := by
  rw [clearedSystem, System.slot?_closeAll,
    slot?_installed_active { σ.openPipe reader writer with ended := ∅ } hs hinput houtput
      fun _ => System.slot?_openPipe_of_isSome hreader hwriter]
  rfl

/-- What stands for an endpoint in a copy stood for it in its parent or is the new pipe. -/
theorem slot?_of_cleared {d : Descriptor} {endpoint : Endpoint}
    (h : (s.clearedSystem σ reader writer).slot? d = some endpoint) :
    (∃ d', σ.slot? d' = some endpoint) ∨ endpoint = .readEnd σ.pipes.length ∨
      endpoint = .writeEnd σ.pipes.length := by
  rw [slot?_clearedSystem hs hinput houtput hreader hwriter] at h
  split at h
  · cases h
  split at h
  · exact .inl ⟨_, h⟩
  split at h
  · exact .inl ⟨_, h⟩
  rw [System.slot?_openPipe] at h
  split at h
  · cases h
    exact .inr (.inr rfl)
  split at h
  · cases h
    exact .inr (.inl rfl)
  · exact .inl ⟨d, h⟩

/-- The standard descriptors of a copy stand for what its parent has active. -/
theorem slot?_cleared_standard {d : Descriptor}
    (hd : d ∈ [standardInput, standardOutput, standardError]) :
    (s.clearedSystem σ reader writer).slot? d =
      if d = standardOutput then σ.slot? ((s.active s.output).getD standardOutput)
      else if d = standardInput then σ.slot? ((s.active s.input).getD standardInput)
      else σ.slot? d := by
  have hopen := hs.isOpen d (List.mem_append_left _ (List.mem_append_left _ hd))
  rw [slot?_clearedSystem hs hinput houtput hreader hwriter, if_neg,
    System.slot?_openPipe_of_isSome hreader hwriter hopen]
  have hnodup := hs.nodup
  rw [descriptors, List.append_assoc] at hnodup
  rw [List.cons_append, List.mem_cons, not_or]
  exact ⟨System.ne_of_free hopen hreader,
    fun hmem => (List.nodup_append.1 hnodup).2.2 d hd d hmem rfl⟩

theorem sound_cleared : Sound s.cleared (s.clearedSystem σ reader writer) [] := by
  have hslot : ∀ d ∈ [standardInput, standardOutput, standardError], _ :=
    fun d hd => slot?_cleared_standard hs hinput houtput hreader hwriter hd
  have hstandard : [standardInput, standardOutput, standardError] ⊆ s.descriptors := fun d hd =>
    List.mem_append_left _ (List.mem_append_left _ hd)
  refine ⟨nofun, .nil, ?_, ?_, ?_, .nil, .nil, .nil⟩
  · show [standardInput, standardOutput, standardError].Nodup
    decide
  · intro d hd
    rw [hslot d hd]
    split
    · exact hs.isOpen _ (getD_active_mem hs houtput (hstandard (by simp)))
    split
    · exact hs.isOpen _ (getD_active_mem hs hinput (hstandard (by simp)))
    · exact hs.isOpen d (hstandard hd)
  · intro d pipe hd
    rw [pipes_clearedSystem, List.length_append]
    have hbounded : ∀ d', σ.slot? d' = some (.readEnd pipe) ∨ σ.slot? d' = some (.writeEnd pipe) →
        pipe < σ.pipes.length + 1 := fun d' hd' => Nat.lt_succ_of_lt (hs.bounded d' pipe hd')
    rcases hd with hd | hd <;>
      rcases slot?_of_cleared hs hinput houtput hreader hwriter hd with ⟨d', hd'⟩ | heq | heq
    · exact hbounded d' (.inl hd')
    · cases heq
      exact Nat.lt_succ_self _
    · cases heq
    · exact hbounded d' (.inr hd')
    · cases heq
    · cases heq
      exact Nat.lt_succ_self _

/-- What builtins of a copy write can be written if what those of its parent write can. -/
theorem accepts_cleared (haccepts : s.Accepts w σ) :
    s.cleared.Accepts w (s.clearedSystem σ reader writer) := by
  refine (w.writing_congr ?_).trans haccepts
  have hstandard : standardOutput ∈ [standardInput, standardOutput, standardError] := by simp
  exact (slot?_cleared_standard hs hinput houtput hreader hwriter hstandard).trans (if_pos rfl)

/-- A copy keeps the write end of its own pipe. -/
theorem slot?_cleared_writer (hne : writer ≠ reader) :
    (s.clearedSystem σ reader writer).slot? writer = some (.writeEnd σ.pipes.length) := by
  have hfree : writer ∉ s.descriptors := fun hmem =>
    System.ne_of_free (hs.isOpen writer hmem) hwriter rfl
  simp only [descriptors, List.append_assoc, List.mem_append, List.mem_cons, not_or] at hfree
  rw [slot?_clearedSystem hs hinput houtput hreader hwriter, if_neg, if_neg hfree.1.2.1,
    if_neg hfree.1.1, System.slot?_openPipe, if_pos rfl]
  simp only [List.cons_append, List.mem_cons, List.mem_append, not_or]
  exact ⟨hne, hfree.2⟩

/-- A pipe into which the parent does not write is none into which its copy writes. -/
theorem spares_cleared {pipe : Nat} (hpipe : pipe < σ.pipes.length + 1)
    (hspares : ∀ d ∈ s.writable, σ.slot? d ≠ some (.writeEnd pipe)) :
    (s.clearedSystem σ reader writer).Spares s.cleared.writable pipe := by
  refine ⟨by rwa [pipes_clearedSystem, List.length_append], fun d hd => ?_⟩
  have hd : d ∈ [standardOutput, standardError] := hd
  rw [slot?_cleared_standard hs hinput houtput hreader hwriter (List.mem_cons_of_mem _ hd)]
  simp only [List.mem_cons, List.not_mem_nil, or_false] at hd
  rcases hd with rfl | rfl
  · rw [if_pos rfl]
    exact hspares _ (getD_active_writable hs houtput)
  · exact hspares _ (by simp [writable])

end Clearing

/-- What a subshell does after its body. -/
def farewell (writer : Descriptor) : Outcome → Routine (Unit × Interpreter)
  | .completed code => .exit code
  | .terminate code => .call (.write writer terminated) fun _ => .exit code

theorem run_becomeSubshell (s : Interpreter) (body : InterpreterM Outcome)
    (input output : Option Descriptor) (reader writer : Descriptor) :
    (becomeSubshell body input output reader writer).run s
      = ((installStreams input output).run s).bind fun installed =>
        ((closeAll (reader :: installed.2.streams.handles
          ++ installed.2.subshells.map Subshell.status)).run installed.2).bind fun _ =>
        (body.run installed.2.cleared).bind fun ran => farewell writer ran.1 := by
  unfold becomeSubshell
  rw [run_bind]
  congr 1
  funext installed
  show ((closeAll _).run installed.2).bind _ = _
  congr 1
  funext closed
  show (body.run installed.2.cleared).bind _ = _
  congr 1
  funext ran
  obtain ⟨_ | _, s'⟩ := ran <;> rfl

/-- A body ends a subshell as the outcome says, in every state in which a subshell can start it.
If `writes`, it writes to its output, which must then accept that. -/
def EndsAs (w : Conditions) (environment : Machine.Environment) (writes : Bool)
    (body : InterpreterM Outcome) (outcome : Outcome) : Prop :=
  ∀ (s : Interpreter) (σ : System), Sound s σ [] → s.environment = environment →
    s.input = none → s.output = none → (writes = true → s.Accepts w σ) →
    w.Leads (fun ran σ' => ran.1.mark = outcome.mark ∧
        exitStatus ran.1.code = exitStatus outcome.code ∧ Since s σ [] ran.2 σ')
      (body.run s) σ

theorem exits_becomeSubshell (hs : Sound s σ outcomes) (hinput : s.Has .input s.input)
    (houtput : s.Has .output s.output) {reader writer : Descriptor}
    (hreader : σ.slot? reader = none) (hwriter : σ.slot? writer = none) (hne : writer ≠ reader)
    {writes : Bool} (haccepts : writes = true → s.Accepts w σ) {body : InterpreterM Outcome}
    {outcome : Outcome} (hbody : EndsAs w s.environment writes body outcome) :
    w.Exits (fun code child => code = exitStatus outcome.code ∧
        σ.pipes.length < child.pipes.length ∧ child.content σ.pipes.length = outcome.mark ∧
        ∀ pipe, σ.Spares s.writable pipe → child.content pipe = σ.content pipe)
      ((becomeSubshell body (s.active s.input) (s.active s.output) reader writer).run s)
      { σ.openPipe reader writer with ended := ∅ } := by
  rw [run_becomeSubshell]
  refine .bind ((leads_installStreams _ _).mono fun ran σ₁ hran => ?_)
  rcases ran with ⟨_, s₁⟩
  dsimp only at hran
  obtain ⟨rfl, rfl⟩ := hran
  refine .bind ((leads_closeAll _).mono fun ran σ₁ hran => ?_)
  rw [hran.2]
  change w.Exits _ _ (s₁.clearedSystem σ reader writer)
  have hcleared := sound_cleared hs hinput houtput hreader hwriter
  have hwritten := fun hwrites =>
    accepts_cleared hs hinput houtput hreader hwriter (haccepts hwrites)
  refine .bind ((hbody _ _ hcleared rfl rfl rfl hwritten).mono fun ran σ' hran => ?_)
  obtain ⟨hmark, hcode, hsince⟩ := hran
  have hlength : σ.pipes.length < σ'.pipes.length := by
    refine Nat.lt_of_lt_of_le ?_ hsince.length_le
    rw [pipes_clearedSystem, List.length_append]
    exact Nat.lt_succ_self _
  have hspared : ∀ pipe, pipe < σ.pipes.length + 1 →
      (∀ d ∈ s₁.writable, σ.slot? d ≠ some (.writeEnd pipe)) →
      σ'.content pipe = σ.content pipe := fun pipe hpipe hspares =>
    (hsince.spared pipe (spares_cleared hs hinput houtput hreader hwriter hpipe hspares)).2.trans
      (content_clearedSystem pipe)
  have hkept : ∀ pipe, σ.Spares s₁.writable pipe → σ'.content pipe = σ.content pipe :=
    fun pipe hspares => hspared pipe (Nat.lt_succ_of_lt hspares.1) hspares.2
  have hempty : σ'.content σ.pipes.length = .empty := by
    rw [hspared _ (Nat.lt_succ_self _) fun d _ hslot =>
      Nat.lt_irrefl _ (hs.bounded d _ (.inr hslot))]
    exact System.content_eq_empty (Nat.le_refl _)
  have hslot : σ'.slot? writer = some (.writeEnd σ.pipes.length) := by
    have hwrite := slot?_cleared_writer hs hinput houtput hreader hwriter hne
    rw [hsince.slot_eq writer (by rw [hwrite]; rfl), hwrite]
  obtain ⟨code | code, s'⟩ := ran
  · exact .exit ⟨hcode, hlength, hempty.trans hmark, hkept⟩
  · have hreply : w.answer σ' (.write writer terminated)
        = some (w.writing σ' writer, σ'.setContent σ.pipes.length terminated) := by
      rw [Conditions.answer_write, System.write_eq hslot, hempty]
      rfl
    refine .call hreply (.exit ⟨hcode, ?_, ?_, fun pipe hspares => ?_⟩)
    · rwa [System.setContent, List.length_set]
    · rw [System.content_setContent hlength, if_pos rfl]
      exact hmark
    · rw [System.content_setContent hlength, if_neg (Nat.ne_of_lt hspares.1), hkept pipe hspares]

/-- A subshell is started; it has ended as its body says when its parent goes on. -/
theorem leads_spawnSubshell (hs : Sound s σ outcomes) (hinput : s.Has .input s.input)
    (houtput : s.Has .output s.output) {writes : Bool}
    (haccepts : writes = true → s.Accepts w σ) {body : InterpreterM Outcome} {outcome : Outcome}
    (hbody : EndsAs w s.environment writes body outcome) :
    w.Leads (fun ran σ' => ran.1 = .ok () ∧
        Continues s σ (outcomes ++ [outcome]) ran.2 σ')
      (s.routine (spawnSubshell body)) σ := by
  have hreader := w.slot?_freeDescriptor σ
  obtain ⟨hne, hwriter⟩ := w.slot?_nextDescriptor σ (w.freeDescriptor σ.slots.keys)
  unfold spawnSubshell
  rw [routine_get_bind, routine_bind, routine_activeDescriptor hs hinput]
  show w.Leads _ (s.routine _) σ
  rw [routine_get_bind, routine_bind, routine_activeDescriptor hs houtput]
  show w.Leads _ (s.routine _) σ
  rw [routine_call_bind]
  refine .call rfl ?_
  generalize w.freeDescriptor (w.freeDescriptor σ.slots.keys :: σ.slots.keys) = writer
    at hne hwriter ⊢
  generalize w.freeDescriptor σ.slots.keys = reader at hne hreader ⊢
  dsimp only
  rw [routine_call_bind]
  refine .fork ?_
  dsimp only
  rw [routine_lift]
  refine .of_bind ((exits_becomeSubshell hs hinput houtput hreader hwriter hne haccepts hbody).mono
    fun code child hchild => ?_)
  obtain ⟨rfl, hlength, hmark, hcontent⟩ := hchild
  have hfree : σ.ended.lookup (w.freePid (σ.openPipe reader writer).ended.keys) = none :=
    w.lookup_freePid σ
  generalize w.freePid (σ.openPipe reader writer).ended.keys = pid at hfree ⊢
  refine .call rfl (.done ⟨rfl, ?_⟩)
  have hstarts : Starts s σ ⟨pid, reader⟩ outcome (s.withSubshells (s.subshells ++ [⟨pid, reader⟩]))
      (((σ.openPipe reader writer).childEnded pid (exitStatus outcome.code) child.pipes).close
        writer) := by
    refine ⟨rfl, hreader, hfree, fun d => ?_, rfl, hlength, hmark, hcontent⟩
    rw [System.slot?_close]
    show (if d = writer then none else (σ.openPipe reader writer).slot? d) = _
    rw [System.slot?_openPipe]
    by_cases hd : d = writer
    · rw [if_pos hd, hd, if_neg hne, hwriter]
    · rw [if_neg hd, if_neg hd]
  exact hstarts.continues hs

/-! ## Collecting -/

/-- What is reported of an `exit`: its code, as far as an exit status tells it. -/
def reported (code : Option Int) : Option Int := code.map fun code => (exitStatus code : Int)

section Collecting

variable {s₀ t : Interpreter} {σ₀ : System} {owed : List (StreamId × Purpose)}
  {rest : List Outcome} {outcome : Outcome} {subshell : Subshell} {others : List Subshell}

theorem leads_collectSubshell
    (howes : Owes s₀ σ₀ owed (outcomes ++ outcome :: rest)
      (s.withSubshells (s₀.subshells ++ subshell :: others)) σ)
    (hlength : s₀.subshells.length = outcomes.length) :
    w.Leads (fun ran σ' => ran = (.ok (reported (Recorder.firstExit [outcome])), t) ∧
        Owes s₀ σ₀ owed (outcomes ++ rest) (s.withSubshells (s₀.subshells ++ others)) σ')
      (t.routine (collectSubshell subshell)) σ := by
  have hothers := List.forall₂_drop_append _ _ _ howes.sound.pending
  rw [← hlength, withSubshells, List.drop_left] at hothers
  obtain ⟨hpending, -⟩ := List.forall₂_cons.1 hothers
  obtain ⟨pipe, hslot, -, hcontent⟩ := hpending.marked
  have hwait : w.answer σ (.wait subshell.pid false)
      = some (.ok (.exited (exitStatus outcome.code)), σ.forget subshell.pid) := by
    rw [Conditions.answer_wait, hpending.status_eq]
  have hread : w.answer (σ.forget subshell.pid) (.read subshell.status 1)
      = some (.ok (outcome.mark.extract 0 1), (σ.forget subshell.pid).setContent pipe
        (outcome.mark.extract 1 outcome.mark.size)) := by
    have hslot : (σ.forget subshell.pid).slot? subshell.status = some (.readEnd pipe) := hslot
    have hcontent : (σ.forget subshell.pid).content pipe = outcome.mark := hcontent
    rw [Conditions.answer_read, hslot]
    dsimp only
    rw [hcontent]
  refine .call hwait (.call hread (.call rfl (.done ⟨?_, howes.collected hlength hslot⟩)))
  cases outcome with
  | completed code => rfl
  | terminate code => rfl

/-- All subshells that were started since are collected in order, and the first of them that ended
in an `exit` is reported. -/
theorem leads_collectAll {started : List Subshell} {ended : List Outcome}
    (howes : Owes s₀ σ₀ owed (outcomes ++ ended)
      (s.withSubshells (s₀.subshells ++ started)) σ)
    (hlength : s₀.subshells.length = outcomes.length) :
    w.Leads (fun ran σ' => ran = (.ok (reported (Recorder.firstExit ended)), t) ∧
        Owes s₀ σ₀ owed outcomes (s.withSubshells s₀.subshells) σ')
      (t.routine (collectAll started)) σ := by
  have hcollected : List.Forall₂ (fun _ _ => True) started ended := by
    have hpending := List.forall₂_drop_append _ _ _ howes.sound.pending
    rw [← hlength, withSubshells, List.drop_left] at hpending
    exact hpending.imp fun _ _ _ => trivial
  induction started generalizing ended σ with
  | nil =>
    cases hcollected
    rw [List.append_nil, List.append_nil] at howes
    exact .done ⟨rfl, howes⟩
  | cons subshell others ih =>
    obtain ⟨outcome, rest, -, hothers, rfl⟩ := List.forall₂_cons_left_iff.1 hcollected
    rw [collectAll, routine_attempt_bind]
    refine .bind ((leads_collectSubshell howes hlength).mono fun ran σ₁ hran => ?_)
    obtain ⟨rfl, howes₁⟩ := hran
    dsimp only
    rw [routine_attempt_bind]
    refine .bind ((ih howes₁ hothers).mono fun ran σ' hran => ?_)
    obtain ⟨rfl, howes'⟩ := hran
    cases outcome with
    | completed code => exact .done ⟨rfl, howes'⟩
    | terminate code => exact .done ⟨rfl, howes'⟩

theorem leads_collectSubshells {ended : List Outcome}
    (howes : Owes s₀ σ₀ owed (outcomes ++ ended) s σ)
    (hlength : s₀.subshells.length = outcomes.length) :
    w.Leads (fun ran σ' => ran.1 = .ok (reported (Recorder.firstExit ended)) ∧
        Owes s₀ σ₀ owed outcomes ran.2 σ' ∧ ran.2.input = s.input ∧ ran.2.output = s.output)
      (s.routine (collectSubshells s₀.subshells.length)) σ := by
  obtain ⟨started, hstarted, -⟩ := howes.since.subshells_eq
  have hcollect : s.routine (collectSubshells s₀.subshells.length)
      = (s.withSubshells s₀.subshells).routine (collectAll started) := by
    have htake : s.subshells.take s₀.subshells.length = s₀.subshells := by
      rw [hstarted, List.take_left]
    have hdrop : s.subshells.drop s₀.subshells.length = started := by
      rw [hstarted, List.drop_left]
    show { s with subshells := s.subshells.take s₀.subshells.length }.routine
      (collectAll (s.subshells.drop s₀.subshells.length)) = _
    rw [htake, hdrop]
    rfl
  have hs : s.withSubshells (s₀.subshells ++ started) = s := by rw [← hstarted]; rfl
  rw [hcollect]
  refine (leads_collectAll (hs.symm ▸ howes) hlength).mono fun ran σ' hran => ?_
  obtain ⟨rfl, howes'⟩ := hran
  exact ⟨rfl, howes', rfl, rfl⟩

end Collecting

end Interpreter

end CommandShell
