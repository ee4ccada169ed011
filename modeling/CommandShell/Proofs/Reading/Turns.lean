import CommandShell.Shell
import Mathlib
set_option autoImplicit false

/-!
# The turns of a run

What a shell does from its start to its end can be told from a host that touches no system: it gives
the items of a list, leaves the execution of commands to a function, and writes down what it is
asked.  Such a run is made of turns.  In each of them a command is read, is put into the history,
and is executed or complained about; and the run ends with the first turn that is to end it.
-/

namespace CommandShell

/-! ## A host that writes down what it is asked -/

/-- What a shell asks of the system around it, with the answers. -/
inductive HostCall where
  | loadHistory
  | reapChildren
  | read (prompt : String) (answer : Option SourceItem)
  | addHistory (text : String)
  | execute (command : Command) (result : Except ExecError Outcome)
  | report (error : ShellError)
  | saveHistory

/-- What the source answered, if that is what was asked. -/
def HostCall.answer? : HostCall → Option (Option SourceItem)
  | read _ answer => some answer
  | _ => none

/-- Something that executes commands.  What it does may depend on anything that it has done before;
but every command comes to an end. -/
structure Performer (σ : Type) where
  execute : Command → σ → Except ExecError Outcome × σ
  reapChildren : σ → Nat × σ

/-- A host that writes down what it is asked. -/
structure HostRecorder (σ : Type) where
  performer : Performer σ
  state : σ
  /-- What the source still has. -/
  items : List SourceItem
  /-- What was asked, in order. -/
  calls : List HostCall := []

/-- A computation on a recording host. -/
abbrev HostRecorderM (σ : Type) := StateM (HostRecorder σ)

namespace HostRecorder

variable {σ : Type}

/-- Writes down a call. -/
def note (call : HostCall) (r : HostRecorder σ) : HostRecorder σ :=
  { r with calls := r.calls ++ [call] }

instance : Host (HostRecorderM σ) where
  execute command r :=
    let (result, state) := r.performer.execute command r.state
    (result, { r with state }.note (.execute command result))
  reapChildren r :=
    let (count, state) := r.performer.reapChildren r.state
    (count, { r with state }.note .reapChildren)
  report error r := ((), r.note (.report error))
  readLine prompt r := (r.items.head?, { r with items := r.items.tail }.note
    (.read prompt r.items.head?))
  loadHistory r := ((), r.note .loadHistory)
  addHistory text r := ((), r.note (.addHistory text))
  saveHistory r := ((), r.note .saveHistory)

theorem run_bind {α β : Type} (x : HostRecorderM σ α) (f : α → HostRecorderM σ β)
    (r : HostRecorder σ) : (x >>= f).run r = (f (x.run r).1).run (x.run r).2 := rfl

end HostRecorder

/-! ## Turns -/

namespace Reading

/-- The input ended. -/
def isEnd : Reading → Bool
  | endOfInput | unexpectedEnd => true
  | command .. | rejected _ | failed _ => false

/-- What the source answered while a command was read: the items taken for it, and then nothing if
the input ended. -/
def answers (reading : Reading) (taken : List SourceItem) : List (Option SourceItem) :=
  taken.map some ++ if reading.isEnd then [none] else []

/-- What goes into the history: the text of a complete command that is not blank. -/
def entry : Reading → List String
  | command text _ => if Text.isBlankText text then [] else [text]
  | endOfInput | unexpectedEnd | rejected _ | failed _ => []

/-- What the user is told without anything having been executed. -/
def complaints : Reading → List ShellError
  | command _ tokens =>
    match parse tokens with
    | .error error => [.parse error]
    | .ok _ => []
  | rejected error => [.tokenize error]
  | unexpectedEnd => [.unexpectedEnd]
  | endOfInput | failed _ => []

/-- The command that is to be executed. -/
def toExecute : Reading → Option Command
  | command _ tokens =>
    match parse tokens with
    | .error _ => none
    | .ok parsed => parsed
  | endOfInput | unexpectedEnd | rejected _ | failed _ => none

end Reading

/-- Executes a command if there is one: the command with what came of it. -/
def Performer.perform {σ : Type} (p : Performer σ) (s : σ) :
    Option Command → Option (Command × Except ExecError Outcome) × σ
  | none => (none, s)
  | some command => (some (command, (p.execute command s).1), (p.execute command s).2)

/-- What came of one command. -/
structure Turn where
  /-- The items that were read for it, in order. -/
  items : List SourceItem
  reading : Reading
  /-- The command that was executed, if any was, and what came of it. -/
  executed : Option (Command × Except ExecError Outcome)

/-- A prompt as a shell shows it. -/
def Shell.shown (shell : Shell) (prompt : String) : String :=
  if shell.interactive then prompt else ""

/-- The reads of a command: the first one with the prompt, any further one with the continuation
prompt. -/
def Shell.reads (shell : Shell) : List (Option SourceItem) → List HostCall
  | [] => []
  | first :: further =>
    .read (shell.shown shell.prompt) first ::
      further.map (.read (shell.shown shell.continuationPrompt))

namespace Turn

/-- The execution of a command, and what the user is told when it fails. -/
def execution (turn : Turn) : List HostCall :=
  match turn.executed with
  | none => []
  | some (command, .ok outcome) => [.execute command (.ok outcome)]
  | some (command, .error error) => [.execute command (.error error), .report (.exec error)]

/-- What is asked of the host once the command has been read, in order. -/
def reaction (turn : Turn) : List HostCall :=
  turn.reading.entry.map .addHistory ++ turn.reading.complaints.map .report ++ turn.execution

/-- What is asked of the host in a turn, in order. -/
def calls (shell : Shell) (turn : Turn) : List HostCall :=
  .reapChildren :: (shell.reads (turn.reading.answers turn.items) ++ turn.reaction)

/-- How a turn ends the run, if it does: with an `exit`, at the end of the input, or with a read
fault other than an interruption. -/
def stop (turn : Turn) : Option (Except ShellError Int) :=
  match turn.reading, turn.executed with
  | .command .., some (_, .ok (.terminate code)) => some (.ok code)
  | .command .., _ => none
  | .rejected _, _ => none
  | .failed .interrupted, _ => none
  | .failed fault, _ => some (.error (.readline fault))
  | .unexpectedEnd, _ => some (.ok 1)
  | .endOfInput, _ => some (.ok 0)

end Turn

/-- Turns that follow one another: each reads the next command of what the source still has, and
leaves off where the next one begins. -/
inductive Turns {σ : Type} (p : Performer σ) :
    σ → List SourceItem → List Turn → σ → List SourceItem → Prop where
  | nil (s : σ) (items : List SourceItem) : Turns p s items [] s items
  | cons {s s₁ s' : σ} {turn : Turn} {turns : List Turn} {items items' : List SourceItem} :
    readCommand (turn.items ++ items) = ⟨turn.reading, items⟩ →
    p.perform (p.reapChildren s).2 turn.reading.toExecute = (turn.executed, s₁) →
    Turns p s₁ items turns s' items' →
    Turns p s (turn.items ++ items) (turn :: turns) s' items'

/-! ## Reading a command -/

/-- The reads of a command of which a line may have been read before. -/
def Shell.readsFrom (shell : Shell) (continued : Bool) :
    List (Option SourceItem) → List HostCall
  | [] => []
  | answer :: answers => .read (shell.promptFor continued) answer :: shell.readsFrom true answers

theorem Shell.readsFrom_true (shell : Shell) (answers : List (Option SourceItem)) :
    shell.readsFrom true answers = answers.map (.read (shell.shown shell.continuationPrompt)) := by
  have hprompt : shell.promptFor true = shell.shown shell.continuationPrompt := by
    cases h : shell.interactive <;> simp [promptFor, shown, h]
  induction answers with
  | nil => rfl
  | cons answer answers ih => rw [readsFrom, ih, hprompt, List.map_cons]

theorem Shell.readsFrom_false (shell : Shell) (answers : List (Option SourceItem)) :
    shell.readsFrom false answers = shell.reads answers := by
  have hprompt : shell.promptFor false = shell.shown shell.prompt := by
    cases h : shell.interactive <;> simp [promptFor, shown, h]
  cases answers with
  | nil => rfl
  | cons answer answers => rw [readsFrom, readsFrom_true, hprompt, reads]

/-- An item does not end the input. -/
theorem Progress.after_isEnd {text : String} {continued : Bool} {item : SourceItem}
    {reading : Reading} (h : Progress.after text continued (some item) = .finished reading) :
    reading.isEnd = false := by
  cases item with
  | fault fault => cases h; rfl
  | line line =>
    simp only [Progress.after] at h
    split at h
    · cases h; rfl
    · split at h
      · cases h; rfl
      · cases h

namespace Shell

variable {σ : Type} (shell : Shell) (p : Performer σ) (s : σ)

/-- One read asks the source once, and goes on with what it still has. -/
theorem run_readFrom_succ (text : String) (continued : Bool) (items : List SourceItem)
    (calls : List HostCall) (limit : Nat) :
    (shell.readFrom text continued (limit + 1) : HostRecorderM σ _).run ⟨p, s, items, calls⟩
      = let r : HostRecorder σ := ⟨p, s, items.tail,
          calls ++ [.read (shell.promptFor continued) items.head?]⟩
        match Progress.after text continued items.head? with
        | .finished reading => ((reading, limit), r)
        | .unfinished text => (shell.readFrom text true limit : HostRecorderM σ _).run r := by
  have hread : (Host.readLine (shell.promptFor continued) : HostRecorderM σ _).run
      ⟨p, s, items, calls⟩
        = (items.head?, ⟨p, s, items.tail,
            calls ++ [.read (shell.promptFor continued) items.head?]⟩) := rfl
  rw [readFrom, HostRecorder.run_bind, hread]
  simp only
  cases Progress.after text continued items.head? <;> rfl

/-- Reading a command takes items from the source, one at least unless the input has ended, and asks
for nothing else.  A limit that is above their number makes no difference. -/
theorem run_readFrom {text : String} {continued : Bool} {items : List SourceItem}
    {read : CommandRead} (h : readCommandFrom text continued items = read) :
    ∃ taken, items = taken ++ read.rest ∧ (read.reading.isEnd = false → taken ≠ []) ∧
      ∀ (limit : Nat) (calls : List HostCall), items.length < limit →
        (shell.readFrom text continued limit : HostRecorderM σ _).run ⟨p, s, items, calls⟩
          = ((read.reading, limit - (read.reading.answers taken).length), ⟨p, s, read.rest,
              calls ++ shell.readsFrom continued (read.reading.answers taken)⟩) := by
  -- Each line changes the text and the prompt, so the induction is on the items for any of these.
  induction items generalizing text continued with
  | nil =>
    subst h
    cases continued
    all_goals
      refine ⟨[], rfl, nofun, fun limit calls hlimit => ?_⟩
      obtain ⟨limit, rfl⟩ := Nat.exists_eq_add_one_of_ne_zero (Nat.ne_zero_of_lt hlimit)
      rfl
  | cons item items ih =>
    rw [readCommandFrom] at h
    cases hafter : Progress.after text continued (some item) with
    | finished reading =>
      rw [hafter] at h
      subst h
      have hend : reading.isEnd = false := Progress.after_isEnd hafter
      have hanswers : reading.answers [item] = [some item] := by simp [Reading.answers, hend]
      refine ⟨[item], rfl, fun _ => List.cons_ne_nil _ _, fun limit calls hlimit => ?_⟩
      obtain ⟨limit, rfl⟩ := Nat.exists_eq_add_one_of_ne_zero (Nat.ne_zero_of_lt hlimit)
      rw [run_readFrom_succ, List.head?_cons, hafter, hanswers]
      rfl
    | unfinished text' =>
      rw [hafter] at h
      obtain ⟨taken, hitems, -, hrun⟩ := ih h
      have hanswers : read.reading.answers (item :: taken)
          = some item :: read.reading.answers taken := rfl
      refine ⟨item :: taken, congrArg (item :: ·) hitems, fun _ => List.cons_ne_nil _ _,
        fun limit calls hlimit => ?_⟩
      obtain ⟨limit, rfl⟩ := Nat.exists_eq_add_one_of_ne_zero (Nat.ne_zero_of_lt hlimit)
      rw [run_readFrom_succ, List.head?_cons, hafter, hanswers]
      simp only [List.tail_cons]
      rw [hrun limit _ (Nat.lt_of_succ_lt_succ hlimit), readsFrom, List.append_assoc,
        List.singleton_append, List.length_cons, Nat.add_sub_add_right]

/-! ## Reacting to it -/

/-- What a command comes to is handed on, and the recorder knows of it. -/
theorem run_execute {α : Type} (command : Command)
    (next : Except ExecError Outcome → HostRecorderM σ α) (items : List SourceItem)
    (calls : List HostCall) :
    (Host.execute command >>= next : HostRecorderM σ α).run ⟨p, s, items, calls⟩
      = (next (p.execute command s).1).run ⟨p, (p.execute command s).2, items,
          calls ++ [.execute command (p.execute command s).1]⟩ := rfl

/-- A complete command is executed, or complained about if it cannot be parsed. -/
theorem run_process (text : String) (taken : List SourceItem) {tokens : List Token}
    {executed : Option (Command × Except ExecError Outcome)} {s' : σ} (items : List SourceItem)
    (calls : List HostCall)
    (h : p.perform s (Reading.command text tokens).toExecute = (executed, s')) :
    ∃ code, Turn.stop ⟨taken, .command text tokens, executed⟩ = code.map .ok ∧
      (process tokens : HostRecorderM σ _).run ⟨p, s, items, calls⟩
        = (code, ⟨p, s', items, calls ++ (Reading.command text tokens).complaints.map .report ++
          Turn.execution ⟨taken, .command text tokens, executed⟩⟩) := by
  cases hparse : parse tokens with
  | error error =>
    have hcomplaints : (Reading.command text tokens).complaints = [.parse error] := by
      rw [Reading.complaints, hparse]
    rw [Reading.toExecute, hparse] at h
    cases h
    refine ⟨none, rfl, ?_⟩
    rw [process, hparse, hcomplaints, Turn.execution, List.append_nil]
    rfl
  | ok parsed =>
    have hcomplaints : (Reading.command text tokens).complaints = [] := by
      rw [Reading.complaints, hparse]
    rw [Reading.toExecute, hparse] at h
    rw [process, hparse, hcomplaints, List.map_nil, List.append_nil]
    cases parsed with
    | none =>
      cases h
      refine ⟨none, rfl, ?_⟩
      rw [Turn.execution, List.append_nil]
      rfl
    | some command =>
      cases h
      rw [run_execute]
      cases hresult : (p.execute command s).1 with
      | error error =>
        have hexecution : Turn.execution ⟨taken, .command text tokens,
            some (command, .error error)⟩
              = [.execute command (.error error)] ++ [.report (.exec error)] := rfl
        refine ⟨none, rfl, ?_⟩
        rw [hexecution, ← List.append_assoc]
        rfl
      | ok outcome =>
        cases outcome with
        | completed code => exact ⟨none, rfl, rfl⟩
        | terminate code => exact ⟨some code, rfl, rfl⟩

/-- The history gets the text of a command that is not blank, and then the command is processed. -/
theorem run_react_command (text : String) (tokens : List Token) (items : List SourceItem)
    (calls : List HostCall) :
    (react (.command text tokens) : HostRecorderM σ _).run ⟨p, s, items, calls⟩
      = (do
        match ← process tokens with
        | some code => return .stop (.ok code)
        | none => return .readOn : HostRecorderM σ _).run
          ⟨p, s, items, calls ++ (Reading.command text tokens).entry.map .addHistory⟩ := by
  cases htext : Text.isBlankText text with
  | true =>
    have hentry : (Reading.command text tokens).entry = [] := by simp [Reading.entry, htext]
    rw [hentry, List.map_nil, List.append_nil]
    simp only [react, htext]
    rfl
  | false =>
    have hentry : (Reading.command text tokens).entry = [text] := by simp [Reading.entry, htext]
    rw [hentry]
    simp only [react, htext]
    rfl

/-- What a shell does after a turn. -/
theorem run_react {turn : Turn} {s' : σ} (items : List SourceItem) (calls : List HostCall)
    (h : p.perform s turn.reading.toExecute = (turn.executed, s')) :
    (react turn.reading : HostRecorderM σ _).run ⟨p, s, items, calls⟩
      = (turn.stop.elim .readOn .stop, ⟨p, s', items, calls ++ turn.reaction⟩) := by
  obtain ⟨taken, reading, executed⟩ := turn
  cases reading with
  | command text tokens =>
    obtain ⟨code, hstop, hprocess⟩ := run_process p s text taken items
      (calls ++ (Reading.command text tokens).entry.map .addHistory) h
    rw [run_react_command, HostRecorder.run_bind, hprocess, hstop, Turn.reaction]
    simp only [← List.append_assoc]
    cases code <;> rfl
  | rejected error => cases h; rfl
  | failed fault =>
    cases h
    have hquiet : Turn.reaction ⟨taken, .failed fault, none⟩ = [] := rfl
    rw [hquiet, List.append_nil]
    cases fault <;> rfl
  | unexpectedEnd => cases h; rfl
  | endOfInput =>
    cases h
    have hquiet : Turn.reaction ⟨taken, .endOfInput, none⟩ = [] := rfl
    rw [hquiet, List.append_nil]
    rfl

end Shell

/-! ## From the start to the end -/

/-- A turn that does not end the run leaves the input open. -/
theorem Turn.isEnd_of_stop {turn : Turn} (h : turn.stop = none) : turn.reading.isEnd = false := by
  obtain ⟨taken, reading, executed⟩ := turn
  cases reading with
  | command | rejected | failed => rfl
  | unexpectedEnd | endOfInput => cases h

/-- Once a command has been read, it is put into the history, complained about or executed. -/
theorem Turn.mem_reaction {turn : Turn} {call : HostCall} (h : call ∈ turn.reaction) :
    (∃ text, call = .addHistory text) ∨ (∃ error, call = .report error) ∨
      ∃ command result, call = .execute command result := by
  rcases List.mem_append.mp h with hbefore | hexecution
  · rcases List.mem_append.mp hbefore with hentry | hcomplaint
    · obtain ⟨text, -, rfl⟩ := List.mem_map.mp hentry
      exact .inl ⟨text, rfl⟩
    · obtain ⟨error, -, rfl⟩ := List.mem_map.mp hcomplaint
      exact .inr (.inl ⟨error, rfl⟩)
  · rw [Turn.execution] at hexecution
    split at hexecution
    · cases hexecution
    · cases List.mem_singleton.mp hexecution
      exact .inr (.inr ⟨_, _, rfl⟩)
    · rcases List.mem_cons.mp hexecution with rfl | hreport
      · exact .inr (.inr ⟨_, _, rfl⟩)
      · cases List.mem_singleton.mp hreport
        exact .inr (.inl ⟨_, rfl⟩)

/-- The reads of a command are answered one by one. -/
theorem Shell.filterMap_reads (shell : Shell) (answers : List (Option SourceItem)) :
    (shell.reads answers).filterMap HostCall.answer? = answers := by
  cases answers with
  | nil => rfl
  | cons first further =>
    rw [reads, List.filterMap_cons_some (by rfl), List.filterMap_map]
    exact congrArg (first :: ·) (List.filterMap_some ..)

/-- The reads of a turn are answered by the items that it takes, and by the end of the input if it
comes to that. -/
theorem Turn.filterMap_calls (shell : Shell) (turn : Turn) :
    (turn.calls shell).filterMap HostCall.answer? = turn.reading.answers turn.items := by
  have hreaction : turn.reaction.filterMap HostCall.answer? = [] := by
    rw [List.filterMap_eq_nil_iff]
    intro call hcall
    rcases mem_reaction hcall with ⟨text, rfl⟩ | ⟨error, rfl⟩ | ⟨command, result, rfl⟩ <;> rfl
  rw [calls, List.filterMap_cons_none (by rfl), List.filterMap_append, Shell.filterMap_reads,
    hreaction, List.append_nil]

/-- A turn does not touch what is kept of the history between runs. -/
theorem Turn.mem_calls {shell : Shell} {turn : Turn} {call : HostCall}
    (h : call ∈ turn.calls shell) : call ≠ .loadHistory ∧ call ≠ .saveHistory := by
  rcases List.mem_cons.mp h with rfl | h
  · exact ⟨nofun, nofun⟩
  rcases List.mem_append.mp h with hread | hreaction
  · generalize turn.reading.answers turn.items = answers at hread
    cases answers with
    | nil => cases hread
    | cons first further =>
      rcases List.mem_cons.mp hread with rfl | hfurther
      · exact ⟨nofun, nofun⟩
      · obtain ⟨answer, -, rfl⟩ := List.mem_map.mp hfurther
        exact ⟨nofun, nofun⟩
  · rcases mem_reaction hreaction with ⟨text, rfl⟩ | ⟨error, rfl⟩ | ⟨command, result, rfl⟩
    all_goals exact ⟨nofun, nofun⟩

namespace Turns

variable {σ : Type} {p : Performer σ} {s s' : σ} {items items' : List SourceItem}
  {turns : List Turn}

theorem items_eq (h : Turns p s items turns s' items') :
    items = turns.flatMap Turn.items ++ items' := by
  induction h with
  | nil => rfl
  | cons _ _ _ ih => rw [List.flatMap_cons, List.append_assoc, ← ih]

end Turns

/-- The reads of turns of which only the last may come to the end of the input. -/
theorem Turn.filterMap_flatMap_calls (shell : Shell) (turns : List Turn) (last : Turn)
    (h : ∀ turn ∈ turns, turn.stop = none) :
    ((turns ++ [last]).flatMap (Turn.calls shell)).filterMap HostCall.answer?
      = last.reading.answers ((turns ++ [last]).flatMap Turn.items) := by
  induction turns with
  | nil => simp only [List.nil_append, List.flatMap_singleton, filterMap_calls]
  | cons turn turns ih =>
    obtain ⟨hstop, hgoesOn⟩ := List.forall_mem_cons.mp h
    have hturn : turn.reading.answers turn.items = turn.items.map some := by
      rw [Reading.answers, isEnd_of_stop hstop]
      exact List.append_nil _
    rw [List.cons_append, List.flatMap_cons, List.filterMap_append, ih hgoesOn, filterMap_calls,
      hturn, List.flatMap_cons, Reading.answers, Reading.answers, List.map_append,
      List.append_assoc]

namespace Shell

variable {σ : Type} (shell : Shell) (p : Performer σ)

/-- The loop does one turn.  It goes on behind a turn that does not end the run, and such a turn has
taken an item at least. -/
theorem run_loop_succ (s : σ) (items : List SourceItem) :
    ∃ (turn : Turn) (s₁ : σ) (rest : List SourceItem), items = turn.items ++ rest ∧
      readCommand items = ⟨turn.reading, rest⟩ ∧
      p.perform (p.reapChildren s).2 turn.reading.toExecute = (turn.executed, s₁) ∧
      (turn.stop = none → turn.items ≠ []) ∧
      ∀ (lines limit : Nat) (calls : List HostCall), items.length < lines →
        (∀ result, turn.stop = some result →
          (shell.loop lines (limit + 1) : HostRecorderM σ _).run ⟨p, s, items, calls⟩
            = (result, ⟨p, s₁, rest, calls ++ turn.calls shell⟩)) ∧
        (turn.stop = none →
          (shell.loop lines (limit + 1) : HostRecorderM σ _).run ⟨p, s, items, calls⟩
            = (shell.loop (lines - turn.items.length) limit : HostRecorderM σ _).run
                ⟨p, s₁, rest, calls ++ turn.calls shell⟩) := by
  obtain ⟨taken, hitems, htaken, hrun⟩ :=
    run_readFrom shell p (p.reapChildren s).2 (show readCommand items = _ from rfl)
  let turn : Turn := ⟨taken, (readCommand items).reading,
    (p.perform (p.reapChildren s).2 (readCommand items).reading.toExecute).1⟩
  have hperform : p.perform (p.reapChildren s).2 turn.reading.toExecute
      = (turn.executed, (p.perform (p.reapChildren s).2 turn.reading.toExecute).2) := rfl
  refine ⟨turn, _, (readCommand items).rest, hitems, rfl, hperform,
    fun hstop => htaken (Turn.isEnd_of_stop hstop), fun lines limit calls hlines => ?_⟩
  have hreap : (Host.reapChildren : HostRecorderM σ Nat).run ⟨p, s, items, calls⟩
      = ((p.reapChildren s).1, ⟨p, (p.reapChildren s).2, items, calls ++ [.reapChildren]⟩) := rfl
  have hcalls : calls ++ [.reapChildren] ++
      shell.readsFrom false (turn.reading.answers turn.items) ++ turn.reaction
        = calls ++ turn.calls shell := by
    rw [readsFrom_false, List.append_assoc, List.append_assoc, Turn.calls, List.singleton_append]
  have hreact := run_react p (p.reapChildren s).2 (readCommand items).rest
    (calls ++ [.reapChildren] ++ shell.readsFrom false (turn.reading.answers turn.items)) hperform
  rw [hcalls] at hreact
  rw [loop, HostRecorder.run_bind, hreap, HostRecorder.run_bind, hrun lines _ hlines]
  simp only
  rw [HostRecorder.run_bind, hreact]
  refine ⟨fun result hstop => by rw [hstop]; rfl, fun hstop => ?_⟩
  have hlength : (turn.reading.answers turn.items).length = turn.items.length := by
    simp [Reading.answers, Turn.isEnd_of_stop hstop]
  rw [hstop, ← hlength]
  rfl

/-- The loop goes on turn by turn up to the first one that ends the run.  Limits that are above the
number of items make no difference. -/
theorem run_loop (s : σ) (items : List SourceItem) :
    ∃ turns last s' items' result, Turns p s items (turns ++ [last]) s' items' ∧
      (∀ turn ∈ turns, turn.stop = none) ∧ last.stop = some result ∧
      ∀ (lines limit : Nat) (calls : List HostCall), items.length < lines → items.length < limit →
        (shell.loop lines limit : HostRecorderM σ _).run ⟨p, s, items, calls⟩
          = (result, ⟨p, s', items', calls ++ (turns ++ [last]).flatMap (Turn.calls shell)⟩) := by
  obtain ⟨turn, s₁, rest, hitems, hread, hperform, htaken, hrun⟩ := run_loop_succ shell p s items
  cases hstop : turn.stop with
  | some result =>
    subst hitems
    refine ⟨[], turn, s₁, rest, result, .cons hread hperform (.nil ..), by simp, hstop, ?_⟩
    intro lines limit calls hlines hlimit
    obtain ⟨limit, rfl⟩ := Nat.exists_eq_add_one_of_ne_zero (Nat.ne_zero_of_lt hlimit)
    rw [(hrun lines limit calls hlines).1 result hstop, List.nil_append, List.flatMap_singleton]
  | none =>
    -- What is left is shorter by the items of the turn, and so are the limits.
    have hpos : 0 < turn.items.length := List.length_pos_iff.mpr (htaken hstop)
    have hlength : items.length = turn.items.length + rest.length := by
      rw [hitems, List.length_append]
    obtain ⟨turns, last, s', items', result, hturns, hgoesOn, hlast, hloop⟩ := run_loop s₁ rest
    subst hitems
    refine ⟨turn :: turns, last, s', items', result, .cons hread hperform hturns,
      List.forall_mem_cons.mpr ⟨hstop, hgoesOn⟩, hlast, ?_⟩
    intro lines limit calls hlines hlimit
    obtain ⟨limit, rfl⟩ := Nat.exists_eq_add_one_of_ne_zero (Nat.ne_zero_of_lt hlimit)
    rw [(hrun lines limit calls hlines).2 hstop, hloop _ limit _ (by omega) (by omega),
      List.append_assoc]
    rfl
termination_by items.length
decreasing_by omega

/-- A run comes to an end: it is a row of turns of which the last and no other one ends it.  The
history is loaded before them and saved behind them, and at no other time.  What they read are the
first items of the source, each of them once, and behind these the end of the input if that is what
ended the run. -/
theorem run_turns (s : σ) (items : List SourceItem) :
    ∃ turns last result, ∃ r : HostRecorder σ,
      (∀ limit, items.length < limit →
        (shell.run limit : HostRecorderM σ _).run ⟨p, s, items, []⟩ = (result, r)) ∧
      Turns p s items (turns ++ [last]) r.state r.items ∧
      (∀ turn ∈ turns, turn.stop = none) ∧ last.stop = some result ∧
      ∃ asked, r.calls = .loadHistory :: asked ++ [.saveHistory] ∧
        asked = (turns ++ [last]).flatMap (Turn.calls shell) ∧
        .loadHistory ∉ asked ∧ .saveHistory ∉ asked ∧
        ∃ taken, items = taken ++ r.items ∧
          asked.filterMap HostCall.answer? = last.reading.answers taken := by
  obtain ⟨turns, last, s', items', result, hturns, hgoesOn, hlast, hloop⟩ :=
    run_loop shell p s items
  have hcalls (call : HostCall) (h : call ∈ (turns ++ [last]).flatMap (Turn.calls shell)) :
      call ≠ .loadHistory ∧ call ≠ .saveHistory := by
    obtain ⟨turn, -, hcall⟩ := List.mem_flatMap.mp h
    exact Turn.mem_calls hcall
  refine ⟨turns, last, result, ⟨p, s', items', .loadHistory ::
    (turns ++ [last]).flatMap (Turn.calls shell) ++ [.saveHistory]⟩, fun limit hlimit => ?_,
    hturns, hgoesOn, hlast, _, rfl, rfl, fun h => (hcalls _ h).1 rfl, fun h => (hcalls _ h).2 rfl,
    _, hturns.items_eq, Turn.filterMap_flatMap_calls shell turns last hgoesOn⟩
  have hload : (Host.loadHistory : HostRecorderM σ Unit).run ⟨p, s, items, []⟩
      = ((), ⟨p, s, items, [.loadHistory]⟩) := rfl
  rw [run, HostRecorder.run_bind, hload, HostRecorder.run_bind,
    hloop limit limit _ hlimit hlimit]
  rfl

end Shell

/-- Commands of which it is settled beforehand what comes of them. -/
def Performer.scripted : Performer (List (Except ExecError Outcome)) where
  execute _ results := (results.headD (.ok (.completed 0)), results.tail)
  reapChildren results := (0, results)

/-- A shell with a user in front of it. -/
def Shell.attended : Shell := ⟨true, "$ ", "> "⟩

/-- Lines with errors of every kind, an `exit`, and a line behind it. -/
def SourceItem.mistakes : List SourceItem :=
  [.line "a & b", .line "(c", .fault .interrupted, .line "# d", .line "> e", .line "f",
    .line "exit 3", .line "g"]

theorem run_turns_mistakes :
    SourceItem.mistakes.length < 9 ∧ ∃ turns last,
      Turns .scripted [.error (.fork .tryAgain), .ok (.terminate 3)] SourceItem.mistakes
        (turns ++ [last]) [] [.line "g"] ∧
      (∀ turn ∈ turns, turn.stop = none) ∧ last.stop = some (.ok 3) ∧
      (turns ++ [last]).flatMap (Turn.calls .attended)
        = [.reapChildren, .read "$ " (some (.line "a & b")),
            .report (.tokenize (.unexpected '&')),
          .reapChildren, .read "$ " (some (.line "(c")), .read "> " (some (.fault .interrupted)),
          .reapChildren, .read "$ " (some (.line "# d")), .addHistory "# d",
          .reapChildren, .read "$ " (some (.line "> e")), .addHistory "> e",
            .report (.parse .redirectionWithoutCommand),
          .reapChildren, .read "$ " (some (.line "f")), .addHistory "f",
            .execute (.executable "f" []) (.error (.fork .tryAgain)),
            .report (.exec (.fork .tryAgain)),
          .reapChildren, .read "$ " (some (.line "exit 3")), .addHistory "exit 3",
            .execute (.builtin (.exit ["3"])) (.ok (.terminate 3))] := by
  obtain ⟨turns, last, result, r, hrun, hturns, hgoesOn, hlast, asked, hcalls, hasked, -⟩ :=
    Shell.run_turns .attended .scripted [.error (.fork .tryAgain), .ok (.terminate 3)]
      SourceItem.mistakes
  have hlimit : SourceItem.mistakes.length < 9 := by decide
  have hasked' : asked = r.calls.tail.dropLast := by rw [hcalls]; simp
  have heval := hrun 9 hlimit
  cbv at heval
  cases heval
  exact ⟨hlimit, turns, last, hturns, hgoesOn, hlast, hasked.symm.trans hasked'⟩

end CommandShell
