import CommandShell.Proofs.Parsing.Writing
import CommandShell.Shell
set_option autoImplicit false

/-!
# Open parentheses

The tokenizer counts parentheses in a depth that may fall below zero and rise again.  The parser
keeps a list of open scopes, in which the sequence at the root has a place as well, and fails at
the first parenthesis that closes nothing.  As long as the parser goes on, the two agree after every
token; so a reader that asks for more lines while the depth is positive never gives the parser a
command that ends inside a scope.
-/

namespace CommandShell

/-! ## The depth of a text -/

namespace Lexer

/-- What a text adds to the depth is what its tokens change. -/
theorem depth_tokenizeFrom {tokens : List Token} {depth : Int} {cs : List Char} {lexed : Lexed}
    (h : tokenizeFrom tokens depth cs = .ok lexed) :
    lexed.depth - scopeChanges lexed.tokens = depth - scopeChanges tokens.reverse := by
  fun_induction tokenizeFrom tokens depth cs with
  | case1 tokens depth cs hskip =>
    obtain rfl := Except.ok.inj h
    rfl
  | case2 tokens depth cs c rest hskip op after hread ih =>
    have hrest := ih h
    rw [List.reverse_cons, scopeChanges_append] at hrest
    simp only [scopeChanges, Token.scopeChange] at hrest
    omega
  | case3 => cases h
  | case4 tokens depth cs c rest hskip hread hc read tokens' hgoes ih =>
    have hword : scopeChanges tokens'.reverse = scopeChanges tokens.reverse := by
      simp [tokens', hgoes.1, scopeChanges_append, scopeChanges, Token.scopeChange]
    rw [ih h, hword]
  | case5 tokens depth cs c rest hskip hread hc read tokens' hends =>
    obtain rfl := Except.ok.inj h
    by_cases hfound : read.found = true
    · simp [tokens', hfound, scopeChanges_append, scopeChanges, Token.scopeChange]
    · simp [tokens', hfound]

end Lexer

/-- The depth of a text is what its tokens change. -/
theorem depth_eq_scopeChanges {text : String} {lexed : Lexed} (h : tokenize text = .ok lexed) :
    lexed.depth = scopeChanges lexed.tokens := by
  have hdepth := Lexer.depth_tokenizeFrom h
  simp only [List.reverse_nil, scopeChanges] at hdepth
  omega

theorem Lexed.inScope_iff {text : String} {lexed : Lexed} (h : tokenize text = .ok lexed) :
    lexed.inScope = true ↔ 0 < scopeChanges lexed.tokens := by
  rw [Lexed.inScope, depth_eq_scopeChanges h, decide_eq_true_iff]

namespace Parser

/-- An error of two steps is that of the first or, after it, that of the second. -/
theorem error_of_bind_eq_error {ε α β : Type} {x : Except ε α} {next : α → Except ε β} {e : ε}
    (h : x >>= next = .error e) : x = .error e ∨ ∃ a, x = .ok a ∧ next a = .error e := by
  cases x with
  | error e' => exact .inl (congrArg _ (Except.error.inj h))
  | ok a => exact .inr ⟨a, rfl, h⟩

/-! ## One token -/

namespace State

/-- So many parentheses are open.  The root's own scope is listed beside them. -/
def HasOpen (s : State) (count : Nat) : Prop := s.scopes.length = count + s.rootSequence.toNat

variable {s t : State} {count : Nat} {e : ParseError}

theorem HasOpen.initial : initial.HasOpen 0 := rfl

theorem HasOpen.word {text : String} (hs : s.HasOpen count) (h : s.word text = .ok t) :
    t.HasOpen count := by
  unfold State.word at h
  repeat' split at h
  all_goals cases h <;> exact hs

theorem HasOpen.nextItem (hs : s.HasOpen count) : s.nextItem.HasOpen count := by
  unfold State.nextItem
  dsimp only
  split <;> exact hs

/-- The root's own scope opens no parenthesis. -/
theorem HasOpen.openRootSequence (hs : s.HasOpen count) (hscopes : s.scopes = []) :
    s.openRootSequence.HasOpen count := by
  have hcount : count = 0 := by
    rw [HasOpen, hscopes, List.length_nil] at hs
    omega
  unfold State.openRootSequence
  split <;> exact hcount ▸ rfl

theorem HasOpen.separator (hs : s.HasOpen count) (h : s.separator = .ok t) : t.HasOpen count := by
  obtain ⟨_, -, hnext⟩ := exists_of_bind_eq_ok h
  obtain rfl := Except.ok.inj hnext
  by_cases hscopes : s.scopes = []
  · rw [if_pos (List.isEmpty_iff.2 hscopes)]
    exact (hs.openRootSequence hscopes).nextItem
  · rw [if_neg (mt List.isEmpty_iff.1 hscopes)]
    exact hs.nextItem

theorem HasOpen.connective {connective : Connective} (hs : s.HasOpen count)
    (h : s.connective connective = .ok t) : t.HasOpen count := by
  obtain ⟨_, -, hnext⟩ := exists_of_bind_eq_ok h
  split at hnext
  · cases hnext
  · cases hnext
    exact hs

theorem HasOpen.redirection {redirect : Redirect} (hs : s.HasOpen count)
    (h : s.redirection redirect = .ok t) : t.HasOpen count := by
  obtain ⟨_, -, hnext⟩ := exists_of_bind_eq_ok h
  split at hnext
  · cases hnext
  · cases hnext
    exact hs

theorem HasOpen.openScope (hs : s.HasOpen count) (h : s.openScope = .ok t) :
    t.HasOpen (count + 1) := by
  obtain ⟨_, -, hnext⟩ := exists_of_bind_eq_ok h
  split at hnext
  · cases hnext
  · cases hnext
    change s.scopes.length + 1 = count + 1 + s.rootSequence.toNat
    rw [hs]
    omega

/-- A parenthesis is closed only if one is open: the root's own scope is not closed by one. -/
theorem HasOpen.closeScope (hs : s.HasOpen count) (h : s.closeScope = .ok t) :
    ∃ fewer, count = fewer + 1 ∧ t.HasOpen fewer := by
  obtain ⟨_, -, hnext⟩ := exists_of_bind_eq_ok h
  split at hnext
  · cases hnext
  case h_2 scope outer hscopes =>
    rw [HasOpen, hscopes, List.length_cons] at hs
    by_cases hroot : (outer.isEmpty && s.rootSequence) = true
    · rw [if_pos hroot] at hnext
      cases hnext
    · rw [if_neg hroot] at hnext
      obtain rfl := Except.ok.inj hnext
      have hpositive : s.rootSequence.toNat ≤ outer.length := by
        cases outer with
        | nil => simp_all
        | cons => exact (Bool.toNat_le _).trans (Nat.le_add_left 1 _)
      exact ⟨outer.length - s.rootSequence.toNat, by omega, by simp only [HasOpen]; omega⟩

/-- A token that is taken changes the number of open parentheses as the tokenizer counts it. -/
theorem HasOpen.step {token : Token} (hs : s.HasOpen count) (h : s.step token = .ok t) :
    ∃ count', t.HasOpen count' ∧ (count' : Int) = count + token.scopeChange := by
  cases token with
  | word text => exact ⟨count, hs.word h, (Int.add_zero _).symm⟩
  | operator op =>
    cases op with
    | sequence => exact ⟨count, hs.separator h, (Int.add_zero _).symm⟩
    | conjunction | disjunction | pipe => exact ⟨count, hs.connective h, (Int.add_zero _).symm⟩
    | inputRedirect | outputRedirect | appendRedirect =>
      exact ⟨count, hs.redirection h, (Int.add_zero _).symm⟩
    | openScope => exact ⟨count + 1, hs.openScope h, rfl⟩
    | closeScope =>
      obtain ⟨fewer, rfl, hfewer⟩ := hs.closeScope h
      exact ⟨fewer, hfewer, by simp [Token.scopeChange, Operator.scopeChange]⟩

/-- Only a missing path fails the check for one. -/
theorem expectNoPendingPath_error (h : s.expectNoPendingPath = .error e) :
    e = .redirectionWithoutPath := by
  unfold expectNoPendingPath at h
  split at h
  · exact (Except.error.inj h).symm
  · cases h

/-- The check for a missing path gives no error about parentheses. -/
theorem bind_expectNoPendingPath_error {next : Unit → Except ParseError State}
    (h : s.expectNoPendingPath >>= next = .error e) :
    e = .redirectionWithoutPath ∨ next () = .error e := by
  obtain hcheck | ⟨_, -, hnext⟩ := error_of_bind_eq_error h
  · exact .inl (expectNoPendingPath_error hcheck)
  · exact .inr hnext

/-- A closing parenthesis that is refused stands where none is open. -/
theorem HasOpen.closeScope_error (hs : s.HasOpen count) (h : s.closeScope = .error e) :
    e = .redirectionWithoutPath ∨ e = .unbalancedClose ∧ count = 0 := by
  refine (bind_expectNoPendingPath_error h).imp_right fun hnext => ?_
  rw [HasOpen] at hs
  split at hnext
  case h_1 hscopes =>
    rw [hscopes, List.length_nil] at hs
    exact ⟨(Except.error.inj hnext).symm, by omega⟩
  case h_2 scope outer hscopes =>
    by_cases hroot : (outer.isEmpty && s.rootSequence) = true
    · rw [if_pos hroot] at hnext
      rw [Bool.and_eq_true, List.isEmpty_iff] at hroot
      rw [hscopes, hroot.1, hroot.2] at hs
      exact ⟨(Except.error.inj hnext).symm, (Nat.succ.inj hs).symm⟩
    · rw [if_neg hroot] at hnext
      cases hnext

/-- The only error of a token that is about parentheses is that of a closing one where none is
open. -/
theorem HasOpen.step_error {token : Token} (hs : s.HasOpen count) (h : s.step token = .error e) :
    e ≠ .unbalancedOpen ∧
      (e = .unbalancedClose → token = .operator .closeScope ∧ count = 0) := by
  cases token with
  | word text =>
    change s.word text = .error e at h
    unfold State.word at h
    repeat' split at h
    all_goals cases h <;> simp
  | operator op =>
    cases op with
    | closeScope =>
      obtain rfl | ⟨rfl, hcount⟩ := hs.closeScope_error h
      · simp
      · simp [hcount]
    | sequence =>
      obtain rfl | hnext := bind_expectNoPendingPath_error h
      · simp
      · cases hnext
    | conjunction | disjunction | pipe | inputRedirect | outputRedirect | appendRedirect
    | openScope =>
      obtain rfl | hnext := bind_expectNoPendingPath_error h
      · simp
      · split at hnext <;> cases hnext
        simp

/-! ## All tokens -/

theorem steps_cons (s : State) (token : Token) (tokens : List Token) :
    s.steps (token :: tokens) = s.step token >>= fun s => s.steps tokens :=
  List.foldlM_cons ..

theorem steps_append (s : State) (tokens tokens' : List Token) :
    s.steps (tokens ++ tokens') = s.steps tokens >>= fun s => s.steps tokens' :=
  List.foldlM_append ..

/-- Tokens that are all taken change the number of open parentheses as the tokenizer counts. -/
theorem HasOpen.steps {tokens : List Token} (hs : s.HasOpen count) (h : s.steps tokens = .ok t) :
    ∃ count', t.HasOpen count' ∧ (count' : Int) = count + scopeChanges tokens := by
  induction tokens generalizing s count with
  | nil =>
    obtain rfl := Except.ok.inj h
    exact ⟨count, hs, (Int.add_zero _).symm⟩
  | cons token tokens ih =>
    rw [steps_cons] at h
    obtain ⟨next, hstep, hrest⟩ := exists_of_bind_eq_ok h
    obtain ⟨between, hnext, hbetween⟩ := hs.step hstep
    obtain ⟨count', hend, hcount'⟩ := ih hnext hrest
    exact ⟨count', hend, by rw [hcount', hbetween, scopeChanges, Int.add_assoc]⟩

/-- Tokens that are not all taken stop at the first that is refused. -/
theorem exists_of_steps_error {tokens : List Token} (h : s.steps tokens = .error e) :
    ∃ taken token rest next, tokens = taken ++ token :: rest ∧ s.steps taken = .ok next ∧
      next.step token = .error e := by
  induction tokens generalizing s with
  | nil => cases h
  | cons token tokens ih =>
    rw [steps_cons] at h
    cases hstep : s.step token with
    | error e' =>
      rw [hstep] at h
      obtain rfl := Except.error.inj h
      exact ⟨[], token, tokens, s, rfl, rfl, hstep⟩
    | ok next =>
      rw [hstep] at h
      obtain ⟨taken, refused, rest, last, rfl, htaken, hrefused⟩ := ih h
      exact ⟨token :: taken, refused, rest, last, rfl, by rw [steps_cons, hstep]; exact htaken,
        hrefused⟩

/-- What begins tokens that are all taken is taken. -/
theorem exists_of_steps_prefix {tokens taken : List Token} (h : s.steps tokens = .ok t)
    (hbegins : taken <+: tokens) : ∃ next, s.steps taken = .ok next := by
  obtain ⟨rest, rfl⟩ := hbegins
  rw [steps_append] at h
  obtain ⟨next, htaken, -⟩ := exists_of_bind_eq_ok h
  exact ⟨next, htaken⟩

end State

/-! ## The end of the tokens -/

/-- A list of results with an error among them has that of one of its members. -/
theorem exists_of_mapM_error {ε α β : Type} {f : α → Except ε β} {e : ε} {as : List α}
    (h : as.mapM f = .error e) : ∃ a ∈ as, f a = .error e := by
  induction as with
  | nil => cases h
  | cons a as ih =>
    rw [List.mapM_cons] at h
    obtain hfirst | ⟨_, -, hnext⟩ := error_of_bind_eq_error h
    · exact ⟨a, List.mem_cons_self .., hfirst⟩
    · obtain hrest | ⟨_, -, hlast⟩ := error_of_bind_eq_error hnext
      · obtain ⟨a', hmem, ha'⟩ := ih hrest
        exact ⟨a', List.mem_cons_of_mem _ hmem, ha'⟩
      · cases hlast

/-- Drafts that make no command have no error about parentheses that do not match. -/
theorem build_error {slots : Slots} {fuel : Nat} {slot : SlotId} {e : ParseError}
    (h : build slots fuel slot = .error e) : e ≠ .unbalancedOpen ∧ e ≠ .unbalancedClose := by
  induction fuel generalizing slot with
  | zero =>
    obtain rfl := Except.error.inj h
    simp
  | succ fuel ih =>
    rw [build] at h
    split at h
    · cases h
    · cases h
    case h_3 items enclosed hslot =>
      obtain hitems | ⟨commands, -, hgather⟩ := error_of_bind_eq_error h
      · obtain ⟨item, -, hitem⟩ := exists_of_mapM_error hitems
        exact ih hitem
      · split at hgather <;> cases hgather
        simp
    case h_4 connective primary secondary hslot =>
      obtain hprimary | ⟨first, -, hnext⟩ := error_of_bind_eq_error h
      · exact ih hprimary
      cases first with
      | none =>
        cases hnext
        simp
      | some first =>
        obtain hsecondary | ⟨second, -, hlast⟩ := error_of_bind_eq_error hnext
        · exact ih hsecondary
        cases second with
        | none =>
          cases hlast
          simp
        | some second => cases hlast
    case h_5 redirect primary path hslot =>
      obtain hprimary | ⟨first, -, hnext⟩ := error_of_bind_eq_error h
      · exact ih hprimary
      cases first <;> cases path <;> cases hnext
      all_goals simp

namespace State

variable {s : State} {count : Nat} {e : ParseError} {command : Option Command}

theorem HasOpen.lt_length_iff (hs : s.HasOpen count) :
    s.scopes.length > (if s.rootSequence then 1 else 0) ↔ 0 < count := by
  rw [HasOpen] at hs
  cases hroot : s.rootSequence <;> simp [hroot] at hs ⊢ <;> omega

/-- The end of the tokens is the end of a command only where no parenthesis is open. -/
theorem HasOpen.finish_ok (hs : s.HasOpen count) (h : s.finish = .ok command) : count = 0 := by
  obtain ⟨_, -, hnext⟩ := exists_of_bind_eq_ok h
  by_cases hopen : s.scopes.length > (if s.rootSequence then 1 else 0)
  · rw [if_pos hopen] at hnext
    cases hnext
  · exact Nat.eq_zero_of_not_pos (mt hs.lt_length_iff.2 hopen)

/-- An error at the end of the tokens is that of an open parenthesis only where one is open, and
never that of one which closes nothing. -/
theorem HasOpen.finish_error (hs : s.HasOpen count) (h : s.finish = .error e) :
    (e = .unbalancedOpen → 0 < count) ∧ e ≠ .unbalancedClose := by
  obtain hcheck | ⟨_, -, hnext⟩ := error_of_bind_eq_error h
  · obtain rfl := expectNoPendingPath_error hcheck
    exact ⟨nofun, nofun⟩
  by_cases hopen : s.scopes.length > (if s.rootSequence then 1 else 0)
  · rw [if_pos hopen] at hnext
    cases hnext
    exact ⟨fun _ => hs.lt_length_iff.1 hopen, nofun⟩
  · rw [if_neg hopen] at hnext
    dsimp only at hnext
    by_cases hdeep : (!withinDepth s.slots (maxDepth + 1) root) = true
    · rw [if_pos hdeep] at hnext
      cases hnext
      exact ⟨nofun, nofun⟩
    · rw [if_neg hdeep] at hnext
      exact ⟨fun hopen => absurd hopen (build_error hnext).1, (build_error hnext).2⟩

end State

/-! ## Parsing -/

section Parsing

variable {tokens : List Token} {command : Option Command}

/-- Tokens of a command leave no parenthesis open. -/
theorem scopeChanges_of_parse_ok (h : parse tokens = .ok command) : scopeChanges tokens = 0 := by
  obtain ⟨s, hsteps, hfinish⟩ := exists_of_bind_eq_ok h
  obtain ⟨count, hs, hcount⟩ := State.HasOpen.initial.steps hsteps
  rw [hs.finish_ok hfinish] at hcount
  omega

/-- Tokens that are all taken never close more parentheses than they open. -/
theorem scopeChanges_prefix_nonneg {s : State} {taken : List Token}
    (h : State.initial.steps tokens = .ok s) (hbegins : taken <+: tokens) :
    0 ≤ scopeChanges taken := by
  obtain ⟨next, htaken⟩ := State.exists_of_steps_prefix h hbegins
  obtain ⟨count, -, hcount⟩ := State.HasOpen.initial.steps htaken
  omega

/-- Tokens refused for an open parenthesis open more parentheses than they close. -/
theorem scopeChanges_of_unbalancedOpen (h : parse tokens = .error .unbalancedOpen) :
    0 < scopeChanges tokens := by
  obtain hsteps | ⟨s, hsteps, hfinish⟩ := error_of_bind_eq_error h
  · obtain ⟨taken, token, rest, next, -, htaken, hrefused⟩ := State.exists_of_steps_error hsteps
    obtain ⟨count, hnext, -⟩ := State.HasOpen.initial.steps htaken
    exact absurd rfl (hnext.step_error hrefused).1
  · obtain ⟨count, hs, hcount⟩ := State.HasOpen.initial.steps hsteps
    have hpositive := (hs.finish_error hfinish).1 rfl
    omega

/-- Tokens refused for a closing parenthesis begin with some that close more than they open. -/
theorem exists_prefix_of_unbalancedClose (h : parse tokens = .error .unbalancedClose) :
    ∃ taken, taken <+: tokens ∧ scopeChanges taken < 0 := by
  obtain hsteps | ⟨s, hsteps, hfinish⟩ := error_of_bind_eq_error h
  · obtain ⟨taken, token, rest, next, rfl, htaken, hrefused⟩ := State.exists_of_steps_error hsteps
    obtain ⟨count, hnext, hcount⟩ := State.HasOpen.initial.steps htaken
    obtain ⟨rfl, rfl⟩ := (hnext.step_error hrefused).2 rfl
    refine ⟨taken ++ [.operator .closeScope], ⟨rest, by rw [List.append_assoc]; rfl⟩, ?_⟩
    rw [scopeChanges_append, ← Int.zero_add (scopeChanges taken)]
    exact hcount ▸ by decide
  · obtain ⟨count, hs, -⟩ := State.HasOpen.initial.steps hsteps
    exact absurd rfl (hs.finish_error hfinish).2

/-- Where nothing else is refused, tokens that close more than they open are refused for it. -/
theorem parse_unbalancedClose
    (honly : ∀ taken e, taken <+: tokens → State.initial.steps taken = .error e →
      e = .unbalancedClose)
    {taken : List Token} (hbegins : taken <+: tokens) (hclosed : scopeChanges taken < 0) :
    parse tokens = .error .unbalancedClose := by
  cases hsteps : State.initial.steps tokens with
  | ok s =>
    have hnonneg := scopeChanges_prefix_nonneg hsteps hbegins
    omega
  | error e =>
    obtain rfl := honly tokens e (List.prefix_refl _) hsteps
    rw [parse, hsteps]
    rfl

end Parsing

end Parser

/-! ## The read loop -/

theorem Lexed.isComplete_of_continuation {lexed : Lexed} (h : lexed.continuation = none) :
    lexed.isComplete = true := by
  unfold Lexed.continuation at h
  repeat' split at h
  all_goals first | assumption | cases h

/-- What is read as a command is the tokens of a complete text. -/
theorem readCommandFrom_command {text text' : String} {continued : Bool} {items : List SourceItem}
    {tokens : List Token}
    (h : (readCommandFrom text continued items).reading = .command text' tokens) :
    ∃ lexed, tokenize text' = .ok lexed ∧ lexed.tokens = tokens ∧ lexed.isComplete = true := by
  fun_induction readCommandFrom text continued items with
  | case1 text continued => cases continued <;> cases h
  | case2 text continued item rest reading hafter =>
    obtain rfl : reading = .command text' tokens := h
    cases item with
    | fault fault => cases hafter
    | line line =>
      simp only [Progress.after] at hafter
      split at hafter
      · cases hafter
      case h_2 lexed htokenize =>
        cases hcontinuation : lexed.continuation with
        | none =>
          rw [hcontinuation] at hafter
          obtain ⟨rfl, rfl⟩ := Reading.command.inj (Progress.finished.inj hafter)
          exact ⟨lexed, htokenize, rfl, Lexed.isComplete_of_continuation hcontinuation⟩
        | some continuation =>
          rw [hcontinuation] at hafter
          cases hafter
  | case3 text continued item rest longer hafter ih => exact ih h

/-- The tokenizer and the parser agree on parentheses.  A text whose depth is not positive is not
refused for an open one, and one whose depth is positive never makes a command.  The tokens of a
command open as many as they close, and no beginning of them closes more.  Where the tokens are
refused for nothing else, they are refused for a closing one if and only if some beginning of them
closes more than it opens.  What a reader takes for a command leaves no scope open, and is not
refused for an open parenthesis. -/
theorem tokenize_parse_balance :
    (∀ text lexed, tokenize text = .ok lexed →
      (lexed.inScope = false → parse lexed.tokens ≠ .error .unbalancedOpen) ∧
      (lexed.inScope = true → ∀ command, parse lexed.tokens ≠ .ok command) ∧
      (∀ command, parse lexed.tokens = .ok command →
        lexed.tokens.count (.operator .openScope) = lexed.tokens.count (.operator .closeScope) ∧
        ∀ taken, taken <+: lexed.tokens →
          taken.count (.operator .closeScope) ≤ taken.count (.operator .openScope)) ∧
      ((∀ taken e, taken <+: lexed.tokens → Parser.State.initial.steps taken = .error e →
          e = .unbalancedClose) →
        (parse lexed.tokens = .error .unbalancedClose ↔
          ∃ taken, taken <+: lexed.tokens ∧
            taken.count (.operator .openScope) < taken.count (.operator .closeScope)))) ∧
    ∀ items text tokens, (readCommand items).reading = .command text tokens →
      (∃ lexed, tokenize text = .ok lexed ∧ lexed.tokens = tokens ∧ lexed.inScope = false) ∧
      parse tokens ≠ .error .unbalancedOpen := by
  have hnotOpen : ∀ {text lexed}, tokenize text = .ok lexed → lexed.inScope = false →
      parse lexed.tokens ≠ .error .unbalancedOpen := by
    intro text lexed htokenize hscope hparse
    have hopen := (Lexed.inScope_iff htokenize).2 (Parser.scopeChanges_of_unbalancedOpen hparse)
    exact Bool.false_ne_true (hscope.symm.trans hopen)
  refine ⟨fun text lexed htokenize => ⟨hnotOpen htokenize, ?_, ?_, ?_⟩, ?_⟩
  · intro hscope command hparse
    have hpositive := (Lexed.inScope_iff htokenize).1 hscope
    rw [Parser.scopeChanges_of_parse_ok hparse] at hpositive
    exact absurd hpositive (Int.lt_irrefl 0)
  · intro command hparse
    constructor
    · have hbalance := Parser.scopeChanges_of_parse_ok hparse
      rw [scopeChanges_eq] at hbalance
      omega
    · intro taken hbegins
      obtain ⟨s, hsteps, -⟩ := Parser.exists_of_bind_eq_ok hparse
      have hnonneg := Parser.scopeChanges_prefix_nonneg hsteps hbegins
      rw [scopeChanges_eq] at hnonneg
      omega
  · intro honly
    constructor
    · intro hparse
      obtain ⟨taken, hbegins, hclosed⟩ := Parser.exists_prefix_of_unbalancedClose hparse
      rw [scopeChanges_eq] at hclosed
      exact ⟨taken, hbegins, by omega⟩
    · rintro ⟨taken, hbegins, hmore⟩
      have hclosed : scopeChanges taken < 0 := by
        rw [scopeChanges_eq]
        omega
      exact Parser.parse_unbalancedClose honly hbegins hclosed
  · intro items text tokens hread
    obtain ⟨lexed, htokenize, rfl, hcomplete⟩ := readCommandFrom_command hread
    rw [Lexed.isComplete, Bool.not_eq_true', Bool.or_eq_false_iff] at hcomplete
    exact ⟨⟨lexed, htokenize, rfl, hcomplete.2⟩, hnotOpen htokenize hcomplete.2⟩

/-- The depth of this text falls below zero and comes back, after a separator has made the root a
sequence: no scope is open at its end, and it is refused for the parenthesis that closes none. -/
theorem tokenize_parse_balance_reopened :
    let tokens : List Token := [.word "a", .operator .sequence, .word "b", .operator .closeScope,
      .operator .sequence, .operator .openScope, .word "c"]
    tokenize "a ; b ) ; ( c" = .ok ⟨tokens, false, false, 0⟩ ∧
    (∀ taken e, taken <+: tokens → Parser.State.initial.steps taken = .error e →
      e = .unbalancedClose) ∧
    parse tokens ≠ .error .unbalancedOpen ∧ parse tokens = .error .unbalancedClose := by
  intro tokens
  have htokenize : tokenize "a ; b ) ; ( c" = .ok ⟨tokens, false, false, 0⟩ := by cbv
  have honly : ∀ taken e, taken <+: tokens → Parser.State.initial.steps taken = .error e →
      e = .unbalancedClose := by
    intro taken e hbegins herror
    have htaken : taken ∈ tokens.inits := (List.mem_inits _ _).2 hbegins
    have hall : ∀ taken ∈ tokens.inits, (Parser.State.initial.steps taken).isOk = true ∨
        Parser.State.initial.steps taken = .error .unbalancedClose := by decide
    obtain hok | hclose := hall taken htaken
    · rw [herror] at hok
      cases hok
    · exact Except.error.inj (herror.symm.trans hclose)
  have hbalance := tokenize_parse_balance.1 _ _ htokenize
  exact ⟨htokenize, honly, hbalance.1 rfl, (hbalance.2.2.2 honly).2
    ⟨tokens.take 4, List.take_prefix _ _, by decide⟩⟩

end CommandShell
