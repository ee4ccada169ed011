import CommandShell.Proofs.Lexing.Rendering
import CommandShell.Proofs.Parsing.Grammar
import Mathlib
set_option autoImplicit false

/-!
# Writing commands out

A command is written with the words of its simple commands between quotes, sequences between
parentheses with separators inside, connectives between their operands and redirections behind
theirs.  Not every tree can be read back: the first operand of a connective is no connective, what
is redirected is none either, and no program has the name of a builtin.  The trees that meet this
are just those that the parser gives, and each of them, unless it is too high, is what its written
form is read as.
-/

namespace CommandShell

/-! ## Written commands -/

/-- The words of a builtin. -/
def Builtin.words : Builtin → List String
  | exit arguments => "exit" :: arguments
  | test false arguments => "test" :: arguments
  | test true arguments => "[" :: arguments

namespace Command

/-- The tokens that a command is written with. -/
def tokens : Command → List Token
  | executable program arguments => (program :: arguments).map .word
  | builtin action => action.words.map .word
  | sequential commands =>
    .operator .openScope :: (separated commands ++ [.operator .closeScope])
  | binary connective primary secondary =>
    primary.tokens ++ .operator connective.operator :: secondary.tokens
  | redirection redirect primary path =>
    primary.tokens ++ [.operator redirect.operator, .word path]
where
  /-- The tokens of commands with separators between them. -/
  separated : List Command → List Token
    | [] => []
    | [command] => command.tokens
    | command :: next :: rest => command.tokens ++ .operator .sequence :: separated (next :: rest)

theorem isBlank_space : Text.isBlank ' ' = true := rfl

/-- The tokens of a command, each with a space behind it. -/
def layout (command : Command) : Layout :=
  command.tokens.map fun token => (token, [.blank ' ' isBlank_space])

/-- A command as it is written. -/
def written (command : Command) : String := String.ofList command.layout.text

mutual

/-- A command that can be redirected and that a connective can have for its first operand. -/
inductive IsOperand : Command → Prop where
  | executable {program : String} (arguments : List String) :
    program ≠ "exit" → program ≠ "test" → program ≠ "[" →
    IsOperand (.executable program arguments)
  | builtin (action : Builtin) : IsOperand (.builtin action)
  | sequential {commands : List Command} :
    commands ≠ [] → (∀ command ∈ commands, IsNormal command) → IsOperand (.sequential commands)
  | redirection {command : Command} (redirect : Redirect) (path : String) :
    IsOperand command → IsOperand (.redirection redirect command path)

/-- A command in normal form: operands joined by connectives that nest to the right. -/
inductive IsNormal : Command → Prop where
  | operand {command : Command} : IsOperand command → IsNormal command
  | joined {primary secondary : Command} (connective : Connective) :
    IsOperand primary → IsNormal secondary → IsNormal (.binary connective primary secondary)

end

end Command

/-! ## What the grammar gives -/

theorem Command.isOperand_ofWords (program : String) (arguments : List String) :
    (Command.ofWords program arguments).IsOperand := by
  unfold Command.ofWords
  split
  · exact .builtin _
  · split
    · exact .builtin _
    · split
      · exact .builtin _
      · exact .executable arguments ‹_› ‹_› ‹_›

namespace Grammar

mutual

theorem Base.isOperand {tokens : List Token} {command : Command} :
    Base tokens command → command.IsOperand
  | .words program arguments => Command.isOperand_ofWords program arguments
  | .scope hitems hsome => .sequential hsome fun command hmem => by
    obtain ⟨_, hmem, rfl⟩ := List.mem_filterMap.1 hmem
    exact hitems.isNormal command hmem

theorem Operand.isOperand {tokens : List Token} {command : Command} :
    Operand tokens command → command.IsOperand
  | .base hbase => hbase.isOperand
  | .redirected redirect path hoperand => .redirection redirect path hoperand.isOperand

theorem Chain.isNormal {tokens : List Token} {command : Command} :
    Chain tokens command → command.IsNormal
  | .operand hoperand => .operand hoperand.isOperand
  | .joined connective hprimary hsecondary =>
    .joined connective hprimary.isOperand hsecondary.isNormal

theorem Item.isNormal {tokens : List Token} {item : Option Command} :
    Item tokens item → ∀ command, item = some command → command.IsNormal
  | .nothing, _, h => nomatch h
  | .chain hchain, _, rfl => hchain.isNormal

theorem Items.isNormal {tokens : List Token} {items : List (Option Command)} :
    Items tokens items → ∀ command, some command ∈ items → command.IsNormal
  | .last hitem, command, hmem => hitem.isNormal command (List.mem_singleton.1 hmem).symm
  | .cons hitem hitems, command, hmem =>
    (List.mem_cons.1 hmem).elim (fun heq => hitem.isNormal command heq.symm)
      (hitems.isNormal command)

end

/-- The command of a line is in normal form. -/
theorem Line.isNormal {tokens : List Token} {command : Command} (h : Line tokens (some command)) :
    command.IsNormal := by
  generalize hcommand : some command = item at h
  cases h with
  | item hitem => exact hitem.isNormal command hcommand.symm
  | sequence hitems hlength =>
    unfold sequenceOf at hcommand
    split at hcommand
    · cases hcommand
    · rename_i hsome
      obtain rfl := Option.some.inj hcommand
      refine .operand (.sequential (fun hnil => hsome hnil) fun command hmem => ?_)
      obtain ⟨_, hmem, rfl⟩ := List.mem_filterMap.1 hmem
      exact hitems.isNormal command hmem

/-! ## What the grammar takes -/

/-- Chains with separators between them are items, none of which is empty. -/
theorem items_separated {commands : List Command} (hsome : commands ≠ [])
    (h : ∀ command ∈ commands, Chain command.tokens command) :
    Items (Command.tokens.separated commands) (commands.map some) := by
  induction commands with
  | nil => exact absurd rfl hsome
  | cons command rest ih =>
    have hfirst : Item command.tokens (some command) := .chain (h command (List.mem_cons_self ..))
    cases rest with
    | nil => exact .last hfirst
    | cons next rest =>
      exact .cons hfirst (ih (List.cons_ne_nil _ _) fun command' hmem =>
        h command' (List.mem_cons_of_mem _ hmem))

mutual

/-- The tokens of an operand are an operand that stands for it. -/
theorem operand_tokens {command : Command} : command.IsOperand → Operand command.tokens command
  | @Command.IsOperand.executable program arguments hexit htest hbracket => by
    have hwords : Command.ofWords program arguments = .executable program arguments := by
      rw [Command.ofWords, if_neg hexit, if_neg htest, if_neg hbracket]
    have hbase := Base.words program arguments
    rw [hwords] at hbase
    exact .base hbase
  | .builtin action => by
    cases action with
    | exit arguments => exact .base (.words "exit" arguments)
    | test bracket arguments =>
      cases bracket with
      | false => exact .base (.words "test" arguments)
      | true => exact .base (.words "[" arguments)
  | @Command.IsOperand.sequential commands hsome hnormal => by
    have hitems := items_separated hsome fun command hmem => chain_tokens (hnormal command hmem)
    have hcommands : (commands.map some).filterMap id = commands := by simp
    have hbase := Base.scope hitems (hcommands.symm ▸ hsome)
    rw [hcommands] at hbase
    exact .base hbase
  | .redirection redirect path hoperand => .redirected redirect path (operand_tokens hoperand)

theorem chain_tokens {command : Command} : command.IsNormal → Chain command.tokens command
  | .operand hoperand => .operand (operand_tokens hoperand)
  | .joined connective hprimary hsecondary =>
    .joined connective (operand_tokens hprimary) (chain_tokens hsecondary)

end

end Grammar

/-! ## Reading back -/

namespace Scanner

/-- A scanner that ends between two tokens has found the tokens of the text. -/
theorem tokenizeFrom_eq_ok {cs : List Char} {tokens : List Token} {depth : Int}
    (h : Scanner.scan {} cs = standing tokens depth .between) :
    Lexer.tokenizeFrom [] 0 cs = .ok ⟨tokens.reverse, false, false, depth⟩ := by
  have hagrees := tokenizeFrom_agrees [] 0 cs
  change Agrees _ (Scanner.scan {} cs) at hagrees
  rw [h] at hagrees
  cases hresult : Lexer.tokenizeFrom [] 0 cs with
  | error e =>
    rw [hresult] at hagrees
    cases hagrees.2
  | ok lexed =>
    rw [hresult] at hagrees
    obtain ⟨-, hquote, hescape, hdepth, htokens⟩ := hagrees
    have hnormal : ScanMode.normal ≠ .quote := by decide
    obtain ⟨tokens', inEscape, inQuote, depth'⟩ := lexed
    simp only at hquote hescape hdepth htokens
    rw [htokens hnormal rfl, hquote, hescape, hdepth]
    rfl

end Scanner

/-- The tokens of a layout are read back. -/
theorem Layout.Spaced.tokenizeFrom_eq (before : Separator) {layout : Layout} (h : layout.Spaced) :
    Lexer.tokenizeFrom [] 0 (before.text ++ layout.text)
      = .ok ⟨layout.tokens, false, false, scopeChanges layout.tokens⟩ := by
  have hscan := (Scanner.scan_separator [] 0 before layout.text).trans (Scanner.scan_layout [] 0 h)
  rw [List.append_nil, Int.zero_add] at hscan
  have htokens := Scanner.tokenizeFrom_eq_ok hscan
  rwa [List.reverse_reverse] at htokens

/-! ## Balance -/

theorem scopeChanges_append (tokens tokens' : List Token) :
    scopeChanges (tokens ++ tokens') = scopeChanges tokens + scopeChanges tokens' := by
  induction tokens with
  | nil => simp [scopeChanges]
  | cons token tokens ih => rw [List.cons_append, scopeChanges, scopeChanges, ih, Int.add_assoc]

theorem scopeChanges_words (words : List String) : scopeChanges (words.map .word) = 0 := by
  induction words with
  | nil => rfl
  | cons word words ih =>
    rw [List.map_cons, scopeChanges, ih]
    rfl

theorem Connective.scopeChange_operator (connective : Connective) :
    connective.operator.scopeChange = 0 := by
  cases connective <;> rfl

theorem Redirect.scopeChange_operator (redirect : Redirect) :
    redirect.operator.scopeChange = 0 := by
  cases redirect <;> rfl

namespace Command

mutual

/-- A written command closes each scope that it opens. -/
theorem scopeChanges_tokens : ∀ command : Command, scopeChanges command.tokens = 0
  | executable program arguments => scopeChanges_words (program :: arguments)
  | builtin action => scopeChanges_words action.words
  | sequential commands => by
    simp [tokens, scopeChanges, scopeChanges_append, scopeChanges_separated commands,
      Token.scopeChange, Operator.scopeChange]
  | binary connective primary secondary => by
    simp [tokens, scopeChanges, scopeChanges_append, scopeChanges_tokens primary,
      scopeChanges_tokens secondary, Token.scopeChange, connective.scopeChange_operator]
  | redirection redirect primary path => by
    simp [tokens, scopeChanges, scopeChanges_append, scopeChanges_tokens primary,
      Token.scopeChange, redirect.scopeChange_operator]

theorem scopeChanges_separated : ∀ commands : List Command,
    scopeChanges (tokens.separated commands) = 0
  | [] => rfl
  | [command] => scopeChanges_tokens command
  | command :: next :: rest => by
    simp [tokens.separated, scopeChanges, scopeChanges_append, scopeChanges_tokens command,
      scopeChanges_separated (next :: rest), Token.scopeChange, Operator.scopeChange]

end

/-! ## Commands in normal form -/

theorem tokens_layout (command : Command) : command.layout.tokens = command.tokens := by
  rw [layout, Layout.tokens, List.map_map]
  exact List.map_id _

/-- With a blank behind each token none can run together with the next one. -/
theorem spaced_layout (command : Command) : command.layout.Spaced := by
  have hblank : ∀ piece ∈ command.layout, piece.2 ≠ [] := by
    intro piece hpiece
    obtain ⟨token, -, rfl⟩ := List.mem_map.1 hpiece
    exact List.cons_ne_nil _ _
  have hpairwise : command.layout.Pairwise fun piece next =>
      piece.1.clings next.1 = true → piece.2 ≠ [] :=
    List.pairwise_of_forall_mem_list fun piece hpiece _ _ _ => hblank piece hpiece
  exact hpairwise.isChain

/-- The tokens of a written command are those of the command, and nothing is left open. -/
theorem tokenize_written (command : Command) :
    tokenize command.written = .ok ⟨command.tokens, false, false, 0⟩ := by
  have htokens := command.spaced_layout.tokenizeFrom_eq []
  rw [tokens_layout, scopeChanges_tokens] at htokens
  rw [tokenize, written, String.toList_ofList]
  exact htokens

/-- A command in normal form that is not too high is what its tokens are parsed to. -/
theorem IsNormal.parse_tokens {command : Command} (h : command.IsNormal)
    (hheight : command.height ≤ Parser.maxDepth) : parse command.tokens = .ok (some command) := by
  obtain ⟨depth, hparse, -, hdepth⟩ := Parser.parse_line (.item (.chain (Grammar.chain_tokens h)))
  rw [hparse, hdepth command rfl, if_neg (Nat.not_lt_of_le hheight)]

end Command

/-- What a text is parsed to is a command in normal form that is not too high; and every such
command, written out, is complete and is parsed to just this command. -/
theorem parse_written :
    (∀ text lexed command, tokenize text = .ok lexed → parse lexed.tokens = .ok (some command) →
      command.IsNormal ∧ command.height ≤ 1000) ∧
    ∀ command : Command, command.IsNormal → command.height ≤ 1000 →
      ∃ lexed, tokenize command.written = .ok lexed ∧ lexed.isComplete = true ∧
        parse lexed.tokens = .ok (some command) := by
  constructor
  · intro text lexed command _ hparse
    obtain ⟨hline, hheight⟩ := Parser.line_of_parse hparse
    exact ⟨hline.isNormal, hheight command rfl⟩
  · intro command hnormal hheight
    exact ⟨_, command.tokenize_written, rfl, hnormal.parse_tokens hheight⟩

/-- A scope that holds a builtin and an operator for a word, redirected twice and joined. -/
def Command.nested : Command :=
  .binary .pipe
    (.redirection .append
      (.redirection .input
        (.sequential [
          .executable "\"|" [";", ""],
          .binary .conjunction (.builtin (.test true ["\\"])) (.builtin (.exit []))])
        "in")
      "out")
    (.executable "sort" [])

theorem parse_written_nested :
    Command.nested.IsNormal ∧ Command.nested.height ≤ 1000 ∧
    (∃ lexed, tokenize Command.nested.written = .ok lexed ∧ lexed.isComplete = true ∧
      parse lexed.tokens = .ok (some Command.nested)) ∧
    ∃ lexed, tokenize "a; (b)" = .ok lexed ∧
      parse lexed.tokens = .ok (some (.sequential [.executable "a" [],
        .sequential [.executable "b" []]])) ∧
      (Command.sequential [.executable "a" [], .sequential [.executable "b" []]]).IsNormal := by
  have hnormal : Command.nested.IsNormal := by
    refine .joined .pipe (.redirection .append _ (.redirection .input _
      (.sequential (List.cons_ne_nil _ _) ?_)))
      (.operand (.executable [] (by decide) (by decide) (by decide)))
    intro command hmem
    rcases List.mem_pair.1 hmem with rfl | rfl
    · exact .operand (.executable _ (by decide) (by decide) (by decide))
    · exact .joined .conjunction (.builtin _) (.operand (.builtin _))
  have hheight : Command.nested.height ≤ 1000 := by decide
  have htokens : tokenize "a; (b)" = .ok ⟨[.word "a", .operator .sequence, .operator .openScope,
      .word "b", .operator .closeScope], false, false, 0⟩ := by cbv
  have hparse : parse [.word "a", .operator .sequence, .operator .openScope, .word "b",
      .operator .closeScope] = .ok (some (.sequential [.executable "a" [],
        .sequential [.executable "b" []]])) := by cbv
  exact ⟨hnormal, hheight, parse_written.2 _ hnormal hheight, _, htokens, hparse,
    (parse_written.1 _ _ _ htokens hparse).1⟩

end CommandShell
