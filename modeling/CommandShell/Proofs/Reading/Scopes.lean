import CommandShell.Proofs.Lexing.Lines
import CommandShell.Shell
set_option autoImplicit false

/-!
# Line breaks in scopes

While a scope is open a reader asks for further lines, and a line break separates commands as a
separator does.  Where the tokens so far already ask for a command it separates nothing, so that
blank lines and comments do no harm.  The reader decides this anew with each line, from the tokens
of the whole text so far, among them the separators that it has put in itself.
-/

namespace CommandShell

/-! ## Tokens line by line -/

/-- The tokens after which a line break separates nothing. -/
def commandStarters : List Token :=
  [.operator .sequence, .operator .conjunction, .operator .disjunction, .operator .pipe,
    .operator .openScope]

/-- Tokens that end in a line break: a separator stands for it if it separates anything. -/
def endLine (tokens : List Token) : List Token :=
  if ∃ token ∈ tokens.getLast?, token ∈ commandStarters then tokens
  else tokens ++ [.operator .sequence]

/-- The tokens so far and those of further lines. -/
def joinLines (tokens : List Token) : List (List Token) → List Token
  | [] => tokens
  | line :: lines => joinLines (endLine tokens ++ line) lines

/-- Ending a line that has ended changes nothing. -/
theorem endLine_endLine (tokens : List Token) : endLine (endLine tokens) = endLine tokens := by
  by_cases hlast : ∃ token ∈ tokens.getLast?, token ∈ commandStarters
  · have hend : endLine tokens = tokens := if_pos hlast
    rw [hend, hend]
  · have hend : endLine tokens = tokens ++ [.operator .sequence] := if_neg hlast
    rw [hend]
    exact if_pos ⟨.operator .sequence, List.getLast?_concat .., List.mem_cons_self ..⟩

/-- A line without tokens between others makes no difference. -/
theorem joinLines_blank (tokens : List Token) (before after : List (List Token))
    (next : List Token) :
    joinLines tokens (before ++ [] :: next :: after)
      = joinLines tokens (before ++ next :: after) := by
  induction before generalizing tokens with
  | nil =>
    rw [List.nil_append, List.nil_append, joinLines, joinLines, joinLines, List.append_nil,
      endLine_endLine]
  | cons line before ih =>
    rw [List.cons_append, List.cons_append, joinLines, joinLines, ih]

/-- A line that has tokens by itself, and leaves nothing open but scopes. -/
structure WholeLine where
  text : String
  lexed : Lexed
  tokenize_eq : tokenize text = .ok lexed
  inEscape_eq : lexed.inEscape = false
  inQuote_eq : lexed.inQuote = false

/-- By how much lines change the number of open scopes. -/
def totalDepth : List WholeLine → Int
  | [] => 0
  | line :: lines => line.lexed.depth + totalDepth lines

/-! ## Text that comes first -/

/-- A text that any line may be put behind: its tokens come before those of the line. -/
def Precedes (text : String) (tokens : List Token) (depth : Int) : Prop :=
  ∀ line, tokenize (text ++ line) = (tokenize line).map (Lexed.append ⟨tokens, false, false, depth⟩)

theorem Precedes.empty : Precedes "" [] 0 := by
  intro line
  rw [String.empty_append]
  cases tokenize line with
  | error => rfl
  | ok lexed => simp [Except.map, Lexed.append]

/-- A separator in front of a line is a token in front of those of the line. -/
theorem Precedes.separator : Precedes ";" [.operator .sequence] 0 := by
  intro line
  have hmap := Lexer.tokenizeFrom_eq_map [] 0 line.toList [.operator .sequence] 0
  have hstep : Lexer.tokenizeFrom [] 0 (';' :: line.toList)
      = Lexer.tokenizeFrom [.operator .sequence] 0 line.toList :=
    Lexer.tokenizeFrom_operator [] 0 rfl rfl
  rw [tokenize, show (";" ++ line).toList = ';' :: line.toList by simp, hstep]
  exact hmap

theorem Precedes.append {text text' : String} {tokens tokens' : List Token} {depth depth' : Int}
    (h : Precedes text tokens depth) (h' : Precedes text' tokens' depth') :
    Precedes (text ++ text') (tokens ++ tokens') (depth + depth') := by
  intro line
  rw [String.append_assoc, h, h']
  cases tokenize line with
  | error => rfl
  | ok lexed => simp [Except.map, Lexed.append, Int.add_assoc]

/-- A text that leaves nothing open but scopes may be followed by a further line. -/
theorem Precedes.lineBreak {text : String} {tokens : List Token} {depth : Int}
    (h : tokenize text = .ok ⟨tokens, false, false, depth⟩) :
    Precedes (text ++ "\n") tokens depth := by
  intro line
  rw [tokenize_append_lineBreak h rfl rfl]

/-- A line behind a text that it may be put behind. -/
theorem Precedes.line {text : String} {tokens : List Token} {depth : Int}
    (h : Precedes text tokens depth) (line : WholeLine) :
    tokenize (text ++ line.text)
      = .ok ⟨tokens ++ line.lexed.tokens, false, false, depth + line.lexed.depth⟩ := by
  rw [h, line.tokenize_eq]
  simp only [Except.map, Lexed.append, line.inEscape_eq, line.inQuote_eq]

/-! ## Reading on -/

theorem mem_commandStarters {token : Token} :
    token ∈ commandStarters ↔ token.expectsCommand = true := by
  cases token with
  | word text => simp [Token.expectsCommand, Token.isConnective, commandStarters]
  | operator op => cases op <;> simp [Token.expectsCommand, Token.isConnective, commandStarters]

/-- A separator is put in just where the line break separates something. -/
theorem Precedes.extend {text : String} {tokens : List Token} {depth : Int}
    (h : tokenize text = .ok ⟨tokens, false, false, depth⟩) (hdepth : 0 < depth) :
    ∃ continuation, Lexed.continuation ⟨tokens, false, false, depth⟩ = some continuation ∧
      Precedes (continuation.extend text) (endLine tokens) depth := by
  have hbreak := Precedes.lineBreak h
  have hopen : Lexed.isComplete ⟨tokens, false, false, depth⟩ = false := by
    simp [Lexed.isComplete, Lexed.inScope, hdepth]
  have hstarter : tokens.getLast?.any Token.expectsCommand = true ↔
      ∃ token ∈ tokens.getLast?, token ∈ commandStarters := by
    simp [Option.any_eq_true, mem_commandStarters]
  simp only [Lexed.continuation, hopen, endLine, ← hstarter]
  by_cases hlast : tokens.getLast?.any Token.expectsCommand = true
  · refine ⟨.newline, by simp [hlast], ?_⟩
    rw [if_pos hlast]
    exact hbreak
  · refine ⟨.newlineSequence, by simp [hlast], ?_⟩
    have hseparated := hbreak.append .separator
    rw [Int.add_zero, String.append_assoc] at hseparated
    rw [if_neg hlast]
    exact hseparated

/-- While a scope is open a further line is asked for. -/
theorem Precedes.unfinished {text : String} {tokens : List Token} {depth : Int}
    (h : Precedes text tokens depth) (line : WholeLine) (continued : Bool)
    (hdepth : 0 < depth + line.lexed.depth) :
    ∃ text', Progress.after text continued (some (.line line.text)) = .unfinished text' ∧
      Precedes text' (endLine (tokens ++ line.lexed.tokens)) (depth + line.lexed.depth) := by
  have htokens := h.line line
  obtain ⟨continuation, hcontinuation, hprecedes⟩ := Precedes.extend htokens hdepth
  refine ⟨_, ?_, hprecedes⟩
  simp only [Progress.after, htokens, hcontinuation]

/-- When no scope is open any more the command is complete. -/
theorem Precedes.finished {text : String} {tokens : List Token} {depth : Int}
    (h : Precedes text tokens depth) (line : WholeLine) (continued : Bool)
    (hdepth : depth + line.lexed.depth ≤ 0) :
    Progress.after text continued (some (.line line.text))
      = .finished (.command (text ++ line.text) (tokens ++ line.lexed.tokens)) := by
  have htokens := h.line line
  have hcomplete : Lexed.continuation ⟨tokens ++ line.lexed.tokens, false, false,
      depth + line.lexed.depth⟩ = none := by
    simp [Lexed.continuation, Lexed.isComplete, Lexed.inScope, Int.not_lt.2 hdepth]
  simp only [Progress.after, htokens, hcomplete]

/-- Lines are read up to the first with which no scope is open any more, and they come to the joined
tokens. -/
theorem Precedes.readCommandFrom_lines {text : String} {tokens : List Token} {depth : Int}
    (h : Precedes text tokens depth) (first : WholeLine) (more : List WholeLine) (continued : Bool)
    (hopen : ∀ k < more.length, 0 < depth + totalDepth (first :: more.take k))
    (hclosed : depth + totalDepth (first :: more) ≤ 0) (rest : List SourceItem) :
    ∃ text', readCommandFrom text continued
        ((first :: more).map (fun line => .line line.text) ++ rest)
      = ⟨.command text' (joinLines (tokens ++ first.lexed.tokens)
          (more.map fun line => line.lexed.tokens)), rest⟩ := by
  induction more generalizing text tokens depth first continued with
  | nil =>
    have hdepth : depth + first.lexed.depth ≤ 0 := by simpa [totalDepth] using hclosed
    refine ⟨text ++ first.text, ?_⟩
    rw [List.map_cons, List.cons_append, readCommandFrom, h.finished first continued hdepth]
    rfl
  | cons next more ih =>
    have hdepth : 0 < depth + first.lexed.depth := by
      simpa [totalDepth] using hopen 0 (Nat.zero_lt_succ _)
    obtain ⟨text', hunfinished, hprecedes⟩ := h.unfinished first continued hdepth
    have hopen' : ∀ k < more.length,
        0 < depth + first.lexed.depth + totalDepth (next :: more.take k) := by
      intro k hk
      have hnext := hopen (k + 1) (Nat.succ_lt_succ hk)
      rwa [List.take_succ_cons, totalDepth, ← Int.add_assoc] at hnext
    rw [totalDepth, ← Int.add_assoc] at hclosed
    rw [List.map_cons, List.cons_append, readCommandFrom, hunfinished]
    exact ih hprecedes next true hopen' hclosed

/-- Lines with a scope open between any two of them, and none behind the last, are one command, and
nothing else is read for it.  Its tokens are those of the lines, with a separator for each line
break that separates anything; lines without tokens in between make no difference to it. -/
theorem readCommand_joinLines (first : WholeLine) (more : List WholeLine)
    (hopen : ∀ k < more.length, 0 < totalDepth (first :: more.take k))
    (hclosed : totalDepth (first :: more) ≤ 0) (rest : List SourceItem) :
    (∃ text, readCommand ((first :: more).map (fun line => .line line.text) ++ rest)
      = ⟨.command text (joinLines first.lexed.tokens (more.map fun line => line.lexed.tokens)),
          rest⟩) ∧
    ∀ before blank next after, more = before ++ blank :: next :: after → blank.lexed.tokens = [] →
      joinLines first.lexed.tokens (more.map fun line => line.lexed.tokens)
        = joinLines first.lexed.tokens
            ((before ++ next :: after).map fun line => line.lexed.tokens) := by
  constructor
  · refine Precedes.empty.readCommandFrom_lines first more false ?_ ?_ rest
    · intro k hk
      rw [Int.zero_add]
      exact hopen k hk
    · rwa [Int.zero_add]
  · rintro before blank next after rfl hblank
    simp only [List.map_append, List.map_cons, hblank]
    exact joinLines_blank _ _ _ _

namespace WholeLine

/-- A line that opens a scope, with a parenthesis in a comment. -/
def opening : WholeLine :=
  ⟨"(a # (", ⟨[.operator .openScope, .word "a"], false, false, 1⟩, by cbv, rfl, rfl⟩

/-- A blank line, one that ends in a connective inside a further scope, one that closes that scope,
and one that closes the first. -/
def closing : List WholeLine := [
  ⟨" ", ⟨[], false, false, 0⟩, by cbv, rfl, rfl⟩,
  ⟨"(b &&", ⟨[.operator .openScope, .word "b", .operator .conjunction], false, false, 1⟩,
    by cbv, rfl, rfl⟩,
  ⟨"\"c\")", ⟨[.word "c", .operator .closeScope], false, false, -1⟩, by cbv, rfl, rfl⟩,
  ⟨"d)", ⟨[.word "d", .operator .closeScope], false, false, -1⟩, by cbv, rfl, rfl⟩]

end WholeLine

theorem readCommand_joinLines_nested :
    (∀ k < WholeLine.closing.length,
      0 < totalDepth (WholeLine.opening :: WholeLine.closing.take k)) ∧
    totalDepth (WholeLine.opening :: WholeLine.closing) ≤ 0 ∧
    ∃ text, readCommand [.line "(a # (", .line " ", .line "(b &&", .line "\"c\")", .line "d)",
        .line "e"]
      = ⟨.command text [.operator .openScope, .word "a", .operator .sequence,
          .operator .openScope, .word "b", .operator .conjunction, .word "c",
          .operator .closeScope, .operator .sequence, .word "d", .operator .closeScope],
          [.line "e"]⟩ := by
  have hopen : ∀ k < WholeLine.closing.length,
      0 < totalDepth (WholeLine.opening :: WholeLine.closing.take k) := by decide
  have hclosed : totalDepth (WholeLine.opening :: WholeLine.closing) ≤ 0 := by decide
  exact ⟨hopen, hclosed, (readCommand_joinLines _ _ hopen hclosed [.line "e"]).1⟩

end CommandShell
