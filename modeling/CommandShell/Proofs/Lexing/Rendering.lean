import CommandShell.Proofs.Lexing.Scanner
import Mathlib.Data.List.Chain
set_option autoImplicit false

/-!
# Writing tokens out

A list of tokens is written out with every word between quotes and with any blanks and comments
around the tokens, where only tokens that would run together have to be kept apart.  However that is
done, the tokens can be read back.
-/

namespace CommandShell

/-! ## Written tokens -/

/-- A word as it is written: between quotes, with a backslash before each quote and each
backslash. -/
def quotedWord (characters : List Char) : List Char :=
  '"' :: characters.flatMap (fun c => if c = '"' ∨ c = '\\' then ['\\', c] else [c]) ++ ['"']

/-- A token as it is written. -/
def Token.written : Token → List Char
  | word text => quotedWord text.toList
  | operator op => op.text.toList

/-- By how much a token changes the number of open scopes. -/
def Token.scopeChange : Token → Int
  | word _ => 0
  | operator op => op.scopeChange

/-- By how much the tokens of a list change it together. -/
def scopeChanges : List Token → Int
  | [] => 0
  | token :: tokens => token.scopeChange + scopeChanges tokens

/-- The second token may not be written right after the first. -/
def Token.clings : Token → Token → Bool
  | word _, word _ => true
  | operator .pipe, operator .pipe | operator .pipe, operator .disjunction => true
  | operator .outputRedirect, operator .outputRedirect
  | operator .outputRedirect, operator .appendRedirect => true
  | _, _ => false

/-- A part of what separates tokens. -/
inductive Spacer where
  | blank (c : Char) (h : Text.isBlank c = true)
  | comment (text : List Char) (h : '\n' ∉ text)

/-- The text of a part of a separator. -/
def Spacer.text : Spacer → List Char
  | blank c _ => [c]
  | comment text _ => '#' :: text ++ ['\n']

/-- What stands before, between and after tokens. -/
abbrev Separator := List Spacer

/-- The text of a separator. -/
def Separator.text (separator : Separator) : List Char := separator.flatMap Spacer.text

/-- Tokens, each with the separator after it. -/
abbrev Layout := List (Token × Separator)

namespace Layout

/-- The tokens. -/
def tokens (layout : Layout) : List Token := layout.map Prod.fst

/-- The text of the tokens and separators. -/
def text (layout : Layout) : List Char :=
  layout.flatMap fun piece => piece.1.written ++ Separator.text piece.2

/-- Tokens that would run together are kept apart. -/
def Spaced (layout : Layout) : Prop :=
  layout.IsChain fun piece next => piece.1.clings next.1 = true → piece.2 ≠ []

end Layout

/-! ## Reading back -/

namespace Scanner

variable (tokens : List Token) (depth : Int)

theorem run_comment {text : List Char} (h : '\n' ∉ text) :
    (standing tokens depth .comment).run (text ++ ['\n']) = standing tokens depth .between := by
  induction text with
  | nil => rfl
  | cons c text ih =>
    obtain ⟨hc, htext⟩ := not_or.1 (mt List.mem_cons.2 h)
    have hstep : (standing tokens depth .comment).step c = standing tokens depth .comment := by
      simp [standing, step, Ne.symm hc]
    rw [List.cons_append, run_cons, hstep, ih htext]

theorem scan_separator (separator : Separator) (cs : List Char) :
    (standing tokens depth .between).scan (separator.text ++ cs)
      = (standing tokens depth .between).scan cs := by
  induction separator with
  | nil => rfl
  | cons spacer separator ih =>
    have hspacer : (standing tokens depth .between).run spacer.text
        = standing tokens depth .between := by
      cases spacer with
      | blank c h => exact begin_blank _ h
      | comment text h => exact run_comment tokens depth h
    rw [Separator.text, List.flatMap_cons, List.append_assoc, scan_append, hspacer]
    exact ih

/-- Between quotes each character of a written word is read as itself. -/
theorem run_quoted (word characters : List Char) :
    (standing tokens depth (.quote word)).run
        (characters.flatMap fun c => if c = '"' ∨ c = '\\' then ['\\', c] else [c])
      = standing tokens depth (.quote (characters.reverse ++ word)) := by
  induction characters generalizing word with
  | nil => rfl
  | cons c characters ih =>
    have hstep : (standing tokens depth (.quote word)).run
        (if c = '"' ∨ c = '\\' then ['\\', c] else [c])
          = standing tokens depth (.quote (c :: word)) := by
      by_cases hquote : c = '"'
      · subst hquote
        rfl
      by_cases hbackslash : c = '\\'
      · subst hbackslash
        rfl
      rw [if_neg (not_or.2 ⟨hquote, hbackslash⟩)]
      simp [standing, step, Place.inQuote, hquote, hbackslash]
    rw [List.flatMap_cons, run_append, hstep, ih, List.reverse_cons, List.append_assoc]
    rfl

theorem run_quotedWord (characters : List Char) :
    (standing tokens depth .between).run (quotedWord characters)
      = standing tokens depth (.word characters.reverse) := by
  have hbegin : (standing tokens depth .between).step '"' = standing tokens depth (.quote []) := rfl
  rw [quotedWord, List.cons_append, run_cons, hbegin, run_append, run_quoted, List.append_nil]
  rfl

/-- A character goes on with a token that has been written. -/
def Lengthens (c : Char) : Token → Prop
  | .word _ => c = '"' ∨ Lexer.isDirect false c = true
  | .operator .pipe => c = '|'
  | .operator .outputRedirect => c = '>'
  | .operator _ => False

theorem read?_text (op : Operator) {cs : List Char}
    (h : ∀ c rest, cs = c :: rest → ¬ Lengthens c (.operator op)) :
    Operator.read? (op.text.toList ++ cs) = some (op, cs) := by
  cases op with
  | pipe =>
    show Operator.read? ('|' :: cs) = _
    unfold Operator.read?
    split <;> simp_all [Lengthens]
  | outputRedirect =>
    show Operator.read? ('>' :: cs) = _
    unfold Operator.read?
    split <;> simp_all [Lengthens]
  | _ => rfl

/-- A written token is read back when nothing goes on with it. -/
theorem scan_written (token : Token) {cs : List Char}
    (h : ∀ c rest, cs = c :: rest → ¬ Lengthens c token) :
    (standing tokens depth .between).scan (token.written ++ cs)
      = (standing (token :: tokens) (depth + token.scopeChange) .between).scan cs := by
  cases token with
  | word text =>
    have hcut : (standing tokens depth (.word text.toList.reverse)).cut
        = standing (.word text :: tokens) (depth + 0) .between := by
      simp [cut, standing, emit]
    rw [Token.written, scan_append, run_quotedWord, Token.scopeChange, ← hcut]
    refine scan_eq_scan_cut rfl fun c rest heq => ?_
    obtain ⟨hquote, hdirect⟩ := not_or.1 (h c rest heq)
    simp only [standing, step, lengthen_eq_none _ hquote (Bool.eq_false_iff.2 hdirect)]
  | operator op => exact scan_operator tokens depth (read?_text op h)

/-! ## Layouts -/

/-- What goes on with a token is no blank and begins no comment. -/
theorem Lengthens.not_spacer {c : Char} {token : Token} (h : Lengthens c token) :
    Text.isBlank c = false ∧ c ≠ '#' := by
  cases token with
  | word text =>
    rcases h with rfl | hdirect
    · exact ⟨rfl, by simp⟩
    · constructor
      · simp_all [Lexer.isDirect]
      · rintro rfl
        cases hdirect
  | operator op =>
    cases op <;> cases h <;> exact ⟨rfl, by simp⟩

/-- A separator ends every token. -/
theorem not_lengthens_separator (token : Token) {separator : Separator} (h : separator ≠ [])
    {c : Char} {rest cs : List Char} (hcs : separator.text ++ cs = c :: rest) :
    ¬ Lengthens c token := by
  intro hlengthens
  obtain ⟨hblank, hhash⟩ := hlengthens.not_spacer
  cases separator with
  | nil => exact h rfl
  | cons spacer separator =>
    cases spacer with
    | blank c' hc' =>
      cases hcs
      cases hblank.symm.trans hc'
    | comment text htext =>
      cases hcs
      exact hhash rfl

/-- The character that an operator begins with. -/
theorem exists_text_eq_cons (op : Operator) : ∃ c rest, op.text.toList = c :: rest ∧
    (c = '|' → op = .pipe ∨ op = .disjunction) ∧
    (c = '>' → op = .outputRedirect ∨ op = .appendRedirect) ∧
    c ≠ '"' ∧ Lexer.isDirect false c = false := by
  cases op <;> exact ⟨_, _, rfl, by decide⟩

/-- A token ends another one that it does not cling to. -/
theorem not_lengthens_written {token next : Token} (h : token.clings next = false) {c : Char}
    {rest cs : List Char} (hcs : next.written ++ cs = c :: rest) : ¬ Lengthens c token := by
  cases next with
  | word text =>
    cases hcs
    cases token with
    | word text' => cases h
    | operator op => cases op <;> nofun
  | operator next =>
    obtain ⟨first, tail, htext, hbar, hgreater, hquote, hdirect⟩ := exists_text_eq_cons next
    rw [Token.written, htext] at hcs
    cases hcs
    cases token with
    | word text => exact not_or.2 ⟨hquote, Bool.eq_false_iff.1 hdirect⟩
    | operator op =>
      cases op with
      | pipe => exact fun hc => by rcases hbar hc with rfl | rfl <;> cases h
      | outputRedirect => exact fun hc => by rcases hgreater hc with rfl | rfl <;> cases h
      | _ => nofun

theorem scan_layout {layout : Layout} (h : layout.Spaced) :
    (standing tokens depth .between).scan layout.text
      = standing (layout.tokens.reverse ++ tokens) (depth + scopeChanges layout.tokens)
        .between := by
  induction layout generalizing tokens depth with
  | nil => simp [Layout.text, Layout.tokens, scopeChanges, scan, cut, standing]
  | cons piece layout ih =>
    obtain ⟨token, separator⟩ := piece
    have hends : ∀ c rest, separator.text ++ Layout.text layout = c :: rest →
        ¬ Lengthens c token := by
      intro c rest hcs
      by_cases hseparator : separator = []
      · subst hseparator
        cases layout with
        | nil => cases hcs
        | cons next layout =>
          have hclings : token.clings next.1 = false :=
            Bool.eq_false_iff.2 fun hclings => (List.isChain_cons_cons.1 h).1 hclings rfl
          have hnext : next.1.written ++ (next.2.text ++ Layout.text layout) = c :: rest := by
            rw [← hcs, ← List.append_assoc]
            rfl
          exact not_lengthens_written hclings hnext
      · exact not_lengthens_separator token hseparator hcs
    have htext : Layout.text ((token, separator) :: layout)
        = token.written ++ (separator.text ++ Layout.text layout) := by
      simp [Layout.text]
    rw [htext, scan_written tokens depth token hends, scan_separator, ih _ _ h.tail]
    simp [Layout.tokens, scopeChanges, Int.add_assoc]

end Scanner

/-- Each opening parenthesis opens a scope and each closing one closes a scope. -/
theorem scopeChanges_eq (tokens : List Token) :
    scopeChanges tokens
      = tokens.count (.operator .openScope) - tokens.count (.operator .closeScope) := by
  induction tokens with
  | nil => rfl
  | cons token tokens ih =>
    rw [scopeChanges, ih, List.count_cons, List.count_cons]
    cases token with
    | word text => simp [Token.scopeChange]
    | operator op => cases op <;> simp [Token.scopeChange, Operator.scopeChange] <;> omega

/-- Tokens that are written out, with anything between them that keeps them apart, are read back,
and nothing is left open but the scopes that the tokens themselves leave open. -/
theorem tokenize_layout (before : Separator) {layout : Layout} (h : layout.Spaced) :
    ∃ lexed, tokenize (String.ofList (before.text ++ layout.text)) = .ok lexed ∧
      lexed.tokens = layout.tokens ∧ lexed.inEscape = false ∧ lexed.inQuote = false ∧
      (lexed.inScope = true ↔
        layout.tokens.count (.operator .closeScope) < layout.tokens.count (.operator .openScope))
      := by
  have hagrees := Scanner.tokenizeFrom_agrees [] 0 (before.text ++ layout.text)
  rw [Scanner.scan_separator, Scanner.scan_layout [] 0 h, scopeChanges_eq] at hagrees
  rw [tokenize, String.toList_ofList]
  cases hresult : Lexer.tokenizeFrom [] 0 (before.text ++ layout.text) with
  | error e =>
    rw [hresult] at hagrees
    cases hagrees.2
  | ok lexed =>
    rw [hresult] at hagrees
    obtain ⟨-, hquote, hescape, hdepth, htokens⟩ := hagrees
    have hnormal : ScanMode.normal ≠ .quote := by decide
    refine ⟨lexed, rfl, ?_, hescape, hquote, ?_⟩
    · simpa [Scanner.standing] using htokens hnormal rfl
    · rw [Lexed.inScope, hdepth, decide_eq_true_iff]
      simp only [Scanner.standing]
      omega

/-- Words made of what would end a word, and operators that are only just kept apart. -/
def Layout.crowded : Layout := [
  (.operator .openScope, []),
  (.word "", []),
  (.operator .sequence, []),
  (.word "#;", [.comment ['"'] (by decide)]),
  (.word "\"\\", []),
  (.operator .pipe, [.blank ' ' rfl]),
  (.operator .disjunction, []),
  (.operator .pipe, []),
  (.operator .appendRedirect, []),
  (.operator .outputRedirect, [.comment [] (by decide)]),
  (.operator .outputRedirect, [])]

theorem tokenize_layout_crowded :
    Layout.crowded.Spaced ∧
    ∃ lexed, tokenize (String.ofList (Separator.text [.comment ['('] (by decide)]
          ++ Layout.crowded.text)) = .ok lexed ∧
      lexed.tokens = Layout.crowded.tokens ∧ lexed.inEscape = false ∧ lexed.inQuote = false ∧
      (lexed.inScope = true ↔ Layout.crowded.tokens.count (.operator .closeScope)
        < Layout.crowded.tokens.count (.operator .openScope)) := by
  have hspaced : Layout.crowded.Spaced := by
    simp [Layout.crowded, Layout.Spaced, Token.clings]
  exact ⟨hspaced, tokenize_layout [.comment ['('] (by decide)] hspaced⟩

end CommandShell
